import StreamAudit.Log

/-!
# Trees of files

The files and directories of a machine stand in one tree below a root. A path is
walked name by name and the first step that fails decides. The walk begins at the
root if the path begins with a slash, and in the working directory if not. Every
directory can be entered and every file read: there are no permissions here, and
no links.
-/

namespace StreamAudit

abbrev FileName := List UInt8

inductive FileTree where
  | file (content : List UInt8)
  | directory (children : List (FileName × FileTree))

/-- What an opened path gives when it is read: all its bytes, or an error before the
first of them. A directory can be opened, and the error comes with reading it. Reading
that fails further on is left out. -/
inductive Source where
  | content (bytes : List UInt8)
  | unreadable (error : SystemError)
  deriving DecidableEq, Repr

/-- Why a path cannot be opened. -/
inductive OpenError where
  | nulByte
  | system (error : SystemError)
  deriving DecidableEq, Repr

def OpenError.message : OpenError → String
  | .nulByte => "file name contained an unexpected NUL byte"
  | .system error => error.message

namespace SystemError

def notFound : SystemError := ⟨"No such file or directory", 2⟩

def notDirectory : SystemError := ⟨"Not a directory", 20⟩

def isDirectory : SystemError := ⟨"Is a directory", 21⟩

def nameTooLong : SystemError := ⟨"File name too long", 36⟩

end SystemError

namespace FileTree

def slash : UInt8 := 0x2F

def here : FileName := [0x2E]

def above : FileName := [0x2E, 0x2E]

/-- The longest name that the system allows, in bytes. -/
def longestName : Nat := 255

/-- The longest path that the system allows, in bytes. -/
def longestPath : Nat := 4095

/-- The names in a path; there is an empty one at each end where a slash is and
between two slashes. -/
def names : List UInt8 → List FileName
  | [] => [[]]
  | b :: rest =>
    if b = slash then [] :: names rest
    else
      match names rest with
      | [] => [[b]]
      | name :: more => (b :: name) :: more

/-- What a directory holds, by name; a file holds nothing. -/
def children : FileTree → List (FileName × FileTree)
  | .file _ => []
  | .directory children => children

/-- What has a name at the end of a trail. -/
def child? (trail : List FileTree) (name : FileName) : Option FileTree :=
  match trail with
  | [] => none
  | tree :: _ => tree.children.lookup name

def atFile : List FileTree → Bool
  | .file _ :: _ => true
  | _ => false

/-- The trail one directory up. The root stands above itself. -/
def parent : List FileTree → List FileTree
  | _ :: tree :: rest => tree :: rest
  | trail => trail

/-- Walks a row of names. The trail leads from where the walk is back to the
root. -/
def walk (trail : List FileTree) : List FileName → Except SystemError (List FileTree)
  | [] => .ok trail
  | name :: rest =>
    if atFile trail then .error .notDirectory
    else if name = [] ∨ name = here then walk trail rest
    else if name = above then walk (parent trail) rest
    else if longestName < name.length then .error .nameTooLong
    else
      match child? trail name with
      | none => .error .notFound
      | some tree => walk (tree :: trail) rest

def sourceAt : List FileTree → Source
  | .file content :: _ => .content content
  | _ => .unreadable .isDirectory

/-- The tree with a change made at the end of a row of names. Directories that
the row needs and that are not there are made. -/
def alter (change : FileTree → FileTree) (tree : FileTree) : List FileName → FileTree
  | [] => change tree
  | name :: rest =>
    let below := (tree.children.lookup name).getD (.directory [])
    .directory ((name, below.alter change rest) :: tree.children.filter (·.1 ≠ name))

/-- The tree with a file at the end of a row of names. -/
def placeFile (tree : FileTree) (content : List UInt8) (path : List FileName) : FileTree :=
  tree.alter (fun _ => .file content) path

/-- The tree with a directory at the end of a row of names. -/
def makeDirectory (tree : FileTree) (path : List FileName) : FileTree :=
  tree.alter id path

end FileTree

/-- The files of a machine, as a program finds them that runs in the working
directory. -/
structure FileSystem where
  root : FileTree
  workingDirectory : List FileName

namespace FileSystem

open FileTree (names slash)

/-- The names from the root to what a path is about. -/
def route (files : FileSystem) (path : List UInt8) : List FileName :=
  if path.head? = some slash then names path else files.workingDirectory ++ names path

/-- Opens a path. -/
def source (files : FileSystem) (path : List UInt8) : Except OpenError Source :=
  if 0 ∈ path then .error .nulByte
  else if path = [] then .error (.system .notFound)
  else if FileTree.longestPath < path.length then .error (.system .nameTooLong)
  else
    match FileTree.walk [files.root] (files.route path) with
    | .error error => .error (.system error)
    | .ok trail => .ok (FileTree.sourceAt trail)

end FileSystem

/-- The tree as a working directory that nothing else is known of. It stands in the
root by itself, under a name that no path spells. -/
def FileTree.alone (tree : FileTree) : FileSystem where
  root := .directory [([FileTree.slash], tree)]
  workingDirectory := [[FileTree.slash]]

end StreamAudit
