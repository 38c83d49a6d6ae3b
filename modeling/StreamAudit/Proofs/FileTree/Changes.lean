import StreamAudit.FileTree

/-!
# Changed trees

A change at the end of a row of names is found again there, and what stands
elsewhere stays. Opening the path that spells the row therefore gives the placed
file or the made directory, and opening any other path to something that is there
gives what it gave before.
-/

namespace StreamAudit.FileTree

/-- What stands at the end of a row of names. -/
def at? : FileTree → List FileName → Option FileTree
  | tree, [] => some tree
  | tree, name :: rest => (tree.children.lookup name).bind fun below => below.at? rest

/-! ## What stands where after a change -/

theorem lookup_filter_ne {name other : FileName} (h : other ≠ name)
    (entries : List (FileName × FileTree)) :
    (entries.filter (·.1 ≠ name)).lookup other = entries.lookup other := by
  induction entries with
  | nil => rfl
  | cons entry rest ih =>
    obtain ⟨key, below⟩ := entry
    by_cases hkey : key = name
    · subst hkey
      rw [List.filter_cons_of_neg (by simp), ih, List.lookup_cons, beq_false_of_ne h]
    · rw [List.filter_cons_of_pos (by simpa using hkey), List.lookup_cons, List.lookup_cons, ih]

section Change

variable (change : FileTree → FileTree) (tree : FileTree)

theorem lookup_alter_self (name : FileName) (rest : List FileName) :
    (tree.alter change (name :: rest)).children.lookup name =
      some (((tree.children.lookup name).getD (.directory [])).alter change rest) := by
  rw [alter, children, List.lookup_cons_self]

theorem lookup_alter_of_ne {name other : FileName} (h : other ≠ name) (rest : List FileName) :
    (tree.alter change (name :: rest)).children.lookup other = tree.children.lookup other := by
  rw [alter, children, List.lookup_cons, beq_false_of_ne h, lookup_filter_ne h]

theorem at?_empty_getD (row : List FileName) :
    ((directory []).at? row).getD (.directory []) = .directory [] := by
  cases row <;> rfl

/-- The change is made to what stood there, or to an empty directory. -/
theorem at?_alter (row : List FileName) :
    (tree.alter change row).at? row = some (change ((tree.at? row).getD (.directory []))) := by
  induction row generalizing tree with
  | nil => rfl
  | cons name rest ih =>
    rw [at?, lookup_alter_self, Option.bind_some, ih, at?]
    cases tree.children.lookup name with
    | none => rw [Option.getD_none, at?_empty_getD, Option.bind_none, Option.getD_none]
    | some below => rfl

/-- Neither above nor below the change, everything is as it was. -/
theorem at?_alter_of_not_prefix {row other : List FileName} (hbelow : ¬ row <+: other)
    (habove : ¬ other <+: row) : (tree.alter change row).at? other = tree.at? other := by
  induction row generalizing tree other with
  | nil => exact absurd List.nil_prefix hbelow
  | cons name rest ih =>
    cases other with
    | nil => exact absurd List.nil_prefix habove
    | cons next more =>
      by_cases hname : next = name
      · subst hname
        have hbelow : ¬ rest <+: more := fun h => hbelow (List.cons_prefix_cons.mpr ⟨rfl, h⟩)
        have habove : ¬ more <+: rest := fun h => habove (List.cons_prefix_cons.mpr ⟨rfl, h⟩)
        rw [at?, lookup_alter_self, Option.bind_some, ih _ hbelow habove, at?]
        cases tree.children.lookup next with
        | none =>
          cases more with
          | nil => exact absurd List.nil_prefix habove
          | cons => rfl
        | some below => rfl
      · rw [at?, lookup_alter_of_ne change tree hname, at?]

end Change

/-! ## Paths that spell rows of names -/

/-- A name that stands for something in its directory. -/
structure Plain (name : FileName) : Prop where
  ne_nil : name ≠ []
  ne_here : name ≠ here
  ne_above : name ≠ above
  short : name.length ≤ longestName
  no_slash : slash ∉ name
  no_nul : 0 ∉ name

/-- The path leads down along the row. -/
structure Spells (path : List UInt8) (row : List FileName) : Prop where
  path_eq : path = [slash].intercalate row
  ne_nil : row ≠ []
  plain : ∀ name ∈ row, Plain name
  short : path.length ≤ longestPath

theorem names_of_not_mem {name : FileName} (h : slash ∉ name) : names name = [name] := by
  induction name with
  | nil => rfl
  | cons b rest ih =>
    rw [List.mem_cons, not_or] at h
    rw [names, if_neg (Ne.symm h.1), ih h.2]

theorem names_append_slash {name : FileName} (h : slash ∉ name) (rest : List UInt8) :
    names (name ++ slash :: rest) = name :: names rest := by
  induction name with
  | nil => rw [List.nil_append, names, if_pos rfl]
  | cons b more ih =>
    rw [List.mem_cons, not_or] at h
    rw [List.cons_append, names, if_neg (Ne.symm h.1), ih h.2]

theorem names_intercalate {row : List FileName} (hrow : row ≠ [])
    (hslash : ∀ name ∈ row, slash ∉ name) : names ([slash].intercalate row) = row := by
  induction row with
  | nil => exact absurd rfl hrow
  | cons name rest ih =>
    have hname := hslash name List.mem_cons_self
    cases rest with
    | nil => simpa [List.intercalate] using names_of_not_mem hname
    | cons next more =>
      have hpath : [slash].intercalate (name :: next :: more) =
          name ++ slash :: [slash].intercalate (next :: more) := by
        simp [List.intercalate, List.intersperse]
      rw [hpath, names_append_slash hname,
        ih (List.cons_ne_nil _ _) fun other hother => hslash other (List.mem_cons_of_mem _ hother)]

/-- A byte of a path that is no slash stands in a name. -/
theorem exists_name_of_mem {path : List UInt8} {b : UInt8} (h : b ∈ path) (hb : b ≠ slash) :
    ∃ name ∈ names path, b ∈ name := by
  fun_induction names path with
  | case1 => cases h
  | case2 rest ih =>
    obtain ⟨name, hname, hmem⟩ := ih ((List.mem_cons.mp h).resolve_left hb)
    exact ⟨name, List.mem_cons_of_mem _ hname, hmem⟩
  | case3 c rest hc hnone ih =>
    obtain rfl | h := List.mem_cons.mp h
    · exact ⟨_, List.mem_cons_self, List.mem_cons_self⟩
    · obtain ⟨name, hname, _⟩ := ih h
      rw [hnone] at hname
      cases hname
  | case4 c rest hc first more hsome ih =>
    obtain rfl | h := List.mem_cons.mp h
    · exact ⟨_, List.mem_cons_self, List.mem_cons_self⟩
    · obtain ⟨name, hname, hmem⟩ := ih h
      rw [hsome] at hname
      obtain rfl | hname := List.mem_cons.mp hname
      · exact ⟨_, List.mem_cons_self, List.mem_cons_of_mem _ hmem⟩
      · exact ⟨name, List.mem_cons_of_mem _ hname, hmem⟩

namespace Spells

variable {path : List UInt8} {row : List FileName} (h : Spells path row)
include h

theorem names_eq : names path = row := by
  rw [h.path_eq]
  exact names_intercalate h.ne_nil fun name hname => (h.plain name hname).no_slash

theorem nil_not_mem : [] ∉ names path := by
  intro hmem
  rw [h.names_eq] at hmem
  exact (h.plain [] hmem).ne_nil rfl

theorem no_nul : 0 ∉ path := by
  intro hmem
  obtain ⟨name, hname, hnul⟩ := exists_name_of_mem hmem (by decide)
  rw [h.names_eq] at hname
  exact (h.plain name hname).no_nul hnul

theorem path_ne_nil : path ≠ [] := by
  intro hnil
  subst hnil
  exact h.nil_not_mem List.mem_cons_self

theorem head?_ne : path.head? ≠ some slash := by
  intro hhead
  obtain ⟨rest, rfl⟩ := List.head?_eq_some_iff.mp hhead
  apply h.nil_not_mem
  rw [names, if_pos rfl]
  exact List.mem_cons_self

end Spells

/-! ## Opening -/

theorem walk_of_at? {tree sub : FileTree} {trail : List FileTree} {row : List FileName}
    (hplain : ∀ name ∈ row, Plain name) (hat : tree.at? row = some sub) :
    ∃ up, walk (tree :: trail) row = .ok (sub :: up) := by
  induction row generalizing tree trail with
  | nil =>
    obtain rfl := Option.some.inj hat
    exact ⟨trail, rfl⟩
  | cons name rest ih =>
    have hname := hplain name List.mem_cons_self
    obtain ⟨below, hlookup, hbelow⟩ := Option.bind_eq_some_iff.mp hat
    obtain ⟨up, hup⟩ : ∃ up, walk (below :: tree :: trail) rest = .ok (sub :: up) :=
      ih (fun other hother => hplain other (List.mem_cons_of_mem _ hother)) hbelow
    have hdirectory : atFile (tree :: trail) = false := by
      cases tree with
      | file => cases hlookup
      | directory => rfl
    refine ⟨up, ?_⟩
    rw [walk, if_neg (by simp [hdirectory]), if_neg (by simp [hname.ne_nil, hname.ne_here]),
      if_neg hname.ne_above, if_neg (Nat.not_lt.mpr hname.short), child?, hlookup]
    exact hup

theorem sourceAt_cons (tree : FileTree) (up : List FileTree) :
    sourceAt (tree :: up) = sourceAt [tree] := by
  cases tree <;> rfl

variable {tree sub : FileTree} {path : List UInt8} {row : List FileName}

/-- A path down to something that is there opens it. -/
theorem source_of_at? (hpath : Spells path row) (hat : tree.at? row = some sub) :
    tree.alone.source path = .ok (sourceAt [sub]) := by
  obtain ⟨up, hwalk⟩ : ∃ up, walk [tree, tree.alone.root] row = .ok (sub :: up) :=
    walk_of_at? hpath.plain hat
  -- the walk begins with the one name that leads from the root to the tree
  have hroute : walk [tree.alone.root] (tree.alone.route path) = .ok (sub :: up) := by
    rw [FileSystem.route, if_neg hpath.head?_ne, hpath.names_eq]
    exact hwalk
  rw [FileSystem.source, if_neg hpath.no_nul, if_neg hpath.path_ne_nil,
    if_neg (Nat.not_lt.mpr hpath.short), hroute]
  exact congrArg Except.ok (sourceAt_cons sub up)

theorem source_placeFile (hpath : Spells path row) (tree : FileTree) (content : List UInt8) :
    (tree.placeFile content row).alone.source path = .ok (.content content) :=
  source_of_at? hpath (at?_alter _ tree row)

/-- Opening a directory that is made gives a directory, unless a file stands there. -/
theorem source_makeDirectory (hpath : Spells path row) (tree : FileTree) :
    (tree.makeDirectory row).alone.source path =
      .ok (sourceAt [(tree.at? row).getD (.directory [])]) :=
  source_of_at? hpath (at?_alter id tree row)

/-- A path down to something that stands neither above nor below a change opens as
before. -/
theorem source_alter_elsewhere {other : List FileName} (hpath : Spells path other)
    (hat : tree.at? other = some sub) (hbelow : ¬ row <+: other) (habove : ¬ other <+: row)
    (change : FileTree → FileTree) :
    (tree.alter change row).alone.source path = tree.alone.source path := by
  have hkept := at?_alter_of_not_prefix change tree hbelow habove
  rw [source_of_at? hpath (hkept.trans hat), source_of_at? hpath hat]

end StreamAudit.FileTree
