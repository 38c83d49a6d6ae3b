import StreamAudit.FileTree

/-!
# What an opened path gives

A walk goes down to what a directory holds and back up the trail, and never above
the root. The content that an opened path gives is therefore that of a file in the
tree.
-/

namespace StreamAudit

namespace FileTree

/-- The trees that stand anywhere in a tree, which is itself one of them. -/
inductive Within (tree : FileTree) : FileTree → Prop
  | top : Within tree tree
  | child {sub below : FileTree} {name : FileName} :
      Within tree sub → (name, below) ∈ sub.children → Within tree below

/-- What stands in a tree is the tree or stands in what it holds. -/
theorem within_iff {tree sub : FileTree} :
    tree.Within sub ↔ sub = tree ∨ ∃ entry ∈ tree.children, entry.2.Within sub := by
  constructor
  · intro h
    induction h with
    | top => exact .inl rfl
    | child hsub hmem ih =>
      obtain rfl | ⟨entry, hentry, hbelow⟩ := ih
      · exact .inr ⟨_, hmem, .top⟩
      · exact .inr ⟨entry, hentry, hbelow.child hmem⟩
  · intro h
    obtain rfl | ⟨entry, hentry, hbelow⟩ := h
    · exact .top
    · induction hbelow with
      | top => exact .child .top hentry
      | child _ hmem ih => exact ih.child hmem

theorem within_file_iff {content : List UInt8} {sub : FileTree} :
    (file content).Within sub ↔ sub = file content := by
  rw [within_iff]
  simp [children]

theorem within_directory_iff {children : List (FileName × FileTree)} {sub : FileTree} :
    (directory children).Within sub ↔
      sub = directory children ∨ ∃ entry ∈ children, entry.2.Within sub :=
  within_iff

section Walk

variable {tree : FileTree}

theorem within_of_child? {trail : List FileTree} {name : FileName} {below : FileTree}
    (htrail : ∀ sub ∈ trail, tree.Within sub) (h : child? trail name = some below) :
    tree.Within below := by
  cases trail with
  | nil => cases h
  | cons sub rest =>
    obtain ⟨before, after, hchildren, _⟩ := List.lookup_eq_some_iff.mp h
    exact (htrail sub List.mem_cons_self).child (hchildren ▸ List.mem_append_cons_self)

theorem mem_of_mem_parent {trail : List FileTree} {sub : FileTree} (h : sub ∈ parent trail) :
    sub ∈ trail := by
  unfold parent at h
  split at h
  · exact List.mem_of_mem_tail h
  · exact h

/-- A trail of which every part stands in the tree leads to another such trail,
name by name. -/
theorem within_of_walk {trail final : List FileTree} {names : List FileName}
    (htrail : ∀ sub ∈ trail, tree.Within sub) (h : walk trail names = .ok final) :
    ∀ sub ∈ final, tree.Within sub := by
  fun_induction walk trail names with
  | case1 trail =>
    obtain rfl := Except.ok.inj h
    exact htrail
  | case2 => cases h
  | case3 trail name rest hfile hstay ih => exact ih htrail h
  | case4 trail rest hfile hstay ih =>
    exact ih (fun sub hsub => htrail sub (mem_of_mem_parent hsub)) h
  | case5 => cases h
  | case6 => cases h
  | case7 trail name rest hfile hstay hup hlong below hbelow ih =>
    refine ih ?_ h
    intro sub hsub
    obtain rfl | hsub := List.mem_cons.mp hsub
    · exact within_of_child? htrail hbelow
    · exact htrail sub hsub

theorem file_mem_of_sourceAt {trail : List FileTree} {bytes : List UInt8}
    (h : sourceAt trail = .content bytes) : .file bytes ∈ trail := by
  unfold sourceAt at h
  split at h
  · obtain rfl := Source.content.inj h
    exact List.mem_cons_self
  · cases h

end Walk

end FileTree

namespace FileSystem

open FileTree (walk sourceAt)

theorem exists_walk_of_source {files : FileSystem} {path : List UInt8} {opened : Source}
    (h : files.source path = .ok opened) :
    ∃ trail, walk [files.root] (files.route path) = .ok trail ∧ sourceAt trail = opened := by
  unfold source at h
  split at h
  · cases h
  split at h
  · cases h
  split at h
  · cases h
  cases hwalk : walk [files.root] (files.route path) with
  | error error =>
    simp only [hwalk] at h
    cases h
  | ok trail =>
    simp only [hwalk] at h
    exact ⟨trail, rfl, Except.ok.inj h⟩

theorem within_of_source {files : FileSystem} {path bytes : List UInt8}
    (h : files.source path = .ok (.content bytes)) : files.root.Within (.file bytes) := by
  obtain ⟨trail, hwalk, hcontent⟩ := exists_walk_of_source h
  refine FileTree.within_of_walk ?_ hwalk _ (FileTree.file_mem_of_sourceAt hcontent)
  intro sub hsub
  obtain rfl := List.mem_singleton.mp hsub
  exact .top

end FileSystem

end StreamAudit
