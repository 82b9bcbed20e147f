import ImportDispatch.Proofs.Storage.Directories
/-!
# What belongs to one writer

The part of a tree at and below a place belongs to one writer, who has a directory there: it holds the directories that
lead to the one of the writer, and in this the files that the writer has made so far, nothing else (`Owns`).  What is
made elsewhere does not matter (`Owns.elsewhere`), and what the writer makes is added to what belongs to it.
-/
namespace ImportDispatch
namespace FileTree

/-! ## The files below a directory -/

/-- The files at and below a place, each under the names that lead to it from there. -/
def filesAt (tree : FileTree) (place : List Text) : List (List Text × Text) :=
  tree.entries.filterMap fun
    | (names, .file content) => if place.isPrefixOf names then some (names.drop place.length, content) else none
    | (_, .directory) => none

/-- The files below the directory that a path leads to. -/
def filesIn (tree : FileTree) (path : Text) : List (List Text × Text) :=
  match tree.walk (tree.origin path) (segments path) with
  | .ok place => tree.filesAt place
  | .error _ => []

variable {tree : FileTree} {added : List (List Text × Entry)} {place top below : List Text} {path : Text}
  {written : List (Text × Text)}

theorem filesAt_plus (tree : FileTree) (added : List (List Text × Entry)) (place : List Text) :
    (tree.plus added).filesAt place = tree.filesAt place ++ (FileTree.mk tree.workingDir added).filesAt place :=
  List.filterMap_append

theorem filesAt_eq_nil (h : ∀ e ∈ tree.entries, e.2 = .directory ∨ ¬ place <+: e.1) : tree.filesAt place = [] := by
  unfold filesAt
  rw [List.filterMap_eq_nil_iff]
  rintro ⟨names, entry⟩ hmem
  cases entry with
  | directory => rfl
  | file content =>
    have hnot := (h _ hmem).resolve_left (by simp)
    exact if_neg (by rwa [List.isPrefixOf_iff_prefix])

/-- At and below `top` are only the entries of one writer: its directory is `below`, its files are `written`. -/
structure Owns (tree : FileTree) (top below : List Text) (written : List (Text × Text)) : Prop where
  only : ∀ e ∈ tree.entries, top <+: e.1 → e.2 = .directory ∧ e.1 <+: top ++ below ∨
    ∃ file ∈ written, e.1 = top ++ below ++ [file.1]
  files : tree.filesAt (top ++ below) = written.map fun file => ([file.1], file.2)

namespace Owns

/-- Where nothing is, a writer has written nothing. -/
theorem start (below : List Text) (h : ∀ e ∈ tree.entries, ¬ top <+: e.1) : tree.Owns top below [] where
  only e he htop := absurd htop (h e he)
  files := filesAt_eq_nil fun e he => .inr fun hp => h e he ((List.prefix_append top below).trans hp)

theorem elsewhere (h : tree.Owns top below written) (hadded : ∀ e ∈ added, ¬ top <+: e.1) :
    (tree.plus added).Owns top below written where
  only e he htop := by
    rcases List.mem_append.1 he with he | he
    · exact h.only e he htop
    · exact absurd htop (hadded e he)
  files := by
    rw [filesAt_plus, h.files, filesAt_eq_nil, List.append_nil]
    exact fun e he => .inr fun hp => hadded e he ((List.prefix_append top below).trans hp)

/-- The directories that lead to the one of the writer. -/
theorem directories (h : tree.Owns top below written) (hadded : ∀ e ∈ added, e.2 = .directory ∧ e.1 <+: top ++ below) :
    (tree.plus added).Owns top below written where
  only e he htop := by
    rcases List.mem_append.1 he with he | he
    · exact h.only e he htop
    · exact .inl (hadded e he)
  files := by
    rw [filesAt_plus, h.files, filesAt_eq_nil, List.append_nil]
    exact fun e he => .inl (hadded e he).1

theorem file (h : tree.Owns top below written) (name content : Text) :
    (tree.plus [(top ++ below ++ [name], .file content)]).Owns top below (written ++ [(name, content)]) where
  only e he htop := by
    rcases List.mem_append.1 he with he | he
    · rcases h.only e he htop with hdir | ⟨file, hfile, hname⟩
      · exact .inl hdir
      · exact .inr ⟨file, List.mem_append_left _ hfile, hname⟩
    · obtain rfl : e = (top ++ below ++ [name], .file content) := by simpa using he
      exact .inr ⟨(name, content), by simp, rfl⟩
  files := by
    rw [filesAt_plus, h.files, List.map_append]
    congr 1
    simp [filesAt]

theorem free {name : Text} (h : tree.Owns top below written) (hname : ∀ file ∈ written, file.1 ≠ name) :
    tree.entry? (top ++ below ++ [name]) = none := by
  by_contra hthere
  obtain ⟨entry, hentry⟩ := Option.ne_none_iff_exists'.1 hthere
  have htop : top <+: top ++ below ++ [name] := by
    rw [List.append_assoc]
    exact List.prefix_append _ _
  rcases h.only _ ( mem_of_entry? (by simp) hentry) htop with ⟨-, hdir⟩ | ⟨file, hfile, hsame⟩
  · have := hdir.length_le
    simp only [List.length_append, List.length_singleton] at this
    omega
  · have := List.append_cancel_left hsame
    simp only [List.cons.injEq, and_true] at this
    exact hname file hfile this.symm

end Owns
end FileTree
end ImportDispatch
