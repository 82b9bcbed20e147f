import ImportDispatch.Proofs.Attempt
import ImportDispatch.Proofs.Storage.Quarters
/-!
# What the operations on disk do

Every operation of a workspace on disk, as a job uses it: what it does to the tree, for the job (`Writes`) and for all
others, and what opening a workspace leaves behind (`Opens`).
-/
namespace ImportDispatch

open Attempt (runOn)
open DiskLayout (workflowDir Holds GrowsFor belowJob)

namespace DiskStorage

variable {s s' : DiskState} {path content dir file home root org id appDir : Text} {place : List Text}
  {written : List (Text × Text)}

/-! ## Single operations -/

theorem runOn_isTaken (path : Text) (s : DiskState) : runOn (isTaken path) s =
    (match s.tree.isTaken path with
      | .ok taken => .ok taken
      | .error _ => .error (.checkFailed path), s) := by
  unfold isTaken
  rw [Attempt.runOn_bind, Attempt.runOn_get]
  dsimp only
  cases s.tree.isTaken path <;> rfl

theorem isTaken_free (h : runOn (isTaken path) s = (.ok false, s')) : s' = s ∧ s.tree.isTaken path = .ok false := by
  rw [runOn_isTaken] at h
  cases htaken : s.tree.isTaken path with
  | error e => rw [htaken] at h; cases h
  | ok taken =>
    rw [htaken] at h
    cases h
    exact ⟨rfl, rfl⟩

theorem runOn_addFile (path content : Text) (s : DiskState) : runOn (addFile path content) s =
    match s.tree.makeFile path content with
    | .ok tree => (.ok ⟨⟩, { s with tree })
    | .error _ => (.error (.createFailed path), s) := by
  unfold addFile
  rw [Attempt.runOn_bind, Attempt.runOn_get]
  dsimp only
  cases s.tree.makeFile path content <;> rfl

theorem runOn_makeDirectories (path : Text) (failure : StorageFailure) (s : DiskState) :
    runOn (makeDirectories path failure) s =
      (match (FileTree.makeDirectories path s.tree).1 with
        | .ok _ => .ok ⟨⟩
        | .error _ => .error failure, { s with tree := (FileTree.makeDirectories path s.tree).2 }) := by
  unfold makeDirectories
  rw [Attempt.runOn_bind, Attempt.runOn_get]
  dsimp only
  rcases FileTree.makeDirectories path s.tree with ⟨_ | _, tree⟩ <;> rfl

/-! ## Writing -/

/-- A step of a job that writes a file: the file is there afterwards, or the step has failed and it is not. -/
structure Writes {α : Type} (home : Text) (place : List Text) (id appDir : Text) (written : List (Text × Text))
    (file : Text × Text) (s : DiskState) (result : Except StorageFailure α) (s' : DiskState) : Prop where
  opened : s'.opened = s.opened
  grows : GrowsFor s.tree place id s'.tree
  ok : ∀ a, result = .ok a → Holds s'.tree home place id appDir (written ++ [file])
  failed : ∀ e, result = .error e → Holds s'.tree home place id appDir written

theorem addFile_writes (hholds : Holds s.tree home place id appDir written) (hrooted : s.tree.Rooted)
    (hhome : home ≠ []) (hid : IsName id) (hfile : IsName file) {result : Except StorageFailure Unit}
    (h : runOn (addFile (workflowDir home id appDir ++ '/' :: file) content) s = (result, s')) :
    Writes home place id appDir written (file, content) s result s' := by
  rw [runOn_addFile] at h
  cases hmake : s.tree.makeFile (workflowDir home id appDir ++ '/' :: file) content with
  | error e =>
    rw [hmake] at h
    cases h
    exact ⟨rfl, .refl hrooted, fun _ ha => (by cases ha), fun _ _ => hholds⟩
  | ok tree =>
    rw [hmake] at h
    cases h
    obtain ⟨hwritten, hgrows⟩ := hholds.makeFile hrooted hhome hid hfile hmake
    exact ⟨rfl, hgrows, fun _ _ => hwritten, fun _ he => (by cases he)⟩

theorem addDefinition_writes (hholds : Holds s.tree home place id appDir written) (hrooted : s.tree.Rooted)
    (hhome : home ≠ []) (hid : IsName id) (hfile : IsName file) {result : Except StorageFailure Text}
    (h : runOn (addDefinition (workflowDir home id appDir) file content) s = (result, s')) :
    Writes home place id appDir written (file, content) s result s' ∧
      ∀ path, result = .ok path → path = workflowDir home id appDir ++ '/' :: file := by
  have hdir := hholds.makeDirectories hrooted hhome hid
  have hpath : joinPath (workflowDir home id appDir) file = workflowDir home id appDir ++ '/' :: file :=
    joinPath_open (hholds.no_slash hhome hid).1 (hholds.no_slash hhome hid).2 hfile.head
  unfold addDefinition at h
  rw [Attempt.runOn_bind, runOn_makeDirectories] at h
  rcases hmade : FileTree.makeDirectories (workflowDir home id appDir) s.tree with ⟨_ | _, tree⟩
  · rw [hmade] at h hdir
    cases h
    exact ⟨⟨rfl, hdir.2, fun _ ha => (by cases ha), fun _ _ => hdir.1⟩, fun _ hp => (by cases hp)⟩
  · rw [hmade] at h hdir
    have hroot : tree.Rooted := by
      obtain ⟨added, -, hroot, -⟩ := hdir.2
      exact hroot
    dsimp only at h
    rw [hpath, Attempt.runOn_bind] at h
    rcases hadd : runOn (addFile (workflowDir home id appDir ++ '/' :: file) content) { s with tree } with ⟨answer, s₁⟩
    have hwrites := addFile_writes (s := { s with tree }) hdir.1 hroot hhome hid hfile hadd
    rw [hadd] at h
    cases answer with
    | error e =>
      cases h
      exact ⟨⟨hwrites.opened, hdir.2.trans hwrites.grows, fun _ ha => (by cases ha), fun _ _ => hwrites.failed e rfl⟩,
        fun _ hp => (by cases hp)⟩
    | ok a =>
      cases h
      exact ⟨⟨hwrites.opened, hdir.2.trans hwrites.grows, fun _ _ => hwrites.ok a rfl, fun _ he => (by cases he)⟩,
        fun _ hp => (by cases hp; rfl)⟩

/-! ## Failing to write -/

/-- What a file cannot be created with is the answer of the tree, and the tree stays as it is. -/
theorem addFile_failed {e : StorageFailure} (h : runOn (addFile path content) s = (.error e, s')) :
    e = .createFailed path ∧ s' = s ∧ ∃ error, s.tree.makeFile path content = .error error := by
  rw [runOn_addFile] at h
  cases hmake : s.tree.makeFile path content with
  | error error =>
    rw [hmake] at h
    cases h
    exact ⟨rfl, rfl, error, rfl⟩
  | ok tree =>
    rw [hmake] at h
    cases h

theorem addDefinition_failed {e : StorageFailure} (h : runOn (addDefinition dir file content) s = (.error e, s')) :
    e = .directoryFailed dir ∨ e = .createFailed (joinPath dir file) ∧
      s'.tree = (FileTree.makeDirectories dir s.tree).2 ∧
      ∃ error, s'.tree.makeFile (joinPath dir file) content = .error error := by
  unfold addDefinition at h
  rw [Attempt.runOn_bind, runOn_makeDirectories] at h
  rcases hmade : FileTree.makeDirectories dir s.tree with ⟨_ | _, tree⟩
  · rw [hmade] at h
    cases h
    exact .inl rfl
  · rw [hmade] at h
    dsimp only at h
    rw [Attempt.runOn_bind] at h
    rcases hadd : runOn (addFile (joinPath dir file) content) { s with tree } with ⟨e' | _, s₁⟩
    · rw [hadd] at h
      cases h
      obtain ⟨rfl, rfl, hrefused⟩ := addFile_failed hadd
      exact .inr ⟨rfl, rfl, hrefused⟩
    · rw [hadd] at h
      cases h

/-! ## Opening a workspace -/

/-- What opening the workspace of an organization does. -/
structure Opens (root org : Text) (s : DiskState) (result : Except StorageFailure (Workspace DiskState))
    (s' : DiskState) : Prop where
  grows : ∃ added, s'.tree = s.tree.plus added
  rooted : s'.tree.Rooted
  opened : s'.opened.elem org = true → ∃ place, s'.tree.Leads (DiskLayout.home root org) place
  ok : ∀ w, result = .ok w →
    w = workspaceAt (DiskLayout.home root org) ∧ ∃ place, s'.tree.Leads (DiskLayout.home root org) place
  again : (∃ place, s.tree.Leads (DiskLayout.home root org) place) → s'.tree = s.tree

theorem home_ne_nil (root org : Text) : DiskLayout.home root org ≠ [] := by
  refine joinPath_ne_nil ?_ org
  unfold joinPath
  rw [if_neg (by decide)]
  split
  · exact List.append_ne_nil_of_right_ne_nil _ (by decide)
  · simp

theorem workspace_failed {e : StorageFailure} (h : runOn (workspace root org) s = (.error e, s')) :
    e = .organizationFailed (DiskLayout.home root org) := by
  unfold workspace at h
  dsimp only at h
  rw [Attempt.runOn_bind, Attempt.runOn_get] at h
  dsimp only at h
  by_cases hmember : s.opened.elem org = true
  · rw [if_pos hmember] at h
    cases h
  rw [if_neg hmember, Attempt.runOn_bind, runOn_makeDirectories] at h
  rcases hmade : FileTree.makeDirectories (DiskLayout.home root org) s.tree with ⟨_ | _, tree⟩
  · rw [hmade] at h
    cases h
    rfl
  · rw [hmade] at h
    cases h

theorem workspace_opens (hrooted : s.tree.Rooted)
    (hopened : s.opened.elem org = true → ∃ place, s.tree.Leads (DiskLayout.home root org) place)
    {result : Except StorageFailure (Workspace DiskState)} (h : runOn (workspace root org) s = (result, s')) :
    Opens root org s result s' := by
  unfold workspace at h
  dsimp only at h
  rw [Attempt.runOn_bind, Attempt.runOn_get] at h
  dsimp only at h
  by_cases hmember : s.opened.elem org = true
  · rw [if_pos hmember] at h
    cases h
    exact ⟨⟨[], (s.tree.plus_nil).symm⟩, hrooted, hopened, fun w hw => (by cases hw; exact ⟨rfl, hopened hmember⟩),
      fun _ => rfl⟩
  rw [if_neg hmember, Attempt.runOn_bind, runOn_makeDirectories] at h
  obtain ⟨added, hplus, hroot⟩ := FileTree.makeDirectories_rooted (DiskLayout.home root org) hrooted
  have hagain : (∃ place, s.tree.Leads (DiskLayout.home root org) place) →
      (FileTree.makeDirectories (DiskLayout.home root org) s.tree).2 = s.tree := by
    rintro ⟨place, hleads⟩
    have haims : s.tree.Aims (DiskLayout.home root org) place [] :=
      ⟨FileTree.segments (DiskLayout.home root org), by rw [List.append_nil], hleads.walk⟩
    obtain ⟨more, hmore, -, hadded⟩ := FileTree.makeDirectories_within hrooted (by simp) haims
    obtain rfl : more = [] := by
      cases more with
      | nil => rfl
      | cons e more =>
        obtain ⟨-, t, ht, hnone, -⟩ := hadded e List.mem_cons_self
        exact absurd (List.prefix_nil.1 hnone) ht
    rw [hmore, FileTree.plus_nil]
  have hdirectory : (FileTree.makeDirectories (DiskLayout.home root org) s.tree).1 = .ok () →
      (FileTree.makeDirectories (DiskLayout.home root org) s.tree).2.isDirectory (DiskLayout.home root org) = true :=
    FileTree.isDirectory_of_makeFrom (home_ne_nil root org)
  rcases hmade : FileTree.makeDirectories (DiskLayout.home root org) s.tree with ⟨_ | _, tree⟩
  · rw [hmade] at h hplus hroot hagain
    cases h
    exact ⟨⟨added, hplus⟩, hroot, fun hm => absurd hm hmember, fun _ hw => (by cases hw), hagain⟩
  · rw [hmade] at h hplus hroot hagain hdirectory
    cases h
    have hleads := FileTree.leads_of_isDirectory (hdirectory rfl)
    exact ⟨⟨added, hplus⟩, hroot, fun _ => hleads, fun w hw => (by cases hw; exact ⟨rfl, hleads⟩), hagain⟩

end DiskStorage
end ImportDispatch
