import ImportDispatch.Proofs.Storage.Disk
import ImportDispatch.Storage.Shelf
import Mathlib.Data.List.Forall2
import Mathlib.Data.List.Nodup
/-!
# Storages that create or fail

A storage may fail at any time and for any reason.  What the service relies on is less than that it works: an operation
that fails leaves no file behind, one that writes a file adds this one and changes no other, and the rest adds none
(`Storage.CreatesOrFails`).  The storage on disk keeps this in every state of its tree (`diskStorage_createsOrFails`), and
so does the shelf, whatever it is told to do wrong (`shelfStorage_createsOrFails`).
-/
namespace ImportDispatch

open Attempt (runOn)

/-! ## Files behind a storage -/

/-- How the files of a storage are told apart: every file has a key, and a path may lead to one. -/
structure FileView (σ κ : Type) where
  /-- All files, the oldest first. -/
  files : σ → List (κ × Text)
  /-- The key that a path leads to. -/
  key? : σ → Text → Option κ
  /-- The path of a definition in its directory. -/
  pathIn : (dir file : Text) → Text

namespace FileView

variable {σ κ : Type} {view : FileView σ κ} {s s' s'' : σ} {path content : Text}

/-- The files that have come are those that were written, given as paths with their content and in this order; none of
them took the key of another file.  No file has gone or changed, and paths still lead where they led. -/
structure Adds (view : FileView σ κ) (s : σ) (written : List (Text × Text)) (s' : σ) : Prop where
  files : ∃ added, view.files s' = view.files s ++ added ∧
    List.Forall₂ (fun file entry => view.key? s' file.1 = some entry.1 ∧ entry.2 = file.2) written added ∧
    (added.map Prod.fst).Nodup ∧ (added.map Prod.fst).Disjoint ((view.files s).map Prod.fst)
  paths : ∀ path key, view.key? s path = some key → view.key? s' path = some key

theorem Adds.still (hfiles : view.files s' = view.files s)
    (hpaths : ∀ path key, view.key? s path = some key → view.key? s' path = some key) : view.Adds s [] s' where
  files := ⟨[], by rw [hfiles, List.append_nil], .nil, .nil, by simp⟩
  paths := hpaths

theorem Adds.refl (s : σ) : view.Adds s [] s := .still rfl fun _ _ h => h

theorem Adds.one {key : κ} (hfiles : view.files s' = view.files s ++ [(key, content)])
    (hkey : view.key? s' path = some key) (hnew : key ∉ (view.files s).map Prod.fst)
    (hpaths : ∀ path key, view.key? s path = some key → view.key? s' path = some key) :
    view.Adds s [(path, content)] s' where
  files := ⟨[(key, content)], hfiles, .cons ⟨hkey, rfl⟩ .nil, by simp, by simpa using hnew⟩
  paths := hpaths

theorem Adds.trans {written more : List (Text × Text)} (h : view.Adds s written s') (h' : view.Adds s' more s'') :
    view.Adds s (written ++ more) s'' := by
  obtain ⟨added, hfiles, hadded, hnodup, hnew⟩ := h.files
  obtain ⟨later, hfiles', hlater, hnodup', hnew'⟩ := h'.files
  rw [hfiles, List.map_append, List.disjoint_append_right] at hnew'
  refine ⟨⟨added ++ later, by rw [hfiles', hfiles, List.append_assoc], ?_, ?_, ?_⟩, fun path key hkey =>
    h'.paths path key (h.paths path key hkey)⟩
  · exact List.rel_append (hadded.imp fun _ _ hentry => ⟨h'.paths _ _ hentry.1, hentry.2⟩) hlater
  · rw [List.map_append, List.nodup_append']
    exact ⟨hnodup, hnodup', List.disjoint_symm hnew'.2⟩
  · rw [List.map_append, List.disjoint_append_left]
    exact ⟨hnew, hnew'.1⟩

/-- What an operation that writes a file has written: the file if it went well, nothing if it failed. -/
def written {ε α : Type} (file : Text × Text) : Except ε α → List (Text × Text)
  | .ok _ => [file]
  | .error _ => []

/-- An operation writes a file or fails, and does nothing else to the files. -/
def Creates {α : Type} (view : FileView σ κ) (s : σ) (file : Text × Text) (outcome : Except StorageFailure α × σ) :
    Prop :=
  view.Adds s (written file outcome.1) outcome.2

end FileView

/-- The path is the one of a file with this name in the directory. -/
def IsFileIn (dir name path : Text) : Prop :=
  path = dir ++ '/' :: name ∨ (dir = [] ∨ dir.getLast? = some '/') ∧ path = dir ++ name

/-! ## The law -/

structure Workspace.CreatesOrFails {σ κ : Type} (view : FileView σ κ) (workspace : Workspace σ) : Prop where
  isTaken : ∀ path s, view.Adds s [] (runOn (workspace.isTaken path) s).2
  addFile : ∀ path content s, view.Creates s (path, content) (runOn (workspace.addFile path content) s)
  addDefinition : ∀ dir file content s,
    view.Creates s (view.pathIn dir file, content) (runOn (workspace.addDefinition dir file content) s)
  path : ∀ dir file content s path,
    (runOn (workspace.addDefinition dir file content) s).1 = .ok path → path = view.pathIn dir file

/-- The law for a storage: nothing adds a file but writing one, which adds it or fails.  Definitions go into their
directory. -/
structure Storage.CreatesOrFails {σ κ : Type} (view : FileView σ κ) (storage : Storage σ) : Prop where
  opens : ∀ org s, view.Adds s [] (runOn (storage.workspace org) s).2
  workspace : ∀ org s w, (runOn (storage.workspace org) s).1 = .ok w → w.CreatesOrFails view
  inside : ∀ dir file, IsName file → IsFileIn dir file (view.pathIn dir file)

/-! ## The storage on disk -/

namespace DiskStorage

variable {s s' : DiskState} {path content : Text} {tree : FileTree}

def view : FileView DiskState (List Text) where
  files s := s.tree.filesAt []
  key? s path := (s.tree.walk (s.tree.origin path) (FileTree.segments path)).toOption
  pathIn := joinPath

theorem view_paths (added : List (List Text × Entry)) (htree : s'.tree = s.tree.plus added) (path : Text)
    (key : List Text) (h : view.key? s path = some key) : view.key? s' path = some key := by
  simp only [view] at h ⊢
  cases hwalk : s.tree.walk (s.tree.origin path) (FileTree.segments path) with
  | error e => rw [hwalk] at h; cases h
  | ok place =>
    rw [hwalk] at h
    cases h
    rw [htree]
    exact congrArg Except.toOption (FileTree.walk_plus hwalk)

theorem not_in_files {names : List Text} (hfree : s.tree.entry? names = none) :
    names ∉ (view.files s).map Prod.fst := by
  intro hmem
  obtain ⟨⟨found, content⟩, hfound, rfl⟩ := List.mem_map.1 hmem
  obtain ⟨⟨names, entry⟩, hentry, heq⟩ := List.mem_filterMap.1 hfound
  cases entry with
  | directory => cases heq
  | file content' =>
    cases heq
    exact FileTree.entry?_of_mem hentry hfree

theorem makeFile_adds (h : s.tree.makeFile path content = .ok tree) :
    view.Adds s [(path, content)] { s with tree } := by
  obtain ⟨front, name, dir, hsegments, -, hwalk, hstray, hsize, hvacant, rfl⟩ := FileTree.make_ok h
  refine .one (FileTree.filesAt_plus _ _ _) ?_ (not_in_files hvacant.free) (view_paths _ rfl)
  have hdir := hvacant.inside
  rw [List.dropLast_concat] at hdir
  have hthere : FileTree.entry? (s.tree.plus [(dir ++ [name], .file content)]) (dir ++ [name]) = some (.file content) :=
    FileTree.entry?_plus_new hvacant
  have henter : (s.tree.plus [(dir ++ [name], .file content)]).enter dir name = .ok (dir ++ [name]) := by
    rw [FileTree.enter_of_not_stray hstray (FileTree.entry?_plus hdir), if_neg (by omega), hthere]
    rfl
  have hleads : (s.tree.plus [(dir ++ [name], .file content)]).walk (s.tree.origin path) (FileTree.segments path) =
      .ok (dir ++ [name]) := by
    rw [hsegments, FileTree.walk_append, FileTree.walk_plus hwalk, Except.bind, FileTree.walk_cons, henter, Except.bind,
      FileTree.walk_nil]
  exact congrArg Except.toOption hleads

theorem addFile_creates (path content : Text) (s : DiskState) :
    view.Creates s (path, content) (runOn (addFile path content) s) := by
  rw [runOn_addFile]
  cases hmake : s.tree.makeFile path content with
  | error e => exact .refl s
  | ok tree => exact makeFile_adds hmake

theorem makeDirectories_adds (path : Text) (s : DiskState) :
    view.Adds s [] { s with tree := (FileTree.makeDirectories path s.tree).2 } := by
  have hgrown : ∃ added, (FileTree.makeDirectories path s.tree).2 = s.tree.plus added ∧
      ∀ e ∈ added, e.2 = .directory := by
    refine FileTree.makeFrom_keeps (P := fun grown => ∃ added, grown = s.tree.plus added ∧ ∀ e ∈ added, e.2 = .directory)
      ?_ ⟨[], (FileTree.plus_nil _).symm, by simp⟩
    rintro _ _ grown _ ⟨added, rfl, hadded⟩ - hmake
    obtain ⟨_, name, dir, -, -, -, -, -, -, rfl⟩ := FileTree.make_ok hmake
    exact ⟨added ++ [(dir ++ [name], .directory)], FileTree.plus_plus _ _ _, by simpa [or_imp, forall_and] using hadded⟩
  obtain ⟨added, htree, hadded⟩ := hgrown
  refine .still ?_ (view_paths added htree)
  have hnone : (FileTree.mk s.tree.workingDir added).filesAt [] = [] :=
    FileTree.filesAt_eq_nil fun e he => .inl (hadded e he)
  show (FileTree.makeDirectories path s.tree).2.filesAt [] = s.tree.filesAt []
  rw [htree, FileTree.filesAt_plus, hnone, List.append_nil]

theorem addDefinition_creates (dir file content : Text) (s : DiskState) :
    view.Creates s (joinPath dir file, content) (runOn (addDefinition dir file content) s) ∧
      ∀ path, (runOn (addDefinition dir file content) s).1 = .ok path → path = joinPath dir file := by
  have hmade := makeDirectories_adds dir s
  unfold addDefinition
  rw [Attempt.runOn_bind, runOn_makeDirectories]
  rcases hdirectories : FileTree.makeDirectories dir s.tree with ⟨_ | _, tree⟩
  · rw [hdirectories] at hmade
    exact ⟨hmade, fun _ h => (by cases h)⟩
  · rw [hdirectories] at hmade
    dsimp only at hmade ⊢
    have hadded := addFile_creates (joinPath dir file) content { s with tree }
    rcases hrun : runOn (addFile (joinPath dir file) content) { s with tree } with ⟨_ | _, s'⟩
    · rw [hrun] at hadded
      rw [Attempt.runOn_bind_error hrun]
      exact ⟨hmade.trans hadded, fun _ h => (by cases h)⟩
    · rw [hrun] at hadded
      rw [Attempt.runOn_bind_ok hrun]
      exact ⟨hmade.trans hadded, fun _ h => (by cases h; rfl)⟩

theorem workspaceAt_createsOrFails (home : Text) : (workspaceAt home).CreatesOrFails view where
  isTaken path s := by
    show view.Adds s [] (runOn (isTaken path) s).2
    rw [runOn_isTaken]
    exact .refl s
  addFile := addFile_creates
  addDefinition dir file content s := (addDefinition_creates dir file content s).1
  path dir file content s := (addDefinition_creates dir file content s).2

theorem runOn_workspace (root org : Text) (s : DiskState) :
    view.Adds s [] (runOn (workspace root org) s).2 ∧
      ∀ w, (runOn (workspace root org) s).1 = .ok w → w = workspaceAt (DiskLayout.home root org) := by
  have hmade := makeDirectories_adds (DiskLayout.home root org) s
  unfold workspace
  rw [Attempt.runOn_bind, Attempt.runOn_get]
  dsimp only
  split
  · exact ⟨.refl s, fun _ h => (by cases h; rfl)⟩
  · rw [Attempt.runOn_bind, runOn_makeDirectories]
    rcases hdirectories : FileTree.makeDirectories (DiskLayout.home root org) s.tree with ⟨_ | _, tree⟩
    · rw [hdirectories] at hmade
      exact ⟨hmade, fun _ h => (by cases h)⟩
    · rw [hdirectories] at hmade
      exact ⟨⟨hmade.files, hmade.paths⟩, fun _ h => (by cases h; rfl)⟩

end DiskStorage

/-- **The storage on disk creates or fails.** -/
theorem diskStorage_createsOrFails (root : Text) : (diskStorage root).CreatesOrFails DiskStorage.view where
  opens org s := (DiskStorage.runOn_workspace root org s).1
  workspace org s w h := by
    rw [(DiskStorage.runOn_workspace root org s).2 w h]
    exact DiskStorage.workspaceAt_createsOrFails _
  inside dir file hfile := by
    show IsFileIn dir file (joinPath dir file)
    unfold joinPath
    rw [if_neg hfile.head]
    split
    · rename_i hopen
      exact .inr ⟨by simpa using hopen, rfl⟩
    · exact .inl rfl

/-! ## The shelf -/

namespace Shelf

def view : FileView Shelf Text where
  files shelf := shelf.files
  key? _ path := some path
  pathIn dir file := dir ++ '/' :: file

theorem addFile_creates (path content : Text) (s : Shelf) :
    view.Creates s (path, content) (runOn (addFile path content) s) := by
  unfold addFile
  rw [Attempt.runOn_bind, Attempt.runOn_get]
  dsimp only
  split
  · exact .refl s
  rw [Attempt.runOn_bind, Attempt.runOn_set]
  dsimp only
  split
  · exact .still rfl fun _ _ h => h
  · rename_i hfree
    have hnew : path ∉ (view.files s).map Prod.fst := by simpa [view] using hfree
    exact .one rfl rfl hnew fun _ _ h => h

theorem addDefinition_creates (dir file content : Text) (s : Shelf) :
    view.Creates s (dir ++ '/' :: file, content) (runOn (addDefinition dir file content) s) ∧
      ∀ path, (runOn (addDefinition dir file content) s).1 = .ok path → path = dir ++ '/' :: file := by
  have hadded := addFile_creates (dir ++ '/' :: file) content s
  unfold addDefinition
  dsimp only
  rcases hrun : runOn (addFile (dir ++ '/' :: file) content) s with ⟨_ | _, s'⟩
  · rw [hrun] at hadded
    rw [Attempt.runOn_bind_error hrun]
    exact ⟨hadded, fun _ h => (by cases h)⟩
  · rw [hrun] at hadded
    rw [Attempt.runOn_bind_ok hrun]
    exact ⟨hadded, fun _ h => (by cases h; rfl)⟩

theorem isTaken_adds (path : Text) (s : Shelf) : view.Adds s [] (runOn (isTaken path) s).2 := by
  unfold isTaken
  rw [Attempt.runOn_bind, Attempt.runOn_get]
  dsimp only
  split
  · exact .refl s
  split
  · exact .refl s
  · exact .still rfl fun _ _ h => h

theorem workspaceOf_createsOrFails (org : Text) : (workspaceOf org).CreatesOrFails view where
  isTaken := isTaken_adds
  addFile := addFile_creates
  addDefinition dir file content s := (addDefinition_creates dir file content s).1
  path dir file content s := (addDefinition_creates dir file content s).2

theorem runOn_workspace (org : Text) (s : Shelf) : (runOn (workspace org) s).2 = s ∧
    ∀ w, (runOn (workspace org) s).1 = .ok w → w = workspaceOf org := by
  unfold workspace
  rw [Attempt.runOn_bind, Attempt.runOn_get]
  dsimp only
  split
  · exact ⟨rfl, fun _ h => (by cases h)⟩
  · exact ⟨rfl, fun _ h => (by cases h; rfl)⟩

end Shelf

/-- **The shelf creates or fails, whatever it is told to do wrong.** -/
theorem shelfStorage_createsOrFails : shelfStorage.CreatesOrFails Shelf.view where
  opens org s := by
    have hsame : (runOn (shelfStorage.workspace org) s).2 = s := (Shelf.runOn_workspace org s).1
    rw [hsame]
    exact .refl s
  workspace org s w h := by
    rw [(Shelf.runOn_workspace org s).2 w h]
    exact Shelf.workspaceOf_createsOrFails org
  inside _ _ _ := .inl rfl

end ImportDispatch
