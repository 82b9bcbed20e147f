import ImportDispatch.Proofs.Storage.Directories
import ImportDispatch.Storage.Disk
/-!
# The directories of workflows

The directory of a workflow is the directory of all jobs, the id of the job, and what the client chose below it.  The
home directory may be written in any way; what follows it are names (`aims_workflowDir`).
-/
namespace ImportDispatch

open FileTree (segments)

/-! ## Joined paths -/

theorem joinPath_open {base part : Text} (hbase : base ≠ []) (hlast : base.getLast? ≠ some '/')
    (hpart : part.head? ≠ some '/') : joinPath base part = base ++ '/' :: part := by
  unfold joinPath
  rw [if_neg hpart, if_neg]
  simpa using ⟨hbase, hlast⟩

theorem joinPath_ne_nil {base : Text} (hbase : base ≠ []) (part : Text) : joinPath base part ≠ [] := by
  unfold joinPath
  split
  · rename_i hpart
    rintro rfl
    cases hpart
  · split <;> simp [hbase]

theorem getLast_of_name {name : Text} (hname : IsName name) (base : Text) : (base ++ name).getLast? ≠ some '/' := by
  rw [List.getLast?_append_of_ne_nil _ hname.ne_nil]
  exact fun h => hname.no_slash (List.mem_of_getLast? h)

/-- A joined path ends in what was joined to it. -/
theorem exists_joinPath (base part : Text) : ∃ front, joinPath base part = front ++ part := by
  unfold joinPath
  split
  · exact ⟨[], rfl⟩
  split
  · exact ⟨base, rfl⟩
  · exact ⟨base ++ ['/'], by simp⟩

theorem joinPath_append (base : Text) {part : Text} (hpart : part ≠ []) (t : Text) :
    joinPath base (part ++ t) = joinPath base part ++ t := by
  have hhead : (part ++ t).head? = part.head? := List.head?_append_of_ne_nil part hpart
  unfold joinPath
  rw [hhead]
  split
  · rfl
  split <;> simp

theorem joinPath_name (base : Text) {name : Text} (hname : IsName name) :
    joinPath base name ≠ [] ∧ (joinPath base name).getLast? ≠ some '/' := by
  have hlast := getLast_of_name hname
  unfold joinPath
  rw [if_neg hname.head]
  split
  · exact ⟨List.append_ne_nil_of_right_ne_nil _ hname.ne_nil, hlast base⟩
  · rw [show base ++ '/' :: name = base ++ ['/'] ++ name from List.append_cons base '/' name]
    exact ⟨List.append_ne_nil_of_right_ne_nil _ hname.ne_nil, hlast _⟩

theorem segments_append (s t : Text) : segments (s ++ '/' :: t) = segments s ++ segments t :=
  Text.splitBy_append_sep rfl t s

/-- A path that goes on without a slash goes on with its last name. -/
theorem segments_append_last {path last t : Text} {front : List Text} (ht : '/' ∉ t)
    (h : segments path = front ++ [last]) : segments (path ++ t) = front ++ [last ++ t] :=
  Text.splitBy_append_last (fun c hc => by simpa using ne_of_mem_of_not_mem hc ht) h

theorem segments_name {name : Text} (hname : IsName name) : segments name = [name] := by
  refine Text.splitBy_of_none fun c hc => ?_
  rw [beq_eq_false_iff_ne]
  rintro rfl
  exact hname.no_slash hc

/-- The directory of a file is the one it was put into. -/
theorem directoryOf_file {dir name : Text} (hdir : dir ≠ []) (hname : IsName name) :
    directoryOf (dir ++ '/' :: name) = dir := by
  unfold directoryOf
  rw [Text.beforeLast_append hname.no_slash]
  cases dir with
  | nil => exact absurd rfl hdir
  | cons c dir => rfl

namespace FileTree

variable {tree : FileTree} {place tail : List Text} {path : Text}

theorem origin_append (tree : FileTree) (hne : path ≠ []) (more : Text) :
    tree.origin (path ++ more) = tree.origin path := by
  cases path with
  | nil => exact absurd rfl hne
  | cons c path => rfl

theorem Aims.below (h : tree.Aims path place tail) (hne : path ≠ []) (more : Text) :
    tree.Aims (path ++ '/' :: more) place (tail ++ segments more) := by
  obtain ⟨front, hs, hwalk⟩ := h
  exact ⟨front, by rw [segments_append, hs, List.append_assoc], by rwa [origin_append tree hne]⟩

theorem Aims.no_slash (h : tree.Aims path place tail) (hne : tail ≠ []) (hnames : ∀ s ∈ tail, IsName s) :
    path ≠ [] ∧ path.getLast? ≠ some '/' := by
  obtain ⟨front, hs, -⟩ := h
  have hlast : ∀ init, segments path ≠ init ++ [[]] := by
    intro init hinit
    rcases List.eq_nil_or_concat' tail with rfl | ⟨t, last, rfl⟩
    · exact hne rfl
    · rw [hinit, ← List.append_assoc] at hs
      have := (List.append_inj' hs rfl).2
      exact (hnames last (by simp)).ne_nil (by simpa using this.symm)
  constructor
  · rintro rfl
    exact hlast [] rfl
  · intro hslash
    obtain ⟨init, rfl⟩ := List.getLast?_eq_some_iff.1 hslash
    exact hlast _ (segments_append init [])

/-- What is there under a name is an entry of that name. -/
theorem mem_of_isTaken {name : Text} (hname : IsName name) (hlast : (segments path).getLast? = some name)
    (h : tree.isTaken path = .ok true) : some name ∈ tree.entries.map fun entry => entry.1.getLast? := by
  unfold isTaken at h
  cases hfind : tree.find path with
  | error e =>
    rw [hfind] at h
    cases e <;> cases h
  | ok entry =>
    obtain ⟨place, hwalk, hentry⟩ := find_ok hfind
    obtain ⟨front, hfront⟩ := List.getLast?_eq_some_iff.1 hlast
    rw [hfront] at hwalk
    obtain ⟨dir, -, hstep⟩ := walk_append_ok hwalk
    have hplace : place = dir ++ [name] := walk_names (by simpa using hname) hstep
    have hmem := mem_of_entry? (by simp [hplace]) hentry
    exact List.mem_map.2 ⟨(place, entry), hmem, by simp [hplace]⟩

/-- The path leads to the place, and a directory is there. -/
structure Leads (tree : FileTree) (path : Text) (place : List Text) : Prop where
  walk : tree.walk (tree.origin path) (segments path) = .ok place
  directory : tree.entry? place = some .directory

theorem Leads.plus (h : tree.Leads path place) (added : List (List Text × Entry)) :
    (tree.plus added).Leads path place :=
  ⟨walk_plus h.walk, entry?_plus h.directory⟩

theorem Leads.unique {place' : List Text} (h : tree.Leads path place) (h' : tree.Leads path place') :
    place = place' := by
  have := h.walk.symm.trans h'.walk
  cases this
  rfl

theorem leads_of_isDirectory (h : tree.isDirectory path = true) : ∃ place, tree.Leads path place := by
  unfold isDirectory at h
  cases hfind : tree.find path with
  | error e => rw [hfind] at h; cases h
  | ok entry =>
    cases entry with
    | file content => rw [hfind] at h; cases h
    | directory =>
      obtain ⟨place, hwalk, hentry⟩ := find_ok hfind
      exact ⟨place, hwalk, hentry⟩

/-- A name joined to a directory, whether a slash stands at its end or not. -/
theorem Leads.aims_joinPath (h : tree.Leads path place) (hne : path ≠ []) {name : Text} (hname : IsName name) :
    tree.Aims (joinPath path name) place [name] := by
  have haims : tree.Aims path place [] := ⟨segments path, by rw [List.append_nil], h.walk⟩
  by_cases hlast : path.getLast? = some '/'
  · obtain ⟨init, rfl⟩ := List.getLast?_eq_some_iff.1 hlast
    have hjoin : joinPath (init ++ ['/']) name = init ++ '/' :: name := by
      unfold joinPath
      rw [if_neg hname.head, if_pos (by simp)]
      simp
    have hsplit : segments (init ++ ['/']) = segments init ++ [[]] := segments_append init []
    have hwalk := h.walk
    rw [hsplit] at hwalk
    obtain ⟨next, hnext, hidle⟩ := walk_append_ok hwalk
    rw [walk_cons] at hidle
    have hstay : tree.enter next [] = .ok next := by
      cases henter : tree.enter next [] with
      | error e => rw [henter] at hidle; cases hidle
      | ok p => rw [← henter]; exact enter_idle rfl (enter_directory henter)
    rw [hstay] at hidle
    cases hidle
    rw [hjoin]
    have horigin : tree.origin (init ++ '/' :: name) = tree.origin (init ++ ['/']) := by
      cases init <;> rfl
    exact ⟨segments init, by rw [segments_append, segments_name hname], by rw [horigin]; exact hnext⟩
  · rw [joinPath_open hne hlast hname.head]
    have := haims.below hne name
    rwa [segments_name hname] at this

end FileTree

namespace DiskLayout

/-! ## Below the directory of a job -/

/-- The segments that the client chose below the directory of the job. -/
def belowJob (appDir : Text) : List Text :=
  if (trimSlashes appDir).isEmpty then [] else segments (trimSlashes appDir)

@[simp] theorem belowJob_nil : belowJob [] = [] := rfl

theorem trimSlashes_eq {path : Text} (h : path.head? ≠ some '/') : trimSlashes path = Text.trimEnd (· == '/') path := by
  unfold trimSlashes Text.trimBoth
  cases path with
  | nil => rfl
  | cons c path => rw [List.dropWhile_cons_of_neg (by simpa using h)]

/-- What the rule on paths lets through does not start at the root. -/
theorem head_of_pathViolation? {field path : Text} (h : pathViolation? field path = none) : path.head? ≠ some '/' := by
  intro hslash
  have hne : path.isEmpty = false := by
    cases path with
    | nil => cases hslash
    | cons c path => rfl
  have hhead : path.head?.any isPathSeparator = true := by rw [hslash]; rfl
  rw [pathViolation?, hne, hhead] at h
  cases h

theorem names_belowJob {field appDir : Text} (h : pathViolation? field appDir = none) :
    ∀ s ∈ belowJob appDir, IsName s := by
  unfold belowJob
  split
  · simp
  rename_i hne
  by_cases hempty : appDir.isEmpty = true
  · rw [List.isEmpty_iff] at hempty
    subst hempty
    exact absurd rfl hne
  rw [trimSlashes_eq (head_of_pathViolation? h)]
  unfold pathViolation? at h
  rw [if_neg hempty] at h
  split at h
  · cases h
  split at h
  · cases h
  rename_i hstray
  intro s hs
  have hfree := Text.not_sep_of_mem_splitBy hs
  have hpiece : ∀ piece ∈ Text.splitBy isPathSeparator s, isStraySegment piece = false := by
    intro piece hpiece
    rw [Bool.not_eq_true, List.any_eq_false] at hstray
    rw [Text.splitBy_flatMap (p := (· == '/')) (fun c hc => by simp_all [isPathSeparator])] at hstray
    simpa using hstray piece (List.mem_flatMap.2 ⟨s, hs, hpiece⟩)
  refine ⟨fun hc => by simpa using hfree '/' hc, ?_⟩
  cases hs' : isStraySegment s with
  | false => rfl
  | true =>
    -- a stray segment holds no separator, so that it is a piece of its own
    have hself : Text.splitBy isPathSeparator s = [s] := by
      simp only [isStraySegment, Bool.or_eq_true, List.isEmpty_iff, beq_iff_eq] at hs'
      rcases hs' with (rfl | rfl) | rfl <;> rfl
    rw [← hs', hpiece s (by rw [hself]; exact List.mem_singleton_self s)]

/-! ## The directory of a workflow -/

theorem jobsFolder_isName : IsName jobsFolder := .of_dash (by decide) (by decide)

theorem names_of_job {id appDir : Text} (hid : IsName id) (hnames : ∀ s ∈ belowJob appDir, IsName s) :
    ∀ s ∈ jobsFolder :: id :: belowJob appDir, IsName s := by
  intro s hs
  rcases List.mem_cons.1 hs with rfl | hs
  · exact jobsFolder_isName
  rcases List.mem_cons.1 hs with rfl | hs
  · exact hid
  · exact hnames s hs

/-- What the client chose, behind the directory of the job. -/
def belowText (appDir : Text) : Text := if (trimSlashes appDir).isEmpty then [] else '/' :: trimSlashes appDir

theorem workflowDir_eq {home id appDir : Text} (hid : IsName id) (hnames : ∀ s ∈ belowJob appDir, IsName s) :
    workflowDir home id appDir = joinPath home jobsFolder ++ '/' :: (id ++ belowText appDir) := by
  have hjobs := joinPath_name home jobsFolder_isName
  have hjob : joinPath (joinPath home jobsFolder) id = joinPath home jobsFolder ++ '/' :: id :=
    joinPath_open hjobs.1 hjobs.2 hid.head
  unfold workflowDir belowText
  unfold belowJob at hnames
  simp only [hjob]
  by_cases hempty : (trimSlashes appDir).isEmpty = true
  · rw [if_pos hempty, if_pos hempty, List.append_nil]
  · rw [if_neg hempty] at hnames
    rw [if_neg hempty, if_neg hempty]
    have hhead : (trimSlashes appDir).head? ≠ some '/' := by
      intro hc
      obtain ⟨rest, hrest⟩ := List.head?_eq_some_iff.1 hc
      have hfirst : segments (trimSlashes appDir) = [] :: segments rest := by
        rw [hrest]
        exact segments_append [] rest
      exact (hnames [] (by rw [hfirst]; exact List.mem_cons_self)).ne_nil rfl
    rw [joinPath_open (by simp) _ hhead, List.append_assoc, List.cons_append]
    rw [← List.singleton_append, ← List.append_assoc]
    exact getLast_of_name hid _

/-- **The directory of a workflow lies in its home, along names**: the one of all jobs, the id, and what the client
chose. -/
theorem aims_workflowDir {tree : FileTree} {home id appDir : Text} {place : List Text} (hhome : home ≠ [])
    (hleads : tree.Leads home place) (hid : IsName id) (hnames : ∀ s ∈ belowJob appDir, IsName s) :
    tree.Aims (workflowDir home id appDir) place (jobsFolder :: id :: belowJob appDir) := by
  have hjobs := hleads.aims_joinPath hhome jobsFolder_isName
  have hjob := hjobs.below (joinPath_ne_nil hhome jobsFolder) id
  rw [segments_name hid] at hjob
  rw [workflowDir_eq hid hnames]
  unfold belowText belowJob
  by_cases hempty : (trimSlashes appDir).isEmpty = true
  · rw [if_pos hempty, if_pos hempty, List.append_nil]
    exact hjob
  · rw [if_neg hempty, if_neg hempty, ← List.cons_append, ← List.append_assoc]
    exact hjob.below (by simp) _

/-- One directory is the other, or lies in it. -/
def Within (inner outer : Text) : Prop := outer ++ ['/'] <+: inner ++ ['/']

end DiskLayout
end ImportDispatch
