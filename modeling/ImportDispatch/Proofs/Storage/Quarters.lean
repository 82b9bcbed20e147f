import ImportDispatch.Proofs.Storage.Layout
import ImportDispatch.Proofs.Storage.Ownership
/-!
# The quarters of a job

From the moment its id is given out, everything at and below the directory of a job belongs to it (`Holds`).  The steps
of the job keep this and record what it has written (`Holds.makeDirectories`, `Holds.makeFile`).  Seen from any other
job they happen elsewhere (`GrowsFor`).
-/
namespace ImportDispatch

open FileTree (segments)

namespace DiskLayout

/-- A job holds its directory: all that is there are the files that it has written. -/
structure Holds (tree : FileTree) (home : Text) (place : List Text) (id appDir : Text) (written : List (Text × Text)) :
    Prop where
  leads : tree.Leads home place
  names : ∀ s ∈ belowJob appDir, IsName s
  owns : tree.Owns (place ++ [jobsFolder, id]) (belowJob appDir) written
  reached : written ≠ [] → tree.walk (tree.origin (workflowDir home id appDir))
    (segments (workflowDir home id appDir)) = .ok (place ++ [jobsFolder, id] ++ belowJob appDir)

/-- The other tree has more entries, none of them in the directories of other ids. -/
def GrowsFor (tree : FileTree) (place : List Text) (id : Text) (grown : FileTree) : Prop :=
  ∃ added, grown = tree.plus added ∧ grown.Rooted ∧
    ∀ other, other ≠ id → ∀ e ∈ added, ¬ place ++ [jobsFolder, other] <+: e.1

variable {tree grown : FileTree} {home id other appDir : Text} {place : List Text} {written : List (Text × Text)}

theorem GrowsFor.refl (h : tree.Rooted) : GrowsFor tree place id tree :=
  ⟨[], (tree.plus_nil).symm, h, fun _ _ _ he => by cases he⟩

theorem GrowsFor.trans {next : FileTree} (h : GrowsFor tree place id grown) (h' : GrowsFor grown place id next) :
    GrowsFor tree place id next := by
  obtain ⟨added, rfl, -, hadded⟩ := h
  obtain ⟨more, rfl, hroot, hmore⟩ := h'
  refine ⟨added ++ more, FileTree.plus_plus _ _ _, hroot, fun other hne e he => ?_⟩
  rcases List.mem_append.1 he with he | he
  · exact hadded other hne e he
  · exact hmore other hne e he

/-- What lies along a path through the directory of one id lies in no directory of another. -/
theorem not_below_other {t rest : List Text} (ht : t <+: jobsFolder :: id :: rest) (hne : other ≠ id) :
    ¬ place ++ [jobsFolder, other] <+: place ++ t := by
  intro h
  have hids := ((List.prefix_append_right_inj place).1 h).trans ht
  rw [List.cons_prefix_cons, List.cons_prefix_cons] at hids
  exact hne hids.2.1

theorem not_taken_below (hrooted : tree.Rooted) (hhome : home ≠ []) (hleads : tree.Leads home place) (hid : IsName id)
    (hfree : tree.isTaken (workflowDir home id []) = .ok false) :
    ∀ e ∈ tree.entries, ¬ place ++ [jobsFolder, id] <+: e.1 := by
  have hnone : ∀ s ∈ belowJob [], IsName s := by simp
  have hnames := names_of_job hid hnone
  obtain ⟨front, hs, hwalk⟩ := aims_workflowDir hhome hleads hid hnone
  have hne := (FileTree.Aims.no_slash ⟨front, hs, hwalk⟩ (by simp) hnames).1
  rw [belowJob_nil] at hs hnames
  exact FileTree.nothing_below hrooted (FileTree.free_of_not_taken hrooted hnames hwalk hs hne hfree)

namespace Holds

/-- A job that is given a free directory holds it. -/
theorem start (hrooted : tree.Rooted) (hhome : home ≠ []) (hleads : tree.Leads home place) (hid : IsName id)
    (hnames : ∀ s ∈ belowJob appDir, IsName s) (hfree : tree.isTaken (workflowDir home id []) = .ok false) :
    Holds tree home place id appDir [] where
  leads := hleads
  names := hnames
  owns := .start _ (not_taken_below hrooted hhome hleads hid hfree)
  reached h := absurd rfl h

theorem elsewhere (h : Holds tree home place id appDir written) (hgrown : GrowsFor tree place other grown)
    (hne : id ≠ other) : Holds grown home place id appDir written := by
  obtain ⟨added, rfl, -, hadded⟩ := hgrown
  exact {
    leads := h.leads.plus added
    names := h.names
    owns := h.owns.elsewhere (hadded id hne)
    reached := fun hw => FileTree.walk_plus (h.reached hw) }

theorem aims (h : Holds tree home place id appDir written) (hhome : home ≠ []) (hid : IsName id) :
    tree.Aims (workflowDir home id appDir) place (jobsFolder :: id :: belowJob appDir) :=
  aims_workflowDir hhome h.leads hid h.names

theorem no_slash (h : Holds tree home place id appDir written) (hhome : home ≠ []) (hid : IsName id) :
    workflowDir home id appDir ≠ [] ∧ (workflowDir home id appDir).getLast? ≠ some '/' :=
  (h.aims hhome hid).no_slash (by simp) (names_of_job hid h.names)

/-- **A job that makes its directory keeps what it holds**, and no other job notices. -/
theorem makeDirectories (h : Holds tree home place id appDir written) (hrooted : tree.Rooted) (hhome : home ≠ [])
    (hid : IsName id) :
    Holds (FileTree.makeDirectories (workflowDir home id appDir) tree).2 home place id appDir written ∧
      GrowsFor tree place id (FileTree.makeDirectories (workflowDir home id appDir) tree).2 := by
  obtain ⟨added, hplus, hroot, hadded⟩ :=
    FileTree.makeDirectories_within hrooted (names_of_job hid h.names) (h.aims hhome hid)
  constructor
  · rw [hplus]
    exact {
      leads := h.leads.plus added
      names := h.names
      owns := h.owns.directories fun e he => by
        obtain ⟨hdir, t, -, ht, hnames⟩ := hadded e he
        refine ⟨hdir, ?_⟩
        rw [hnames, List.append_assoc]
        exact (List.prefix_append_right_inj place).2 ht
      reached := fun hw => FileTree.walk_plus (h.reached hw) }
  · refine ⟨added, hplus, hroot, fun other hne e he => ?_⟩
    obtain ⟨-, t, -, ht, hnames⟩ := hadded e he
    rw [hnames]
    exact not_below_other ht hne

theorem place_of_walk (h : Holds tree home place id appDir written) (hhome : home ≠ []) (hid : IsName id)
    {p : List Text} (hwalk : tree.walk (tree.origin (workflowDir home id appDir))
      (segments (workflowDir home id appDir)) = .ok p) : p = place ++ [jobsFolder, id] ++ belowJob appDir := by
  obtain ⟨front, hs, hfront⟩ := h.aims hhome hid
  rw [hs, FileTree.walk_append, hfront] at hwalk
  rw [FileTree.walk_names (names_of_job hid h.names) hwalk]
  simp

theorem segments_file (h : Holds tree home place id appDir written) (hhome : home ≠ []) (hid : IsName id) {name : Text}
    (hname : IsName name) : ∃ front, segments (workflowDir home id appDir ++ '/' :: name) =
        front ++ (jobsFolder :: id :: (belowJob appDir ++ [name])) ∧
      tree.walk (tree.origin (workflowDir home id appDir ++ '/' :: name)) front = .ok place := by
  obtain ⟨front, hs, hwalk⟩ := (h.aims hhome hid).below (h.no_slash hhome hid).1 name
  exact ⟨front, by rw [hs, segments_name hname]; rfl, hwalk⟩

/-- **A job that makes a file has written it**, and no other job notices. -/
theorem makeFile (h : Holds tree home place id appDir written) (hrooted : tree.Rooted) (hhome : home ≠ [])
    (hid : IsName id) {name content : Text} (hname : IsName name)
    (hmake : tree.makeFile (workflowDir home id appDir ++ '/' :: name) content = .ok grown) :
    Holds grown home place id appDir (written ++ [(name, content)]) ∧ GrowsFor tree place id grown := by
  obtain ⟨front, hs, hwalk⟩ := h.segments_file hhome hid hname
  have hnames : ∀ s ∈ jobsFolder :: id :: (belowJob appDir ++ [name]), IsName s := by
    intro s hm
    rw [← List.cons_append, ← List.cons_append, List.mem_append, List.mem_singleton] at hm
    rcases hm with hm | rfl
    · exact names_of_job hid h.names s hm
    · exact hname
  unfold FileTree.makeFile at hmake
  rw [hs] at hmake
  obtain ⟨-, hdir, hvacant, rfl⟩ := FileTree.make_below hnames hwalk hmake
  have hplace : place ++ jobsFolder :: id :: (belowJob appDir ++ [name]) =
      place ++ [jobsFolder, id] ++ belowJob appDir ++ [name] := by simp
  rw [hplace] at hdir hvacant ⊢
  constructor
  · refine ⟨h.leads.plus _, h.names, h.owns.file name content, fun _ => FileTree.walk_plus ?_⟩
    rw [← hs, segments_append, segments_name hname, List.dropLast_concat, List.dropLast_concat,
      FileTree.origin_append tree (h.no_slash hhome hid).1] at hdir
    exact hdir
  · refine ⟨_, rfl, hrooted.plus hvacant, fun other hne e he => ?_⟩
    obtain rfl : e = (place ++ [jobsFolder, id] ++ belowJob appDir ++ [name], .file content) := by simpa using he
    rw [← hplace]
    exact not_below_other List.prefix_rfl hne

/-- **Nothing has the path of a file that a job has not written yet.** -/
theorem not_taken (h : Holds tree home place id appDir written) (hhome : home ≠ []) (hid : IsName id)
    {name : Text} (hname : IsName name) (hnew : ∀ file ∈ written, file.1 ≠ name) (content : Text) :
    tree.makeFile (workflowDir home id appDir ++ '/' :: name) content ≠ .error .taken := by
  intro hmake
  unfold FileTree.makeFile at hmake
  rw [segments_append, segments_name hname] at hmake
  obtain ⟨dir, hwalk, hthere⟩ := FileTree.make_taken hname hmake
  rw [FileTree.origin_append tree (h.no_slash hhome hid).1] at hwalk
  obtain rfl := h.place_of_walk hhome hid hwalk
  exact hthere (h.owns.free hnew)

/-- **What lies in the directory of a job is what it has written.** -/
theorem filesIn (h : Holds tree home place id appDir written) (hhome : home ≠ []) (hid : IsName id) :
    tree.filesIn (workflowDir home id appDir) = written.map fun file => ([file.1], file.2) := by
  unfold FileTree.filesIn
  cases hwalk : tree.walk (tree.origin (workflowDir home id appDir)) (segments (workflowDir home id appDir)) with
  | ok p =>
    obtain rfl := h.place_of_walk hhome hid hwalk
    exact h.owns.files
  | error e =>
    by_cases hw : written = []
    · rw [hw]
      rfl
    · have := h.reached hw
      rw [hwalk] at this
      cases this

end Holds
end DiskLayout
end ImportDispatch
