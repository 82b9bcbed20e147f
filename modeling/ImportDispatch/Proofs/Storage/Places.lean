import ImportDispatch.Proofs.Storage.Layout
/-!
# Places behind a home

The paths of a job follow from its home by names (`Along`), in whatever way the home is written, and one of two such
paths lies in the other exactly if its names begin with those of the other (`within_iff`).  So directories of different
ids never lie in each other (`workflowDir_apart`).
-/
namespace ImportDispatch
namespace DiskLayout

/-! ## Names behind a home -/

/-- A home, as it stands before what is joined to it. -/
def opening (home : Text) : Text := if home.isEmpty || home.getLast? == some '/' then home else home ++ ['/']

/-- Names, with a slash behind each. -/
def closed (names : List Text) : Text := names.flatMap (· ++ ['/'])

/-- The path follows from the home by the names. -/
def Along (home : Text) (names : List Text) (path : Text) : Prop := path ++ ['/'] = opening home ++ closed names

variable {home id appDir dir path path' : Text} {names names' : List Text}

@[simp] theorem closed_nil : closed [] = [] := rfl

@[simp] theorem closed_cons (name : Text) (names : List Text) : closed (name :: names) = name ++ '/' :: closed names := by
  simp [closed]

@[simp] theorem closed_append (names names' : List Text) : closed (names ++ names') = closed names ++ closed names' := by
  simp [closed]

theorem join_closed : ∀ {names : List Text}, names ≠ [] → Text.join ['/'] names ++ ['/'] = closed names
  | [], h => absurd rfl h
  | [name], _ => by simp [Text.join]
  | name :: next :: rest, _ => by
    rw [closed_cons, ← join_closed (List.cons_ne_nil next rest)]
    simp [Text.join]

theorem closed_prefix_iff : ∀ {outer inner : List Text}, (∀ s ∈ outer, IsName s) → (∀ s ∈ inner, IsName s) →
    (closed outer <+: closed inner ↔ outer <+: inner)
  | [], inner, _, _ => by simp
  | name :: outer, [], _, _ => by simp
  | name :: outer, first :: inner, houter, hinner => by
    rw [List.forall_mem_cons] at houter hinner
    rw [closed_cons, closed_cons, Text.mark_prefix_iff houter.1.no_slash hinner.1.no_slash, List.cons_prefix_cons,
      closed_prefix_iff houter.2 hinner.2]

/-- **One of two paths lies in the other exactly if its names begin with those of the other.** -/
theorem within_iff (h : Along home names path) (h' : Along home names' path') (hnames : ∀ s ∈ names, IsName s)
    (hnames' : ∀ s ∈ names', IsName s) : Within path path' ↔ names' <+: names := by
  rw [Within, h, h', List.prefix_append_right_inj]
  exact closed_prefix_iff hnames' hnames

namespace Along

theorem joined (hne : names ≠ []) (hnames : ∀ s ∈ names, IsName s) :
    Along home names (joinPath home (Text.join ['/'] names)) := by
  have hhead : (Text.join ['/'] names).head? ≠ some '/' :=
    FileTree.head_join hne fun s hs => ⟨(hnames s hs).ne_nil, (hnames s hs).no_slash⟩
  unfold Along opening joinPath
  rw [if_neg hhead, ← join_closed hne]
  split <;> simp

theorem single {name : Text} (hname : IsName name) : Along home [name] (joinPath home name) :=
  joined (List.cons_ne_nil name []) (by simpa using hname)

theorem append (h : Along home names path) (hne : names' ≠ []) :
    Along home (names ++ names') (path ++ '/' :: Text.join ['/'] names') := by
  unfold Along at h ⊢
  rw [closed_append, ← List.append_assoc, ← h, ← join_closed hne]
  simp

theorem file (h : Along home names path) (name : Text) : Along home (names ++ [name]) (path ++ '/' :: name) :=
  h.append (List.cons_ne_nil name [])

end Along

/-! ## The two directories of a job -/

theorem join_belowJob (h : (trimSlashes appDir).isEmpty = false) :
    belowJob appDir ≠ [] ∧ Text.join ['/'] (belowJob appDir) = trimSlashes appDir := by
  unfold belowJob
  rw [if_neg (by simp [h])]
  exact ⟨Text.splitBy_ne_nil _ _, Text.join_splitBy '/' _⟩

theorem importsFolder_isName : IsName importsFolder := .of_dash (by decide) (by decide)

theorem workflowDir_along (hid : IsName id) (hnames : ∀ s ∈ belowJob appDir, IsName s) :
    Along home (jobsFolder :: id :: belowJob appDir) (workflowDir home id appDir) := by
  have hjob : Along home [jobsFolder, id] (joinPath home jobsFolder ++ '/' :: id) :=
    (Along.single jobsFolder_isName).file id
  rw [workflowDir_eq hid hnames]
  by_cases hempty : (trimSlashes appDir).isEmpty = true
  · simpa [belowText, belowJob, hempty] using hjob
  · obtain ⟨hne, hjoin⟩ := join_belowJob (by simpa using hempty)
    have hbelow := hjob.append hne
    rw [hjoin] at hbelow
    simpa [belowText, hempty] using hbelow

/-- **Directories of different ids do not lie in each other**, whatever the clients chose. -/
theorem workflowDir_apart {home id id' appDir appDir' : Text} (hid : IsName id) (hid' : IsName id') (hne : id ≠ id')
    (hnames : ∀ s ∈ belowJob appDir, IsName s) (hnames' : ∀ s ∈ belowJob appDir', IsName s) :
    ¬ Within (workflowDir home id appDir) (workflowDir home id' appDir') := by
  rw [within_iff (workflowDir_along hid hnames) (workflowDir_along hid' hnames') (names_of_job hid hnames)
    (names_of_job hid' hnames'), List.cons_prefix_cons, List.cons_prefix_cons]
  exact fun h => hne h.2.1.symm

/-- The names that lead to the target directory of a job. -/
def targetNames (id dir : Text) : List Text := if belowJob dir = [] then [importsFolder, id] else belowJob dir

theorem targetNames_ne_nil (id dir : Text) : targetNames id dir ≠ [] := by
  unfold targetNames
  split
  · exact List.cons_ne_nil _ _
  · assumption

theorem names_of_target (hid : IsName id) (hnames : ∀ s ∈ belowJob dir, IsName s) :
    ∀ s ∈ targetNames id dir, IsName s := by
  unfold targetNames
  split
  · simpa using ⟨importsFolder_isName, hid⟩
  · exact hnames

theorem targetDir_along (hid : IsName id) (hnames : ∀ s ∈ belowJob dir, IsName s) :
    Along home (targetNames id dir) (targetDir home id dir) := by
  unfold targetDir targetNames
  by_cases hempty : (trimSlashes dir).isEmpty = true
  · have hnone : belowJob dir = [] := if_pos hempty
    have himports := joinPath_name home importsFolder_isName
    have hjob : Along home [importsFolder, id] (joinPath home importsFolder ++ '/' :: id) :=
      (Along.single importsFolder_isName).file id
    rw [← joinPath_open himports.1 himports.2 hid.head] at hjob
    simpa [hempty, hnone] using hjob
  · obtain ⟨hne, hjoin⟩ := join_belowJob (by simpa using hempty)
    have hjoined : Along home (belowJob dir) (joinPath home (Text.join ['/'] (belowJob dir))) := .joined hne hnames
    rw [hjoin] at hjoined
    simpa [hempty, hne] using hjoined

end DiskLayout
end ImportDispatch
