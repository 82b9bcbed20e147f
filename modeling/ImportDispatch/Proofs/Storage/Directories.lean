import ImportDispatch.Proofs.Storage.Making
/-!
# Directories made on the way

A directory is made together with what it lies in, from the outside in.  What the path runs through before its last
names is there already, so that only these names can become directories (`makeDirectories_within`).
-/
namespace ImportDispatch
namespace FileTree

variable {tree tree' : FileTree} {place front tail : List Text} {path : Text}

/-! ## Paths with names at their end -/

/-- The path leads to a place, and from there on through the names. -/
def Aims (tree : FileTree) (path : Text) (place tail : List Text) : Prop :=
  ∃ front, segments path = front ++ tail ∧ tree.walk (tree.origin path) front = .ok place

theorem Aims.plus (h : tree.Aims path place tail) (added : List (List Text × Entry)) :
    (tree.plus added).Aims path place tail := by
  obtain ⟨front, hs, hwalk⟩ := h
  exact ⟨front, hs, walk_plus hwalk⟩

theorem trimmedSegments_of_name {name : Text} (hname : IsName name) (h : segments path = front ++ [name]) :
    trimmedSegments path = segments path := by
  unfold trimmedSegments
  rw [h, List.reverse_append, List.reverse_singleton, List.singleton_append,
    List.dropWhile_cons_of_neg (by simpa using hname.ne_nil)]
  simp

/-- All that can be made at the end of a path is what its names aim at. -/
theorem makeDirectory_of_aims (hnames : ∀ s ∈ tail, IsName s) (haims : tree.Aims path place tail)
    (h : tree.makeDirectory path = .ok tree') :
    tail ≠ [] ∧ tree.Vacant (place ++ tail) ∧ tree' = tree.plus [(place ++ tail, .directory)] := by
  obtain ⟨front, hs, hwalk⟩ := haims
  rcases List.eq_nil_or_concat' tail with rfl | ⟨init, last, rfl⟩
  · rw [List.append_nil] at hs
    exact absurd h (makeDirectory_of_walk (by rw [hs]; exact hwalk))
  · have htrim := trimmedSegments_of_name (hnames last (by simp)) (hs.trans (List.append_assoc _ _ _).symm)
    have hmake : tree.make path (front ++ (init ++ [last])) .directory = .ok tree' := by
      rw [← hs, ← htrim]
      exact h
    obtain ⟨hne, -, hvacant, hplus⟩ := make_below hnames hwalk hmake
    exact ⟨hne, hvacant, hplus⟩

/-! ## The directories that a path lies in -/

def kept (parts : List Text) : List Text :=
  (parts.take 1).filter (fun s => !s.isEmpty) ++ (parts.drop 1).filter fun s => !s.isEmpty && s != ".".toList

theorem kept_append (hnames : ∀ s ∈ tail, IsName s) : kept (front ++ tail) = kept front ++ tail := by
  have hone : ∀ names : List Text, (∀ s ∈ names, IsName s) → names.filter (fun s => !s.isEmpty) = names := by
    intro names h
    rw [List.filter_eq_self]
    intro s hs
    simpa using (h s hs).ne_nil
  have hmany : ∀ names : List Text, (∀ s ∈ names, IsName s) →
      names.filter (fun s => !s.isEmpty && s != ".".toList) = names := by
    intro names h
    rw [List.filter_eq_self]
    intro s hs
    simpa [(h s hs).not_idle] using (h s hs).not_idle.2
  unfold kept
  cases front with
  | nil =>
    rw [List.nil_append, hone _ fun s hs => hnames s (List.mem_of_mem_take hs),
      hmany _ fun s hs => hnames s (List.mem_of_mem_drop hs), List.take_append_drop]
    rfl
  | cons s front =>
    simp only [List.cons_append, List.take_succ_cons, List.take_zero, List.drop_succ_cons, List.drop_zero,
      List.filter_append, List.append_assoc]
    rw [hmany _ hnames]

theorem walk_kept {p : List Text} (h : tree.walk place front = .ok p) : tree.walk place (kept front) = .ok p := by
  have hempty : ∀ s : Text, (!s.isEmpty) = false → isIdle s = true := by
    intro s hs
    rw [Bool.not_eq_false'] at hs
    simp [isIdle, hs]
  have hdot : ∀ s : Text, (!s.isEmpty && s != ".".toList) = false → isIdle s = true := by
    intro s hs
    rw [Bool.and_eq_false_iff, Bool.not_eq_false', bne_eq_false_iff_eq] at hs
    rcases hs with hs | rfl
    · simp [isIdle, hs]
    · rfl
  rw [← List.take_append_drop 1 front] at h
  obtain ⟨next, h₁, h₂⟩ := walk_append_ok h
  unfold kept
  rw [walk_append, walk_filter hempty h₁]
  exact walk_filter hdot h₂

theorem mem_kept {s : Text} (h : s ∈ kept (segments path)) : s ≠ [] ∧ '/' ∉ s := by
  have hpiece : s ∈ segments path ∧ s ≠ [] := by
    unfold kept at h
    rcases List.mem_append.1 h with h | h <;> rw [List.mem_filter] at h
    · exact ⟨List.mem_of_mem_take h.1, by simpa using h.2⟩
    · exact ⟨List.mem_of_mem_drop h.1, by have := h.2; simp_all⟩
  refine ⟨hpiece.2, fun hslash => ?_⟩
  have := Text.not_sep_of_mem_splitBy hpiece.1 '/' hslash
  simp at this

/-- The path of the names, from the root or not. -/
def pathOf (absolute : Bool) (names : List Text) : Text := (if absolute then ['/'] else []) ++ Text.join ['/'] names

def startOf (tree : FileTree) (absolute : Bool) : List Text := if absolute then [] else tree.workingDir

theorem ancestors_eq (path : Text) : ancestors path =
    (List.range (kept (segments path)).length).reverse.map fun k =>
      pathOf (decide (path.head? = some '/')) ((kept (segments path)).take k) := by
  unfold ancestors pathOf kept
  simp only [decide_eq_true_eq]

theorem origin_eq (tree : FileTree) (path : Text) :
    tree.origin path = tree.startOf (decide (path.head? = some '/')) := by
  unfold origin startOf
  simp only [decide_eq_true_eq]

theorem segments_join {names : List Text} (hne : names ≠ []) (hnames : ∀ s ∈ names, '/' ∉ s) :
    segments (Text.join ['/'] names) = names := by
  refine Text.splitBy_join rfl hne fun s hs c hc => ?_
  rw [beq_eq_false_iff_ne]
  rintro rfl
  exact hnames s hs hc

theorem head_join {names : List Text} (hne : names ≠ []) (hnames : ∀ s ∈ names, s ≠ [] ∧ '/' ∉ s) :
    (Text.join ['/'] names).head? ≠ some '/' := by
  cases names with
  | nil => exact absurd rfl hne
  | cons name rest =>
    obtain ⟨hname, hslash⟩ := hnames name List.mem_cons_self
    have hfirst : (Text.join ['/'] (name :: rest)).head? = name.head? := by
      cases name with
      | nil => exact absurd rfl hname
      | cons c name => cases rest <;> rfl
    rw [hfirst]
    exact fun hc => hslash (List.mem_of_head? hc)

theorem aims_pathOf {absolute : Bool} {names t p : List Text} (hne : names ++ t ≠ [])
    (hnames : ∀ s ∈ names ++ t, s ≠ [] ∧ '/' ∉ s) (h : tree.walk (tree.startOf absolute) names = .ok p) :
    tree.Aims (pathOf absolute (names ++ t)) p t := by
  have hjoin := segments_join hne fun s hs => (hnames s hs).2
  cases absolute with
  | false =>
    have horigin : tree.origin (pathOf false (names ++ t)) = tree.workingDir := if_neg (head_join hne hnames)
    refine ⟨names, hjoin, ?_⟩
    rw [horigin]
    exact h
  | true =>
    refine ⟨[] :: names, ?_, ?_⟩
    · change Text.splitBy _ ('/' :: Text.join ['/'] (names ++ t)) = _
      rw [Text.splitBy_cons_sep rfl]
      exact congrArg ([] :: ·) hjoin
    · change tree.walk [] ([] :: names) = _
      rw [walk_cons, enter_idle rfl (entry?_nil tree)]
      exact h

/-- What a path lies in leads to places that are there, or on through its first names. -/
theorem ancestors_aim (hnames : ∀ s ∈ tail, IsName s) (haims : tree.Aims path place tail) {outer : Text}
    (houter : outer ∈ ancestors path) :
    outer = [] ∨ ∃ p t, t <+: tail ∧ (t = [] ∨ p = place) ∧ tree.Aims outer p t := by
  obtain ⟨front, hs, hwalk⟩ := haims
  rw [ancestors_eq, List.mem_map] at houter
  obtain ⟨k, -, rfl⟩ := houter
  rw [origin_eq] at hwalk
  have hkept : kept (segments path) = kept front ++ tail := by rw [hs, kept_append hnames]
  have hpieces : ∀ s ∈ (kept (segments path)).take k, s ≠ [] ∧ '/' ∉ s := fun s hm => mem_kept (List.mem_of_mem_take hm)
  generalize decide (path.head? = some '/') = absolute at hwalk ⊢
  rw [hkept, List.take_append] at hpieces ⊢
  by_cases hnil : (kept front).take k ++ tail.take (k - (kept front).length) = []
  · rw [hnil]
    cases absolute with
    | false => exact .inl rfl
    | true => exact .inr ⟨[], [], List.nil_prefix, .inl rfl, [[], []], rfl, walk_idles (entry?_nil tree) (by simp)⟩
  have hfull := walk_kept hwalk
  rw [← List.take_append_drop k (kept front)] at hfull
  obtain ⟨p, hp, hplace⟩ := walk_append_ok hfull
  refine .inr ⟨p, _, List.take_prefix _ tail, ?_, aims_pathOf hnil hpieces hp⟩
  by_cases hk : k ≤ (kept front).length
  · rw [Nat.sub_eq_zero_of_le hk]
    exact .inl rfl
  · rw [List.drop_eq_nil_of_le (by omega), walk_nil] at hplace
    cases hplace
    exact .inr rfl

/-! ## Making them -/

/-- What making any of the directories keeps, making the first with what it lies in keeps. -/
theorem makeFrom_keeps {P : FileTree → Prop} : ∀ {paths : List Text} {tree : FileTree},
    (∀ path ∈ paths, ∀ t t', P t → path ≠ [] → t.makeDirectory path = .ok t' → P t') → P tree →
      P (makeFrom paths tree).2
  | [], _, _, h => h
  | path :: outer, tree, hkeeps, h => by
    have ih : P (makeFrom outer tree).2 := makeFrom_keeps (fun p hp => hkeeps p (List.mem_cons_of_mem _ hp)) h
    have hmade := hkeeps path List.mem_cons_self
    unfold makeFrom
    by_cases hempty : path.isEmpty = true
    · rw [if_pos hempty]
      exact h
    rw [if_neg hempty]
    rw [List.isEmpty_iff] at hempty
    cases hfirst : tree.makeDirectory path with
    | ok made => exact hmade tree made h hempty hfirst
    | error e =>
      cases e with
      | missing =>
        rcases hrest : makeFrom outer tree with ⟨result, tree'⟩
        rw [hrest] at ih
        cases result with
        | error e => exact ih
        | ok _ =>
          dsimp only
          cases hagain : tree'.makeDirectory path with
          | ok made => exact hmade tree' made ih hempty hagain
          | error e => exact ih
      | _ => exact h

theorem isDirectory_of_makeFrom {outer : List Text} (hne : path ≠ [])
    (h : (makeFrom (path :: outer) tree).1 = .ok ()) : (makeFrom (path :: outer) tree).2.isDirectory path = true := by
  have hsettle : ∀ (t : FileTree) (e : AccessError),
      (if t.isDirectory path then Except.ok () else Except.error e) = Except.ok () → t.isDirectory path = true := by
    intro t e ht
    by_cases hdir : t.isDirectory path = true
    · exact hdir
    · rw [if_neg hdir] at ht
      cases ht
  unfold makeFrom at h ⊢
  rw [if_neg (by simpa using hne)] at h ⊢
  cases hfirst : tree.makeDirectory path with
  | ok made => exact isDirectory_of_make hfirst
  | error e =>
    rw [hfirst] at h
    cases e with
    | missing =>
      dsimp only at h ⊢
      rcases hrest : makeFrom outer tree with ⟨_ | _, tree'⟩
      · rw [hrest] at h
        cases h
      · rw [hrest] at h
        dsimp only at h ⊢
        cases hagain : tree'.makeDirectory path with
        | ok made => exact isDirectory_of_make hagain
        | error e => rw [hagain] at h; exact hsettle tree' e h
    | _ => exact hsettle tree _ h

/-- The other tree has more directories, all of them along the names below the place. -/
def GainsAlong (tree : FileTree) (place tail : List Text) (grown : FileTree) : Prop :=
  ∃ added, grown = tree.plus added ∧ grown.Rooted ∧
    ∀ e ∈ added, e.2 = .directory ∧ ∃ t, t ≠ [] ∧ t <+: tail ∧ e.1 = place ++ t

theorem GainsAlong.step {t p : List Text} (hnames : ∀ s ∈ tail, IsName s) (ht : t <+: tail)
    (hp : t = [] ∨ p = place) (haims : tree.Aims path p t) {grown grown' : FileTree}
    (h : tree.GainsAlong place tail grown) (hmake : grown.makeDirectory path = .ok grown') :
    tree.GainsAlong place tail grown' := by
  obtain ⟨added, rfl, hroot, hadded⟩ := h
  obtain ⟨hne, hvacant, rfl⟩ :=
    makeDirectory_of_aims (fun s hs => hnames s (ht.subset hs)) (haims.plus added) hmake
  obtain rfl := hp.resolve_left hne
  refine ⟨added ++ [(p ++ t, .directory)], plus_plus _ _ _, hroot.plus hvacant, ?_⟩
  intro e he
  rcases List.mem_append.1 he with he | he
  · exact hadded e he
  · obtain rfl : e = (p ++ t, .directory) := by simpa using he
    exact ⟨rfl, t, hne, ht, rfl⟩

/-- **Only the last names of a path become directories**, if what is before them leads to a place already. -/
theorem makeDirectories_within (hrooted : tree.Rooted) (hnames : ∀ s ∈ tail, IsName s)
    (haims : tree.Aims path place tail) : tree.GainsAlong place tail (makeDirectories path tree).2 := by
  refine makeFrom_keeps ?_ ⟨[], (plus_nil tree).symm, hrooted, by simp⟩
  intro outer houter _ _ h hne hmake
  rcases List.mem_cons.1 houter with rfl | houter
  · exact h.step hnames List.prefix_rfl (.inr rfl) haims hmake
  · obtain ⟨p, t, ht, hp, ha⟩ := (ancestors_aim hnames haims houter).resolve_left hne
    exact h.step hnames ht hp ha hmake

theorem makeDirectories_rooted (path : Text) (hrooted : tree.Rooted) :
    ∃ added, (makeDirectories path tree).2 = tree.plus added ∧ (makeDirectories path tree).2.Rooted := by
  refine makeFrom_keeps (P := fun grown => ∃ added, grown = tree.plus added ∧ grown.Rooted) ?_
    ⟨[], (plus_nil tree).symm, hrooted⟩
  rintro outer - _ _ ⟨added, rfl, hroot⟩ - hmake
  obtain ⟨front, name, dir, -, -, -, -, -, hvacant, rfl⟩ := make_ok hmake
  exact ⟨added ++ [(dir ++ [name], .directory)], plus_plus _ _ _, hroot.plus hvacant⟩

end FileTree
end ImportDispatch
