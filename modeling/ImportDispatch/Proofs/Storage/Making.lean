import ImportDispatch.Proofs.Storage.Walk
import Mathlib.Data.List.Induction
/-!
# What is made in a tree

An entry is made in a directory that is there, under names that nothing has (`Vacant`).  So every entry of a tree lies
in a directory (`Rooted`), and a path that leads to nothing has nothing below it (`nothing_below`).
-/
namespace ImportDispatch
namespace FileTree

variable {tree tree' : FileTree} {added : List (List Text × Entry)} {names place front tail : List Text} {entry : Entry}
  {path : Text}

/-! ## Rooted trees -/

/-- Nothing has the names, but the directory is there. -/
structure Vacant (tree : FileTree) (names : List Text) : Prop where
  below_root : names ≠ []
  inside : tree.entry? names.dropLast = some .directory
  free : tree.entry? names = none

def Rooted (tree : FileTree) : Prop :=
  ∀ e ∈ tree.entries, e.1 ≠ [] ∧ tree.entry? e.1.dropLast = some .directory

theorem Rooted.above (hrooted : tree.Rooted) : ∀ {tail : List Text}, tail ≠ [] → tree.entry? (place ++ tail) ≠ none →
    tree.entry? place = some .directory := by
  intro tail
  induction tail using List.reverseRecOn with
  | nil => intro h; exact absurd rfl h
  | append_singleton tail last ih =>
    intro _ hthere
    obtain ⟨entry, hentry⟩ := Option.ne_none_iff_exists'.1 hthere
    have hmem := mem_of_entry? (by simp) hentry
    have hup := (hrooted _ hmem).2
    rw [← List.append_assoc, List.dropLast_concat] at hup
    cases htail : tail with
    | nil => rwa [htail, List.append_nil] at hup
    | cons s rest => exact ih (by simp [htail]) (by rw [hup]; simp)

theorem Rooted.plus (hrooted : tree.Rooted) (hvacant : tree.Vacant names) : (tree.plus [(names, entry)]).Rooted := by
  intro e he
  rcases List.mem_append.1 he with he | he
  · exact ⟨(hrooted e he).1, entry?_plus (hrooted e he).2⟩
  · obtain rfl : e = (names, entry) := by simpa using he
    exact ⟨hvacant.below_root, entry?_plus hvacant.inside⟩

theorem entry?_plus_new (hvacant : tree.Vacant names) :
    FileTree.entry? (tree.plus [(names, entry)]) names = some entry := by
  have hfree := hvacant.free
  have hne : names.isEmpty = false := by simpa using hvacant.below_root
  unfold entry? at hfree ⊢
  rw [hne] at hfree ⊢
  rw [if_neg Bool.false_ne_true, Option.map_eq_none_iff] at hfree
  simp [FileTree.plus, List.find?_append, hfree]

/-! ## Finding an entry -/

theorem checkPath_error {e : AccessError} (h : checkPath path = .error e) :
    e ≠ .taken ∧ (e = .missing → path = []) := by
  unfold checkPath at h
  split at h
  · cases h
    simp
  split at h
  · rename_i hempty
    cases h
    simpa using hempty
  split at h
  · cases h
    simp
  · cases h

theorem find_of_walk (hcheck : checkPath path = .ok ())
    (hwalk : tree.walk (tree.origin path) (segments path) = .ok place) (hentry : tree.entry? place = some entry) :
    tree.find path = .ok entry := by
  unfold find
  simp only [hcheck, hwalk, hentry, Bind.bind, Except.bind]
  rfl

theorem find_of_walk_error {e : AccessError} (hcheck : checkPath path = .ok ())
    (hwalk : tree.walk (tree.origin path) (segments path) = .error e) : tree.find path = .error e := by
  unfold find
  simp only [hcheck, hwalk, Bind.bind, Except.bind]

theorem find_ok (h : tree.find path = .ok entry) :
    ∃ place, tree.walk (tree.origin path) (segments path) = .ok place ∧ tree.entry? place = some entry := by
  cases hcheck : checkPath path with
  | error e =>
    unfold find at h
    simp only [hcheck, Bind.bind, Except.bind] at h
    cases h
  | ok _ =>
    cases hwalk : tree.walk (tree.origin path) (segments path) with
    | error e => rw [find_of_walk_error hcheck hwalk] at h; cases h
    | ok place =>
      refine ⟨place, rfl, ?_⟩
      cases hentry : tree.entry? place with
      | none =>
        unfold find at h
        simp only [hcheck, hwalk, hentry, Bind.bind, Except.bind] at h
        cases h
      | some found => rw [find_of_walk hcheck hwalk hentry] at h; cases h; rfl

/-! ## Making an entry -/

theorem make_ok {segments : List Text} (h : tree.make path segments entry = .ok tree') :
    ∃ front name dir, segments = front ++ [name] ∧ checkPath path = .ok () ∧
      tree.walk (tree.origin path) front = .ok dir ∧ isStraySegment name = false ∧ Text.utf8Size name ≤ 255 ∧
      tree.Vacant (dir ++ [name]) ∧ tree' = tree.plus [(dir ++ [name], entry)] := by
  unfold make at h
  cases hcheck : checkPath path with
  | error e => rw [hcheck] at h; cases h
  | ok _ =>
    rw [hcheck] at h
    rcases List.eq_nil_or_concat' segments with rfl | ⟨front, name, rfl⟩
    · cases h
    rw [List.getLast?_concat, List.dropLast_concat] at h
    change (tree.walk (tree.origin path) front).bind _ = _ at h
    cases hwalk : tree.walk (tree.origin path) front with
    | error e => rw [hwalk] at h; cases h
    | ok dir =>
      rw [hwalk] at h
      dsimp only [Except.bind] at h
      split at h
      · cases h
      rename_i hdir
      split at h
      · cases h
      rename_i hstray
      split at h
      · cases h
      rename_i hsize
      split at h
      · cases h
      rename_i hfree
      cases h
      have hname : isStraySegment name = false := by simpa [isStraySegment] using hstray
      refine ⟨front, name, dir, rfl, rfl, hwalk, hname, by omega, ⟨by simp, ?_, ?_⟩, rfl⟩
      · rw [List.dropLast_concat]
        simpa using hdir
      · simpa using hfree

/-- Where a walk leads, and what is made below it. -/
theorem make_below (hnames : ∀ s ∈ tail, IsName s) (hfront : tree.walk (tree.origin path) front = .ok place)
    (h : tree.make path (front ++ tail) entry = .ok tree') :
    tail ≠ [] ∧ tree.walk (tree.origin path) (front ++ tail).dropLast = .ok (place ++ tail).dropLast ∧
      tree.Vacant (place ++ tail) ∧ tree' = tree.plus [(place ++ tail, entry)] := by
  obtain ⟨front', name, dir, hs, -, hwalk, hstray, hsize, hvacant, rfl⟩ := make_ok h
  rcases List.eq_nil_or_concat' tail with rfl | ⟨tail, last, rfl⟩
  · -- all segments are walked already, so that nothing can be made under the last of them
    rw [List.append_nil] at hs
    rw [hs, walk_append, hwalk] at hfront
    change tree.walk dir [name] = _ at hfront
    rw [walk_cons] at hfront
    have hdir := hvacant.inside
    rw [List.dropLast_concat] at hdir
    rw [enter_of_not_stray hstray hdir, if_neg (by omega), hvacant.free] at hfront
    cases hfront
  · rw [← List.append_assoc] at hs
    obtain ⟨rfl, hlast⟩ := List.append_inj' hs rfl
    obtain rfl : last = name := by simpa using hlast
    rw [walk_append, hfront] at hwalk
    have hdir := walk_names (fun s hm => hnames s (List.mem_append_left _ hm)) hwalk
    subst hdir
    rw [List.append_assoc] at hvacant
    refine ⟨by simp, ?_, hvacant, by rw [List.append_assoc]⟩
    rw [← List.append_assoc, List.dropLast_concat, ← List.append_assoc, List.dropLast_concat, walk_append, hfront]
    exact hwalk

theorem make_taken {name : Text} (hname : IsName name) (h : tree.make path (front ++ [name]) entry = .error .taken) :
    ∃ dir, tree.walk (tree.origin path) front = .ok dir ∧ tree.entry? (dir ++ [name]) ≠ none := by
  unfold make at h
  cases hcheck : checkPath path with
  | error e =>
    rw [hcheck] at h
    cases h
    exact absurd rfl (checkPath_error hcheck).1
  | ok _ =>
    rw [hcheck, List.getLast?_concat, List.dropLast_concat] at h
    change (tree.walk (tree.origin path) front).bind _ = _ at h
    cases hwalk : tree.walk (tree.origin path) front with
    | error e =>
      rw [hwalk] at h
      cases h
      exact absurd hwalk walk_ne_taken
    | ok dir =>
      refine ⟨dir, rfl, fun hfree => ?_⟩
      have hstray := hname.not_stray
      rw [hwalk] at h
      unfold isStraySegment at hstray
      simp only [Except.bind, hstray, Bool.false_eq_true, if_false, hfree, Option.isSome_none] at h
      split at h
      · cases h
      split at h <;> cases h

/-! ## Paths that lead to nothing -/

/-- A walk down to an entry that is there gets there, unless a name is too long. -/
theorem walk_down (hrooted : tree.Rooted) : ∀ {place tail : List Text}, (∀ s ∈ tail, IsName s) →
    tree.entry? (place ++ tail) ≠ none →
      tree.walk place tail = .ok (place ++ tail) ∨ tree.walk place tail = .error .tooLong
  | place, [], _, _ => .inl (by rw [walk_nil, List.append_nil])
  | place, name :: rest, hnames, hthere => by
    have hdir := hrooted.above (List.cons_ne_nil name rest) hthere
    have hnext : place ++ name :: rest = place ++ [name] ++ rest := by simp
    rw [walk_cons, enter_of_not_stray (hnames name List.mem_cons_self).not_stray hdir]
    by_cases hsize : 255 < Text.utf8Size name
    · rw [if_pos hsize]
      exact .inr rfl
    have hstep : (tree.entry? (place ++ [name])).isNone = false := by
      rw [hnext] at hthere
      cases hrest : rest with
      | nil => rw [hrest, List.append_nil] at hthere; simpa [Option.isSome_iff_ne_none] using hthere
      | cons s more => rw [hrooted.above (by simp [hrest]) hthere]; rfl
    rw [if_neg hsize, hstep, if_neg Bool.false_ne_true, hnext]
    exact walk_down hrooted (fun s hm => hnames s (List.mem_cons_of_mem _ hm)) (by rwa [← hnext])

theorem free_of_not_taken (hrooted : tree.Rooted) (hnames : ∀ s ∈ tail, IsName s)
    (hfront : tree.walk (tree.origin path) front = .ok place) (hpath : segments path = front ++ tail)
    (hne : path ≠ []) (h : tree.isTaken path = .ok false) : tree.entry? (place ++ tail) = none := by
  by_contra hthere
  have hwalk : tree.walk (tree.origin path) (segments path) = tree.walk place tail := by
    rw [hpath, walk_append, hfront]
    rfl
  unfold isTaken at h
  cases hcheck : checkPath path with
  | error e =>
    have hfind : tree.find path = .error e := by
      unfold find
      simp only [hcheck, Bind.bind, Except.bind]
    rw [hfind] at h
    cases e with
    | missing => exact hne ((checkPath_error hcheck).2 rfl)
    | _ => cases h
  | ok _ =>
    rcases walk_down hrooted hnames hthere with hw | hw
    · obtain ⟨entry, hentry⟩ := Option.ne_none_iff_exists'.1 hthere
      rw [find_of_walk hcheck (hwalk.trans hw) hentry] at h
      cases h
    · rw [find_of_walk_error hcheck (hwalk.trans hw)] at h
      cases h

/-- **Where nothing is, nothing lies below.** -/
theorem nothing_below (hrooted : tree.Rooted) (hfree : tree.entry? names = none) :
    ∀ e ∈ tree.entries, ¬ names <+: e.1 := by
  rintro ⟨found, entry⟩ hmem ⟨tail, rfl⟩
  have hthere := entry?_of_mem hmem
  cases tail with
  | nil => rw [List.append_nil] at hthere; exact hthere hfree
  | cons s rest =>
    rw [hrooted.above (List.cons_ne_nil s rest) hthere] at hfree
    cases hfree

/-! ## Making directories -/

/-- The segments of a path without the empty ones at its end. -/
def trimmedSegments (path : Text) : List Text := ((segments path).reverse.dropWhile List.isEmpty).reverse

theorem segments_eq_trimmed (path : Text) :
    ∃ idle, (∀ s ∈ idle, s = []) ∧ segments path = trimmedSegments path ++ idle := by
  refine ⟨((segments path).reverse.takeWhile List.isEmpty).reverse, ?_, ?_⟩
  · intro s hs
    simpa using List.all_eq_true.1 (List.all_takeWhile (p := List.isEmpty)) s (List.mem_reverse.1 hs)
  · unfold trimmedSegments
    rw [← List.reverse_append, List.takeWhile_append_dropWhile, List.reverse_reverse]

theorem makeDirectory_of_walk (h : tree.walk (tree.origin path) (segments path) = .ok place) :
    tree.makeDirectory path ≠ .ok tree' := by
  intro hmake
  obtain ⟨idle, -, hs⟩ := segments_eq_trimmed path
  rw [hs] at h
  obtain ⟨next, hnext, -⟩ := walk_append_ok h
  unfold makeDirectory at hmake
  change tree.make path (trimmedSegments path) .directory = _ at hmake
  rw [← List.append_nil (trimmedSegments path)] at hmake
  exact (make_below (by simp) hnext hmake).1 rfl

theorem walk_idles (hdir : tree.entry? place = some .directory) : ∀ {idle : List Text}, (∀ s ∈ idle, s = []) →
    tree.walk place idle = .ok place
  | [], _ => walk_nil tree place
  | s :: idle, h => by
    obtain rfl := h s List.mem_cons_self
    rw [walk_cons, enter_idle rfl hdir]
    exact walk_idles hdir fun s hs => h s (List.mem_cons_of_mem _ hs)

theorem isDirectory_of_make (h : tree.makeDirectory path = .ok tree') : tree'.isDirectory path = true := by
  obtain ⟨front, name, dir, hs, hcheck, hwalk, hstray, hsize, hvacant, rfl⟩ := make_ok h
  obtain ⟨idle, hidle, hall⟩ := segments_eq_trimmed path
  have hdir : tree.entry? dir = some .directory := by
    have := hvacant.inside
    rwa [List.dropLast_concat] at this
  have hmade : FileTree.entry? (tree.plus [(dir ++ [name], .directory)]) (dir ++ [name]) = some .directory :=
    entry?_plus_new hvacant
  have hnew : (tree.plus [(dir ++ [name], .directory)]).walk (tree.origin path) (segments path) =
      .ok (dir ++ [name]) := by
    have hfull : segments path = front ++ ([name] ++ idle) := by
      rw [hall, ← List.append_assoc]
      exact congrArg (· ++ idle) hs
    rw [hfull, walk_append, walk_plus hwalk]
    change FileTree.walk _ dir (name :: idle) = _
    rw [walk_cons, enter_of_not_stray hstray (entry?_plus hdir), if_neg (by omega), hmade]
    exact walk_idles hmade hidle
  unfold isDirectory
  rw [find_of_walk hcheck hnew hmade]

end FileTree
end ImportDispatch
