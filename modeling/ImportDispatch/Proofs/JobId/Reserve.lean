import ImportDispatch.Proofs.Attempt
import ImportDispatch.Proofs.JobId.Reading
/-!
# Ids are given out once

Reservations are forgotten when the second changes, so that what has been given out is only remembered for the rest of
its second (`Remembers`).  That is enough: the stamp of a later second makes every id of it differ from all ids of
earlier ones, whatever their names (`JobId.grown_injective`), and the clock does not come back to a second it has left.
-/
namespace ImportDispatch

open Attempt (runOn)

/-! ## What a reservation does -/

@[simp] theorem Reservations.inSecond_stamp (reserved : Reservations) (stamp : Text) :
    (reserved.inSecond stamp).stamp = stamp := by
  unfold inSecond
  split
  · assumption
  · rfl

namespace JobId

variable {σ : Type} {workspace : Workspace σ} {dirs : List Text}

/-- Whether a directory is taken: by a reservation, or by what is there. -/
def ask (workspace : Workspace σ) (dirs : List Text) (dir : Text) : Attempt ReservationError σ Bool :=
  if dirs.elem dir then pure true else (workspace.isTaken dir).adapt .storage

theorem firstFree_eq (suffixes : List Text) (id : Text) :
    firstFree workspace dirs suffixes id = (do
      let taken ← ask workspace dirs (workspace.workflowDir id [])
      if !taken then return id
      else match suffixes with
        | [] => throw .suffixesUsedUp
        | suffix :: rest => firstFree workspace dirs rest (id ++ '-' :: suffix)) := by
  rw [firstFree.eq_def]
  unfold ask
  dsimp only
  split <;> cases suffixes <;> rfl

theorem ask_free {dir : Text} {s s' : σ} (h : runOn (ask workspace dirs dir) s = (.ok false, s')) :
    dir ∉ dirs ∧ runOn (workspace.isTaken dir) s = (.ok false, s') := by
  unfold ask at h
  by_cases hd : dir ∈ dirs
  · rw [if_pos (by simpa using hd)] at h
    cases h
  · rw [if_neg (by simpa using hd), Attempt.runOn_adapt] at h
    refine ⟨hd, ?_⟩
    rcases hr : runOn (workspace.isTaken dir) s with ⟨_ | taken, s₁⟩
    · rw [hr] at h; cases h
    · rw [hr] at h; cases h; rfl

/-- The id that is found has grown by the first suffixes, and its directory is free. -/
theorem firstFree_ok : ∀ {suffixes : List Text} {id found : Text} {s s' : σ},
    runOn (firstFree workspace dirs suffixes id) s = (.ok found, s') →
    ∃ grownBy, grownBy <+: suffixes ∧ found = grown id grownBy ∧ workspace.workflowDir found [] ∉ dirs ∧
      ∃ s₀, runOn (workspace.isTaken (workspace.workflowDir found [])) s₀ = (.ok false, s')
  | suffixes, id, found, s, s', h => by
    rw [firstFree_eq] at h
    rcases ha : runOn (ask workspace dirs (workspace.workflowDir id [])) s with ⟨e | taken, s₁⟩
    · rw [Attempt.runOn_bind_error ha] at h
      cases h
    rw [Attempt.runOn_bind_ok ha] at h
    cases taken with
    | false =>
      cases h
      exact ⟨[], List.nil_prefix, rfl, (ask_free ha).1, s, (ask_free ha).2⟩
    | true =>
      cases suffixes with
      | nil => cases h
      | cons suffix rest =>
        obtain ⟨grownBy, hp, rfl, hd, hfree⟩ := firstFree_ok h
        exact ⟨suffix :: grownBy, List.cons_prefix_cons.2 ⟨rfl, hp⟩, rfl, hd, hfree⟩

/-- If asking leaves the storage alone, so does the search. -/
theorem firstFree_state (hask : ∀ path s, (runOn (workspace.isTaken path) s).2 = s) (dirs : List Text) :
    ∀ (suffixes : List Text) (id : Text) (s : σ), (runOn (firstFree workspace dirs suffixes id) s).2 = s
  | suffixes, id, s => by
    have hsame : (runOn (ask workspace dirs (workspace.workflowDir id [])) s).2 = s := by
      unfold ask
      split
      · rfl
      · rw [Attempt.runOn_adapt]; exact hask _ s
    rw [firstFree_eq, Attempt.runOn_bind]
    rcases ha : runOn (ask workspace dirs (workspace.workflowDir id [])) s with ⟨e | taken, s₁⟩
    · rw [ha] at hsame
      exact hsame
    rw [ha] at hsame
    cases taken with
    | false => exact hsame
    | true =>
      cases suffixes with
      | nil => exact hsame
      | cons suffix rest =>
        obtain rfl : s₁ = s := hsame
        exact firstFree_state hask dirs rest _ s₁

/-- An id that may be given out for a name at a time. -/
def IsIdOf (name : Text) (time : LocalTime) (id : Text) : Prop :=
  ∃ suffixes, (∀ x ∈ suffixes, IsSuffix x) ∧ id = grown (base name time.stampText) suffixes

/-- Ids of different seconds differ, whatever their names. -/
theorem IsIdOf.same_stamp {name name' : Text} {time time' : LocalTime} {id : Text} (h : IsIdOf name time id)
    (h' : IsIdOf name' time' id) : time.stampText = time'.stampText := by
  obtain ⟨suffixes, hs, rfl⟩ := h
  obtain ⟨suffixes', hs', he⟩ := h'
  exact (grown_injective (isStamp_stampText time) (isStamp_stampText time') hs hs' he).2.1

theorem reserve_eq (now : LocalTime) (suffixes : List Text) (name : Text) (reserved : Reservations) (s : σ) :
    runOn (reserve workspace now suffixes name) (reserved, s) =
      match runOn (firstFree workspace (reserved.inSecond now.stampText).dirs suffixes (base name now.stampText)) s with
      | (.ok id, s') => (.ok id, ({ reserved.inSecond now.stampText with
          dirs := workspace.workflowDir id [] :: (reserved.inSecond now.stampText).dirs }, s'))
      | (.error e, s') => (.error e, (reserved.inSecond now.stampText, s')) := by
  unfold reserve
  simp only [Attempt.runOn_bind, Attempt.runOn_modify, Attempt.runOn_get, Attempt.runOn_within]
  rcases runOn (firstFree workspace (reserved.inSecond now.stampText).dirs suffixes (base name now.stampText)) s with
    ⟨_ | id, s'⟩ <;> rfl

/-- What is given out was found by the search, and is reserved from then on. -/
theorem firstFree_of_reserve {now : LocalTime} {suffixes : List Text} {name id : Text}
    {reserved reserved' : Reservations} {s s' : σ}
    (h : runOn (reserve workspace now suffixes name) (reserved, s) = (.ok id, (reserved', s'))) :
    runOn (firstFree workspace (reserved.inSecond now.stampText).dirs suffixes (base name now.stampText)) s =
        (.ok id, s') ∧
      reserved' = { reserved.inSecond now.stampText with
        dirs := workspace.workflowDir id [] :: (reserved.inSecond now.stampText).dirs } := by
  rw [reserve_eq] at h
  rcases hf : runOn (firstFree workspace (reserved.inSecond now.stampText).dirs suffixes (base name now.stampText)) s
    with ⟨e | found, s₁⟩ <;> rw [hf] at h <;> cases h
  exact ⟨rfl, rfl⟩

/-- **What is given out is an id of the name and the time, with a directory that was not reserved and that is not there;
it is reserved from then on.** -/
theorem reserve_ok {now : LocalTime} {suffixes : List Text} {name id : Text} {reserved reserved' : Reservations}
    {s s' : σ} (hsuffixes : ∀ x ∈ suffixes, IsSuffix x)
    (h : runOn (reserve workspace now suffixes name) (reserved, s) = (.ok id, (reserved', s'))) :
    IsIdOf name now id ∧ workspace.workflowDir id [] ∉ (reserved.inSecond now.stampText).dirs ∧
      reserved' = { reserved.inSecond now.stampText with
        dirs := workspace.workflowDir id [] :: (reserved.inSecond now.stampText).dirs } ∧
      ∃ s₀, runOn (workspace.isTaken (workspace.workflowDir id [])) s₀ = (.ok false, s') := by
  obtain ⟨hfound, hreserved⟩ := firstFree_of_reserve h
  obtain ⟨grownBy, hp, rfl, hd, hfree⟩ := firstFree_ok hfound
  exact ⟨⟨grownBy, fun x hx => hsuffixes x (hp.subset hx), rfl⟩, hd, hreserved, hfree⟩

/-- Every reservation keeps up with the clock, and what is reserved in the second of the clock stays so. -/
theorem reserve_grows (workspace : Workspace σ) (now : LocalTime) (suffixes : List Text) (name : Text)
    (reserved : Reservations) (s : σ) :
    (runOn (reserve workspace now suffixes name) (reserved, s)).2.1.stamp = now.stampText ∧
      (reserved.inSecond now.stampText).dirs ⊆
        (runOn (reserve workspace now suffixes name) (reserved, s)).2.1.dirs := by
  rw [reserve_eq]
  rcases runOn (firstFree workspace (reserved.inSecond now.stampText).dirs suffixes (base name now.stampText)) s with
    ⟨e | id, s'⟩
  · exact ⟨reserved.inSecond_stamp _, List.Subset.refl _⟩
  · exact ⟨reserved.inSecond_stamp _, List.subset_cons_self _ _⟩

theorem reserve_state (workspace : Workspace σ) (hask : ∀ path s, (runOn (workspace.isTaken path) s).2 = s)
    (now : LocalTime) (suffixes : List Text) (name : Text) (reserved : Reservations) (s : σ) :
    (runOn (reserve workspace now suffixes name) (reserved, s)).2.2 = s := by
  have hsame := firstFree_state hask (reserved.inSecond now.stampText).dirs suffixes (base name now.stampText) s
  rw [reserve_eq]
  rcases hf : runOn (firstFree workspace (reserved.inSecond now.stampText).dirs suffixes (base name now.stampText)) s
    with ⟨_ | id, s'⟩
  · rw [hf] at hsame
    exact hsame
  · rw [hf] at hsame
    exact hsame

/-! ## Reading back -/

/-- **An id can be read back.**  Its text tells the name in normal form, the stamp and the suffixes, even if the name ends
in what looks like a stamp or a suffix: ids of other parts are other texts.  An id that is given out tells the second of
the clock and the suffixes that were needed. -/
theorem read_back (name name' : Text) {stamp stamp' : Text} (hstamp : IsStamp stamp) (hstamp' : IsStamp stamp')
    {suffixes suffixes' : List Text} (hsuffixes : ∀ x ∈ suffixes, IsSuffix x)
    (hsuffixes' : ∀ x ∈ suffixes', IsSuffix x) :
    read? (grown (base name stamp) suffixes) = some ⟨normalName name, stamp, suffixes⟩ ∧
    (grown (base name stamp) suffixes = grown (base name' stamp') suffixes' →
      normalName name = normalName name' ∧ stamp = stamp' ∧ suffixes = suffixes') ∧
    ∀ (σ : Type) (workspace : Workspace σ) (now : LocalTime) (id : Text) (before after : Reservations × σ),
      runOn (reserve workspace now suffixes name) before = (.ok id, after) →
        ∃ needed, needed <+: suffixes ∧ read? id = some ⟨normalName name, now.stampText, needed⟩ := by
  refine ⟨read?_grown _ hstamp hsuffixes, grown_injective hstamp hstamp' hsuffixes hsuffixes', ?_⟩
  intro σ workspace now id before after hreserve
  obtain ⟨needed, hneeded, rfl, -⟩ := firstFree_ok (firstFree_of_reserve hreserve).1
  exact ⟨needed, hneeded, read?_grown _ (isStamp_stampText now) fun x hx => hsuffixes x (hneeded.subset hx)⟩

/-- Two spellings of a name that looks like an id. -/
theorem read_back_idLikeName :
    read? "daily_sales-160309-140507-aB-160309-140508-c1".toList =
        some ⟨"daily_sales-160309-140507-aB".toList, "160309-140508".toList, ["c1".toList]⟩ ∧
      normalName "daily sales-160309-140507-aB".toList = normalName "daily_sales-160309-140507-aB".toList := by
  have hstamp : IsStamp "160309-140508".toList :=
    isStamp_iff.2 ⟨"160309".toList, "140508".toList, by decide, by decide, by decide⟩
  have hsuffixes : ∀ x ∈ ["c1".toList], IsSuffix x := by decide
  have hspaced : grown (base "daily sales-160309-140507-aB".toList "160309-140508".toList) ["c1".toList] =
      "daily_sales-160309-140507-aB-160309-140508-c1".toList := by decide
  have hjoined : grown (base "daily_sales-160309-140507-aB".toList "160309-140508".toList) ["c1".toList] =
      "daily_sales-160309-140507-aB-160309-140508-c1".toList := by decide
  have hname : normalName "daily sales-160309-140507-aB".toList = "daily_sales-160309-140507-aB".toList := by decide
  obtain ⟨hread, hequal, -⟩ := read_back "daily sales-160309-140507-aB".toList "daily_sales-160309-140507-aB".toList
    hstamp hstamp hsuffixes hsuffixes
  rw [hspaced, hname] at hread
  exact ⟨hread, (hequal (hspaced.trans hjoined.symm)).1⟩

end JobId

/-! ## What is remembered -/

/-- A reading in the hundred years from `first` on. -/
def LocalTime.InCentury (first : Int) (t : LocalTime) : Prop := first ≤ t.year ∧ t.year < first + 100

instance (first : Int) (t : LocalTime) : Decidable (t.InCentury first) :=
  inferInstanceAs (Decidable (first ≤ t.year ∧ t.year < first + 100))

theorem LocalTime.InCentury.stampText_eq_iff {first : Int} {s t : LocalTime} (hs : s.InCentury first)
    (ht : t.InCentury first) : s.stampText = t.stampText ↔ s.ticks = t.ticks := by
  obtain ⟨hs₁, hs₂⟩ := hs
  obtain ⟨ht₁, ht₂⟩ := ht
  exact LocalTime.stampText_eq_iff (by omega)

/-- The second of a reading goes on until the clock shows another one. -/
theorem LocalTime.stampText_between {first : Int} {time now later : LocalTime} (htime : time.InCentury first)
    (hnow : now.InCentury first) (hlater : later.InCentury first) (hstep : now.before time = false)
    (hstep' : later.before now = false) (h : later.stampText = time.stampText) : now.stampText = time.stampText := by
  have hticks := (hlater.stampText_eq_iff htime).1 h
  have hfirst := ticks_le_of_not_before hstep
  have hsecond := ticks_le_of_not_before hstep'
  exact (hnow.stampText_eq_iff htime).2 (by omega)

namespace Reservations

variable {first : Int} {reserved reserved' : Reservations} {last now time : LocalTime} {dir : Text}

theorem inSecond_of_stamp {stamp : Text} (h : reserved.stamp = stamp) : reserved.inSecond stamp = reserved := if_pos h

/-- A directory given out at a time stays reserved as long as the second of that time goes on.  `last` is the latest
reading of the clock. -/
def Remembers (first : Int) (last : LocalTime) (reserved : Reservations) (time : LocalTime) (dir : Text) : Prop :=
  ∀ now : LocalTime, now.InCentury first → now.before last = false → now.stampText = time.stampText →
    dir ∈ (reserved.inSecond now.stampText).dirs

theorem remembers_now (hstamp : reserved.stamp = now.stampText) (hdir : dir ∈ reserved.dirs) :
    reserved.Remembers first now now dir := by
  intro t _ _ ht
  rw [inSecond_of_stamp (hstamp.trans ht.symm)]
  exact hdir

/-- **What is remembered stays remembered** through a step of the clock and reservations that only grow in it. -/
theorem Remembers.later (h : reserved.Remembers first last time dir) (htime : time.InCentury first)
    (hnow : now.InCentury first) (hlast : last.before time = false) (hstep : now.before last = false)
    (hstamp : reserved'.stamp = now.stampText) (hdirs : (reserved.inSecond now.stampText).dirs ⊆ reserved'.dirs) :
    reserved'.Remembers first now time dir := by
  intro t ht hbefore hsame
  have hnowtime : now.stampText = time.stampText :=
    LocalTime.stampText_between htime hnow ht (LocalTime.not_before_trans hlast hstep) hbefore hsame
  rw [inSecond_of_stamp (hstamp.trans (hnowtime.trans hsame.symm))]
  exact hdirs (h now hnow hstep hnowtime)

end Reservations
end ImportDispatch
