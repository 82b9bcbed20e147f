import ImportDispatch.Workflow.Order
import Mathlib.Data.List.Basic
import Mathlib.Logic.Relation
/-!
# The search for an order finds one exactly in a graph without cycles

A depth-first search keeps every node in one of three states: not met, open, or finished.  An open node is on the stack
and leads to all that lies above its topmost place there (`SearchState.reaches`); so an edge out of a node that is
being finished goes either to a node finished before it or to a node that leads back to it.  That is what is left of
the search in its result (`FinishOrder.back`), and it is why the node that `lookBack` finds lies on a cycle
(`transGen_of_cycleNode?`).  The other half needs no search: if `lookBack` finds nothing, the result lists every node
behind those that lead to it (`acyclic_of_cycleNode?`).
-/
namespace ImportDispatch
namespace Order

open Relation (ReflTransGen TransGen)

def Edge (next : Nat → List Nat) (x y : Nat) : Prop := y ∈ next x

variable {next previous : Nat → List Nat} {nodes fresh stack done order : List Nat} {x y : Nat}

/-! ## What a search keeps -/

/-- Node `g` is open, and this is its topmost place on the stack. -/
structure OpenAt (fresh done : List Nat) (above : List Nat) (g : Nat) : Prop where
  topmost : g ∉ above
  met : g ∉ fresh
  unfinished : g ∉ done

/-- What holds of a search of `nodes` at every step. -/
structure SearchState (next : Nat → List Nat) (nodes fresh stack done : List Nat) : Prop where
  fresh_nodup : fresh.Nodup
  done_nodup : done.Nodup
  done_met : ∀ x ∈ done, x ∉ fresh
  /-- No node is lost. -/
  kept : ∀ x ∈ nodes, x ∈ stack ∨ x ∈ done
  loopless : ∀ x ∈ nodes, x ∉ fresh → x ∉ next x
  /-- An open node leads to all that lies above it. -/
  reaches : ∀ above g below, stack = above ++ g :: below → OpenAt fresh done above g →
    ∀ z ∈ above, ReflTransGen (Edge next) g z
  /-- What an open node leads to has been met or lies above it. -/
  pushed : ∀ above g below, stack = above ++ g :: below → OpenAt fresh done above g →
    ∀ z ∈ next g, z ∈ fresh → z ∈ above
  /-- What a finished node leads to was finished before it or leads back to it. -/
  back : ∀ front y earlier, done = front ++ y :: earlier → ∀ z ∈ next y, z ∈ earlier ∨ ReflTransGen (Edge next) z y

/-- What is left of a search when it is over. -/
structure FinishOrder (next : Nat → List Nat) (nodes order : List Nat) : Prop where
  nodup : order.Nodup
  complete : ∀ x ∈ nodes, x ∈ order
  loopless : ∀ x ∈ nodes, x ∉ next x
  back : ∀ front y earlier, order = front ++ y :: earlier → ∀ z ∈ next y, z ∈ earlier ∨ ReflTransGen (Edge next) z y

theorem SearchState.init (next : Nat → List Nat) (hn : nodes.Nodup) : SearchState next nodes nodes nodes [] where
  fresh_nodup := hn
  done_nodup := List.nodup_nil
  done_met := by simp
  kept x hx := Or.inl hx
  loopless x hx h := absurd hx h
  reaches above g below hs ho := absurd (by rw [hs]; simp) ho.met
  pushed above g below hs ho := absurd (by rw [hs]; simp) ho.met
  back front y earlier h := by simp at h

theorem SearchState.finished (inv : SearchState next nodes fresh [] done) : FinishOrder next nodes done where
  nodup := inv.done_nodup
  complete x hx := (inv.kept x hx).resolve_left (List.not_mem_nil)
  loopless x hx :=
    inv.loopless x hx (inv.done_met x ((inv.kept x hx).resolve_left (List.not_mem_nil)))
  back := inv.back

/-- The topmost place of an open node survives below what is pushed on top of the stack. -/
theorem split_pushed {pushes above below : List Nat} {g : Nat} (hp : ∀ z ∈ pushes, z ∈ fresh) (hg : g ∉ fresh)
    (hs : pushes ++ stack = above ++ g :: below) : ∃ mid, above = pushes ++ mid ∧ stack = mid ++ g :: below := by
  rcases List.append_eq_append_iff.1 hs with ⟨mid, ha, hb⟩ | ⟨mid, ha, hb⟩
  · exact ⟨mid, ha, hb⟩
  · cases mid with
    | nil => exact ⟨[], by simpa using ha.symm, by simpa using hb.symm⟩
    | cons z mid =>
      rw [List.cons_append, List.cons.injEq] at hb
      exact absurd (hp g (by rw [ha, hb.1]; simp)) hg

theorem split_cons {below mid tail : List Nat} {g : Nat} (hs : x :: below = mid ++ g :: tail) :
    (mid = [] ∧ g = x) ∨ x ∈ mid := by
  cases mid with
  | nil => rw [List.nil_append, List.cons.injEq] at hs; exact Or.inl ⟨rfl, hs.1.symm⟩
  | cons z mid => rw [List.cons_append, List.cons.injEq] at hs; exact Or.inr (by simp [hs.1])

/-- Meeting a node: it becomes open, and what it leads to is pushed above it. -/
theorem SearchState.meet {below : List Nat} (inv : SearchState next nodes fresh (x :: below) done) (hx : x ∈ fresh)
    (hloop : x ∉ next x) :
    SearchState next nodes (fresh.erase x) (((next x).filter (· ∈ fresh.erase x)).reverse ++ x :: below) done := by
  have herase : ∀ z, z ∈ fresh.erase x ↔ z ≠ x ∧ z ∈ fresh := fun z => inv.fresh_nodup.mem_erase_iff
  have hpushes : ∀ z ∈ ((next x).filter (· ∈ fresh.erase x)).reverse, z ∈ next x ∧ z ∈ fresh.erase x := by
    intro z hz
    simpa using hz
  -- a node open now is the one just met, with nothing below the pushed nodes above it, or was open at this place before
  have hopen : ∀ above g tail, ((next x).filter (· ∈ fresh.erase x)).reverse ++ x :: below = above ++ g :: tail →
      OpenAt (fresh.erase x) done above g →
      ∃ mid, above = ((next x).filter (· ∈ fresh.erase x)).reverse ++ mid ∧ x :: below = mid ++ g :: tail ∧
        ((mid = [] ∧ g = x) ∨ (x ∈ mid ∧ OpenAt fresh done mid g)) := by
    intro above g tail hs ho
    obtain ⟨mid, rfl, hs'⟩ := split_pushed (fun z hz => (hpushes z hz).2) ho.met hs
    have htop : g ∉ mid := fun h => ho.topmost (List.mem_append_right _ h)
    refine ⟨mid, rfl, hs', (split_cons hs').imp_right (fun hxm => ⟨hxm, htop, fun h => ho.met ?_, ho.unfinished⟩)⟩
    exact (herase g).2 ⟨fun he => htop (he ▸ hxm), h⟩
  refine ⟨inv.fresh_nodup.erase x, inv.done_nodup, ?_, ?_, ?_, ?_, ?_, inv.back⟩
  · intro z hz h
    exact inv.done_met z hz ((herase z).1 h).2
  · intro z hz
    exact (inv.kept z hz).imp_left (List.mem_append_right _)
  · intro z hz h
    by_cases hzx : z = x
    · rw [hzx]; exact hloop
    · exact inv.loopless z hz (fun hf => h ((herase z).2 ⟨hzx, hf⟩))
  · intro above g tail hs ho z hz
    obtain ⟨mid, rfl, hs', ⟨rfl, rfl⟩ | ⟨hxm, ho'⟩⟩ := hopen above g tail hs ho
    · rw [List.append_nil] at hz
      exact ReflTransGen.single (hpushes z hz).1
    · have hreach := inv.reaches mid g tail hs' ho'
      rcases List.mem_append.1 hz with hz | hz
      · exact (hreach x hxm).tail (hpushes z hz).1
      · exact hreach z hz
  · intro above g tail hs ho z hz hfresh
    obtain ⟨mid, rfl, hs', ⟨rfl, rfl⟩ | ⟨hxm, ho'⟩⟩ := hopen above g tail hs ho
    · exact List.mem_append_left _ (by simpa using ⟨hz, hfresh⟩)
    · exact List.mem_append_right _ (inv.pushed mid g tail hs' ho' z hz ((herase z).1 hfresh).2)

theorem SearchState.pass {below : List Nat} (inv : SearchState next nodes fresh (x :: below) done) (hd : x ∈ done) :
    SearchState next nodes fresh below done := by
  have hopen : ∀ above g tail, below = above ++ g :: tail → OpenAt fresh done above g →
      x :: below = (x :: above) ++ g :: tail ∧ OpenAt fresh done (x :: above) g := by
    intro above g tail hs ho
    refine ⟨by rw [hs]; rfl, ?_, ho.met, ho.unfinished⟩
    rintro (_ | ⟨_, h⟩)
    · exact ho.unfinished hd
    · exact ho.topmost h
  refine ⟨inv.fresh_nodup, inv.done_nodup, inv.done_met, ?_, inv.loopless, ?_, ?_, inv.back⟩
  · intro z hz
    rcases inv.kept z hz with (_ | ⟨_, h⟩) | h
    · exact Or.inr hd
    · exact Or.inl h
    · exact Or.inr h
  · intro above g tail hs ho z hz
    obtain ⟨hs', ho'⟩ := hopen above g tail hs ho
    exact inv.reaches _ g tail hs' ho' z (List.mem_cons_of_mem x hz)
  · intro above g tail hs ho z hz hfresh
    obtain ⟨hs', ho'⟩ := hopen above g tail hs ho
    rcases inv.pushed _ g tail hs' ho' z hz hfresh with _ | ⟨_, h⟩
    · exact absurd hfresh (inv.done_met _ hd)
    · exact h

theorem SearchState.finish {below : List Nat} (inv : SearchState next nodes fresh (x :: below) done)
    (hin : ∀ y z, z ∈ next y → z ∈ nodes) (hm : x ∉ fresh) (hd : x ∉ done) :
    SearchState next nodes fresh below (x :: done) := by
  have hx : OpenAt fresh done [] x := ⟨by simp, hm, hd⟩
  have hopen : ∀ above g tail, below = above ++ g :: tail → OpenAt fresh (x :: done) above g →
      x :: below = (x :: above) ++ g :: tail ∧ OpenAt fresh done (x :: above) g := by
    intro above g tail hs ho
    have hu := ho.unfinished
    rw [List.mem_cons, not_or] at hu
    exact ⟨by rw [hs]; rfl, by simp [hu.1, ho.topmost], ho.met, hu.2⟩
  refine ⟨inv.fresh_nodup, List.nodup_cons.2 ⟨hd, inv.done_nodup⟩, ?_, ?_, inv.loopless, ?_, ?_, ?_⟩
  · rintro z (_ | ⟨_, hz⟩)
    · exact hm
    · exact inv.done_met z hz
  · intro z hz
    rcases inv.kept z hz with (_ | ⟨_, h⟩) | h
    · exact Or.inr List.mem_cons_self
    · exact Or.inl h
    · exact Or.inr (List.mem_cons_of_mem _ h)
  · intro above g tail hs ho z hz
    obtain ⟨hs', ho'⟩ := hopen above g tail hs ho
    exact inv.reaches _ g tail hs' ho' z (List.mem_cons_of_mem x hz)
  · intro above g tail hs ho z hz hfresh
    obtain ⟨hs', ho'⟩ := hopen above g tail hs ho
    rcases inv.pushed _ g tail hs' ho' z hz hfresh with _ | ⟨_, h⟩
    · exact absurd hfresh hm
    · exact h
  · intro front y earlier hs z hz
    cases front with
    | cons w front =>
      rw [List.cons_append, List.cons.injEq] at hs
      exact inv.back front y earlier hs.2 z hz
    | nil =>
      rw [List.nil_append, List.cons.injEq] at hs
      obtain ⟨rfl, rfl⟩ := hs
      -- all that the node leads to has been met, so it is finished, the node itself, or open further down
      rcases inv.kept z (hin _ z hz) with (_ | ⟨_, hb⟩) | hdone
      · exact Or.inr ReflTransGen.refl
      · by_cases hdone : z ∈ done
        · exact Or.inl hdone
        by_cases hzx : z = x
        · exact Or.inr (by rw [hzx])
        have hzm : z ∉ fresh := fun h => by
          have := inv.pushed [] x below rfl hx z hz h
          simp at this
        obtain ⟨above, tail, hs, htop⟩ := List.eq_append_cons_of_mem hb
        have ho : OpenAt fresh done (x :: above) z := ⟨by simp [hzx, htop], hzm, hdone⟩
        exact Or.inr (inv.reaches _ z tail (by rw [hs]; rfl) ho x List.mem_cons_self)
      · exact Or.inl hdone

/-- **A search that ends well has listed every node, and what a node leads to was listed before it or leads back to
it.** -/
theorem finishOrder_of_search (hin : ∀ y z, z ∈ next y → z ∈ nodes)
    (inv : SearchState next nodes fresh stack done) (h : search next fresh stack done = .ok order) :
    FinishOrder next nodes order := by
  induction fresh, stack, done using search.induct next with
  | case1 fresh done =>
    rw [search] at h
    cases h
    exact inv.finished
  | case2 fresh done x below hm hloop =>
    rw [search, if_pos hm, if_pos hloop] at h
    cases h
  | case3 fresh done x below hm hloop ih =>
    rw [search, if_pos hm, if_neg hloop] at h
    exact ih (inv.meet hm hloop) h
  | case4 fresh done x below hm ih =>
    rw [search, if_neg hm] at h
    refine ih ?_ h
    split
    · exact inv.pass (by assumption)
    · exact inv.finish hin hm (by assumption)

theorem loop_of_search (h : search next fresh stack done = .error x) : x ∈ next x := by
  induction fresh, stack, done using search.induct next with
  | case1 fresh done =>
    rw [search] at h
    cases h
  | case2 fresh done z below hm hloop =>
    rw [search, if_pos hm, if_pos hloop] at h
    cases h
    exact hloop
  | case3 fresh done z below hm hloop ih =>
    rw [search, if_pos hm, if_neg hloop] at h
    exact ih h
  | case4 fresh done z below hm ih =>
    rw [search, if_neg hm] at h
    exact ih h

/-! ## Looking back -/

theorem lookBack_cons (x : Nat) (rest fresh : List Nat) :
    lookBack previous (x :: rest) fresh =
      if x ∈ fresh then
        match ((previous x).filter (· ∈ fresh.erase x)).getLast? with
        | some y => some y
        | none => lookBack previous rest (fresh.erase x)
      else lookBack previous rest fresh := rfl

/-- A node found from behind leads to a node that stands before it in the order. -/
theorem lookBack_eq_some (hn : fresh.Nodup) (h : lookBack previous order fresh = some y) :
    ∃ front x rest, order = front ++ x :: rest ∧ y ∈ previous x ∧ y ∈ fresh ∧ y ∉ front ∧ y ≠ x := by
  induction order generalizing fresh with
  | nil => cases h
  | cons z rest ih =>
    rw [lookBack_cons] at h
    by_cases hz : z ∈ fresh
    · rw [if_pos hz] at h
      cases hl : ((previous z).filter (· ∈ fresh.erase z)).getLast? with
      | some w =>
        rw [hl] at h
        cases h
        obtain ⟨hp, hf⟩ := List.mem_filter.1 (List.mem_of_getLast? hl)
        rw [decide_eq_true_eq, hn.mem_erase_iff] at hf
        exact ⟨[], z, rest, rfl, hp, hf.2, List.not_mem_nil, hf.1⟩
      | none =>
        rw [hl] at h
        obtain ⟨front, x, back, rfl, hp, hf, hfront, hne⟩ := ih (hn.erase z) h
        rw [hn.mem_erase_iff] at hf
        exact ⟨z :: front, x, back, rfl, hp, hf.2, by simp [hf.1, hfront], hne⟩
    · rw [if_neg hz] at h
      obtain ⟨front, x, back, rfl, hp, hf, hfront, hne⟩ := ih hn h
      exact ⟨z :: front, x, back, rfl, hp, hf, by simp [hfront, show y ≠ z from fun he => hz (he ▸ hf)], hne⟩

/-- If nothing is found from behind, every node stands behind those that lead to it. -/
theorem lookBack_eq_none (hn : fresh.Nodup) (h : lookBack previous order fresh = none) :
    ∀ front x rest, order = front ++ x :: rest → x ∈ fresh → x ∉ front →
      ∀ y ∈ previous x, y ∈ fresh → y ≠ x → y ∈ front := by
  induction order generalizing fresh with
  | nil => intro front x rest hs; simp at hs
  | cons z order ih =>
    intro front x rest hs hx hxf y hy hyf hyx
    rw [lookBack_cons] at h
    by_cases hz : z ∈ fresh
    · rw [if_pos hz] at h
      cases hl : ((previous z).filter (· ∈ fresh.erase z)).getLast? with
      | some w => rw [hl] at h; cases h
      | none =>
        rw [hl] at h
        cases front with
        | nil =>
          rw [List.nil_append, List.cons.injEq] at hs
          obtain ⟨rfl, rfl⟩ := hs
          have hmem : y ∈ (previous z).filter (· ∈ fresh.erase z) :=
            List.mem_filter.2 ⟨hy, by simpa using hn.mem_erase_iff.2 ⟨hyx, hyf⟩⟩
          rw [List.getLast?_eq_none_iff.1 hl] at hmem
          exact absurd hmem List.not_mem_nil
        | cons w front =>
          rw [List.cons_append, List.cons.injEq] at hs
          obtain ⟨rfl, rfl⟩ := hs
          rw [List.mem_cons, not_or] at hxf
          by_cases hyz : y = z
          · rw [hyz]; exact List.mem_cons_self
          · exact List.mem_cons_of_mem z (ih (hn.erase z) h front x rest rfl (hn.mem_erase_iff.2 ⟨hxf.1, hx⟩) hxf.2
              y hy (hn.mem_erase_iff.2 ⟨hyz, hyf⟩) hyx)
    · rw [if_neg hz] at h
      cases front with
      | nil =>
        rw [List.nil_append, List.cons.injEq] at hs
        exact absurd hx (hs.1 ▸ hz)
      | cons w front =>
        rw [List.cons_append, List.cons.injEq] at hs
        obtain ⟨rfl, rfl⟩ := hs
        rw [List.mem_cons, not_or] at hxf
        exact List.mem_cons_of_mem z (ih hn h front x rest rfl hx hxf.2 y hy hyf hyx)

/-! ## Cycles -/

/-- **The node that is told lies on a cycle.** -/
theorem transGen_of_cycleNode? {count : Nat} (hin : ∀ y z, z ∈ next y → z < count)
    (hprev : ∀ y z, y ∈ previous z ↔ z ∈ next y) (h : cycleNode? count next previous = some x) :
    TransGen (Edge next) x x := by
  have hin' : ∀ y z, z ∈ next y → z ∈ List.range count := fun y z hz => List.mem_range.2 (hin y z hz)
  unfold cycleNode? at h
  split at h
  · rename_i z hs
    cases h
    exact TransGen.single (loop_of_search hs)
  · rename_i order hs
    have hord := finishOrder_of_search hin' (SearchState.init next List.nodup_range) hs
    obtain ⟨front, w, rest, horder, hp, hrange, hfront, hne⟩ := lookBack_eq_some List.nodup_range h
    have hedge : w ∈ next x := (hprev x w).1 hp
    -- the node stands in the order behind the one it leads to
    have hx : x ∈ rest := by
      have := hord.complete x hrange
      rw [horder] at this
      simpa [hfront, hne] using this
    obtain ⟨mid, tail, rfl⟩ := List.append_of_mem hx
    rw [show front ++ w :: (mid ++ x :: tail) = (front ++ w :: mid) ++ x :: tail by simp] at horder
    rcases hord.back _ x tail horder w hedge with hw | hw
    · have hnd := hord.nodup
      rw [horder] at hnd
      exact absurd rfl ((List.nodup_append.1 hnd).2.2 w (by simp) w (List.mem_cons_of_mem _ hw))
    · exact TransGen.head' hedge hw

/-- **If no node is told, there is no cycle.** -/
theorem acyclic_of_cycleNode? {count : Nat} (hin : ∀ y z, z ∈ next y → y < count ∧ z < count)
    (hprev : ∀ y z, y ∈ previous z ↔ z ∈ next y) (h : cycleNode? count next previous = none) (x : Nat) :
    ¬ TransGen (Edge next) x x := by
  have hin' : ∀ y z, z ∈ next y → z ∈ List.range count := fun y z hz => List.mem_range.2 (hin y z hz).2
  unfold cycleNode? at h
  split at h
  · cases h
  · rename_i order hs
    have hord := finishOrder_of_search hin' (SearchState.init next List.nodup_range) hs
    have hstep : ∀ y z, Edge next y z → order.idxOf y < order.idxOf z := by
      intro y z hyz
      obtain ⟨hy, hz⟩ := hin y z hyz
      have hne : y ≠ z := fun he => hord.loopless z (List.mem_range.2 hz) (he ▸ hyz)
      obtain ⟨front, rest, horder, hfront⟩ := List.eq_append_cons_of_mem (hord.complete z (List.mem_range.2 hz))
      have hyf := lookBack_eq_none List.nodup_range h front z rest horder (List.mem_range.2 hz) hfront y
        ((hprev y z).2 hyz) (List.mem_range.2 hy) hne
      rw [horder, List.idxOf_append_of_mem hyf, List.idxOf_append_of_notMem hfront, List.idxOf_cons_self]
      exact List.idxOf_lt_length_of_mem hyf
    have hlt : ∀ y z, TransGen (Edge next) y z → order.idxOf y < order.idxOf z := by
      intro y z hyz
      induction hyz with
      | single hz => exact hstep _ _ hz
      | tail _ hz ih => exact Nat.lt_trans ih (hstep _ _ hz)
    exact fun hx => Nat.lt_irrefl _ (hlt x x hx)

end Order
end ImportDispatch
