import ImportDispatch.Proofs.JobId.Reserve
import ImportDispatch.Storage.Shelf
/-!
# Runs of reservations

All reservations of a service go through one set of reserved directories, one after the other.  A run is the list of the
calls, each with the workspace it is for, what its clock shows, what its suffixes are and how its storage answers.  In
no such run an id is given out twice for one workspace (`ids_distinct`).
-/
namespace ImportDispatch
namespace JobId

open Attempt (runOn)

/-- A reservation, and what it meets outside. -/
structure Call where
  {σ : Type}
  workspace : Workspace σ
  /-- The storage as the call finds it. -/
  storage : σ
  now : LocalTime
  suffixes : List Text
  name : Text

namespace Call

/-- The answer to a call, and what is reserved after it. -/
def run (reserved : Reservations) (call : Call) : Except ReservationError Text × Reservations :=
  let (answer, (reserved, _)) :=
    runOn (reserve call.workspace call.now call.suffixes call.name) (reserved, call.storage)
  (answer, reserved)

def answers : Reservations → List Call → List (Call × Except ReservationError Text)
  | _, [] => []
  | reserved, call :: calls => (call, (call.run reserved).1) :: answers (call.run reserved).2 calls

variable {first : Int} {reserved : Reservations} {last time : LocalTime} {name given : Text} {call : Call}
  {dirOf : Text → Text → Text}

theorem run_ok (hsuffixes : ∀ x ∈ call.suffixes, IsSuffix x) (h : (call.run reserved).1 = .ok given) :
    IsIdOf call.name call.now given ∧
      call.workspace.workflowDir given [] ∉ (reserved.inSecond call.now.stampText).dirs ∧
      call.workspace.workflowDir given [] ∈ (call.run reserved).2.dirs := by
  rcases hr : runOn (reserve call.workspace call.now call.suffixes call.name) (reserved, call.storage) with
    ⟨result, reserved', s'⟩
  have hafter : (call.run reserved).2 = reserved' := by rw [run, hr]
  obtain rfl : result = .ok given := by rw [← h, run, hr]
  obtain ⟨hid, hfree, hgiven, -⟩ := reserve_ok hsuffixes hr
  rw [hafter, hgiven]
  exact ⟨hid, hfree, List.mem_cons_self⟩

theorem run_grows (reserved : Reservations) (call : Call) : (call.run reserved).2.stamp = call.now.stampText ∧
    (reserved.inSecond call.now.stampText).dirs ⊆ (call.run reserved).2.dirs :=
  reserve_grows call.workspace call.now call.suffixes call.name reserved call.storage

/-- An id that was given out is not given out again by a workspace with the same directories. -/
theorem answers_ne (hid : IsIdOf name time given) (htime : time.InCentury first) : ∀ {calls : List Call}
    {reserved : Reservations} {last : LocalTime}, reserved.Remembers first last time (dirOf given []) →
    last.before time = false → (∀ call ∈ calls, call.now.before last = false) →
    calls.Pairwise (fun c d => d.now.before c.now = false) → (∀ call ∈ calls, call.now.InCentury first) →
    (∀ call ∈ calls, ∀ x ∈ call.suffixes, IsSuffix x) →
    ∀ answer ∈ answers reserved calls, answer.1.workspace.workflowDir = dirOf → answer.2 ≠ .ok given
  | [], _, _, _, _, _, _, _, _ => fun _ h => by cases h
  | call :: calls, reserved, last, hmem, hlast, hafter, hclock, hcentury, hsuffixes => by
    have hnow := hcentury call List.mem_cons_self
    have hstep := hafter call List.mem_cons_self
    rw [List.pairwise_cons] at hclock
    rintro answer (_ | ⟨_, hanswer⟩) hdirs
    · intro hok
      obtain ⟨hid', hfree, -⟩ := run_ok (hsuffixes call List.mem_cons_self) hok
      have hreserved := hmem call.now hnow hstep (hid'.same_stamp hid)
      rw [← hdirs] at hreserved
      exact hfree hreserved
    · obtain ⟨hstamp, hkept⟩ := call.run_grows reserved
      refine answers_ne hid htime (hmem.later htime hnow hlast hstep hstamp hkept)
        (LocalTime.not_before_trans hlast hstep) hclock.1 hclock.2 ?_ ?_ answer hanswer hdirs
      · exact fun c hc => hcentury c (List.mem_cons_of_mem _ hc)
      · exact fun c hc => hsuffixes c (List.mem_cons_of_mem _ hc)

/-- **No id is given out twice for one workspace**: in no run of reservations, with any names, workspaces, suffixes and
answers of the storages, as long as the clock does not go backwards and stays in one hundred years. -/
theorem ids_distinct (first : Int) (reserved : Reservations) (calls : List Call)
    (hclock : calls.Pairwise fun c d => d.now.before c.now = false)
    (hcentury : ∀ call ∈ calls, call.now.InCentury first)
    (hsuffixes : ∀ call ∈ calls, ∀ x ∈ call.suffixes, IsSuffix x) :
    (answers reserved calls).Pairwise fun earlier later =>
      earlier.1.workspace.workflowDir = later.1.workspace.workflowDir →
      ∀ id, earlier.2 = .ok id → later.2 ≠ .ok id := by
  induction calls generalizing reserved with
  | nil => exact List.Pairwise.nil
  | cons call calls ih =>
    rw [List.pairwise_cons] at hclock
    have hcentury' := fun c hc => hcentury c (List.mem_cons_of_mem call hc)
    have hsuffixes' := fun c hc => hsuffixes c (List.mem_cons_of_mem call hc)
    refine List.Pairwise.cons ?_ (ih (call.run reserved).2 hclock.2 hcentury' hsuffixes')
    intro later hlater hdirs id hok
    obtain ⟨hid, -, hgiven⟩ := run_ok (hsuffixes call List.mem_cons_self) hok
    exact answers_ne hid (hcentury call List.mem_cons_self)
      (Reservations.remembers_now (call.run_grows reserved).1 hgiven) (LocalTime.not_before_self call.now) hclock.1
      hclock.2 hcentury' hsuffixes' later hlater hdirs.symm

def sampleCall (name : String) (second : Nat) : Call where
  workspace := Shelf.workspaceOf "acme".toList
  storage := {}
  now := .sample second
  suffixes := ["aB".toList, "c1".toList]
  name := name.toList

/-- Two calls in one second, and one in the next whose name looks like an id of that second. -/
def sampleCalls : List Call :=
  [sampleCall "daily" 7, sampleCall "daily" 7, sampleCall "daily-160309-140507" 8]

theorem ids_distinct_sample : (answers {} sampleCalls).map Prod.snd =
      [.ok "daily-160309-140507".toList, .ok "daily-160309-140507-aB".toList,
        .ok "daily-160309-140507-160309-140508".toList] ∧
    (answers {} sampleCalls).Pairwise fun earlier later =>
      earlier.1.workspace.workflowDir = later.1.workspace.workflowDir →
      ∀ id, earlier.2 = .ok id → later.2 ≠ .ok id :=
  ⟨by decide, ids_distinct 2000 {} sampleCalls (by decide) (by decide) (by decide)⟩

end Call
end JobId
end ImportDispatch
