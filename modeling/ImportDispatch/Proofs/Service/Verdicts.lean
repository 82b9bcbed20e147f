import ImportDispatch.Proofs.Attempt
import ImportDispatch.Proofs.Service.Acceptance
/-!
# Verdicts

A submission can fail over the request itself: it breaks rules, or its times leave the calendar.  It is judged before
anything else is done, and however it fails later, that is no verdict on the request (`Service.submit_verdict`).
-/
namespace ImportDispatch

open Attempt (runOn)

/-- The failure is about the request itself, and not about what was made of it. -/
def SubmissionFailure.IsVerdict : SubmissionFailure → Prop
  | rejected _ | beyondCalendar => True
  | _ => False

namespace Service

variable {σ τ α β : Type} {service : Service σ τ} {workspace : Workspace σ} {org : Text} {now : LocalTime}
  {suffixes : List Text} {request : JobRequest}

/-- However the step fails, it is no verdict on the request. -/
def JudgesNothing (step : Step σ τ α) : Prop := ∀ s e, (runOn step s).1 = .error e → ¬e.IsVerdict

namespace JudgesNothing

theorem pure (a : α) : JudgesNothing (Pure.pure a : Step σ τ α) := fun _ _ h => nomatch h

theorem of_run {step : Step σ τ α} (h : JudgesNothing step) {e : SubmissionFailure} {s s' : ServiceState σ τ}
    (hrun : runOn step s = (.error e, s')) : ¬e.IsVerdict := h s e (congrArg Prod.fst hrun)

theorem of_mapError {ε : Type} {step : Step σ τ α} {wrap : ε → SubmissionFailure} (hwrap : ∀ e, ¬(wrap e).IsVerdict)
    (outcome : ServiceState σ τ → Except ε α) (hstep : ∀ s, (runOn step s).1 = (outcome s).mapError wrap) :
    JudgesNothing step := by
  intro s e herror
  rw [hstep] at herror
  obtain ⟨cause, -, rfl⟩ := Attempt.mapError_eq_error.1 herror
  exact hwrap cause

theorem bind {x : Step σ τ α} {f : α → Step σ τ β} (hx : JudgesNothing x) (hf : ∀ a, JudgesNothing (f a)) :
    JudgesNothing (x >>= f) := by
  intro s e herror
  rw [Attempt.runOn_bind] at herror
  rcases hrun : runOn x s with ⟨cause | a, s₁⟩
  · rw [hrun] at herror
    cases herror
    exact hx.of_run hrun
  · rw [hrun] at herror
    exact hf a s₁ e herror

theorem inStorage (step : Attempt StorageFailure σ α) : JudgesNothing (Service.inStorage step : Step σ τ α) :=
  of_mapError (fun _ => id) _ fun _ => rfl

theorem reserveId (name : Text) :
    JudgesNothing (Service.reserveId workspace now suffixes name : Step σ τ Text) :=
  of_mapError (fun _ => id) _ fun _ => rfl

theorem plan (jobId : Text) : JudgesNothing (liftM (service.plan workspace jobId request) : Step σ τ Plan) :=
  of_mapError (fun _ => id) _ fun _ => rfl

theorem writeWorkflow (plan : Plan) : JudgesNothing (Service.writeWorkflow workspace plan : Step σ τ Text) :=
  .bind (.inStorage _) fun _ => .pure _

theorem writeCoordinator [ZoneDatabase] (plan : Plan) (appDir : Text) :
    JudgesNothing (Service.writeCoordinator workspace plan appDir : Step σ τ Text) := by
  unfold Service.writeCoordinator
  split
  · exact .pure _
  · refine .bind ?_ fun coordinator => .bind (.inStorage _) fun path => .pure _
    exact of_mapError (fun _ => id) _ fun _ => rfl

theorem start (plan : Plan) (appDir : Text) : JudgesNothing (service.start plan appDir) := by
  refine .bind ?_ fun engineJobId => .pure _
  exact of_mapError (fun _ => id) _ fun _ => rfl

end JudgesNothing

theorem verdict_of_accept [ZoneDatabase] {e : SubmissionFailure} (h : service.accept request = .error e) :
    e.IsVerdict := by
  unfold accept at h
  split at h <;> cases h <;> trivial

/-- **A submission comes to a verdict when it is judged, and never later.** -/
theorem submit_verdict [ZoneDatabase] {e : SubmissionFailure} (he : e.IsVerdict) (s : ServiceState σ τ) :
    (runOn (service.submit org now suffixes request) s).1 = .error e ↔ service.accept request = .error e := by
  rw [submit, Attempt.runOn_bind, Attempt.runOn_lift]
  cases service.accept request with
  | error cause => simp
  | ok normal =>
    refine iff_of_false (fun h => ?_) nofun
    refine JudgesNothing.bind (.inStorage _) (fun workspace => ?_) s e h he
    refine .bind (.reserveId normal.name) fun id => .bind (.plan id) fun plan => ?_
    refine .bind (.writeWorkflow plan) fun appDir => .bind (.writeCoordinator plan appDir) fun appDir => ?_
    exact .bind (.inStorage _) fun _ => .start plan appDir

end Service
end ImportDispatch
