import ImportDispatch.Service
/-!
# Accepted requests

A request is accepted if it breaks no rule, and what goes on from there is its normal form (`Service.accept_eq_ok`).
The rules of both kinds of requests are those on places, on specifications, and one more: the user of an import that
runs at once, and the schedule of a recurring one.
-/
namespace ImportDispatch

theorem ImportJob.violations_eq_nil {job : ImportJob} :
    job.violations = [] ↔ placeViolations job.name job.appDir = [] ∧ job.spec.violations = [] ∧
      Text.isBlank job.spec.username = false := by
  simp [violations, ImportSpec.directViolations, violationIf]

variable [ZoneDatabase]

theorem ScheduledJob.violations_eq_nil {minimum : Nat} {job : ScheduledJob} :
    job.violations minimum = .ok [] ↔ placeViolations job.name job.appDir = [] ∧ job.spec.violations = [] ∧
      job.schedule.violations minimum = .ok [] := by
  unfold violations
  cases job.schedule.violations minimum with
  | error e => simp [bind, Except.bind]
  | ok ofSchedule => simp [bind, Except.bind, pure, Except.pure]

theorem JobRequest.violations_eq_nil {minimum : Nat} {request : JobRequest}
    (h : request.violations minimum = .ok []) :
    placeViolations request.name request.appDir = [] ∧ request.spec.violations = [] := by
  cases request with
  | once job =>
    obtain ⟨hplace, hspec, -⟩ := ImportJob.violations_eq_nil.1 (Except.ok.inj h)
    exact ⟨hplace, hspec⟩
  | recurring job =>
    obtain ⟨hplace, hspec, -⟩ := ScheduledJob.violations_eq_nil.1 h
    exact ⟨hplace, hspec⟩

/-- What is accepted breaks no rule, and goes on in normal form. -/
theorem Service.accept_eq_ok {σ τ : Type} {service : Service σ τ} {request accepted : JobRequest} :
    service.accept request = .ok accepted ↔ request.violations service.minimum = .ok [] ∧
      accepted = request.normal service.registry service.username := by
  unfold accept
  split
  · rename_i hviolations
    simp [hviolations]
  · rename_i hviolations
    simp [hviolations, eq_comm]
  · rename_i violations hne hviolations
    simp [hviolations, show violations ≠ [] from hne]

end ImportDispatch
