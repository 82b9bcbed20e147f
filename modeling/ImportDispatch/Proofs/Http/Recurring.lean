import ImportDispatch.Engine.Ledger
import ImportDispatch.Http
import ImportDispatch.Json.Printer
import ImportDispatch.Proofs.Import.Rules
import ImportDispatch.Proofs.Markup.Reading
import ImportDispatch.Proofs.Service.Verdicts
import ImportDispatch.Storage.Shelf
/-!
# Two ways in for recurring jobs

The service judges a recurring job by all rules at once.  Over the web the rule on periods is asked first and alone, and
only a job that keeps it gets to the service.  Both ways reject the same jobs, and tell the same but for a period that is
too short (`Http.recurring_reports`), with one exception: a job whose times leave the calendar gets no verdict from the
service, while over the web its period is still judged (`Http.not_rejected_alike`).
-/
namespace ImportDispatch

open Attempt (runOn)

/-! ## What is rejected -/

/-- What a failure rejects. -/
def SubmissionFailure.reports? : SubmissionFailure → Option (List FieldReport)
  | rejected errors => some errors
  | _ => none

theorem SubmissionFailure.reports?_of_not_verdict {e : SubmissionFailure} (h : ¬e.IsVerdict) : e.reports? = none := by
  cases e with
  | rejected errors => exact absurd trivial h
  | _ => rfl

/-- What is rejected by what was tried. -/
def rejection? {α : Type} : Except SubmissionFailure α → Option (List FieldReport)
  | .ok _ => none
  | .error e => e.reports?

namespace Http

/-- One rejected field, as a client reads it. -/
def report? (item : Json) : Option FieldReport :=
  match item.get? "field", item.get? "message" with
  | some (.string field), some (.string message) => some ⟨field, message⟩
  | _, _ => none

/-- What a response rejects, as a client reads it. -/
def Response.reports? (response : Response) : Option (List FieldReport) :=
  match response.status, response.body with
  | 400, .json value =>
    match value.get? "fields" with
    | some (.array items) => items.mapM report?
    | _ => none
  | _, _ => none

theorem report?_encode (error : FieldReport) : report? error.encode = some error := by
  simp [report?, FieldReport.encode, Json.record, Json.get?]

theorem Response.reports?_ofError (e : SubmissionFailure) : (Response.ofError e).reports? = e.reports? := by
  cases e with
  | rejected errors =>
    have hread : (errors.map FieldReport.encode).mapM report? = some errors :=
      Markup.mapM_map_eq_some fun error _ => report?_encode error
    simpa [ofError, reports?, SubmissionFailure.reports?, SubmissionFailure.encode, encodeReports, Json.record,
      Json.get?] using hread
  | _ => rfl

theorem rejection?_respond {α : Type} (encode : α → Json) (result : Except SubmissionFailure α) :
    (respond encode result).bind Response.reports? = rejection? result := by
  cases result with
  | ok a => rfl
  | error e =>
    have hresponse := Response.reports?_ofError e
    cases e <;> exact hresponse

end Http

/-! ## The service -/

/-- A time of the schedule lies in the last hour of the calendar, in a zone that stays west of UTC. -/
def Schedule.LeavesCalendar [ZoneDatabase] (schedule : Schedule) : Prop :=
  schedule.RunsOut schedule.startTime ∨ schedule.RunsOut schedule.endTime

theorem ScheduledJob.violations_eq_error [ZoneDatabase] {minimum : Nat} {job : ScheduledJob} :
    job.violations minimum = .error .reached ↔ job.schedule.LeavesCalendar := by
  have hschedule : job.schedule.violations minimum = .error .reached ↔ job.schedule.LeavesCalendar := by
    rw [Schedule.violations_eq_error, Schedule.startInstant, Schedule.endInstant, Schedule.instantOf_eq_error,
      Schedule.instantOf_eq_error, Schedule.LeavesCalendar]
  rw [violations, Attempt.bind_eq_error, hschedule]
  simp [pure, Except.pure]

namespace Service

variable [ZoneDatabase] {σ τ : Type} {service : Service σ τ} {org : Text} {now : LocalTime} {suffixes : List Text}
  {request : JobRequest}

theorem accept_eq_beyond :
    service.accept request = .error .beyondCalendar ↔ request.violations service.minimum = .error .reached := by
  unfold accept
  split <;> simp [*]

theorem rejection?_accept {violations : List Violation} (h : request.violations service.minimum = .ok violations) :
    rejection? (service.accept request) =
      if violations = [] then none else some (violations.map Violation.report) := by
  cases violations with
  | nil => rw [accept, h]; rfl
  | cons v rest => rw [accept, h]; rfl

/-- A submission rejects what is rejected when it is judged. -/
theorem rejection?_submit (s : ServiceState σ τ) :
    rejection? (runOn (service.submit org now suffixes request) s).1 = rejection? (service.accept request) := by
  cases haccept : service.accept request with
  | error e => exact congrArg rejection? ((submit_verdict (verdict_of_accept haccept) s).2 haccept)
  | ok normal =>
    cases hrun : (runOn (service.submit org now suffixes request) s).1 with
    | ok job => rfl
    | error e =>
      refine SubmissionFailure.reports?_of_not_verdict fun he => ?_
      cases haccept.symm.trans ((submit_verdict he s).1 hrun)

/-- What is rejected of a request that is submitted. -/
def rejected? (service : Service σ τ) (org : Text) (moment : Http.Moment) (request : JobRequest)
    (s : ServiceState σ τ) : Option (List FieldReport) :=
  rejection? (runOn (service.submit org moment.now moment.suffixes request) s).1

variable {moment : Http.Moment} {job : ScheduledJob} {s : ServiceState σ τ}

theorem submit_beyond : (runOn (service.submit org now suffixes (.recurring job)) s).1 = .error .beyondCalendar ↔
    job.schedule.LeavesCalendar := by
  rw [submit_verdict (e := .beyondCalendar) trivial, accept_eq_beyond]
  exact ScheduledJob.violations_eq_error

theorem rejected?_beyond (h : job.schedule.LeavesCalendar) : service.rejected? org moment (.recurring job) s = none := by
  rw [rejected?, submit_beyond.2 h]
  rfl

variable (service org moment s) in
theorem rejected?_fields (h : ¬job.schedule.LeavesCalendar) :
    (service.rejected? org moment (.recurring job) s).map (List.map FieldReport.field) =
      if RecurringRule.broken service.minimum job = [] then none
      else some ((RecurringRule.broken service.minimum job).map RecurringRule.field) := by
  obtain ⟨violations, hviolations⟩ : ∃ violations, job.violations service.minimum = .ok violations := by
    cases hjob : job.violations service.minimum with
    | error e => exact absurd (ScheduledJob.violations_eq_error.1 hjob) h
    | ok violations => exact ⟨violations, rfl⟩
  have hfields := ScheduledJob.fields_violations hviolations
  have hnone : violations = [] ↔ RecurringRule.broken service.minimum job = [] := by
    rw [← List.map_eq_nil_iff (f := Violation.field), hfields, List.map_eq_nil_iff]
  have hrequest : (JobRequest.recurring job).violations service.minimum = .ok violations := hviolations
  rw [rejected?, rejection?_submit, rejection?_accept hrequest]
  by_cases hkept : violations = []
  · rw [if_pos hkept, if_pos (hnone.1 hkept)]
    rfl
  · rw [if_neg hkept, if_neg fun h => hkept (hnone.2 h), ← hfields, Option.map_some, List.map_map]
    rfl

end Service

/-! ## The web -/

namespace Http

variable {σ τ : Type} {service : Service σ τ} {org written : Text} {moment : Moment} {request : Request}
  {job : ScheduledJob} {s : ServiceState σ τ}

/-- What is rejected of a recurring job that is posted. -/
def rejected? [ZoneDatabase] (service : Service σ τ) (moment : Moment) (written : Text) (request : Request)
    (s : ServiceState σ τ) : Option (List FieldReport) :=
  (postRecurring service moment written request s).1.bind Response.reports?

variable (service moment s) in
theorem rejected?_of_read [ZoneDatabase] (horg : readOrganization written = .ok org)
    (hbody : readBody ScheduledJob.decode request = .ok job) :
    rejected? service moment written request s =
      if .period ∈ RecurringRule.broken service.minimum job then some [(Violation.periodTooShort service.minimum).report]
      else service.rejected? org moment (.recurring job) s := by
  have hbroken := RecurringRule.broken_period_iff service.minimum job
  rw [rejected?, postRecurring, horg, hbody]
  simp only [Service.periodViolation?, Schedule.periodViolation?_eq, RecurringRule.mem_broken]
  by_cases hshort : RecurringRule.Broken service.minimum job .period
  · rw [if_pos (hbroken.1 hshort), if_pos hshort]
    exact Response.reports?_ofError (.rejected [(Violation.periodTooShort service.minimum).report])
  · rw [if_neg fun h => hshort (hbroken.2 h), if_neg hshort]
    exact rejection?_respond _ _

/-- **A recurring job is told the fields of the rules that it breaks**, each once and in the order of the rules, unless
its times leave the calendar.  Over the web the same is told, but of a period that is too short nothing else; so both
ways reject the same jobs, except those that leave the calendar with such a period. -/
theorem recurring_reports [ZoneDatabase] (service : Service σ τ) (org : Text) (moment : Moment) (job : ScheduledJob)
    (s : ServiceState σ τ) :
    (¬job.schedule.LeavesCalendar →
      (service.rejected? org moment (.recurring job) s).map (List.map FieldReport.field) =
        if RecurringRule.broken service.minimum job = [] then none
        else some ((RecurringRule.broken service.minimum job).map RecurringRule.field)) ∧
    ((RecurringRule.broken service.minimum job).map RecurringRule.field).Nodup ∧
    ((runOn (service.submit org moment.now moment.suffixes (.recurring job)) s).1 = .error .beyondCalendar ↔
      job.schedule.LeavesCalendar) ∧
    ∀ (written : Text) (request : Request), readOrganization written = .ok org →
      readBody ScheduledJob.decode request = .ok job →
      rejected? service moment written request s =
        (if .period ∈ RecurringRule.broken service.minimum job then
          some [(Violation.periodTooShort service.minimum).report]
        else service.rejected? org moment (.recurring job) s) ∧
      (((rejected? service moment written request s).isSome ↔
          (service.rejected? org moment (.recurring job) s).isSome) ↔
        ¬(job.schedule.LeavesCalendar ∧ .period ∈ RecurringRule.broken service.minimum job)) := by
  refine ⟨service.rejected?_fields org moment s, RecurringRule.nodup_broken _ _, Service.submit_beyond, ?_⟩
  intro written request horg hbody
  have hread := rejected?_of_read service moment s horg hbody
  refine ⟨hread, ?_⟩
  rw [hread]
  by_cases hshort : .period ∈ RecurringRule.broken service.minimum job
  · by_cases hbeyond : job.schedule.LeavesCalendar
    · simp [hshort, hbeyond, Service.rejected?_beyond hbeyond]
    · have hfields := service.rejected?_fields org moment s hbeyond
      rw [if_neg (List.ne_nil_of_mem hshort)] at hfields
      obtain ⟨reports, hreports, -⟩ := Option.map_eq_some_iff.1 hfields
      simp [hshort, hbeyond, hreports]
  · simp [hshort]

/-! ## Jobs that are posted -/

/-- A recurring job as a client writes it: every minute, while the service wants five minutes. -/
def hastySource (name mode start stop timezone : String) : Json := .record [
  ("name", .word name),
  ("schedule", .record [
    ("startTime", .word start), ("endTime", .word stop), ("timezone", .word timezone),
    ("frequency", .record [("unit", .word "minutes"), ("amount", .int 1)])]),
  ("sqoopImport", .record [
    ("jdbcUri", .word "jdbc:mysql://db:3306/sales"), ("table", .word "orders"), ("importMode", .word mode)])]

/-- The job that is read from it. -/
def hastyJob (name mode : String) (start stop : LocalTime) (timezone : String) : ScheduledJob where
  name := name.toList
  spec := { jdbcUri := "jdbc:mysql://db:3306/sales".toList, table := "orders".toList, importMode := mode.toList }
  schedule := {
    startTime := start
    endTime := stop
    timezone := timezone.toList
    frequency := ⟨"minutes".toList, 1⟩ }

def posting (source : Json) : Request where
  method := "POST".toList
  target := "/api/orgs/0f0e1a2b-3c4d-5e6f-7a8b-9c0d1e2f3a4b/jobs/scheduled-import".toList
  contentType? := some "application/json".toList
  body := source.print

def postingOrg : Text := "0f0e1a2b-3c4d-5e6f-7a8b-9c0d1e2f3a4b".toList

theorem readOrganization_postingOrg : readOrganization postingOrg = .ok postingOrg := by decide +kernel

def shelfService : Service Shelf Ledger where
  storage := shelfStorage
  engine := ledgerEngine
  metastore := "jdbc:metastore".toList

/-- Five rules are broken at once, and over the web only the period is told. -/
theorem recurring_reports_hasty :
    let job := hastyJob "daily/sales" "sometimes" (.sample 30) (.sample 10) "Mars/Phobos"
    let request :=
      posting (hastySource "daily/sales" "sometimes" "2016-03-09T14:05:30" "2016-03-09T14:05:10" "Mars/Phobos")
    (shelfService.rejected? postingOrg ⟨.sample 40, []⟩ (.recurring job) ⟨{}, {}, {}⟩).map
          (List.map FieldReport.field) =
        some ["name".toList, "importMode".toList, "startTime".toList, "timezone".toList, "frequency".toList] ∧
      rejected? shelfService ⟨.sample 40, []⟩ postingOrg request ⟨{}, {}, {}⟩ =
        some [(Violation.periodTooShort 300).report] := by
  intro job request
  have hwithin : ¬job.schedule.LeavesCalendar := by
    rintro (⟨hlast, -⟩ | ⟨hlast, -⟩) <;> revert hlast <;> decide
  have hbroken : RecurringRule.broken shelfService.minimum job = [.name, .mode, .startTime, .timezone, .period] := by
    decide +kernel
  have hread : readBody ScheduledJob.decode request = .ok job := by decide +kernel
  obtain ⟨hfields, -, -, hposted⟩ := recurring_reports shelfService postingOrg ⟨.sample 40, []⟩ job ⟨{}, {}, {}⟩
  refine ⟨(hfields hwithin).trans ?_, (hposted postingOrg request readOrganization_postingOrg hread).1.trans ?_⟩
  · rw [hbroken]
    rfl
  · rw [hbroken]
    rfl

/-- Not every job that is rejected over the web is rejected by the service. -/
theorem not_rejected_alike :
    ¬∀ (service : Service Shelf Ledger) (org written : Text) (moment : Moment) (request : Request) (job : ScheduledJob)
        (s : ServiceState Shelf Ledger), readOrganization written = .ok org →
        readBody ScheduledJob.decode request = .ok job →
        ((rejected? service moment written request s).isSome ↔
          (service.rejected? org moment (.recurring job) s).isSome) := by
  intro h
  let job := hastyJob "nightly" "append" lateJob.schedule.startTime lateJob.schedule.endTime "America/New_York"
  have hread : readBody ScheduledJob.decode (posting (hastySource "nightly" "append" "+262142-12-31T23:00:00"
      "+262142-12-31T23:30:00" "America/New_York")) = .ok job := by decide +kernel
  have hbeyond : job.schedule.LeavesCalendar := .inl (Schedule.instantOf_eq_error.1 (by decide +kernel))
  have hshort : .period ∈ RecurringRule.broken shelfService.minimum job :=
    (RecurringRule.mem_broken _ _).2 ((RecurringRule.broken_period_iff _ _).2 (by decide))
  have hagree := h shelfService postingOrg postingOrg ⟨.sample 40, []⟩ _ job ⟨{}, {}, {}⟩ readOrganization_postingOrg
    hread
  rw [rejected?_of_read _ _ _ readOrganization_postingOrg hread, if_pos hshort, Service.rejected?_beyond hbeyond]
    at hagree
  exact absurd hagree (by simp)

end Http
end ImportDispatch
