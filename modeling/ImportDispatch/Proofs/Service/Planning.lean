import ImportDispatch.Proofs.Import.Modes
import ImportDispatch.Proofs.Service.Settled
import ImportDispatch.Zone.Selection
/-!
# Which accepted requests have a plan

The rules and the commands keep separate lists of what has to be set.  The rules ask for a mode, a check column and, of
an import that runs at once, a user; the commands ask for an address and a table.  What lies between them, the normal
form, leaves an address as blank as it was (`ImportSpec.isBlank_normal_jdbcUri`) and fills a blank table only where
Oracle gets a schema into it (`ImportSpec.isBlank_normal_table`).  So a request may be accepted and given an id, and only
then fail for want of an argument: `Service.plan_decides` says which.
-/
namespace ImportDispatch

open Attempt (runOn)

/-! ## Blank texts -/

namespace Text

theorem isBlank_append (s t : Text) : isBlank (s ++ t) = (isBlank s && isBlank t) := List.all_append

theorem isBlank_of_mem {s : Text} {c : Char} (hc : isBlankChar c = false) (h : c ∈ s) : isBlank s = false :=
  List.all_eq_false.2 ⟨c, h, by simp [hc]⟩

/-- A replacement of a part that is not blank by another one leaves a text as blank as it was. -/
theorem isBlank_replace {old new : Text} (hold : isBlank old = false) (hnew : isBlank new = false) (s : Text) :
    isBlank (replace old new s) = isBlank s := by
  have hne : old ≠ [] := by
    rintro rfl
    cases hold
  refine replace_induction hne (motive := fun s t => isBlank t = isBlank s) rfl ?_ ?_ s
  · intro s _
    rw [isBlank_append, isBlank_append, hold, hnew, Bool.false_and, Bool.false_and]
  · intro c s _ ih
    simpa [isBlank] using congrArg (isBlankChar c && ·) ih

end Text

/-! ## The normal form -/

namespace ImportSpec

variable (registry : Registry) (spec : ImportSpec)

/-- The specification has no table, and gets none from a schema of Oracle. -/
def LacksTable : Prop :=
  Text.isBlank spec.table = true ∧ ¬(isOracleAddress spec.jdbcUri = true ∧ spec.schema ≠ [])

instance : Decidable spec.LacksTable := inferInstanceAs (Decidable (_ ∧ ¬(_ ∧ _)))

theorem isBlank_normal_jdbcUri : Text.isBlank (spec.normal registry).jdbcUri = Text.isBlank spec.jdbcUri := by
  rw [normal_jdbcUri]
  split
  · exact Text.isBlank_replace (by decide) (by decide) spec.jdbcUri
  · exact Text.isBlank_replace (by decide) (by decide) spec.jdbcUri

theorem isBlank_withSchemaInTable :
    Text.isBlank spec.withSchemaInTable.table = true ↔ Text.isBlank spec.table = true ∧ spec.schema = [] := by
  have hdot : Text.isBlankChar '.' = false := by decide
  unfold withSchemaInTable
  by_cases hschema : spec.schema = []
  · simp [hschema]
  by_cases htable : '.' ∈ spec.table
  · simp [hschema, htable, Text.isBlank_of_mem hdot htable]
  · have hfilled : Text.isBlank (spec.schema ++ '.' :: spec.table) = false := Text.isBlank_of_mem hdot (by simp)
    simp [hschema, htable, hfilled]

theorem isBlank_normal_table : Text.isBlank (spec.normal registry).table = true ↔ spec.LacksTable := by
  obtain ⟨incremental, overwrite, hflags, -⟩ := withModeFlags_cases spec
  obtain ⟨driver, hdriver, -⟩ := withDriver_cases registry spec.withModeFlags.inDialect
  rw [normal, hdriver, hflags, LacksTable]
  by_cases horacle : isOracleAddress spec.jdbcUri = true
  · simp [inDialect, horacle, isBlank_withSchemaInTable]
  · simp [inDialect, horacle]

end ImportSpec

/-! ## Commands -/

namespace CommandForm

variable {spec : ImportSpec} {metastore jobId : Text} {e : ArgumentError}

/-- The address is blank, or it is not and the table is: the error of a command that is told to take both. -/
def Misses (spec : ImportSpec) (e : ArgumentError) : Prop :=
  (Text.isBlank spec.jdbcUri = true ∧ e = .unset "--connect".toList) ∨
    (Text.isBlank spec.jdbcUri = false ∧ Text.isBlank spec.table = true ∧ e = .unset "--table".toList)

theorem direct_eq_error (husername : Text.isBlank spec.username = false) :
    direct.build spec = .error e ↔ Misses spec e := by
  rw [build_eq_error, Misses]
  cases huri : Text.isBlank spec.jdbcUri <;> cases htable : Text.isBlank spec.table <;>
    simp [required, huri, htable, husername, eq_comm]

theorem save_eq_error (hid : Text.isBlank jobId = false) (hmetastore : Text.isBlank metastore = false) :
    (save metastore jobId).build spec = .error e ↔ Misses spec e := by
  rw [build_eq_error, Misses]
  cases huri : Text.isBlank spec.jdbcUri <;> cases htable : Text.isBlank spec.table <;>
    simp [required, huri, htable, hid, hmetastore, eq_comm]

theorem run_ne_error (hid : Text.isBlank jobId = false) (hmetastore : Text.isBlank metastore = false) :
    (run metastore jobId).build spec ≠ .error e := by
  rw [ne_eq, build_eq_error]
  simp [required, hid, hmetastore]

end CommandForm

/-! ## Plans -/

namespace Plan

variable {metastore jobId dir targetDir : Text} {e : PlanError}

theorem once_eq_error {job : ImportJob} (husername : Text.isBlank job.spec.username = false) :
    once jobId dir targetDir job = .error e ↔ ∃ missing, CommandForm.Misses job.spec missing ∧ e = .command missing := by
  have hcommand (missing : ArgumentError) : CommandLine.directImport { job.spec with targetDir } = .error missing ↔
      CommandForm.Misses job.spec missing := CommandForm.direct_eq_error husername
  simp only [once, build_oneShot, ← hcommand]
  cases CommandLine.directImport { job.spec with targetDir } with
  | error missing => simp [Except.mapError, bind, Except.bind, eq_comm]
  | ok command => simp [Except.mapError, bind, Except.bind, pure, Except.pure]

/-- The plan of a recurring import fails over the command that saves its job only. -/
theorem recurring_eq_error {job : ScheduledJob} (hid : Text.isBlank jobId = false)
    (hmetastore : Text.isBlank metastore = false) : recurring metastore jobId dir targetDir job = .error e ↔
      ∃ missing, CommandForm.Misses job.spec missing ∧ e = .command missing := by
  have hsave (missing : ArgumentError) :
      CommandLine.saveJob metastore jobId { job.spec with targetDir := targetDirVariable } = .error missing ↔
        CommandForm.Misses job.spec missing := CommandForm.save_eq_error hid hmetastore
  have hrun (missing : ArgumentError) :
      CommandLine.runJob metastore jobId { job.spec with targetDir := targetDirVariable } ≠ .error missing :=
    CommandForm.run_ne_error hid hmetastore
  simp only [recurring, build_recurring, ← hsave]
  cases CommandLine.saveJob metastore jobId { job.spec with targetDir := targetDirVariable } with
  | error missing => simp [Except.mapError, bind, Except.bind, eq_comm]
  | ok save =>
    cases hcommand : CommandLine.runJob metastore jobId { job.spec with targetDir := targetDirVariable } with
    | error missing => exact absurd hcommand (hrun missing)
    | ok run => simp [Except.mapError, bind, Except.bind, pure, Except.pure]

end Plan

/-! ## Accepted requests -/

/-- What a request is missing that its commands are told to take: the address, or else the table. -/
def ImportSpec.Misses (spec : ImportSpec) (missing : ArgumentError) : Prop :=
  (Text.isBlank spec.jdbcUri = true ∧ missing = .unset "--connect".toList) ∨
    (Text.isBlank spec.jdbcUri = false ∧ spec.LacksTable ∧ missing = .unset "--table".toList)

/-- What the commands are missing shows in the request as it came in. -/
theorem JobRequest.misses_normal (registry : Registry) (username : Text) (request : JobRequest)
    (missing : ArgumentError) :
    CommandForm.Misses (request.normal registry username).spec missing ↔ request.spec.Misses missing := by
  obtain ⟨name, hspec⟩ := request.exists_normal_spec registry username
  rw [hspec, CommandForm.Misses, ImportSpec.Misses]
  dsimp only
  rw [ImportSpec.isBlank_normal_jdbcUri, ImportSpec.isBlank_normal_table]

theorem ImportSpec.misses_nothing {spec : ImportSpec} :
    (∀ missing, ¬spec.Misses missing) ↔ Text.isBlank spec.jdbcUri = false ∧ ¬spec.LacksTable := by
  cases huri : Text.isBlank spec.jdbcUri <;> by_cases htable : spec.LacksTable <;> simp [Misses, huri, htable]

theorem JobId.IsIdOf.not_blank {name id : Text} {time : LocalTime} (h : IsIdOf name time id) :
    Text.isBlank id = false := by
  obtain ⟨suffixes, -, rfl⟩ := h
  have hdash : '-' ∈ base name time.stampText := List.mem_append_right _ List.mem_cons_self
  exact Text.isBlank_of_mem (by decide) ((prefix_grown _).subset hdash)

/-- The plan of an accepted request fails over a command that is missing its address or its table only. -/
theorem JobRequest.plan_eq_error [ZoneDatabase] {minimum : Nat} {request : JobRequest}
    (h : request.violations minimum = .ok []) {metastore id : Text} (hmetastore : Text.isBlank metastore = false)
    (hid : Text.isBlank id = false) (registry : Registry) (username dir targetDir : Text) {e : PlanError} :
    (request.normal registry username).plan metastore id dir targetDir = .error e ↔
      ∃ missing, request.spec.Misses missing ∧ e = .command missing := by
  simp only [← misses_normal registry username request]
  cases request with
  | once job =>
    obtain ⟨-, -, husername⟩ := ImportJob.violations_eq_nil.1 (Except.ok.inj h)
    obtain ⟨-, -, -, -, hnormal⟩ := job.spec.normal_unchanged registry
    rw [← hnormal] at husername
    exact Plan.once_eq_error husername
  | recurring job => exact Plan.recurring_eq_error hid hmetastore

namespace Service

section

variable [ZoneDatabase] {σ τ : Type} {service : Service σ τ} {workspace : Workspace σ} {request : JobRequest}
  {id : Text}
  (h : request.violations service.minimum = .ok []) (hmetastore : Text.isBlank service.metastore = false)
  (hid : Text.isBlank id = false)

include h hmetastore hid

theorem plan_eq_error {e : SubmissionFailure} :
    service.plan workspace id (request.normal service.registry service.username) = .error e ↔
      ∃ missing, request.spec.Misses missing ∧ e = .plan (.command missing) := by
  rw [plan, Attempt.mapError_eq_error]
  simp only [JobRequest.plan_eq_error h hmetastore hid]
  constructor
  · rintro ⟨_, ⟨missing, hmissing, rfl⟩, rfl⟩
    exact ⟨missing, hmissing, rfl⟩
  · rintro ⟨missing, hmissing, rfl⟩
    exact ⟨_, ⟨missing, hmissing, rfl⟩, rfl⟩

theorem exists_plan_iff :
    (∃ plan, service.plan workspace id (request.normal service.registry service.username) = .ok plan) ↔
      Text.isBlank request.spec.jdbcUri = false ∧ ¬request.spec.LacksTable := by
  rw [← ImportSpec.misses_nothing]
  cases hplan : service.plan workspace id (request.normal service.registry service.username) with
  | error e =>
    obtain ⟨missing, hmissing, -⟩ := (plan_eq_error h hmetastore hid).1 hplan
    exact iff_of_false (fun ⟨_, hok⟩ => nomatch hok) fun hnothing => hnothing missing hmissing
  | ok plan =>
    refine iff_of_true ⟨plan, rfl⟩ fun missing hmissing => ?_
    cases hplan.symm.trans ((plan_eq_error h hmetastore hid).2 ⟨missing, hmissing, rfl⟩)

end

/-- **What an accepted request may still be missing.**  Take any accepted request and any id that is given out for it,
and let the metastore be set.  The plan fails over nothing but a missing argument: the address if it is blank, or else
the table if the request lacks one.  If it has both, there is a plan. -/
theorem plan_decides [ZoneDatabase] {σ τ : Type} {service : Service σ τ}
    (hmetastore : Text.isBlank service.metastore = false) {request accepted : JobRequest}
    (haccept : service.accept request = .ok accepted) {workspace : Workspace σ} {now : LocalTime} {suffixes : List Text} (hsuffixes : ∀ x ∈ suffixes, JobId.IsSuffix x)
    {reserved reserved' : Reservations} {s s' : σ} {id : Text}
    (hid : runOn (JobId.reserve workspace now suffixes accepted.name) (reserved, s) = (.ok id, (reserved', s'))) :
    (∀ e, service.plan workspace id accepted = .error e ↔
      ∃ missing, request.spec.Misses missing ∧ e = .plan (.command missing)) ∧
    ((∃ plan, service.plan workspace id accepted = .ok plan) ↔
      Text.isBlank request.spec.jdbcUri = false ∧ ¬request.spec.LacksTable) := by
  obtain ⟨hviolations, rfl⟩ := accept_eq_ok.1 haccept
  have hidBlank := (JobId.reserve_ok hsuffixes hid).1.not_blank
  exact ⟨fun _ => plan_eq_error hviolations hmetastore hidBlank, exists_plan_iff hviolations hmetastore hidBlank⟩

def plainService : Service DiskState Unit where
  storage := diskStorage "data".toList
  engine := ⟨fun _ => return "engine-job".toList⟩
  metastore := "jdbc:metastore".toList

def schemaRequest : JobRequest := .once {
  name := "nightly".toList
  spec := {
    jdbcUri := "jdbc:oracle:thin:@db:1521/xe".toList
    schema := "hr".toList
    table := []
    username := "etl".toList
    importMode := "append".toList } }

/-- An import that names no table, from a database whose schemas stand for themselves. -/
def tablelessRequest : JobRequest := .once {
  name := "nightly".toList
  spec := {
    jdbcUri := "jdbc:mysql://db:3306/sales".toList
    schema := "hr".toList
    table := []
    username := "etl".toList
    importMode := "append".toList } }

/-- The id that is given out for a name on an empty disk. -/
theorem reserve_nightly : ∃ left,
    runOn (JobId.reserve (DiskStorage.workspaceAt "data/org/acme".toList) (.sample 7) [] "nightly".toList)
      ({}, ⟨⟨[], []⟩, []⟩) = (.ok "nightly-160309-140507".toList, left) :=
  ⟨_, Prod.ext (y := (_, _)) (by decide) rfl⟩

theorem plan_decides_schemaRequest :
    plainService.accept schemaRequest = .ok (schemaRequest.normal [] fallbackUsername) ∧
      ∃ plan, plainService.plan (DiskStorage.workspaceAt "data/org/acme".toList) "nightly-160309-140507".toList
        (schemaRequest.normal [] fallbackUsername) = .ok plan := by
  have haccept : plainService.accept schemaRequest = .ok (schemaRequest.normal [] fallbackUsername) :=
    accept_eq_ok.2 ⟨by decide, rfl⟩
  obtain ⟨left, hid⟩ := reserve_nightly
  have hname : (schemaRequest.normal [] fallbackUsername).name = "nightly".toList := by decide
  rw [← hname] at hid
  exact ⟨haccept, (plan_decides (by decide) haccept (by simp) hid).2.2 ⟨by decide, by decide⟩⟩

/-- Acceptance does not promise that nothing is missing, and the id is given out before that shows. -/
theorem not_plan_of_accepted :
    ¬∀ (service : Service DiskState Unit) (request accepted : JobRequest) (home : Text) (now : LocalTime)
        (suffixes : List Text) (before after : Reservations × DiskState) (id : Text),
      Text.isBlank service.metastore = false → Text.isBlank service.username = false →
      service.accept request = .ok accepted →
      runOn (JobId.reserve (DiskStorage.workspaceAt home) now suffixes accepted.name) before = (.ok id, after) →
      ∀ missing, service.plan (DiskStorage.workspaceAt home) id accepted ≠ .error (.plan (.command missing)) := by
  intro h
  obtain ⟨left, hid⟩ := reserve_nightly
  have hname : (tablelessRequest.normal [] fallbackUsername).name = "nightly".toList := by decide
  rw [← hname] at hid
  have hviolations : tablelessRequest.violations plainService.minimum = .ok [] := by decide
  refine h plainService tablelessRequest _ _ _ _ _ _ _ (by decide) (by decide) (accept_eq_ok.2 ⟨hviolations, rfl⟩) hid
    (.unset "--table".toList) ((plan_eq_error hviolations (by decide) (by decide)).2 ⟨_, .inr ?_, rfl⟩)
  exact ⟨by decide, by decide, rfl⟩

end Service
end ImportDispatch
