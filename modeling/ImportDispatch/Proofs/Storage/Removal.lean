import ImportDispatch.Proofs.Service.Leavings
import ImportDispatch.Proofs.Service.Planning
import ImportDispatch.Proofs.Storage.Confinement
import ImportDispatch.Zone.Selection
/-!
# What the removal of a target directory takes with it

A recurring import that replaces the one before removes its target directory on every run but the first.  The removal
spares the workflow of the job and the files beside it unless the client has chosen a directory on the way to them, and
nothing keeps a client from that.
-/
namespace ImportDispatch

open Attempt (runOn)

namespace DiskLayout

/-- What follows from the home by the names, the first of them the one of all jobs, lies in the target directory of a
job exactly if the client has chosen a directory on the way there. -/
theorem within_targetDir {home id dir path : Text} {names : List Text} (hid : IsName id) (hdir : ∀ s ∈ belowJob dir, IsName s)
    (h : Along home (jobsFolder :: names) path) (hnames : ∀ s ∈ jobsFolder :: names, IsName s) :
    Within path (targetDir home id dir) ↔ belowJob dir ≠ [] ∧ belowJob dir <+: jobsFolder :: names := by
  rw [within_iff h (targetDir_along hid hdir) hnames (names_of_target hid hdir), targetNames]
  by_cases hnone : belowJob dir = []
  · have hapart : importsFolder ≠ jobsFolder := by decide
    simp [hnone, hapart]
  · simp [hnone]

end DiskLayout

/-! ## What the removal takes with it -/

namespace DiskStorage

open DiskLayout (Within belowJob)

/-- **The removal of its target directory takes the workflow of a recurring job with it exactly if the client has chosen
a directory on the way to the workflow**: one that names the directory of all jobs, or that and the id, or more of what
leads to the workflow.  The same holds for each of the files that later runs need, with its own name at the end. -/
theorem removal_takes_iff [ZoneDatabase] {τ : Type} {service : Service DiskState τ} {job : ScheduledJob}
    {accepted : JobRequest} (haccept : service.accept (.recurring job) = .ok accepted) (home : Text) {now : LocalTime}
    {suffixes : List Text} (hsuffixes : ∀ x ∈ suffixes, JobId.IsSuffix x) {reserved reserved' : Reservations}
    {s s' : DiskState} {id : Text}
    (hid : runOn (JobId.reserve (workspaceAt home) now suffixes accepted.name) (reserved, s) =
      (.ok id, (reserved', s'))) {plan : Plan} (hplan : service.plan (workspaceAt home) id accepted = .ok plan) :
    (Within plan.dir plan.targetDir ↔ belowJob job.spec.targetDir ≠ [] ∧
      belowJob job.spec.targetDir <+: jobsFolder :: id :: belowJob job.appDir) ∧
    ∀ file ∈ flagName :: (JobRequest.recurring job).artifactNames,
      (Within (plan.dir ++ '/' :: file) plan.targetDir ↔ belowJob job.spec.targetDir ≠ [] ∧
        belowJob job.spec.targetDir <+: jobsFolder :: id :: belowJob job.appDir ++ [file]) := by
  obtain ⟨hviolations, rfl⟩ := Service.accept_eq_ok.1 haccept
  obtain ⟨hplace, hspec⟩ := JobRequest.violations_eq_nil hviolations
  obtain ⟨hname, happDir⟩ := placeViolations_eq_nil hplace
  obtain ⟨htargetDir, -⟩ := ImportSpec.violations_eq_nil.1 hspec
  obtain ⟨-, hdir, htarget, -⟩ := Service.plan_place hplan
  rw [JobRequest.normal_name] at hid
  rw [JobRequest.normal_appDir] at hdir
  rw [JobRequest.normal_targetDir] at htarget
  have hidName : IsName id := (JobId.reserve_ok hsuffixes hid).1.isName hname
  have hnames : ∀ s ∈ jobsFolder :: id :: belowJob job.appDir, IsName s :=
    DiskLayout.names_of_job hidName (DiskLayout.names_belowJob happDir)
  have halong : DiskLayout.Along home (jobsFolder :: id :: belowJob job.appDir) plan.dir := by
    rw [hdir]
    exact DiskLayout.workflowDir_along hidName (DiskLayout.names_belowJob happDir)
  rw [htarget]
  refine ⟨DiskLayout.within_targetDir hidName (DiskLayout.names_belowJob htargetDir) halong hnames, fun file hfile => ?_⟩
  have hfileName : IsName file := by
    simp only [JobRequest.artifactNames, List.mem_cons, List.not_mem_nil, or_false] at hfile
    rcases hfile with rfl | rfl | rfl | rfl
    · exact flagName_isName
    · exact workflowFileName_isName
    · exact coordinatorFileName_isName
    · exact connectionParamsFile_isName
  refine DiskLayout.within_targetDir hidName (DiskLayout.names_belowJob htargetDir) (halong.file file) ?_
  exact List.forall_mem_append.2 ⟨hnames, List.forall_mem_singleton.2 hfileName⟩

def hourlySchedule : Schedule := ⟨.sample 0, .sample 59, "UTC".toList, ⟨"hours".toList, 1⟩⟩

/-- A recurring job that replaces on every run what it has imported into a directory of its client's choice. -/
def replacingJob (targetDir : String) : ScheduledJob where
  name := "nightly".toList
  appDir := "app".toList
  spec := {
    jdbcUri := "jdbc:mysql://db:3306/sales".toList
    table := "orders".toList
    importMode := "overwrite".toList
    targetDir := targetDir.toList }
  schedule := hourlySchedule

def replacingRequest (targetDir : String) : JobRequest :=
  (JobRequest.recurring (replacingJob targetDir)).normal [] fallbackUsername

open Service (plainService)

theorem replacingJob_accepted (targetDir : String) (h : pathViolation? "targetDir".toList targetDir.toList = none) :
    (JobRequest.recurring (replacingJob targetDir)).violations plainService.minimum = .ok [] := by
  have hplace : placeViolations "nightly".toList "app".toList = [] := by decide
  have hblank : Text.isBlank "overwrite".toList = false := by decide
  have hmode : (replacingJob targetDir).spec.mode? = some .overwrite :=
    show ImportMode.ofText? "overwrite".toList = some .overwrite by decide
  have hschedule : hourlySchedule.violations 300 = .ok [] := by decide
  have hspec : (replacingJob targetDir).spec.violations = [] :=
    ImportSpec.violations_eq_nil.2 ⟨h, ⟨hblank, by rw [hmode]; rfl⟩, by rw [hmode]; nofun⟩
  exact ScheduledJob.violations_eq_nil.2 ⟨hplace, hspec, hschedule⟩

/-- A directory beside the one of the job, and within the one of all jobs. -/
theorem removal_takes_iff_replacingJob :
    plainService.accept (.recurring (replacingJob "oozie-jobs/archive")) = .ok (replacingRequest "oozie-jobs/archive") ∧
      ∃ plan, plainService.plan (workspaceAt "data/org/acme".toList) "nightly-160309-140507".toList
          (replacingRequest "oozie-jobs/archive") = .ok plan ∧
        ¬Within plan.dir plan.targetDir ∧ ¬Within (plan.dir ++ '/' :: flagName) plan.targetDir := by
  have hviolations := replacingJob_accepted "oozie-jobs/archive" (by decide)
  have haccept : plainService.accept (.recurring (replacingJob "oozie-jobs/archive")) =
      .ok (replacingRequest "oozie-jobs/archive") := Service.accept_eq_ok.2 ⟨hviolations, rfl⟩
  obtain ⟨⟨reserved, s⟩, hid⟩ := Service.reserve_nightly
  have hname : (replacingRequest "oozie-jobs/archive").name = "nightly".toList := by decide
  rw [← hname] at hid
  obtain ⟨plan, hplan⟩ : ∃ plan, plainService.plan (workspaceAt "data/org/acme".toList) "nightly-160309-140507".toList
      (replacingRequest "oozie-jobs/archive") = .ok plan :=
    (Service.exists_plan_iff hviolations (by decide) (by decide)).2 ⟨by decide, by decide⟩
  obtain ⟨hdir, hfiles⟩ := removal_takes_iff haccept _ (by simp) hid hplan
  refine ⟨haccept, plan, hplan, ?_, ?_⟩
  · rw [hdir]
    decide
  · rw [hfiles flagName List.mem_cons_self]
    decide

/-- What is accepted may choose the directory of all jobs, and is then removed with it. -/
theorem not_removal_spares :
    ¬∀ (service : Service DiskState Unit) (job : ScheduledJob) (accepted : JobRequest) (home : Text) (now : LocalTime)
        (suffixes : List Text) (before after : Reservations × DiskState) (id : Text) (plan : Plan),
      service.accept (.recurring job) = .ok accepted → accepted.spec.overwrite = true →
      runOn (JobId.reserve (workspaceAt home) now suffixes accepted.name) before = (.ok id, after) →
      service.plan (workspaceAt home) id accepted = .ok plan → ¬Within plan.dir plan.targetDir := by
  intro h
  have hviolations := replacingJob_accepted "oozie-jobs" (by decide)
  obtain ⟨left, hid⟩ := Service.reserve_nightly
  have hname : (replacingRequest "oozie-jobs").name = "nightly".toList := by decide
  rw [← hname] at hid
  obtain ⟨plan, hplan⟩ : ∃ plan, plainService.plan (workspaceAt "data/org/acme".toList) "nightly-160309-140507".toList
      (replacingRequest "oozie-jobs") = .ok plan :=
    (Service.exists_plan_iff hviolations (by decide) (by decide)).2 ⟨by decide, by decide⟩
  have hoverwrite : (replacingRequest "oozie-jobs").spec.overwrite = true := by decide
  refine h plainService (replacingJob "oozie-jobs") _ _ _ _ _ _ _ plan (Service.accept_eq_ok.2 ⟨hviolations, rfl⟩)
    hoverwrite hid hplan ?_
  obtain ⟨-, hdir, htarget, -⟩ := Service.plan_place hplan
  rw [hdir, htarget]
  exact ⟨_, rfl⟩

end DiskStorage
end ImportDispatch
