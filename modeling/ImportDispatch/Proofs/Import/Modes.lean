import ImportDispatch.Proofs.CommandLine.Arguments
import ImportDispatch.Proofs.Import.NormalForm
import ImportDispatch.Proofs.Workflow.Shapes
import ImportDispatch.Service.Request
/-!
# What an import does is what its mode says

A specification that breaks no rule has a mode, and an incremental one has a check column.  In normal form its two flags
are those of the mode, if the mode is to overwrite or to go on from a watermark.  The append mode leaves the flags as the
client sent them: such an import deletes what it has brought in so far if it comes with the one flag, and goes on from a
watermark, with or without a check column, if it comes with the other (`JobRequest.normal_acts`).
-/
namespace ImportDispatch

/-! ## Accepted specifications -/

namespace ImportSpec

theorem violations_eq_nil {spec : ImportSpec} :
    spec.violations = [] ↔ pathViolation? "targetDir".toList spec.targetDir = none ∧
      (Text.isBlank spec.importMode = false ∧ spec.mode?.isSome) ∧
      (spec.mode? = some .incremental → spec.checkColumn ≠ []) := by
  have hmode : spec.modeViolations = [] ↔ Text.isBlank spec.importMode = false ∧ spec.mode?.isSome = true := by
    unfold modeViolations violationIf
    by_cases hblank : Text.isBlank spec.importMode = true
    · simp [hblank]
    · simp [hblank, Option.isSome_iff_ne_none]
  have hcolumn : violationIf (spec.mode? == some .incremental && spec.checkColumn.isEmpty) .missingCheckColumn = [] ↔
      (spec.mode? = some .incremental → spec.checkColumn ≠ []) := by
    simp [violationIf]
  rw [violations, List.append_eq_nil_iff, List.append_eq_nil_iff, Option.toList_eq_nil_iff, hmode, hcolumn, and_assoc]

/-! ## Flags -/

/-- Every run replaces the one before: the mode says so, or it is the append mode and the client says so. -/
def Replaces (spec : ImportSpec) : Prop :=
  spec.mode? = some .overwrite ∨ spec.mode? = some .append ∧ spec.overwrite = true

/-- Every run goes on from a watermark: the mode says so, or it is the append mode and the client says so. -/
def Follows (spec : ImportSpec) : Prop :=
  spec.mode? = some .incremental ∨ spec.mode? = some .append ∧ spec.incremental = true

theorem withModeFlags_flags {spec : ImportSpec} (hmode : spec.mode?.isSome) :
    (spec.withModeFlags.overwrite = true ↔ spec.Replaces) ∧ (spec.withModeFlags.incremental = true ↔ spec.Follows) := by
  obtain ⟨mode, hmode⟩ := Option.isSome_iff_exists.1 hmode
  unfold withModeFlags Replaces Follows
  rw [hmode]
  cases mode <;> simp

end ImportSpec

theorem JobRequest.normal_flags (registry : Registry) (username : Text) (request : JobRequest) :
    (request.normal registry username).spec.mode? = request.spec.mode? ∧
      (request.normal registry username).spec.overwrite = request.spec.withModeFlags.overwrite ∧
      (request.normal registry username).spec.incremental = request.spec.withModeFlags.incremental ∧
      (request.normal registry username).spec.checkColumn = request.spec.checkColumn := by
  obtain ⟨hmode, hoverwrite, hincremental, hcolumn, -⟩ := ImportSpec.normal_unchanged registry request.spec
  obtain ⟨name, hspec⟩ := request.exists_normal_spec registry username
  rw [hspec]
  exact ⟨congrArg ImportMode.ofText? hmode, hoverwrite, hincremental, hcolumn⟩

/-! ## What is said of a watermark -/

namespace CommandForm

/-- A saved job follows a watermark if the flag is set, and the check column is given with it if there is one. -/
theorem watermark_save (metastore jobId : Text) (spec : ImportSpec) :
    (.switch ["--incremental", "append"] ∈ (save metastore jobId).arguments spec ↔ spec.incremental = true) ∧
      ((∃ column, .setting "--check-column" column ∈ (save metastore jobId).arguments spec) ↔
        spec.incremental = true ∧ spec.checkColumn ≠ []) := by
  constructor
  · simp [arguments, mem_whenSet, mem_onlyIf]
  · simp [arguments, mem_whenSet, mem_onlyIf]

end CommandForm

/-! ## Requests -/

/-- **What an accepted request does is what its mode says, and in the append mode what its flags say.**  The workflow of
a recurring request removes the target directory if every run replaces the one before.  The command that saves a job
follows a watermark if every run goes on from one, and names the check column then if there is one; there is one in
the incremental mode. -/
theorem JobRequest.normal_acts (registry : Registry) (username : Text) {request : JobRequest}
    (accepted : request.spec.violations = []) :
    ((request.normal registry username).spec.overwrite = true ↔ request.spec.Replaces) ∧
      ((request.normal registry username).spec.incremental = true ↔ request.spec.Follows) ∧
      (∀ name flagPath save run, ∃ workflow,
        (recurringDraft name flagPath (request.normal registry username).spec.overwrite save run).build = .ok workflow ∧
          ((∃ node path next, .remove node path next ∈ workflow.nodes) ↔ request.spec.Replaces)) ∧
      (∀ metastore jobId targetDir command,
        CommandLine.saveJob metastore jobId { (request.normal registry username).spec with targetDir } = .ok command →
          command.args = ((CommandForm.save metastore jobId).arguments
              { (request.normal registry username).spec with targetDir }).flatMap Argument.args) ∧
      (∀ metastore jobId targetDir,
        (.switch ["--incremental", "append"] ∈ (CommandForm.save metastore jobId).arguments
            { (request.normal registry username).spec with targetDir } ↔ request.spec.Follows) ∧
          ((∃ column, .setting "--check-column" column ∈ (CommandForm.save metastore jobId).arguments
              { (request.normal registry username).spec with targetDir }) ↔
            request.spec.Follows ∧ request.spec.checkColumn ≠ [])) ∧
      (request.spec.mode? = some .incremental → request.spec.checkColumn ≠ []) := by
  obtain ⟨-, ⟨-, hmode⟩, hcolumn⟩ := ImportSpec.violations_eq_nil.1 accepted
  obtain ⟨hreplaces, hfollows⟩ := ImportSpec.withModeFlags_flags hmode
  obtain ⟨-, hoverwrite, hincremental, hchecked⟩ := normal_flags registry username request
  rw [← hoverwrite] at hreplaces
  rw [← hincremental] at hfollows
  refine ⟨hreplaces, hfollows, fun name flagPath save run => ?_, fun metastore jobId targetDir command hcommand => ?_,
    fun metastore jobId targetDir => ?_, hcolumn⟩
  · exact ⟨_, build_recurring .., (removes_recurring ..).trans hreplaces⟩
  · have hbuild : (CommandForm.save metastore jobId).build
        { (request.normal registry username).spec with targetDir } = .ok command := hcommand
    exact (CommandForm.build_ok hbuild).2
  · obtain ⟨hswitch, hsetting⟩ :=
      CommandForm.watermark_save metastore jobId { (request.normal registry username).spec with targetDir }
    refine ⟨hswitch.trans hfollows, hsetting.trans (and_congr hfollows ?_)⟩
    rw [← hchecked]

/-- An import in the append mode that comes with both flags and has no check column. -/
def flaggedRequest : JobRequest := .once {
  name := "orders".toList
  spec := {
    jdbcUri := "jdbc:mysql://db:3306/sales".toList
    table := "orders".toList
    username := "john".toList
    importMode := "append".toList
    incremental := true
    overwrite := true } }

theorem JobRequest.normal_acts_flaggedRequest :
    (∀ name flagPath save run, ∃ workflow,
      (recurringDraft name flagPath (flaggedRequest.normal [] fallbackUsername).spec.overwrite save run).build =
          .ok workflow ∧
        ∃ node path next, .remove node path next ∈ workflow.nodes) ∧
      .switch ["--incremental", "append"] ∈ (CommandForm.save "meta".toList "orders-1".toList).arguments
        { (flaggedRequest.normal [] fallbackUsername).spec with targetDir := targetDirVariable } := by
  have hreplaces : flaggedRequest.spec.Replaces := .inr ⟨by decide, rfl⟩
  have hfollows : flaggedRequest.spec.Follows := .inr ⟨by decide, rfl⟩
  obtain ⟨-, -, hworkflow, -, harguments, -⟩ :=
    normal_acts [] fallbackUsername (show flaggedRequest.spec.violations = [] by decide)
  refine ⟨fun name flagPath save run => ?_, (harguments _ _ _).1.2 hfollows⟩
  obtain ⟨workflow, hbuild, hremove⟩ := hworkflow name flagPath save run
  exact ⟨workflow, hbuild, hremove.2 hreplaces⟩

/-- The append mode does not take the flags away. -/
theorem JobRequest.not_flags_of_mode :
    ¬∀ (registry : Registry) (username : Text) (request : JobRequest), request.spec.violations = [] →
      ((request.normal registry username).spec.overwrite = true ↔ request.spec.mode? = some .overwrite) ∧
        ((request.normal registry username).spec.incremental = true ↔ request.spec.mode? = some .incremental) := by
  intro h
  have hflags := h [] fallbackUsername flaggedRequest (by decide)
  revert hflags
  decide

end ImportDispatch
