import ImportDispatch.Proofs.CommandLine.Arguments
/-!
# Command lines can be read back

A value in a command line may look like a flag, or like the `--` that parts the arguments of a job from those of its
import.  Still a form can be read back from its arguments alone, whatever the values are.  Of a part that a form may
leave out the next text tells whether it is there, because nothing else that may come next looks like it
(`CommandLayout.decides`), and where a value has to stand, every text is one (`CommandLayout.read_of_fits`).  What the
form was told of a specification comes back in this way (`CommandForm.build_reads`).
-/
namespace ImportDispatch

/-! ## Layouts -/

/-- In which order a form says its arguments, and which of them it may leave out. -/
inductive CommandLayout
  | done
  | switch (words : List String) (rest : CommandLayout)
  | setting (flag : String) (rest : CommandLayout)
  /-- A part that is there as a whole or not at all. -/
  | maybe (part rest : CommandLayout)
deriving DecidableEq, Repr

namespace CommandLayout

/-- Arguments in the order of the layout. -/
inductive Fits : CommandLayout → List Argument → Prop
  | done : Fits done []
  | switch {words : List String} {rest : CommandLayout} {arguments : List Argument} (h : Fits rest arguments) :
    Fits (switch words rest) (.switch words :: arguments)
  | setting {flag : String} {rest : CommandLayout} {arguments : List Argument} (value : Text)
    (h : Fits rest arguments) : Fits (setting flag rest) (.setting flag value :: arguments)
  | without {part rest : CommandLayout} {arguments : List Argument} (h : Fits rest arguments) :
    Fits (maybe part rest) arguments
  | within {part rest : CommandLayout} {first arguments : List Argument} (hpart : Fits part first)
    (h : Fits rest arguments) : Fits (maybe part rest) (first ++ arguments)

def switchText (words : List String) : Text := Text.join [' '] (words.map String.toList)

/-- The text that a part begins with, if it is always the same. -/
def lead? : CommandLayout → Option Text
  | switch words _ => some (switchText words)
  | setting flag _ => some flag.toList
  | _ => none

/-- Reads arguments in the order of the layout from the texts of a command line; the result has the texts behind
them, too. -/
def read : CommandLayout → List Text → Option (List Argument × List Text)
  | done, texts => some ([], texts)
  | switch words rest, text :: texts =>
    if text = switchText words then
      (rest.read texts).map fun (arguments, behind) => (.switch words :: arguments, behind)
    else none
  | setting flag rest, text :: value :: texts =>
    if text = flag.toList then
      (rest.read texts).map fun (arguments, behind) => (.setting flag value :: arguments, behind)
    else none
  | maybe part rest, texts =>
    if texts.head? = part.lead? then do
      let (first, behind) ← part.read texts
      let (arguments, behind) ← rest.read behind
      return (first ++ arguments, behind)
    else rest.read texts
  | _, _ => none

/-! ## What comes next -/

/-- What the texts may begin with; `next` is what may come behind, nothing at all included. -/
def firsts : CommandLayout → List (Option Text) → List (Option Text)
  | done, next => next
  | switch words _, _ => [some (switchText words)]
  | setting flag _, _ => [some flag.toList]
  | maybe part rest, next => part.lead? :: rest.firsts next

/-- The next text decides about every part that may be left out. -/
def decides : CommandLayout → List (Option Text) → Bool
  | done, _ => true
  | switch _ rest, next => rest.decides next
  | setting _ rest, next => rest.decides next
  | maybe part rest, next =>
    part.lead?.isSome && !(rest.firsts next).elem part.lead? && part.decides (rest.firsts next) && rest.decides next

variable {layout : CommandLayout} {arguments : List Argument} {next : List (Option Text)} {behind : List Text}

theorem head_of_lead (hfits : Fits layout arguments) (hlead : layout.lead?.isSome = true) (behind : List Text) :
    (arguments.flatMap Argument.args ++ behind).head? = layout.lead? := by
  cases hfits with
  | switch => rfl
  | setting => rfl
  | done => cases hlead
  | without => cases hlead
  | within => cases hlead

theorem head_mem_firsts (hfits : Fits layout arguments) (hdecides : layout.decides next = true)
    (hnext : behind.head? ∈ next) : (arguments.flatMap Argument.args ++ behind).head? ∈ layout.firsts next := by
  induction hfits with
  | done => exact hnext
  | switch => exact List.mem_singleton_self _
  | setting => exact List.mem_singleton_self _
  | without _ ih =>
    simp only [decides, Bool.and_eq_true] at hdecides
    exact List.mem_cons_of_mem _ (ih hdecides.2)
  | within hpart _ _ _ =>
    simp only [decides, Bool.and_eq_true] at hdecides
    rw [List.flatMap_append, List.append_assoc, head_of_lead hpart hdecides.1.1.1]
    exact List.mem_cons_self

/-- **What is written in the order of a layout is read back from it**, if the next text always decides. -/
theorem read_of_fits (hfits : Fits layout arguments) (hdecides : layout.decides next = true)
    (hnext : behind.head? ∈ next) :
    layout.read (arguments.flatMap Argument.args ++ behind) = some (arguments, behind) := by
  induction hfits generalizing next behind with
  | done => rfl
  | switch _ ih => simp [Argument.args, read, switchText, ih hdecides hnext]
  | setting value _ ih => simp [Argument.args, read, ih hdecides hnext]
  | without hrest ih =>
    simp only [decides, Bool.and_eq_true, Bool.not_eq_true', List.elem_eq_mem, decide_eq_false_iff_not] at hdecides
    -- what comes next is no lead of the part, which is not among the firsts of the rest
    have hhead := head_mem_firsts hrest hdecides.2 hnext
    rw [read, if_neg fun h => hdecides.1.1.2 (by rwa [← h]), ih hdecides.2 hnext]
  | within hpart hrest ihpart ih =>
    simp only [decides, Bool.and_eq_true] at hdecides
    have hhead := head_mem_firsts hrest hdecides.2 hnext
    rw [List.flatMap_append, List.append_assoc, read, if_pos (head_of_lead hpart hdecides.1.1.1 _),
      ihpart hdecides.1.2 hhead]
    simp [ih hdecides.2 hnext]

/-! ## Parts that may be left out -/

/-- Arguments that are left out, or in the order of the layout. -/
def MayFit (layout : CommandLayout) (arguments : List Argument) : Prop := arguments = [] ∨ Fits layout arguments

theorem MayFit.append {part rest : CommandLayout} {first : List Argument} (hpart : MayFit part first)
    (h : Fits rest arguments) : Fits (maybe part rest) (first ++ arguments) := by
  rcases hpart with rfl | hpart
  · exact .without h
  · exact .within hpart h

theorem MayFit.fits (h : MayFit layout arguments) : Fits (maybe layout done) arguments := by
  rw [← List.append_nil arguments]
  exact h.append .done

theorem MayFit.whenSet (flag : String) (value : Text) :
    MayFit (.setting flag .done) (CommandForm.whenSet flag value) := by
  unfold CommandForm.whenSet
  split
  · exact .inl rfl
  · exact .inr (.setting value .done)

theorem MayFit.onlyIf (condition : Bool) (h : MayFit layout arguments) :
    MayFit layout (CommandForm.onlyIf condition arguments) := by
  cases condition
  · exact .inl rfl
  · exact h

end CommandLayout

/-! ## What is told -/

/-- What a command line tells.  A text that it does not tell is empty. -/
structure Told where
  jobId : Text := []
  metastore : Text := []
  jdbcUri : Text := []
  table : Text := []
  username : Text := []
  password : Text := []
  targetDir : Text := []
  checkColumn : Text := []
  lastValue : Text := []
  driver : Text := []
  schema : Text := []
  incremental : Bool := false
  append : Bool := false
deriving DecidableEq, Repr

/-- The value of an argument with one of the flags. -/
def Argument.valueOf? (flags : List String) : Argument → Option Text
  | switch _ => none
  | setting flag value => if flag ∈ flags then some value else none

/-- The value behind the first of the flags that stands there. -/
def valueOf (flags : List String) (arguments : List Argument) : Text :=
  (arguments.findSome? (Argument.valueOf? flags)).getD []

def Told.of (arguments : List Argument) : Told where
  jobId := valueOf ["--create", "--exec"] arguments
  metastore := valueOf ["--meta-connect"] arguments
  jdbcUri := valueOf ["--connect"] arguments
  table := valueOf ["--table"] arguments
  username := valueOf ["--username"] arguments
  password := valueOf ["--password"] arguments
  targetDir := valueOf ["--target-dir"] arguments
  checkColumn := valueOf ["--check-column"] arguments
  lastValue := valueOf ["--last-value"] arguments
  driver := valueOf ["--driver"] arguments
  schema := valueOf ["--schema"] arguments
  incremental := arguments.elem (.switch ["--incremental", "append"])
  append := arguments.elem (.switch ["--append"])

/-- What the texts of a command line tell, all of them read in the order of the layout. -/
def CommandLayout.told? (layout : CommandLayout) (texts : List Text) : Option Told :=
  match layout.read texts with
  | some (arguments, []) => some (.of arguments)
  | _ => none

namespace CommandForm

section

variable (flags : List String)

@[simp] theorem findSome?_whenSet (flag : String) (value : Text) :
    (whenSet flag value).findSome? (Argument.valueOf? flags) =
      if flag ∈ flags then (if value = [] then none else some value) else none := by
  unfold whenSet
  by_cases hvalue : value = [] <;> simp [hvalue, Argument.valueOf?]

@[simp] theorem findSome?_onlyIf (condition : Bool) (arguments : List Argument) :
    (onlyIf condition arguments).findSome? (Argument.valueOf? flags) =
      if condition then arguments.findSome? (Argument.valueOf? flags) else none := by
  cases condition <;> rfl

end

/-- A value that is left out when it is empty is empty when it is left out. -/
@[simp] theorem getD_unset (value : Text) : (if value = [] then none else some value).getD [] = value := by
  by_cases hvalue : value = [] <;> simp [hvalue]

/-! ## Forms -/

def layout : CommandForm → CommandLayout
  | direct =>
    .setting "--connect" <| .setting "--table" <| .setting "--username" <| .maybe (.setting "--password" .done) <|
      .setting "--num-mappers" <| .maybe (.setting "--target-dir" .done) <| .maybe (.switch ["--append"] .done) <|
      .setting "--connection-param-file" <| .maybe (.setting "--driver" .done) <|
      .maybe (.setting "--schema" .done) .done
  | save _ _ =>
    .setting "--create" <| .setting "--meta-connect" <| .switch ["--"] <| .switch ["import"] <|
      .setting "--connect" <| .setting "--table" <| .setting "--num-mappers" <|
      .maybe (.setting "--target-dir" .done) <| .maybe (.setting "--check-column" .done) <|
      .maybe (.setting "--last-value" .done) <| .maybe (.switch ["--incremental", "append"] .done) <|
      .maybe (.switch ["--append"] .done) <| .setting "--connection-param-file" <|
      .maybe (.setting "--driver" .done) .done
  | run _ _ =>
    .setting "--exec" <| .setting "--meta-connect" <|
      .maybe (.switch ["--"] <| .setting "--username" <| .maybe (.setting "--password" .done) <|
        .switch ["--"] .done) <|
      .maybe (.setting "--schema" <| .switch ["--"] <| .switch ["--"] .done) .done

/-- What a form tells of a specification. -/
def told : CommandForm → ImportSpec → Told
  | direct, spec => {
      jdbcUri := spec.jdbcUri
      table := spec.table
      username := spec.username
      password := spec.password
      targetDir := spec.targetDir
      driver := spec.driver
      schema := spec.schema
      append := spec.append }
  | save metastore jobId, spec => {
      jobId
      metastore
      jdbcUri := spec.jdbcUri
      table := spec.table
      targetDir := spec.targetDir
      checkColumn := if spec.incremental then spec.checkColumn else []
      lastValue := if spec.incremental then spec.lastValue else []
      driver := spec.driver
      incremental := spec.incremental
      append := spec.append }
  | run metastore jobId, spec => {
      jobId
      metastore
      username := if Text.isBlank spec.username then [] else spec.username
      password := if Text.isBlank spec.username then [] else spec.password
      schema := spec.schema }

theorem decides_layout (form : CommandForm) : form.layout.decides [none] = true := by
  cases form <;> rfl

open CommandLayout (Fits MayFit)

theorem fits_layout (form : CommandForm) (spec : ImportSpec) : form.layout.Fits (form.arguments spec) := by
  cases form with
  | direct =>
    simp only [arguments, List.append_assoc, List.cons_append, List.nil_append]
    refine .setting _ (.setting _ (.setting _ ((MayFit.whenSet _ _).append (.setting _ ?_))))
    refine (MayFit.whenSet _ _).append ((MayFit.onlyIf _ (.inr (.switch .done))).append (.setting _ ?_))
    exact (MayFit.whenSet _ _).append (MayFit.whenSet _ _).fits
  | save metastore jobId =>
    simp only [arguments, List.append_assoc, List.cons_append, List.nil_append]
    refine .setting _ (.setting _ (.switch (.switch (.setting _ (.setting _ (.setting _ ?_))))))
    refine (MayFit.whenSet _ _).append ((MayFit.onlyIf _ (.whenSet _ _)).append ?_)
    refine (MayFit.onlyIf _ (.whenSet _ _)).append ((MayFit.onlyIf _ (.inr (.switch .done))).append ?_)
    exact (MayFit.onlyIf _ (.inr (.switch .done))).append (.setting _ (MayFit.whenSet _ _).fits)
  | run metastore jobId =>
    simp only [arguments, List.cons_append, List.nil_append]
    refine .setting _ (.setting _ ((MayFit.onlyIf _ (.inr ?_)).append (MayFit.onlyIf _ (.inr ?_)).fits))
    · exact .switch (.setting _ ((MayFit.whenSet _ _).append (.switch .done)))
    · exact .setting _ (.switch (.switch .done))

theorem told_of_arguments (form : CommandForm) (spec : ImportSpec) : .of (form.arguments spec) = form.told spec := by
  unfold Told.of valueOf
  cases form with
  | direct =>
    simp [arguments, told, Argument.valueOf?, List.findSome?_cons, List.findSome?_append, mem_whenSet, mem_onlyIf]
  | save metastore jobId =>
    cases hincremental : spec.incremental <;>
      simp [arguments, told, Argument.valueOf?, List.findSome?_cons, List.findSome?_append, mem_whenSet, mem_onlyIf,
        hincremental]
  | run metastore jobId =>
    cases hblank : Text.isBlank spec.username <;>
      simp [arguments, told, Argument.valueOf?, List.findSome?_cons, List.findSome?_append, mem_whenSet, mem_onlyIf,
        hblank]

/-- **A form can be read back from its arguments, whatever the values are.**  It fails only for want of a setting that
has to be there, and names the first one; otherwise its arguments stand in their fixed order, with nothing in the place
of what is not set, and tell all that the form was told. -/
theorem build_reads (form : CommandForm) (spec : ImportSpec) :
    (∀ e, form.build spec = .error e ↔ ∃ flag value,
      (form.required spec).find? (fun setting => Text.isBlank setting.2) = some (flag, value) ∧
        e = .unset flag.toList) ∧
      ∀ command, form.build spec = .ok command →
        command.args = (form.arguments spec).flatMap Argument.args ∧ form.layout.Fits (form.arguments spec) ∧
          form.layout.told? command.args = some (form.told spec) := by
  refine ⟨fun e => build_eq_error, fun command hbuild => ?_⟩
  obtain ⟨-, hargs⟩ := build_ok hbuild
  have hread : form.layout.read ((form.arguments spec).flatMap Argument.args ++ []) =
      some (form.arguments spec, []) :=
    CommandLayout.read_of_fits (fits_layout form spec) (decides_layout form) (List.mem_singleton_self none)
  rw [List.append_nil, ← hargs] at hread
  refine ⟨hargs, fits_layout form spec, ?_⟩
  rw [CommandLayout.told?, hread]
  exact congrArg some (told_of_arguments form spec)

/-- An import whose values look like arguments. -/
def misleadingSpec : ImportSpec where
  jdbcUri := "--".toList
  table := "--username".toList
  username := "--password".toList
  schema := "--".toList

example : (CommandForm.run "meta".toList "--username".toList).layout.told?
      (["--exec", "--username", "--meta-connect", "meta", "--", "--username", "--password", "--", "--schema", "--",
        "--", "--"].map String.toList) =
    some ((CommandForm.run "meta".toList "--username".toList).told misleadingSpec) := by
  decide

end CommandForm
end ImportDispatch
