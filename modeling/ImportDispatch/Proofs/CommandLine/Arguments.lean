import ImportDispatch.CommandLine
import ImportDispatch.Proofs.Attempt
import ImportDispatch.Proofs.Text.Pieces
/-!
# What a command line says

A command line says switches and settings, and its form tells which, in which order (`CommandForm.arguments`).  It is
built from them if none of the settings that have to be there is blank (`CommandForm.build_eq`).  Written out and split
at its spaces, it gives every switch and every setting back, each value cut at its own spaces; so it says what it is meant
to say exactly if no value holds a space (`CommandForm.words_iff`).
-/
namespace ImportDispatch

/-! ## Arguments -/

/-- One thing that a command line says. -/
inductive Argument
  /-- Words that are always the same.  Together they are one argument. -/
  | switch (words : List String)
  /-- A flag and the value that belongs to it. -/
  | setting (flag : String) (value : Text)
deriving DecidableEq, Repr

namespace Argument

/-- As it stands among the arguments of a command line. -/
def args : Argument → List Text
  | switch words => [Text.join [' '] (words.map String.toList)]
  | setting flag value => [flag.toList, value]

/-- The words that it is meant to say: a value is one word, whatever it holds. -/
def words : Argument → List Text
  | switch words => words.map String.toList
  | setting flag value => [flag.toList, value]

/-- The words that it says where spaces part them. -/
def pieces : Argument → List Text
  | switch words => words.map String.toList
  | setting flag value => flag.toList :: Text.splitBy (· == ' ') value

def value? : Argument → Option Text
  | switch _ => none
  | setting _ value => some value

/-- No space stands in what is always the same. -/
def isClean : Argument → Bool
  | switch words => !words.isEmpty && words.all fun word => !word.toList.elem ' '
  | setting flag _ => !flag.toList.elem ' '

theorem flatMap_splitBy_args {a : Argument} (ha : a.isClean = true) :
    a.args.flatMap (Text.splitBy (· == ' ')) = a.pieces := by
  cases a with
  | switch words =>
    simp only [isClean, Bool.and_eq_true, Bool.not_eq_true', List.isEmpty_eq_false_iff, List.all_eq_true,
      List.elem_eq_mem, decide_eq_false_iff_not] at ha
    simp only [args, pieces, List.flatMap_singleton]
    refine Text.splitBy_join (by simp) (by simpa using ha.1) fun piece hpiece c hc => ?_
    obtain ⟨word, hword, rfl⟩ := List.mem_map.1 hpiece
    simpa using ne_of_mem_of_not_mem hc (ha.2 word hword)
  | setting flag value =>
    have hflag : ' ' ∉ flag.toList := by simpa [isClean] using ha
    simp only [args, pieces, List.flatMap_cons, List.flatMap_nil, List.append_nil, Text.splitBy_of_not_mem hflag,
      List.singleton_append]

theorem pieces_eq_words {a : Argument} (ha : ∀ value, a.value? = some value → ' ' ∉ value) : a.pieces = a.words := by
  cases a with
  | switch words => rfl
  | setting flag value => rw [pieces, words, Text.splitBy_of_not_mem (ha value rfl)]

theorem mem_words {a : Argument} {value : Text} (h : a.value? = some value) : value ∈ a.words := by
  cases a with
  | switch words => cases h
  | setting flag value' => cases h; simp [words]

end Argument

/-! ## Forms -/

/-- The three forms of a command line, each with what it needs besides the specification. -/
inductive CommandForm
  | direct
  | save (metastore jobId : Text)
  | run (metastore jobId : Text)
deriving DecidableEq, Repr

namespace CommandForm

def build : CommandForm → ImportSpec → Except ArgumentError CommandLine
  | direct, spec => CommandLine.directImport spec
  | save metastore jobId, spec => CommandLine.saveJob metastore jobId spec
  | run metastore jobId, spec => CommandLine.runJob metastore jobId spec

def tool : CommandForm → Text
  | direct => "import".toList
  | save _ _ => "job".toList
  | run _ _ => "job".toList

/-- The settings that must not be blank, in the order in which they are looked at. -/
def required : CommandForm → ImportSpec → List (String × Text)
  | direct, spec => [("--connect", spec.jdbcUri), ("--table", spec.table), ("--username", spec.username)]
  | save metastore jobId, spec =>
    [("--create", jobId), ("--meta-connect", metastore), ("--connect", spec.jdbcUri), ("--table", spec.table)]
  | run metastore jobId, _ => [("--exec", jobId), ("--meta-connect", metastore)]

/-- A setting that is left out when its value is empty. -/
def whenSet (flag : String) (value : Text) : List Argument := if value.isEmpty then [] else [.setting flag value]

def onlyIf (condition : Bool) (arguments : List Argument) : List Argument := if condition then arguments else []

/-- What the form says of a specification, in its fixed order. -/
def arguments : CommandForm → ImportSpec → List Argument
  | direct, spec =>
    [.setting "--connect" spec.jdbcUri, .setting "--table" spec.table, .setting "--username" spec.username] ++
      whenSet "--password" spec.password ++ [.setting "--num-mappers" ['1']] ++ whenSet "--target-dir" spec.targetDir ++
      onlyIf spec.append [.switch ["--append"]] ++ [.setting "--connection-param-file" connectionParamsFile] ++
      whenSet "--driver" spec.driver ++ whenSet "--schema" spec.schema
  | save metastore jobId, spec =>
    [.setting "--create" jobId, .setting "--meta-connect" metastore, .switch ["--"], .switch ["import"],
        .setting "--connect" spec.jdbcUri, .setting "--table" spec.table, .setting "--num-mappers" ['1']] ++
      whenSet "--target-dir" spec.targetDir ++ onlyIf spec.incremental (whenSet "--check-column" spec.checkColumn) ++
      onlyIf spec.incremental (whenSet "--last-value" spec.lastValue) ++
      onlyIf spec.incremental [.switch ["--incremental", "append"]] ++ onlyIf spec.append [.switch ["--append"]] ++
      [.setting "--connection-param-file" connectionParamsFile] ++ whenSet "--driver" spec.driver
  | run metastore jobId, spec =>
    [.setting "--exec" jobId, .setting "--meta-connect" metastore] ++
      onlyIf (!Text.isBlank spec.username)
        ([.switch ["--"], .setting "--username" spec.username] ++ whenSet "--password" spec.password ++
          [.switch ["--"]]) ++
      onlyIf (!spec.schema.isEmpty) [.setting "--schema" spec.schema, .switch ["--"], .switch ["--"]]

/-- The values in the command line: those of the fields that are said, and two that are always the same. -/
def values (form : CommandForm) (spec : ImportSpec) : List Text := (form.arguments spec).filterMap Argument.value?

theorem whenSet_of_ne_nil {flag : String} {value : Text} (hvalue : value ≠ []) :
    whenSet flag value = [.setting flag value] :=
  if_neg (by simpa using hvalue)

theorem mem_whenSet {flag : String} {value : Text} {argument : Argument} :
    argument ∈ whenSet flag value ↔ value ≠ [] ∧ argument = .setting flag value := by
  unfold whenSet
  by_cases hvalue : value.isEmpty = true
  · simp [List.isEmpty_iff.1 hvalue]
  · simp [List.isEmpty_eq_false_iff.1 (by simpa using hvalue)]

theorem mem_onlyIf {condition : Bool} {arguments : List Argument} {argument : Argument} :
    argument ∈ onlyIf condition arguments ↔ condition = true ∧ argument ∈ arguments := by
  cases condition <;> simp [onlyIf]

theorem args_whenSet (flag : String) (value : Text) :
    (whenSet flag value).flatMap Argument.args = CommandLine.optional flag value := by
  unfold whenSet CommandLine.optional
  split <;> simp [Argument.args]

theorem args_onlyIf (condition : Bool) (arguments : List Argument) :
    (onlyIf condition arguments).flatMap Argument.args =
      CommandLine.given condition (arguments.flatMap Argument.args) := by
  unfold onlyIf CommandLine.given
  split <;> rfl

/-- A form is built from what it says, if no required setting is blank. -/
theorem build_eq (form : CommandForm) (spec : ImportSpec) :
    form.build spec = match (form.required spec).find? fun setting => Text.isBlank setting.2 with
      | some (flag, _) => .error (.unset flag.toList)
      | none => .ok ⟨form.tool, (form.arguments spec).flatMap Argument.args⟩ := by
  cases form with
  | direct =>
    simp only [build, CommandLine.directImport, CommandLine.required, required, List.find?_cons, arguments,
      List.flatMap_append, List.append_assoc, args_whenSet, args_onlyIf]
    cases Text.isBlank spec.jdbcUri <;> cases Text.isBlank spec.table <;> cases Text.isBlank spec.username <;> rfl
  | save metastore jobId =>
    simp only [build, CommandLine.saveJob, CommandLine.required, required, List.find?_cons, arguments,
      List.flatMap_append, List.append_assoc, args_whenSet, args_onlyIf]
    cases Text.isBlank jobId <;> cases Text.isBlank metastore <;> cases Text.isBlank spec.jdbcUri <;>
      cases Text.isBlank spec.table <;> rfl
  | run metastore jobId =>
    simp only [build, CommandLine.runJob, CommandLine.required, required, List.find?_cons, arguments,
      List.flatMap_append, List.append_assoc, args_whenSet, args_onlyIf]
    cases Text.isBlank jobId <;> cases Text.isBlank metastore <;> rfl

/-- A form fails over the first of its required settings that is blank. -/
theorem build_eq_error {form : CommandForm} {spec : ImportSpec} {e : ArgumentError} : form.build spec = .error e ↔
    ∃ flag value, (form.required spec).find? (fun setting => Text.isBlank setting.2) = some (flag, value) ∧
      e = .unset flag.toList := by
  rw [build_eq]
  split
  · rename_i flag value hfind
    simp [hfind, eq_comm]
  · rename_i hfind
    simp [hfind]

theorem build_ok {form : CommandForm} {spec : ImportSpec} {command : CommandLine} (h : form.build spec = .ok command) :
    command.tool = form.tool ∧ command.args = (form.arguments spec).flatMap Argument.args := by
  rw [build_eq] at h
  split at h
  · cases h
  · cases h
    exact ⟨rfl, rfl⟩

/-! ## Splitting at spaces -/

theorem isClean_whenSet (flag : String) (value : Text) :
    (whenSet flag value).all Argument.isClean = (value.isEmpty || !flag.toList.elem ' ') := by
  unfold whenSet
  by_cases hvalue : value.isEmpty = true <;> simp [hvalue, Argument.isClean]

theorem isClean_onlyIf (condition : Bool) (arguments : List Argument) :
    (onlyIf condition arguments).all Argument.isClean = (!condition || arguments.all Argument.isClean) := by
  cases condition <;> simp [onlyIf]

theorem arguments_isClean (form : CommandForm) (spec : ImportSpec) :
    (form.arguments spec).all Argument.isClean = true := by
  cases form <;>
    simp [arguments, isClean_whenSet, isClean_onlyIf, Argument.isClean]

theorem splitBy_text {form : CommandForm} {spec : ImportSpec} {command : CommandLine}
    (h : form.build spec = .ok command) :
    Text.splitBy (· == ' ') command.text = form.tool :: (form.arguments spec).flatMap Argument.pieces := by
  obtain ⟨htool, hargs⟩ := build_ok h
  have htool' : Text.splitBy (· == ' ') form.tool = [form.tool] := by cases form <;> rfl
  rw [CommandLine.text, Text.splitBy_join_flatMap (by simp) (List.cons_ne_nil _ _), List.flatMap_cons, htool, hargs,
    htool', List.flatMap_assoc, List.singleton_append]
  refine congrArg _ (List.flatMap_congr fun a ha => ?_)
  exact Argument.flatMap_splitBy_args (List.all_eq_true.1 (arguments_isClean form spec) a ha)

/-- **Split at its spaces, a command line says what it is meant to say exactly if no value in it holds a space.**  In any
case the switches and the flags come back in order, and each value cut at its own spaces. -/
theorem words_iff {form : CommandForm} {spec : ImportSpec} {command : CommandLine}
    (h : form.build spec = .ok command) :
    command.args = (form.arguments spec).flatMap Argument.args ∧
      Text.splitBy (· == ' ') command.text = form.tool :: (form.arguments spec).flatMap Argument.pieces ∧
      (Text.splitBy (· == ' ') command.text = form.tool :: (form.arguments spec).flatMap Argument.words ↔
        ∀ value ∈ form.values spec, ' ' ∉ value) := by
  refine ⟨(build_ok h).2, splitBy_text h, fun hwords value hvalue hspace => ?_, fun hvalues => ?_⟩
  · -- the value is one of the pieces, and no piece holds a space
    obtain ⟨a, ha, hvalue⟩ := List.mem_filterMap.1 hvalue
    have hpiece : value ∈ Text.splitBy (· == ' ') command.text := by
      rw [hwords]
      exact List.mem_cons_of_mem _ (List.mem_flatMap.2 ⟨a, ha, Argument.mem_words hvalue⟩)
    simpa using Text.not_sep_of_mem_splitBy hpiece ' ' hspace
  · rw [splitBy_text h]
    refine congrArg _ (List.flatMap_congr fun a ha => Argument.pieces_eq_words fun value hvalue => ?_)
    exact hvalues value (List.mem_filterMap.2 ⟨a, ha, hvalue⟩)

/-- An import that follows a watermark, from a database whose address ends in a separator of arguments. -/
def watermarkSpec : ImportSpec where
  jdbcUri := "jdbc:mysql://db:3306/sales?password=--".toList
  table := "orders".toList
  checkColumn := "id".toList
  lastValue := "42".toList
  incremental := true

theorem words_iff_watermarkSpec :
    ∃ command, (CommandForm.save "meta".toList "nightly".toList).build watermarkSpec = .ok command ∧
      Text.splitBy (· == ' ') command.text =
        ["job", "--create", "nightly", "--meta-connect", "meta", "--", "import", "--connect",
          "jdbc:mysql://db:3306/sales?password=--", "--table", "orders", "--num-mappers", "1", "--check-column", "id",
          "--last-value", "42", "--incremental", "append", "--append", "--connection-param-file",
          "driver.properties"].map String.toList := by
  have hbuild : (CommandForm.save "meta".toList "nightly".toList).build watermarkSpec = .ok ⟨_, _⟩ := rfl
  exact ⟨_, hbuild, (words_iff hbuild).2.2.2 (by decide)⟩

/-- An import whose table brings a target directory of its own. -/
def widenedSpec : ImportSpec where
  jdbcUri := "jdbc:mysql://db:3306/sales".toList
  table := "orders --target-dir /elsewhere".toList
  username := "john".toList

/-- A table with spaces in its name says more than it is meant to. -/
theorem not_words_of_build :
    ¬∀ (form : CommandForm) (spec : ImportSpec) (command : CommandLine), form.build spec = .ok command →
      Text.splitBy (· == ' ') command.text = form.tool :: (form.arguments spec).flatMap Argument.words := by
  intro h
  have hwords := h .direct widenedSpec _ rfl
  revert hwords
  decide

end CommandForm
end ImportDispatch
