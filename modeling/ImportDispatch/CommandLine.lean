import ImportDispatch.Import.Spec
/-!
# Command lines

What the workflow runs: the import tool with its arguments, in one of three forms.  The order of the arguments matters,
because the tool tells the arguments of a saved job from those of the import by where the `--` stand; so every form
writes its arguments in a fixed order and leaves out what is not set.
-/
namespace ImportDispatch

/-- The file of connection parameters that travels with every workflow. -/
def connectionParamsFile : Text := "driver.properties".toList

/-- A tool and its arguments. -/
structure CommandLine where
  tool : Text
  args : List Text
deriving DecidableEq, Repr

/-- An argument that has to be set is blank. -/
inductive ArgumentError
  | unset (flag : Text)
deriving DecidableEq, Repr

def ArgumentError.message : ArgumentError → Text
  | unset flag => "required argument '".toList ++ flag ++ "' has no value".toList

namespace CommandLine

/-! ## As text -/

def text (command : CommandLine) : Text := Text.join [' '] (command.tool :: command.args)

/-- What stands for a password in logs. -/
def mask : Text := "****".toList

/-- What announces a password. -/
def passwordFlag : Text := "--password".toList

/-- The arguments with every password masked.  What stands in for a password announces nothing itself. -/
def maskedArgs : Bool → List Text → List Text
  | _, [] => []
  | true, _ :: rest => mask :: maskedArgs false rest
  | false, arg :: rest => arg :: maskedArgs (arg == passwordFlag) rest

def maskedText (command : CommandLine) : Text := Text.join [' '] (command.tool :: maskedArgs false command.args)

/-! ## Arguments -/

def required (flag : String) (value : Text) : Except ArgumentError (List Text) :=
  if Text.isBlank value then .error (.unset flag.toList) else .ok [flag.toList, value]

/-- An argument that is left out when it is not set. -/
def optional (flag : String) (value : Text) : List Text := if value.isEmpty then [] else [flag.toList, value]

/-- Arguments that stand there or not. -/
def given (condition : Bool) (args : List Text) : List Text := if condition then args else []

def word (s : String) : List Text := [s.toList]

/-! ## The three forms -/

/-- The import, run at once. -/
def directImport (spec : ImportSpec) : Except ArgumentError CommandLine := do
  let connect ← required "--connect" spec.jdbcUri
  let table ← required "--table" spec.table
  let username ← required "--username" spec.username
  return ⟨"import".toList,
    connect ++ table ++ username ++ optional "--password" spec.password ++ optional "--num-mappers" ['1'] ++
      optional "--target-dir" spec.targetDir ++ given spec.append (word "--append") ++
      word "--connection-param-file" ++ [connectionParamsFile] ++ optional "--driver" spec.driver ++
      optional "--schema" spec.schema⟩

/-- The import, saved under a job id in the metastore. -/
def saveJob (metastore jobId : Text) (spec : ImportSpec) : Except ArgumentError CommandLine := do
  let create ← required "--create" jobId
  let connectMeta ← required "--meta-connect" metastore
  let connect ← required "--connect" spec.jdbcUri
  let table ← required "--table" spec.table
  return ⟨"job".toList,
    create ++ connectMeta ++ word "--" ++ word "import" ++ connect ++ table ++ optional "--num-mappers" ['1'] ++
      optional "--target-dir" spec.targetDir ++ given spec.incremental (optional "--check-column" spec.checkColumn) ++
      given spec.incremental (optional "--last-value" spec.lastValue) ++
      given spec.incremental (word "--incremental append") ++ given spec.append (word "--append") ++
      word "--connection-param-file" ++ [connectionParamsFile] ++ optional "--driver" spec.driver⟩

/-- The saved job, run.  The metastore keeps no credentials, so they are given on every run; what follows the schema
has to reach the import and not the job, hence the separators behind it. -/
def runJob (metastore jobId : Text) (spec : ImportSpec) : Except ArgumentError CommandLine := do
  let exec ← required "--exec" jobId
  let connectMeta ← required "--meta-connect" metastore
  return ⟨"job".toList,
    exec ++ connectMeta ++
      given (!Text.isBlank spec.username)
        (word "--" ++ word "--username" ++ [spec.username] ++ optional "--password" spec.password ++ word "--") ++
      given (!spec.schema.isEmpty) (word "--schema" ++ [spec.schema] ++ word "--" ++ word "--")⟩

end CommandLine
end ImportDispatch
