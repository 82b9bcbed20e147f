import ImportDispatch.Engine.Remote
import ImportDispatch.Service
import ImportDispatch.Wire.Requests
/-!
# Settings

How a deployment of the service is set up.  Every setting is a variable of the environment and has a default; the
registry of databases is a file that one of the variables names.  A number that cannot be read counts as not set, but a
registry that cannot be read is an error: without it imports would silently run with the wrong drivers.
-/
namespace ImportDispatch

/-- The settings of a deployment. -/
structure Settings where
  host : Text
  listenPort : Nat
  rootDir : Text
  deployment : Deployment
  /-- The shortest period in minutes, in seconds. -/
  minimum : Nat
  databases : Registry
deriving DecidableEq, Repr

/-- Why the settings cannot be used. -/
inductive SettingsError
  | unreadableRegistry (path : Text)
  | invalidRegistry (path : Text)
deriving DecidableEq, Repr

def SettingsError.message : SettingsError → Text
  | unreadableRegistry path => "Failed to read database registry ".toList ++ inQuotes path
  | invalidRegistry path => "Invalid database registry ".toList ++ inQuotes path

/-- The registry that a text writes, from end to end. -/
def Registry.ofText? (s : Text) : Option Registry :=
  match Json.read s with
  | (value, none) => (Registry.decode value).toOption
  | (_, some _) => none

abbrev Environment := List (Text × Text)

namespace Environment

def get? (env : Environment) (key : String) : Option Text :=
  (env.find? (·.1 == key.toList)).map Prod.snd

def text (env : Environment) (key : String) (fallback : String) : Text :=
  (env.get? key).getD fallback.toList

/-- The number in a variable, or a default. -/
def number (env : Environment) (key : String) (largest fallback : Nat) : Nat :=
  ((env.get? key).bind (Decimal.upTo? largest)).getD fallback

end Environment

namespace Settings

/-- The largest number that a service can listen under. -/
def largestPort : Nat := 65535

def ofEnvironment (env : Environment) : Settings where
  host := env.text "SCHEDULER_HOST" "0.0.0.0"
  listenPort := env.number "SCHEDULER_PORT" largestPort 8080
  rootDir := env.text "SCHEDULER_WORKSPACE_DIR" "data"
  deployment := {
    apiUrl := env.text "SCHEDULER_OOZIE_URL" "http://localhost:11000/oozie"
    jobTracker := env.text "SCHEDULER_JOB_TRACKER" "localhost:8032"
    nameNode := env.text "SCHEDULER_NAME_NODE" "hdfs://localhost:8020"
    metastore := env.text "SCHEDULER_SQOOP_METASTORE" "jdbc:hsqldb:hsql://localhost:16000/sqoop"
    user := env.text "SCHEDULER_USER" "oozie" }
  minimum := env.number "SCHEDULER_MIN_FREQUENCY_SECONDS" Word.largest 300
  databases := []

/-- The settings of an environment with the registry, whose file is read by `readFile?`. -/
def load (env : Environment) (readFile? : Text → Option Text) : Except SettingsError Settings :=
  let settings := ofEnvironment env
  match env.get? "SCHEDULER_DATABASES_FILE" with
  | none => .ok settings
  | some path =>
    match readFile? path with
    | none => .error (.unreadableRegistry path)
    | some text =>
      match Registry.ofText? text with
      | none => .error (.invalidRegistry path)
      | some databases => .ok { settings with databases }

/-- The service of a deployment. -/
def service {σ τ : Type} (settings : Settings) (storage : Storage σ) (engine : Engine τ) : Service σ τ where
  storage := storage
  engine := engine
  registry := settings.databases
  metastore := settings.deployment.metastore
  minimum := settings.minimum

end Settings
end ImportDispatch
