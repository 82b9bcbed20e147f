import ImportDispatch.Import.Job
import ImportDispatch.Import.Registry
import ImportDispatch.Text.Lowercase
/-!
# The normal form of a request

A request takes this form once, before any id, path or command is made from it: the name loses its spaces, the two flags
follow the mode, the address has the separator of its dialect, Oracle gets the schema as part of the table, and a
driver that was not set is looked up.  A recurring request also gets its unit in small letters, and a user if it names
none.
-/
namespace ImportDispatch

/-- The user of recurring imports that name none. -/
def fallbackUsername : Text := "tap".toList

/-- A job name as it stands in paths and ids: an underscore for every space. -/
def normalName (name : Text) : Text := name.map fun c => if c = ' ' then '_' else c

/-! ## Dialects -/

def oracleMark : Text := "jdbc:oracle:thin".toList

/-- The separator before the host in most addresses. -/
def slashSeparator : Text := "://".toList

/-- The separator before the host in Oracle addresses. -/
def atSeparator : Text := ":@".toList

/-- Whether an address belongs to Oracle, in any letter case. -/
def isOracleAddress (jdbcUri : Text) : Bool := Text.occursIn oracleMark (Text.lowercase jdbcUri)

namespace ImportSpec

/-- The flags that follow from the mode; the append mode, or none, leaves them alone. -/
def withModeFlags (spec : ImportSpec) : ImportSpec :=
  match spec.mode? with
  | some .overwrite => { spec with incremental := false, overwrite := true }
  | some .incremental => { spec with incremental := true, overwrite := false }
  | _ => spec

/-- Oracle has no separate schema: it becomes part of a table that has none yet. -/
def withSchemaInTable (spec : ImportSpec) : ImportSpec :=
  if !spec.schema.isEmpty && !spec.table.elem '.' then
    { spec with table := spec.schema ++ '.' :: spec.table, schema := [] }
  else spec

/-- The address with the separator of its dialect, and the schema where the dialect wants it. -/
def inDialect (spec : ImportSpec) : ImportSpec :=
  if isOracleAddress spec.jdbcUri then
    { spec with jdbcUri := Text.replace slashSeparator atSeparator spec.jdbcUri }.withSchemaInTable
  else { spec with jdbcUri := Text.replace atSeparator slashSeparator spec.jdbcUri }

/-- A driver that is not set is the one the registry has for the address. -/
def withDriver (registry : Registry) (spec : ImportSpec) : ImportSpec :=
  if spec.driver.isEmpty then { spec with driver := (registry.driverFor? spec.jdbcUri).getD [] } else spec

/-- A user that is not set, or blank, is the default one. -/
def withUsername (fallback : Text) (spec : ImportSpec) : ImportSpec :=
  if Text.isBlank spec.username then { spec with username := fallback } else spec

def normal (registry : Registry) (spec : ImportSpec) : ImportSpec :=
  spec.withModeFlags.inDialect.withDriver registry

end ImportSpec

/-! ## Requests -/

def ImportJob.normal (registry : Registry) (job : ImportJob) : ImportJob :=
  { job with name := normalName job.name, spec := job.spec.normal registry }

def ScheduledJob.normal (registry : Registry) (username : Text) (job : ScheduledJob) : ScheduledJob :=
  { job with
    name := normalName job.name
    spec := (job.spec.normal registry).withUsername username
    schedule := { job.schedule with
      frequency := { job.schedule.frequency with unit := Text.lowercase job.schedule.frequency.unit } } }

end ImportDispatch
