import ImportDispatch.Import.Job
import ImportDispatch.Import.Registry
import ImportDispatch.Wire.Decode
/-!
# Requests on the wire

The JSON form of every type that clients send: its fields with their names, in the order of their declaration, and
which of them may be left out.  Every type is also written in this form, with all its fields.
-/
namespace ImportDispatch

/-! ## Modes -/

namespace ImportMode

/-- The mode of exactly this name. -/
def ofName (name : Text) : Except DecodeError ImportMode :=
  match all.find? (·.name == name) with
  | some mode => .ok mode
  | none => .error (.unknownVariant name (all.map ImportMode.name))

/-- A mode: its name, or an object with the name as its only key and nothing under it. -/
def decode : Decoder ImportMode
  | .string name => ofName name
  | .object [(name, value)] => do
    let mode ← ofName name
    match value with
    | .null => return mode
    | other => .error (Decoder.mismatch "unit".toList other)
  | .object _ => .error (.wrongValue .map "map with a single key".toList)
  | other => .error (Decoder.mismatch "string or map".toList other)

def encode (mode : ImportMode) : Json := .string mode.name

end ImportMode

/-! ## Specifications -/

namespace ImportSpec

def type : RecordType where
  name := "ImportSpec".toList
  fields := [
    .of "jdbcUri" Decoder.text, .of "table" Decoder.text, .of "schema" Decoder.text, .of "username" Decoder.text,
    .of "password" Decoder.text, .of "importMode" Decoder.text, .of "driver" Decoder.text,
    .of "checkColumn" Decoder.text, .of "lastValue" Decoder.text, .of "targetDir" Decoder.text,
    .of "incremental" Decoder.flag, .of "overwrite" Decoder.flag, .of "append" Decoder.flag]

/-- A specification; only the address and the table have to be there, and rows are appended unless it says otherwise. -/
def decode : Decoder ImportSpec := Decoder.record type fun source => do
  let jdbcUri ← source.required "jdbcUri" 0 Decoder.text
  let table ← source.required "table" 1 Decoder.text
  let schema ← source.withDefault "schema" 2 Decoder.text []
  let username ← source.withDefault "username" 3 Decoder.text []
  let password ← source.withDefault "password" 4 Decoder.text []
  let importMode ← source.withDefault "importMode" 5 Decoder.text []
  let driver ← source.withDefault "driver" 6 Decoder.text []
  let checkColumn ← source.withDefault "checkColumn" 7 Decoder.text []
  let lastValue ← source.withDefault "lastValue" 8 Decoder.text []
  let targetDir ← source.withDefault "targetDir" 9 Decoder.text []
  let incremental ← source.withDefault "incremental" 10 Decoder.flag false
  let overwrite ← source.withDefault "overwrite" 11 Decoder.flag false
  let append ← source.withDefault "append" 12 Decoder.flag true
  return { jdbcUri, table, schema, username, password, importMode, driver, checkColumn, lastValue, targetDir,
           incremental, overwrite, append }

def encode (spec : ImportSpec) : Json := .record [
  ("jdbcUri", .string spec.jdbcUri), ("table", .string spec.table), ("schema", .string spec.schema),
  ("username", .string spec.username), ("password", .string spec.password), ("importMode", .string spec.importMode),
  ("driver", .string spec.driver), ("checkColumn", .string spec.checkColumn), ("lastValue", .string spec.lastValue),
  ("targetDir", .string spec.targetDir), ("incremental", .bool spec.incremental), ("overwrite", .bool spec.overwrite),
  ("append", .bool spec.append)]

end ImportSpec

/-! ## Schedules -/

namespace Frequency

def type : RecordType where
  name := "Frequency".toList
  fields := [.of "unit" Decoder.text, .of "amount" Decoder.integer]

def decode : Decoder Frequency := Decoder.record type fun source => do
  let unit ← source.required "unit" 0 Decoder.text
  let amount ← source.required "amount" 1 Decoder.integer
  return { unit, amount }

def encode (frequency : Frequency) : Json := .record [
  ("unit", .string frequency.unit), ("amount", .int frequency.amount.toInt)]

end Frequency

namespace Schedule

def type : RecordType where
  name := "Schedule".toList
  fields := [
    .of "startTime" Decoder.time, .of "endTime" Decoder.time, .of "timezone" Decoder.text,
    .of "frequency" Frequency.decode]

def decode : Decoder Schedule := Decoder.record type fun source => do
  let startTime ← source.required "startTime" 0 Decoder.time
  let endTime ← source.required "endTime" 1 Decoder.time
  let timezone ← source.required "timezone" 2 Decoder.text
  let frequency ← source.required "frequency" 3 Frequency.decode
  return { startTime, endTime, timezone, frequency }

def encode (schedule : Schedule) : Json := .record [
  ("startTime", .string schedule.startTime.wireText), ("endTime", .string schedule.endTime.wireText),
  ("timezone", .string schedule.timezone), ("frequency", schedule.frequency.encode)]

end Schedule

/-! ## Jobs -/

namespace ImportJob

def type : RecordType where
  name := "ImportJob".toList
  fields := [.of "name" Decoder.text, .of "appPath" Decoder.text, .of "sqoopImport" ImportSpec.decode]

/-- A request to import once. -/
def decode : Decoder ImportJob := Decoder.record type fun source => do
  let name ← source.required "name" 0 Decoder.text
  let appDir ← source.withDefault "appPath" 1 Decoder.text []
  let spec ← source.required "sqoopImport" 2 ImportSpec.decode
  return { name, appDir, spec }

def encode (job : ImportJob) : Json := .record [
  ("name", .string job.name), ("appPath", .string job.appDir), ("sqoopImport", job.spec.encode)]

end ImportJob

namespace ScheduledJob

def type : RecordType where
  name := "ScheduledImportJob".toList
  fields := [
    .of "name" Decoder.text, .of "appPath" Decoder.text, .of "sqoopImport" ImportSpec.decode,
    .of "schedule" Schedule.decode]

/-- A request to import again and again. -/
def decode : Decoder ScheduledJob := Decoder.record type fun source => do
  let name ← source.required "name" 0 Decoder.text
  let appDir ← source.withDefault "appPath" 1 Decoder.text []
  let spec ← source.required "sqoopImport" 2 ImportSpec.decode
  let schedule ← source.required "schedule" 3 Schedule.decode
  return { name, appDir, spec, schedule }

def encode (job : ScheduledJob) : Json := .record [
  ("name", .string job.name), ("appPath", .string job.appDir), ("sqoopImport", job.spec.encode),
  ("schedule", job.schedule.encode)]

end ScheduledJob

/-! ## The registry -/

namespace Driver

def type : RecordType where
  name := "DriverInfo".toList
  fields := [.of "name" Decoder.text, .of "className" Decoder.text]

def decode : Decoder Driver := Decoder.record type fun source => do
  let name ← source.required "name" 0 Decoder.text
  let className ← source.required "className" 1 Decoder.text
  return { name, className }

def encode (driver : Driver) : Json := .record [
  ("name", .string driver.name), ("className", .string driver.className)]

end Driver

namespace Database

def type : RecordType where
  name := "DatabaseEngine".toList
  fields := [.of "name" Decoder.text, .of "drivers" (Decoder.list Driver.decode)]

def decode : Decoder Database := Decoder.record type fun source => do
  let name ← source.required "name" 0 Decoder.text
  let drivers ← source.withDefault "drivers" 1 (Decoder.list Driver.decode) []
  return { name, drivers }

def encode (database : Database) : Json := .record [
  ("name", .string database.name), ("drivers", .array (database.drivers.map Driver.encode))]

end Database

namespace Registry

def decode : Decoder Registry := Decoder.list Database.decode

def encode (registry : Registry) : Json := .array (registry.map Database.encode)

end Registry

end ImportDispatch
