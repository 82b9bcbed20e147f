import ImportDispatch.Calendar.TimeText
/-!
# Violations

What a request can be rejected for.  A violation knows its cause; the field it is reported under and the wording that
the client sees follow from it.  A rejected request lists every violation at once.
-/
namespace ImportDispatch

/-- A rejected field and the reason. -/
structure FieldReport where
  field : Text
  message : Text
deriving DecidableEq, Repr

/-- A rule that a request breaks. -/
inductive Violation
  /-- A path that starts at a root. -/
  | absolutePath (field path : Text)
  /-- A path with a part that is empty, or leads to where it stands or above. -/
  | straySegment (field path : Text)
  /-- A job name that would not be one directory. -/
  | nameNotDirectory (name : Text)
  | blankMode
  | unknownMode (mode : Text)
  | missingCheckColumn
  | missingUsername
  | startNotBeforeEnd (startTime endTime : LocalTime)
  | unknownTimezone (timezone : Text)
  | unknownUnit (unit : Text)
  | amountNotPositive
  | periodTooShort (minimum : Nat)
deriving DecidableEq, Repr

namespace Violation

def field : Violation → Text
  | absolutePath field _ => field
  | straySegment field _ => field
  | nameNotDirectory _ => "name".toList
  | blankMode => "importMode".toList
  | unknownMode _ => "importMode".toList
  | missingCheckColumn => "checkColumn".toList
  | missingUsername => "username".toList
  | startNotBeforeEnd _ _ => "startTime".toList
  | unknownTimezone _ => "timezone".toList
  | unknownUnit _ => "frequency.unit".toList
  | amountNotPositive => "frequency.amount".toList
  | periodTooShort _ => "frequency".toList

def message : Violation → Text
  | absolutePath _ path => "Path must be relative: ".toList ++ path
  | straySegment _ path => "Path must stay inside the organization directory: ".toList ++ path
  | nameNotDirectory name => "Job name must not contain path separators: ".toList ++ name
  | blankMode => "Import mode must not be null".toList
  | unknownMode mode => "Unknown import mode: ".toList ++ mode
  | missingCheckColumn => "CheckColumn must be set when using incremental mode".toList
  | missingUsername => "Username must be set for a direct import".toList
  | startNotBeforeEnd startTime endTime =>
    "Start time (".toList ++ startTime.shownText ++ ") must be before end time (".toList ++ endTime.shownText ++ [')']
  | unknownTimezone timezone => "Unknown timezone: ".toList ++ timezone
  | unknownUnit unit => "Unknown job frequency unit: ".toList ++ unit
  | amountNotPositive => "Job frequency amount must be positive".toList
  | periodTooShort minimum =>
    "Job schedule period can not be smaller than (".toList ++ Decimal.ofNat minimum ++ ") seconds".toList

def report (v : Violation) : FieldReport := ⟨v.field, v.message⟩

end Violation

def FieldReport.text (e : FieldReport) : Text := e.field ++ ": ".toList ++ e.message

def rejectionText (errors : List FieldReport) : Text :=
  "validation failed: ".toList ++ Text.join "; ".toList (errors.map FieldReport.text)

end ImportDispatch
