import ImportDispatch.Text.Blank
/-!
# Import specifications

What one import of a database table needs to know.  Every text field may be empty, which means that the client did not
set it; only the address of the database and the table are always given.
-/
namespace ImportDispatch

/-! ## Modes -/

/-- How rows are brought into the target directory. -/
inductive ImportMode
  /-- Every run adds a full copy of the table. -/
  | append
  /-- Every run adds the rows past the watermark of the check column. -/
  | incremental
  /-- Every run replaces the one before. -/
  | overwrite
deriving DecidableEq, Repr

namespace ImportMode

def name : ImportMode → Text
  | append => "append".toList
  | incremental => "incremental".toList
  | overwrite => "overwrite".toList

def all : List ImportMode := [append, incremental, overwrite]

/-- The mode of a name, in any letter case and between blanks. -/
def ofText? (s : Text) : Option ImportMode :=
  all.find? (·.name == Text.asciiLower (Text.trimBlank s))

end ImportMode

/-! ## Specifications -/

/-- The parameters of one import. -/
structure ImportSpec where
  /-- The address of the database, such as `jdbc:postgresql://db:5432/sales`. -/
  jdbcUri : Text
  table : Text
  schema : Text := []
  username : Text := []
  password : Text := []
  /-- The mode as the client wrote it. -/
  importMode : Text := []
  /-- The class of the database driver, looked up in the registry if it is not set. -/
  driver : Text := []
  /-- The column whose watermark an incremental import follows. -/
  checkColumn : Text := []
  /-- The watermark behind which the first incremental run starts. -/
  lastValue : Text := []
  targetDir : Text := []
  incremental : Bool := false
  overwrite : Bool := false
  append : Bool := true
deriving DecidableEq, Repr

def ImportSpec.mode? (spec : ImportSpec) : Option ImportMode := ImportMode.ofText? spec.importMode

end ImportDispatch
