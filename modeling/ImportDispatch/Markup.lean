import ImportDispatch.Text
/-!
# Markup

The documents for the workflow engine: no declaration, two spaces of indentation for every open element, one element a
line.  A document is written by steps that open, fill and close elements; what is still open at the end is closed, the
innermost first.
-/
namespace ImportDispatch
namespace Markup

/-! ## Escapes -/

/-- A character in the content of an element. -/
def escapeContentChar (c : Char) : Text :=
  if c = '&' then "&amp;".toList
  else if c = '<' then "&lt;".toList
  else if c = '>' then "&gt;".toList
  else [c]

/-- A character in the value of an attribute. -/
def escapeAttributeChar (c : Char) : Text :=
  if c = '"' then "&quot;".toList else escapeContentChar c

def escapeContent (s : Text) : Text := s.flatMap escapeContentChar

def escapeAttribute (s : Text) : Text := s.flatMap escapeAttributeChar

/-! ## Steps -/

/-- The attributes of an element, in order. -/
abbrev Attributes := List (Text × Text)

/-- A step of writing. -/
inductive Step
  | opening (name : Text) (attributes : Attributes)
  | empty (name : Text) (attributes : Attributes)
  | text (name : Text) (attributes : Attributes) (content : Text)
  | closing
deriving DecidableEq, Repr

def attributesText (attributes : Attributes) : Text :=
  attributes.flatMap fun a => ' ' :: a.1 ++ "=\"".toList ++ escapeAttribute a.2 ++ ['"']

/-- The start of a line inside so many elements. -/
def indent (depth : Nat) : Text := List.replicate (2 * depth) ' '

/-- The line that closes an element. -/
def closingLine (depth : Nat) (name : Text) : Text := indent depth ++ "</".toList ++ name ++ ">\n".toList

/-- The lines that close what is open, the innermost first. -/
def closeAll : List Text → Text
  | [] => []
  | name :: outer => closingLine outer.length name ++ closeAll outer

/-- What the steps write inside the open elements, of which the innermost comes first.  Closing where nothing is open
writes nothing. -/
def write : List Text → List Step → Text
  | opened, [] => closeAll opened
  | opened, .opening name attributes :: rest =>
    indent opened.length ++ '<' :: name ++ attributesText attributes ++ ">\n".toList ++ write (name :: opened) rest
  | opened, .empty name attributes :: rest =>
    indent opened.length ++ '<' :: name ++ attributesText attributes ++ "/>\n".toList ++ write opened rest
  | opened, .text name attributes content :: rest =>
    indent opened.length ++ '<' :: name ++ attributesText attributes ++ '>' :: escapeContent content ++
      "</".toList ++ name ++ ">\n".toList ++ write opened rest
  | [], .closing :: rest => write [] rest
  | name :: outer, .closing :: rest => closingLine outer.length name ++ write outer rest

/-- The document that the steps write. -/
def document (steps : List Step) : Text := write [] steps

/-! ## Elements with fixed names -/

def attr (key : String) (value : Text) : Text × Text := (key.toList, value)

def element (name : String) (attributes : Attributes) (content : List Step) : List Step :=
  .opening name.toList attributes :: content ++ [.closing]

def emptyElement (name : String) (attributes : Attributes) : List Step := [.empty name.toList attributes]

def textElement (name : String) (attributes : Attributes) (content : Text) : List Step :=
  [.text name.toList attributes content]

/-- A named value of a configuration. -/
def property (name value : Text) : List Step :=
  element "property" [] (textElement "name" [] name ++ textElement "value" [] value)

end Markup
end ImportDispatch
