import StructuralGrading.Decimal.Shortest
import StructuralGrading.Text.Quoted

/-!
# Faults in a rubric file

What can be wrong with the text of a rubric, where it is wrong, and how that is said.
-/

namespace StructuralGrading.Rubric

/-- What was found where something else was expected. -/
inductive Found where
  | null
  | bool (b : Bool)
  | whole (n : Int)
  | real (x : Float)
  | text (s : String)
  | list
  | object
  deriving DecidableEq, Repr

/-- What a place in a rubric can hold. -/
inductive Expected where
  /-- The items by label. -/
  | items
  /-- One item. -/
  | item
  /-- The points of an item. -/
  | points
  /-- The description of an item. -/
  | description
  deriving DecidableEq, Repr

/-- The two kinds of brackets. -/
inductive Bracket where
  | list
  | object
  deriving DecidableEq, Repr

/-- The two parts of an item. -/
inductive Part where
  | points
  | description
  deriving DecidableEq, Repr

/-- What is wrong. -/
inductive Cause where
  /-- The text ends inside brackets. -/
  | endIn (b : Bracket)
  | endInText
  | endInValue
  | colonExpected
  /-- Neither a comma nor the closing bracket. -/
  | commaExpected (b : Bracket)
  | wordExpected
  | valueExpected
  | badEscape
  | badNumber
  | numberTooLarge
  | controlCharacter
  | nameExpected
  | loneSurrogate
  | surrogateExpected
  | trailingComma
  | trailingText
  | wrongType (found : Found) (expected : Expected)
  | emptyItem
  | missing (part : Part)
  | repeated (part : Part)
  deriving DecidableEq, Repr

/-- A cause with its place; lines count from one and columns in bytes. -/
structure Fault where
  cause : Cause
  line : Nat
  column : Nat
  deriving DecidableEq, Repr

/-! ### Wording -/

def Found.message : Found → String
  | null => "null"
  | bool b => "boolean `" ++ (if b then "true" else "false") ++ "`"
  | whole n => "integer `" ++ toString n ++ "`"
  | real x => "floating point `" ++ Decimal.Layout.written.render x ++ "`"
  | text s => "string " ++ Text.quoted s
  | list => "sequence"
  | object => "map"

def Expected.message : Expected → String
  | items => "a map"
  | item => "struct RubricItem"
  | points => "f64"
  | description => "a string"

def Bracket.name : Bracket → String
  | list => "a list"
  | object => "an object"

/-- The character that closes a bracket. -/
def Bracket.closing : Bracket → String
  | list => "]"
  | object => "\x7d"

/-- The name under which a part of an item is written. -/
def Part.name : Part → String
  | points => "points"
  | description => "description"

def Cause.message : Cause → String
  | endIn b => "EOF while parsing " ++ b.name
  | endInText => "EOF while parsing a string"
  | endInValue => "EOF while parsing a value"
  | colonExpected => "expected `:`"
  | commaExpected b => "expected `,` or `" ++ b.closing ++ "`"
  | wordExpected => "expected ident"
  | valueExpected => "expected value"
  | badEscape => "invalid escape"
  | badNumber => "invalid number"
  | numberTooLarge => "number out of range"
  | controlCharacter => "control character (\\u0000-\\u001F) found while parsing a string"
  | nameExpected => "key must be a string"
  | loneSurrogate => "lone leading surrogate in hex escape"
  | surrogateExpected => "unexpected end of hex escape"
  | trailingComma => "trailing comma"
  | trailingText => "trailing characters"
  | wrongType found expected =>
    "invalid type: " ++ found.message ++ ", expected " ++ expected.message
  | emptyItem => "invalid length 0, expected struct RubricItem with 2 elements"
  | missing part => "missing field `" ++ part.name ++ "`"
  | repeated part => "duplicate field `" ++ part.name ++ "`"

def Fault.message (f : Fault) : String :=
  f.cause.message ++ " at line " ++ toString f.line ++ " column " ++ toString f.column

end StructuralGrading.Rubric
