import StructuralGrading.Rubric.Basic
import StructuralGrading.Rubric.Scan

/-!
# Reading a rubric file

A rubric file is an object whose members are the items of the rubric under their labels.  An
item is an object with points and perhaps a description, or a list of the two; other members of
an item are passed over, whatever they hold.  Of several items under one label the last counts.

`Rubric.ofText` reads a file and tells the first fault in it.
-/

namespace StructuralGrading.Rubric

namespace Scan

/-! ### Members and elements -/

/-- Reads up to the name of the next member of an object, and the name.  There is none before the
closing bracket, which is left to be read. -/
def memberName (first : Bool) : Scan (Option String) := do
  match ← blanks with
  | none => failNext (.endIn .object)
  | some b =>
    if b = 125 then return none
    else if first then
      if b = 34 then eat; return some (← text) else failNext .nameExpected
    else if b = 44 then
      eat
      match ← blanks with
      | none => failNext .endInValue
      | some b =>
        if b = 34 then eat; return some (← text)
        else if b = 125 then failNext .trailingComma
        else failNext .nameExpected
    else failNext (.commaExpected .object)

/-- Reads the colon after a name. -/
def colon : Scan Unit := do
  match ← blanks with
  | none => failNext (.endIn .object)
  | some b => if b = 58 then eat else failNext .colonExpected

/-- Reads up to the next element of a list, and tells whether there is one.  The closing bracket
is left to be read. -/
def element (first : Bool) : Scan Bool := do
  match ← blanks with
  | none => failNext (.endIn .list)
  | some b =>
    if b = 93 then return false
    else if first then return true
    else if b = 44 then
      eat
      match ← blanks with
      | none => failNext .endInValue
      | some b => if b = 93 then failNext .trailingComma else return true
    else failNext (.commaExpected .list)

/-! ### Values -/

/-- Reads a value of a wrong type, as far as is needed to tell which it is. -/
def wrong {α : Type} (expected : Expected) : Scan α := do
  let found ← match ← peek with
    | none => failNext .valueExpected
    | some b =>
      if startsWord b then wordFrom b
      else if b = 45 then eat; pure (← number true).found
      else if isDigit b then pure (← number false).found
      else if b = 34 then eat; pure (.text (← text))
      else if b = 91 then pure .list
      else if b = 123 then pure .object
      else failNext .valueExpected
  fail (.wrongType found expected)

/-- Reads the points of an item. -/
def points : Scan Float := do
  match ← blanks with
  | none => failNext .endInValue
  | some b =>
    if b = 45 then eat; return (← number true).toFloat
    else if isDigit b then return (← number false).toFloat
    else wrong .points

/-- Reads the description of an item. -/
def description : Scan (Option String) := do
  match ← blanks with
  | none => failNext .endInValue
  | some b =>
    if b = 110 then let _ ← wordFrom b; return none
    else if b = 34 then eat; return some (← text)
    else wrong .description

/-! ### Values that are passed over -/

/-- Passes over a number after its sign. -/
def passNumber : Scan Unit := do
  match ← next? with
  | none => fail .badNumber
  | some b =>
    if b = 48 then
      if (← peek).any isDigit then failNext .badNumber
    else if isDigit b then skipDigits
    else fail .badNumber
  if (← peek) = some 46 then
    eat
    if (← peek).any isDigit then skipDigits else failNext .badNumber
  if (← peek).any startsExponent then
    eat
    let _ ← exponentSign
    if (← next?).any isDigit then skipDigits else fail .badNumber

/-- Where the passing over stands: before a value, or after one, or just after an opening
bracket. -/
inductive Stage where
  | value
  | after
  | opened
  deriving DecidableEq, Repr

/-- Reads a value up to its first opening bracket, if it has brackets. -/
def passValue (brackets : List Bracket) : Scan (List Bracket × Stage) := do
  match ← blanks with
  | none => failNext .endInValue
  | some b =>
    if startsWord b then let _ ← wordFrom b; return (brackets, .after)
    else if b = 45 then eat; passNumber; return (brackets, .after)
    else if isDigit b then passNumber; return (brackets, .after)
    else if b = 34 then eat; let _ ← textBytes .passed; return (brackets, .after)
    else if b = 91 then eat; return (.list :: brackets, .opened)
    else if b = 123 then eat; return (.object :: brackets, .opened)
    else failNext .valueExpected

/-- Reads a name and the colon after it, if the innermost brackets are those of an object. -/
def passName (inner : Bracket) : Scan Unit := do
  if inner = .object then
    match ← blanks with
    | none => failNext (.endIn .object)
    | some b =>
      if b ≠ 34 then failNext .nameExpected
      eat
      let _ ← textBytes .passed
      colon

/-- The byte that closes a bracket. -/
def closingByte : Bracket → UInt8
  | .list => 93
  | .object => 125

/-- Reads what stands between values: a closing bracket, or a comma and perhaps a name. -/
def passBetween (inner : Bracket) (outer : List Bracket) (opened : Bool) :
    Scan (List Bracket × Stage) := do
  match ← blanks with
  | none => failNext (.endIn inner)
  | some b =>
    if b = closingByte inner then eat; return (outer, .after)
    else if opened then passName inner; return (inner :: outer, .value)
    else if b = 44 then eat; passName inner; return (inner :: outer, .value)
    else failNext (.commaExpected inner)

/-- Passes over a value, with any depth of brackets. -/
def pass : Scan Unit :=
  iterate (fun (s : List Bracket × Stage) => do
    match s.2, s.1 with
    | .value, brackets => return .inl (← passValue brackets)
    | _, [] => return .inr ()
    | stage, inner :: outer => return .inl (← passBetween inner outer (stage = .opened)))
    ([], .value)

/-! ### Items -/

/-- The parts of an item that have been read. -/
structure Parts where
  points : Option Float
  description : Option (Option String)

/-- A fault for a part that is there already, found before its colon. -/
def repeatedPart {α : Type} (part : Part) : Scan α := do
  if (← blanks) = some 125 then eat
  fail (.repeated part)

/-- Reads the members of an item after the opening bracket. -/
def itemMembers : Scan RubricItem :=
  iterate (fun (s : Bool × Parts) => do
    match ← memberName s.1 with
    | none =>
      eat
      match s.2.points with
      | none => fail (.missing .points)
      | some p => return .inr ⟨p, s.2.description.join⟩
    | some name =>
      if name = Part.points.name then
        if s.2.points.isSome then repeatedPart .points
        colon
        return .inl (false, { s.2 with points := some (← points) })
      else if name = Part.description.name then
        if s.2.description.isSome then repeatedPart .description
        colon
        return .inl (false, { s.2 with description := some (← description) })
      else
        colon
        pass
        return .inl (false, s.2)) (true, ⟨none, none⟩)

/-- Reads the elements of an item that is written as a list, after the opening bracket. -/
def itemElements : Scan RubricItem := do
  if !(← element true) then
    eat
    fail .emptyItem
  else
    let p ← points
    let d ← if ← element false then description else pure none
    match ← blanks with
    | none => failNext (.endIn .list)
    | some b =>
      if b = 93 then
        eat
        return ⟨p, d⟩
      else if b = 44 then
        eat
        if (← blanks) = some 93 then failNext .trailingComma else failNext .trailingText
      else failNext .trailingText

/-- Reads an item. -/
def item : Scan RubricItem := do
  match ← blanks with
  | none => failNext .endInValue
  | some b =>
    if b = 91 then eat; itemElements
    else if b = 123 then eat; itemMembers
    else wrong .item

/-! ### The file -/

/-- Reads the items of a rubric after the opening bracket. -/
def entries : Scan (List (String × RubricItem)) := do
  let read ← iterate (fun (s : Bool × List (String × RubricItem)) => do
    match ← memberName s.1 with
    | none =>
      eat
      return .inr s.2
    | some label =>
      colon
      let i ← item
      return .inl (false, (label, i) :: s.2)) (true, [])
  return read.reverse

/-- Reads a whole file. -/
def file : Scan (List (String × RubricItem)) := do
  match ← blanks with
  | none => failNext .endInValue
  | some b =>
    if b ≠ 123 then wrong .items
    eat
    let es ← entries
    match ← blanks with
    | none => return es
    | some _ => failNext .trailingText

end Scan

/-- The items in the text of a rubric file, in the order of the file. -/
def entriesOfText (text : String) : Except Fault (List (String × RubricItem)) :=
  Scan.file.run' (Cursor.start text)

/-- Reads the text of a rubric file. -/
def ofText (text : String) : Except Fault Rubric :=
  (entriesOfText text).map fun es => ofItems (SortedMap.ofList es)

end StructuralGrading.Rubric
