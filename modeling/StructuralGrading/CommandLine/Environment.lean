import StructuralGrading.Text.Alphanumeric
import StructuralGrading.Text.Blank

/-!
# Environments

An environment gives values to names.  It can be extended by a file of settings, one `NAME=value`
a line: values may be quoted, refer to other names by a dollar sign, and be followed by a
comment.  Names that have a value keep it, and reading stops at the first line that is no text or no
setting.
-/

namespace StructuralGrading

/-- Values by name; the first entry for a name counts. -/
abbrev Environment := List (String × String)

namespace Environment

/-! ### Lines -/

/-- What the end of a line belongs to. -/
inductive Position where
  | plain
  | escaped
  /-- After white space outside of quotes. -/
  | blank
  | inApostrophes
  | inApostrophesEscaped
  | inQuotes
  | inQuotesEscaped
  /-- In a comment. -/
  | comment
  deriving DecidableEq, Repr

/-- What comes after a character that is not in quotes. -/
def Position.outside (c : Char) : Position :=
  if c = '\\' then escaped
  else if c = '"' then inQuotes
  else if c = '\x27' then inApostrophes
  else plain

/-- The position after a character. -/
def Position.after (p : Position) (c : Char) : Position :=
  match p with
  | plain =>
    if Text.isBlank c && c != '\n' && c != '\r' then blank else outside c
  | blank => if c = '#' then comment else outside c
  | escaped => plain
  | inQuotes => if c = '\\' then inQuotesEscaped else if c = '"' then plain else inQuotes
  | inQuotesEscaped => inQuotes
  | inApostrophes =>
    if c = '\\' then inApostrophesEscaped else if c = '\x27' then plain else inApostrophes
  | inApostrophesEscaped => inApostrophes
  | comment => comment

/-- The part of a line before a comment, and the position at its end. -/
def beforeComment : Position → List Char → List Char × Position
  | p, [] => ([], p)
  | p, c :: cs =>
    let next := p.after c
    if next = .comment then ([], .comment)
    else
      let (kept, last) := beforeComment next cs
      (c :: kept, last)

/-- The lines of a file with their line breaks. -/
def brokenLines : List UInt8 → List (List UInt8)
  | [] => []
  | b :: bs =>
    if b = 10 then [b] :: brokenLines bs
    else
      match brokenLines bs with
      | [] => [[b]]
      | line :: rest => (b :: line) :: rest

/-- The lines up to the first that is no text. -/
def leadingTexts : List (List UInt8) → List (List Char)
  | [] => []
  | line :: lines =>
    match String.fromUTF8? ⟨line.toArray⟩ with
    | some text => text.toList :: leadingTexts lines
    | none => []

/-- Lines without the byte order mark in front of the first. -/
def withoutMark : List (List Char) → List (List Char)
  | ('\uFEFF' :: line) :: lines => line :: lines
  | lines => lines

/-- A line without the line break at its end. -/
def withoutBreak (line : List Char) : List Char :=
  match line.reverse with
  | '\n' :: '\r' :: before => before.reverse
  | '\n' :: before => before.reverse
  | _ => line

/-- Joins the lines over which a quoted value extends, and takes comments off.  A value that is left
open at the end is left out. -/
def logicalLines (held : List Char) (p : Position) : List (List Char) → List (List Char)
  | [] => []
  | line :: lines =>
    if (Text.dropBlank (held ++ line)).head? = some '#' then [] :: logicalLines [] .plain lines
    else
      let (kept, last) := beforeComment p line
      if last = .comment then (held ++ kept) :: logicalLines [] .plain lines
      else if last = .plain then withoutBreak (held ++ kept) :: logicalLines [] .plain lines
      else logicalLines (held ++ kept) last lines

/-! ### Values -/

/-- Whether reading a value is within a reference to a name. -/
inductive Reference where
  | none
  /-- After a dollar sign. -/
  | bare
  /-- In braces. -/
  | braced
  deriving DecidableEq, Repr

/-- How far a value has been read. -/
structure ValueState where
  output : List Char
  name : List Char
  reference : Reference
  inApostrophes : Bool
  inQuotes : Bool
  escaped : Bool
  /-- Nothing but a comment may follow. -/
  ended : Bool
  deriving DecidableEq, Repr

/-- The character for which an escape stands. -/
def unescape? (c : Char) : Option Char :=
  if c = '\\' ∨ c = '\x27' ∨ c = '"' ∨ c = '$' ∨ c = ' ' then some c
  else if c = 'n' then some '\n'
  else none

/-- Puts the value of the name read so far into the output. -/
def ValueState.settle (value : String → String) (s : ValueState) : ValueState :=
  { s with output := s.output ++ (value (String.ofList s.name)).toList, name := [] }

/-- Reads a character of a value; `none` if it cannot stand there. -/
def ValueState.next? (value : String → String) (s : ValueState) (c : Char) : Option ValueState :=
  if s.ended then if c = ' ' ∨ c = '\t' then some s else none
  else if s.escaped then
    (unescape? c).map fun d => { s with output := s.output ++ [d], escaped := false }
  else if s.inApostrophes then
    if c = '\x27' then some { s with inApostrophes := false }
    else some { s with output := s.output ++ [c] }
  else if s.reference ≠ .none ∧ Text.alphanumeric.has c then some { s with name := s.name ++ [c] }
  else if s.reference = .bare then
    if c = '\x7b' ∧ s.name = [] then some { s with reference := .braced }
    else
      let s := s.settle value
      if c = '$' then some s
      else some { s with output := s.output ++ [c], reference := .none }
  else if s.reference = .braced then
    if c = '\x7d' then some { s.settle value with reference := .none }
    else some { s with name := s.name ++ [c] }
  else if c = '$' then some { s with reference := .bare }
  else if s.inQuotes then
    if c = '"' then some { s with inQuotes := false }
    else if c = '\\' then some { s with escaped := true }
    else some { s with output := s.output ++ [c] }
  else if c = '\x27' then some { s with inApostrophes := true }
  else if c = '"' then some { s with inQuotes := true }
  else if c = '\\' then some { s with escaped := true }
  else if c = ' ' ∨ c = '\t' then some { s with ended := true }
  else some { s with output := s.output ++ [c] }

/-- Reads characters of a value up to a comment. -/
def readChars (value : String → String) : ValueState → List Char → Option ValueState
  | s, [] => some s
  | s, c :: cs =>
    if s.ended ∧ c = '#' then some s
    else (s.next? value c).bind fun s => readChars value s cs

/-- Reads a value; `value` gives the values of names that it refers to. -/
def readValue? (value : String → String) (cs : List Char) : Option String := do
  let s ← readChars value ⟨[], [], .none, false, false, false, false⟩ cs
  if s.reference = .braced ∨ s.inApostrophes ∨ s.inQuotes then none
  else some (String.ofList (s.settle value).output)

/-! ### Settings -/

/-- A line that can be read. -/
inductive Line where
  | empty
  | setting (name value : String)
  deriving DecidableEq, Repr

def startsName (c : Char) : Bool := c.isAlpha || c == '_'

/-- Splits a name off. -/
def readName? (cs : List Char) : Option (List Char × List Char) :=
  if cs.head?.any startsName then some (cs.span fun c => c.isAlphanum || c == '_' || c == '.')
  else none

/-- What follows an equals sign. -/
def afterEquals? : List Char → Option (List Char)
  | '=' :: rest => some rest
  | _ => none

/-- Reads a name and its equals sign, after `export` if it stands there. -/
def readHead? (cs : List Char) : Option (List Char × List Char) := do
  let (name, rest) ← readName? cs
  match afterEquals? (Text.dropBlank rest) with
  | some rest => some (name, rest)
  | none =>
    if name = "export".toList then
      let (name, rest) ← readName? (Text.dropBlank rest)
      (afterEquals? (Text.dropBlank rest)).map fun rest => (name, rest)
    else none

/-- Reads a line. -/
def readLine? (value : String → String) (line : List Char) : Option Line :=
  match Text.trimChars line with
  | [] => some .empty
  | '#' :: _ => some .empty
  | cs => do
    let (name, rest) ← readHead? cs
    match Text.dropBlank rest with
    | [] => some (.setting (String.ofList name) "")
    | '#' :: _ => some (.setting (String.ofList name) "")
    | rest => (readValue? value rest).map (.setting (String.ofList name))

/-- Extends an environment by lines; `known` has the values that the lines before gave. -/
def extendBy (env : Environment) (known : Environment) : List (List Char) → Environment
  | [] => env
  | line :: lines =>
    let value (name : String) : String := ((env.lookup name).or (known.lookup name)).getD ""
    match readLine? value line with
    | none => env
    | some .empty => extendBy env known lines
    | some (.setting name value) =>
      let extended := if (env.lookup name).isSome then env else env ++ [(name, value)]
      extendBy extended ((name, value) :: known) lines

/-- Extends an environment by a file of settings. -/
def extend (env : Environment) (content : ByteArray) : Environment :=
  let lines := withoutMark (leadingTexts (brokenLines content.data.toList))
  extendBy env [] (logicalLines [] .plain lines)

end Environment

end StructuralGrading
