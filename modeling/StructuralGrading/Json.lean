/-!
# Written values

The values in which results are written down: the JSON data model, with the members of an object
in the order in which they were put.  `Json.pretty` lays a value out over several lines.
-/

namespace StructuralGrading

/-- A value that can be written down. -/
inductive Json where
  | null
  | bool (b : Bool)
  | nat (n : Nat)
  | real (x : Float)
  | text (s : String)
  | list (items : List Json)
  | object (members : List (String × Json))
  deriving Repr

namespace Json

/-- The text of an optional value. -/
def ofOption {α : Type} (f : α → Json) : Option α → Json
  | some a => f a
  | none => null

/-- A list of values of one kind. -/
def ofList {α : Type} (f : α → Json) (as : List α) : Json := list (as.map f)

/-- Two values side by side. -/
def pair (a b : Json) : Json := list [a, b]

/-! ### Parts -/

/-- The number that a value is. -/
def nat? : Json → Option Nat
  | nat n => some n
  | _ => none

/-- The text that a value is. -/
def text? : Json → Option String
  | text s => some s
  | _ => none

/-- The items of a list. -/
def items? : Json → Option (List Json)
  | list items => some items
  | _ => none

/-- The member of an object with a name. -/
def member? (name : String) : Json → Option Json
  | object members => members.lookup name
  | _ => none

/-! ### Text -/

/-- The digits of a small number in base 16, in lower case. -/
def hexDigit (n : Nat) : Char := if n < 10 then Char.ofNat (48 + n) else Char.ofNat (87 + n)

/-- A character inside quotes.  Control characters, quotes and backslashes are escaped. -/
def escapeChar (c : Char) : List Char :=
  if c = '"' then ['\\', '"']
  else if c = '\\' then ['\\', '\\']
  else if c = '\n' then ['\\', 'n']
  else if c = '\r' then ['\\', 'r']
  else if c = '\t' then ['\\', 't']
  else if c.toNat = 8 then ['\\', 'b']
  else if c.toNat = 12 then ['\\', 'f']
  else if c.toNat < 32 then
    ['\\', 'u', '0', '0', hexDigit (c.toNat / 16), hexDigit (c.toNat % 16)]
  else [c]

/-- A text in quotes. -/
def quote (s : String) : String :=
  String.ofList ('"' :: s.toList.flatMap escapeChar ++ ['"'])

/-! ### Layout -/

/-- The start of a line at a depth. -/
def indent (depth : Nat) : String := "\n" ++ String.ofList (List.replicate (2 * depth) ' ')

/-- Parts between two brackets, each on a line of its own; nothing between them if there are no
parts. -/
def bracketed (opening closing : String) (depth : Nat) (parts : List String) : String :=
  if parts.isEmpty then opening ++ closing
  else
    opening ++ indent (depth + 1) ++ (("," ++ indent (depth + 1)).intercalate parts) ++
      indent depth ++ closing

mutual

/-- A value over several lines, two blanks deeper for every bracket. Numbers that are not whole
are written by `real`. -/
def prettyAt (real : Float → String) (depth : Nat) : Json → String
  | null => "null"
  | bool b => if b then "true" else "false"
  | nat n => toString n
  | .real x => real x
  | text s => quote s
  | list items => bracketed "[" "]" depth (prettyItems real (depth + 1) items)
  | object members => bracketed "\x7b" "\x7d" depth (prettyMembers real (depth + 1) members)

/-- The items of a list. -/
def prettyItems (real : Float → String) (depth : Nat) : List Json → List String
  | [] => []
  | v :: vs => prettyAt real depth v :: prettyItems real depth vs

/-- The members of an object. -/
def prettyMembers (real : Float → String) (depth : Nat) : List (String × Json) → List String
  | [] => []
  | (name, v) :: ms =>
    (quote name ++ ": " ++ prettyAt real depth v) :: prettyMembers real depth ms

end

/-- A value over several lines. -/
def pretty (real : Float → String) (v : Json) : String := prettyAt real 0 v

end Json

end StructuralGrading
