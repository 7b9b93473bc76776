import StructuralGrading.Text.Quoted

/-!
# Text of the operating system

Names of files and paths are bytes, and these need not be text.  A text stands for its bytes in
UTF-8 (`OsText.ofText`), and some bytes can be read back as a text (`OsText.text?`).

To be shown, bytes that are no text are cut into runs: one for each character, and one for what
could be the start of a character but does not go on as one.  Such a broken run is shown as a
replacement character, so different bytes can be shown as the same text.
-/

namespace StructuralGrading

/-- Bytes that the operating system takes for a name or a path. -/
abbrev OsText := List UInt8

namespace OsText

/-- The bytes of a text. -/
def ofText (text : String) : OsText := text.toList.flatMap String.utf8EncodeChar

/-- The byte of an ASCII character. -/
def byte (c : Char) : UInt8 := c.val.toUInt8

/-- The text with the given bytes. -/
def text? (b : OsText) : Option String := String.fromUTF8? ⟨b.toArray⟩

/-! ### Runs -/

/-- How many bytes a character with the given first byte has after it, and between which bounds the
first of them lies. -/
def lead (first : UInt8) : Nat × UInt8 × UInt8 :=
  if 0xC2 ≤ first ∧ first ≤ 0xDF then (1, 0x80, 0xBF)
  else if first = 0xE0 then (2, 0xA0, 0xBF)
  else if first = 0xED then (2, 0x80, 0x9F)
  else if 0xE1 ≤ first ∧ first ≤ 0xEF then (2, 0x80, 0xBF)
  else if first = 0xF0 then (3, 0x90, 0xBF)
  else if first = 0xF4 then (3, 0x80, 0x8F)
  else if 0xF1 ≤ first ∧ first ≤ 0xF3 then (3, 0x80, 0xBF)
  else (0, 0, 0)

/-- How many of some bytes a character goes on with that still has a number of bytes to come, the
first of them between two bounds. -/
def following (more : Nat) (least greatest : UInt8) : OsText → Nat
  | [] => 0
  | b :: rest =>
    match more with
    | 0 => 0
    | more + 1 =>
      if least ≤ b ∧ b ≤ greatest then 1 + following more 0x80 0xBF rest else 0

/-- Cuts off one run after the other; the first bytes belong to the run before. -/
def cut : Nat → OsText → List OsText
  | _, [] => []
  | before + 1, _ :: rest => cut before rest
  | 0, b :: rest =>
    let (more, least, greatest) := lead b
    let length := following more least greatest rest
    (b :: rest.take length) :: cut length rest

/-- Bytes cut into runs.  A text need not be cut. -/
def runs (b : OsText) : List OsText :=
  match text? b with
  | some _ => [b]
  | none => cut 0 b

/-! ### Showing -/

/-- What is shown for a run that is no text. -/
def replacement : String := "\uFFFD"

/-- Bytes as text, with a replacement for every broken run. -/
def shown (b : OsText) : String :=
  String.ofList ((runs b).flatMap fun r => ((text? r).getD replacement).toList)

/-- A byte in quotes that belongs to no text. -/
def escapeByte (b : UInt8) : List Char :=
  let digit (n : Nat) : Char := (Nat.digitChar n).toUpper
  ['\\', 'x', digit (b.toNat / 16), digit (b.toNat % 16)]

/-- Bytes in quotes. -/
def quoted (b : OsText) : String :=
  let escapeRun (r : OsText) : List Char :=
    match text? r with
    | some text => text.toList.flatMap Text.escape
    | none => r.flatMap escapeByte
  String.ofList ('"' :: (runs b).flatMap escapeRun ++ ['"'])

end OsText

end StructuralGrading
