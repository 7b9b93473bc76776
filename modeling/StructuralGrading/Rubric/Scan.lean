import StructuralGrading.Rubric.Fault

/-!
# Scanning a rubric file

The words of a rubric file: blanks, names, texts and numbers.  A scan goes over the bytes of the
file and keeps account of the line and the column it has come to.

Numbers are computed in doubles from their digits, a power of ten at a time, so a long literal
does not always read as the nearest double.
-/

namespace StructuralGrading.Rubric

/-- A place in a file: the bytes from there on, and where they start. -/
structure Cursor where
  rest : List UInt8
  line : Nat
  column : Nat
  deriving DecidableEq, Repr

namespace Cursor

/-- The start of a text. -/
def start (text : String) : Cursor := ⟨text.toByteArray.data.toList, 1, 0⟩

/-- The place after the next byte; the end of the file is followed by itself. -/
def next (c : Cursor) : Cursor :=
  match c.rest with
  | [] => c
  | b :: rest => if b = 10 then ⟨rest, c.line + 1, 0⟩ else ⟨rest, c.line, c.column + 1⟩

/-- A fault at a place. -/
def fault (c : Cursor) (cause : Cause) : Fault := ⟨cause, c.line, c.column⟩

end Cursor

/-- A computation that reads on from a place or finds a fault. -/
abbrev Scan := StateT Cursor (Except Fault)

namespace Scan

variable {α σ : Type}

/-- The next byte, without reading on. -/
def peek : Scan (Option UInt8) := do return (← get).rest.head?

/-- Reads a byte. -/
def eat : Scan Unit := modify Cursor.next

/-- Reads a byte and tells which it was. -/
def next? : Scan (Option UInt8) := do
  let b ← peek
  eat
  return b

/-- A fault here. -/
def fail (cause : Cause) : Scan α := do throw ((← get).fault cause)

/-- A fault of the next byte. -/
def failNext (cause : Cause) : Scan α := do throw ((← get).next.fault cause)

/-- Repeats a step until it gives a result, at most a given number of times. -/
def bounded (step : σ → Scan (σ ⊕ α)) : Nat → σ → Scan α
  | 0, _ => fail .endInValue
  | n + 1, s => do
    match ← step s with
    | .inl s => bounded step n s
    | .inr a => return a

/-- Repeats a step until it gives a result.  Of any two steps in a row one has to read a byte, so
the bound is never reached. -/
def iterate (step : σ → Scan (σ ⊕ α)) (s : σ) : Scan α := do
  bounded step (2 * (← get).rest.length + 2) s

/-! ### Blanks and words -/

/-- Blanks, tabs and line breaks. -/
def isBlank (b : UInt8) : Bool := b == 32 || b == 10 || b == 9 || b == 13

def isDigit (b : UInt8) : Bool := 48 ≤ b && b ≤ 57

/-- Reads blanks and tells the byte after them. -/
def blanks : Scan (Option UInt8) :=
  iterate (fun _ => do
    match ← peek with
    | some b => if isBlank b then eat; return .inl () else return .inr (some b)
    | none => return .inr none) ()

/-- Reads the given bytes. -/
def word : List UInt8 → Scan Unit
  | [] => return ()
  | w :: ws => do
    match ← next? with
    | none => fail .endInValue
    | some b => if b = w then word ws else fail .wordExpected

/-- Reads the rest of `null`, `true` or `false` after its first letter. -/
def wordFrom (first : UInt8) : Scan Found := do
  eat
  if first = 110 then word "ull".toByteArray.data.toList; return .null
  else if first = 116 then word "rue".toByteArray.data.toList; return .bool true
  else word "alse".toByteArray.data.toList; return .bool false

/-- Whether a byte starts `null`, `true` or `false`. -/
def startsWord (b : UInt8) : Bool := b == 110 || b == 116 || b == 102

/-! ### Texts -/

/-- The value of a digit of base 16. -/
def hexValue? (b : UInt8) : Option Nat :=
  if isDigit b then some (b.toNat - 48)
  else if 97 ≤ b && b ≤ 102 then some (b.toNat - 87)
  else if 65 ≤ b && b ≤ 70 then some (b.toNat - 55)
  else none

/-- The value of four digits of base 16. -/
def hexValue4? (bs : List UInt8) : Option Nat :=
  bs.foldl (fun n b => do return 16 * (← n) + (← hexValue? b)) (some 0)

/-- Reads four digits of base 16. -/
def hex4 : Scan Nat := do
  let digits := (← get).rest.take 4
  for _ in digits do eat
  if digits.length < 4 then fail .endInText
  else
    match hexValue4? digits with
    | some n => return n
    | none => fail .badEscape

/-- The bytes of a code point. -/
def encode (n : Nat) : List UInt8 := (String.singleton (Char.ofNat n)).toByteArray.data.toList

/-- Reads one byte, which has to be the given one. -/
def surrogateMark (mark : UInt8) : Scan Unit := do
  match ← peek with
  | none => fail .endInText
  | some b =>
    eat
    if b ≠ mark then fail .surrogateExpected

/-- Reads the digits after `\u`.  Code points beyond four digits are given by two surrogates. -/
def codePoint : Scan (List UInt8) := do
  let n ← hex4
  if 0xDC00 ≤ n ∧ n ≤ 0xDFFF then fail .loneSurrogate
  else if 0xD800 ≤ n ∧ n ≤ 0xDBFF then
    surrogateMark 92
    surrogateMark 117
    let m ← hex4
    if 0xDC00 ≤ m ∧ m ≤ 0xDFFF then
      return encode (0x10000 + (n - 0xD800) * 0x400 + (m - 0xDC00))
    else fail .loneSurrogate
  else return encode n

/-- Whether the content of a text matters.  In texts that are passed over surrogates are not
checked. -/
inductive Care where
  | kept
  | passed
  deriving DecidableEq, Repr

/-- Reads what follows a backslash. -/
def escape (care : Care) : Scan (List UInt8) := do
  match ← next? with
  | none => fail .endInText
  | some b =>
    if b = 34 ∨ b = 92 ∨ b = 47 then return [b]
    else if b = 98 then return [8]
    else if b = 102 then return [12]
    else if b = 110 then return [10]
    else if b = 114 then return [13]
    else if b = 116 then return [9]
    else if b = 117 then
      match care with
      | .kept => codePoint
      | .passed => let _ ← hex4; return []
    else fail .badEscape

/-- Reads a text after its opening quote, and the closing quote. -/
def textBytes (care : Care) : Scan ByteArray :=
  iterate (fun (bytes : ByteArray) => do
    match ← peek with
    | none => fail .endInText
    | some b =>
      if b = 34 then
        eat
        return .inr bytes
      else if b = 92 then
        eat
        let more ← escape care
        return .inl (more.foldl ByteArray.push bytes)
      else if b < 32 then
        if care = .kept then eat
        fail .controlCharacter
      else
        eat
        return .inl (bytes.push b)) ByteArray.empty

/-- Reads a text after its opening quote. -/
def text : Scan String := do return (String.fromUTF8? (← textBytes .kept)).getD ""

/-! ### Numbers -/

/-- A number as it is written: whole, or with a point or an exponent. -/
inductive Number where
  | whole (n : Int)
  | real (x : Float)
  deriving DecidableEq, Repr

/-- Any number as a double. -/
def Number.toFloat : Number → Float
  | whole n => if n < 0 then -Float.ofNat n.natAbs else Float.ofNat n.natAbs
  | real x => x

def Number.found : Number → Found
  | whole n => .whole n
  | real x => .real x

/-- The digits of a number that fit into 64 bits, and the power of ten they are to be scaled by. -/
structure Significand where
  value : Nat
  scale : Int
  deriving DecidableEq, Repr

/-- Appends a digit, if the value still fits into 64 bits. -/
def Significand.push? (s : Significand) (digit : Nat) : Option Nat :=
  let v := 10 * s.value + digit
  if v < Nat.pow 2 64 then some v else none

/-- A power of ten, rounded to the nearest double. -/
def tenTo (n : Nat) : Float := Float.ofScientific 1 false n

/-- Scales a double by a power of ten, in steps of at most `10 ^ 308`.  After two such divisions
nothing but zero is left. -/
def scaled : Nat → Float → Int → Scan Float
  | 0, x, _ => return x
  | n + 1, x, e =>
    if 0 ≤ e ∧ e ≤ 308 then
      let y := x * tenTo e.toNat
      if y.isInf then fail .numberTooLarge else return y
    else if e < 0 ∧ -308 ≤ e then return x / tenTo (-e).toNat
    else if x == 0 then return x
    else if 0 ≤ e then fail .numberTooLarge
    else scaled n (x / tenTo 308) (e + 308)

/-- The double of a significand. -/
def Significand.toFloat (s : Significand) (negative : Bool) : Scan Number := do
  let x ← scaled 4 (Float.ofNat s.value) s.scale
  return .real (if negative then -x else x)

/-- The digit a byte stands for. -/
def digit (b : UInt8) : Nat := b.toNat - 48

/-- Reads digits, which may be none. -/
def skipDigits : Scan Unit :=
  iterate (fun _ => do
    match ← peek with
    | some b => if isDigit b then eat; return .inl () else return .inr ()
    | none => return .inr ()) ()

/-- Reads the sign of an exponent; `true` stands for minus. -/
def exponentSign : Scan Bool := do
  match ← peek with
  | some b =>
    if b = 45 then eat; return true
    else if b = 43 then eat; return false
    else return false
  | none => return false

/-- Reads an exponent from its letter on.  One that does not fit into 31 bits makes the number
zero, or too large. -/
def exponent (s : Significand) (negative : Bool) : Scan Number := do
  eat
  let down ← exponentSign
  match ← next? with
  | none => fail .endInValue
  | some b =>
    if !isDigit b then fail .badNumber
    else
      let e? ← iterate (fun (e : Nat) => do
        match ← peek with
        | some b =>
          if isDigit b then
            eat
            let e := 10 * e + digit b
            if e < Nat.pow 2 31 then return .inl e else return .inr none
          else return .inr (some e)
        | none => return .inr (some e)) (digit b)
      match e? with
      | some e =>
        let scale := if down then s.scale - (e : Int) else s.scale + (e : Int)
        Significand.toFloat { s with scale := scale } negative
      | none =>
        if s.value ≠ 0 ∧ !down then fail .numberTooLarge
        else
          skipDigits
          return .real (if negative then -0 else 0)

/-- Whether a byte starts an exponent. -/
def startsExponent (b : UInt8) : Bool := b == 101 || b == 69

/-- Reads the digits after the point, from the point on. -/
def decimals (s : Significand) (negative : Bool) : Scan Number := do
  eat
  let (s', any) ← iterate (fun (t : Significand × Bool) => do
    match ← peek with
    | some b =>
      if isDigit b then
        eat
        match t.1.push? (digit b) with
        | some v => return .inl (⟨v, t.1.scale - 1⟩, true)
        | none => skipDigits; return .inr (t.1, true)
      else return .inr t
    | none => return .inr t) (s, false)
  match ← peek with
  | some b =>
    if !any then failNext .badNumber
    else if startsExponent b then exponent s' negative
    else s'.toFloat negative
  | none => if !any then failNext .endInValue else s'.toFloat negative

/-- Counts the digits that follow, and reads them. -/
def countDigits : Scan Nat :=
  iterate (fun (n : Nat) => do
    match ← peek with
    | some b => if isDigit b then eat; return .inl (n + 1) else return .inr n
    | none => return .inr n) 0

/-- Reads the digits of a whole number after the first; those beyond 64 bits are counted only. -/
def wholeDigits (first : Nat) : Scan Significand :=
  iterate (fun (s : Significand) => do
    match ← peek with
    | some b =>
      if isDigit b then
        match s.push? (digit b) with
        | some v => eat; return .inl ⟨v, 0⟩
        | none => return .inr ⟨s.value, ← countDigits⟩
      else return .inr s
    | none => return .inr s) ⟨first, 0⟩

/-- The number with the given digits and neither a point nor an exponent. -/
def wholeNumber (s : Significand) (negative : Bool) : Scan Number :=
  if s.scale ≠ 0 then s.toFloat negative
  else if !negative then return .whole s.value
  else if s.value = 0 ∨ Nat.pow 2 63 < s.value then return .real (-Float.ofNat s.value)
  else return .whole (-(s.value : Int))

/-- Reads a number after its sign. -/
def number (negative : Bool) : Scan Number := do
  match ← next? with
  | none => fail .endInValue
  | some b =>
    if !isDigit b then fail .badNumber
    else
      let s ←
        if b = 48 then
          if (← peek).any isDigit then failNext .badNumber else pure ⟨0, 0⟩
        else wholeDigits (digit b)
      match ← peek with
      | some b =>
        if b = 46 then decimals s negative
        else if startsExponent b then exponent s negative
        else wholeNumber s negative
      | none => wholeNumber s negative

end Scan

end StructuralGrading.Rubric
