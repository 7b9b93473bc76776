import StructuralGrading.Text.GraphemeExtend
import StructuralGrading.Text.Unprintable

/-!
# Quoted text

A text in quotes for messages and the log, with escapes for everything that would not show as
itself: quotes and backslashes, line breaks and tabs, combining marks and unprintable
characters.
-/

namespace StructuralGrading.Text

/-- The escape that gives a character by its code point. -/
def escapeCode (c : Char) : List Char :=
  ['\\', 'u', '\x7b'] ++ (Nat.toDigits 16 c.toNat) ++ ['\x7d']

/-- Whether a character would not show as itself inside quotes. -/
def isHidden (c : Char) : Bool :=
  (graphemeExtend.has c && !soundMarks.has c) || ignorable.has c || unprintable.has c

/-- A character inside quotes. -/
def escape (c : Char) : List Char :=
  if c = '\x00' then ['\\', '0']
  else if c = '\t' then ['\\', 't']
  else if c = '\n' then ['\\', 'n']
  else if c = '\r' then ['\\', 'r']
  else if c = '"' ∨ c = '\\' then ['\\', c]
  else if isHidden c then escapeCode c
  else [c]

/-- A text in quotes. -/
def quoted (s : String) : String := String.ofList ('"' :: s.toList.flatMap escape ++ ['"'])

end StructuralGrading.Text
