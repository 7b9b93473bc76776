import StructuralGrading.CommandLine.Colour

/-!
# Styled text

Text for a console: runs of text, each in a style, with terms among them that stand in backticks.
On a console with colours the styles show as colours instead, and the backticks are left out.

A text is broken into lines between words: a word that would go beyond `lineLimit` starts a new
line.  Before a word is written its bytes count, and afterwards its characters.  A term begins right
after its backtick, so a long one leaves the backtick behind.
-/

namespace StructuralGrading.CommandLine

/-- What a run of text is. -/
inductive Style where
  | text
  | heading
  /-- What can be typed as it stands. -/
  | literal
  /-- A name for what can be typed. -/
  | metavar
  /-- What is wrong. -/
  | invalid
  deriving DecidableEq, Repr

/-- A piece of a styled text. -/
inductive Piece where
  | run (style : Style) (text : String)
  /-- The beginning or the end of a term. -/
  | edge
  deriving DecidableEq, Repr

/-- A text with styles. -/
abbrev Styled := List Piece

namespace Styled

def text (s : String) : Styled := [.run .text s]

/-- A term in a style. -/
def term (style : Style) (s : String) : Styled := [.edge, .run style s, .edge]

/-- A text without its styles. -/
def plain (pieces : Styled) : String :=
  "".intercalate (pieces.map fun
    | .run _ s => s
    | .edge => "`")

end Styled

/-! ### Colours -/

/-- The number of the colour of a style. -/
def Style.colour? : Style → Option Nat
  | text => none
  | heading => some 33
  | literal => some 32
  | metavar => some 34
  | invalid => some 31

/-- A piece of text as a console shows it: in colour it is bold as well. -/
def Palette.paint (p : Palette) (style : Style) (s : String) : String :=
  match p, style.colour? with
  | coloured, some n => "\x1b[1m\x1b[" ++ toString n ++ "m" ++ s ++ "\x1b[39m\x1b[0m"
  | _, _ => s

/-! ### Lines -/

/-- The parts in which a run is written. -/
inductive Chunk where
  | word (cs : List Char)
  | blank
  | lineBreak
  deriving DecidableEq, Repr

/-- The chunks of a run.  A line break counts as a blank, unless another line break or a blank
follows it. -/
def chunks : List Char → List Chunk
  | [] => []
  | '\n' :: '\n' :: cs => .lineBreak :: chunks cs
  | '\n' :: ' ' :: cs => .lineBreak :: chunks cs
  | '\n' :: cs => .blank :: chunks cs
  | ' ' :: cs => .blank :: chunks cs
  | c :: cs =>
    match chunks cs with
    | .word w :: rest => .word (c :: w) :: rest
    | rest => .word [c] :: rest

/-- The greatest length of a line that is broken between words. -/
def lineLimit : Nat := 100

/-- What has been set of a text, and how many characters are in its last line. -/
structure Sheet where
  written : String
  column : Nat
  deriving DecidableEq, Repr

namespace Sheet

/-- Starts a new line. -/
def newLine (s : Sheet) : Sheet := ⟨s.written ++ "\n", 0⟩

/-- Starts a new line instead of the white space at the end. -/
def breakLine (s : Sheet) : Sheet :=
  ⟨String.ofList (Text.dropBlankEnd s.written.toList) ++ "\n", 0⟩

/-- Writes something of a length in characters. -/
def write (s : Sheet) (shown : String) (length : Nat) : Sheet :=
  ⟨s.written ++ shown, s.column + length⟩

/-- Whether something of a number of bytes goes beyond the limit. -/
def isFull (s : Sheet) (bytes : Nat) : Bool :=
  s.written != "" && decide (lineLimit < s.column + bytes)

/-- Sets a chunk.  A blank that would go beyond the limit is left out. -/
def setChunk (p : Palette) (style : Style) (s : Sheet) : Chunk → Sheet
  | .lineBreak => s.newLine
  | .blank => if s.isFull 1 then s.breakLine else s.write (p.paint style " ") 1
  | .word cs =>
    let word := String.ofList cs
    (if s.isFull word.utf8ByteSize then s.breakLine else s).write (p.paint style word) cs.length

/-- Sets a piece. -/
def setPiece (p : Palette) (s : Sheet) : Piece → Sheet
  | .run style text => (chunks text.toList).foldl (setChunk p style) s
  | .edge => if p = .monochrome then s.write "`" 1 else s

end Sheet

/-- Sets a text in lines. -/
def Styled.render (p : Palette) (pieces : Styled) : String :=
  (pieces.foldl (Sheet.setPiece p) ⟨"", 0⟩).written

end StructuralGrading.CommandLine
