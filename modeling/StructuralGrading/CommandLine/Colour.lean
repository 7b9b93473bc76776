import StructuralGrading.CommandLine.Environment

/-!
# Colours

Whether a console shows colours, as the environment says, and how a text is coloured.  The wish to
have colours counts more than the wish to have none, and results know fewer wishes than the
explanations of the command line.
-/

namespace StructuralGrading

namespace CommandLine

/-- How a console shows styles. -/
inductive Palette where
  | monochrome
  | coloured
  deriving DecidableEq, Repr

/-- What a result is highlighted as. -/
inductive Highlight where
  /-- In bold green. -/
  | good
  /-- In bold yellow. -/
  | mixed
  /-- In yellow. -/
  | notice
  deriving DecidableEq, Repr

/-- The codes by which a console shows a highlight. -/
def Highlight.codes : Highlight → String
  | good => "1;32"
  | mixed => "1;33"
  | notice => "33"

namespace Palette

def ofBool (b : Bool) : Palette := if b then coloured else monochrome

/-- A text with a highlight.  Where the text itself ends its colour, the colour starts again. -/
def highlight (p : Palette) (h : Highlight) (text : String) : String :=
  match p with
  | monochrome => text
  | coloured =>
    let start := "\x1b[" ++ h.codes ++ "m"
    let stop := "\x1b[0m"
    start ++ (stop ++ start).intercalate (text.splitOn stop) ++ stop

end Palette

/-- Whether a text reads as zero: zeros alone, perhaps after a plus sign. -/
def isZero (text : String) : Bool :=
  let digits := if text.startsWith "+" then text.toList.drop 1 else text.toList
  !digits.isEmpty && digits.all (· == '0')

end CommandLine

namespace Environment

open CommandLine

/-- The names that colours depend on. -/
def colourNames : List String := ["CLICOLOR_FORCE", "FORCE_COLOR"]

/-- Whether colours are asked for. -/
def wantsColours (env : Environment) : Bool := (env.lookup "CLICOLOR_FORCE").any (· != "0")

/-- How results are shown. -/
def resultPalette (env : Environment) : Palette := .ofBool env.wantsColours

/-- How help and faults of the command line are shown. -/
def usagePalette (env : Environment) : Palette :=
  .ofBool <|
    match env.lookup "FORCE_COLOR" with
    | some text => text != "false" && !isZero text
    | none => env.wantsColours

end Environment

end StructuralGrading
