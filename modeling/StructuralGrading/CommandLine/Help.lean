import StructuralGrading.CommandLine.Command
import StructuralGrading.CommandLine.Styled

/-!
# Help

The text that explains the program or one of its commands: how it is called, and a list of what can
be given.  All explanations in a text start in one column.
-/

namespace StructuralGrading.CommandLine

/-- The name of the program. -/
def programName : String := "conceptgrade"

/-- Something that can be given, and its explanation. -/
structure HelpEntry where
  shape : Styled
  help : String
  deriving DecidableEq, Repr

/-- A part of a help text: a heading and the things explained under it. -/
structure HelpSection where
  heading : String
  entries : List HelpEntry
  deriving DecidableEq, Repr

/-! ### What can be given -/

/-- How an option is given. -/
def ValueOption.shape (o : ValueOption) : Styled :=
  [.run .literal ("--" ++ o.name), .run .text "=", .run .metavar o.metavar]

/-- How an operand is given. -/
def Operand.shape (o : Operand) : Styled := [.run .metavar o.metavar]

/-- How an option is given that has a letter and a name. -/
def switchShape (letter : Char) (name : String) : Styled :=
  [.run .literal ("-" ++ letter.toString), .run .text ", ", .run .literal ("--" ++ name)]

def verboseEntry : HelpEntry := ⟨switchShape 'v' "verbose", "Log debug output"⟩

def helpEntry : HelpEntry := ⟨switchShape 'h' "help", "Prints help information"⟩

/-- The entry of an option without a letter.  Its name stands below the names of options with
one. -/
def ValueOption.entry (o : ValueOption) : HelpEntry := ⟨.run .text "    " :: o.shape, o.help⟩

def Operand.entry (o : Operand) : HelpEntry := ⟨o.shape, o.help⟩

def Verb.entry (v : Verb) : HelpEntry := ⟨[.run .literal v.name], v.summary⟩

/-- The sections of a help text. -/
def helpSections : Option Verb → List HelpSection
  | none =>
    [⟨"Available options:", [verboseEntry, helpEntry]⟩,
     ⟨"Available commands:", Verb.all.map Verb.entry⟩]
  | some verb =>
    [⟨"Available positional items:", verb.operands.map Operand.entry⟩,
     ⟨"Available options:", verb.options.map ValueOption.entry ++ [helpEntry]⟩]

/-! ### The text -/

/-- The start of a line that shows how something is called. -/
def usageStart (names : List String) : Styled :=
  [.run .heading "Usage", .run .text ": "] ++
    names.flatMap fun name => [.run .literal name, .run .text " "]

/-- A line that shows how a command is called, or the program. -/
def usage : Option Verb → Styled
  | none =>
    usageStart [programName] ++
      [.run .text "[", .run .literal "-v", .run .text "] ", .run .metavar "COMMAND ..."]
  | some verb =>
    let options := verb.options.map fun o =>
      .run .text "[" :: o.shape ++ [.run .text (if o.repeatable then "]..." else "]")]
    usageStart [programName, verb.name] ++
      [.run .text " "].intercalate (options ++ verb.operands.map Operand.shape)

/-- The columns of an entry up to its explanation. -/
def HelpEntry.columns (e : HelpEntry) : Nat := e.shape.plain.length

/-- An entry with its explanation in a column. -/
def HelpEntry.line (p : Palette) (column : Nat) (e : HelpEntry) : String :=
  "    " ++ e.shape.render p ++ String.ofList (List.replicate (column - e.columns) ' ') ++ "  " ++
    e.help

/-- The lines of a section; there are none if there is nothing to explain. -/
def HelpSection.lines (p : Palette) (column : Nat) (s : HelpSection) : List String :=
  if s.entries.isEmpty then []
  else "" :: Styled.render p [.run .heading s.heading] :: s.entries.map (HelpEntry.line p column)

/-- What the program is for. -/
def description : String := "Concept-graph based grading for CS1 Python assignments"

/-- The lines in front of the sections. -/
def helpHead (p : Palette) (verb? : Option Verb) : List String :=
  (if verb?.isNone then [description, ""] else []) ++ [(usage verb?).render p]

/-- The help on a command, or on all of them. -/
def helpText (p : Palette) (verb? : Option Verb) : String :=
  let sections := helpSections verb?
  let column := ((sections.flatMap (·.entries)).map (·.columns)).foldl max 0
  "\n".intercalate (helpHead p verb? ++ sections.flatMap (HelpSection.lines p column)) ++ "\n"

end StructuralGrading.CommandLine
