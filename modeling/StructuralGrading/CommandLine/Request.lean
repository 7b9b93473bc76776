import StructuralGrading.CommandLine.Styled
import StructuralGrading.CommandLine.Suggestion

/-!
# Requests

How a command line is read, and what can be wrong with it.  A request for help is answered for the
command it is made for, also where the command line is otherwise faulty.
-/

namespace StructuralGrading.CommandLine

/-! ### Faults -/

/-- What can be wrong with a command line. -/
inductive UsageFault where
  | missing (item : String) (found : Option Word)
  | unexpected (word : Word)
  | repeated (word : Word)
  /-- Something else may have been meant by a word. -/
  | misspelt (word : Word) (meant : Suggestion)
  /-- An option lacks its value, perhaps because an option follows. -/
  | valueMissing (option : Word) (metavar : String) (next : Option Word)
  deriving DecidableEq, Repr

/-- What a word that is not known is taken for. -/
def Word.kind (w : Word) : String :=
  if w.display.startsWith "-" then "flag"
  else
    match w with
    | .attached _ => "argument value"
    | _ => "command or positional"

namespace UsageFault

open Styled

/-- What may have been meant by a word. -/
def meant (word : Word) : Suggestion → Styled
  | .optionOf verb =>
    text "flag " ++ term .literal word.display ++
      text " is not valid in this context, did you mean to pass it to command " ++
      term .literal verb.name ++ text "?"
  | .oneDash name =>
    text "no such flag: " ++ term .literal ("-" ++ name) ++
      text " (with one dash), did you mean " ++ term .literal ("--" ++ name) ++ text "?"
  | .twoDashes letter =>
    text "no such flag: " ++ term .literal ("--" ++ letter.toString) ++
      text " (with two dashes), did you mean " ++ term .literal ("-" ++ letter.toString) ++ text "?"
  | .nearest other =>
    text ("no such " ++ word.kind ++ ": ") ++ term .invalid word.display ++
      text ", did you mean " ++ term .literal other ++ text "?"

/-- What is wrong, in words. -/
def styled : UsageFault → Styled
  | missing item none =>
    text "expected " ++ term .metavar item ++ text ", pass " ++ term .literal "--help" ++
      text " for usage information"
  | missing item (some word) =>
    text "expected " ++ term .metavar item ++ text ", got " ++ term .invalid word.display ++
      text ". Pass " ++ term .literal "--help" ++ text " for usage information"
  | unexpected word => term .invalid word.display ++ text " is not expected in this context"
  | repeated word =>
    text "argument " ++ term .literal word.display ++
      text " cannot be used multiple times in this context"
  | misspelt word suggestion => meant word suggestion
  | valueMissing option metavar next =>
    term .literal option.display ++ text " requires an argument " ++ term .metavar metavar ++
      match next.bind Word.source? with
      | some source =>
        text ", got a flag " ++ term .literal source ++ text ", try " ++
          term .literal (option.display ++ "=" ++ source) ++ text " to use it as an argument"
      | none => []

/-- What is printed for a fault. -/
def report (palette : Palette) (fault : UsageFault) : String :=
  palette.paint .invalid "Error: " ++ fault.styled.render palette

end UsageFault

/-! ### Reading a command line -/

/-- What a command line asks for. -/
inductive Request where
  /-- Help, on one command or on all. -/
  | help (verb? : Option Verb)
  | run (verbose : Bool) (command : Command)
  deriving DecidableEq, Repr

/-- Whether help is asked for among words. -/
def asksHelp (words : List (Nat × Word)) : Bool :=
  words.any fun e =>
    match e.2 with
    | .short c _ => c == 'h'
    | .long name _ => name == "help"
    | _ => false

/-- Help if it is asked for, otherwise a fault. -/
def orHelp (verb? : Option Verb) (words : List (Nat × Word)) (fault : UsageFault) :
    Except UsageFault Request :=
  if asksHelp words then .ok (.help verb?) else .error fault

/-- A word about which something is wrong: what may have been meant by it, or else a fault. -/
def orMeant (scope : Scope) (word : Word) (fault : UsageFault) : UsageFault :=
  match Suggestion.of? scope word with
  | some suggestion => .misspelt word suggestion
  | none => fault

/-- The fault of a command line that lacks something, by the words that are left in the end. -/
def Lack.fault (scope : Scope) (words : List (Nat × Word)) : Lack → UsageFault
  | item name =>
    match words with
    | [] => .missing name none
    | (_, word) :: _ => orMeant scope word (.missing name (some word))
  | value place option metavar => .valueMissing option metavar (wordAt? words (place + 1))

/-- Tells that a word was not expected; `all` are the words of the command line. -/
def leftOver (scope : Scope) (all : List (Nat × Word)) (n : Nat) (word : Word) : UsageFault :=
  if all.any fun e => e.1 < n && e.2.sameOption word then .repeated word
  else orMeant scope word (.unexpected word)

/-- The command that the first of the words names. -/
def verbOf? : List (Nat × Word) → Option Verb
  | (_, .plain text) :: _ => Verb.all.find? (·.name == text)
  | _ => none

/-- Reads a command line. -/
def parse (args : List String) : Except UsageFault Request :=
  let all := Word.ofArguments args
  let (verbose, words) := (Taking.switch 'v' "verbose").run all
  match verbOf? words with
  | none => orHelp none words ((Lack.item "COMMAND ...").fault .top words)
  | some verb =>
    let scope := Scope.ofVerb verb
    match verb.take.run.run (words.drop 1) with
    | (.error lack, left) => orHelp verb left (lack.fault scope left)
    | (.ok command, []) => .ok (.run verbose command)
    | (.ok _, left@((place, word) :: _)) => orHelp verb left (leftOver scope all place word)

end StructuralGrading.CommandLine
