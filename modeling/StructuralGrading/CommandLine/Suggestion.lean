import StructuralGrading.CommandLine.Command
import StructuralGrading.Text.Distance

/-!
# Suggestions

What may have been meant by a word of the command line that is not known where it stands: an option
with the wrong number of dashes, an option of another place, or whatever is spelt most like it.
-/

namespace StructuralGrading.CommandLine

/-- What can be given at a place of the command line. -/
structure Scope where
  /-- The names of options. -/
  names : List String
  /-- The letters of options. -/
  letters : List Char
  verbs : List Verb
  deriving DecidableEq, Repr

namespace Scope

/-- What can be given before the name of a command, and that name. -/
def top : Scope := ⟨["verbose"], ['v'], Verb.all⟩

/-- What can be given after the name of a command. -/
def ofVerb (verb : Verb) : Scope := ⟨verb.options.map (·.name), [], []⟩

/-- All words that can be given at a place. -/
def candidates (s : Scope) : List String :=
  (s.names.map fun name => "--" ++ name) ++ s.verbs.map Verb.name

end Scope

/-- What may have been meant by a word. -/
inductive Suggestion where
  /-- An option of a command. -/
  | optionOf (verb : Verb)
  /-- An option whose name has one dash in front and needs two. -/
  | oneDash (name : String)
  /-- An option whose letter has two dashes in front and needs one. -/
  | twoDashes (letter : Char)
  /-- Another word. -/
  | nearest (word : String)
  deriving DecidableEq, Repr

namespace Suggestion

/-- The nearer of two words, the first if they are equally near. -/
def nearer (a b : Nat × String) : Nat × String := if b.1 < a.1 then b else a

/-- The candidate nearest to a text, if fewer changes lead to it than half its characters. -/
def nearest? (candidates : List String) (text : String) : Option String :=
  let near := (candidates.map fun c => (Text.distance text c, c)).filter fun (n, c) =>
    0 < n && 2 * n < c.length
  match near with
  | [] => none
  | e :: es => some (es.foldl nearer e).2

/-- What may have been meant by a word.  Nothing is suggested for words after `--`. -/
def of? (scope : Scope) (word : Word) : Option Suggestion :=
  let text := word.display
  if text = "" then none
  else
    match word with
    | .afterEnd _ => none
    | _ =>
      let owner := scope.verbs.find? fun v => v.options.any fun o => "--" ++ o.name == text
      let dashed := scope.names.find? fun name => "-" ++ name == text
      let letter := scope.letters.find? fun c => "--" ++ c.toString == text
      (owner.map optionOf).or ((dashed.map oneDash).or ((letter.map twoDashes).or
        ((nearest? scope.candidates text).map nearest)))

end Suggestion

end StructuralGrading.CommandLine
