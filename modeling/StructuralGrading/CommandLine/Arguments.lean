/-!
# Arguments

The words of a command line, and how options and other words are taken from them.  A word is an
option if it starts with a dash, and the value of an option is attached by `=` or stands in the next
word; after `--` no word is an option.

What has been taken is gone; a reader (`Taking`) takes what it needs in any order.  It goes on where
something is lacking, so that the fault is told by what is left in the end.
-/

namespace StructuralGrading.CommandLine

/-- A part of a word of the command line. -/
inductive Word where
  /-- An option of one letter, with the word it comes from. -/
  | short (letter : Char) (source : String)
  /-- An option with a name, with the word it comes from. -/
  | long (name : String) (source : String)
  /-- A value attached to an option. -/
  | attached (text : String)
  | plain (text : String)
  /-- A word after `--`. -/
  | afterEnd (text : String)
  deriving DecidableEq, Repr

namespace Word

def display : Word → String
  | short letter _ => "-" ++ letter.toString
  | long name _ => "--" ++ name
  | attached text | plain text | afterEnd text => text

/-- The word of the command line, if this is an option. -/
def source? : Word → Option String
  | short _ source | long _ source => some source
  | attached _ | plain _ | afterEnd _ => none

/-- Whether two words are one option. -/
def sameOption : Word → Word → Bool
  | short a _, short b _ => a == b
  | long a _, long b _ => a == b
  | _, _ => false

/-- The letters that can stand together behind one dash. -/
def switchLetters : List Char := ['v', 'h', 'V']

/-- The parts of a word before `--`.  An option of one letter can have a value attached only if its
letter is of ASCII. -/
def parts (text : String) : List Word :=
  match text.toList with
  | '-' :: '-' :: rest =>
    let name := String.ofList (rest.takeWhile (· != '='))
    match rest.dropWhile (· != '=') with
    | _ :: value => [long name text, attached (String.ofList value)]
    | [] => [long name text]
  | '-' :: letter :: rest =>
    if rest = [] then [short letter text]
    else if '=' ∈ rest ∧ letter.toNat < 128 then
      let value := if rest.head? = some '=' then rest.drop 1 else rest
      [short letter text, attached (String.ofList value)]
    else if (letter :: rest).all (· ∈ switchLetters) then
      (letter :: rest).map fun c => short c text
    else [plain text]
  | _ => [plain text]

/-- The parts of all words, each with its place. -/
def ofArguments (args : List String) : List (Nat × Word) :=
  let before := args.takeWhile (· != "--")
  let after := (args.drop before.length).drop 1
  let front := before.flatMap parts
  front.zipIdx.map (fun (w, n) => (n, w)) ++
    after.zipIdx.map fun (text, n) => (front.length + 1 + n, afterEnd text)

end Word

/-! ### Taking words -/

/-- Something that is not there. -/
inductive Lack where
  | item (name : String)
  /-- The value of the option at a place. -/
  | value (place : Nat) (option : Word) (metavar : String)
  deriving DecidableEq, Repr

/-- The word at a place, if it is left. -/
def wordAt? (words : List (Nat × Word)) (place : Nat) : Option Word :=
  (words.find? fun e => e.1 == place).map (·.2)

/-- A computation on the words that are left, each with its place. -/
abbrev Picking := StateM (List (Nat × Word))

/-- A computation that takes words and may lack some. -/
abbrev Taking := ExceptT Lack Picking

namespace Taking

variable {α β : Type}

/-- Takes two things.  The second is taken also where the first is lacking, which is what counts
then. -/
def both (first : Taking α) (second : Taking β) : Taking (α × β) :=
  ExceptT.mk do
    let a ← first.run
    let b ← second.run
    return do return (← a, ← b)

/-- The first word of which a test holds, and the words without it. -/
def extract? (test : Word → Bool) (words : List (Nat × Word)) :
    Option ((Nat × Word) × List (Nat × Word)) :=
  (words.find? fun e => test e.2).map fun e => (e, words.filter fun f => f.1 != e.1)

/-- Takes a switch, and tells whether it was there. -/
def switch (letter : Char) (name : String) : Picking Bool := do
  let isSwitch : Word → Bool
    | .short c _ => c == letter
    | .long n _ => n == name
    | _ => false
  match extract? isSwitch (← get) with
  | some (_, rest) => set rest; return true
  | none => return false

/-- Takes an option with its value, if it is there.  The value stands right after the option. -/
def option? (name metavar : String) : Taking (Option String) := do
  let isOption : Word → Bool
    | .long n _ => n == name
    | _ => false
  match extract? isOption (← get) with
  | none => return none
  | some ((place, word), rest) =>
    match wordAt? rest (place + 1) with
    | some (.attached text) | some (.plain text) =>
      set (rest.filter fun e => e.1 != place + 1)
      return some text
    | _ => throw (.value place word metavar)

/-- Takes an option with its value as often as it is there, at most a given number of times. -/
def upTo (name metavar : String) : Nat → Taking (List String)
  | 0 => return []
  | n + 1 => do
    match ← option? name metavar with
    | some value => return value :: (← upTo name metavar n)
    | none => return []

/-- Takes an option with its value as often as it is there. -/
def options (name metavar : String) : Taking (List String) := do
  upTo name metavar (← get).length

/-- Takes the first word that is no option. -/
def positional (metavar : String) : Taking String := do
  let isFree : Word → Bool
    | .plain _ | .afterEnd _ => true
    | _ => false
  match extract? isFree (← get) with
  | some ((_, word), rest) => set rest; return word.display
  | none => throw (.item metavar)

end Taking

end StructuralGrading.CommandLine
