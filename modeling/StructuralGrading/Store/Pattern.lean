import StructuralGrading.Store.Path

/-!
# Patterns for paths

A pattern is a path some of whose names are left open: `?` stands for any character, `*` for any
characters, and a class in brackets for one of its members, or for any other character if it
starts with `!`.  A piece `**` stands for any number of folders.

* `Pattern.Token.matchAll` says which names a piece of a pattern matches.
* `Pattern.ofText` reads a pattern, or tells where it is wrong.
-/

namespace StructuralGrading

namespace Pattern

/-- The character between the pieces of a pattern. -/
def separator : Char := '/'

/-! ### Names -/

/-- A member of a class: the characters between two, both included. -/
structure Span where
  first : Char
  last : Char
  deriving DecidableEq, Repr

/-- A part of a pattern. -/
inductive Token where
  | char (c : Char)
  | anyChar
  | anyChars
  | oneOf (members : List Span)
  | noneOf (members : List Span)
  /-- Any number of folders. -/
  | anyFolders
  deriving DecidableEq, Repr

/-- Whether a character is in a class. -/
def Span.covers (members : List Span) (c : Char) : Bool :=
  members.any fun m => m.first ≤ c && c ≤ m.last

/-- All ends of a list, the list itself first. -/
def suffixes : List Char → List (List Char)
  | [] => [[]]
  | c :: cs => (c :: cs) :: suffixes cs

namespace Token

/-- Whether a token stands for a character. -/
def admits (c : Char) : Token → Bool
  | char d => c == d
  | anyChar => true
  | oneOf members => Span.covers members c
  | noneOf members => !Span.covers members c
  | anyChars => false
  | anyFolders => false

/-- Whether tokens stand for a name. -/
def matchAll : List Token → List Char → Bool
  | [], cs => cs.isEmpty
  | anyChars :: ts, cs => (suffixes cs).any (matchAll ts)
  | t :: ts, cs =>
    match cs with
    | [] => false
    | c :: cs => t.admits c && matchAll ts cs

/-- Whether tokens stand for the name of an entry.  What is no text matches nothing. -/
def matchName (ts : List Token) (name : OsText) : Bool :=
  match name.text? with
  | some text => matchAll ts text.toList
  | none => false

/-- The text for which tokens stand, if it is only one. -/
def literal? (ts : List Token) : Option String :=
  (ts.mapM fun
    | char c => some c
    | _ => none).map String.ofList

end Token

/-! ### Reading a pattern -/

/-- What can be wrong with a pattern. -/
inductive Cause where
  | tooManyStars
  | strayFolders
  | badClass
  deriving DecidableEq, Repr

/-- A cause with its position, in characters. -/
structure Fault where
  cause : Cause
  position : Nat
  deriving DecidableEq, Repr

def Cause.message : Cause → String
  | tooManyStars => "wildcards are either regular `*` or recursive `**`"
  | strayFolders => "recursive wildcards must form a single path component"
  | badClass => "invalid range pattern"

def Fault.message (f : Fault) : String :=
  "Pattern syntax error near position " ++ toString f.position ++ ": " ++ f.cause.message

/-- The members of a class. -/
def Span.ofChars : List Char → List Span
  | a :: '-' :: b :: cs => ⟨a, b⟩ :: ofChars cs
  | a :: cs => ⟨a, a⟩ :: ofChars cs
  | [] => []

/-- Reads what follows an opening bracket: the class, and what comes after it.  The first member may
be a closing bracket itself. -/
def classToken? : List Char → Option (Token × List Char)
  | '!' :: first :: rest => closed Token.noneOf first rest
  | '!' :: [] => none
  | first :: rest => closed Token.oneOf first rest
  | [] => none
where
  closed (token : List Span → Token) (first : Char) (rest : List Char) :
      Option (Token × List Char) :=
    match rest.dropWhile (· != ']') with
    | _ :: after => some (token (Span.ofChars (first :: rest.takeWhile (· != ']'))), after)
    | [] => none

theorem classToken?_shorter {cs after : List Char} {t : Token}
    (h : classToken? cs = some (t, after)) : after.length < cs.length := by
  have shorter : ∀ {token : List Span → Token} {first : Char} {rest : List Char},
      classToken?.closed token first rest = some (t, after) → after.length < rest.length := by
    intro token first rest h
    have le := (List.dropWhile_suffix (l := rest) (· != ']')).length_le
    rw [classToken?.closed] at h
    split at h
    · rename_i eq
      cases h
      rw [eq, List.length_cons] at le
      exact le
    · cases h
  unfold classToken? at h
  split at h
  · exact Nat.lt_of_lt_of_le (shorter h) (by simp only [List.length_cons]; omega)
  · cases h
  · exact Nat.lt_of_lt_of_le (shorter h) (by simp only [List.length_cons]; omega)
  · cases h

/-- Reads tokens from a position on; `before` is the character in front.  Two stars have to fill a
whole piece. -/
def tokens (position : Nat) (before : Option Char) (cs : List Char) : Except Fault (List Token) :=
  match cs with
  | [] => .ok []
  | '?' :: rest => (tokens (position + 1) (some '?') rest).map (Token.anyChar :: ·)
  | '*' :: '*' :: '*' :: _ => .error ⟨.tooManyStars, position + 2⟩
  | '*' :: '*' :: rest =>
    if before.all (· == separator) then
      match rest with
      | [] => .ok [.anyFolders]
      | c :: rest =>
        if c = separator then
          (tokens (position + 3) (some c) rest).map (Token.anyFolders :: ·)
        else .error ⟨.strayFolders, position + 2⟩
    else .error ⟨.strayFolders, position - 1⟩
  | '*' :: rest => (tokens (position + 1) (some '*') rest).map (Token.anyChars :: ·)
  | '[' :: rest =>
    match h : classToken? rest with
    | some (t, after) =>
      (tokens (position + 1 + (rest.length - after.length)) (some ']') after).map (t :: ·)
    | none => .error ⟨.badClass, position⟩
  | c :: rest => (tokens (position + 1) (some c) rest).map (Token.char c :: ·)
  termination_by cs.length
  decreasing_by
    all_goals try simp only [List.length_cons]
    all_goals try omega
    have := classToken?_shorter h
    omega

/-- A piece of a pattern. -/
inductive Component where
  | folders
  | name (tokens : List Token)
  deriving DecidableEq, Repr

/-- Reads a piece of a pattern. -/
def Component.ofChars (cs : List Char) : Except Fault Component := do
  match ← tokens 0 none cs with
  | [.anyFolders] => return .folders
  | ts => return .name ts

/-- Leaves out repetitions of the piece that stands for folders. -/
def collapse : List Component → List Component
  | .folders :: .folders :: rest => collapse (.folders :: rest)
  | c :: rest => c :: collapse rest
  | [] => []

end Pattern

/-- A pattern for paths. -/
structure Pattern where
  /-- The pattern starts at the very top. -/
  absolute : Bool
  components : List Pattern.Component
  /-- Only folders are meant. -/
  folderOnly : Bool
  deriving DecidableEq, Repr

namespace Pattern

/-- The pieces of a pattern.  A separator at the very end opens no further piece. -/
def piecesOf (cs : List Char) : List (List Char) :=
  match (cs.splitOn separator).reverse with
  | [] :: before => before.reverse
  | pieces => pieces.reverse

/-- Reads a pattern.  It is read as a whole first and then piece by piece; a pattern that starts at
the very top has its pieces after the first separator. -/
def ofText (text : String) : Except Fault Pattern := do
  let cs := text.toList
  let _ ← tokens 0 none cs
  let absolute := cs.head? = some separator
  return {
    absolute := absolute
    components := collapse (← (piecesOf (if absolute then cs.tail else cs)).mapM Component.ofChars)
    folderOnly := cs.getLast? = some separator }

/-- The folder that a pattern leads to before it leaves anything open. -/
def folder (p : Pattern) : Path :=
  let names := p.components.map fun
    | .name ts => Token.literal? ts
    | .folders => none
  let closed := (names.takeWhile (·.isSome)).filterMap id
  (closed.map OsText.ofText).foldl Path.join [if p.absolute then Path.separator else Path.dot]

/-- The pattern for everything with an extension in a folder, as a path.  For each level of depth it
opens up a piece for any number of folders. -/
def pathFor (extension : String) (depth : Int) (root : Path) : Path :=
  let folders := (List.replicate depth.toNat (OsText.ofText "**")).foldl Path.join root
  folders.join (.ofText ("*." ++ extension))

end Pattern

end StructuralGrading
