import StructuralGrading.Store.Basic
import StructuralGrading.Store.Path

/-!
# Access to a store by paths

A path is followed piece by piece from the top or from the working folder (`Store.locate`): every
piece needs a folder to start from, also one that leads nowhere.  At the top there is no way up.
Neither a path nor a name in it can be of any length.

What can be done at a path either succeeds or gives an `AccessFault`; what fails changes nothing.
-/

namespace StructuralGrading

/-- Why something cannot be done at a path. -/
inductive AccessFault where
  | notFound
  /-- There is something already. -/
  | taken
  | notFolder
  | isFolder
  | notText
  | nameTooLong
  | nameWithNull
  deriving DecidableEq, Repr

def AccessFault.message : AccessFault → String
  | notFound => "No such file or directory (os error 2)"
  | taken => "File exists (os error 17)"
  | notFolder => "Not a directory (os error 20)"
  | isFolder => "Is a directory (os error 21)"
  | notText => "stream did not contain valid UTF-8"
  | nameTooLong => "File name too long (os error 36)"
  | nameWithNull => "file name contained an unexpected NUL byte"

namespace Store

/-! ### Following a path -/

/-- The greatest number of bytes in a name. -/
def nameLimit : Nat := 255

/-- The greatest number of bytes in a path. -/
def pathLimit : Nat := 4095

/-- Where a piece leads from a location. -/
def follow (s : Store) (loc : Location) (piece : OsText) : Except AccessFault Location :=
  match s.get? loc with
  | none => .error .notFound
  | some (.file _) => .error .notFolder
  | some .folder =>
    match Path.Step.ofPiece? piece with
    | some (.name name) =>
      if nameLimit < name.length then .error .nameTooLong else .ok (loc ++ [name])
    | some _ => .ok loc.dropLast
    | none => .ok loc

/-- Where a path starts. -/
def start (s : Store) (p : Path) : Location := if p.isAbsolute then [] else s.working

/-- Where a path leads.  There need not be anything, but it would have a folder to lie in. -/
def locate (s : Store) (p : Path) : Except AccessFault Location :=
  if p.contains 0 then .error .nameWithNull
  else if pathLimit < p.length then .error .nameTooLong
  else if p = [] then .error .notFound
  else p.pieces.foldlM s.follow (s.start p)

/-- What is at a path. -/
def find (s : Store) (p : Path) : Except AccessFault Entry := do
  match s.get? (← s.locate p) with
  | some e => return e
  | none => throw .notFound

/-! ### Questions -/

/-- Whether there is anything at a path. -/
def hasEntry (s : Store) (p : Path) : Bool := (s.find p).isOk

/-- Whether there is a folder at a path. -/
def hasFolder (s : Store) (p : Path) : Bool :=
  match s.find p with
  | .ok .folder => true
  | _ => false

/-- The content of the file at a path. -/
def read (s : Store) (p : Path) : Except AccessFault ByteArray := do
  match ← s.find p with
  | .folder => throw .isFolder
  | .file content => return content

/-- The names in the folder at a path, in the order in which it lists them. -/
def list (s : Store) (p : Path) : Except AccessFault (List OsText) := do
  let loc ← s.locate p
  match s.get? loc with
  | some .folder => return s.listing.order loc (s.names loc)
  | some (.file _) => throw .notFolder
  | none => throw .notFound

/-! ### Changes -/

/-- Puts an entry at a location. -/
def set (s : Store) (loc : Location) (e : Entry) : Store :=
  match loc.getLast? with
  | some name => s.put loc.dropLast name e
  | none => s

/-- A path without the separators at its end.  The path to the top keeps them. -/
def trimmed (p : Path) : Path :=
  match p.reverse.dropWhile (· == Path.separator) with
  | [] => p
  | kept => kept.reverse

/-- Makes a folder. -/
def makeFolder (s : Store) (p : Path) : Except AccessFault Store := do
  if pathLimit < p.length then throw .nameTooLong
  let loc ← s.locate (trimmed p)
  match s.get? loc with
  | some _ => throw .taken
  | none => return s.set loc .folder

/-- Writes a file, instead of the one that is there. -/
def write (s : Store) (p : Path) (content : ByteArray) : Except AccessFault Store := do
  let loc ← s.locate p
  match s.get? loc with
  | some .folder => throw .isFolder
  | _ => return s.set loc (.file content)

end Store

end StructuralGrading
