import StructuralGrading.Text.OsText

/-!
# Paths

A path is made of pieces separated by `/`.  A piece that is empty or a single dot leads
nowhere, and two dots lead to the folder above.

* `Path.route` gives the steps of a path, without the pieces that lead nowhere.
* `Path.fileName?` and `Path.stem?` name the file that a path leads to.
* `Path.join` appends a path to another.
* `Path.ancestors` lists the folders on the way to a path.
* `Path.sort` orders paths step by step.
-/

namespace StructuralGrading

/-- A path as it is written. -/
abbrev Path := OsText

namespace Path

/-- What stands between pieces. -/
def separator : UInt8 := OsText.byte '/'

/-- What stands before an extension. -/
def dot : UInt8 := OsText.byte '.'

/-- What stands between the separators. -/
def pieces (p : Path) : List OsText := p.splitOn separator

/-- The path with the given pieces. -/
def ofPieces (ps : List OsText) : Path := [separator].intercalate ps

/-! ### Routes -/

/-- A step of a path. -/
inductive Step where
  /-- To the very top, at the start of a path. -/
  | top
  /-- To the working folder, at the start of a path. -/
  | here
  /-- To the folder above. -/
  | up
  /-- To the entry with a name. -/
  | name (text : OsText)
  deriving DecidableEq, Repr

namespace Step

/-- A step's place among the steps, and its name if it has one. -/
def key : Step → Nat × OsText
  | top => (0, [])
  | here => (1, [])
  | up => (2, [])
  | name text => (3, text)

/-- By place, then by name. -/
instance : Ord Step where
  compare s t := (compare s.key.1 t.key.1).then (compare s.key.2 t.key.2)

/-- The step of a piece, unless it leads nowhere. -/
def ofPiece? (piece : OsText) : Option Step :=
  if piece = [] ∨ piece = [dot] then none
  else if piece = [dot, dot] then some up
  else some (name piece)

end Step

/-- Whether a path starts at the very top and not at the working folder. -/
def isAbsolute (p : Path) : Bool := p.head? == some separator

/-- The steps of a path. -/
def route (p : Path) : List Step :=
  let start :=
    if p.isAbsolute then [.top]
    else if p.pieces.head? = some [dot] then [.here]
    else []
  start ++ p.pieces.filterMap Step.ofPiece?

/-- Whether a path leads to the working folder by its dot alone. -/
def isHere (p : Path) : Bool := p.route == [.here]

/-! ### Names -/

/-- The name of what a path leads to.  A path that ends by going up has none. -/
def fileName? (p : Path) : Option OsText :=
  match p.route.getLast? with
  | some (.name text) => some text
  | _ => none

/-- A name up to its last dot, unless the name starts with that dot. -/
def stemOf (name : OsText) : OsText :=
  match (name.reverse.dropWhile (· != dot)).drop 1 with
  | [] => name
  | before => before.reverse

/-- The name of what a path leads to, without its extension. -/
def stem? (p : Path) : Option OsText := p.fileName?.map stemOf

/-! ### Joining -/

/-- One path after another.  A path that starts at the top stands for itself. -/
def join (base p : Path) : Path :=
  if p.isAbsolute || base.isEmpty then p
  else if base.getLast? = some separator then base ++ p
  else base ++ separator :: p

/-! ### Folders on the way -/

/-- What reversed pieces lead to, and the folders above it, all as reversed pieces.  The dot that a
path starts with is the last of them. -/
def above : List OsText → List (List OsText)
  | [] => []
  | piece :: before =>
    if piece = [] ∨ (piece = [dot] ∧ before ≠ []) then above before
    else (piece :: before) :: above before

/-- A path and the folders on the way to it, the path first.  There are none if the path leads
nowhere. -/
def ancestors (p : Path) : List Path :=
  match above p.pieces.reverse with
  | [] => []
  | _ :: folders => p :: folders.map fun reversed => ofPieces reversed.reverse

/-! ### Order -/

/-- Paths in the order of their routes.  Of those with one route the first stays first. -/
def sort (ps : List Path) : List Path :=
  ps.mergeSort fun p q => (compare p.route q.route).isLE

end Path

end StructuralGrading
