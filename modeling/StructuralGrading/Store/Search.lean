import StructuralGrading.Store.Access
import StructuralGrading.Store.Pattern

/-!
# Searching a store

`Store.search` lists the paths in a store that a pattern stands for.  They are found piece by piece
from the top or from the working folder; a path keeps the pieces of the pattern that lead nowhere
or upwards, but not the dot that the pattern starts with.

Only a piece whose first character is a dot and which leaves something open stands for the steps `.`
and `..` as well.  The piece after one that stands for folders is matched by names alone.  A name
that is no text is never matched, but folders with such names are searched. -/

namespace StructuralGrading

namespace Store

/-- The path of a name in the folder at a path. -/
def pathIn (p : Path) (name : OsText) : Path := if p.isHere then name else p.join name

/-- The paths of what is in the folder at a path, in the order of the names. -/
def pathsIn (s : Store) (p : Path) : List (OsText × Path) :=
  match s.list p with
  | .ok names => (Sorted.sort names).map fun name => (name, pathIn p name)
  | .error _ => []

/-- The path that leads on from a path by the names of a location. -/
def descend (p : Path) (rest : Location) : Path := rest.foldl Path.join (if p.isHere then [] else p)

/-- The paths of everything below the folder at a path, a folder before what is in it.  A folder can
be looked into only if its path is not too long. -/
def pathsBelow (s : Store) (p : Path) : List (Location × Path) :=
  match s.locate p with
  | .ok loc =>
    ((s.below loc).map (·.1)).filterMap fun rest =>
      if (descend p rest.dropLast).length ≤ pathLimit then some (rest, descend p rest)
      else none
  | .error _ => []

/-- Whether a piece of a pattern stands for the name at the end of a location. -/
def matchesLast (c : Pattern.Component) (rest : Location) : Bool :=
  match c, rest.getLast? with
  | .name ts, some name => Pattern.Token.matchName ts name
  | _, _ => false

/-- The paths for which the pieces of a pattern stand, from a path on. -/
def expand (s : Store) : List Pattern.Component → Path → List Path
  | [], p => [p]
  | [.folders], p => ((s.pathsBelow p).map (·.2)).filter s.hasFolder
  | .folders :: c :: rest, p =>
    ((s.pathsBelow p).filter fun q => matchesLast c q.1).flatMap fun q => s.expand rest q.2
  | .name ts :: rest, p =>
    match Pattern.Token.literal? ts with
    | some text =>
      let next := pathIn p (.ofText text)
      if (if text = "." ∨ text = ".." then s.hasFolder p else s.hasEntry next) then
        s.expand rest next
      else []
    | none =>
      if s.hasFolder p then
        let upwards :=
          if ts.head? = some (.char '.') then
            ["..", "."].filter fun step => Pattern.Token.matchAll ts step.toList
          else []
        let listed := (s.pathsIn p).filter fun e => Pattern.Token.matchName ts e.1
        (upwards.map (fun step => p.join (.ofText step)) ++ listed.map (·.2)).flatMap fun q =>
          s.expand rest q
      else []

/-- The paths for which a pattern stands. -/
def search (s : Store) (pattern : Pattern) : List Path :=
  let first : Path := if pattern.absolute then [Path.separator] else [Path.dot]
  (s.expand pattern.components first).filter fun p => !pattern.folderOnly || s.hasFolder p

end Store

end StructuralGrading
