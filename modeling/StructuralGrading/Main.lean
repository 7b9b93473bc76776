import StructuralGrading.CommandLine.Session
import StructuralGrading.Program.Listing

/-!
# The program

Runs a session on the files of the working folder.  All that is decided is decided by
`Session.script`; here its file operations are performed and what it prints is printed.

The machine takes texts for paths, so a path that is no text leads nowhere here.

The parse tree of a source `x.py` is read from the written tree `x.py.tree` beside it.  A source
without one counts as unreadable from its first character on.
-/

namespace StructuralGrading.Machine

/-! ### Files -/

/-- A path as the machine knows it.  Nothing is at the empty path. -/
def locate (p : Path) :=
  let text := p.text?.getD ""
  if text.isEmpty then throw (IO.Error.noFileOrDirectory text 2 AccessFault.notFound.message)
  else IO.currentDir >>= fun here => pure (here / text)

/-- The fault that an error of the machine stands for; another error ends the program. -/
def faultOf (e : IO.Error) : IO AccessFault :=
  match e with
  | .noFileOrDirectory .. => return .notFound
  | .alreadyExists .. => return .taken
  | .inappropriateType _ 21 _ => return .isFolder
  | .inappropriateType .. => return .notFolder
  | .invalidArgument _ 36 _ => return .nameTooLong
  | e => throw e

/-- Does something that may fail. -/
def attempt {α : Type} (action : IO α) : IO (Except AccessFault α) := do
  match ← action.toBaseIO with
  | .ok a => return .ok a
  | .error e => return .error (← faultOf e)

/-- A test that fails where there is nothing to test. -/
def holds (test : IO Bool) : IO Bool := do
  match ← test.toBaseIO with
  | .ok b => return b
  | .error _ => return false

/-- The content of a file. -/
def read (p : Path) : IO (Except AccessFault ByteArray) :=
  attempt do IO.FS.readBinFile (← locate p)

/-- The names in a folder, as the machine lists them. -/
def list (p : Path) : IO (Except AccessFault (List OsText)) :=
  attempt do
    let entries ← (← locate p).readDir
    return entries.toList.map fun entry => .ofText entry.fileName

/-- The location with the given components, the first of which is the top. -/
def locationOf (components : List String) : Location := (components.drop 1).map OsText.ofText

/-- Makes the folders on the way to a location. -/
def makeWay (s : Store) (loc : Location) : Store :=
  (List.range loc.length).foldl (fun s n => s.set (loc.take (n + 1)) .folder) s

/-- What is in a folder, without the contents of files. -/
def survey (folder : Path) : IO Store := do
  let here := locationOf (← IO.currentDir).components
  let s := (makeWay .empty here).workIn here
  let place ← locate folder
  if !(← place.isDir) then return s
  let place ← IO.FS.realPath place
  let mut s := makeWay s (locationOf place.components)
  for p in ← place.walkDir do
    s := s.set (locationOf p.components) (if ← p.isDir then .folder else .file .empty)
  return s

/-- Performs an operation on the files of the machine. -/
def perform : (op : FileOp) → IO op.Answer
  | .hasEntry p => holds do (← locate p).pathExists
  | .hasFolder p => holds do (← locate p).isDir
  | .read p => read p
  | .list p => list p
  | .search pattern => return (← survey pattern.folder).search pattern
  | .makeFolder p => attempt do IO.FS.createDir (← locate p)
  | .write p text => attempt do IO.FS.writeFile (← locate p) text

/-- Runs a script on the files of the machine; gives its result and the events in order. -/
def run {α : Type} : Script α → IO (α × List Event)
  | .done a => return (a, [])
  | .log e next => do
    let (a, events) ← run next
    return (a, e :: events)
  | .file op next => perform op >>= fun answer => run (next answer)

/-! ### Programs -/

/-- The tree of a source that cannot be read at all. -/
def unreadable : Tree := .node (.ofMarks "module" none 11 0 0 0 0) []

/-- The written trees of the working folder, by source. -/
def knownTrees : IO (List (String × Tree)) := do
  let mut known := []
  for (_, p) in (← survey [Path.dot]).pathsBelow [Path.dot] do
    if (OsText.ofText ".tree").isSuffixOf p then
      match ← read (p.take (p.length - 5)), ← read p with
      | .ok source, .ok text =>
        match String.fromUTF8? source, (String.fromUTF8? text).bind Tree.ofText? with
        | some source, some t => known := (source, t) :: known
        | _, _ => pure ()
      | _, _ => pure ()
  return known

/-- The entry of an environment that a text such as `NAME=value` stands for. -/
def variableOf? (text : String) : Option (String × String) :=
  match text.toList.span (· != '=') with
  | (name, _ :: value) => some (String.ofList name, String.ofList value)
  | _ => none

/-- The environment of this process, as the machine lists it; where it has no such list, the names
that matter are asked for one by one. -/
def environment : IO Environment := do
  match ← (IO.FS.readBinFile "/proc/self/environ").toBaseIO with
  | .ok content =>
    let entries := content.data.toList.splitOn 0
    return entries.filterMap fun bytes => (String.fromUTF8? ⟨bytes.toArray⟩).bind variableOf?
  | .error _ =>
    let names := Setting.all.map Setting.name ++ Environment.colourNames
    names.filterMapM fun name => do
      return (← IO.getEnv name).map fun value => (name, value)

end StructuralGrading.Machine

open StructuralGrading in
/-- Runs a session. -/
def main (args : List String) : IO UInt32 := do
  let known ← Machine.knownTrees
  let parse : Parser := fun source => (known.lookup source).getD Machine.unreadable
  let (exit, events) ← Machine.run (Session.script parse args (← Machine.environment))
  IO.print (Session.standardOutput exit events)
  IO.eprint exit.errors
  return UInt32.ofNat exit.code
