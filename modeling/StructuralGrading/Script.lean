import StructuralGrading.Log
import StructuralGrading.Store.Search

/-!
# Scripts

A script is work on files as data: one file operation after another, each chosen from the
answers to those before, with events on the way, and a result at the end.  So what a script
does can be told without doing it, and scripts can be run in turn or mixed step by step.

* `FileOp.perform` says what one operation does to a store and what it answers.
* `Script.run` runs a script on a store to its end.
* `Script.step` runs its first operation alone.
-/

namespace StructuralGrading

/-! ### Operations -/

/-- What can be done with files. -/
inductive FileOp where
  | hasEntry (p : Path)
  | hasFolder (p : Path)
  | read (p : Path)
  | list (p : Path)
  | search (pattern : Pattern)
  | makeFolder (p : Path)
  | write (p : Path) (text : String)
  deriving DecidableEq, Repr

namespace FileOp

/-- The kind of answer to an operation. -/
abbrev Answer : FileOp → Type
  | hasEntry _ => Bool
  | hasFolder _ => Bool
  | read _ => Except AccessFault ByteArray
  | list _ => Except AccessFault (List OsText)
  | search _ => List Path
  | makeFolder _ => Except AccessFault Unit
  | write _ _ => Except AccessFault Unit

/-- The outcome of a change: that it is done, or why it cannot be done. -/
def settle (s : Store) : Except AccessFault Store → Except AccessFault Unit × Store
  | .ok s' => (.ok (), s')
  | .error fault => (.error fault, s)

/-- Performs an operation on a store. -/
def perform (s : Store) : (op : FileOp) → op.Answer × Store
  | hasEntry p => (s.hasEntry p, s)
  | hasFolder p => (s.hasFolder p, s)
  | read p => (s.read p, s)
  | list p => (s.list p, s)
  | search pattern => (s.search pattern, s)
  | makeFolder p => settle s (s.makeFolder p)
  | write p text => settle s (s.write p text.toByteArray)

end FileOp

/-! ### Scripts -/

/-- Work on files that ends with a result. -/
inductive Script (α : Type) where
  | done (result : α)
  | file (op : FileOp) (next : op.Answer → Script α)
  | log (e : Event) (next : Script α)

namespace Script

variable {α β : Type}

/-- One script after another. -/
def bind : Script α → (α → Script β) → Script β
  | done a, f => f a
  | file op next, f => file op fun answer => (next answer).bind f
  | log e next, f => log e (next.bind f)

instance : Monad Script where
  pure := done
  bind := bind

/-! ### Single operations -/

/-- Whether there is anything at a path. -/
def hasEntry (p : Path) : Script Bool := file (.hasEntry p) done

/-- Whether there is a folder at a path. -/
def hasFolder (p : Path) : Script Bool := file (.hasFolder p) done

/-- The content of a file. -/
def read (p : Path) : ExceptT AccessFault Script ByteArray := ExceptT.mk (file (.read p) done)

/-- The text of a file. -/
def readText (p : Path) : ExceptT AccessFault Script String := do
  match String.fromUTF8? (← read p) with
  | some text => return text
  | none => throw .notText

/-- The names in a folder. -/
def list (p : Path) : ExceptT AccessFault Script (List OsText) := ExceptT.mk (file (.list p) done)

/-- The paths for which a pattern stands. -/
def search (pattern : Pattern) : Script (List Path) := file (.search pattern) done

/-- Writes a file. -/
def write (p : Path) (text : String) : ExceptT AccessFault Script Unit :=
  ExceptT.mk (file (.write p text) done)

/-- The script that tells an event. -/
def tell (e : Event) : Script Unit := log e (done ())

/-- The script that tells several events. -/
def tellAll : List Event → Script Unit
  | [] => done ()
  | e :: es => log e (tellAll es)

/-! ### Folders -/

/-- Makes the first of the given folders after those on the way to it, nearest first, as far as they
are not there. -/
def makeFoldersFrom : List Path → Script (Except AccessFault Unit)
  | [] => done (.ok ())
  | p :: above =>
    file (.makeFolder p) fun
      | .ok () => done (.ok ())
      | .error .notFound =>
        (makeFoldersFrom above).bind fun
          | .error fault => done (.error fault)
          | .ok () =>
            file (.makeFolder p) fun
              | .ok () => done (.ok ())
              | .error fault => unlessFolder p fault
      | .error fault => unlessFolder p fault
where
  /-- A folder that is there already need not be made. -/
  unlessFolder (p : Path) (fault : AccessFault) : Script (Except AccessFault Unit) :=
    if fault = .taken then
      file (.hasFolder p) fun there => done (if there then .ok () else .error fault)
    else done (.error fault)

/-- Makes a folder and those on the way to it, as far as they are not there. -/
def makeFolders (p : Path) : ExceptT AccessFault Script Unit :=
  ExceptT.mk (makeFoldersFrom p.ancestors)

/-! ### Running -/

/-- What comes of running a script: its result, the store after it, and the events in order. -/
structure Outcome (α : Type) where
  result : α
  store : Store
  events : List Event

/-- Runs a script on a store. -/
def run : Script α → Store → Outcome α
  | done a, s => ⟨a, s, []⟩
  | file op next, s => (next (op.perform s).1).run (op.perform s).2
  | log e next, s =>
    let rest := next.run s
    { rest with events := e :: rest.events }

/-- Runs the first operation of a script; what is left is a script again. -/
def step : Script α → Store → Script α × Store
  | done a, s => (done a, s)
  | file op next, s => (next (op.perform s).1, (op.perform s).2)
  | log _ next, s => (next, s)

theorem run_bind (m : Script α) (f : α → Script β) (s : Store) :
    (m.bind f).run s =
      { (f (m.run s).result).run (m.run s).store with
        events := (m.run s).events ++ ((f (m.run s).result).run (m.run s).store).events } := by
  induction m generalizing s with
  | done a => rfl
  | file op next ih => exact ih _ _
  | log e next ih => simp only [bind, run, ih, List.cons_append]

end Script

end StructuralGrading
