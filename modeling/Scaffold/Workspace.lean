import Scaffold.Event

/-!
What a run needs from outside: files, whose operations may fail or outlast a limit, and somewhere to
report events.
-/

namespace Scaffold

/-- How a file operation ends when it gives no value. -/
inductive OpError where
  | io (cause : IoError)
  | expired
deriving DecidableEq, Repr

class Workspace (m : Type → Type) where
  /-- The text of a file. -/
  readText (limit : Option Duration) (path : String) : m (Except OpError String)
  /-- Makes a directory and those above it that are missing. -/
  makeDirs (limit : Duration) (path : String) : m (Except OpError Unit)
  /-- Writes a file, in place of what it held. -/
  writeText (limit : Duration) (path text : String) : m (Except OpError Unit)
  pathExists (path : String) : m Bool
  /-- Begins to watch the files of a directory. -/
  watchDir (path : String) : m (Except IoError Unit)
  report (event : Event) : m Unit

/-- A pending operation: when it ends, if it does, and how. -/
structure Work (α : Type) where
  endsAfter : Option Duration
  result : Except IoError α

/-- Time is kept in whole milliseconds, and a limit is rounded up to the next. -/
def Duration.roundUp (d : Duration) : Duration := .ofMillis ((d.nanos + 999999) / 1000000)

/-- The outcome of an operation under a limit. One that ends just at the limit is in time. -/
def Work.within {α : Type} (w : Work α) (limit : Duration) : Except OpError α :=
  match w.endsAfter with
  | some d => if d.nanos ≤ limit.roundUp.nanos then w.result.mapError .io else .error .expired
  | none => .error .expired

/-- What the end of an operation on `path` means for a generation; `onIo` says what a refusal by the
file system means. -/
def OpError.toGenerateError (path : String) (limit : Duration)
    (onIo : String → IoError → GenerateError) : OpError → GenerateError
  | .io cause => onIo path cause
  | .expired => .timeout path limit

/-- Runs an operation on `path` as a step of a generation. -/
def bounded {m : Type → Type} [Monad m] {α : Type} (path : String) (limit : Duration)
    (onIo : String → IoError → GenerateError) (op : m (Except OpError α)) :
    ExceptT GenerateError m α :=
  ExceptT.mk do return (← op).mapError (OpError.toGenerateError path limit onIo)

end Scaffold
