import Scaffold.Watch.Batch
import Scaffold.Watch.Queue

/-!
The watch loop: a batch for every trigger, until the change feed ends. A schema that cannot be read
is reported and counts as a batch.
-/

namespace Scaffold.Watch

variable {m : Type → Type} [Monad m] [Workspace m]

/-- What a trigger starts: the schema is read and all its models are generated. -/
def runTriggered (settings : Settings) (schemaPath outDir : String) : m Unit := do
  Workspace.report (.schemaChanged schemaPath)
  match ← (Generate.readSchema settings schemaPath).run with
  | .ok source =>
    let done ← Generate.batch settings source outDir
    Workspace.report (.batchEnded done.succeeded done.failed)
  | .error e => Workspace.report (.schemaUnreadable e)

variable [ChangeFeed m]

/-- One round of the loop; `none` if the feed has ended. -/
def round (settings : Settings) (schemaPath outDir : String) (q : ChangeQueue) :
    m (Option ChangeQueue) := do
  let (due, q) ← q.nextTrigger
  if due then
    runTriggered settings schemaPath outDir
    let (again, q) ← q.finishBatch
    Workspace.report (if again then .rescanDue else .waiting)
    return some q
  else return none

/-- The number of batches until the feed ends; `none` if it does not end within `rounds` rounds. -/
def loop (settings : Settings) (schemaPath outDir : String) :
    (rounds : Nat) → ChangeQueue → m (Option Nat)
  | 0, _ => return none
  | rounds + 1, q => do
    match ← round settings schemaPath outDir q with
    | none => return some 0
    | some q => return (← loop settings schemaPath outDir rounds q).map (· + 1)

end Scaffold.Watch
