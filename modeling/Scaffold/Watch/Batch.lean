import Scaffold.Generate

/-!
A batch: every model of a schema, generated in source order. A model that fails is reported and does
not stop the others.
-/

namespace Scaffold

structure ModelOutcome where
  model : String
  result : Except GenerateError (List String)

structure BatchReport where
  outcomes : List ModelOutcome

namespace BatchReport

def models (r : BatchReport) : List String := r.outcomes.map (·.model)

def succeeded (r : BatchReport) : Nat := (r.outcomes.filter (·.result.isOk)).length

def failed (r : BatchReport) : Nat := r.outcomes.length - r.succeeded

end BatchReport

namespace Generate

variable {m : Type → Type} [Monad m] [Workspace m]

def batchModel (settings : Settings) (source outDir model : String) : m ModelOutcome := do
  Workspace.report (.modelStarted model)
  let result ← (fromSource settings source model outDir).run
  match result with
  | .error e => Workspace.report (.modelFailed model e)
  | .ok _ => pure ()
  return ⟨model, result⟩

def batch (settings : Settings) (source outDir : String) : m BatchReport := do
  Workspace.report .scanStarted
  let models := Schema.modelNames source
  if models.isEmpty then Workspace.report .noModels
  return ⟨← models.mapM (batchModel settings source outDir)⟩

end Generate

end Scaffold
