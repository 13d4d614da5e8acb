import Scaffold.Error
import Scaffold.Logging.Level
import Scaffold.Schema.Model
import Scaffold.Text.Quoted

/-!
What a run reports while it works. An event has a level, a source (the part of the program that
filters go by), a message, and named fields.
-/

namespace Scaffold

/-- Where the watch loop is. -/
inductive WatchState where
  | idle
  | scanning
  | generating (model : String)
deriving DecidableEq, Repr

def WatchState.text : WatchState → String
  | .idle => "idle"
  | .scanning => "scanning"
  | .generating model => "generating(" ++ model ++ ")"

inductive Event where
  | lineSkipped (model : String) (reason : SkipReason) (line : String)
  | relationDropped (model : String) (relation : Relation)
  | modelParsed (model : String) (parsed : ParsedModel)
  | modelGuarded (model : String)
  | fileWritten (path : String)
  | scanStarted
  | noModels
  | modelStarted (model : String)
  | modelFailed (model : String) (error : GenerateError)
  | schemaChanged (path : String)
  | batchEnded (succeeded failed : Nat)
  | schemaUnreadable (error : GenerateError)
  | rescanDue
  | waiting
  | watchStarted (schemaPath outDir : String)
  | modelIgnored (model : String)
  | resourceDone (model : String) (files : Nat)
deriving DecidableEq, Repr

/-- A named value of an event; in a log line, a quoted one stands in double quotes. -/
structure EventField where
  name : String
  value : String
  isQuoted : Bool := false
deriving DecidableEq, Repr

def EventField.print (f : EventField) : String :=
  f.name ++ "=" ++ (if f.isQuoted then Text.quoted f.value else f.value)

namespace Event

def level : Event → Level
  | .lineSkipped .. | .relationDropped .. | .modelParsed .. => .debug
  | .noModels | .modelIgnored _ => .warn
  | .modelFailed .. | .schemaUnreadable _ => .error
  | _ => .info

def source : Event → String
  | .lineSkipped .. | .relationDropped .. => "nestgen::schema::parse"
  | .modelParsed .. | .modelGuarded _ => "nestgen::generator::project"
  | .fileWritten _ => "nestgen::generator::writer"
  | .modelIgnored _ | .resourceDone .. => "nestgen::cli::commands"
  | _ => "nestgen::hot_reload"

def message : Event → String
  | .lineSkipped .. => "skipping line"
  | .relationDropped .. => "dropping relation field"
  | .modelParsed .. => "parsed model"
  | .modelGuarded _ => "mutation endpoints are guarded"
  | .fileWritten path => "✔ Generated: " ++ path
  | .scanStarted => "scanning schema for models"
  | .noModels => "no model blocks found in schema"
  | .modelStarted model => "generating " ++ model
  | .modelFailed .. => "❌ generation failed"
  | .schemaChanged path => "📄 Detected change in " ++ path
  | .batchEnded .. => "batch complete"
  | .schemaUnreadable _ => "❌ could not read schema"
  | .rescanDue => "schema changed during generation; re-scanning"
  | .waiting => "waiting for changes"
  | .watchStarted schemaPath outDir =>
    "👀 Watching for changes in " ++ schemaPath ++ " (output to \"" ++ outDir ++ "\")..."
  | .modelIgnored _ => "--watch given; ignoring model name"
  | .resourceDone .. => "✅ Generated resource"

def fields : Event → List EventField
  | .lineSkipped model reason line =>
    [⟨"model", model, true⟩, ⟨"reason", reason.name, false⟩, ⟨"line", line, true⟩]
  | .relationDropped model relation =>
    [⟨"model", model, true⟩, ⟨"field", relation.name, false⟩, ⟨"target", relation.target, false⟩,
      ⟨"kind", relation.kind.text, false⟩]
  | .modelParsed model parsed =>
    [⟨"model", model, true⟩, ⟨"fields", Nat.repr parsed.fields.length, false⟩,
      ⟨"relations", Nat.repr parsed.relations.length, false⟩,
      ⟨"has_created_by", if parsed.hasCreatedBy then "true" else "false", false⟩]
  | .modelGuarded model => [⟨"model", model, true⟩]
  | .scanStarted => [⟨"state", WatchState.scanning.text, false⟩]
  | .modelStarted model => [⟨"state", (WatchState.generating model).text, false⟩]
  | .modelFailed model error => [⟨"model", model, false⟩, ⟨"error", error.message, false⟩]
  | .batchEnded succeeded failed =>
    [⟨"succeeded", Nat.repr succeeded, false⟩, ⟨"failed", Nat.repr failed, false⟩]
  | .schemaUnreadable error => [⟨"error", error.message, false⟩]
  | .waiting => [⟨"state", WatchState.idle.text, false⟩]
  | .modelIgnored model => [⟨"model", model, false⟩]
  | .resourceDone model files => [⟨"model", model, false⟩, ⟨"files", Nat.repr files, false⟩]
  | .noModels | .fileWritten _ | .schemaChanged _ | .rescanDue | .watchStarted .. => []

/-- The event as a log line: level, message and fields. -/
def line (e : Event) : String :=
  let level := e.level.name
  "".pushn ' ' (5 - level.length) ++ level ++ " " ++ Text.masked e.message ++
    String.join (e.fields.map (" " ++ ·.print))

end Event

namespace Schema

/-- What parsing a block reports: the declarations that are no field, the blank ones apart, and the
relations. -/
def entryEvent? (model : String) : List Char × LineClass → Option Event
  | (_, .skip .blank) => none
  | (d, .skip reason) => some (.lineSkipped model reason (String.ofList (Text.trim d)))
  | (_, .field d) =>
    if isScalar d.declaredType then none else some (.relationDropped model (.ofDecl d))

def parseEvents (b : ModelBlock) : List Event := b.entries.filterMap (entryEvent? b.name)

end Schema

end Scaffold
