import Scaffold.CommandLine
import Scaffold.Generate
import Scaffold.Logging.Settings
import Scaffold.Settings.Load

/-!
A run of the program: from the command line to files, log lines and an exit code.
-/

namespace Scaffold

/-- Why a run failed. -/
inductive RunError where
  | missingModel
  | settings (error : SettingsError)
  | generate (error : GenerateError)
  | watch (dir : String) (cause : IoError)
deriving DecidableEq, Repr

namespace RunError

def message : RunError → String
  | .missingModel => CommandLine.missingModel
  | .settings e => e.message
  | .generate e => e.message
  | .watch dir cause =>
    (match cause with
      | .notFound => "No path was found."
      | other => other.text) ++ " about [" ++ Text.quoted dir ++ "]"

/-- What the failure comes from. -/
def cause? : RunError → Option IoError
  | .settings e => e.cause?
  | .generate e => e.cause?
  | .watch _ .notFound => none
  | .watch _ cause => some cause
  | .missingModel => none

/-- The message and the cause, if there is one, on one line. -/
def line (e : RunError) : String :=
  "❌ " ++ e.message ++ ((e.cause?.map (": " ++ ·.text)).getD "")

end RunError

namespace Program

variable {m : Type → Type} [Monad m] [Workspace m]

/-- The directory whose changes are watched. -/
def watchedDir (schemaPath : String) : String :=
  match Path.parent? schemaPath with
  | some dir => if dir.isEmpty then "." else dir
  | none => "."

def generateModel (settings : Settings) (outDir model : String) : ExceptT RunError m Unit := do
  let paths ← ExceptT.adapt .generate (Generate.fromFile settings model outDir)
  ExceptT.lift (Workspace.report (.resourceDone model paths.length))

/-- Starts watching and hands over to `watching`. -/
def startWatch (schemaPath outDir : String) (watching : m Unit) : ExceptT RunError m Unit := do
  let dir := watchedDir schemaPath
  match ← ExceptT.lift (Workspace.watchDir dir) with
  | .error cause => throw (.watch dir cause)
  | .ok () =>
    ExceptT.lift (Workspace.report (.watchStarted schemaPath outDir))
    ExceptT.lift watching

/-- Does what a command line asks for. `watching` is what goes on once a watch has started. -/
def run (env : Environment) (c : CommandLine) (watching : Settings → m Unit) :
    ExceptT RunError m Unit := do
  match c.mode? with
  | none => throw .missingModel
  | some mode =>
    match c.watch, c.model with
    | true, some model => ExceptT.lift (Workspace.report (.modelIgnored model))
    | _, _ => pure ()
    let settings ← ExceptT.adapt .settings (Settings.load env c.schema c.config)
    match mode with
    | .generate model => generateModel settings c.outDir model
    | .watch => startWatch c.schema c.outDir (watching settings)

/-! ## What a run shows -/

def filter (env : Environment) : LogFilter :=
  (LogSettings.ofEnvironment env).filter (env.text? "RUST_LOG")

/-- The line of an event that the filter lets pass. -/
def shown? (f : LogFilter) (e : Event) : Option String :=
  if f.admits e.level e.source then some e.line else none

structure Transcript where
  exitCode : Nat
  stdout : String
  stderr : String
deriving DecidableEq, Repr

def unlines (lines : List String) : String := String.join (lines.map (· ++ "\n"))

def warnings (env : Environment) : List String := (LogSettings.ofEnvironment env).warnings

/-- What is left on the terminal by arguments that ask for no run. -/
def refused (env : Environment) : Refusal → Transcript
  | .help => ⟨0, CommandLine.helpText env, unlines (warnings env)⟩
  | .usage e =>
    ⟨2, "", unlines (warnings env ++ ["error: " ++ e.text, CommandLine.usageLine])⟩

/-- What is left on the terminal by a run that reported `events`. -/
def finished (env : Environment) (events : List Event) (outcome : Except RunError Unit) :
    Transcript :=
  let stdout := unlines (events.filterMap (shown? (filter env)))
  match outcome with
  | .ok () => ⟨0, stdout, unlines (warnings env)⟩
  | .error e => ⟨1, stdout, unlines (warnings env ++ [e.line])⟩

end Program

end Scaffold
