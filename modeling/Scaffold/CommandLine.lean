import Scaffold.Environment
import Scaffold.Settings.Basic

/-!
The command line: `[MODEL] [--outDir PATH] [--watch] [--schema PATH] [--config PATH] [--help]`.

Arguments are read from left to right. The value of an option is checked when the next argument is
understood or the arguments end, so a later argument that cannot be understood is reported first.
-/

namespace Scaffold

structure CommandLine where
  model : Option String
  outDir : String
  watch : Bool
  schema : String
  config : Option String
deriving DecidableEq, Repr

inductive UsageError where
  | unknownArgument
  | invalidValue
  | tooManyValues
  | argumentConflict
  | missingArgument
deriving DecidableEq, Repr

def UsageError.text : UsageError → String
  | .unknownArgument => "an argument is unknown or one too many"
  | .invalidValue => "an option lacks its value"
  | .tooManyValues => "a value is given to an option that takes none"
  | .argumentConflict => "an option is given more than once"
  | .missingArgument => "neither a model nor --watch is given"

/-- Why there is no command line to run: a fault, or a request for help. -/
inductive Refusal where
  | usage (error : UsageError)
  | help
deriving DecidableEq, Repr

inductive Mode where
  | generate (model : String)
  | watch
deriving DecidableEq, Repr

namespace CommandLine

/-- What the run is to do. Watching takes every model, so a model named as well is ignored; `none`
if there is neither. -/
def mode? (c : CommandLine) : Option Mode :=
  if c.watch then some .watch else c.model.map .generate

def missingModel : String := "please provide a model name or use --watch"

/-! ## Reading the arguments -/

/-- The options that take a value. -/
inductive Slot where
  | outDir
  | schema
  | config
deriving DecidableEq, Repr

def Slot.ofName? : String → Option Slot
  | "outDir" => some .outDir
  | "schema" => some .schema
  | "config" => some .config
  | _ => none

/-- What has been read so far. An option waits in `pending`, with its value once that is read. -/
structure Reading where
  model : Option String := none
  watch : Bool := false
  values : List (Slot × String) := []
  pending : Option (Slot × Option String) := none
  onlyPositional : Bool := false
deriving DecidableEq, Repr

abbrev Outcome := Except Refusal

def fault {α : Type} (e : UsageError) : Outcome α := .error (.usage e)

def Reading.take (r : Reading) (slot : Slot) (value : String) : Outcome Reading :=
  if (r.values.lookup slot).isSome then fault .argumentConflict
  else if value.isEmpty then fault .invalidValue
  else .ok { r with values := (slot, value) :: r.values }

/-- Checks the option that waits and records its value. -/
def Reading.settle (r : Reading) : Outcome Reading :=
  match r.pending with
  | none => .ok r
  | some (_, none) => fault .invalidValue
  | some (slot, some value) => { r with pending := none }.take slot value

def Reading.positional (r : Reading) (arg : String) : Outcome Reading :=
  match r.model with
  | some _ => fault .unknownArgument
  | none => do return { ← r.settle with model := some arg }

/-- An argument that starts with two dashes: the name of an option, and what follows its `=`. -/
def Reading.longOption (r : Reading) (name : String) (value : Option String) : Outcome Reading :=
  match Slot.ofName? name, name, value with
  | some slot, _, some value => do (← r.settle).take slot value
  | some slot, _, none => do return { ← r.settle with pending := some (slot, none) }
  | none, "watch", none => do
    let r ← r.settle
    if r.watch then fault .argumentConflict else .ok { r with watch := true }
  | none, "help", none => do
    let _ ← r.settle
    .error .help
  | none, "watch", some _ | none, "help", some _ => fault .tooManyValues
  | none, _, _ => fault .unknownArgument

/-- Splits at the first `=`. -/
def splitOption (cs : List Char) : String × Option String :=
  (String.ofList (cs.takeWhile (· != '=')),
    if cs.contains '=' then some (String.ofList ((cs.dropWhile (· != '=')).drop 1)) else none)

/-- A word that does not look like an option: the value of the option before it, or the model. -/
def Reading.word (r : Reading) (arg : String) : Outcome Reading :=
  match r.pending with
  | some (slot, none) => .ok { r with pending := some (slot, some arg) }
  | _ => r.positional arg

def Reading.argument (r : Reading) (arg : String) : Outcome Reading :=
  if r.onlyPositional then r.positional arg
  else match arg.toList with
    | ['-', '-'] => .ok { r with onlyPositional := true }
    | '-' :: '-' :: option => let (name, value) := splitOption option; r.longOption name value
    | '-' :: 'h' :: _ => r.longOption "help" none
    | '-' :: _ :: _ => fault .unknownArgument
    | _ => r.word arg

def schemaVariable : String := "NESTGEN_SCHEMA"

/-- The schema: the option, else the environment, else the default. -/
def schemaOf (r : Reading) (env : Environment) : Outcome String :=
  match r.values.lookup .schema, env.path? schemaVariable with
  | some path, _ => .ok path
  | none, some path => if path.isEmpty then fault .invalidValue else .ok path
  | none, none => .ok Settings.defaultSchemaPath

def parse (env : Environment) (args : List String) : Outcome CommandLine := do
  let r ← args.foldlM Reading.argument ({} : Reading)
  let r ← r.settle
  let schema ← schemaOf r env
  if r.model.isNone && !r.watch then fault .missingArgument
  else
    .ok {
      model := r.model
      outDir := (r.values.lookup .outDir).getD "src"
      watch := r.watch
      schema
      config := r.values.lookup .config }

/-! ## Help -/

def optionLine (names purpose : String) : String :=
  "  " ++ names ++ "".pushn ' ' (23 - names.length) ++ purpose

def usageLine : String := "Usage: nestgen [OPTIONS] [MODEL]"

/-- The help text, which shows what the environment says about the schema. -/
def helpText (env : Environment) : String :=
  "\n".intercalate [
    "Generate NestJS resources from a Prisma schema",
    "",
    usageLine,
    "",
    "Arguments:",
    "  [MODEL]  Model to generate (e.g. `User`)",
    "",
    "Options:",
    optionLine "    --outDir <PATH>" "Output root for generated resources [default: src]",
    optionLine "    --watch" "Regenerate every model whenever the schema changes",
    optionLine "    --schema <SCHEMA>"
      ("Path to the Prisma schema file [env: " ++ schemaVariable ++ "=" ++
        (env.path? schemaVariable).getD "" ++ "] [default: " ++ Settings.defaultSchemaPath ++ "]"),
    optionLine "    --config <CONFIG>"
      ("Path to " ++ Settings.fileName ++ " (default: alongside the schema)"),
    optionLine "-h, --help" "Print help",
    ""]

end CommandLine

end Scaffold
