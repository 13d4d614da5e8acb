import Scaffold.Environment
import Scaffold.Logging.Filter
import Scaffold.Text.Cut
import Scaffold.Text.LetterCase

/-!
How the program logs: the level, the format, and a list of further directives, each from a variable
of its own. `RUST_LOG`, when all of it can be read, takes the place of the level.
-/

namespace Scaffold

inductive LogFormat where
  | json
  | pretty
deriving DecidableEq, Repr

namespace LogFormat

def ofText (text : String) : LogFormat :=
  if Text.lowercase text.toList = "json".toList then .json else .pretty

def name : LogFormat → String
  | .json => "Json"
  | .pretty => "Pretty"

end LogFormat

structure LogSettings where
  levelText : String := "info"
  format : LogFormat := .pretty
  targetFilter : Option String := none
deriving DecidableEq, Repr

namespace LogSettings

def ofEnvironment (env : Environment) : LogSettings where
  levelText := (env.text? "NESTGEN_LOG_LEVEL").getD "info"
  format := .ofText ((env.text? "NESTGEN_LOG_FORMAT").getD "pretty")
  targetFilter := env.text? "NESTGEN_LOG_TARGET_FILTER"

/-- The level named, in any case of letters, and `INFO` if none is. -/
def level (s : LogSettings) : Level :=
  match String.ofList (Text.lowercase s.levelText.toList) with
  | "trace" => .trace
  | "debug" => .debug
  | "warn" => .warn
  | "error" => .error
  | _ => .info

/-- The trimmed parts of the list of targets, without the blank ones. -/
def targetParts (s : LogSettings) : List (List Char) :=
  Text.parts Text.trim ((s.targetFilter.getD "").toList)

section
variable {Directive Filter : Type} (lang : FilterLanguage Directive Filter)

/-- The directives of a comma-separated list, if every part that is not empty is one. -/
def directives? (list : String) : Option (List Directive) :=
  (Text.parts id list.toList).mapM lang.parse?

/-- What the filter starts from: `RUST_LOG` if all of it can be read, or else the level. -/
def base (s : LogSettings) (override : Option String) : Filter :=
  match override.bind (directives? lang) with
  | some ds => lang.ofDirectives ds
  | none => lang.ofDirectives (lang.parse? s.level.name.toList).toList

/-- The file watcher reports every event of the system; only its warnings pass. -/
def watcherDirective? : Option Directive := lang.parse? "notify=warn".toList

/-- The filter in force, in any language; `override` is the value of `RUST_LOG`. -/
def filterIn (s : LogSettings) (override : Option String) : Filter :=
  let watched := (watcherDirective? lang).toList.foldl lang.add (s.base lang override)
  (s.targetParts.filterMap lang.parse?).foldl lang.add watched

/-- A warning for each part of the list that is no directive. -/
def warningsIn (s : LogSettings) : List String :=
  (s.targetParts.filter (lang.parse? · |>.isNone)).map fun part =>
    "Warning: Invalid log filter directive: " ++ String.ofList part

end

/-- The filter in force if all directives are plain. -/
def filter (s : LogSettings) (override : Option String) : LogFilter := s.filterIn LogFilter.plain override

def warnings (s : LogSettings) : List String := s.warningsIn LogFilter.plain

end LogSettings

end Scaffold
