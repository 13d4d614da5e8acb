import Scaffold.Duration
import Scaffold.Environment
import Scaffold.Text.Blank
import Scaffold.Text.Cut
import Scaffold.Text.Numeral

/-!
The settings of a run and their layers: the defaults, what the settings file gives, and what the
environment gives. A layer changes only what it gives.
-/

namespace Scaffold

structure Settings where
  schemaPath : String
  ioTimeoutMs : Nat
  debounceMs : Nat
  protectedModels : List String
deriving DecidableEq, Repr

/-- What a settings file gives. -/
structure SettingsFile where
  protectedModels : Option (List String) := none
  ioTimeoutMs : Option Nat := none
  debounceMs : Option Nat := none
deriving DecidableEq, Repr

/-- The entries of a comma-separated list of models, trimmed, without the blank ones. -/
def modelList (list : String) : List String :=
  (Text.parts Text.trim list.toList).map String.ofList

namespace Settings

def fileName : String := "nestgen.toml"

def defaultSchemaPath : String := "prisma/schema.prisma"

def forSchema (path : String) : Settings := ⟨path, 5000, 100, ["User", "Role"]⟩

def default : Settings := forSchema defaultSchemaPath

/-- The limit on every file operation. -/
def ioTimeout (s : Settings) : Duration := .ofMillis s.ioTimeoutMs

def applyFile (s : Settings) (f : SettingsFile) : Settings :=
  { s with
    protectedModels := f.protectedModels.getD s.protectedModels
    ioTimeoutMs := f.ioTimeoutMs.getD s.ioTimeoutMs
    debounceMs := f.debounceMs.getD s.debounceMs }

/-- A number of milliseconds from the environment. White space around it does not count. -/
def millis? (env : Environment) (name : String) : Option Nat :=
  (env.text? name).bind fun text => Text.word64? (Text.trim text.toList)

/-- What the environment gives. A variable that is not valid gives nothing. -/
def fromEnvironment (env : Environment) : SettingsFile where
  protectedModels := (env.text? "NESTGEN_PROTECTED_MODELS").map modelList
  ioTimeoutMs := millis? env "NESTGEN_IO_TIMEOUT_MS"
  debounceMs := millis? env "NESTGEN_DEBOUNCE_MS"

def applyEnvironment (s : Settings) (env : Environment) : Settings :=
  s.applyFile (fromEnvironment env)

def isProtected (s : Settings) (className : String) : Bool := s.protectedModels.contains className

end Settings

end Scaffold
