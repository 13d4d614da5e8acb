import Scaffold.Settings.Toml
import Scaffold.Text.Path
import Scaffold.Workspace

/-!
Finding and reading the settings file, and the settings of a run from all layers.
-/

namespace Scaffold

inductive SettingsError where
  | unreadable (path : String) (cause : IoError)
  | malformed (path : String)
deriving DecidableEq, Repr

namespace SettingsError

def message : SettingsError → String
  | .unreadable path _ => "Failed to read config: " ++ path
  | .malformed path => "Failed to parse config: " ++ path

def cause? : SettingsError → Option IoError
  | .unreadable _ cause => some cause
  | .malformed _ => none

end SettingsError

namespace Settings

variable {m : Type → Type} [Monad m] [Workspace m]

/-- The file in the directory of the schema. -/
def besideSchema? (schemaPath : String) : Option String :=
  (Path.parent? schemaPath).map (Path.join · fileName)

def existing? (path? : Option String) : m (Option String) := do
  match path? with
  | some path => if ← Workspace.pathExists path then return some path else return none
  | none => return none

/-- The settings file to read: the one named, if it exists, else the one beside the schema. -/
def resolveFile (explicit : Option String) (schemaPath : String) : m (Option String) := do
  match ← existing? explicit with
  | some path => return some path
  | none => existing? (besideSchema? schemaPath)

section
variable (read? : String → Option SettingsFile)

/-- Reads a settings file by what `read?` makes of its text; `none` if it does not exist. -/
def loadFileWith (path : String) : ExceptT SettingsError m (Option SettingsFile) := do
  if ← ExceptT.lift (Workspace.pathExists path) then
    match ← ExceptT.lift (Workspace.readText none path) with
    | .ok text =>
      match read? text with
      | some file => return some file
      | none => throw (.malformed path)
    | .error (.io cause) => throw (.unreadable path cause)
    | .error .expired => throw (.unreadable path (.other "timed out"))
  else return none

/-- The settings of a run: the defaults, then the file if there is one, then the environment. -/
def loadWith (env : Environment) (schemaPath : String) (explicit : Option String) :
    ExceptT SettingsError m Settings := do
  let base := forSchema schemaPath
  match ← ExceptT.lift (resolveFile explicit schemaPath) with
  | none => return base.applyEnvironment env
  | some path =>
    let file? ← loadFileWith read? path
    return ((file?.map base.applyFile).getD base).applyEnvironment env

end

def loadFile (path : String) : ExceptT SettingsError m (Option SettingsFile) :=
  loadFileWith Toml.read? path

def load (env : Environment) (schemaPath : String) (explicit : Option String) :
    ExceptT SettingsError m Settings := loadWith Toml.read? env schemaPath explicit

end Settings

end Scaffold
