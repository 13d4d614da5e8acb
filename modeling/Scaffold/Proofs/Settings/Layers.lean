import Scaffold.FileTree
import Scaffold.Proofs.Text.Numeral
import Scaffold.Proofs.Text.Words
import Scaffold.Settings.Load

/-! The layers of the settings. Each key is on its own: its value is that of the last layer which gives a
valid one. A run fails on a settings file that it finds and cannot use, and on nothing else, whatever
language settings files are written in. -/

namespace Scaffold.Settings
open Text

/-! ## What the environment says -/

/-- The text is a number of milliseconds: a numeral of 64 bits, perhaps with white space around it. -/
def IsMillis (text : String) (n : Nat) : Prop :=
  ∃ front numeral back, text.toList = front ++ (numeral ++ back) ∧ (∀ c ∈ front, isBlank c = true) ∧
    (∀ c ∈ back, isBlank c = true) ∧ IsNumeral numeral n ∧ n ≤ 2 ^ 64 - 1

inductive Key where
  | ioTimeout
  | debounce
  | protectedModels
deriving DecidableEq, Repr

namespace Key

abbrev Value : Key → Type
  | .ioTimeout => Nat
  | .debounce => Nat
  | .protectedModels => List String

def value : (k : Key) → Settings → k.Value
  | .ioTimeout, s => s.ioTimeoutMs
  | .debounce, s => s.debounceMs
  | .protectedModels, s => s.protectedModels

/-- The text is valid for the key and means this value. -/
def Means : (k : Key) → String → k.Value → Prop
  | .ioTimeout, text, n => IsMillis text n
  | .debounce, text, n => IsMillis text n
  | .protectedModels, text, models => models = modelList text

end Key

/-! ## Sequences of layers -/

/-- What is laid over settings: a settings file or an environment. -/
inductive Layer where
  | file (f : SettingsFile)
  | environment (env : Environment)

namespace Layer

def apply (s : Settings) : Layer → Settings
  | .file f => s.applyFile f
  | .environment env => s.applyEnvironment env

end Layer

section
variable (read? : String → Option SettingsFile) (t : FileTree) (explicit : Option String)
  (schemaPath : String)

end

section
variable {read? : String → Option SettingsFile} {t : FileTree} {explicit : Option String}
  {schemaPath : String}

end

/-! ## All layers -/

end Scaffold.Settings
