import Scaffold.Text.Utf8

/-!
Environment variables. A variable holds bytes; as a setting it counts only if they are valid UTF-8.
-/

namespace Scaffold

structure Environment where
  bytes? : String → Option ByteArray

namespace Environment

def ofList (vars : List (String × ByteArray)) : Environment := ⟨fun name => vars.lookup name⟩

def text? (env : Environment) (name : String) : Option String :=
  (env.bytes? name).bind String.fromUTF8?

/-- The value as a path, with U+FFFD for what is not UTF-8. -/
def path? (env : Environment) (name : String) : Option String :=
  (env.bytes? name).map Text.decodeLossy

end Environment

end Scaffold
