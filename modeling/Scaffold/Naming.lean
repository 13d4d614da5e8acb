import Scaffold.Text.LetterCase

/-!
The names that the generated code derives from a model's name.
-/

namespace Scaffold.Naming
open Text

/-- The class name: `user` gives `User`. -/
def className (model : String) : String := String.ofList (capitalize model.toList)

/-- The name of properties and of the client's accessor: `BlogPost` gives `blogPost`. -/
def propertyName (model : String) : String := String.ofList (uncapitalize model.toList)

/-- A capital begins a new word after a small letter or a digit, and after another capital when a
small letter follows it. -/
def beginsWord (previous : Option Char) (c : Char) (next : Option Char) : Bool :=
  c.isUpper && match previous with
    | none => false
    | some p => p.isLower || p.isDigit || (p.isUpper && (next.map Char.isLower).getD false)

def kebabFrom (previous : Option Char) : List Char → List Char
  | [] => []
  | c :: cs =>
    (if beginsWord previous c cs.head? then ['-'] else []) ++ toLower c ++ kebabFrom (some c) cs

/-- The folder name, with a dash before each new word: `HTTPServer` gives `http-server`. -/
def kebab (model : String) : String := String.ofList (kebabFrom none model.toList)

end Scaffold.Naming
