import Scaffold.Text.Blank
import Scaffold.Text.Cut

/-!
The declarations in the body of a model block: one a line, or several on a line with `;` between
them. A declaration is a field (`<name> <type>[?][[]] …`, what follows the type being ignored) or is
skipped for a stated reason; none is an error.
-/

namespace Scaffold

/-- A field as declared, its type without the `?` and `[]` marks. -/
structure FieldDecl where
  name : String
  declaredType : String
  isOptional : Bool
  isArray : Bool
deriving DecidableEq, Repr

/-- Why a declaration is no field. -/
inductive SkipReason where
  | blank
  | comment
  | directive
  | malformed
deriving DecidableEq, Repr

def SkipReason.name : SkipReason → String
  | .blank => "Blank"
  | .comment => "Comment"
  | .directive => "Directive"
  | .malformed => "Malformed"

inductive LineClass where
  | field (decl : FieldDecl)
  | skip (reason : SkipReason)
deriving DecidableEq, Repr

def LineClass.field? : LineClass → Option FieldDecl
  | .field decl => some decl
  | .skip _ => none

namespace Schema
open Text

/-- The field that a name and a type token declare. A `?` at the end of the token marks it optional
and `[]` anywhere in it marks it a list; the first `?` and then the first `[]` are taken away. -/
def fieldOfTokens (name type : List Char) : FieldDecl where
  name := String.ofList name
  declaredType := String.ofList (removeFirst ['[', ']'] (removeFirst ['?'] type))
  isOptional := type.getLast? == some '?'
  isArray := occursIn ['[', ']'] type

def classify (declaration : List Char) : LineClass :=
  let content := trim declaration
  if content.isEmpty then .skip .blank
  else
    let code := trim (beforeComment content)
    if code.isEmpty then .skip .comment
    else if ['@', '@'].isPrefixOf code then .skip .directive
    else match words code with
      | name :: type :: _ => .field (fieldOfTokens name type)
      | _ => .skip .malformed

/-- A line that has a `;` before its comment is split there and loses the comment; any other line is
one declaration. -/
def declarationsOfLine (line : List Char) : List (List Char) :=
  let code := beforeComment line
  if code.contains ';' then code.splitOn ';' else [line]

def declarations (body : List Char) : List (List Char) := (lines body).flatMap declarationsOfLine

end Schema

end Scaffold
