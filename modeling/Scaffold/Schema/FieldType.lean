import Scaffold.Text.Cut
import Scaffold.Text.LetterCase

/-!
What a scalar type of the schema becomes in the generated code: a TypeScript type and the
class-validator decorators that check a value of it.
-/

namespace Scaffold

/-- The types that are values. Any other type name refers to a model. -/
def scalarTypes : List String :=
  ["String", "Int", "Float", "Boolean", "DateTime", "Json", "Bytes", "Decimal", "BigInt"]

def isScalar (declaredType : String) : Bool := scalarTypes.contains declaredType

/-- A TypeScript type that a scalar maps to. -/
inductive TargetType where
  | string
  | number
  | boolean
  | date
  | any
deriving DecidableEq, Repr

namespace TargetType

def name : TargetType → String
  | .string => "string"
  | .number => "number"
  | .boolean => "boolean"
  | .date => "Date"
  | .any => "any"

def all : List TargetType := [.string, .number, .boolean, .date, .any]

def ofName? (name : String) : Option TargetType := all.find? (·.name == name)

/-- The type of the property, with `[]` for a list. -/
def render (t : TargetType) (isArray : Bool) : String :=
  if isArray then t.name ++ "[]" else t.name

theorem ofName?_name (t : TargetType) : ofName? t.name = some t := by cases t <;> rfl

end TargetType

inductive ValidatorKind where
  | isOptional
  | isString
  | isEmail
  | isInt
  | isNumber
  | isBoolean
  | isDate
  | isObject
deriving DecidableEq, Repr

namespace ValidatorKind

/-- The name of the decorator. -/
def name : ValidatorKind → String
  | .isOptional => "IsOptional"
  | .isString => "IsString"
  | .isEmail => "IsEmail"
  | .isInt => "IsInt"
  | .isNumber => "IsNumber"
  | .isBoolean => "IsBoolean"
  | .isDate => "IsDate"
  | .isObject => "IsObject"

def all : List ValidatorKind :=
  [.isOptional, .isString, .isEmail, .isInt, .isNumber, .isBoolean, .isDate, .isObject]

def ofName? (name : String) : Option ValidatorKind := all.find? (·.name == name)

end ValidatorKind

/-- A check of one property, with the message shown when it fails. -/
structure Validator where
  kind : ValidatorKind
  message : String
deriving DecidableEq, Repr

namespace Validator

/-- The message as it stands between single quotes: a quote gets a backslash. -/
def escapeQuotes (cs : List Char) : List Char :=
  cs.flatMap fun c => if c = '\'' then ['\\', '\''] else [c]

def literal (message : String) : String :=
  "'" ++ String.ofList (escapeQuotes message.toList) ++ "'"

/-- The decorator as source text. Decorators that take options of their own have them first, so the
message goes into the second argument. -/
def decorator (v : Validator) : String :=
  let options := "\x7b message: " ++ literal v.message ++ " \x7d"
  let arguments := match v.kind with
    | .isOptional => ""
    | .isEmail | .isNumber => "\x7b\x7d, " ++ options
    | _ => options
  "@" ++ v.kind.name ++ "(" ++ arguments ++ ")"

end Validator

/-- What a scalar field maps to. -/
structure MappedType where
  target : TargetType
  isArray : Bool
  validators : List Validator
deriving DecidableEq, Repr

def MappedType.tsType (m : MappedType) : String := m.target.render m.isArray

namespace Schema
open Text

/-- The name as messages show it. -/
def fieldLabel (name : String) : String := String.ofList (capitalize name.toList)

/-- A field holds an email address if its name says so, in any case of letters. -/
def isEmailName (name : String) : Bool := occursIn "email".toList (lowercase name.toList)

/-- The target type, the check, and the end of its message. A type that is none of those named is
kept as text. -/
def typeRule (declaredType name : String) : TargetType × ValidatorKind × String :=
  match declaredType with
  | "String" =>
    if isEmailName name then (.string, .isEmail, " must be a valid email address.")
    else (.string, .isString, " must be a string.")
  | "Int" => (.number, .isInt, " must be an integer.")
  | "Float" => (.number, .isNumber, " must be a float.")
  | "Boolean" => (.boolean, .isBoolean, " must be true or false.")
  | "DateTime" => (.date, .isDate, " must be a date.")
  | "Json" => (.any, .isObject, " must be an object.")
  | _ => (.string, .isString, " must be a string.")

def mapFieldType (declaredType : String) (isOptional isArray : Bool) (name : String) : MappedType :=
  let label := fieldLabel name
  let (target, kind, demand) := typeRule declaredType name
  { target
    isArray
    validators :=
      (if isOptional then [⟨.isOptional, label ++ " is optional."⟩] else []) ++
        [⟨kind, label ++ demand⟩] }

end Schema

end Scaffold
