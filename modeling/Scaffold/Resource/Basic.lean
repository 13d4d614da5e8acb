import Scaffold.Naming
import Scaffold.Schema.Model

/-!
A resource: everything that the files generated for one model say about it. Which fields clients may
set, how the creating user is recorded, which decorators are imported and whether the routes that
change data are guarded is decided here; the files only write it down.
-/

namespace Scaffold

/-- A field as the files show it, its decorators as source text. -/
structure FieldView where
  name : String
  tsType : String
  isOptional : Bool
  decorators : List String
deriving DecidableEq, Repr

def FieldView.ofField (f : Field) : FieldView where
  name := f.name
  tsType := f.tsType
  isOptional := f.isOptional
  decorators := f.validators.map Validator.decorator

structure Resource where
  className : String
  propertyName : String
  folder : String
  fields : List FieldView
  dtoFields : List FieldView
  validatorImports : List String
  hasCreatedBy : Bool
  auditAssignment : String
  auditKeyType : String
  isProtected : Bool
  idType : String
  idIsNumeric : Bool
deriving DecidableEq, Repr

namespace Resource

/-- Fields that the database fills in. -/
def managedNames : List String := ["id", "createdAt", "updatedAt"]

/-- Clients set every scalar field but the managed ones and, in a model that records its creator,
the ones that do so. -/
def isClientField (m : ParsedModel) (f : Field) : Bool :=
  !managedNames.contains f.name && !(m.hasCreatedBy && isAuditName f.name)

def clientFields (m : ParsedModel) : List Field := m.fields.filter (isClientField m)

/-- Inserts into a sorted list without duplicates. -/
def insertName (name : String) : List String → List String
  | [] => [name]
  | n :: ns =>
    if name < n then name :: n :: ns
    else if name = n then n :: ns
    else n :: insertName name ns

/-- The names in ascending order, each once. -/
def sortedNames (names : List String) : List String := names.foldr insertName []

/-- The decorators of all fields that share a name with a client field. -/
def importedValidators (m : ParsedModel) : List String :=
  let names := (clientFields m).map (·.name)
  sortedNames ((m.fields.filter (names.contains ·.name)).flatMap
    fun f => f.validators.map (·.kind.name))

/-- How a new row records its creator: a scalar key is assigned, a relation is connected by id. -/
def auditAssignmentOf (m : ParsedModel) : String :=
  if m.hasCreatedBy then
    match m.auditField? with
    | some f => f.name ++ ": userId"
    | none => "createdBy: \x7b connect: \x7b id: userId \x7d \x7d"
  else ""

/-- The type of the creator's id: that of the scalar key, else that of the id of the model referred
to, else a number. -/
def auditKeyTypeOf (m : ParsedModel) (targetId? : Option TargetType) : TargetType :=
  match m.auditField? with
  | some f => f.target
  | none => targetId?.getD .number

def ofModel (name : String) (m : ParsedModel) (targetId? : Option TargetType)
    (protectedNames : List String) : Resource :=
  let className := Naming.className name
  let idIsNumeric := (m.idType?.map (· == .number)).getD true
  { className
    propertyName := Naming.propertyName name
    folder := Naming.kebab name
    fields := m.fields.map FieldView.ofField
    dtoFields := (clientFields m).map FieldView.ofField
    validatorImports := importedValidators m
    hasCreatedBy := m.hasCreatedBy
    auditAssignment := auditAssignmentOf m
    auditKeyType := (auditKeyTypeOf m targetId?).name
    isProtected := protectedNames.contains className
    idType := if idIsNumeric then "number" else "string"
    idIsNumeric }

end Resource

end Scaffold
