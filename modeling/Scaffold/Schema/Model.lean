import Scaffold.Schema.Block
import Scaffold.Schema.Declaration
import Scaffold.Schema.FieldType

/-!
One model of a schema: its scalar fields with what they map to, its relations, and whether it
records who created a row.
-/

namespace Scaffold

/-- A field whose type is a scalar. -/
structure Field where
  name : String
  declaredType : String
  target : TargetType
  isOptional : Bool
  isArray : Bool
  validators : List Validator
deriving DecidableEq, Repr

def Field.tsType (f : Field) : String := f.target.render f.isArray

def Field.ofDecl (d : FieldDecl) : Field :=
  let mapped := Schema.mapFieldType d.declaredType d.isOptional d.isArray d.name
  { name := d.name
    declaredType := d.declaredType
    target := mapped.target
    isOptional := d.isOptional
    isArray := d.isArray
    validators := mapped.validators }

inductive RelationKind where
  | oneToMany
  | manyToOne
deriving DecidableEq, Repr

namespace RelationKind

/-- A list of the other model is one-to-many, a single one many-to-one. -/
def ofArray (isArray : Bool) : RelationKind := if isArray then .oneToMany else .manyToOne

def text : RelationKind → String
  | .oneToMany => "one-to-many"
  | .manyToOne => "many-to-one"

end RelationKind

/-- A field whose type is another model. -/
structure Relation where
  name : String
  target : String
  kind : RelationKind
deriving DecidableEq, Repr

def Relation.ofDecl (d : FieldDecl) : Relation := ⟨d.name, d.declaredType, .ofArray d.isArray⟩

/-- The names that mark a field as holding the user who created the row. -/
def auditNames : List String := ["createdBy", "createdById"]

def isAuditName (name : String) : Bool := auditNames.contains name

structure ParsedModel where
  fields : List Field
  relations : List Relation
  hasCreatedBy : Bool
deriving DecidableEq, Repr

namespace ParsedModel

def ofDecls (decls : List FieldDecl) : ParsedModel where
  fields := (decls.filter (isScalar ·.declaredType)).map Field.ofDecl
  relations := (decls.filter (!isScalar ·.declaredType)).map Relation.ofDecl
  hasCreatedBy := decls.any (isAuditName ·.name)

/-- What the scalar field `id` maps to, if there is one. -/
def idType? (m : ParsedModel) : Option TargetType :=
  (m.fields.find? (·.name == "id")).map (·.target)

def auditField? (m : ParsedModel) : Option Field := m.fields.find? (isAuditName ·.name)

def auditRelation? (m : ParsedModel) : Option Relation := m.relations.find? (isAuditName ·.name)

end ParsedModel

namespace ModelBlock

/-- The declarations of the block, each with its class. -/
def entries (b : ModelBlock) : List (List Char × LineClass) :=
  (Schema.declarations b.body.toList).map fun d => (d, Schema.classify d)

def fieldDecls (b : ModelBlock) : List FieldDecl := b.entries.filterMap (·.2.field?)

def parse (b : ModelBlock) : ParsedModel := .ofDecls b.fieldDecls

end ModelBlock

namespace Schema

/-- The model of this name, from the first block that has it. -/
def parseModel? (source name : String) : Option ParsedModel :=
  (findBlock? source name).map (·.parse)

end Schema

end Scaffold
