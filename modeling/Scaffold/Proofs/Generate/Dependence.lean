import Scaffold.Proofs.Generate.FromSource
import Scaffold.Proofs.Resource.CreateData

/-! What a generation reads of the schema: the block of its model, and one value from elsewhere, the id
type of the model that the audit relation refers to. Two schemas that agree on these lead to the same
files. -/

namespace Scaffold

theorem TargetType.name_injective {a b : TargetType} (h : a.name = b.name) : a = b := by
  have hname := congrArg ofName? h
  rw [ofName?_name, ofName?_name] at hname
  exact Option.some_inj.1 hname

namespace Resource

variable {name : String} {m : ParsedModel} {id₁ id₂ : Option TargetType}
  {protectedNames : List String}

theorem auditKeyTypeOf_eq_iff :
    auditKeyTypeOf m id₁ = auditKeyTypeOf m id₂ ↔
      (m.auditField? = none → id₁.getD .number = id₂.getD .number) := by
  unfold auditKeyTypeOf
  cases m.auditField? <;> simp

/-- The id type of the creator shows in a resource exactly where there is no scalar key, and there no id
type counts as a number. -/
theorem ofModel_eq_iff :
    ofModel name m id₁ protectedNames = ofModel name m id₂ protectedNames ↔
      (m.auditField? = none → id₁.getD .number = id₂.getD .number) := by
  rw [← auditKeyTypeOf_eq_iff]
  constructor
  · intro h
    exact TargetType.name_injective (congrArg auditKeyType h)
  · intro h
    unfold ofModel
    rw [h]

end Resource

namespace Generate
open FileTree

/-- What the id of a model of the schema maps to. A model that is not there has none, as one without a
scalar id. -/
def idTypeIn? (source name : String) : Option TargetType :=
  (Schema.parseModel? source name).bind (·.idType?)

theorem auditTargetId?_eq (source : String) (m : ParsedModel) :
    auditTargetId? source m = m.auditRelation?.bind fun relation => idTypeIn? source relation.target :=
  rfl

theorem auditTargetId?_congr {source₁ source₂ : String} {m : ParsedModel}
    (h : ∀ relation, m.auditRelation? = some relation →
      idTypeIn? source₁ relation.target = idTypeIn? source₂ relation.target) :
    auditTargetId? source₁ m = auditTargetId? source₂ m := by
  rw [auditTargetId?_eq, auditTargetId?_eq]
  cases hrelation : m.auditRelation? with
  | none => rfl
  | some relation => exact h relation hrelation

theorem resourceOf_congr (settings : Settings) {source₁ source₂ : String} {block : ModelBlock}
    (h : block.parse.auditField? = none → ∀ relation, block.parse.auditRelation? = some relation →
      idTypeIn? source₁ relation.target = idTypeIn? source₂ relation.target) :
    resourceOf settings source₁ block = resourceOf settings source₂ block := by
  refine Resource.ofModel_eq_iff.2 fun hfield => ?_
  rw [auditTargetId?_congr (h hfield)]

theorem fromSource_congr {m : Type → Type} [Monad m] [LawfulMonad m] [Workspace m]
    (hsilent : Silent m) {settings : Settings} {outDir model source₁ source₂ : String}
    {block : ModelBlock} (h₁ : Schema.findBlock? source₁ model = some block)
    (h₂ : Schema.findBlock? source₂ model = some block)
    (haudit : block.parse.auditField? = none →
      ∀ relation, block.parse.auditRelation? = some relation →
        idTypeIn? source₁ relation.target = idTypeIn? source₂ relation.target) :
    (fromSource settings source₁ model outDir : ExceptT GenerateError m (List String)) =
      fromSource settings source₂ model outDir := by
  rw [fromSource_eq hsilent h₁, fromSource_eq hsilent h₂, resourceOf_congr settings haudit]

/-- If two schemas have the same block for a model and, where its creator is known only by a relation,
the same id type for the model referred to, generating it from the one or the other makes no
difference: not on any tree, nor in any workspace where only the reports could tell them apart. -/
theorem determined_by_own_block (settings : Settings) (outDir : String)
    {model source₁ source₂ : String} {block₁ block₂ : ModelBlock}
    (h₁ : Schema.findBlock? source₁ model = some block₁)
    (h₂ : Schema.findBlock? source₂ model = some block₂) (hbody : block₁.body = block₂.body)
    (haudit : (∀ f ∈ block₁.parse.fields, isAuditName f.name = false) →
      ∀ relation, block₁.parse.auditRelation? = some relation →
        idTypeIn? source₁ relation.target = idTypeIn? source₂ relation.target) :
    (∀ t, onTree (fromSource settings source₁ model outDir) t =
        onTree (fromSource settings source₂ model outDir) t) ∧
      ∀ (m : Type → Type) [Monad m] [LawfulMonad m] [Workspace m], Silent m →
        (fromSource settings source₁ model outDir : ExceptT GenerateError m (List String)) =
          fromSource settings source₂ model outDir := by
  have hname : block₁.name = block₂.name :=
    (Schema.name_of_findBlock? h₁).trans (Schema.name_of_findBlock? h₂).symm
  obtain rfl : block₁ = block₂ := by
    cases block₁
    cases block₂
    simp_all
  have hlookup : block₁.parse.auditField? = none →
      ∀ relation, block₁.parse.auditRelation? = some relation →
        idTypeIn? source₁ relation.target = idTypeIn? source₂ relation.target := by
    intro hfield
    refine haudit fun f hf => ?_
    exact ParsedModel.auditField?_eq_none hfield (List.mem_map_of_mem hf)
  constructor
  · intro t
    rw [fromSource_congr silent_fileTree h₁ h₂ hlookup]
  · intro m _ _ _ hsilent
    exact fromSource_congr hsilent h₁ h₂ hlookup

def docBlock : ModelBlock := ⟨"Doc", "\ncreatedBy User\n"⟩

def docFirst : String :=
  "model Doc \x7b\ncreatedBy User\n\x7d\nmodel User \x7b\nid String\n\x7d"

def docLast : String :=
  "model User \x7b\nage Int\nid Bytes\n\x7d\nmodel Doc \x7b\ncreatedBy User\n\x7d\nmodel Doc \x7b\x7d"

/-- The second schema has the models in another order, another declared type for the id of the model
referred to, and a second model of the name. -/
theorem determined_by_own_block_reordered :
    Schema.findBlock? docFirst "Doc" = some docBlock ∧
      Schema.findBlock? docLast "Doc" = some docBlock ∧
      docBlock.parse.auditRelation? = some ⟨"createdBy", "User", .manyToOne⟩ ∧
      idTypeIn? docFirst "User" = some .string ∧ idTypeIn? docLast "User" = some .string ∧
      onTree (fromSource .default docFirst "Doc" "out") .empty =
        onTree (fromSource .default docLast "Doc" "out") .empty := by
  have h₁ : Schema.findBlock? docFirst "Doc" = some docBlock := by decide +kernel
  have h₂ : Schema.findBlock? docLast "Doc" = some docBlock := by decide +kernel
  have hrelation : docBlock.parse.auditRelation? = some ⟨"createdBy", "User", .manyToOne⟩ := by
    decide +kernel
  have hfirst : idTypeIn? docFirst "User" = some .string := by decide +kernel
  have hlast : idTypeIn? docLast "User" = some .string := by decide +kernel
  refine ⟨h₁, h₂, hrelation, hfirst, hlast, ?_⟩
  refine (determined_by_own_block .default "out" h₁ h₂ rfl fun _ relation hother => ?_).1 .empty
  obtain rfl := Option.some_inj.1 (hrelation.symm.trans hother)
  exact hfirst.trans hlast.symm

end Generate

end Scaffold
