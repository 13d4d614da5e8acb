import Scaffold.Proofs.Schema.Scan
import Scaffold.Schema.Model

/-! The declarations of a block, shared out between the fields and the relations of its model. The rules
say for one declaration after the other where it goes; together they determine the model. -/

namespace Scaffold

/-- Each declaration gives one field or one relation, by its type, and the order is kept. -/
inductive Shared : List FieldDecl → List Field → List Relation → Prop
  | nil : Shared [] [] []
  | field {d ds fields relations mapped} : d.declaredType ∈ scalarTypes →
      mapped = Schema.mapFieldType d.declaredType d.isOptional d.isArray d.name →
      Shared ds fields relations →
        Shared (d :: ds) (⟨d.name, d.declaredType, mapped.target, d.isOptional, d.isArray,
          mapped.validators⟩ :: fields) relations
  | relation {d ds fields relations kind} : d.declaredType ∉ scalarTypes →
      (kind = .oneToMany ↔ d.isArray = true) → Shared ds fields relations →
        Shared (d :: ds) fields (⟨d.name, d.declaredType, kind⟩ :: relations)

/-- The checks of a field: whether it may be left out comes first, if it may, and then one other. -/
def Field.IsChecked (f : Field) : Prop :=
  ∃ kind, kind ≠ .isOptional ∧
    f.validators.map (·.kind) = if f.isOptional then [.isOptional, kind] else [kind]

/-- The model says of the declarations all there is to say, and nothing else. -/
structure ParsedModel.IsPartition (m : ParsedModel) (ds : List FieldDecl) : Prop where
  shared : Shared ds m.fields m.relations
  count : m.fields.length + m.relations.length = ds.length
  flag : m.hasCreatedBy = true ↔ ∃ d ∈ ds, d.name = "createdBy" ∨ d.name = "createdById"
  checked : ∀ f ∈ m.fields, f.IsChecked

theorem isScalar_iff {type : String} : isScalar type = true ↔ type ∈ scalarTypes :=
  List.contains_iff_mem

theorem RelationKind.eq_oneToMany_iff {kind : RelationKind} {isArray : Bool} :
    (kind = .oneToMany ↔ isArray = true) ↔ kind = .ofArray isArray := by
  cases kind <;> cases isArray <;> simp [RelationKind.ofArray]

/-! ## Sharing out -/

namespace ParsedModel

theorem ofDecls_cons_field {d : FieldDecl} (h : d.declaredType ∈ scalarTypes) (ds : List FieldDecl) :
    (ofDecls (d :: ds)).fields = .ofDecl d :: (ofDecls ds).fields ∧
      (ofDecls (d :: ds)).relations = (ofDecls ds).relations := by
  have hscalar := isScalar_iff.2 h
  simp [ofDecls, hscalar]

theorem ofDecls_cons_relation {d : FieldDecl} (h : d.declaredType ∉ scalarTypes)
    (ds : List FieldDecl) :
    (ofDecls (d :: ds)).fields = (ofDecls ds).fields ∧
      (ofDecls (d :: ds)).relations = .ofDecl d :: (ofDecls ds).relations := by
  have hscalar : isScalar d.declaredType = false := by
    rw [← Bool.not_eq_true, isScalar_iff]
    exact h
  simp [ofDecls, hscalar]

end ParsedModel

open ParsedModel

theorem shared_ofDecls (ds : List FieldDecl) :
    Shared ds (ofDecls ds).fields (ofDecls ds).relations := by
  induction ds with
  | nil => exact .nil
  | cons d ds ih =>
    by_cases hscalar : d.declaredType ∈ scalarTypes
    · obtain ⟨hfields, hrelations⟩ := ofDecls_cons_field hscalar ds
      rw [hfields, hrelations]
      exact .field hscalar rfl ih
    · obtain ⟨hfields, hrelations⟩ := ofDecls_cons_relation hscalar ds
      rw [hfields, hrelations]
      exact .relation hscalar (RelationKind.eq_oneToMany_iff.2 rfl) ih

namespace Shared

variable {ds : List FieldDecl} {fields : List Field} {relations : List Relation}

/-- The rules leave no choice. -/
theorem eq_ofDecls (h : Shared ds fields relations) :
    fields = (ofDecls ds).fields ∧ relations = (ofDecls ds).relations := by
  induction h with
  | nil => exact ⟨rfl, rfl⟩
  | field hscalar hmapped _ ih =>
    obtain ⟨hfields, hrelations⟩ := ofDecls_cons_field hscalar _
    rw [hfields, hrelations, ← ih.1, hmapped]
    exact ⟨rfl, ih.2⟩
  | relation hscalar hkind _ ih =>
    obtain ⟨hfields, hrelations⟩ := ofDecls_cons_relation hscalar _
    rw [hfields, hrelations, ← ih.2, RelationKind.eq_oneToMany_iff.1 hkind]
    exact ⟨ih.1, rfl⟩

theorem length_add (h : Shared ds fields relations) :
    fields.length + relations.length = ds.length := by
  induction h with
  | nil => rfl
  | field _ _ _ ih =>
    simp only [List.length_cons]
    omega
  | relation _ _ _ ih =>
    simp only [List.length_cons]
    omega

end Shared

/-! ## The checks -/

theorem Schema.typeRule_ne_isOptional (type name : String) :
    (typeRule type name).2.1 ≠ .isOptional := by
  unfold typeRule
  split <;> try decide
  split <;> decide

theorem isChecked_ofDecl (d : FieldDecl) : (Field.ofDecl d).IsChecked := by
  refine ⟨_, Schema.typeRule_ne_isOptional d.declaredType d.name, ?_⟩
  unfold Field.ofDecl Schema.mapFieldType
  cases d.isOptional <;> rfl

/-! ## A model is a partition -/

theorem isPartition_ofDecls (ds : List FieldDecl) : (ofDecls ds).IsPartition ds where
  shared := shared_ofDecls ds
  count := (shared_ofDecls ds).length_add
  flag := by simp [ofDecls, isAuditName, auditNames]
  checked f hf := by
    obtain ⟨d, -, rfl⟩ := List.mem_map.1 hf
    exact isChecked_ofDecl d

theorem isPartition_iff {m : ParsedModel} {ds : List FieldDecl} :
    m.IsPartition ds ↔ m = .ofDecls ds := by
  constructor
  · intro h
    obtain ⟨hfields, hrelations⟩ := h.shared.eq_ofDecls
    have hflag : m.hasCreatedBy = (ofDecls ds).hasCreatedBy :=
      Bool.eq_iff_iff.2 (h.flag.trans (isPartition_ofDecls ds).flag.symm)
    cases m
    simp_all
  · rintro rfl
    exact isPartition_ofDecls ds

namespace Schema

theorem fieldDecls_eq_filterMap (b : ModelBlock) :
    b.fieldDecls = (declarations b.body.toList).filterMap fun d => (classify d).field? := by
  unfold ModelBlock.fieldDecls ModelBlock.entries
  rw [List.filterMap_map]
  rfl

theorem parseModel?_isSome_iff {source name : String} :
    (∃ m, parseModel? source name = some m) ↔ name ∈ modelNames source := by
  constructor
  · rintro ⟨m, hm⟩
    obtain ⟨b, hfind, -⟩ := Option.map_eq_some_iff.1 hm
    exact List.mem_map.2 ⟨b, List.mem_of_find?_eq_some hfind, name_of_findBlock? hfind⟩
  · intro hname
    obtain ⟨b, hfind, -⟩ := exists_findBlock? hname
    exact ⟨b.parse, by rw [parseModel?, hfind]; rfl⟩

/-- Whether a model is read is decided by the names of the blocks, and what is read by the first block
of its name: those of its declarations that are fields are shared out between fields and relations. -/
theorem declarations_partitioned (source name : String) :
    ((∃ m, parseModel? source name = some m) ↔ name ∈ modelNames source) ∧
      ∀ m, parseModel? source name = some m ↔
        ∃ before b after, blocks source = before ++ b :: after ∧ b.name = name ∧
          (∀ other ∈ before, other.name ≠ name) ∧
          m.IsPartition ((declarations b.body.toList).filterMap fun d => (classify d).field?) := by
  refine ⟨parseModel?_isSome_iff, fun m => ?_⟩
  simp only [← fieldDecls_eq_filterMap]
  unfold parseModel? findBlock?
  rw [Option.map_eq_some_iff]
  constructor
  · rintro ⟨b, hfind, rfl⟩
    obtain ⟨hname, before, after, hblocks, hbefore⟩ := List.find?_eq_some_iff_append.1 hfind
    refine ⟨before, b, after, hblocks, by simpa using hname, fun other hother => ?_,
      isPartition_iff.2 rfl⟩
    simpa using hbefore other hother
  · rintro ⟨before, b, after, hblocks, hname, hbefore, hm⟩
    refine ⟨b, List.find?_eq_some_iff_append.2 ⟨by simpa using hname, before, after, hblocks, ?_⟩,
      (isPartition_iff.1 hm).symm⟩
    intro other hother
    simpa using hbefore other hother

/-- The text between the braces of a block: fields on one line, a comment, a directive and a relation. -/
def mixedBody : String :=
  "\n  // text Int\n  email String?; tags Int[]\n  @@map(x)\n  createdBy User @relation\n"

/-- Two blocks of one name. -/
def mixedTwice : String :=
  "model Doc \x7b" ++ mixedBody ++ "\x7d\nmodel Doc \x7b\n  other Int\n\x7d\n"

theorem blocks_mixedTwice : blocks mixedTwice = [⟨"Doc", mixedBody⟩, ⟨"Doc", "\n  other Int\n"⟩] := by
  decide +kernel

theorem fields_mixedBody : (declarations mixedBody.toList).filterMap (fun d => (classify d).field?) =
    [⟨"email", "String", true, false⟩, ⟨"tags", "Int", false, true⟩,
      ⟨"createdBy", "User", false, false⟩] := by
  decide +kernel

/-- The first of the blocks of one name counts, and what is skipped in it does not. -/
theorem declarations_partitioned_first_block :
    parseModel? mixedTwice "Doc" = some
      { fields := [
          ⟨"email", "String", .string, true, false, [⟨.isOptional, "Email is optional."⟩,
            ⟨.isEmail, "Email must be a valid email address."⟩]⟩,
          ⟨"tags", "Int", .number, false, true, [⟨.isInt, "Tags must be an integer."⟩]⟩]
        relations := [⟨"createdBy", "User", .manyToOne⟩]
        hasCreatedBy := true } := by
  rw [(declarations_partitioned mixedTwice "Doc").2]
  refine ⟨[], ⟨"Doc", mixedBody⟩, [⟨"Doc", "\n  other Int\n"⟩], blocks_mixedTwice, rfl,
    by simp, ?_⟩
  rw [fields_mixedBody, isPartition_iff]
  decide +kernel

end Schema

end Scaffold
