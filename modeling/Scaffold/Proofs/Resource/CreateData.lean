import Scaffold.Proofs.Schema.RoundTrip
import Scaffold.Resource.Basic

/-! The data of a create call: what clients send, and the entry that stamps the creating user. The
filter on client fields, the flag of the model and the choice of the stamped field look at the audit
names each in its own way; here is exactly where they disagree. -/

namespace Scaffold

/-! ## Declared names -/

namespace ParsedModel

def fieldNames (m : ParsedModel) : List String := m.fields.map (·.name)

def relationNames (m : ParsedModel) : List String := m.relations.map (·.name)

def declaredNames (m : ParsedModel) : List String := m.fieldNames ++ m.relationNames

theorem mem_declaredNames_ofDecls {ds : List FieldDecl} {name : String} :
    name ∈ (ofDecls ds).declaredNames ↔ ∃ d ∈ ds, d.name = name := by
  simp only [declaredNames, fieldNames, relationNames, ofDecls, List.map_map, List.mem_append,
    List.mem_map, List.mem_filter, Function.comp_apply, Field.ofDecl, Relation.ofDecl,
    Bool.not_eq_true']
  constructor
  · rintro (⟨d, ⟨hd, -⟩, rfl⟩ | ⟨d, ⟨hd, -⟩, rfl⟩) <;> exact ⟨d, hd, rfl⟩
  · rintro ⟨d, hd, rfl⟩
    cases hscalar : isScalar d.declaredType with
    | true => exact .inl ⟨d, ⟨hd, hscalar⟩, rfl⟩
    | false => exact .inr ⟨d, ⟨hd, hscalar⟩, rfl⟩

/-- The flag of a model that was read tells whether it declares an audit name. -/
def IsFlagged (m : ParsedModel) : Prop :=
  m.hasCreatedBy = true ↔ ∃ name ∈ m.declaredNames, isAuditName name = true

theorem isFlagged_of_parseModel? {source name : String} {m : ParsedModel}
    (h : Schema.parseModel? source name = some m) : m.IsFlagged := by
  obtain ⟨b, -, -, rfl⟩ := Schema.exists_block_of_parseModel? h
  refine List.any_eq_true.trans ⟨?_, ?_⟩
  · rintro ⟨d, hd, haudit⟩
    exact ⟨d.name, mem_declaredNames_ofDecls.2 ⟨d, hd, rfl⟩, haudit⟩
  · rintro ⟨name, hname, haudit⟩
    obtain ⟨d, hd, rfl⟩ := mem_declaredNames_ofDecls.1 hname
    exact ⟨d, hd, haudit⟩

theorem eq_of_isAuditName {name : String} (h : isAuditName name = true) :
    name = "createdBy" ∨ name = "createdById" := by
  simpa [isAuditName, auditNames] using h

theorem auditField?_spec {m : ParsedModel} {f : Field} (h : m.auditField? = some f) :
    f.name ∈ m.fieldNames ∧ isAuditName f.name = true := by
  have hfind : m.fields.find? (isAuditName ·.name) = some f := h
  have haudit := List.find?_some hfind
  exact ⟨List.mem_map_of_mem (List.mem_of_find?_eq_some hfind), haudit⟩

theorem auditField?_eq_none {m : ParsedModel} (h : m.auditField? = none) {name : String}
    (hname : name ∈ m.fieldNames) : isAuditName name = false := by
  obtain ⟨f, hf, rfl⟩ := List.mem_map.1 hname
  simpa using List.find?_eq_none.1 h f hf

end ParsedModel

/-! ## Keys -/

namespace Resource

/-- The key of an entry `key: value`, if there is an entry. -/
def assignedKey? (entry : String) : Option String :=
  if entry.isEmpty then none else some (String.ofList (entry.toList.takeWhile (· ≠ ':')))

def dtoKeys (r : Resource) : List String := r.dtoFields.map (·.name)

/-- The keys of the object `data` that the create method of the service hands on. -/
def createKeys (r : Resource) : List String := r.dtoKeys ++ (assignedKey? r.auditAssignment).toList

/-- The stamped key: the first scalar field with an audit name, else always `createdBy`. -/
theorem assignedKey?_auditAssignmentOf (m : ParsedModel) :
    assignedKey? (auditAssignmentOf m) =
      if m.hasCreatedBy then some ((m.auditField?.map (·.name)).getD "createdBy") else none := by
  unfold auditAssignmentOf
  split
  · cases hfield : m.auditField? with
    | none => decide
    | some f =>
      obtain ⟨-, haudit⟩ := ParsedModel.auditField?_spec hfield
      rcases ParsedModel.eq_of_isAuditName haudit with hname | hname <;>
        simp only [hname, Option.map_some, Option.getD_some] <;> decide
  · decide

section
variable {m : ParsedModel} {model key : String} {targetId? : Option TargetType}
  {protectedNames : List String}

theorem mem_dtoKeys (hflag : m.IsFlagged) :
    key ∈ (ofModel model m targetId? protectedNames).dtoKeys ↔
      key ∈ m.fieldNames ∧ key ∉ managedNames ∧ isAuditName key = false := by
  have hclient : ∀ f ∈ m.fields, isClientField m f = true ↔
      f.name ∉ managedNames ∧ isAuditName f.name = false := by
    intro f hf
    cases haudit : isAuditName f.name with
    | false => simp [isClientField, haudit]
    | true =>
      have hmem : f.name ∈ m.declaredNames := List.mem_append_left _ (List.mem_map_of_mem hf)
      simp [isClientField, haudit, hflag.2 ⟨_, hmem, haudit⟩]
  simp only [dtoKeys, ofModel, clientFields, ParsedModel.fieldNames, List.map_map, List.mem_map,
    List.mem_filter, Function.comp_apply, FieldView.ofField]
  constructor
  · rintro ⟨f, ⟨hf, hkeep⟩, rfl⟩
    exact ⟨⟨f, hf, rfl⟩, (hclient f hf).1 hkeep⟩
  · rintro ⟨⟨f, hf, rfl⟩, hkeep⟩
    exact ⟨f, ⟨hf, (hclient f hf).2 hkeep⟩, rfl⟩

theorem mem_createKeys :
    key ∈ (ofModel model m targetId? protectedNames).createKeys ↔
      key ∈ (ofModel model m targetId? protectedNames).dtoKeys ∨
        m.hasCreatedBy = true ∧ (m.auditField?.map (·.name)).getD "createdBy" = key := by
  rw [createKeys, List.mem_append, Option.mem_toList]
  show _ ∨ assignedKey? (auditAssignmentOf m) = some key ↔ _
  rw [assignedKey?_auditAssignmentOf]
  cases m.hasCreatedBy <;> simp

theorem isAuditName_stamped (m : ParsedModel) :
    isAuditName ((m.auditField?.map (·.name)).getD "createdBy") = true := by
  cases hfield : m.auditField? with
  | none => decide
  | some f => exact (ParsedModel.auditField?_spec hfield).2

/-- A field is sent by the client or stamped, never both. -/
theorem nodup_createKeys (hflag : m.IsFlagged) (hdistinct : m.declaredNames.Nodup) :
    (ofModel model m targetId? protectedNames).createKeys.Nodup := by
  have hdto : (ofModel model m targetId? protectedNames).dtoKeys.Nodup := by
    have hsub : ((clientFields m).map (·.name)).Sublist m.fieldNames := List.filter_sublist.map _
    have hnames := (List.nodup_append.1 hdistinct).1.sublist hsub
    simpa [dtoKeys, ofModel, FieldView.ofField, Function.comp_def] using hnames
  have hone : (assignedKey? (auditAssignmentOf m)).toList.Nodup := by
    cases assignedKey? (auditAssignmentOf m) <;> simp
  refine List.nodup_append.2 ⟨hdto, hone, ?_⟩
  rintro sent hsent stamped hstamped rfl
  rw [Option.mem_toList] at hstamped
  have hkey := assignedKey?_auditAssignmentOf m
  rw [show assignedKey? (auditAssignmentOf m) = some sent from hstamped] at hkey
  split at hkey
  · obtain rfl := Option.some_inj.1 hkey
    have hclient := ((mem_dtoKeys hflag).1 hsent).2.2
    rw [isAuditName_stamped] at hclient
    contradiction
  · contradiction

theorem declared_of_mem_dtoKeys (hflag : m.IsFlagged)
    (h : key ∈ (ofModel model m targetId? protectedNames).dtoKeys) : key ∈ m.declaredNames :=
  List.mem_append_left _ ((mem_dtoKeys hflag).1 h).1

/-- Every key is declared, unless the creator is recorded by a relation `createdById` alone. -/
theorem createKeys_declared_iff (hflag : m.IsFlagged) (hdistinct : m.declaredNames.Nodup) :
    (∀ key ∈ (ofModel model m targetId? protectedNames).createKeys, key ∈ m.declaredNames) ↔
      ("createdById" ∈ m.relationNames → "createdBy" ∈ m.declaredNames) := by
  constructor
  · intro hall hrelation
    have hset : m.hasCreatedBy = true :=
      hflag.2 ⟨_, List.mem_append_right _ hrelation, by decide⟩
    have hdeclared := hall _ (mem_createKeys.2 (.inr ⟨hset, rfl⟩))
    cases hfield : m.auditField? with
    | none => rwa [hfield] at hdeclared
    | some f =>
      obtain ⟨hmem, haudit⟩ := ParsedModel.auditField?_spec hfield
      rcases ParsedModel.eq_of_isAuditName haudit with hname | hname
      · exact hname ▸ List.mem_append_left _ hmem
      · -- no name is declared both as a field and as a relation
        exact absurd rfl ((List.nodup_append.1 hdistinct).2.2 _ (hname ▸ hmem) _ hrelation)
  · intro hrelation key hkey
    rcases mem_createKeys.1 hkey with hsent | ⟨hset, rfl⟩
    · exact declared_of_mem_dtoKeys hflag hsent
    · cases hfield : m.auditField? with
      | some f => exact List.mem_append_left _ (ParsedModel.auditField?_spec hfield).1
      | none =>
        obtain ⟨name, hname, haudit⟩ := hflag.1 hset
        rcases ParsedModel.eq_of_isAuditName haudit with rfl | rfl
        · exact hname
        · rcases List.mem_append.1 hname with hmem | hmem
          · have hother := ParsedModel.auditField?_eq_none hfield hmem
            rw [haudit] at hother
            contradiction
          · exact hrelation hmem

/-- Every field that the database does not fill in has its key, unless there are two scalar audit
fields: only the first of them is stamped. -/
theorem fields_covered_iff (hflag : m.IsFlagged) :
    (∀ name ∈ m.fieldNames, name ∉ managedNames →
      name ∈ (ofModel model m targetId? protectedNames).createKeys) ↔
        ¬ ("createdBy" ∈ m.fieldNames ∧ "createdById" ∈ m.fieldNames) := by
  have hcovered : ∀ name ∈ m.fieldNames, isAuditName name = true →
      (name ∈ (ofModel model m targetId? protectedNames).createKeys ↔
        (m.auditField?.map (·.name)).getD "createdBy" = name) := by
    intro name hname haudit
    have hset : m.hasCreatedBy = true := hflag.2 ⟨name, List.mem_append_left _ hname, haudit⟩
    rw [mem_createKeys, mem_dtoKeys hflag]
    simp [haudit, hset]
  constructor
  · rintro hall ⟨hshort, hlong⟩
    have hfirst := (hcovered _ hshort (by decide)).1 (hall _ hshort (by decide))
    have hsecond := (hcovered _ hlong (by decide)).1 (hall _ hlong (by decide))
    exact absurd (hfirst.symm.trans hsecond) (by decide)
  · intro hone name hname hmanaged
    cases haudit : isAuditName name with
    | false => exact mem_createKeys.2 (.inl ((mem_dtoKeys hflag).2 ⟨hname, hmanaged, haudit⟩))
    | true =>
      refine (hcovered name hname haudit).2 ?_
      cases hfield : m.auditField? with
      | none =>
        rw [ParsedModel.auditField?_eq_none hfield hname] at haudit
        contradiction
      | some f =>
        obtain ⟨hmem, hstamped⟩ := ParsedModel.auditField?_spec hfield
        rw [Option.map_some, Option.getD_some]
        rcases ParsedModel.eq_of_isAuditName haudit with rfl | rfl <;>
          rcases ParsedModel.eq_of_isAuditName hstamped with hother | hother
        · exact hother
        · exact absurd ⟨hname, hother ▸ hmem⟩ hone
        · exact absurd ⟨hother ▸ hmem, hname⟩ hone
        · exact hother

end

/-- The data of the create call, for any model that declares no name twice. No key occurs twice. Every
key is declared, exactly unless a relation `createdById` stands without a declared `createdBy`; every
scalar field that the database does not fill in has its key, exactly unless there are the scalar fields
`createdBy` and `createdById` both. -/
theorem create_data_iff {source model : String} {m : ParsedModel}
    (hparse : Schema.parseModel? source model = some m) (hdistinct : m.declaredNames.Nodup)
    (targetId? : Option TargetType) (protectedNames : List String) :
    let r := ofModel model m targetId? protectedNames
    r.createKeys.Nodup ∧
      ((∀ key ∈ r.createKeys, key ∈ m.declaredNames) ↔
        ("createdById" ∈ m.relationNames → "createdBy" ∈ m.declaredNames)) ∧
      ((∀ name ∈ m.fieldNames, name ∉ managedNames → name ∈ r.createKeys) ↔
        ¬ ("createdBy" ∈ m.fieldNames ∧ "createdById" ∈ m.fieldNames)) := by
  have hflag := ParsedModel.isFlagged_of_parseModel? hparse
  exact ⟨nodup_createKeys hflag hdistinct, createKeys_declared_iff hflag hdistinct,
    fields_covered_iff hflag⟩

/-- Of two scalar audit fields the second has no key. -/
theorem create_data_second_audit_field :
    ∃ m, Schema.parseModel? "model Doc \x7b\ncreatedBy Int\ncreatedById Int\n\x7d" "Doc" = some m ∧
      m.fieldNames = ["createdBy", "createdById"] ∧
      ¬ ∀ name ∈ m.fieldNames, name ∉ managedNames →
        name ∈ (ofModel "Doc" m none []).createKeys := by
  have hparse : Schema.parseModel? "model Doc \x7b\ncreatedBy Int\ncreatedById Int\n\x7d" "Doc" =
      some (.ofDecls [⟨"createdBy", "Int", false, false⟩, ⟨"createdById", "Int", false, false⟩]) := by
    decide +kernel
  obtain ⟨-, -, hcovered⟩ := create_data_iff hparse (by decide) none []
  refine ⟨_, hparse, rfl, fun hall => hcovered.1 hall (by decide)⟩

/-- The creator is connected through `createdBy`, which the model does not declare. -/
theorem create_data_undeclared_key :
    ¬ ∀ (source model : String) (m : ParsedModel), Schema.parseModel? source model = some m →
      m.declaredNames.Nodup → ∀ key ∈ (ofModel model m none []).createKeys, key ∈ m.declaredNames := by
  intro hall
  have hparse : Schema.parseModel? "model Doc \x7b\n  id Int\n  createdById User\n\x7d" "Doc" =
      some (.ofDecls [⟨"id", "Int", false, false⟩, ⟨"createdById", "User", false, false⟩]) := by
    decide +kernel
  exact absurd (hall _ _ _ hparse (by decide) "createdBy" (by decide)) (by decide)

end Resource

end Scaffold
