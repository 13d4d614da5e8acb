import Scaffold.Generate
import Scaffold.Proofs.Naming
import Scaffold.Proofs.Resource.CreateData
import Scaffold.Proofs.TypeScript.Imports

/-! The texts that a resource is made of. A name from the schema holds no white space, and neither
changing the case of a letter nor escaping a quote makes a line feed; so each text stays on its line. -/

namespace Scaffold
open Text TypeScript

/-! ## Names of a model -/

namespace Naming

theorem isNameChar_toUpper {c : Char} (h : Schema.isNameChar c = true) :
    Schema.isNameChar c.toUpper = true :=
  of_ascii (p := fun c => Schema.isNameChar c = true → Schema.isNameChar c.toUpper = true)
    (by decide +kernel) (isAscii_of_isNameChar h) h

theorem isNameChar_toLower {c : Char} (h : Schema.isNameChar c = true) :
    Schema.isNameChar c.toLower = true :=
  of_ascii (p := fun c => Schema.isNameChar c = true → Schema.isNameChar c.toLower = true)
    (by decide +kernel) (isAscii_of_isNameChar h) h

/-- An identifier whose first character is changed to one of a name is a name. -/
theorem isName_of_change {model name : String} (h : Schema.IsIdentifier model.toList)
    {change : Char → Char}
    (hchange : ∀ c, Schema.isNameChar c = true → Schema.isNameChar (change c) = true)
    (hname : ∀ first more, model.toList = first :: more → Schema.isNameChar first = true →
      name.toList = change first :: more) : IsName name := by
  have hchars := Schema.isNameChar_of_mem h
  obtain ⟨first, more, heq, -⟩ := h
  rw [heq] at hchars
  obtain ⟨hfirst, hmore⟩ := List.forall_mem_cons.1 hchars
  have hlist := hname first more heq hfirst
  refine ⟨fun hempty => ?_, ?_⟩
  · rw [hempty] at hlist
    cases hlist
  · rw [hlist]
    exact List.forall_mem_cons.2 ⟨hchange first hfirst, hmore⟩

theorem isName_className {model : String} (h : Schema.IsIdentifier model.toList) :
    IsName (className model) := by
  refine isName_of_change h (fun _ => isNameChar_toUpper) fun first more heq hfirst => ?_
  unfold className
  rw [String.toList_ofList, heq, capitalize, toUpper_of_ascii (isAscii_of_isNameChar hfirst)]
  rfl

theorem isName_propertyName {model : String} (h : Schema.IsIdentifier model.toList) :
    IsName (propertyName model) := by
  refine isName_of_change h (fun _ => isNameChar_toLower) fun first more heq hfirst => ?_
  unfold propertyName
  rw [String.toList_ofList, heq, uncapitalize, toLower_of_isNameChar hfirst]
  rfl

theorem IsFolderName.quotable {folder : String} (h : IsFolderName folder) : Quotable folder :=
  fun c hc =>
    ⟨ne_of_isFolderChar (h.chars c hc) (by decide), ne_of_isFolderChar (h.chars c hc) (by decide)⟩

end Naming

/-! ## Texts of a field -/

theorem TargetType.isName_name (t : TargetType) : IsName t.name := by cases t <;> decide

theorem TargetType.flat_render (t : TargetType) (isArray : Bool) : Flat (t.render isArray) := by
  unfold TargetType.render
  split
  · exact t.isName_name.flat.append (by decide)
  · exact t.isName_name.flat

theorem flat_literal {message : String} (h : Flat message) : Flat (Validator.literal message) := by
  have hescaped : Flat (String.ofList (Validator.escapeQuotes message.toList)) := by
    unfold Flat Validator.escapeQuotes
    rw [String.toList_ofList]
    intro hmem
    obtain ⟨c, hc, hin⟩ := List.mem_flatMap.1 hmem
    split at hin
    · exact absurd hin (by decide)
    · exact h (List.mem_singleton.1 hin ▸ hc)
  exact ((by decide : Flat "'").append hescaped).append (by decide)

theorem flat_decorator {v : Validator} (h : Flat v.message) : Flat v.decorator := by
  have hoptions : Flat ("\x7b message: " ++ Validator.literal v.message ++ " \x7d") :=
    ((by decide : Flat "\x7b message: ").append (flat_literal h)).append (by decide)
  have hname : Flat v.kind.name := by cases v.kind <;> decide
  unfold Validator.decorator
  refine ((((by decide : Flat "@").append hname).append (by decide)).append ?_).append (by decide)
  split
  · decide
  · exact (by decide : Flat "\x7b\x7d, ").append hoptions
  · exact (by decide : Flat "\x7b\x7d, ").append hoptions
  · exact hoptions

theorem flat_fieldLabel {name : String} (h : Flat name) : Flat (Schema.fieldLabel name) := by
  unfold Flat Schema.fieldLabel
  rw [String.toList_ofList]
  exact not_mem_capitalize isUnreached_newline h

/-- What messages say of a field. -/
def demands : List String :=
  [" is optional.", " must be a string.", " must be a valid email address.", " must be an integer.",
    " must be a float.", " must be true or false.", " must be a date.", " must be an object."]

theorem demand_mem (type name : String) : (Schema.typeRule type name).2.2 ∈ demands := by
  unfold Schema.typeRule
  split <;> try decide
  split <;> decide

theorem exists_demand {d : FieldDecl} {v : Validator} (hv : v ∈ (Field.ofDecl d).validators) :
    ∃ demand ∈ demands, v.message = Schema.fieldLabel d.name ++ demand := by
  rcases List.mem_append.1 hv with hv | hv
  · split at hv
    · obtain rfl := List.mem_singleton.1 hv
      exact ⟨_, List.mem_cons_self, rfl⟩
    · cases hv
  · obtain rfl := List.mem_singleton.1 hv
    exact ⟨_, demand_mem d.declaredType d.name, rfl⟩

theorem flat_validators {d : FieldDecl} (h : Flat d.name) :
    ∀ v ∈ (Field.ofDecl d).validators, Flat v.message := by
  intro v hv
  obtain ⟨demand, hdemand, heq⟩ := exists_demand hv
  rw [heq]
  exact (flat_fieldLabel h).append ((by decide : ∀ demand ∈ demands, Flat demand) demand hdemand)

/-- The texts of a field are of one line. -/
structure FieldView.IsFlat (f : FieldView) : Prop where
  name : Flat f.name
  tsType : Flat f.tsType
  decorators : ∀ d ∈ f.decorators, Flat d

theorem isFlat_ofField {d : FieldDecl} (h : Flat d.name) : (FieldView.ofField (.ofDecl d)).IsFlat :=
  ⟨h, TargetType.flat_render _ _,
    List.forall_mem_map.2 fun v hv => flat_decorator (flat_validators h v hv)⟩

/-! ## Texts of a resource -/

namespace Resource

theorem mem_insertName {n name : String} {names : List String} :
    n ∈ insertName name names ↔ n = name ∨ n ∈ names := by
  induction names with
  | nil => exact List.mem_cons
  | cons m names ih =>
    unfold insertName
    split
    · exact List.mem_cons
    · split
      · rename_i heq
        rw [heq, List.mem_cons, ← or_assoc, or_self]
      · rw [List.mem_cons, ih, List.mem_cons, or_left_comm]

theorem mem_sortedNames {n : String} {names : List String} : n ∈ sortedNames names ↔ n ∈ names := by
  induction names with
  | nil => exact Iff.rfl
  | cons name names ih =>
    rw [List.mem_cons, ← ih]
    exact mem_insertName

theorem isName_importedValidators (m : ParsedModel) : ∀ n ∈ importedValidators m, IsName n := by
  intro n hn
  obtain ⟨f, -, hf⟩ := List.mem_flatMap.1 (mem_sortedNames.1 hn)
  obtain ⟨v, -, rfl⟩ := List.mem_map.1 hf
  cases v.kind <;> decide

theorem flat_auditAssignmentOf (m : ParsedModel) : Flat (auditAssignmentOf m) := by
  unfold auditAssignmentOf
  split
  · cases hfield : m.auditField? with
    | none => decide
    | some f =>
      rcases ParsedModel.eq_of_isAuditName (ParsedModel.auditField?_spec hfield).2 with hname | hname
      · exact Flat.append (hname ▸ by decide) (by decide)
      · exact Flat.append (hname ▸ by decide) (by decide)
  · decide

/-- The texts of a resource are of one line, and the names that other names are made of are words. -/
structure IsClean (r : Resource) : Prop where
  className : IsName r.className
  propertyName : IsName r.propertyName
  folder : Naming.IsFolderName r.folder
  fields : ∀ f ∈ r.fields, f.IsFlat
  dtoFields : ∀ f ∈ r.dtoFields, f.IsFlat
  validatorImports : ∀ name ∈ r.validatorImports, IsName name
  auditAssignment : Flat r.auditAssignment
  auditKeyType : IsName r.auditKeyType
  idType : IsName r.idType

theorem isFlat_of_mem_fields {source model : String} {m : ParsedModel}
    (hparse : Schema.parseModel? source model = some m) {f : Field} (hf : f ∈ m.fields) :
    (FieldView.ofField f).IsFlat := by
  obtain ⟨hprintable, hmapped⟩ := Schema.isPrintable_of_mem_fields hparse hf
  rw [hmapped.eq_ofDecl]
  exact isFlat_ofField fun hmem => absurd (hprintable.name.plain _ hmem).1 (by decide)

/-- A resource is clean whatever model of a schema it is made of. -/
theorem isClean_ofModel {source model : String} {m : ParsedModel}
    (hparse : Schema.parseModel? source model = some m) (targetId? : Option TargetType)
    (protectedNames : List String) : (ofModel model m targetId? protectedNames).IsClean := by
  obtain ⟨b, hb, rfl, -⟩ := Schema.exists_block_of_parseModel? hparse
  have hmodel := Schema.isIdentifier_of_mem_blocks hb
  have hfields : ∀ f ∈ m.fields, (FieldView.ofField f).IsFlat := fun f => isFlat_of_mem_fields hparse
  have hclient : ∀ f ∈ clientFields m, (FieldView.ofField f).IsFlat :=
    fun f hf => hfields f (List.mem_filter.1 hf).1
  exact {
    className := Naming.isName_className hmodel
    propertyName := Naming.isName_propertyName hmodel
    folder := Naming.isFolderName_kebab hmodel
    fields := List.forall_mem_map.2 hfields
    dtoFields := List.forall_mem_map.2 hclient
    validatorImports := isName_importedValidators m
    auditAssignment := flat_auditAssignmentOf m
    auditKeyType := TargetType.isName_name _
    idType := by
      show IsName (if _ then "number" else "string")
      split <;> decide }

end Resource

end Scaffold
