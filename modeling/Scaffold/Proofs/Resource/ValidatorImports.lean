import Scaffold.Proofs.Resource.Texts
import Scaffold.Proofs.TypeScript.Signatures

/-! What the DTO of a resource imports. The names are those of the decorators on its properties, in the
order of their bytes and each once, whatever the model declares. -/

namespace Scaffold
open TypeScript

/-! ## Decorators as source text -/

/-- The name of a decorator, from its source text. -/
def decoratorName? (decorator : String) : Option String :=
  (cut? '(' decorator).bind fun (front, _) => inside? "@" "" front

theorem ValidatorKind.isName_name (k : ValidatorKind) : IsName k.name := by cases k <;> decide

theorem decoratorName?_decorator (v : Validator) : decoratorName? v.decorator = some v.kind.name := by
  obtain ⟨arguments, hdecorator⟩ : ∃ arguments,
      v.decorator = "@" ++ v.kind.name ++ "(" ++ arguments ++ ")" := ⟨_, rfl⟩
  have hsplit : v.decorator = "@" ++ v.kind.name ++ (String.singleton '(' ++ (arguments ++ ")")) := by
    rw [hdecorator, ← String.toList_inj]
    simp
  have hfront : '(' ∉ ("@" ++ v.kind.name).toList := by
    rw [String.toList_append, List.mem_append, not_or]
    exact ⟨by decide, fun hmem => v.kind.isName_name.ne hmem (by decide) rfl⟩
  unfold decoratorName?
  rw [hsplit, cut?_append hfront]
  exact inside?_eq_some_iff.2 String.append_empty.symm

namespace Resource

/-! ## Order -/

/-- The bytes of a text. -/
def bytes (text : String) : List UInt8 := text.toUTF8.data.toList

theorem pairwise_insertName {name : String} {names : List String} (h : names.Pairwise (· < ·)) :
    (insertName name names).Pairwise (· < ·) := by
  induction names with
  | nil => exact List.pairwise_singleton _ _
  | cons n names ih =>
    obtain ⟨hn, hnames⟩ := List.pairwise_cons.1 h
    unfold insertName
    split
    · rename_i hless
      exact List.pairwise_cons.2
        ⟨List.forall_mem_cons.2 ⟨hless, fun other hother => String.lt_trans hless (hn other hother)⟩, h⟩
    · split
      · exact h
      · rename_i hless hne
        have hless' : n < name :=
          Std.lt_of_le_of_ne (String.not_lt.1 hless) fun heq => hne heq.symm
        refine List.pairwise_cons.2 ⟨fun other hother => ?_, ih hnames⟩
        rcases mem_insertName.1 hother with rfl | hother
        · exact hless'
        · exact hn other hother

theorem pairwise_sortedNames (names : List String) : (sortedNames names).Pairwise (· < ·) := by
  induction names with
  | nil => exact .nil
  | cons name names ih => exact pairwise_insertName ih

theorem bytes_lt_of_lt :
    ∀ k ∈ ValidatorKind.all, ∀ l ∈ ValidatorKind.all, k.name < l.name → bytes k.name < bytes l.name := by
  decide +kernel

/-! ## Selection -/

/-- A field belongs to clients for its name alone, so fields of one name are kept or left together. -/
theorem filter_clientNames (m : ParsedModel) :
    m.fields.filter (((clientFields m).map (·.name)).contains ·.name) = clientFields m := by
  refine List.filter_congr fun f hf => ?_
  rw [Bool.eq_iff_iff, List.contains_iff_mem, List.mem_map]
  constructor
  · rintro ⟨g, hg, hname⟩
    have hclient := (List.mem_filter.1 hg).2
    unfold isClientField at hclient ⊢
    rwa [hname] at hclient
  · exact fun hclient => ⟨f, List.mem_filter.2 ⟨hf, hclient⟩, rfl⟩

theorem mem_importedValidators {m : ParsedModel} {name : String} :
    name ∈ importedValidators m ↔ ∃ f ∈ clientFields m, ∃ v ∈ f.validators, v.kind.name = name := by
  unfold importedValidators
  dsimp only
  rw [filter_clientNames, mem_sortedNames, List.mem_flatMap]
  simp only [List.mem_map]

theorem exists_kind_of_mem {m : ParsedModel} {name : String} (h : name ∈ importedValidators m) :
    ∃ k ∈ ValidatorKind.all, k.name = name := by
  obtain ⟨f, -, v, -, rfl⟩ := mem_importedValidators.1 h
  exact ⟨v.kind, by cases v.kind <;> decide, rfl⟩

/-- The imports of a DTO are the names of the decorators on its properties, in ascending order of their
bytes and so without duplicates. The model need not come from a schema. -/
theorem validator_imports_exact (model : String) (m : ParsedModel) (targetId? : Option TargetType)
    (protectedNames : List String) :
    let r := ofModel model m targetId? protectedNames
    r.validatorImports.Pairwise (fun a b => bytes a < bytes b) ∧ r.validatorImports.Nodup ∧
      ∀ name, name ∈ r.validatorImports ↔
        ∃ f ∈ r.dtoFields, ∃ d ∈ f.decorators, decoratorName? d = some name := by
  have hsorted : (importedValidators m).Pairwise (· < ·) := pairwise_sortedNames _
  refine ⟨?_, hsorted.imp String.ne_of_lt, fun name => ?_⟩
  · refine hsorted.imp_of_mem fun ha hb hless => ?_
    obtain ⟨k, hk, rfl⟩ := exists_kind_of_mem ha
    obtain ⟨l, hl, rfl⟩ := exists_kind_of_mem hb
    exact bytes_lt_of_lt k hk l hl hless
  · refine mem_importedValidators.trans ⟨?_, ?_⟩
    · rintro ⟨f, hf, v, hv, rfl⟩
      exact ⟨_, List.mem_map_of_mem hf, _, List.mem_map_of_mem hv, decoratorName?_decorator v⟩
    · rintro ⟨view, hview, decorator, hdecorator, hname⟩
      obtain ⟨f, hf, rfl⟩ := List.mem_map.1 hview
      obtain ⟨v, hv, rfl⟩ := List.mem_map.1 hdecorator
      rw [decoratorName?_decorator] at hname
      exact ⟨f, hf, v, hv, Option.some_inj.1 hname⟩

end Resource

end Scaffold
