import Scaffold.Proofs.Resource.Classes
import Scaffold.Text.Alphanumeric

/-! The text of a create DTO: which lines it consists of, whatever the number of its fields and of their
decorators, and that a reader of lines finds in it what the DTO was made of. -/

namespace Scaffold
open Text TypeScript

/-- Letters, digits and `_`. -/
def IsWord (text : String) : Prop := ∀ c ∈ text.toList, isAlphanumeric c = true ∨ c = '_'

instance (text : String) : Decidable (IsWord text) :=
  decidable_of_iff (text.toList.all (fun c => isAlphanumeric c = true ∨ c = '_') = true) (by simp [IsWord])

theorem IsWord.ne {text : String} (h : IsWord text) {c d : Char} (hc : c ∈ text.toList)
    (hd : isAlphanumeric d = false ∧ d ≠ '_') : c ≠ d := by
  rintro rfl
  rcases h c hc with halphanumeric | heq
  · rw [hd.1] at halphanumeric
    cases halphanumeric
  · exact hd.2 heq

namespace Resource

/-! ## Lines -/

/-- The decorators of a property, one a line, and its declaration. -/
def dtoFieldLines (f : FieldView) : List String :=
  f.decorators.map ("  " ++ ·) ++
    ["  " ++ f.name ++ (if f.isOptional then "?" else "") ++ ": " ++ f.tsType ++ ";"]

/-- An import if there is anything to import, the class, and between its properties one empty line. -/
def createDtoLines (imports : List String) (className : String) (fields : List FieldView) : List String :=
  (if imports.isEmpty then []
    else ["import \x7b " ++ ", ".intercalate imports ++ " \x7d from 'class-validator';", ""]) ++
    ["export class Create" ++ className ++ "Dto \x7b"] ++
    [""].intercalate (fields.map dtoFieldLines) ++ ["\x7d"]

/-! ## Reading -/

def fieldOfMember? : Member → Option FieldView
  | .property p => some ⟨p.name, p.type, p.isOptional, p.decorators⟩
  | _ => none

/-- The names that the first line imports, if it is an import. -/
def readImports (lines : List String) : List String :=
  match lines.head?.bind (inside? "import" "'class-validator';") with
  | some clause => importedNames clause
  | none => []

/-- The imports of a create DTO, the class it is made for, and its fields. -/
def readCreateDto? (text : String) : Option (List String × String × List FieldView) := do
  let c ← exportedClass? text
  let className ← inside? "Create" "Dto" c.name
  let fields ← (c.members.getD []).mapM fieldOfMember?
  return (readImports (linesOf text), className, fields)

/-! ## The text of the file -/

theorem lines_property (f : FieldView) : (property f).lines.map indent = dtoFieldLines f := by
  have hline : indent (property f).line =
      "  " ++ f.name ++ (if f.isOptional then "?" else "") ++ ": " ++ f.tsType ++ ";" := by
    rw [← String.toList_inj]
    cases hoptional : f.isOptional <;> simp [indent, Property.line, property, hoptional]
  rw [Property.lines_eq, List.map_append, List.map_singleton, hline]
  rfl

theorem lines_createDto (r : Resource) :
    r.createDto.lines = createDtoLines r.validatorImports r.className r.dtoFields := by
  have hfields : (r.dtoFields.map fun f => Member.property (property f)).map (·.lines.map indent) =
      r.dtoFields.map dtoFieldLines := by
    rw [List.map_map]
    exact List.map_congr_left fun f _ => lines_property f
  have hclass : r.createDto.exported.lines = ["export class Create" ++ r.className ++ "Dto \x7b"] ++
      [""].intercalate (r.dtoFields.map dtoFieldLines) ++ ["\x7d"] := by
    have hheader : "export class " ++ ("Create" ++ r.className ++ "Dto") ++ "" ++ " \x7b" =
        "export class Create" ++ r.className ++ "Dto \x7b" := by
      rw [← String.toList_inj]
      simp
    rw [← hheader, ← hfields]
    rfl
  unfold SourceFile.lines createDtoLines
  rw [hclass]
  unfold createDto
  cases r.validatorImports with
  | nil => rfl
  | cons name names =>
    have himport : (plainImport (name :: names) "class-validator").lines =
        ["import \x7b " ++ ", ".intercalate (name :: names) ++ " \x7d from 'class-validator';"] := by
      have hline : "import " ++ braces (commas (name :: names)) ++ " from " ++ quote "class-validator" ++ ";" =
          "import \x7b " ++ ", ".intercalate (name :: names) ++ " \x7d from 'class-validator';" := by
        rw [← String.toList_inj]
        simp [braces, commas, quote]
      rw [← hline]
      rfl
    simp only [List.isEmpty_cons, Bool.false_eq_true, if_false, List.flatMap_singleton, himport]
    rfl

section
variable {r : Resource} (hclass : IsWord r.className) (hfields : ∀ f ∈ r.dtoFields, f.IsFlat)
  (hnames : ∀ f ∈ r.dtoFields, IsWord f.name) (himports : ∀ name ∈ r.validatorImports, IsName name)

include hclass hfields himports in
theorem isFlat_createDto : r.createDto.IsFlat := by
  have hname : Flat r.createDtoClass := by
    have hword : Flat r.className := fun hmem => hclass.ne hmem (by decide +kernel) rfl
    exact ((by decide : Flat "Create").append hword).append (by decide)
  refine ⟨?_, fun _ => nofun, ⟨fun _ => nofun, hname, fun _ => nofun, ?_⟩⟩
  · unfold createDto
    split
    · exact fun _ => nofun
    · exact List.forall_mem_singleton.2 ⟨fun name hname => (himports name hname).flat,
        (by decide : Flat "class-validator")⟩
  · rintro _ ⟨⟩
    exact List.forall_mem_map.2 fun f hf => .property (isFlat_property (hfields f hf))

include hclass hnames in
theorem isReadable_createDto : r.createDto.exported.IsReadable := by
  have hname : ' ' ∉ r.createDtoClass.toList := by
    have hword : ' ' ∉ r.className.toList := fun hmem => hclass.ne hmem (by decide +kernel) rfl
    simpa [createDtoClass] using hword
  refine ⟨fun _ => nofun, hname, rfl, _, rfl, List.forall_mem_map.2 fun f hf => .property ⟨fun c hc => ?_⟩⟩
  exact ⟨(hnames f hf).ne hc (by decide +kernel), (hnames f hf).ne hc (by decide +kernel)⟩

include himports in
theorem readImports_createDtoLines :
    readImports (createDtoLines r.validatorImports r.className r.dtoFields) = r.validatorImports := by
  unfold readImports createDtoLines
  cases hlist : r.validatorImports with
  | nil =>
    have hnone : inside? "import" "'class-validator';" ("export class Create" ++ r.className ++ "Dto \x7b") =
        none := by
      refine inside?_eq_none fun inner heq => ?_
      have hhead := congrArg (fun line => line.toList.head?) heq
      simp at hhead
    simp [hnone]
  | cons name names =>
    have hclause : inside? "import" "'class-validator';"
        ("import \x7b " ++ ", ".intercalate (name :: names) ++ " \x7d from 'class-validator';") =
          some (plainImport (name :: names) "class-validator").clause := by
      rw [inside?_eq_some_iff, ← String.toList_inj]
      simp [Import.clause, plainImport, braces, commas]
    have hread : importedNames (plainImport (name :: names) "class-validator").clause = name :: names :=
      importedNames_clause rfl (List.cons_ne_nil _ _) (hlist ▸ himports)
    simp [hclause, hread]

end

/-- The text of a create DTO, for a model of a schema under any name of letters, digits and `_`: its
lines, and that its imports, its class and its fields are read back from them. -/
theorem create_dto_reads_back {source parsed model : String} {m : ParsedModel}
    (hparse : Schema.parseModel? source parsed = some m) (hclass : IsWord (Naming.className model))
    (hnames : ∀ f ∈ m.fields, IsWord f.name) (targetId? : Option TargetType)
    (protectedNames : List String) :
    let r := ofModel model m targetId? protectedNames
    linesOf (Artifact.createDto.text r) = createDtoLines r.validatorImports r.className r.dtoFields ∧
      readCreateDto? (Artifact.createDto.text r) = some (r.validatorImports, r.className, r.dtoFields) := by
  intro r
  have hclient : ∀ f ∈ clientFields m, f ∈ m.fields := fun f hf => (List.mem_filter.1 hf).1
  have hfields : ∀ f ∈ r.dtoFields, f.IsFlat :=
    List.forall_mem_map.2 fun f hf => isFlat_of_mem_fields hparse (hclient f hf)
  have hwords : ∀ f ∈ r.dtoFields, IsWord f.name :=
    List.forall_mem_map.2 fun f hf => hnames f (hclient f hf)
  have himports : ∀ name ∈ r.validatorImports, IsName name := isName_importedValidators m
  have hflat : r.createDto.IsFlat := isFlat_createDto hclass hfields himports
  have hlines : linesOf (Artifact.createDto.text r) =
      createDtoLines r.validatorImports r.className r.dtoFields :=
    (SourceFile.linesOf_print hflat).trans (lines_createDto r)
  refine ⟨hlines, ?_⟩
  have hexported : exportedClass? (Artifact.createDto.text r) = some r.createDto.exported :=
    SourceFile.exportedClass?_print hflat (isReadable_createDto hclass hwords)
  have hname : inside? "Create" "Dto" r.createDtoClass = some r.className := inside?_eq_some_iff.2 rfl
  have hmembers : (r.dtoFields.map fun f => Member.property (property f)).mapM fieldOfMember? =
      some r.dtoFields := mapM_map_eq_some fun _ _ => rfl
  unfold readCreateDto?
  rw [hexported, hlines, readImports_createDtoLines himports]
  simp only [Option.bind_eq_bind, Option.bind_some]
  have hclassName : r.createDto.exported.name = r.createDtoClass := rfl
  have hlist : r.createDto.exported.members.getD [] = r.dtoFields.map fun f => Member.property (property f) := rfl
  rw [hclassName, hname, hlist, hmembers]
  rfl

/-- Letters beyond ASCII, an optional field, a list, and a field that clients do not set. -/
theorem create_dto_reads_back_item :
    ∃ m, Schema.parseModel? "model item \x7b\n  id Int\n  größe Float?\n  e_mail_2 String[]\n\x7d" "item" =
        some m ∧ IsWord (Naming.className "item") ∧ (∀ f ∈ m.fields, IsWord f.name) ∧
      readCreateDto? (Artifact.createDto.text (ofModel "item" m none [])) =
        some (["IsNumber", "IsOptional", "IsString"], "Item",
          [⟨"größe", "number", true,
              ["@IsOptional()", "@IsNumber(\x7b\x7d, \x7b message: 'Größe must be a float.' \x7d)"]⟩,
            ⟨"e_mail_2", "string[]", false, ["@IsString(\x7b message: 'E_mail_2 must be a string.' \x7d)"]⟩]) := by
  have hparse : Schema.parseModel? "model item \x7b\n  id Int\n  größe Float?\n  e_mail_2 String[]\n\x7d"
      "item" = some (.ofDecls [⟨"id", "Int", false, false⟩, ⟨"größe", "Float", true, false⟩,
        ⟨"e_mail_2", "String", false, true⟩]) := by
    decide +kernel
  have hclass : IsWord (Naming.className "item") := by decide +kernel
  have hnames : ∀ f ∈ (ParsedModel.ofDecls [⟨"id", "Int", false, false⟩, ⟨"größe", "Float", true, false⟩,
      ⟨"e_mail_2", "String", false, true⟩]).fields, IsWord f.name := by decide +kernel
  refine ⟨_, hparse, hclass, hnames, ?_⟩
  rw [(create_dto_reads_back hparse hclass hnames none []).2]
  decide +kernel

end Resource

end Scaffold
