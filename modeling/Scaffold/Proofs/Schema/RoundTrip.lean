import Scaffold.Proofs.Schema.Trailing

/-! Printing and parsing. The fields of a model printed one a line are read back as they are, and
whatever is read can be printed: a field's name cannot hold what ends a name, a declaration or a block,
because each of these was cut away before the name was read. -/

namespace Scaffold

namespace Field

/-- The declaration that the field goes back to. -/
def decl (f : Field) : FieldDecl := ⟨f.name, f.declaredType, f.isOptional, f.isArray⟩

/-- The field has the target type and the checks that its declared type maps to. -/
def IsMapped (f : Field) : Prop :=
  let mapped := Schema.mapFieldType f.declaredType f.isOptional f.isArray f.name
  f.target = mapped.target ∧ f.validators = mapped.validators

theorem IsMapped.eq_ofDecl {f : Field} (h : f.IsMapped) : f = .ofDecl f.decl := by
  obtain ⟨htarget, hvalidators⟩ := h
  cases f
  simp only [ofDecl, decl, mk.injEq, true_and]
  exact ⟨htarget, hvalidators⟩

theorem isMapped_ofDecl (d : FieldDecl) : (ofDecl d).IsMapped := ⟨rfl, rfl⟩

theorem map_decl_ofDecl (ds : List FieldDecl) : (ds.map ofDecl).map decl = ds := by
  rw [List.map_map]
  exact List.map_id ds

theorem eq_map_ofDecl {fields : List Field} (h : ∀ f ∈ fields, f.IsMapped) :
    fields = (fields.map decl).map ofDecl := by
  rw [List.map_map]
  exact (List.map_id fields).symm.trans (List.map_congr_left fun f hf => (h f hf).eq_ofDecl)

end Field

namespace Schema
open Text

/-- The type of a field with its marks. -/
def typeToken (d : FieldDecl) : String :=
  d.declaredType ++ (if d.isArray then "[]" else "") ++ (if d.isOptional then "?" else "")

def printField (d : FieldDecl) : String := d.name ++ " " ++ typeToken d

/-- A block with a field on each of its lines. -/
def printModel (name : String) (ds : List FieldDecl) : String :=
  "model " ++ name ++ " \x7b\n" ++ String.join (ds.map fun d => printField d ++ "\n") ++ "\x7d"

/-- A scalar field whose name is one token and no directive. -/
structure IsPrintable (d : FieldDecl) : Prop where
  name : IsToken d.name.toList
  undirected : ¬ ['@', '@'] <+: d.name.toList
  scalar : d.declaredType ∈ scalarTypes

/-! ## Printed fields are read back -/

/-- The marks of a type token are looked for behind the type. -/
theorem fieldOfTokens_append {type : List Char} (hoption : '?' ∉ type) (harray : '[' ∉ type)
    (name marks : List Char) :
    fieldOfTokens name (type ++ marks) =
      { name := String.ofList name
        declaredType := String.ofList (type ++ removeFirst ['[', ']'] (removeFirst ['?'] marks))
        isOptional := marks.getLast? == some '?'
        isArray := occursIn ['[', ']'] marks } := by
  have hlast : type.getLast? ≠ some '?' := fun h => hoption (List.mem_of_getLast? h)
  unfold fieldOfTokens
  rw [removeFirst_append hoption, removeFirst_append harray, occursIn_append harray,
    List.getLast?_append]
  congr 1
  cases marks.getLast? with
  | none => simpa using hlast
  | some c => rfl

/-- The marks behind a type without marks are told and taken away again. -/
theorem fieldOfTokens_marks {type : List Char} (hoption : '?' ∉ type) (harray : '[' ∉ type)
    (name : List Char) (isArray isOptional : Bool) :
    fieldOfTokens name (type ++ ((if isArray then ['[', ']'] else []) ++
        if isOptional then ['?'] else [])) =
      ⟨String.ofList name, String.ofList type, isOptional, isArray⟩ := by
  rw [fieldOfTokens_append hoption harray]
  cases isArray <;> cases isOptional <;> simp [removeFirst, occursIn, List.isPrefixOf]

theorem isToken_of_isNameChar {w : List Char} (hne : w ≠ [])
    (hw : ∀ c ∈ w, isNameChar c = true) : IsToken w := by
  refine ⟨hne, fun c hc => ⟨not_blank_of_isNameChar (hw c hc), ne_brace_of_isNameChar (hw c hc), ?_⟩,
    fun hslash => ?_⟩
  · rintro rfl
    exact absurd (hw _ hc) (by decide)
  · exact absurd (hw '/' (hslash.subset (by decide))) (by decide)

theorem isNameChar_of_scalar {type : String} (h : type ∈ scalarTypes) :
    type.toList ≠ [] ∧ ∀ c ∈ type.toList, isNameChar c = true := by
  have hall : ∀ t ∈ scalarTypes, t.toList ≠ [] ∧ t.toList.all isNameChar = true := by decide
  exact ⟨(hall type h).1, List.all_eq_true.1 (hall type h).2⟩

theorem isToken_marks {type : List Char} (h : IsToken type) (hslash : '/' ∉ type)
    (isArray isOptional : Bool) :
    IsToken (type ++ ((if isArray then ['[', ']'] else []) ++
      if isOptional then ['?'] else [])) := by
  refine ⟨by simp [h.nonempty], fun c hc => ?_, fun hcomment => ?_⟩
  · rcases List.mem_append.1 hc with hc | hc
    · exact h.plain c hc
    · cases isArray <;> cases isOptional <;> simp at hc <;> rcases hc with rfl | rfl | rfl <;>
        simp [isBlank]
  · have hmem := hcomment.subset (a := '/') (by decide)
    cases isArray <;> cases isOptional <;> simp [hslash] at hmem

theorem toList_printField (d : FieldDecl) :
    (printField d).toList = d.name.toList ++ ' ' :: (d.declaredType.toList ++
      ((if d.isArray then ['[', ']'] else []) ++ if d.isOptional then ['?'] else []) ++ []) := by
  unfold printField typeToken
  cases d.isArray <;> cases d.isOptional <;> simp

section
variable {d : FieldDecl} (h : IsPrintable d)
include h

theorem IsPrintable.isToken_type : IsToken (d.declaredType.toList ++
    ((if d.isArray then ['[', ']'] else []) ++ if d.isOptional then ['?'] else [])) := by
  obtain ⟨hne, hchars⟩ := isNameChar_of_scalar h.scalar
  refine isToken_marks (isToken_of_isNameChar hne hchars) (fun hslash => ?_) _ _
  exact absurd (hchars _ hslash) (by decide)

theorem IsPrintable.fieldOfWords? : fieldOfWords? [d.name.toList, d.declaredType.toList ++
    ((if d.isArray then ['[', ']'] else []) ++ if d.isOptional then ['?'] else [])] = some d := by
  obtain ⟨-, hchars⟩ := isNameChar_of_scalar h.scalar
  have hoption : '?' ∉ d.declaredType.toList := fun hc => absurd (hchars _ hc) (by decide)
  have harray : '[' ∉ d.declaredType.toList := fun hc => absurd (hchars _ hc) (by decide)
  have hdirective : ['@', '@'].isPrefixOf d.name.toList = false := by
    rw [← Bool.not_eq_true, List.isPrefixOf_iff_prefix]
    exact h.undirected
  rw [Schema.fieldOfWords?, hdirective, if_neg Bool.false_ne_true, fieldOfTokens_marks hoption harray,
    String.ofList_toList, String.ofList_toList]

theorem IsPrintable.not_mem_line {c : Char} (hc : c = '\n' ∨ c = '}' ∨ c = ';') :
    c ∉ (printField d).toList := by
  rw [toList_printField]
  exact Schema.not_mem_line h.name h.isToken_type hc (by simp)

/-- A printed line gives its field and leaves the lines behind it alone. -/
theorem IsPrintable.fieldsOf_line (rest : List Char) :
    fieldsOf ((printField d).toList ++ '\n' :: rest) = d :: fieldsOf rest := by
  rw [fieldsOf_append_newline, Schema.fieldsOf_line (h.not_mem_line (.inl rfl)), toList_printField,
    fieldsOfLine_trailing h.name h.isToken_type (.inl rfl) (by simp), h.fieldOfWords?]
  rfl

end

section
variable {ds : List FieldDecl} (h : ∀ d ∈ ds, IsPrintable d)
include h

theorem fieldsOf_printed :
    fieldsOf (String.join (ds.map fun d => printField d ++ "\n")).toList = ds := by
  induction ds with
  | nil => exact fieldsOf_nil
  | cons d ds ih =>
    have hline : (String.join ((d :: ds).map fun d => printField d ++ "\n")).toList =
        (printField d).toList ++ '\n' ::
          (String.join (ds.map fun d => printField d ++ "\n")).toList := by
      simp [String.join_cons]
    rw [hline, (h d (by simp)).fieldsOf_line, ih fun d hd => h d (by simp [hd])]

theorem brace_not_mem_printed :
    '}' ∉ (String.join (ds.map fun d => printField d ++ "\n")).toList := by
  have hlines : ∀ d ∈ ds, '}' ∉ (printField d).toList :=
    fun d hd => (h d hd).not_mem_line (.inr (.inl rfl))
  simpa using hlines

theorem parseModel?_printModel {name : String} (hname : IsIdentifier name.toList) :
    parseModel? (printModel name ds) name = some (.ofDecls ds) := by
  have hbody : '}' ∉ '\n' :: (String.join (ds.map fun d => printField d ++ "\n")).toList := by
    rw [List.mem_cons, not_or]
    exact ⟨by decide, brace_not_mem_printed h⟩
  rw [parseModel?_of_block hname hbody [] (by simp [printModel]), fieldsOf_newline,
    fieldsOf_printed h]

theorem ofDecls_printable : ParsedModel.ofDecls ds =
    { fields := ds.map Field.ofDecl, relations := [], hasCreatedBy := ds.any (isAuditName ·.name) } := by
  have hscalar : ∀ d ∈ ds, isScalar d.declaredType = true :=
    fun d hd => List.contains_iff_mem.2 (h d hd).scalar
  unfold ParsedModel.ofDecls
  rw [List.filter_eq_self.2 hscalar, List.filter_eq_nil_iff.2 fun d hd => by simp [hscalar d hd]]
  rfl

end

/-! ## What is read can be printed -/

theorem of_mem_declarationsOfLine {line d : List Char} (h : d ∈ declarationsOfLine line) :
    d ⊆ line ∧ ';' ∉ beforeComment d := by
  unfold declarationsOfLine at h
  dsimp only at h
  split at h
  · obtain ⟨hwithin, hsemi⟩ := of_mem_splitOn h
    refine ⟨fun c hc => mem_of_mem_beforeComment (hwithin.subset hc), fun hc => ?_⟩
    exact hsemi (mem_of_mem_beforeComment hc)
  · rename_i hsemi
    obtain rfl := List.mem_singleton.1 h
    exact ⟨List.Subset.refl d, fun hc => hsemi (List.contains_iff_mem.2 hc)⟩

/-- The name of a field that was read is one token and no directive. -/
theorem isToken_of_mem_fieldsOf {body : List Char} (hbrace : '}' ∉ body) {d : FieldDecl}
    (h : d ∈ fieldsOf body) : IsToken d.name.toList ∧ ¬ ['@', '@'] <+: d.name.toList := by
  obtain ⟨declaration, hmem, hfield⟩ := List.mem_filterMap.1 h
  obtain ⟨line, hline, hdeclaration⟩ := List.mem_flatMap.1 hmem
  obtain ⟨hsubset, hsemi⟩ := of_mem_declarationsOfLine hdeclaration
  rw [classify_field?] at hfield
  match hwords : words (beforeComment declaration) with
  | [] | [_] =>
    rw [hwords] at hfield
    contradiction
  | name :: type :: rest =>
    rw [hwords, fieldOfWords?] at hfield
    split at hfield
    · contradiction
    · rename_i hdirective
      obtain rfl := Option.some_inj.1 hfield
      obtain ⟨hne, hwithin, hblank⟩ := of_mem_words (hwords ▸ List.mem_cons_self)
      have hbody : name ⊆ body := fun c hc => subset_of_mem_lines hline
        (hsubset (mem_of_mem_beforeComment (hwithin.subset hc)))
      rw [fieldOfTokens, String.toList_ofList]
      refine ⟨⟨hne, fun c hc => ⟨hblank c hc, ?_, ?_⟩, fun hslash => ?_⟩, fun hstart => ?_⟩
      · rintro rfl
        exact hbrace (hbody hc)
      · rintro rfl
        exact hsemi (hwithin.subset hc)
      · exact not_infix_beforeComment declaration (hslash.trans hwithin)
      · exact hdirective (List.isPrefixOf_iff_prefix.2 hstart)

theorem brace_not_mem_body {source : String} {b : ModelBlock} (h : b ∈ blocks source) :
    '}' ∉ b.body.toList := by
  obtain ⟨spans, hscan, heq⟩ := (blocks_eq_iff source (blocks source)).1 rfl
  rw [heq] at h
  obtain ⟨s, hs, rfl⟩ := List.mem_map.1 h
  rw [Span.block, String.toList_ofList]
  exact (hscan.fits s hs).body

theorem exists_block_of_parseModel? {source name : String} {m : ParsedModel}
    (h : parseModel? source name = some m) :
    ∃ b ∈ blocks source, b.name = name ∧ m = .ofDecls (fieldsOf b.body.toList) := by
  obtain ⟨b, hfind, rfl⟩ := Option.map_eq_some_iff.1 h
  refine ⟨b, List.mem_of_find?_eq_some hfind, name_of_findBlock? hfind, ?_⟩
  rw [ModelBlock.parse, fieldDecls_eq]

/-- Every field that was read can be printed, and is what its declaration maps to. -/
theorem isPrintable_of_mem_fields {source name : String} {m : ParsedModel}
    (h : parseModel? source name = some m) {f : Field} (hf : f ∈ m.fields) :
    IsPrintable f.decl ∧ f.IsMapped := by
  obtain ⟨b, hb, -, rfl⟩ := exists_block_of_parseModel? h
  obtain ⟨d, hd, rfl⟩ := List.mem_map.1 hf
  obtain ⟨hmem, hscalar⟩ := List.mem_filter.1 hd
  obtain ⟨htoken, hdirective⟩ := isToken_of_mem_fieldsOf (brace_not_mem_body hb) hmem
  exact ⟨⟨htoken, hdirective, List.contains_iff_mem.1 hscalar⟩, Field.isMapped_ofDecl d⟩

/-- Parsing prints back: the fields of a printed model are read as they are, in order, each with what
its type maps to, and nothing else is read. And whatever model is read can be printed, and reading it
again gives the same fields. -/
theorem parse_print_parse :
    (∀ (name : String) (ds : List FieldDecl), IsIdentifier name.toList → (∀ d ∈ ds, IsPrintable d) →
      ∃ m, parseModel? (printModel name ds) name = some m ∧ m.fields.map Field.decl = ds ∧
        (∀ f ∈ m.fields, f.IsMapped) ∧ m.relations = [] ∧
          m.hasCreatedBy = ds.any (isAuditName ·.name)) ∧
    ∀ (source name : String) (m : ParsedModel), parseModel? source name = some m →
      IsIdentifier name.toList ∧ (∀ f ∈ m.fields, IsPrintable f.decl ∧ f.IsMapped) ∧
        ∃ again, parseModel? (printModel name (m.fields.map Field.decl)) name = some again ∧
          again.fields = m.fields ∧ again.relations = [] := by
  constructor
  · intro name ds hname hds
    refine ⟨_, parseModel?_printModel hds hname, ?_⟩
    rw [ofDecls_printable hds]
    refine ⟨Field.map_decl_ofDecl ds, fun f hf => ?_, rfl, rfl⟩
    obtain ⟨d, -, rfl⟩ := List.mem_map.1 hf
    exact Field.isMapped_ofDecl d
  · intro source name m hparse
    have hfields : ∀ f ∈ m.fields, IsPrintable f.decl ∧ f.IsMapped :=
      fun f hf => isPrintable_of_mem_fields hparse hf
    have hname : IsIdentifier name.toList := by
      obtain ⟨b, hb, rfl, -⟩ := exists_block_of_parseModel? hparse
      exact isIdentifier_of_mem_blocks hb
    have hdecls : ∀ d ∈ m.fields.map Field.decl, IsPrintable d := by
      intro d hd
      obtain ⟨f, hf, rfl⟩ := List.mem_map.1 hd
      exact (hfields f hf).1
    refine ⟨hname, hfields, _, parseModel?_printModel hdecls hname, ?_⟩
    rw [ofDecls_printable hdecls]
    exact ⟨(Field.eq_map_ofDecl fun f hf => (hfields f hf).2).symm, rfl⟩

/-- Fields whose names are tokens but no identifiers. -/
def oddDecls : List FieldDecl :=
  [⟨"a/\x7b", "Json", true, true⟩, ⟨"e-Mail@é", "String", false, false⟩]

def oddFields : List Field :=
  [⟨"a/\x7b", "Json", .any, true, true,
      [⟨.isOptional, "A/\x7b is optional."⟩, ⟨.isObject, "A/\x7b must be an object."⟩]⟩,
    ⟨"e-Mail@é", "String", .string, false, false, [⟨.isString, "E-Mail@é must be a string."⟩]⟩]

/-- Names may hold anything that ends no token, and show in the messages. -/
theorem parse_print_parse_odd_names :
    printModel "Doc" oddDecls = "model Doc \x7b\na/\x7b Json[]?\ne-Mail@é String\n\x7d" ∧
      (∃ m, parseModel? (printModel "Doc" oddDecls) "Doc" = some m ∧
        m.fields = oddFields ∧ m.relations = []) ∧
      ∃ again, parseModel? (printModel "Doc" (oddFields.map Field.decl)) "Doc" = some again ∧
        again.fields = oddFields := by
  have hprintable : ∀ d ∈ oddDecls, IsPrintable d := by
    intro d hd
    rcases List.mem_cons.1 hd with rfl | hd
    · exact ⟨⟨by decide, by simp [isBlank], by decide⟩, by decide, by decide⟩
    · obtain rfl := List.mem_singleton.1 hd
      exact ⟨⟨by decide, by simp [isBlank], by decide +kernel⟩, by decide +kernel, by decide⟩
  obtain ⟨m, hparse, hdecls, hmapped, hrelations, -⟩ :=
    parse_print_parse.1 "Doc" oddDecls isIdentifier_doc hprintable
  obtain ⟨-, -, again, hagain, hsame, -⟩ := parse_print_parse.2 _ _ _ hparse
  have hexplicit : oddDecls.map Field.ofDecl = oddFields := by decide +kernel
  have hfields : m.fields = oddFields := by rw [Field.eq_map_ofDecl hmapped, hdecls, hexplicit]
  rw [hfields] at hagain hsame
  exact ⟨by decide +kernel, ⟨m, hparse, hfields, hrelations⟩, again, hagain, hsame⟩

end Schema

end Scaffold
