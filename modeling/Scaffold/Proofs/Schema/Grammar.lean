import Scaffold.Proofs.Schema.RoundTrip

/-! A field line in the notation `<name> <type>[?][[]] [...]`. A `?` is looked for at the end of the type
token and `[]` anywhere in it; so of both marks, written in this order, the `?` is taken away unread. -/

namespace Scaffold.Schema
open Text

/-- A word that can name a field: neither a comment nor a directive begins in it. -/
structure IsFieldName (name : List Char) : Prop where
  nonempty : name ≠ []
  unbroken : ∀ c ∈ name, isBlank c = false
  uncommented : ¬ ['/', '/'] <:+: name
  undirected : ¬ ['@', '@'] <+: name

/-- A word that can name a type: without marks, and no comment can begin in it. -/
structure IsTypeName (type : List Char) : Prop where
  nonempty : type ≠ []
  unbroken : ∀ c ∈ type, isBlank c = false
  unslashed : '/' ∉ type
  unmarked : '?' ∉ type ∧ '[' ∉ type

theorem IsIdentifier.isTypeName {type : List Char} (h : IsIdentifier type) : IsTypeName type := by
  have hchars := isNameChar_of_mem h
  have hplain : ∀ {c : Char}, isNameChar c = false → c ∉ type := by
    intro c hc hmem
    rw [hchars c hmem] at hc
    contradiction
  obtain ⟨first, more, rfl, -⟩ := h
  exact ⟨List.cons_ne_nil _ _, fun c hc => not_blank_of_isNameChar (hchars c hc), hplain (by decide),
    hplain (by decide), hplain (by decide)⟩

/-- A type token ends here: with the line, before white space, or before a comment. -/
def EndsToken (rest : List Char) : Prop :=
  (∀ b ∈ rest.head?, isBlank b = true) ∨ ['/', '/'] <+: rest

/-- The marks of a type, in the order of the notation. -/
def marks (isOptional isArray : Bool) : List Char :=
  (if isOptional then ['?'] else []) ++ if isArray then ['[', ']'] else []

/-- A line in the notation, with white space before and behind its name. -/
def fieldLine (before name gap type : List Char) (isOptional isArray : Bool) (rest : List Char) :
    List Char :=
  before ++ (name ++ (gap ++ (type ++ marks isOptional isArray ++ rest)))

theorem slash_not_mem_marks (isOptional isArray : Bool) : '/' ∉ marks isOptional isArray := by
  cases isOptional <;> cases isArray <;> decide

theorem not_blank_of_mem_marks {isOptional isArray : Bool} :
    ∀ c ∈ marks isOptional isArray, isBlank c = false := by
  cases isOptional <;> cases isArray <;> simp [marks, isBlank]

/-! ## The words of the line -/

section
variable {before name gap token rest : List Char}

theorem words_beforeComment_type (hne : token ≠ []) (hblank : ∀ c ∈ token, isBlank c = false)
    (hslash : '/' ∉ token) (hrest : EndsToken rest) :
    ∃ more, words (beforeComment (token ++ rest)) = token :: more := by
  rcases hrest with hrest | ⟨comment, rfl⟩
  · have hcomment : ¬ ['/', '/'] <:+: token := fun h => hslash (h.subset List.mem_cons_self)
    exact ⟨_, words_beforeComment_word hne hblank hcomment hrest⟩
  · refine ⟨[], ?_⟩
    have hcut : beforeComment (token ++ (['/', '/'] ++ comment)) = token :=
      beforeComment_append_comment hslash comment
    rw [hcut, words_of_not_blank hne hblank]

/-- The first two words of a line, whatever white space stands around them, and whatever the line
goes on with. -/
theorem words_beforeComment_line (hbefore : ∀ c ∈ before, isBlank c = true) (hname : IsFieldName name)
    (hgap : gap ≠ []) (hgaps : ∀ c ∈ gap, isBlank c = true) (hne : token ≠ [])
    (hblank : ∀ c ∈ token, isBlank c = false) (hslash : '/' ∉ token) (hrest : EndsToken rest) :
    ∃ more, words (beforeComment (before ++ (name ++ (gap ++ (token ++ rest))))) =
      name :: token :: more := by
  obtain ⟨more, hmore⟩ := words_beforeComment_type hne hblank hslash hrest
  have hhead : ∀ b ∈ (gap ++ (token ++ rest)).head?, isBlank b = true := by
    obtain ⟨g, gaps, rfl⟩ := List.exists_cons_of_ne_nil hgap
    rintro _ ⟨⟩
    exact hgaps g List.mem_cons_self
  refine ⟨more, ?_⟩
  rw [words_beforeComment_blank_append hbefore,
    words_beforeComment_word hname.nonempty hname.unbroken hname.uncommented hhead,
    words_beforeComment_blank_append hgaps, hmore]

end

/-! ## The field of the line -/

theorem fieldOfTokens_notation {type : List Char} (hoption : '?' ∉ type) (harray : '[' ∉ type)
    (name : List Char) (isOptional isArray : Bool) :
    fieldOfTokens name (type ++ marks isOptional isArray) =
      ⟨String.ofList name, String.ofList type, isOptional && !isArray, isArray⟩ := by
  rw [fieldOfTokens_append hoption harray]
  cases isOptional <;> cases isArray <;> simp [marks, removeFirst, occursIn, List.isPrefixOf]

theorem classify_eq_field {declaration : List Char} {d : FieldDecl}
    (h : fieldOfWords? (words (beforeComment declaration)) = some d) :
    classify declaration = .field d := by
  rw [← classify_field?] at h
  cases hclass : classify declaration with
  | skip reason =>
    rw [hclass] at h
    cases h
  | field other =>
    rw [hclass] at h
    cases h
    rfl

/-- A line in the notation gives a field of its name and type, a list exactly if it has the mark of
lists. It is read as declared exactly unless it has both marks: then its `?` does not count. -/
theorem classify_notation_iff {before name gap type rest : List Char}
    (hbefore : ∀ c ∈ before, isBlank c = true) (hname : IsFieldName name) (hgap : gap ≠ [])
    (hgaps : ∀ c ∈ gap, isBlank c = true) (htype : IsTypeName type) (hrest : EndsToken rest)
    (isOptional isArray : Bool) :
    classify (fieldLine before name gap type isOptional isArray rest) =
        .field ⟨String.ofList name, String.ofList type, isOptional && !isArray, isArray⟩ ∧
      (classify (fieldLine before name gap type isOptional isArray rest) =
          .field ⟨String.ofList name, String.ofList type, isOptional, isArray⟩ ↔
        ¬ (isOptional = true ∧ isArray = true)) := by
  have hne : type ++ marks isOptional isArray ≠ [] := List.append_ne_nil_of_left_ne_nil htype.nonempty _
  have hblank : ∀ c ∈ type ++ marks isOptional isArray, isBlank c = false :=
    List.forall_mem_append.2 ⟨htype.unbroken, not_blank_of_mem_marks⟩
  have hslash : '/' ∉ type ++ marks isOptional isArray := by
    rw [List.mem_append, not_or]
    exact ⟨htype.unslashed, slash_not_mem_marks isOptional isArray⟩
  obtain ⟨more, hwords⟩ :=
    words_beforeComment_line hbefore hname hgap hgaps hne hblank hslash hrest
  have hdirective : ['@', '@'].isPrefixOf name = false := by
    rw [← Bool.not_eq_true, List.isPrefixOf_iff_prefix]
    exact hname.undirected
  have hfield : classify (fieldLine before name gap type isOptional isArray rest) =
      .field ⟨String.ofList name, String.ofList type, isOptional && !isArray, isArray⟩ := by
    refine classify_eq_field ?_
    unfold fieldLine
    rw [hwords, fieldOfWords?, hdirective, if_neg Bool.false_ne_true,
      fieldOfTokens_notation htype.unmarked.1 htype.unmarked.2]
  refine ⟨hfield, ?_⟩
  rw [hfield]
  cases isOptional <;> cases isArray <;> simp

/-- A name may hold slashes and at signs, and a comment may follow the marks at once. -/
theorem classify_notation_padded :
    IsFieldName "a/@@b".toList ∧ EndsToken "// [] ?".toList ∧
      classify (fieldLine "\t".toList "a/@@b".toList " \t".toList "Int".toList true false
        "// [] ?".toList) = .field ⟨"a/@@b", "Int", true, false⟩ := by
  have hname : IsFieldName "a/@@b".toList :=
    ⟨by decide, by simp [isBlank], by decide, by decide⟩
  have htype : IsIdentifier "Int".toList :=
    ⟨'I', ['n', 't'], rfl, by decide, List.all_eq_true.1 (by decide)⟩
  have hrest : EndsToken "// [] ?".toList := .inr (by decide)
  exact ⟨hname, hrest, ((classify_notation_iff (by simp [isBlank]) hname (by decide) (by simp [isBlank])
    htype.isTypeName hrest true false).2).2 (by decide)⟩

/-- An optional list, marked in the order of the notation, is read as a list that must be there. -/
theorem classify_notation_optional_list :
    classify "tags String?[]".toList = .field ⟨"tags", "String", false, true⟩ ∧
      ¬ ∀ (before name gap type rest : List Char), (∀ c ∈ before, isBlank c = true) →
        IsFieldName name → gap ≠ [] → (∀ c ∈ gap, isBlank c = true) → IsIdentifier type →
        EndsToken rest → ∀ isOptional isArray : Bool,
          classify (fieldLine before name gap type isOptional isArray rest) =
            .field ⟨String.ofList name, String.ofList type, isOptional, isArray⟩ := by
  have hread : classify "tags String?[]".toList = .field ⟨"tags", "String", false, true⟩ := by
    decide +kernel
  refine ⟨hread, fun hall => ?_⟩
  have hname : IsFieldName "tags".toList := ⟨by decide, by simp [isBlank], by decide, by decide⟩
  have htype : IsIdentifier "String".toList :=
    ⟨'S', "tring".toList, by decide, by decide, List.all_eq_true.1 (by decide)⟩
  have hrest : EndsToken [] := .inl (by simp)
  have hboth := hall [] "tags".toList [' '] "String".toList [] (List.forall_mem_nil _) hname (by decide)
    (by simp [isBlank]) htype hrest true true
  have hline : fieldLine [] "tags".toList [' '] "String".toList true true [] =
      "tags String?[]".toList := by decide
  rw [hline, hread] at hboth
  cases hboth

end Scaffold.Schema
