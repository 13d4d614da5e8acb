import Scaffold.Proofs.Resource.Files
import Scaffold.Proofs.TypeScript.Literals

/-! Names of fields in string literals. The message of a decorator has its quotes escaped and is read as
it is unless the name holds a backslash. The columns of the views are not escaped, and quotes break them
too. -/

namespace Scaffold
open Text TypeScript

/-! ## Messages of decorators -/

namespace Validator

/-- The literal from the first quote of the decorator on ends right before its options do, and its value
is the message. -/
def Reads (v : Validator) : Prop :=
  ∃ before after, v.decorator.toList = before ++ '\'' :: after ∧ '\'' ∉ before ∧
    literal? after = some (units v.message.toList, " \x7d)".toList)

theorem size_escapeQuotes (cs : List Char) : size (escapeQuotes cs) = size cs + cs.count '\'' := by
  have hquote : size ['\\', '\''] = size ['\''] + 1 := rfl
  induction cs with
  | nil => rfl
  | cons c cs ih =>
    unfold escapeQuotes at ih ⊢
    rw [List.flatMap_cons, size_append, ih, size_cons c cs, List.count_cons]
    by_cases hc : c = '\''
    · subst hc
      simp only [if_true, hquote, beq_self_eq_true]
      omega
    · simp only [hc, if_false, beq_iff_eq]
      omega

/-- Escaped quotes are read back where there is no backslash. -/
theorem literal?_escapeQuotes {cs : List Char} (hcs : ∀ c ∈ cs, c ≠ '\\' ∧ c ≠ '\n' ∧ c ≠ '\r')
    (rest : List Char) : literal? (escapeQuotes cs ++ '\'' :: rest) = some (units cs, rest) := by
  induction cs with
  | nil => exact literal?_quote rest
  | cons c cs ih =>
    obtain ⟨⟨hbackslash, hfeed, hreturn⟩, hrest⟩ := List.forall_mem_cons.1 hcs
    have htail : units (c :: cs) = units [c] ++ units cs := units_append [c] cs
    have hescaped : escapeQuotes (c :: cs) =
        (if c = '\'' then ['\\', '\''] else [c]) ++ escapeQuotes cs := List.flatMap_cons
    rw [hescaped, htail]
    split
    · rename_i hquote
      subst hquote
      show literal? ('\\' :: '\'' :: (escapeQuotes cs ++ '\'' :: rest)) = _
      rw [literal?_escapedQuote, ih hrest]
      rfl
    · rename_i hquote
      show literal? (c :: (escapeQuotes cs ++ '\'' :: rest)) = _
      rw [literal?_cons ⟨hquote, hbackslash, hfeed, hreturn⟩, ih hrest]
      rfl

theorem exists_decorator {v : Validator} (hkind : v.kind ≠ .isOptional) :
    ∃ front, '\'' ∉ front ∧
      v.decorator.toList =
        front ++ '\'' :: (escapeQuotes v.message.toList ++ '\'' :: " \x7d)".toList) := by
  obtain ⟨front, hfront, heq⟩ : ∃ front : String, '\'' ∉ front.toList ∧
      v.decorator = front ++ ("\x7b message: " ++ literal v.message ++ " \x7d") ++ ")" := by
    unfold decorator
    cases hname : v.kind with
    | isOptional => exact absurd hname hkind
    | isEmail => exact ⟨"@IsEmail(\x7b\x7d, ", by decide, by simp only [← String.append_assoc]; rfl⟩
    | isNumber => exact ⟨"@IsNumber(\x7b\x7d, ", by decide, by simp only [← String.append_assoc]; rfl⟩
    | _ => exact ⟨"@" ++ v.kind.name ++ "(", by rw [hname]; decide, by rw [hname]⟩
  refine ⟨(front ++ "\x7b message: ").toList, by simpa using hfront, ?_⟩
  rw [heq]
  simp [literal]

/-- A message without line ends is read as it is unless it holds a backslash. -/
theorem reads_iff {v : Validator} (hkind : v.kind ≠ .isOptional)
    (hlines : '\n' ∉ v.message.toList ∧ '\r' ∉ v.message.toList) :
    v.Reads ↔ '\\' ∉ v.message.toList := by
  obtain ⟨front, hfront, hdecorator⟩ := exists_decorator hkind
  constructor
  · rintro ⟨before, after, hsplit, hbefore, hread⟩
    obtain ⟨-, rfl⟩ := eq_of_append_cons hbefore hfront (hsplit.symm.trans hdecorator)
    obtain ⟨body, hbody, hcost⟩ := exists_of_literal? hread
    obtain rfl := List.append_cancel_right hbody
    rw [cost_units, size_escapeQuotes] at hcost
    exact List.count_eq_zero.1 (by omega)
  · intro hbackslash
    refine ⟨front, _, hdecorator, hfront, literal?_escapeQuotes (fun c hc => ⟨?_, ?_, ?_⟩) _⟩
    · exact ne_of_mem_of_not_mem hc hbackslash
    · exact ne_of_mem_of_not_mem hc hlines.1
    · exact ne_of_mem_of_not_mem hc hlines.2

end Validator

theorem backslash_mem_fieldLabel {name : String} :
    '\\' ∈ (Schema.fieldLabel name).toList ↔ '\\' ∈ name.toList := by
  unfold Schema.fieldLabel
  rw [String.toList_ofList]
  refine ⟨fun h => by_contra fun hnone => not_mem_capitalize isUnreached_backslash hnone h, fun h => ?_⟩
  cases hname : name.toList with
  | nil => simp [hname] at h
  | cons c cs =>
    rw [hname] at h
    rw [capitalize, List.mem_append]
    rcases List.mem_cons.1 h with rfl | h
    · exact .inl (by decide)
    · exact .inr h

/-- A message of a printable field is read as it is unless the name of the field holds a backslash. -/
theorem reads_ofDecl_iff {d : FieldDecl} (hd : Schema.IsToken d.name.toList) {v : Validator}
    (hv : v ∈ (Field.ofDecl d).validators) (hkind : v.kind ≠ .isOptional) :
    v.Reads ↔ '\\' ∉ d.name.toList := by
  obtain ⟨demand, hdemand, hmessage⟩ := exists_demand hv
  have hplain : ∀ demand ∈ demands,
      '\n' ∉ demand.toList ∧ '\r' ∉ demand.toList ∧ '\\' ∉ demand.toList := by decide
  obtain ⟨hfeed, hreturn, hbackslash⟩ := hplain demand hdemand
  have hlabel : ∀ c, IsUnreached c → isBlank c = true → c ∉ (Schema.fieldLabel d.name).toList := by
    intro c hc hblank
    unfold Schema.fieldLabel
    rw [String.toList_ofList]
    refine not_mem_capitalize hc fun hmem => ?_
    rw [(hd.plain c hmem).1] at hblank
    cases hblank
  rw [Validator.reads_iff hkind, hmessage, String.toList_append, List.mem_append,
    backslash_mem_fieldLabel]
  · simp only [hbackslash, or_false]
  · rw [hmessage, String.toList_append, List.mem_append, List.mem_append, not_or, not_or]
    exact ⟨⟨hlabel _ isUnreached_newline (by decide), hfeed⟩,
      hlabel _ isUnreached_return (by decide), hreturn⟩

/-! ## Columns of the views -/

namespace Resource

/-- The constant of the columns is read as an array of these names. -/
def ReadsColumns (text : String) (names : List String) : Prop :=
  ∃ value, Declares text "COLUMNS" value ∧
    array? value.toList = some (names.map (units ·.toList), ";".toList)

theorem readsColumns_iff {r : Resource} (hr : r.IsClean)
    (hreturn : ∀ f ∈ r.fields, '\r' ∉ f.name.toList) :
    ReadsColumns (Artifact.views.text r) (r.fields.map (·.name)) ↔
      ∀ f ∈ r.fields, '\'' ∉ f.name.toList ∧ '\\' ∉ f.name.toList := by
  have hlines : ∀ name ∈ r.fields.map (·.name), '\n' ∉ name.toList ∧ '\r' ∉ name.toList :=
    List.forall_mem_map.2 fun f hf => ⟨(hr.fields f hf).name, hreturn f hf⟩
  have hdeclares : ∀ {value : String}, Declares (Artifact.views.text r) "COLUMNS" value ↔
      value = "[" ++ commas ((r.fields.map (·.name)).map quote) ++ "]" ++ ";" :=
    SourceFile.declares_iff (isFlat_file hr .views) rfl
  unfold ReadsColumns
  simp only [hdeclares, exists_eq_left]
  rw [array?_quoted_iff hlines, List.forall_mem_map]

/-- Literals carry the names of the fields of a model. Each message is read as it is exactly unless the
name of its field holds a backslash, and the columns are exactly unless a name holds a quote or a
backslash. -/
theorem literals_faithful_iff {source model : String} {parsed : ParsedModel}
    (hparse : Schema.parseModel? source model = some parsed) :
    (∀ f ∈ parsed.fields, ∀ v ∈ f.validators, v.kind ≠ .isOptional →
      (v.Reads ↔ '\\' ∉ f.name.toList)) ∧
    ∀ (targetId? : Option TargetType) (protectedNames : List String),
      ReadsColumns (Artifact.views.text (ofModel model parsed targetId? protectedNames))
          (parsed.fields.map (·.name)) ↔
        ∀ f ∈ parsed.fields, '\'' ∉ f.name.toList ∧ '\\' ∉ f.name.toList := by
  have hname : ∀ f ∈ parsed.fields, Schema.IsToken f.name.toList := fun f hf =>
    (Schema.isPrintable_of_mem_fields hparse hf).1.name
  constructor
  · intro f hf v hv hkind
    rw [(Schema.isPrintable_of_mem_fields hparse hf).2.eq_ofDecl] at hv
    exact reads_ofDecl_iff (hname f hf) hv hkind
  · intro targetId? protectedNames
    have hclean := isClean_ofModel hparse targetId? protectedNames
    have hreturn : ∀ f ∈ (ofModel model parsed targetId? protectedNames).fields, '\r' ∉ f.name.toList :=
      List.forall_mem_map.2 fun f hf hmem => absurd ((hname f hf).plain _ hmem).1 (by decide)
    have hcolumns := readsColumns_iff hclean hreturn
    have hnames : (ofModel model parsed targetId? protectedNames).fields.map (·.name) =
        parsed.fields.map (·.name) := List.map_map
    rw [hnames] at hcolumns
    exact hcolumns.trans List.forall_mem_map

/-- An apostrophe is carried by the message and breaks the columns. -/
theorem literals_faithful_apostrophe :
    ∃ parsed, Schema.parseModel? "model Doc \x7b\n  it's String\n\x7d" "Doc" = some parsed ∧
      (∀ f ∈ parsed.fields, ∀ v ∈ f.validators, v.kind ≠ .isOptional → v.Reads) ∧
      ¬ ReadsColumns (Artifact.views.text (ofModel "Doc" parsed none [])) ["it's"] := by
  have hparse : Schema.parseModel? "model Doc \x7b\n  it's String\n\x7d" "Doc" =
      some (.ofDecls [⟨"it's", "String", false, false⟩]) := by decide +kernel
  obtain ⟨hmessages, hcolumns⟩ := literals_faithful_iff hparse
  refine ⟨_, hparse, fun f hf v hv hkind => (hmessages f hf v hv hkind).2 ?_, fun h => ?_⟩
  · obtain rfl := List.mem_singleton.1 hf
    decide
  · exact absurd ((hcolumns none []).1 h _ List.mem_cons_self).1 (by decide)

/-- A backslash changes what is read, in the message and in the columns. -/
theorem literals_unfaithful_backslash :
    (¬ ∀ (source model : String) (parsed : ParsedModel),
      Schema.parseModel? source model = some parsed →
        ∀ f ∈ parsed.fields, ∀ v ∈ f.validators, v.kind ≠ .isOptional → v.Reads) ∧
    ¬ ∀ (source model : String) (parsed : ParsedModel),
      Schema.parseModel? source model = some parsed →
        ReadsColumns (Artifact.views.text (ofModel model parsed none []))
          (parsed.fields.map (·.name)) := by
  have hparse : Schema.parseModel? "model Doc \x7b\n  a\\b String\n  it's String\n\x7d" "Doc" =
      some (.ofDecls [⟨"a\\b", "String", false, false⟩, ⟨"it's", "String", false, false⟩]) := by
    decide +kernel
  constructor
  · intro hall
    let d : FieldDecl := ⟨"a\\b", "String", false, false⟩
    let v : Validator := ⟨.isString, "A\\b must be a string."⟩
    have hv : v ∈ (Field.ofDecl d).validators := by decide
    have hname : Schema.IsToken d.name.toList :=
      (Schema.isPrintable_of_mem_fields hparse (f := .ofDecl d) List.mem_cons_self).1.name
    have hread : v.Reads := hall _ _ _ hparse (.ofDecl d) List.mem_cons_self v hv (by decide)
    exact absurd ((reads_ofDecl_iff hname hv (by decide)).1 hread) (by decide)
  · intro hall
    have hclean := isClean_ofModel hparse none []
    have hcolumns := (readsColumns_iff hclean (by decide)).1 (hall _ _ _ hparse)
    exact absurd (hcolumns _ List.mem_cons_self).2 (by decide)

end Resource

end Scaffold
