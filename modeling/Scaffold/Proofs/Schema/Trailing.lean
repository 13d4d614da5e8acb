import Scaffold.Proofs.Schema.Lines
import Scaffold.Proofs.Schema.Scan

/-! What stands behind the type token of a field line. The field does not depend on it. The block
does: the scanner ends it at the first closing brace, and the lines behind that brace are lost. -/

namespace Scaffold.Schema
open Text

/-- A word without a closing brace, a semicolon or a comment. -/
structure IsToken (w : List Char) : Prop where
  nonempty : w ≠ []
  plain : ∀ c ∈ w, isBlank c = false ∧ c ≠ '}' ∧ c ≠ ';'
  uncommented : ¬ ['/', '/'] <:+: w

/-- A schema of one block, with one line between two parts of its body. -/
def schemaWith (model before line after : String) : String :=
  "model " ++ model ++ " \x7b" ++ before ++ line ++ after ++ "\x7d"

/-! ## The field of the line -/

theorem words_beforeComment_token {w : List Char} (hw : IsToken w) {rest : List Char}
    (hrest : rest = [] ∨ ∃ ds, rest = ' ' :: ds) :
    words (beforeComment (w ++ rest)) = w :: words (beforeComment rest) := by
  refine words_beforeComment_word hw.nonempty (fun c hc => (hw.plain c hc).1) hw.uncommented ?_
  rcases hrest with rfl | ⟨ds, rfl⟩
  · exact fun _ => nofun
  · rintro _ ⟨⟩
    decide

theorem fieldOfWords?_line {name type rest : List Char} (hname : IsToken name) (htype : IsToken type)
    (hrest : rest = [] ∨ ∃ ds, rest = ' ' :: ds) :
    fieldOfWords? (words (beforeComment (name ++ ' ' :: (type ++ rest)))) =
      fieldOfWords? [name, type] := by
  rw [words_beforeComment_token hname (.inr ⟨_, rfl⟩), beforeComment_cons (by decide),
    words_cons_blank (by decide), words_beforeComment_token htype hrest]
  rfl

theorem IsToken.not_mem {w : List Char} (hw : IsToken w) {c : Char}
    (hc : isBlank c = true ∨ c = '}' ∨ c = ';') : c ∉ w := by
  intro hmem
  obtain ⟨hblank, hbrace, hsemi⟩ := hw.plain c hmem
  rcases hc with hc | hc | hc
  · rw [hc] at hblank; contradiction
  · exact hbrace hc
  · exact hsemi hc

/-- None of the characters that end a line, a block or a declaration stands in the two tokens. -/
theorem not_mem_line {name type rest : List Char} (hname : IsToken name) (htype : IsToken type)
    {c : Char} (hc : c = '\n' ∨ c = '}' ∨ c = ';') (hrest : c ∉ rest) :
    c ∉ name ++ ' ' :: (type ++ rest) := by
  have hplain : isBlank c = true ∨ c = '}' ∨ c = ';' := by
    refine hc.imp_left ?_
    rintro rfl
    decide
  have hspace : c ≠ ' ' := by
    rcases hc with rfl | rfl | rfl <;> decide
  simp only [List.mem_append, List.mem_cons, not_or]
  exact ⟨hname.not_mem hplain, hspace, htype.not_mem hplain, hrest⟩

theorem fieldsOfLine_trailing {name type rest : List Char} (hname : IsToken name)
    (htype : IsToken type) (hrest : rest = [] ∨ ∃ ds, rest = ' ' :: ds) (hsemi : ';' ∉ rest) :
    fieldsOfLine (name ++ ' ' :: (type ++ rest)) = (fieldOfWords? [name, type]).toList := by
  rw [fieldsOfLine_of_no_semicolon (not_mem_line hname htype (.inr (.inr rfl)) hsemi),
    fieldOfWords?_line hname htype hrest]

/-! ## The block of the line -/

theorem parseModel?_of_block {source model : String} {body : List Char}
    (hmodel : IsIdentifier model.toList) (hbody : '}' ∉ body) (tail : List Char)
    (hsource : source.toList =
      ['m', 'o', 'd', 'e', 'l', ' '] ++ model.toList ++ [' ', '{'] ++ (body ++ '}' :: tail)) :
    parseModel? source model = some (.ofDecls (fieldsOf body)) := by
  have hheader : IsHeader model.toList
      (['m', 'o', 'd', 'e', 'l', ' '] ++ model.toList ++ [' ', '{']) :=
    ⟨[], [' '], [' '], by simp, by simp, by simp, by simp [isBlank], hmodel, by simp [isBlank]⟩
  unfold parseModel? findBlock? blocks
  rw [hsource, blocksFrom_block (readHeader?_of_isHeader hheader _) hbody,
    List.find?_cons_of_pos (by simp)]
  simp [ModelBlock.parse, fieldDecls_eq]

theorem parseModel?_schemaWith {model before line after : String} (hmodel : IsIdentifier model.toList)
    {body : List Char} (hbody : '}' ∉ body) (tail : List Char)
    (hsplit : before.toList ++ line.toList ++ after.toList ++ ['}'] = body ++ '}' :: tail) :
    parseModel? (schemaWith model before line after) model = some (.ofDecls (fieldsOf body)) := by
  refine parseModel?_of_block hmodel hbody tail ?_
  rw [← hsplit]
  simp [schemaWith]

theorem ofDecls_append_eq_iff {ds es : List FieldDecl} :
    ParsedModel.ofDecls (ds ++ es) = ParsedModel.ofDecls ds ↔ es = [] := by
  constructor
  · intro h
    have hfields := congrArg (·.fields.length) h
    have hrelations := congrArg (·.relations.length) h
    simp only [ParsedModel.ofDecls, List.length_map, List.filter_append, List.length_append]
      at hfields hrelations
    have hscalar := List.eq_nil_of_length_eq_zero (Nat.add_eq_left.1 hfields)
    have hrelation := List.eq_nil_of_length_eq_zero (Nat.add_eq_left.1 hrelations)
    rw [List.filter_eq_nil_iff] at hscalar hrelation
    cases es with
    | nil => rfl
    | cons e es =>
      have hno := hscalar e (by simp)
      have hyes := hrelation e (by simp)
      simp [hno] at hyes
  · rintro rfl
    rw [List.append_nil]

/-! ## The body around the line -/

section
variable {before name type rest : List Char}
  (hbefore : before = [] ∨ ∃ lines, before = lines ++ ['\n']) (hname : IsToken name)
  (htype : IsToken type) (hrest : rest = [] ∨ ∃ ds, rest = ' ' :: ds) (hline : '\n' ∉ rest)
  (hsemi : ';' ∉ rest)
include hbefore hname htype hrest hline hsemi

theorem fieldsOf_with_line (after : List Char) :
    fieldsOf (before ++ (name ++ ' ' :: (type ++ rest)) ++ '\n' :: after) =
      fieldsOf before ++ (fieldOfWords? [name, type]).toList ++ fieldsOf after := by
  rw [List.append_assoc, fieldsOf_lines_append hbefore, fieldsOf_append_newline,
    fieldsOf_line (not_mem_line hname htype (.inl rfl) hline),
    fieldsOfLine_trailing hname htype hrest hsemi, List.append_assoc]

theorem fieldsOf_with_last_line :
    fieldsOf (before ++ (name ++ ' ' :: (type ++ rest))) =
      fieldsOf before ++ (fieldOfWords? [name, type]).toList := by
  rw [fieldsOf_lines_append hbefore, fieldsOf_line (not_mem_line hname htype (.inl rfl) hline),
    fieldsOfLine_trailing hname htype hrest hsemi]

end

section
variable {model before name type lines : String} (hmodel : IsIdentifier model.toList)
  (hbefore : before.toList = [] ∨ ∃ ds, before.toList = ds ++ ['\n'])
  (hbeforeBrace : '}' ∉ before.toList) (hname : IsToken name.toList) (htype : IsToken type.toList)
include hmodel hbefore hbeforeBrace hname htype

theorem parseModel?_with_line {line : String} {rest : List Char}
    (heq : line.toList = name.toList ++ ' ' :: (type.toList ++ rest))
    (hrest : rest = [] ∨ ∃ ds, rest = ' ' :: ds) (hline : '\n' ∉ rest) (hsemi : ';' ∉ rest)
    (hbrace : '}' ∉ rest) (hlines : '}' ∉ lines.toList) :
    parseModel? (schemaWith model before line ("\n" ++ lines)) model =
      some (.ofDecls (fieldsOf before.toList ++
        (fieldOfWords? [name.toList, type.toList]).toList ++ fieldsOf lines.toList)) := by
  have hbody : '}' ∉ before.toList ++ (name.toList ++ ' ' :: (type.toList ++ rest)) ++
      '\n' :: lines.toList := by
    rw [List.mem_append, List.mem_append, List.mem_cons, not_or, not_or, not_or]
    exact ⟨⟨hbeforeBrace, not_mem_line hname htype (.inr (.inl rfl)) hbrace⟩, by decide, hlines⟩
  rw [parseModel?_schemaWith hmodel hbody [] (by simp [heq]),
    fieldsOf_with_line hbefore hname htype hrest hline hsemi]

/-- A closing brace behind the type token ends the block. -/
theorem parseModel?_with_brace {line after : String} {kept lost : List Char}
    (heq : line.toList = name.toList ++ ' ' :: (type.toList ++ (' ' :: kept ++ '}' :: lost)))
    (hline : '\n' ∉ kept) (hsemi : ';' ∉ kept) (hbrace : '}' ∉ kept) :
    parseModel? (schemaWith model before line after) model =
      some (.ofDecls (fieldsOf before.toList ++
        (fieldOfWords? [name.toList, type.toList]).toList)) := by
  have hspace : ∀ {c : Char}, c ≠ ' ' → c ∉ kept → c ∉ ' ' :: kept := by
    intro c hne hc
    rw [List.mem_cons, not_or]
    exact ⟨hne, hc⟩
  have hbody : '}' ∉ before.toList ++ (name.toList ++ ' ' :: (type.toList ++ ' ' :: kept)) := by
    rw [List.mem_append, not_or]
    exact ⟨hbeforeBrace, not_mem_line hname htype (.inr (.inl rfl)) (hspace (by decide) hbrace)⟩
  rw [parseModel?_schemaWith hmodel hbody (lost ++ after.toList ++ ['}']) (by simp [heq]),
    fieldsOf_with_last_line hbefore hname htype (.inr ⟨_, rfl⟩) (hspace (by decide) hline)
      (hspace (by decide) hsemi)]

end

/-- The text behind a type token is ignored exactly if it holds no closing brace, or if no field
stands behind it. -/
theorem parseModel?_trailing_iff {model before name type rest after : String}
    (hmodel : IsIdentifier model.toList) (hbefore : before = "" ∨ ∃ lines, before = lines ++ "\n")
    (hafter : ∃ lines, after = "\n" ++ lines) (hbeforeBrace : '}' ∉ before.toList)
    (hafterBrace : '}' ∉ after.toList) (hname : IsToken name.toList) (htype : IsToken type.toList)
    (hline : '\n' ∉ rest.toList) (hsemi : ';' ∉ rest.toList) :
    parseModel? (schemaWith model before (name ++ " " ++ type ++ " " ++ rest) after) model =
        parseModel? (schemaWith model before (name ++ " " ++ type) after) model ↔
      ('}' ∈ rest.toList → (ModelBlock.mk model after).fieldDecls = []) := by
  obtain ⟨lines, rfl⟩ := hafter
  have hlines : '}' ∉ lines.toList := by
    rw [String.toList_append, List.mem_append, not_or] at hafterBrace
    exact hafterBrace.2
  have hbefore' : before.toList = [] ∨ ∃ ds, before.toList = ds ++ ['\n'] := by
    rcases hbefore with rfl | ⟨ds, rfl⟩
    · exact .inl rfl
    · exact .inr ⟨ds.toList, String.toList_append⟩
  have hdecls : (ModelBlock.mk model ("\n" ++ lines)).fieldDecls = fieldsOf lines.toList := by
    rw [fieldDecls_eq, String.toList_append]
    exact fieldsOf_newline lines.toList
  have hwithout : (name ++ " " ++ type).toList = name.toList ++ ' ' :: (type.toList ++ []) := by
    simp
  have hwith : (name ++ " " ++ type ++ " " ++ rest).toList =
      name.toList ++ ' ' :: (type.toList ++ ' ' :: rest.toList) := by
    simp
  rw [hdecls, parseModel?_with_line hmodel hbefore' hbeforeBrace hname htype hwithout (.inl rfl)
    (by simp) (by simp) (by simp) hlines]
  by_cases hbrace : '}' ∈ rest.toList
  · obtain ⟨kept, lost, hrest, hkept⟩ := List.eq_append_cons_of_mem hbrace
    rw [hrest, List.mem_append, not_or] at hline hsemi
    rw [hrest] at hwith
    rw [parseModel?_with_brace hmodel hbefore' hbeforeBrace hname htype hwith hline.1 hsemi.1 hkept,
      Option.some_inj, eq_comm, ofDecls_append_eq_iff]
    exact ⟨fun h _ => h, fun h => h hbrace⟩
  · rw [parseModel?_with_line hmodel hbefore' hbeforeBrace hname htype hwith (.inr ⟨_, rfl⟩)
      (by simp [hline]) (by simp [hsemi]) (by simp [hbrace]) hlines]
    exact ⟨fun _ h => absurd h hbrace, fun _ => rfl⟩

theorem isIdentifier_doc : IsIdentifier "Doc".toList :=
  ⟨'D', ['o', 'c'], rfl, by decide, List.all_eq_true.1 (by decide)⟩

theorem isToken_meta : IsToken "meta".toList := ⟨by decide, by simp [isBlank], by decide⟩

theorem isToken_json : IsToken "Json".toList := ⟨by decide, by simp [isBlank], by decide⟩

/-- A comment with a closing brace does no harm on the last line of a block. -/
theorem parseModel?_trailing_brace_last :
    '}' ∈ "// see \x7blegacy\x7d".toList ∧
      parseModel? (schemaWith "Doc" "\n" ("meta" ++ " " ++ "Json" ++ " " ++ "// see \x7blegacy\x7d")
        "\n") "Doc" =
      parseModel? (schemaWith "Doc" "\n" ("meta" ++ " " ++ "Json") "\n") "Doc" := by
  refine ⟨by decide, ?_⟩
  refine (parseModel?_trailing_iff isIdentifier_doc (.inr ⟨"", by decide⟩) ⟨"", by decide⟩
    (by decide) (by decide) isToken_meta isToken_json (by decide) (by decide)).2 fun _ => ?_
  decide

/-- A string literal that holds a closing brace takes the rest of the block with it: the attribute
of `meta` is not ignored, and `title` is lost. -/
theorem parseModel?_trailing_brace_in_default :
    ¬ ∀ rest : String, '\n' ∉ rest.toList → ';' ∉ rest.toList →
      parseModel? (schemaWith "Doc" "\n" ("meta Json " ++ rest) "\ntitle String\n") "Doc" =
        parseModel? (schemaWith "Doc" "\n" "meta Json" "\ntitle String\n") "Doc" := by
  intro h
  have hsame := h "@default(\"\x7b\x7d\")" (by decide) (by decide)
  have hcut : parseModel? (schemaWith "Doc" "\n" ("meta Json " ++ "@default(\"\x7b\x7d\")")
      "\ntitle String\n") "Doc" =
        some (.ofDecls (fieldsOf "\nmeta Json @default(\"\x7b".toList)) :=
    parseModel?_schemaWith isIdentifier_doc (by decide) "\")\ntitle String\n\x7d".toList (by decide)
  have hwhole : parseModel? (schemaWith "Doc" "\n" "meta Json" "\ntitle String\n") "Doc" =
      some (.ofDecls (fieldsOf "\nmeta Json\ntitle String\n".toList)) :=
    parseModel?_schemaWith isIdentifier_doc (by decide) [] (by decide)
  rw [hcut, hwhole, Option.some_inj] at hsame
  exact absurd (congrArg (·.fields.length) hsame) (by decide)

end Scaffold.Schema
