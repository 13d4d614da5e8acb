import Scaffold.Proofs.Text.Words
import Scaffold.Schema.Model

/-! The fields of a block, read line by line. A declaration's field depends on nothing but the words
before its comment, and of those on the first two only. -/

namespace Scaffold.Schema
open Text

/-! ## One declaration -/

/-- The field that the words before a comment declare. -/
def fieldOfWords? : List (List Char) → Option FieldDecl
  | name :: type :: _ =>
    if ['@', '@'].isPrefixOf name then none else some (fieldOfTokens name type)
  | _ => none

theorem words_append_rest {w : List Char} (hne : w ≠ []) (hw : ∀ c ∈ w, isBlank c = false)
    {rest : List Char} (hrest : ∀ b ∈ rest.head?, isBlank b = true) :
    words (w ++ rest) = w :: words rest := by
  cases rest with
  | nil => rw [List.append_nil, words_of_not_blank hne hw, words_nil]
  | cons b rest =>
    have hb := hrest b rfl
    rw [words_append_of_blank hb, words_of_not_blank hne hw, words_cons_blank hb]
    rfl

/-- A word before a comment stands alone if white space follows it. -/
theorem words_beforeComment_word {w : List Char} (hne : w ≠ []) (hw : ∀ c ∈ w, isBlank c = false)
    (hslash : ¬ ['/', '/'] <:+: w) {rest : List Char} (hrest : ∀ b ∈ rest.head?, isBlank b = true) :
    words (beforeComment (w ++ rest)) = w :: words (beforeComment rest) := by
  have hcut : rest.head? ≠ some '/' := fun h => ne_slash_of_isBlank (hrest '/' h) rfl
  rw [beforeComment_append (beforeComment_of_uncommented hslash) hcut]
  refine words_append_rest hne hw ?_
  cases rest with
  | nil => exact fun _ => nofun
  | cons b rest =>
    have hb := hrest b rfl
    rw [beforeComment_cons (ne_slash_of_isBlank hb)]
    rintro _ ⟨⟩
    exact hb

theorem exists_first_word {c : Char} (hc : isBlank c = false) (cs : List Char) :
    ∃ w rest, c :: cs = w ++ rest ∧ w ≠ [] ∧ (∀ b ∈ rest.head?, isBlank b = true) ∧
      words (c :: cs) = w :: words rest := by
  have hsplit := List.takeWhile_append_dropWhile (p := (!isBlank ·)) (l := c :: cs)
  have hne : (c :: cs).takeWhile (!isBlank ·) ≠ [] := by simp [hc]
  have hw : ∀ x ∈ (c :: cs).takeWhile (!isBlank ·), isBlank x = false := by
    intro x hx
    simpa using List.all_eq_true.1 List.all_takeWhile x hx
  have hrest : ∀ b ∈ ((c :: cs).dropWhile (!isBlank ·)).head?, isBlank b = true := by
    intro b hb
    have hhead := List.head?_dropWhile_not (!isBlank ·) (c :: cs)
    rw [hb] at hhead
    simpa using hhead
  have hwords := words_append_rest hne hw hrest
  rw [hsplit] at hwords
  exact ⟨_, _, hsplit.symm, hne, hrest, hwords⟩

/-- A directive is told by the first word. -/
theorem isPrefixOf_first_word {c : Char} (hc : isBlank c = false) (cs w : List Char)
    (ws : List (List Char)) (h : words (c :: cs) = w :: ws) :
    ['@', '@'].isPrefixOf (c :: cs) = ['@', '@'].isPrefixOf w := by
  obtain ⟨w', rest, hsplit, hne, hrest, hwords⟩ := exists_first_word hc cs
  obtain rfl : w' = w := (List.cons.inj (hwords.symm.trans h)).1
  rw [hsplit]
  rcases w' with - | ⟨x, - | ⟨y, more⟩⟩
  · contradiction
  · cases rest with
    | nil => rfl
    | cons b rest =>
      have hb : ('@' == b) = false := by
        rw [beq_eq_false_iff_ne]
        rintro rfl
        exact absurd (hrest '@' rfl) (by decide)
      simp [List.isPrefixOf, hb]
  · simp [List.isPrefixOf]

theorem classify_field? (d : List Char) :
    (classify d).field? = fieldOfWords? (words (beforeComment d)) := by
  have hwords : words (trim (beforeComment (trim d))) = words (beforeComment d) := by
    rw [words_trim, words_beforeComment_trim]
  rw [← hwords]
  unfold classify
  rcases trim_cases d with hblank | ⟨c, content, hcontent, -⟩
  · have hempty : words (trim (beforeComment [])) = [] := by
      simp [words, trim, trimStart, trimEnd, beforeComment]
    rw [hblank, hempty]
    rfl
  · simp only [hcontent, List.isEmpty_cons, Bool.false_eq_true, if_false]
    rcases trim_cases (beforeComment (c :: content)) with hnone | ⟨x, code, hcode, hx⟩
    · simp [hnone, LineClass.field?, words_nil, fieldOfWords?]
    · simp only [hcode, List.isEmpty_cons, Bool.false_eq_true, if_false]
      obtain ⟨w, rest, -, -, -, hfirst⟩ := exists_first_word hx code
      rw [isPrefixOf_first_word hx code w _ hfirst, hfirst]
      cases words rest with
      | nil => split <;> rfl
      | cons type more =>
        simp only [fieldOfWords?]
        split <;> rfl

/-! ## One line -/

def fieldsOfLine (line : List Char) : List FieldDecl :=
  (declarationsOfLine line).filterMap fun d => (classify d).field?

/-- The fields of a line are those of the pieces between semicolons, its comment cut away first. It
makes no difference that a line without a semicolon is classified with its comment. -/
theorem fieldsOfLine_eq (line : List Char) :
    fieldsOfLine line = (((beforeComment line).splitOn ';').map words).filterMap fieldOfWords? := by
  have hclassify : (fun d => (classify d).field?) = fieldOfWords? ∘ words ∘ beforeComment :=
    funext classify_field?
  unfold fieldsOfLine declarationsOfLine
  dsimp only
  rw [hclassify, ← List.filterMap_map]
  split
  · rw [← List.map_map]
    congr 2
    conv => rhs; rw [← List.map_id ((beforeComment line).splitOn ';')]
    refine List.map_congr_left fun piece hpiece => beforeComment_of_uncommented fun hslash => ?_
    exact not_infix_beforeComment line (hslash.trans (of_mem_splitOn hpiece).1)
  · rename_i hsemi
    rw [List.contains_iff_mem] at hsemi
    rw [List.splitOn_eq_singleton hsemi]
    rfl

theorem fieldsOfLine_of_no_semicolon {line : List Char} (h : ';' ∉ line) :
    fieldsOfLine line = (fieldOfWords? (words (beforeComment line))).toList := by
  rw [fieldsOfLine_eq, List.splitOn_eq_singleton fun hmem => h (mem_of_mem_beforeComment hmem)]
  rw [List.map_singleton, List.filterMap_cons, List.filterMap_nil]
  cases fieldOfWords? (words (beforeComment line)) <;> rfl

theorem fieldsOfLine_nil : fieldsOfLine [] = [] := by
  rw [fieldsOfLine_of_no_semicolon (List.not_mem_nil), beforeComment, words_nil]
  rfl

theorem fieldsOfLine_dropReturn (line : List Char) :
    fieldsOfLine (dropReturn line) = fieldsOfLine line := by
  obtain ⟨back, heq, hback⟩ := exists_dropReturn line
  conv => rhs; rw [heq]
  rw [fieldsOfLine_eq, fieldsOfLine_eq]
  by_cases hcut : beforeComment (dropReturn line) = dropReturn line
  · rw [beforeComment_append hcut (head?_blank hback), beforeComment_blank hback,
      map_words_splitOn_append_blank (by decide) hback, hcut]
  · rw [beforeComment_append_of_ne hcut]

/-! ## A whole body -/

def fieldsOf (body : List Char) : List FieldDecl :=
  (declarations body).filterMap fun d => (classify d).field?

theorem fieldDecls_eq (b : ModelBlock) : b.fieldDecls = fieldsOf b.body.toList := by
  unfold ModelBlock.fieldDecls ModelBlock.entries
  rw [List.filterMap_map]
  rfl

/-- The carriage returns that end lines, and an empty line at the end, declare nothing. -/
theorem fieldsOf_eq_flatMap (body : List Char) :
    fieldsOf body = (body.splitOn '\n').flatMap fieldsOfLine := by
  have hne : body.splitOn '\n' ≠ [] := List.splitOn_ne_nil _ _
  have hlast : ∀ line, ([line].filter (!·.isEmpty)).flatMap fieldsOfLine = fieldsOfLine line := by
    intro line
    cases line with
    | nil => exact fieldsOfLine_nil.symm
    | cons c cs => simp
  have hlines : fieldsOf body = (lines body).flatMap fieldsOfLine := by
    unfold fieldsOf declarations
    rw [List.filterMap_flatMap]
    rfl
  have hdrop : (fun line => fieldsOfLine (dropReturn line)) = fieldsOfLine :=
    funext fieldsOfLine_dropReturn
  rw [hlines]
  unfold lines
  dsimp only
  rw [List.getLast?_eq_some_getLast hne, Option.toList_some, List.flatMap_append, List.flatMap_map,
    hdrop, hlast]
  conv => rhs; rw [← List.dropLast_concat_getLast hne]
  rw [List.flatMap_append, List.flatMap_singleton]

theorem fieldsOf_nil : fieldsOf [] = [] := by
  rw [fieldsOf_eq_flatMap, List.splitOn_nil, List.flatMap_singleton, fieldsOfLine_nil]

theorem fieldsOf_append_newline (cs ds : List Char) :
    fieldsOf (cs ++ '\n' :: ds) = fieldsOf cs ++ fieldsOf ds := by
  rw [fieldsOf_eq_flatMap, fieldsOf_eq_flatMap, fieldsOf_eq_flatMap, List.splitOn_append_cons_self,
    List.flatMap_append]

theorem fieldsOf_newline (body : List Char) : fieldsOf ('\n' :: body) = fieldsOf body := by
  have hblank := fieldsOf_append_newline [] body
  rwa [fieldsOf_nil, List.nil_append, List.nil_append] at hblank

theorem fieldsOf_line {line : List Char} (hline : '\n' ∉ line) :
    fieldsOf line = fieldsOfLine line := by
  rw [fieldsOf_eq_flatMap, List.splitOn_eq_singleton hline, List.flatMap_singleton]

/-- Whole lines put in front of a body put their fields in front. -/
theorem fieldsOf_lines_append {cs : List Char} (hcs : cs = [] ∨ ∃ ds, cs = ds ++ ['\n'])
    (body : List Char) : fieldsOf (cs ++ body) = fieldsOf cs ++ fieldsOf body := by
  rcases hcs with rfl | ⟨ds, rfl⟩
  · rw [List.nil_append, fieldsOf_nil, List.nil_append]
  · rw [List.append_assoc, List.singleton_append, fieldsOf_append_newline, fieldsOf_append_newline,
      fieldsOf_nil, List.append_nil]

end Scaffold.Schema
