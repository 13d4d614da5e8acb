import Scaffold.Proofs.Schema.Trailing

/-! Comments and separators inside a block. A body can be brought into a normal form in which no
comment is left and every declaration has a line of its own; both forms have the same segments, and
the fields of a block are those of its segments. -/

namespace Scaffold.Schema
open Text

/-! ## The normal form of a body -/

/-- Each line is cut at its comment. -/
def uncommented (body : List Char) : List Char :=
  ['\n'].intercalate ((body.splitOn '\n').map beforeComment)

/-- A line feed in place of a semicolon. -/
def separate (c : Char) : Char := if c = ';' then '\n' else c

/-- Each line is cut at its comment, and the semicolons that are left become line feeds. -/
def normalForm (body : String) : String := String.ofList ((uncommented body.toList).map separate)

/-- A schema of one block. -/
def schemaOf (model body : String) : String := "model " ++ model ++ " \x7b" ++ body ++ "\x7d"

/-! ## Segments -/

/-- What stands between line feeds and semicolons, each line cut at its comment. -/
def segments (body : List Char) : List (List Char) :=
  (body.splitOn '\n').flatMap fun line => (beforeComment line).splitOn ';'

theorem fieldsOf_eq_segments (body : List Char) :
    fieldsOf body = ((segments body).map words).filterMap fieldOfWords? := by
  have hline : fieldsOfLine = fun line =>
      (((beforeComment line).splitOn ';').map words).filterMap fieldOfWords? :=
    funext fieldsOfLine_eq
  rw [fieldsOf_eq_flatMap, hline, segments, List.map_flatMap, List.filterMap_flatMap]

theorem segments_append_newline (cs ds : List Char) :
    segments (cs ++ '\n' :: ds) = segments cs ++ segments ds := by
  unfold segments
  rw [List.splitOn_append_cons_self, List.flatMap_append]

theorem segments_line {line : List Char} (h : '\n' ∉ line) :
    segments line = (beforeComment line).splitOn ';' := by
  unfold segments
  rw [List.splitOn_eq_singleton h, List.flatMap_singleton]

theorem of_mem_segments {body s : List Char} (h : s ∈ segments body) :
    s ⊆ body ∧ ';' ∉ s ∧ beforeComment s = s := by
  obtain ⟨line, hline, hs⟩ := List.mem_flatMap.1 h
  obtain ⟨hwithin, hsemi⟩ := of_mem_splitOn hs
  refine ⟨fun c hc => ?_, hsemi, beforeComment_of_uncommented fun hslash => ?_⟩
  · exact (of_mem_splitOn hline).1.subset (mem_of_mem_beforeComment (hwithin.subset hc))
  · exact not_infix_beforeComment line (hslash.trans hwithin)

/-! ## The segments of the normal form -/

theorem splitOn_uncommented (body : List Char) :
    (uncommented body).splitOn '\n' = (body.splitOn '\n').map beforeComment := by
  refine List.splitOn_intercalate '\n' (fun line hline => ?_) ?_
  · obtain ⟨piece, hpiece, rfl⟩ := List.mem_map.1 hline
    exact fun hmem => (of_mem_splitOn hpiece).2 (mem_of_mem_beforeComment hmem)
  · rw [ne_eq, List.map_eq_nil_iff]
    exact List.splitOn_ne_nil _ _

/-- Splitting at both separators is splitting at the one and then at the other. -/
theorem splitOn_map_separate (cs : List Char) :
    (cs.map separate).splitOn '\n' = (cs.splitOn '\n').flatMap (·.splitOn ';') := by
  induction cs with
  | nil => rfl
  | cons c cs ih =>
    obtain ⟨line, more, hlines⟩ := List.exists_cons_of_ne_nil (List.splitOn_ne_nil '\n' cs)
    obtain ⟨piece, rest, hpieces⟩ := List.exists_cons_of_ne_nil (List.splitOn_ne_nil ';' line)
    rw [hlines, List.flatMap_cons, hpieces] at ih
    rw [List.map_cons, List.splitOn_cons_eq_if_modifyHead, List.splitOn_cons_eq_if_modifyHead, ih,
      hlines]
    by_cases hfeed : c = '\n'
    · subst hfeed
      simp [separate, hpieces]
    · by_cases hsemi : c = ';'
      · subst hsemi
        simp [separate, List.splitOn_cons_eq_if_modifyHead, hpieces]
      · simp [separate, List.splitOn_cons_eq_if_modifyHead, hpieces, hfeed, hsemi]

theorem splitOn_normalForm (body : String) :
    (normalForm body).toList.splitOn '\n' = segments body.toList := by
  rw [normalForm, String.toList_ofList, splitOn_map_separate, splitOn_uncommented, List.flatMap_map]
  rfl

theorem segments_normalForm (body : String) :
    segments (normalForm body).toList = segments body.toList := by
  have hself : ∀ s ∈ segments body.toList, (beforeComment s).splitOn ';' = [s] := by
    intro s hs
    obtain ⟨-, hsemi, hcut⟩ := of_mem_segments hs
    rw [hcut, List.splitOn_eq_singleton hsemi]
  conv => lhs; rw [segments, splitOn_normalForm]
  rw [List.flatMap_def, List.map_congr_left hself, ← List.flatMap_def, List.flatMap_singleton']

theorem brace_not_mem_normalForm {body : String} (h : '}' ∉ body.toList) :
    '}' ∉ (normalForm body).toList := by
  intro hmem
  obtain ⟨s, hs, hbrace⟩ := exists_mem_splitOn hmem (show '}' ≠ '\n' by decide)
  rw [splitOn_normalForm] at hs
  exact h ((of_mem_segments hs).1 hbrace)

/-! ## Comments -/

/-- What a comment says makes no difference. -/
theorem segments_comment {comment back : List Char} (hcomment : '\n' ∉ comment)
    (hback : back = [] ∨ ∃ lines, back = '\n' :: lines) (front : List Char) :
    segments (front ++ '/' :: '/' :: comment ++ back) = segments (front ++ ['/', '/'] ++ back) := by
  have hline : segments (front ++ '/' :: '/' :: comment) = segments (front ++ ['/', '/']) := by
    obtain ⟨lines, last, hlast⟩ := exists_last_piece '\n' front
    have hopen : beforeComment (last ++ ['/', '/']) ≠ last ++ ['/', '/'] := by
      intro heq
      have hslash := not_infix_beforeComment (last ++ ['/', '/'])
      rw [heq] at hslash
      exact hslash (List.suffix_append last ['/', '/']).isInfix
    have hcut := beforeComment_append_of_ne hopen comment
    rw [List.append_assoc] at hcut
    unfold segments
    rw [hlast _ (by simpa using hcomment), hlast _ (by decide), List.flatMap_append,
      List.flatMap_append, List.flatMap_singleton, List.flatMap_singleton, ← hcut]
    rfl
  rcases hback with rfl | ⟨lines, rfl⟩
  · rw [List.append_nil, List.append_nil, hline]
  · rw [segments_append_newline, segments_append_newline, hline]

/-! ## Separators -/

/-- Outside comments a semicolon separates as a line feed does. -/
theorem segments_append_semicolon {d : List Char} (hline : '\n' ∉ d) (hcut : beforeComment d = d)
    (rest : List Char) : segments (d ++ ';' :: rest) = segments d ++ segments rest := by
  obtain ⟨line, more, hlines⟩ := List.exists_cons_of_ne_nil (List.splitOn_ne_nil '\n' rest)
  have hfront : '\n' ∉ d ++ [';'] := by simpa using hline
  have hsplit := splitOn_append_of_not_mem hfront hlines
  rw [List.append_assoc, List.append_assoc, List.singleton_append, List.singleton_append] at hsplit
  have hbefore : beforeComment (d ++ ';' :: line) = d ++ ';' :: beforeComment line := by
    rw [beforeComment_append hcut (by simp), beforeComment_cons (by decide)]
  rw [segments_line hline, hcut, segments, segments, hsplit, hlines, List.flatMap_cons,
    List.flatMap_cons, hbefore, List.splitOn_append_cons_self, List.append_assoc]

/-- Declarations on one line are read as on lines of their own. -/
theorem segments_declarations {ds : List (List Char)}
    (h : ∀ d ∈ ds, '\n' ∉ d ∧ ¬ ['/', '/'] <:+: d) (rest : List Char) :
    segments ([';'].intercalate ds ++ rest) = segments (['\n'].intercalate ds ++ rest) := by
  induction ds with
  | nil => rfl
  | cons d ds ih =>
    cases ds with
    | nil => rfl
    | cons next ds =>
      obtain ⟨hline, hslash⟩ := h d (by simp)
      have hrest := ih fun other hother => h other (List.mem_cons_of_mem d hother)
      have hcut := beforeComment_of_uncommented hslash
      rw [List.intercalate_cons_cons, List.intercalate_cons_cons]
      simp only [List.append_assoc, List.cons_append, List.nil_append]
      rw [segments_append_semicolon hline hcut, segments_append_newline, hrest]

/-! ## What is read -/

theorem fieldsOf_congr {cs ds : List Char} (h : segments cs = segments ds) :
    fieldsOf cs = fieldsOf ds := by
  rw [fieldsOf_eq_segments, fieldsOf_eq_segments, h]

theorem parseModel?_schemaOf {model body : String} (hmodel : IsIdentifier model.toList)
    (hbody : '}' ∉ body.toList) :
    parseModel? (schemaOf model body) model = some (.ofDecls (fieldsOf body.toList)) := by
  exact parseModel?_of_block hmodel hbody [] (by simp [schemaOf])

section
variable {model : String} (hmodel : IsIdentifier model.toList)
include hmodel

/-- Two bodies with the same segments are read alike. -/
theorem parseModel?_of_segments {body other : String} (hbody : '}' ∉ body.toList)
    (hother : '}' ∉ other.toList) (h : segments body.toList = segments other.toList) :
    ∃ m, parseModel? (schemaOf model body) model = some m ∧
      parseModel? (schemaOf model other) model = some m := by
  refine ⟨_, parseModel?_schemaOf hmodel hbody, ?_⟩
  rw [parseModel?_schemaOf hmodel hother, fieldsOf_congr h]

theorem parseModel?_comment {front comment back : String}
    (hbody : '}' ∉ (front ++ "//" ++ comment ++ back).toList) (hcomment : '\n' ∉ comment.toList)
    (hback : back = "" ∨ ∃ lines, back = "\n" ++ lines) :
    ∃ m, parseModel? (schemaOf model (front ++ "//" ++ comment ++ back)) model = some m ∧
      parseModel? (schemaOf model (front ++ "//" ++ back)) model = some m := by
  have hback' : back.toList = [] ∨ ∃ lines, back.toList = '\n' :: lines := by
    rcases hback with rfl | ⟨lines, rfl⟩
    · exact .inl rfl
    · exact .inr ⟨lines.toList, String.toList_append⟩
  have hother : '}' ∉ (front ++ "//" ++ back).toList := by
    simp only [String.toList_append, List.mem_append, not_or] at hbody ⊢
    exact ⟨hbody.1.1, hbody.2⟩
  have hsame := segments_comment hcomment hback' front.toList
  exact parseModel?_of_segments hmodel hbody hother (by simpa using hsame)

theorem parseModel?_declarations {front back : String} {ds : List String}
    (hfront : '}' ∉ front.toList) (hback : '}' ∉ back.toList)
    (hlines : front = "" ∨ ∃ lines, front = lines ++ "\n")
    (hds : ∀ d ∈ ds, '}' ∉ d.toList ∧ '\n' ∉ d.toList ∧ ¬ ['/', '/'] <:+: d.toList) :
    ∃ m, parseModel? (schemaOf model (front ++ ";".intercalate ds ++ back)) model = some m ∧
      parseModel? (schemaOf model (front ++ "\n".intercalate ds ++ back)) model = some m := by
  have hbody : ∀ sep : String, '}' ∉ sep.toList →
      '}' ∉ (front ++ sep.intercalate ds ++ back).toList := by
    intro sep hsep hmem
    rw [String.toList_append, String.toList_append, String.toList_intercalate, List.mem_append,
      List.mem_append] at hmem
    rcases hmem with (hmem | hmem) | hmem
    · exact hfront hmem
    · rcases mem_intercalate hmem with hmem | ⟨piece, hpiece, hmem⟩
      · exact hsep hmem
      · obtain ⟨d, hd, rfl⟩ := List.mem_map.1 hpiece
        exact (hds d hd).1 hmem
    · exact hback hmem
  refine parseModel?_of_segments hmodel (hbody ";" (by decide)) (hbody "\n" (by decide)) ?_
  have hplain : ∀ d ∈ ds.map String.toList, '\n' ∉ d ∧ ¬ ['/', '/'] <:+: d := by
    intro piece hpiece
    obtain ⟨d, hd, rfl⟩ := List.mem_map.1 hpiece
    exact (hds d hd).2
  have hsame := segments_declarations hplain back.toList
  rcases hlines with rfl | ⟨lines, rfl⟩
  · simpa [String.toList_intercalate] using hsame
  · simpa [String.toList_intercalate, segments_append_newline] using hsame

end

/-- Comments and the choice of separators make no difference in a block. A body and its normal form are
read alike; so a semicolon in a comment separates nothing, as the text of a comment is not read at all,
and declarations on one line are read as on lines of their own. -/
theorem comments_and_separators {model : String} (hmodel : IsIdentifier model.toList) :
    (∀ body : String, '}' ∉ body.toList →
      ∃ m, parseModel? (schemaOf model body) model = some m ∧
        parseModel? (schemaOf model (normalForm body)) model = some m) ∧
      (∀ front comment back : String, '}' ∉ (front ++ "//" ++ comment ++ back).toList →
        '\n' ∉ comment.toList → (back = "" ∨ ∃ lines, back = "\n" ++ lines) →
          ∃ m, parseModel? (schemaOf model (front ++ "//" ++ comment ++ back)) model = some m ∧
            parseModel? (schemaOf model (front ++ "//" ++ back)) model = some m) ∧
      ∀ (front back : String) (ds : List String), '}' ∉ front.toList → '}' ∉ back.toList →
        (front = "" ∨ ∃ lines, front = lines ++ "\n") →
        (∀ d ∈ ds, '}' ∉ d.toList ∧ '\n' ∉ d.toList ∧ ¬ ['/', '/'] <:+: d.toList) →
          ∃ m, parseModel? (schemaOf model (front ++ ";".intercalate ds ++ back)) model = some m ∧
            parseModel? (schemaOf model (front ++ "\n".intercalate ds ++ back)) model = some m := by
  refine ⟨fun body hbody => ?_, fun front comment back hbody hcomment hback => ?_,
    fun front back ds hfront hback hlines hds => ?_⟩
  · exact parseModel?_of_segments hmodel hbody (brace_not_mem_normalForm hbody)
      (segments_normalForm body).symm
  · exact parseModel?_comment hmodel hbody hcomment hback
  · exact parseModel?_declarations hmodel hfront hback hlines hds

/-- Semicolons on both sides of a comment, a carriage return, a directive, and slashes that open no
comment. -/
theorem comments_and_separators_mixed :
    let body := "id Int; /at DateTime // a; b Int\r\n@@map(1); tags String[]"
    '}' ∉ body.toList ∧
      normalForm body = "id Int\n /at DateTime \n@@map(1)\n tags String[]" ∧
      parseModel? (schemaOf "Doc" (normalForm body)) "Doc" = some (.ofDecls
        [⟨"id", "Int", false, false⟩, ⟨"/at", "DateTime", false, false⟩,
          ⟨"tags", "String", false, true⟩]) ∧
      (∃ m, parseModel? (schemaOf "Doc" ("id Int " ++ "//" ++ "/; a" ++ "\na Int")) "Doc" = some m ∧
        parseModel? (schemaOf "Doc" ("id Int " ++ "//" ++ "\na Int")) "Doc" = some m) ∧
      ∃ m, parseModel? (schemaOf "Doc" ("\n" ++ ";".intercalate ["a /", "/ b"] ++ "")) "Doc" = some m ∧
        parseModel? (schemaOf "Doc" ("\n" ++ "\n".intercalate ["a /", "/ b"] ++ "")) "Doc" = some m := by
  intro body
  have hbrace : '}' ∉ body.toList := by decide
  obtain ⟨hnormal, hcomment, hdeclarations⟩ := comments_and_separators isIdentifier_doc
  have hread : parseModel? (schemaOf "Doc" body) "Doc" = some (.ofDecls
      [⟨"id", "Int", false, false⟩, ⟨"/at", "DateTime", false, false⟩,
        ⟨"tags", "String", false, true⟩]) := by
    rw [parseModel?_schemaOf isIdentifier_doc hbrace]
    decide +kernel
  obtain ⟨m, hm, hsame⟩ := hnormal body hbrace
  refine ⟨hbrace, by decide, hsame.trans (hm.symm.trans hread), ?_, ?_⟩
  · exact hcomment "id Int " "/; a" "\na Int" (by decide) (by decide) (.inr ⟨"a Int", by decide⟩)
  · refine hdeclarations "\n" "" ["a /", "/ b"] (by decide) (by decide) (.inr ⟨"", by decide⟩) ?_
    decide +kernel

end Scaffold.Schema
