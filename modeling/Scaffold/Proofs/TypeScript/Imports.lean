import Scaffold.Proofs.Schema.Header
import Scaffold.Proofs.Text.Parts
import Scaffold.Proofs.TypeScript.Lines

/-! The imports and the exported class of a text, as a reader finds them: statements that begin a line.
A printed file has the imports that it is made of and no others. -/

namespace Scaffold.TypeScript
open Text

/-! ## Statements of a text -/

/-- A line begins behind these characters. -/
def StartsLine (before : List Char) : Prop := before = [] ∨ ∃ front, before = front ++ ['\n']

/-- A line of the text begins with this import: the keyword, a clause, and a module between quotes. -/
structure Imports (text clause source : String) : Prop where
  clause_unquoted : '\'' ∉ clause.toList
  source_unquoted : '\'' ∉ source.toList
  stands : ∃ before after, StartsLine before ∧
    text.toList = before ++ ("import" ++ clause ++ quote source).toList ++ after

/-- The names between the braces of an import's clause. -/
def importedNames (clause : String) : List String :=
  let inner := ((clause.toList.dropWhile (· ≠ '{')).drop 1).takeWhile (· ≠ '}')
  (parts trim inner).map String.ofList

/-- A line of the text begins with the declaration of an exported class of this name. -/
def Exports (text name : String) : Prop :=
  ∃ before after, StartsLine before ∧
    text.toList = before ++ ("export class " ++ name ++ " ").toList ++ after

/-! ## Texts and their lines -/

section
variable {xs ys : List (List Char)} {line : List Char}

theorem intercalate_append_lines (xs : List (List Char)) (hys : ys ≠ []) :
    ['\n'].intercalate (xs ++ ys) = xs.flatMap (· ++ ['\n']) ++ ['\n'].intercalate ys := by
  induction xs with
  | nil => rfl
  | cons x xs ih =>
    obtain ⟨z, zs, hzs⟩ := List.exists_cons_of_ne_nil (List.append_ne_nil_of_right_ne_nil xs hys)
    rw [List.cons_append, hzs, List.intercalate_cons_cons, ← hzs, ih, List.flatMap_cons]
    simp only [List.append_assoc]

theorem startsLine_flatMap (xs : List (List Char)) : StartsLine (xs.flatMap (· ++ ['\n'])) := by
  rcases xs.eq_nil_or_concat with rfl | ⟨front, last, rfl⟩
  · exact .inl rfl
  · refine .inr ⟨front.flatMap (· ++ ['\n']) ++ last, ?_⟩
    rw [List.concat_eq_append, List.flatMap_append, List.flatMap_singleton, List.append_assoc]

theorem exists_intercalate_append (xs ys : List (List Char)) :
    ∃ back, ['\n'].intercalate (xs ++ ys) = ['\n'].intercalate xs ++ back := by
  cases ys with
  | nil => exact ⟨[], by rw [List.append_nil, List.append_nil]⟩
  | cons y ys =>
    rcases xs.eq_nil_or_concat with rfl | ⟨front, last, rfl⟩
    · exact ⟨_, rfl⟩
    · refine ⟨'\n' :: ['\n'].intercalate (y :: ys), ?_⟩
      rw [List.concat_eq_append, intercalate_append_lines (front ++ [last]) (List.cons_ne_nil y ys),
        intercalate_append_lines front (List.cons_ne_nil last []), List.flatMap_append]
      simp

/-- What begins a line of a text is the beginning of one of its lines. -/
theorem exists_lines_of_startsLine {before rest : List Char} (hxs : ∀ x ∈ xs, '\n' ∉ x)
    (hne : xs ≠ []) (h : ['\n'].intercalate xs = before ++ rest) (hstart : StartsLine before) :
    ∃ front back, xs = front ++ back ∧ ['\n'].intercalate back = rest := by
  rcases hstart with rfl | ⟨front, rfl⟩
  · exact ⟨[], xs, rfl, h⟩
  · refine ⟨front.splitOn '\n', rest.splitOn '\n', ?_, List.intercalate_splitOn '\n'⟩
    rw [← List.splitOn_append_cons_self, List.append_cons, ← h, List.splitOn_intercalate '\n' hxs hne]

theorem head?_of_intercalate {c : Char} (hc : c ≠ '\n')
    (h : (['\n'].intercalate (line :: ys)).head? = some c) : line.head? = some c := by
  cases line with
  | cons d ds =>
    cases ys with
    | nil => exact h
    | cons y ys => exact h
  | nil =>
    cases ys with
    | nil => cases h
    | cons y ys => exact absurd (Option.some.inj h).symm hc

/-- Two lists agree up to the first item of a kind. -/
theorem eq_of_first {α : Type} {p : α → Prop} {as bs cs ds : List α} {x y : α} (has : ∀ a ∈ as, ¬ p a)
    (hcs : ∀ c ∈ cs, ¬ p c) (hx : p x) (hy : p y) (h : as ++ x :: bs = cs ++ y :: ds) :
    as = cs ∧ x = y ∧ bs = ds := by
  rcases List.append_eq_append_iff.1 h with ⟨more, rfl, hrest⟩ | ⟨more, rfl, hrest⟩
  · cases more with
    | nil => exact ⟨(List.append_nil as).symm, List.cons.inj hrest⟩
    | cons c more =>
      rw [← (List.cons.inj hrest).1] at hcs
      exact absurd hx (hcs x (by simp))
  · cases more with
    | nil =>
      obtain ⟨hxy, hback⟩ := List.cons.inj hrest
      exact ⟨List.append_nil cs, hxy.symm, hback.symm⟩
    | cons c more =>
      rw [← (List.cons.inj hrest).1] at has
      exact absurd hy (has y (by simp))

/-- Two texts agree up to the first separator. -/
theorem eq_of_append_cons {sep : Char} {as bs cs ds : List Char} (has : sep ∉ as) (hcs : sep ∉ cs)
    (h : as ++ sep :: bs = cs ++ sep :: ds) : as = cs ∧ bs = ds := by
  obtain ⟨hfront, -, hback⟩ := eq_of_first (p := (· = sep)) (fun a ha heq => has (heq ▸ ha))
    (fun c hc heq => hcs (heq ▸ hc)) rfl rfl h
  exact ⟨hfront, hback⟩

end

/-! ## The lines that are imports -/

/-- What a printed import has between the keyword and the module. -/
def Import.clause (i : Import) : String :=
  if i.onePerLine then
    " \x7b\n" ++ String.join (i.names.map fun name => indent (name ++ ",") ++ "\n") ++ "\x7d from "
  else " " ++ braces (commas i.names) ++ " from "

theorem Import.print_lines (i : Import) :
    ['\n'].intercalate (i.lines.map String.toList) =
      ("import" ++ i.clause ++ quote i.source).toList ++ [';'] := by
  unfold Import.lines Import.clause
  split
  · have hsplit : ("import \x7b" :: i.names.map (fun n => indent (n ++ ",")) ++
        ["\x7d from " ++ quote i.source ++ ";"]).map String.toList =
        ("import \x7b" :: i.names.map (fun n => indent (n ++ ","))).map String.toList ++
          [("\x7d from " ++ quote i.source ++ ";").toList] := by
      simp
    rw [hsplit, intercalate_append_lines _ (List.cons_ne_nil _ _)]
    simp [String.toList_join, List.flatMap_map]
  · simp [quote]

/-- What the lines of a class begin with. -/
def classHeads : List Char := ['@', 'e', ' ', '\x7d']

/-- Only the first line of an import begins with its keyword. -/
theorem Import.heads {i : Import} {line : String} {back : List String} (h : i.lines = line :: back) :
    BeginsWith 'i' line ∧ ∀ other ∈ back, ∀ c, BeginsWith c other → c ∈ classHeads := by
  have hkeyword : ∀ rest : String, BeginsWith 'i' ("import " ++ rest) := by
    intro rest
    unfold BeginsWith
    rw [String.toList_append]
    rfl
  unfold Import.lines at h
  simp only [String.append_assoc] at h
  split at h
  · cases h
    refine ⟨hkeyword "\x7b", List.forall_mem_append.2 ⟨List.forall_mem_map.2 fun n _ c hbegins => ?_,
      List.forall_mem_singleton.2 fun c hbegins => ?_⟩⟩
    · rw [hbegins.of_indent]
      decide
    · rw [hbegins.of_append rfl]
      decide
  · cases h
    exact ⟨hkeyword _, fun _ => nofun⟩

theorem Decorator.head_mem (d : Decorator) :
    ∀ line ∈ d.lines, ∀ c, BeginsWith c line → c ∈ classHeads := by
  have hat : ∀ (back : String) (c : Char), BeginsWith c ("@" ++ back) → c ∈ classHeads := by
    intro back c h
    rw [h.of_append rfl]
    decide
  unfold Decorator.lines Decorator.print
  simp only [String.append_assoc]
  split
  · exact List.forall_mem_singleton.2 (hat _)
  · refine List.forall_mem_cons.2 ⟨hat _, List.forall_mem_append.2 ⟨?_, ?_⟩⟩
    · refine List.forall_mem_map.2 fun l _ c h => ?_
      rw [h.of_indent]
      decide
    · refine List.forall_mem_singleton.2 fun c h => ?_
      rw [h.of_head rfl]
      decide

theorem ClassDecl.head_mem (c : ClassDecl) :
    ∀ line ∈ c.lines, ∀ d, BeginsWith d line → d ∈ classHeads := by
  have hheader : ∀ (back : String) (d : Char), BeginsWith d (c.header ++ back) → d ∈ classHeads := by
    intro back d h
    unfold ClassDecl.header at h
    simp only [String.append_assoc] at h
    rw [h.of_append rfl]
    decide
  refine List.forall_mem_append.2 ⟨List.forall_mem_flatMap.2 fun d _ => d.head_mem, ?_⟩
  cases c.members with
  | none => exact List.forall_mem_singleton.2 (hheader _)
  | some members =>
    refine List.forall_mem_cons.2 ⟨hheader _, List.forall_mem_append.2 ⟨?_, ?_⟩⟩
    · intro line hline d h
      rcases of_mem_inner hline with rfl | ⟨m, hm, l, hl, rfl⟩
      · cases h
      · rw [h.of_indent]
        decide
    · refine List.forall_mem_singleton.2 fun d h => ?_
      rw [h.of_head rfl]
      decide

/-- The lines of a file behind its imports. -/
def SourceFile.rest (f : SourceFile) : List String :=
  (if f.imports.isEmpty then [] else [""]) ++
    f.constants.flatMap (fun (name, values) => [constantLine name values, ""]) ++ f.exported.lines

theorem SourceFile.lines_eq (f : SourceFile) : f.lines = f.imports.flatMap Import.lines ++ f.rest := by
  unfold SourceFile.lines SourceFile.rest
  simp only [List.append_assoc]

theorem SourceFile.not_beginsWith (f : SourceFile) : ∀ line ∈ f.rest, ¬ BeginsWith 'i' line := by
  refine List.forall_mem_append.2 ⟨List.forall_mem_append.2 ⟨?_, ?_⟩, fun line hline h =>
    absurd (f.exported.head_mem line hline _ h) (by decide)⟩
  · split
    · exact fun _ => nofun
    · exact List.forall_mem_singleton.2 (by decide)
  · refine List.forall_mem_flatMap.2 fun c _ => List.forall_mem_cons.2 ⟨fun h => ?_, ?_⟩
    · unfold constantLine at h
      simp only [String.append_assoc] at h
      exact absurd (h.of_append rfl) (by decide)
    · exact List.forall_mem_singleton.2 (by decide)

/-- A line that begins as an import is the first line of one. -/
theorem exists_import_of_line {imports : List Import} {rest front more : List String} {line : String}
    (hrest : ∀ other ∈ rest, ¬ BeginsWith 'i' other)
    (h : imports.flatMap Import.lines ++ rest = front ++ line :: more) (hline : BeginsWith 'i' line) :
    ∃ i ∈ imports, ∃ back, line :: more = i.lines ++ back := by
  induction imports generalizing front with
  | nil =>
    have hmem : line ∈ rest := by
      rw [List.flatMap_nil, List.nil_append] at h
      simp [h]
    exact absurd hline (hrest line hmem)
  | cons i imports ih =>
    rw [List.flatMap_cons, List.append_assoc] at h
    rcases List.append_eq_append_iff.1 h with ⟨before, rfl, hback⟩ | ⟨inside, hinside, hback⟩
    · obtain ⟨j, hj, back, hlines⟩ := ih hback
      exact ⟨j, List.mem_cons_of_mem i hj, back, hlines⟩
    · cases inside with
      | nil =>
        have hagain : imports.flatMap Import.lines ++ rest = [] ++ line :: more := hback.symm
        obtain ⟨j, hj, back, hlines⟩ := ih hagain
        exact ⟨j, List.mem_cons_of_mem i hj, back, hlines⟩
      | cons first inside =>
        obtain ⟨rfl, rfl⟩ := List.cons.inj hback
        cases front with
        | nil => exact ⟨i, List.mem_cons_self, _, by rw [hinside]; rfl⟩
        | cons head front =>
          exact absurd ((Import.heads hinside).2 line (by simp) _ hline) (by decide)

theorem SourceFile.toList_print (f : SourceFile) :
    f.print.toList = ['\n'].intercalate (f.lines.map String.toList) := by
  unfold SourceFile.print
  rw [String.toList_intercalate]
  rfl

theorem SourceFile.lines_ne_nil (f : SourceFile) : f.lines ≠ [] := by
  have hclass : f.exported.lines ≠ [] := by
    unfold ClassDecl.lines
    dsimp only
    split <;> simp
  unfold SourceFile.lines
  exact List.append_ne_nil_of_right_ne_nil _ hclass

/-- The lines of a text. -/
def linesOf (text : String) : List String := (text.toList.splitOn '\n').map String.ofList

theorem SourceFile.linesOf_print {f : SourceFile} (hflat : f.IsFlat) : linesOf f.print = f.lines := by
  have hlines : ∀ line ∈ f.lines.map String.toList, '\n' ∉ line := List.forall_mem_map.2 hflat.lines
  unfold linesOf
  rw [f.toList_print, List.splitOn_intercalate '\n' hlines (by simpa using f.lines_ne_nil),
    List.map_map]
  simp [Function.comp_def]

/-- Lines of a file are where lines of its text begin. -/
theorem SourceFile.exists_text_of_lines {f : SourceFile} {front lines back : List String}
    (h : f.lines = front ++ lines ++ back) (hne : lines ≠ []) :
    ∃ before after, StartsLine before ∧
      f.print.toList = before ++ ['\n'].intercalate (lines.map String.toList) ++ after := by
  obtain ⟨after, hafter⟩ :=
    exists_intercalate_append (lines.map String.toList) (back.map String.toList)
  refine ⟨_, after, startsLine_flatMap (front.map String.toList), ?_⟩
  rw [f.toList_print, h, List.append_assoc, List.map_append, List.map_append,
    intercalate_append_lines, hafter, List.append_assoc]
  simp [hne]

theorem toList_statement (clause source : String) (after : List Char) :
    ("import" ++ clause ++ quote source).toList ++ after =
      "import".toList ++ (clause.toList ++ '\'' :: (source.toList ++ '\'' :: after)) := by
  simp [quote]

/-- A text printed line by line has the imports of its file and no others. -/
theorem SourceFile.imports_iff {f : SourceFile} (hflat : f.IsFlat)
    (hquotes : ∀ i ∈ f.imports, '\'' ∉ i.clause.toList ∧ '\'' ∉ i.source.toList)
    {clause source : String} :
    Imports f.print clause source ↔ ∃ i ∈ f.imports, clause = i.clause ∧ source = i.source := by
  constructor
  · rintro ⟨hclause, hsource, before, after, hstart, htext⟩
    have hlines : ∀ line ∈ f.lines.map String.toList, '\n' ∉ line :=
      List.forall_mem_map.2 hflat.lines
    rw [f.toList_print, List.append_assoc, toList_statement] at htext
    obtain ⟨front, back, hsplit, hback⟩ := exists_lines_of_startsLine hlines
      (by simpa using f.lines_ne_nil) htext hstart
    obtain ⟨above, below, hwhole, -, rfl⟩ := List.map_eq_append_iff.1 hsplit
    cases below with
    | nil => cases hback
    | cons line more =>
      have hline : BeginsWith 'i' line := by
        have hhead : (['\n'].intercalate (line.toList :: more.map String.toList)).head? = some 'i' := by
          rw [← List.map_cons, hback]
          rfl
        exact head?_of_intercalate (by decide) hhead
      rw [f.lines_eq] at hwhole
      obtain ⟨i, hi, tail, hlines⟩ := exists_import_of_line f.not_beginsWith hwhole hline
      obtain ⟨rest, hrest⟩ :=
        exists_intercalate_append (i.lines.map String.toList) (tail.map String.toList)
      rw [hlines, List.map_append, hrest, i.print_lines, List.append_assoc, toList_statement] at hback
      -- neither a clause nor a module holds the quote that ends it
      obtain ⟨hiClause, hiSource⟩ := hquotes i hi
      obtain ⟨hsame, hback⟩ := eq_of_append_cons hiClause hclause (List.append_cancel_left hback)
      obtain ⟨hsame', -⟩ := eq_of_append_cons hiSource hsource hback
      exact ⟨i, hi, (String.toList_inj.1 hsame).symm, (String.toList_inj.1 hsame').symm⟩
  · rintro ⟨i, hi, rfl, rfl⟩
    obtain ⟨hclause, hsource⟩ := hquotes i hi
    obtain ⟨above, below, himports⟩ := List.append_of_mem hi
    have hlines : f.lines =
        above.flatMap Import.lines ++ i.lines ++ (below.flatMap Import.lines ++ f.rest) := by
      rw [f.lines_eq, himports]
      simp
    have hne : i.lines ≠ [] := by
      unfold Import.lines
      split <;> simp
    obtain ⟨before, after, hstart, htext⟩ := f.exists_text_of_lines hlines hne
    rw [i.print_lines] at htext
    exact ⟨hclause, hsource, before, ';' :: after, hstart, by simpa using htext⟩

/-! ## The names of an import -/

/-- A word as names are: letters, digits and `_`. -/
def IsName (name : String) : Prop := name ≠ "" ∧ ∀ c ∈ name.toList, Schema.isNameChar c = true

theorem IsName.ne {name : String} (h : IsName name) {c d : Char} (hc : c ∈ name.toList)
    (hd : Schema.isNameChar d = false) : c ≠ d := by
  rintro rfl
  exact absurd (h.2 c hc) (by simp [hd])

theorem IsName.exists_head {name : String} (h : IsName name) :
    ∃ c cs, name.toList = c :: cs ∧ Schema.isNameChar c = true := by
  obtain ⟨c, cs, heq⟩ := List.exists_cons_of_ne_nil fun hnil => h.1 (String.toList_inj.1 hnil)
  exact ⟨c, cs, heq, h.2 c (heq ▸ List.mem_cons_self)⟩

theorem IsName.append {a b : String} (ha : IsName a) (hb : IsName b) : IsName (a ++ b) := by
  refine ⟨fun h => ha.1 ?_, fun c hc => ?_⟩
  · rw [← String.toList_inj, String.toList_append] at h
    exact String.toList_inj.1 (List.append_eq_nil_iff.1 h).1
  · rw [String.toList_append] at hc
    exact (List.mem_append.1 hc).elim (ha.2 c) (hb.2 c)

instance (name : String) : Decidable (IsName name) :=
  decidable_of_iff (name ≠ "" ∧ name.toList.all Schema.isNameChar = true)
    (by rw [List.all_eq_true, IsName])

theorem IsName.flat {name : String} (h : IsName name) : Flat name := by
  intro hmem
  exact absurd (h.2 _ hmem) (by decide)

theorem IsName.isPart {name : String} (h : IsName name) : IsPart name.toList where
  ne_nil hnil := h.1 (String.toList_inj.1 hnil)
  comma hmem := h.ne hmem (by decide) rfl
  trimmed := isTrimmed_of_not_blank fun c hc => Schema.not_blank_of_isNameChar (h.2 c hc)

theorem parts_commas {part : List Char} {rest : List (List Char)} (h : ∀ n ∈ part :: rest, IsPart n) :
    parts trim (' ' :: ([',', ' '].intercalate (part :: rest) ++ [' '])) = part :: rest := by
  have hspace : ∀ c ∈ [' '], isBlank c = true := List.forall_mem_singleton.2 (by decide)
  have hback : ∀ c ∈ ([] : List Char), isBlank c = true := nofun
  induction rest generalizing part with
  | nil =>
    rw [List.intercalate_singleton]
    exact (h part List.mem_cons_self).parts_padded hspace hspace
  | cons next rest ih =>
    obtain ⟨hpart, hrest⟩ := List.forall_mem_cons.1 h
    have hsplit : ' ' :: ([',', ' '].intercalate (part :: next :: rest) ++ [' ']) =
        [' '] ++ (part ++ []) ++ ',' :: (' ' :: ([',', ' '].intercalate (next :: rest) ++ [' '])) := by
      rw [List.intercalate_cons_cons]
      simp
    rw [hsplit, parts_append, hpart.parts_padded hspace hback, ih hrest]
    rfl

theorem parts_commas_lines {names : List String} (h : ∀ name ∈ names, IsName name) :
    parts trim ('\n' :: names.flatMap fun n => ' ' :: ' ' :: (n.toList ++ [',', '\n'])) =
      names.map String.toList := by
  induction names with
  | nil => rfl
  | cons name names ih =>
    obtain ⟨hname, hnames⟩ := List.forall_mem_cons.1 h
    have hfront : ∀ c ∈ ['\n', ' ', ' '], isBlank c = true := List.all_eq_true.1 (by decide)
    have hback : ∀ c ∈ ([] : List Char), isBlank c = true := nofun
    have hsplit : '\n' :: (name :: names).flatMap (fun n => ' ' :: ' ' :: (n.toList ++ [',', '\n'])) =
        ['\n', ' ', ' '] ++ (name.toList ++ []) ++
          ',' :: '\n' :: names.flatMap fun n => ' ' :: ' ' :: (n.toList ++ [',', '\n']) := by
      simp
    rw [hsplit, parts_append, hname.isPart.parts_padded hfront hback, ih hnames]
    rfl

/-- The text can stand between quotes on its line. -/
def Quotable (text : String) : Prop := ∀ c ∈ text.toList, c ≠ '\n' ∧ c ≠ '\''

instance (text : String) : Decidable (Quotable text) :=
  decidable_of_iff (text.toList.all (fun c => c ≠ '\n' ∧ c ≠ '\'') = true)
    (by simp [Quotable])

theorem Quotable.append {a b : String} (ha : Quotable a) (hb : Quotable b) : Quotable (a ++ b) := by
  unfold Quotable
  rw [String.toList_append]
  exact List.forall_mem_append.2 ⟨ha, hb⟩

theorem Quotable.flat {text : String} (h : Quotable text) : Flat text :=
  fun hmem => (h _ hmem).1 rfl

/-- An import of words, from a module that can stand between quotes. -/
structure Import.IsClean (i : Import) : Prop where
  names : ∀ name ∈ i.names, IsName name
  source : Quotable i.source

theorem Import.IsClean.isFlat {i : Import} (h : i.IsClean) : i.IsFlat :=
  ⟨fun name hname => (h.names name hname).flat, h.source.flat⟩

theorem Import.IsClean.source_unquoted {i : Import} (h : i.IsClean) : '\'' ∉ i.source.toList :=
  fun hmem => (h.source _ hmem).2 rfl

theorem Import.IsClean.clause_unquoted {i : Import} (h : i.IsClean) : '\'' ∉ i.clause.toList := by
  have hname : ∀ name ∈ i.names, '\'' ∉ name.toList := by
    intro name hname hmem
    exact absurd ((h.names name hname).2 _ hmem) (by decide)
  unfold Import.clause
  split
  · have hjoined : '\'' ∉ (String.join (i.names.map fun n => indent (n ++ ",") ++ "\n")).toList := by
      refine not_mem_join (List.forall_mem_map.2 fun name hmem => ?_)
      simpa [indent] using hname name hmem
    simpa using hjoined
  · have hcommas := not_mem_commas (by decide) hname
    simpa [braces] using hcommas

theorem importedNames_braces {clause : String} {inner back : List Char}
    (hclause : clause.toList = ' ' :: '{' :: (inner ++ '}' :: back)) (hinner : '}' ∉ inner) :
    importedNames clause = (parts trim inner).map String.ofList := by
  have hbrace : ∀ c ∈ inner, decide (c ≠ '}') = true := fun c hc => decide_eq_true fun heq => hinner (heq ▸ hc)
  unfold importedNames
  rw [hclause, List.dropWhile_cons_of_pos (by decide), List.dropWhile_cons_of_neg (by decide)]
  dsimp only [List.drop]
  rw [List.takeWhile_append_of_pos hbrace, List.takeWhile_cons_of_neg (by decide), List.append_nil]

/-- The clause of an import on one line has the names of the import. -/
theorem importedNames_clause {i : Import} (hline : i.onePerLine = false) (hne : i.names ≠ [])
    (hnames : ∀ name ∈ i.names, IsName name) : importedNames i.clause = i.names := by
  obtain ⟨name, names, heq⟩ := List.exists_cons_of_ne_nil hne
  have hbrace : '}' ∉ ' ' :: ([',', ' '].intercalate (name.toList :: names.map String.toList) ++ [' ']) := by
    have hlist : '}' ∉ [',', ' '].intercalate (name.toList :: names.map String.toList) := by
      intro hmem
      rcases mem_intercalate hmem with hsep | ⟨n, hn, hc⟩
      · exact absurd hsep (by decide)
      · rw [← List.map_cons, ← heq] at hn
        obtain ⟨word, hword, rfl⟩ := List.mem_map.1 hn
        exact (hnames word hword).ne hc (by decide) rfl
    simpa using hlist
  have hclause : i.clause.toList = ' ' :: '{' ::
      (' ' :: ([',', ' '].intercalate (name.toList :: names.map String.toList) ++ [' ']) ++
        '}' :: " from ".toList) := by
    unfold Import.clause braces commas
    rw [hline, heq]
    simp [String.toList_intercalate]
  have hparts : ∀ n ∈ name.toList :: names.map String.toList, IsPart n := by
    rw [← List.map_cons, ← heq]
    exact List.forall_mem_map.2 fun n hn => (hnames n hn).isPart
  rw [importedNames_braces hclause hbrace, parts_commas hparts, heq]
  simp

/-- The clause of an import with one name a line has the names of the import. -/
theorem importedNames_clause_lines {i : Import} (hline : i.onePerLine = true)
    (hnames : ∀ name ∈ i.names, IsName name) : importedNames i.clause = i.names := by
  have hclause : i.clause.toList = ' ' :: '{' ::
      (('\n' :: i.names.flatMap fun n => ' ' :: ' ' :: (n.toList ++ [',', '\n'])) ++ '}' :: " from ".toList) := by
    unfold Import.clause
    rw [hline]
    simp [String.toList_join, List.flatMap_map, indent]
  have hbrace : '}' ∉ '\n' :: i.names.flatMap fun n => ' ' :: ' ' :: (n.toList ++ [',', '\n']) := by
    have hlist : ∀ n ∈ i.names, '}' ∉ n.toList := fun n hn hmem => (hnames n hn).ne hmem (by decide) rfl
    simpa using hlist
  rw [importedNames_braces hclause hbrace, parts_commas_lines hnames]
  simp

/-! ## The exported class -/

theorem ClassDecl.exists_header (c : ClassDecl) :
    ∃ front rest back, c.lines = front ++ ("export class " ++ c.name ++ " " ++ rest) :: back := by
  have hheader : ∀ body, ∃ rest, c.header ++ (" " ++ body) = "export class " ++ c.name ++ " " ++ rest := by
    intro body
    unfold ClassDecl.header
    cases c.base with
    | none => exact ⟨body, by simp [String.append_assoc]⟩
    | some base =>
      refine ⟨"extends " ++ base ++ " " ++ body, ?_⟩
      rw [← String.toList_inj]
      simp
  unfold ClassDecl.lines
  cases c.members with
  | none =>
    obtain ⟨rest, hrest⟩ := hheader "\x7b\x7d"
    exact ⟨_, rest, [], by rw [← hrest]; rfl⟩
  | some members =>
    obtain ⟨rest, hrest⟩ := hheader "\x7b"
    exact ⟨_, rest, _, by rw [← hrest]; rfl⟩

/-- A printed file exports its class. -/
theorem SourceFile.exports_print (f : SourceFile) : Exports f.print f.exported.name := by
  obtain ⟨front, rest, back, hclass⟩ := f.exported.exists_header
  have hlines : f.lines = f.imports.flatMap Import.lines ++
      (if f.imports.isEmpty then [] else [""]) ++
      f.constants.flatMap (fun (name, values) => [constantLine name values, ""]) ++ front ++
      ["export class " ++ f.exported.name ++ " " ++ rest] ++ back := by
    unfold SourceFile.lines
    rw [hclass]
    simp only [List.append_assoc, List.singleton_append]
  obtain ⟨before, after, hstart, htext⟩ := f.exists_text_of_lines hlines (List.cons_ne_nil _ _)
  refine ⟨before, rest.toList ++ after, hstart, ?_⟩
  rw [htext, List.map_singleton, List.intercalate_singleton, String.toList_append, List.append_assoc,
    List.append_assoc, List.append_assoc]

end Scaffold.TypeScript
