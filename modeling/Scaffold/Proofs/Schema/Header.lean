import Scaffold.Schema.Block

/-! What a header is, said without reading it from left to right, and that `readHeader?` reads
exactly the headers. The parts of a header are made of characters that cannot begin the next part,
so where a header starts determines its name and its end. -/

namespace Scaffold.Schema
open Text

/-! ## Classes of characters -/

theorem toNat_of_isNameChar {c : Char} (h : isNameChar c = true) :
    (48 ≤ c.toNat ∧ c.toNat ≤ 57) ∨ (65 ≤ c.toNat ∧ c.toNat ≤ 90) ∨ c.toNat = 95 ∨
      (97 ≤ c.toNat ∧ c.toNat ≤ 122) := by
  delta isNameChar Char.isAlphanum Char.isAlpha Char.isUpper Char.isLower Char.isDigit at h
  simp only [Bool.or_eq_true, Bool.and_eq_true, decide_eq_true_eq, beq_iff_eq, ge_iff_le,
    UInt32.le_iff_toNat_le] at h
  rcases h with ((⟨low, high⟩ | ⟨low, high⟩) | ⟨low, high⟩) | rfl
  · exact .inr (.inl ⟨low, high⟩)
  · exact .inr (.inr (.inr ⟨low, high⟩))
  · exact .inl ⟨low, high⟩
  · exact .inr (.inr (.inl rfl))

theorem isNameChar_of_isNameStart {c : Char} (h : isNameStart c = true) : isNameChar c = true := by
  simp only [isNameStart, isNameChar, Char.isAlphanum, Bool.or_eq_true] at h ⊢
  exact h.imp_left .inl

theorem not_blank_of_isNameChar {c : Char} (h : isNameChar c = true) : isBlank c = false := by
  have hn := toNat_of_isNameChar h
  simp only [isBlank, Bool.or_eq_false_iff, Bool.and_eq_false_iff, decide_eq_false_iff_not,
    beq_eq_false_iff_ne]
  omega

theorem not_isNameChar_of_isBlank {c : Char} (h : isBlank c = true) : isNameChar c = false := by
  cases hn : isNameChar c with
  | false => rfl
  | true => rw [not_blank_of_isNameChar hn] at h; contradiction

theorem isBlank_of_isIndent {c : Char} (h : isIndent c = true) : isBlank c = true := by
  simp only [isIndent, Bool.or_eq_true, beq_iff_eq] at h
  rcases h with rfl | rfl <;> decide

theorem ne_brace_of_isBlank {c : Char} (h : isBlank c = true) : c ≠ '}' := by
  rintro rfl
  exact absurd h (by decide)

theorem ne_brace_of_isNameChar {c : Char} (h : isNameChar c = true) : c ≠ '}' := by
  rintro rfl
  exact absurd h (by decide)

/-! ## Headers -/

/-- An ASCII letter or an underscore, followed by such characters and digits. -/
def IsIdentifier (name : List Char) : Prop :=
  ∃ first more, name = first :: more ∧ isNameStart first = true ∧ ∀ c ∈ more, isNameChar c = true

/-- `text` is a header that gives the name `name`. -/
def IsHeader (name text : List Char) : Prop :=
  ∃ indent gap space,
    text = indent ++ ['m', 'o', 'd', 'e', 'l'] ++ gap ++ name ++ space ++ ['{'] ∧
      (∀ c ∈ indent, isIndent c = true) ∧ gap ≠ [] ∧ (∀ c ∈ gap, isBlank c = true) ∧
      IsIdentifier name ∧ ∀ c ∈ space, isBlank c = true

theorem isNameChar_of_mem {name : List Char} (h : IsIdentifier name) :
    ∀ c ∈ name, isNameChar c = true := by
  obtain ⟨first, more, rfl, hfirst, hmore⟩ := h
  intro c hc
  rcases List.mem_cons.1 hc with rfl | hc
  · exact isNameChar_of_isNameStart hfirst
  · exact hmore c hc

theorem brace_not_mem_header {name text : List Char} (h : IsHeader name text) : '}' ∉ text := by
  obtain ⟨indent, gap, space, rfl, hindent, -, hgap, hname, hspace⟩ := h
  simp only [List.mem_append, not_or]
  refine ⟨⟨⟨⟨⟨fun hc => ?_, by decide⟩, fun hc => ?_⟩, fun hc => ?_⟩, fun hc => ?_⟩, by decide⟩
  · exact ne_brace_of_isBlank (isBlank_of_isIndent (hindent _ hc)) rfl
  · exact ne_brace_of_isBlank (hgap _ hc) rfl
  · exact ne_brace_of_isNameChar (isNameChar_of_mem hname _ hc) rfl
  · exact ne_brace_of_isBlank (hspace _ hc) rfl

/-! Where a run of characters of one class ends. -/

theorem dropWhile_run {p : Char → Bool} {run : List Char} (hrun : ∀ c ∈ run, p c = true)
    (rest : List Char) (hrest : ∀ c ∈ rest.head?, p c = false) : (run ++ rest).dropWhile p = rest := by
  rw [List.dropWhile_append_of_pos hrun]
  cases rest with
  | nil => rfl
  | cons c cs => exact List.dropWhile_cons_of_neg (by simp [hrest c rfl])

theorem takeWhile_run {p : Char → Bool} {run : List Char} (hrun : ∀ c ∈ run, p c = true)
    (rest : List Char) (hrest : ∀ c ∈ rest.head?, p c = false) : (run ++ rest).takeWhile p = run := by
  rw [List.takeWhile_append_of_pos hrun]
  cases rest with
  | nil => simp
  | cons c cs => rw [List.takeWhile_cons_of_neg (by simp [hrest c rfl]), List.append_nil]

theorem readHeader?_of_isHeader {name text : List Char} (h : IsHeader name text)
    (rest : List Char) : readHeader? (text ++ rest) = some (name, rest) := by
  obtain ⟨indent, gap, space, rfl, hindent, hgap, hgaps, ⟨first, more, rfl, hfirst, hmore⟩, hspace⟩ := h
  obtain ⟨g, gaps, rfl⟩ := List.exists_cons_of_ne_nil hgap
  have hfirst' := not_blank_of_isNameChar (isNameChar_of_isNameStart hfirst)
  have stop : ∀ c ∈ (space ++ '{' :: rest).head?, isNameChar c = false := by
    intro c hc
    cases space with
    | nil =>
      obtain rfl : '{' = c := by simpa using hc
      decide
    | cons s space =>
      obtain rfl : s = c := by simpa using hc
      exact not_isNameChar_of_isBlank (hspace s (by simp))
  have indented := dropWhile_run hindent ('m' :: 'o' :: 'd' :: 'e' :: 'l' :: g ::
    (gaps ++ first :: (more ++ (space ++ '{' :: rest)))) (by simp [isIndent])
  have opened := dropWhile_run (fun c hc => hgaps c (List.mem_cons_of_mem g hc))
    (first :: (more ++ (space ++ '{' :: rest))) (by simpa using hfirst')
  have named := dropWhile_run hmore _ stop
  have spaced := dropWhile_run hspace ('{' :: rest) (by simp [isBlank])
  have read := takeWhile_run hmore _ stop
  have shape : indent ++ ['m', 'o', 'd', 'e', 'l'] ++ g :: gaps ++ first :: more ++ space ++ ['{'] ++
      rest = indent ++ 'm' :: 'o' :: 'd' :: 'e' :: 'l' :: g ::
        (gaps ++ first :: (more ++ (space ++ '{' :: rest))) := by simp
  rw [shape]
  simp only [readHeader?, indented, hgaps g (by simp), if_true, opened, hfirst, named, spaced, read]

theorem of_mem_takeWhile {p : Char → Bool} {cs : List Char} :
    ∀ c ∈ cs.takeWhile p, p c = true := List.all_eq_true.1 List.all_takeWhile

theorem isHeader_of_readHeader? {cs name rest : List Char} (h : readHeader? cs = some (name, rest)) :
    ∃ text, cs = text ++ rest ∧ IsHeader name text := by
  have h0 := List.takeWhile_append_dropWhile (p := isIndent) (l := cs)
  unfold readHeader? at h
  split at h <;> try contradiction
  rename_i g r hcs
  rw [hcs] at h0
  split at h <;> try contradiction
  rename_i hg
  have h1 := List.takeWhile_append_dropWhile (p := isBlank) (l := r)
  split at h <;> try contradiction
  rename_i first more hr
  rw [hr] at h1
  split at h <;> try contradiction
  rename_i hfirst
  have h2 := List.takeWhile_append_dropWhile (p := isNameChar) (l := more)
  have h3 := List.takeWhile_append_dropWhile (p := isBlank) (l := more.dropWhile isNameChar)
  split at h <;> try contradiction
  rename_i body hb
  rw [hb] at h3
  simp only [Option.some.injEq, Prod.mk.injEq] at h
  obtain ⟨rfl, rfl⟩ := h
  refine ⟨_, ?_, cs.takeWhile isIndent, g :: r.takeWhile isBlank,
    (more.dropWhile isNameChar).takeWhile isBlank, rfl, of_mem_takeWhile, by simp, ?_,
    ⟨first, _, rfl, hfirst, of_mem_takeWhile⟩, of_mem_takeWhile⟩
  · simp only [List.append_assoc, List.cons_append, List.nil_append, h3, h2, h1, h0]
  · intro c hc
    rcases List.mem_cons.1 hc with rfl | hc
    · exact hg
    · exact of_mem_takeWhile c hc

/-- The reader accepts exactly the headers, and what it leaves is what stands behind them. -/
theorem readHeader?_eq_some {cs name rest : List Char} :
    readHeader? cs = some (name, rest) ↔ ∃ text, cs = text ++ rest ∧ IsHeader name text := by
  constructor
  · exact isHeader_of_readHeader?
  · rintro ⟨text, rfl, h⟩
    exact readHeader?_of_isHeader h rest

end Scaffold.Schema
