import Scaffold.Proofs.Schema.Header

/-! The scanner against a description that does not scan. Offsets count characters of the source.
The description has exactly one solution from every offset, and `blocksFrom` finds it. -/

namespace Scaffold.Schema
open Text

/-- The start of the text, or behind a line feed. -/
def AtLineStart (cs : List Char) : Nat → Prop
  | 0 => True
  | o + 1 => cs[o]? = some '\n'

/-- A header with this name stands at a line start `p` and ends just before `q`. -/
def HeaderAt (cs name : List Char) (p q : Nat) : Prop :=
  AtLineStart cs p ∧ p ≤ q ∧ q ≤ cs.length ∧ IsHeader name (cs.extract p q)

/-- A closing brace stands at `q` or later. -/
def ClosedAfter (cs : List Char) (q : Nat) : Prop := ∃ j, q ≤ j ∧ cs[j]? = some '}'

/-- Where a block stands: its header from `start`, its body from `opened`, its brace at `closed`. -/
structure Span where
  name : List Char
  start : Nat
  opened : Nat
  closed : Nat

structure Span.Fits (cs : List Char) (s : Span) : Prop where
  header : HeaderAt cs s.name s.start s.opened
  nonempty : s.start < s.opened
  ordered : s.opened ≤ s.closed
  body : '}' ∉ cs.extract s.opened s.closed
  brace : cs[s.closed]? = some '}'

def Span.Covers (s : Span) (p : Nat) : Prop := s.start ≤ p ∧ p ≤ s.closed

def Span.block (cs : List Char) (s : Span) : ModelBlock :=
  ⟨String.ofList s.name, String.ofList (cs.extract s.opened s.closed)⟩

/-- The blocks of a text from an offset on: each fits, they stand apart and in order, and every
header that some closing brace follows starts inside one of them. -/
structure ScannedFrom (cs : List Char) (o : Nat) (spans : List Span) : Prop where
  fits : ∀ s ∈ spans, s.Fits cs
  apart : spans.Pairwise fun a b => a.closed < b.start
  start : ∀ s ∈ spans, o ≤ s.start
  complete : ∀ name p q, HeaderAt cs name p q → o ≤ p → ClosedAfter cs q → ∃ s ∈ spans, s.Covers p

/-! ## Offsets and the readers -/

theorem drop_eq_extract_append {cs : List Char} {p q : Nat} (h : p ≤ q) :
    cs.drop p = cs.extract p q ++ cs.drop q := by
  have hq : (cs.drop p).drop (q - p) = cs.drop q := by
    rw [List.drop_drop]
    congr 1
    omega
  rw [List.extract_eq_take_drop, ← hq, List.take_append_drop]

theorem getElem?_mem_extract {cs : List Char} {p q j : Nat} {c : Char} (hp : p ≤ j) (hq : j < q)
    (h : cs[j]? = some c) : c ∈ cs.extract p q := by
  rw [List.extract_eq_take_drop]
  refine List.mem_iff_getElem?.2 ⟨j - p, ?_⟩
  rw [List.getElem?_take_of_lt (by omega), List.getElem?_drop, ← h]
  congr 1
  omega

theorem split_of_drop {cs before after : List Char} {c : Char} {q : Nat}
    (h : cs.drop q = before ++ c :: after) :
    cs.extract q (q + before.length) = before ∧ cs[q + before.length]? = some c ∧
      cs.drop (q + before.length + 1) = after := by
  refine ⟨?_, ?_, ?_⟩
  · rw [List.extract_eq_take_drop, h, Nat.add_sub_cancel_left, List.take_left]
  · rw [← List.getElem?_drop, h, List.getElem?_append_right (Nat.le_refl _), Nat.sub_self]
    rfl
  · rw [Nat.add_assoc, ← List.drop_drop, h, ← List.drop_drop, List.drop_left]
    rfl

theorem readHeader?_at {cs name : List Char} {p q : Nat} (h : HeaderAt cs name p q) :
    readHeader? (cs.drop p) = some (name, cs.drop q) := by
  obtain ⟨-, hle, -, hheader⟩ := h
  rw [drop_eq_extract_append hle]
  exact readHeader?_of_isHeader hheader _

theorem headerAt_of_readHeader? {cs name rest : List Char} {p : Nat} (hline : AtLineStart cs p)
    (h : readHeader? (cs.drop p) = some (name, rest)) :
    ∃ q, HeaderAt cs name p q ∧ rest = cs.drop q := by
  obtain ⟨text, hdrop, hheader⟩ := readHeader?_eq_some.1 h
  have hlen := congrArg List.length hdrop
  rw [List.length_drop, List.length_append] at hlen
  have htext : cs.extract p (p + text.length) = text := by
    rw [List.extract_eq_take_drop, hdrop, Nat.add_sub_cancel_left, List.take_left]
  have hpos : 0 < text.length := by
    obtain ⟨indent, gap, space, htext, -⟩ := hheader
    rw [htext, List.length_append]
    exact Nat.lt_add_left _ (by decide)
  refine ⟨p + text.length, ⟨hline, by omega, by omega, ?_⟩, ?_⟩
  · rw [htext]
    exact hheader
  · rw [← List.drop_drop, hdrop, List.drop_left]

theorem HeaderAt.lt {cs name : List Char} {p q : Nat} (h : HeaderAt cs name p q) : p < q := by
  have hlt := length_of_readHeader? (readHeader?_at h)
  obtain ⟨-, -, hle, -⟩ := h
  rw [List.length_drop, List.length_drop] at hlt
  omega

/-- Where a header starts fixes its name and its end. -/
theorem HeaderAt.unique {cs name name' : List Char} {p q q' : Nat} (h : HeaderAt cs name p q)
    (h' : HeaderAt cs name' p q') : name = name' ∧ q = q' := by
  have hread := (readHeader?_at h).symm.trans (readHeader?_at h')
  simp only [Option.some.injEq, Prod.mk.injEq] at hread
  have hlen := congrArg List.length hread.2
  obtain ⟨-, -, hle, -⟩ := h
  obtain ⟨-, -, hle', -⟩ := h'
  rw [List.length_drop, List.length_drop] at hlen
  exact ⟨hread.1, by omega⟩

/-- No closing brace stands inside a header. -/
theorem HeaderAt.le_of_brace {cs name : List Char} {p q j : Nat} (h : HeaderAt cs name p q)
    (hj : cs[j]? = some '}') (hp : p ≤ j) : q ≤ j := by
  obtain ⟨-, -, -, hheader⟩ := h
  rcases Nat.lt_or_ge j q with hlt | hge
  · exact absurd (getElem?_mem_extract hp hlt hj) (brace_not_mem_header hheader)
  · exact hge

theorem readBody?_eq_none {cs : List Char} : readBody? cs = none ↔ '}' ∉ cs := by
  constructor
  · intro h hmem
    obtain ⟨body, rest, rfl, hbody⟩ := List.eq_append_cons_of_mem hmem
    rw [readBody?_eq_some.2 ⟨rfl, hbody⟩] at h
    contradiction
  · intro h
    cases hread : readBody? cs with
    | none => rfl
    | some read =>
      obtain ⟨rfl, -⟩ := readBody?_eq_some.1 hread
      exact absurd (by simp) h

/-! ## What one block does to a description -/

theorem Span.Fits.eq_of_start {cs : List Char} {s s' : Span} (h : s.Fits cs) (h' : s'.Fits cs)
    (hstart : s.start = s'.start) : s = s' := by
  have hheader' := h'.header
  rw [← hstart] at hheader'
  obtain ⟨hname, hopened⟩ := h.header.unique hheader'
  have hclosed : s.closed = s'.closed := by
    rcases Nat.lt_trichotomy s.closed s'.closed with hlt | heq | hgt
    · exact absurd (getElem?_mem_extract (hopened ▸ h.ordered) hlt h.brace) h'.body
    · exact heq
    · exact absurd (getElem?_mem_extract (hopened ▸ h'.ordered) hgt h'.brace) h.body
  cases s
  cases s'
  simp_all

theorem scannedFrom_end {cs : List Char} {o : Nat} {spans : List Span}
    (h : ∀ name p q, HeaderAt cs name p q → o ≤ p → ¬ ClosedAfter cs q) :
    ScannedFrom cs o spans ↔ spans = [] := by
  constructor
  · intro hscan
    cases spans with
    | nil => rfl
    | cons s more =>
      have hfits := hscan.fits s (by simp)
      exact absurd ⟨s.closed, hfits.ordered, hfits.brace⟩
        (h _ _ _ hfits.header (hscan.start s (by simp)))
  · rintro rfl
    exact ⟨by simp, .nil, by simp, fun name p q hheader ho hj => absurd hj (h name p q hheader ho)⟩

theorem scannedFrom_skip {cs : List Char} {o : Nat} {spans : List Span}
    (h : ∀ name q, ¬ HeaderAt cs name o q) :
    ScannedFrom cs o spans ↔ ScannedFrom cs (o + 1) spans := by
  have hne : ∀ {name p q}, HeaderAt cs name p q → p ≠ o := by
    rintro name p q hheader rfl
    exact h name q hheader
  constructor
  · intro hscan
    refine ⟨hscan.fits, hscan.apart, fun s hs => ?_, fun name p q hheader ho hj => ?_⟩
    · have hstart := hscan.start s hs
      have hother := hne (hscan.fits s hs).header
      omega
    · exact hscan.complete name p q hheader (by omega) hj
  · intro hscan
    refine ⟨hscan.fits, hscan.apart, fun s hs => ?_, fun name p q hheader ho hj => ?_⟩
    · exact Nat.le_of_succ_le (hscan.start s hs)
    · have hother := hne hheader
      exact hscan.complete name p q hheader (by omega) hj

theorem scannedFrom_block {cs : List Char} {s : Span} {spans : List Span} (h : s.Fits cs) :
    ScannedFrom cs s.start spans ↔ ∃ more, spans = s :: more ∧ ScannedFrom cs (s.closed + 1) more := by
  have hlt := h.nonempty
  have hle := h.ordered
  constructor
  · intro hscan
    obtain ⟨s', hs', hcovers⟩ := hscan.complete _ _ _ h.header (Nat.le_refl _)
      ⟨s.closed, hle, h.brace⟩
    have hstart := hscan.start s' hs'
    obtain rfl := h.eq_of_start (hscan.fits s' hs') (Nat.le_antisymm hstart hcovers.1)
    cases spans with
    | nil => simp at hs'
    | cons a more =>
      obtain ⟨hfirst, hmore⟩ := List.pairwise_cons.1 hscan.apart
      have ha := hscan.fits a (by simp)
      have haStart := hscan.start a (by simp)
      have has : a = s := by
        rcases List.mem_cons.1 hs' with heq | hmem
        · exact heq.symm
        · have hafter := hfirst s hmem
          have := ha.nonempty
          have := ha.ordered
          omega
      subst has
      refine ⟨more, rfl, fun b hb => hscan.fits b (by simp [hb]), hmore, hfirst, ?_⟩
      intro name p q hheader ho hj
      obtain ⟨b, hb, hbp⟩ := hscan.complete name p q hheader (by omega) hj
      rcases List.mem_cons.1 hb with rfl | hb
      · exact absurd hbp.2 (by omega)
      · exact ⟨b, hb, hbp⟩
  · rintro ⟨more, rfl, hscan⟩
    refine ⟨?_, List.pairwise_cons.2 ⟨hscan.start, hscan.apart⟩, ?_, ?_⟩
    · intro b hb
      rcases List.mem_cons.1 hb with rfl | hb
      · exact h
      · exact hscan.fits b hb
    · intro b hb
      rcases List.mem_cons.1 hb with rfl | hb
      · exact Nat.le_refl _
      · have := hscan.start b hb
        omega
    · intro name p q hheader ho hj
      rcases Nat.lt_or_ge s.closed p with hp | hp
      · obtain ⟨b, hb, hbp⟩ := hscan.complete name p q hheader hp hj
        exact ⟨b, by simp [hb], hbp⟩
      · exact ⟨s, by simp, ho, hp⟩

/-! ## What the scanner does at one offset -/

theorem blocksFrom_skip {b : Bool} {c : Char} {rest : List Char}
    (h : b = true → readHeader? (c :: rest) = none) :
    blocksFrom b (c :: rest) = blocksFrom (c == '\n') rest := by
  rw [blocksFrom]
  split
  · rfl
  · rename_i name opened hread
    cases b with
    | false => simp at hread
    | true => rw [if_pos rfl, h rfl] at hread; contradiction

theorem blocksFrom_open {cs name opened : List Char} (h : readHeader? cs = some (name, opened))
    (hbody : '}' ∉ opened) : blocksFrom true cs = [] := by
  cases cs with
  | nil => rw [blocksFrom]
  | cons c rest =>
    rw [blocksFrom]
    split
    · rename_i hread
      rw [if_pos rfl, h] at hread
      contradiction
    · rename_i name' opened' hread
      rw [if_pos rfl, h] at hread
      cases hread
      split
      · rfl
      · rename_i hread
        rw [readBody?_eq_none.2 hbody] at hread
        contradiction

theorem blocksFrom_block {cs name body after : List Char}
    (h : readHeader? cs = some (name, body ++ '}' :: after)) (hbody : '}' ∉ body) :
    blocksFrom true cs = ⟨String.ofList name, String.ofList body⟩ :: blocksFrom false after := by
  cases cs with
  | nil => exact absurd (length_of_readHeader? h) (by simp)
  | cons c rest =>
    rw [blocksFrom]
    split
    · rename_i hread
      rw [if_pos rfl, h] at hread
      contradiction
    · rename_i name' opened' hread
      rw [if_pos rfl, h] at hread
      cases hread
      split
      · rename_i hread
        rw [readBody?_eq_some.2 ⟨rfl, hbody⟩] at hread
        contradiction
      · rename_i hread
        rw [readBody?_eq_some.2 ⟨rfl, hbody⟩] at hread
        cases hread
        rfl

/-! ## The scan -/

/-- From every offset there is exactly one description, and the scanner finds its blocks. -/
theorem exists_scan (cs : List Char) (o : Nat) (b : Bool) (hb : b = true ↔ AtLineStart cs o) :
    ∃ spans, (∀ others, ScannedFrom cs o others ↔ others = spans) ∧
      blocksFrom b (cs.drop o) = spans.map (Span.block cs) := by
  rcases Nat.lt_or_ge o cs.length with ho | ho
  · have hdrop := List.drop_eq_getElem_cons ho
    by_cases hheader : ∃ name q, HeaderAt cs name o q
    · obtain ⟨name, q, hheader⟩ := hheader
      obtain rfl : b = true := hb.2 hheader.1
      have hread := readHeader?_at hheader
      by_cases hbrace : '}' ∈ cs.drop q
      · obtain ⟨body, after, hsplit, hbody⟩ := List.eq_append_cons_of_mem hbrace
        obtain ⟨hextract, hbraceAt, hafter⟩ := split_of_drop hsplit
        let s : Span := ⟨name, o, q, q + body.length⟩
        have hfits : s.Fits cs :=
          ⟨hheader, hheader.lt, Nat.le_add_right _ _, hextract ▸ hbody, hbraceAt⟩
        have hlt := hheader.lt
        obtain ⟨more, hunique, hmore⟩ := exists_scan cs (s.closed + 1) false (by
          simp [AtLineStart, hfits.brace])
        refine ⟨s :: more, fun others => ?_, ?_⟩
        · rw [scannedFrom_block (s := s) hfits]
          simp [hunique]
        · rw [blocksFrom_block (hsplit ▸ hread) hbody, ← hafter, hmore]
          simp [Span.block, s, hextract]
      · refine ⟨[], fun others => scannedFrom_end ?_, blocksFrom_open hread hbrace⟩
        rintro name' p q' hother hp ⟨j, hj, hjb⟩
        have hq := hheader.le_of_brace hjb (Nat.le_trans hp (Nat.le_trans (Nat.le_of_lt hother.lt) hj))
        refine hbrace (List.mem_iff_getElem?.2 ⟨j - q, ?_⟩)
        rw [List.getElem?_drop, ← hjb]
        congr 1
        omega
    · obtain ⟨spans, hunique, hspans⟩ := exists_scan cs (o + 1) (cs[o] == '\n') (by
        simp [AtLineStart, List.getElem?_eq_getElem ho])
      refine ⟨spans, fun others => ?_, ?_⟩
      · rw [← hunique]
        exact scannedFrom_skip fun name q h => hheader ⟨name, q, h⟩
      · rw [hdrop, ← hspans]
        refine blocksFrom_skip fun htrue => ?_
        cases hread : readHeader? (cs[o] :: cs.drop (o + 1)) with
        | none => rfl
        | some read =>
          obtain ⟨q, h, -⟩ := headerAt_of_readHeader? (hb.1 htrue) (hdrop ▸ hread)
          exact absurd ⟨_, q, h⟩ hheader
  · refine ⟨[], fun others => scannedFrom_end ?_, ?_⟩
    · intro name p q h hp
      have := h.lt
      exact absurd h.2.2.1 (by omega)
    · rw [List.drop_eq_nil_of_le ho, blocksFrom]
      rfl
termination_by cs.length - o

/-! ## Offsets in bytes -/

/-- The byte at which the character with this index starts. -/
def byteAt (source : String) (n : Nat) : String.Pos.Raw :=
  ⟨(String.ofList (source.toList.take n)).utf8ByteSize⟩

/-- The body of a block is a slice of the source, cut at character boundaries, and so is the rest
behind the one byte of its closing brace. -/
structure Span.IsSlice (source : String) (s : Span) : Prop where
  opened : (byteAt source s.opened).IsValid source
  closed : (byteAt source s.closed).IsValid source
  behind : (byteAt source s.closed).inc.IsValid source
  body : source.toByteArray.extract (byteAt source s.opened).byteIdx (byteAt source s.closed).byteIdx =
    (s.block source.toList).body.toByteArray

theorem isValid_byteAt (source : String) (n : Nat) : (byteAt source n).IsValid source :=
  String.Pos.Raw.isValid_iff_exists_take_toList.2 ⟨n, rfl⟩

theorem byteAt_inc {source : String} {n : Nat} (h : source.toList[n]? = some '}') :
    (byteAt source n).inc = byteAt source (n + 1) := by
  have htake : source.toList.take (n + 1) = source.toList.take n ++ ['}'] := by
    rw [List.take_add_one, h]
    rfl
  unfold byteAt String.Pos.Raw.inc
  rw [htake, String.ofList_append, String.utf8ByteSize_append]
  rfl

theorem extract_middle (before middle after : String) :
    (before ++ middle ++ after).toByteArray.extract before.utf8ByteSize
      (before ++ middle).utf8ByteSize = middle.toByteArray := by
  rw [String.toByteArray_append, ← String.size_toByteArray, ← String.size_toByteArray,
    ByteArray.extract_append_size_left, String.toByteArray_append]
  exact ByteArray.extract_append_eq_right rfl ByteArray.size_append

theorem extract_byteAt (source : String) {p q : Nat} (h : p ≤ q) :
    source.toByteArray.extract (byteAt source p).byteIdx (byteAt source q).byteIdx =
      (String.ofList (source.toList.extract p q)).toByteArray := by
  have htake : String.ofList (source.toList.take q) =
      String.ofList (source.toList.take p) ++ String.ofList (source.toList.extract p q) := by
    rw [← String.ofList_append, List.extract_eq_take_drop, ← List.take_add, Nat.add_sub_cancel' h]
  have hsource : source =
      String.ofList (source.toList.take q) ++ String.ofList (source.toList.drop q) := by
    rw [← String.ofList_append, List.take_append_drop, String.ofList_toList]
  have hmiddle := extract_middle (String.ofList (source.toList.take p))
    (String.ofList (source.toList.extract p q)) (String.ofList (source.toList.drop q))
  rwa [← htake, ← hsource] at hmiddle

theorem Span.Fits.isSlice {source : String} {s : Span} (h : s.Fits source.toList) :
    s.IsSlice source where
  opened := isValid_byteAt source s.opened
  closed := isValid_byteAt source s.closed
  behind := by
    rw [byteAt_inc h.brace]
    exact isValid_byteAt source _
  body := extract_byteAt source h.ordered

/-! ## The blocks of a source -/

theorem isIdentifier_of_mem_blocks {source : String} {b : ModelBlock} (h : b ∈ blocks source) :
    IsIdentifier b.name.toList := by
  obtain ⟨spans, hunique, hspans⟩ := exists_scan source.toList 0 true (by simp [AtLineStart])
  have hblocks : blocks source = spans.map (Span.block source.toList) := hspans
  rw [hblocks] at h
  obtain ⟨s, hs, rfl⟩ := List.mem_map.1 h
  obtain ⟨-, -, -, -, gap, space, -, -, -, -, hname, -⟩ := (((hunique spans).2 rfl).fits s hs).header
  rw [Span.block, String.toList_ofList]
  exact hname

theorem isIdentifier_of_mem_modelNames {source model : String} (h : model ∈ modelNames source) :
    IsIdentifier model.toList := by
  obtain ⟨b, hb, rfl⟩ := List.mem_map.1 h
  exact isIdentifier_of_mem_blocks hb

theorem name_of_findBlock? {source model : String} {b : ModelBlock}
    (h : findBlock? source model = some b) : b.name = model := by
  unfold findBlock? at h
  simpa using List.find?_some h

theorem isIdentifier_of_findBlock? {source model : String} {b : ModelBlock}
    (h : findBlock? source model = some b) : IsIdentifier model.toList := by
  rw [← name_of_findBlock? h]
  exact isIdentifier_of_mem_blocks (List.mem_of_find?_eq_some h)

/-- Every name of the list is the name of a block that is found by it. -/
theorem exists_findBlock? {source model : String} (h : model ∈ modelNames source) :
    ∃ b, findBlock? source model = some b ∧ b.name = model := by
  obtain ⟨b, hb, hname⟩ := List.mem_map.1 h
  cases hfind : findBlock? source model with
  | none =>
    have hno := List.find?_eq_none.1 hfind b hb
    simp [hname] at hno
  | some found => exact ⟨found, rfl, name_of_findBlock? hfind⟩

theorem blocks_eq_iff (source : String) (found : List ModelBlock) :
    blocks source = found ↔
      ∃ spans, ScannedFrom source.toList 0 spans ∧ found = spans.map (Span.block source.toList) := by
  obtain ⟨spans, hunique, hspans⟩ := exists_scan source.toList 0 true (by simp [AtLineStart])
  have hblocks : blocks source = spans.map (Span.block source.toList) := hspans
  constructor
  · rintro rfl
    exact ⟨spans, (hunique spans).2 rfl, hblocks⟩
  · rintro ⟨others, hscan, rfl⟩
    rw [hblocks, (hunique others).1 hscan]

/-- The blocks of a source are those of the one description of its whole text, and every body is a
slice of the source. -/
theorem blocks_sound_and_complete (source : String) :
    (∀ found, blocks source = found ↔
      ∃ spans, ScannedFrom source.toList 0 spans ∧ found = spans.map (Span.block source.toList)) ∧
      ∀ spans, ScannedFrom source.toList 0 spans → ∀ s ∈ spans, s.IsSlice source := by
  refine ⟨fun found => blocks_eq_iff source found, ?_⟩
  intro spans hscan s hs
  exact (hscan.fits s hs).isSlice

end Scaffold.Schema
