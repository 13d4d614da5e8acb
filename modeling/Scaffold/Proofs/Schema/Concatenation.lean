import Scaffold.Proofs.Schema.Scan
import Scaffold.Schema.Model

/-! Schemas one behind the other. A text that ends with a closing brace leaves nothing open: a header
holds no brace and a body ends at the first one, so nothing that begins in the text reaches beyond its
end, and what stands on the lines behind it is scanned as if it stood alone. -/

namespace Scaffold.Schema
open Text

/-- The text is empty or ends with a closing brace. -/
def EndsClosed (cs : List Char) : Prop := ∀ c ∈ cs.getLast?, c = '}'

theorem endsClosed_toList {text : String} (h : text = "" ∨ ∃ front, text = front ++ "\x7d") :
    EndsClosed text.toList := by
  intro c hc
  rcases h with rfl | ⟨front, rfl⟩
  · cases hc
  · rw [String.toList_append, List.getLast?_append] at hc
    exact (Option.some_inj.1 hc).symm

theorem EndsClosed.of_suffix {cs back : List Char} (h : EndsClosed cs) (hback : back <:+ cs) :
    EndsClosed back := by
  obtain ⟨front, rfl⟩ := hback
  intro c hc
  refine h c ?_
  rw [List.getLast?_append, hc, Option.some_or]
  rfl

theorem EndsClosed.brace_mem {cs : List Char} (h : EndsClosed cs) (hne : cs ≠ []) : '}' ∈ cs := by
  obtain ⟨c, hc⟩ := Option.ne_none_iff_exists'.1 (mt List.getLast?_eq_none_iff.1 hne)
  obtain rfl := h c hc
  exact List.mem_of_getLast? hc

/-! ## The seam -/

/-- A header that begins in the text ends in it. -/
theorem readHeader?_append {cs : List Char} (h : EndsClosed cs) (hne : cs ≠ []) (ds : List Char) :
    readHeader? (cs ++ ds) = (readHeader? cs).map fun (name, opened) => (name, opened ++ ds) := by
  cases hread : readHeader? (cs ++ ds) with
  | some read =>
    obtain ⟨name, rest⟩ := read
    obtain ⟨text, hsplit, hheader⟩ := readHeader?_eq_some.1 hread
    rcases List.append_eq_append_iff.1 hsplit with ⟨more, rfl, -⟩ | ⟨opened, rfl, rfl⟩
    · -- the header would hold the last brace of the text
      exact absurd (List.mem_append_left more (h.brace_mem hne)) (brace_not_mem_header hheader)
    · rw [readHeader?_of_isHeader hheader]
      rfl
  | none =>
    cases hinner : readHeader? cs with
    | none => rfl
    | some read =>
      obtain ⟨text, rfl, hheader⟩ := readHeader?_eq_some.1 hinner
      rw [List.append_assoc, readHeader?_of_isHeader hheader] at hread
      contradiction

/-- A body that begins in the text ends in it, and the rest is such a text again. -/
theorem EndsClosed.exists_body {cs name opened : List Char} (h : EndsClosed cs)
    (hread : readHeader? cs = some (name, opened)) :
    ∃ body after, opened = body ++ '}' :: after ∧ '}' ∉ body ∧ EndsClosed after ∧
      after.length < cs.length := by
  have hlt := length_of_readHeader? hread
  obtain ⟨text, rfl, hheader⟩ := readHeader?_eq_some.1 hread
  have hbrace : '}' ∈ opened := by
    have hne : text ++ opened ≠ [] := by
      intro hnil
      rw [hnil] at hlt
      exact absurd hlt (Nat.not_lt_zero _)
    exact (List.mem_append.1 (h.brace_mem hne)).resolve_left (brace_not_mem_header hheader)
  obtain ⟨body, after, rfl, hbody⟩ := List.eq_append_cons_of_mem hbrace
  refine ⟨body, after, rfl, hbody, h.of_suffix ⟨text ++ (body ++ ['}']), by simp⟩, ?_⟩
  simp only [List.length_append, List.length_cons] at hlt ⊢
  omega

/-- The line behind the text begins a scan of its own. -/
theorem blocksFrom_append_newline {b : Bool} {cs : List Char} (h : EndsClosed cs) (ds : List Char) :
    blocksFrom b (cs ++ '\n' :: ds) = blocksFrom b cs ++ blocksFrom true ds := by
  cases cs with
  | nil =>
    have hfeed : readHeader? ('\n' :: ds) = none := rfl
    rw [List.nil_append, blocksFrom_skip fun _ => hfeed, blocksFrom.eq_1 b]
    rfl
  | cons c rest =>
    have hseam := readHeader?_append h (List.cons_ne_nil c rest) ('\n' :: ds)
    by_cases hskip : b = true → readHeader? (c :: rest) = none
    · have hskip' : b = true → readHeader? (c :: (rest ++ '\n' :: ds)) = none := by
        intro hb
        rw [List.cons_append, hskip hb] at hseam
        exact hseam
      rw [blocksFrom_skip hskip, List.cons_append, blocksFrom_skip hskip']
      exact blocksFrom_append_newline (h.of_suffix (List.suffix_cons c rest)) ds
    · obtain ⟨rfl, hsome⟩ := Classical.not_imp.1 hskip
      obtain ⟨⟨name, opened⟩, hread⟩ := Option.ne_none_iff_exists'.1 hsome
      obtain ⟨body, after, rfl, hbody, hafter, hlt⟩ := h.exists_body hread
      have hread' : readHeader? (c :: rest ++ '\n' :: ds) =
          some (name, body ++ '}' :: (after ++ '\n' :: ds)) := by
        rw [hseam, hread]
        simp
      rw [blocksFrom_block hread hbody, blocksFrom_block hread' hbody, List.cons_append,
        blocksFrom_append_newline hafter ds]
termination_by cs.length

/-! ## Models -/

section
variable {front : String} (h : front = "" ∨ ∃ text, front = text ++ "\x7d") (back : String)
include h

theorem blocks_append : blocks (front ++ "\n" ++ back) = blocks front ++ blocks back := by
  have hseam : (front ++ "\n" ++ back).toList = front.toList ++ '\n' :: back.toList := by simp
  unfold blocks
  rw [hseam, blocksFrom_append_newline (endsClosed_toList h)]

theorem findBlock?_append (name : String) :
    findBlock? (front ++ "\n" ++ back) name =
      (findBlock? front name).or (findBlock? back name) := by
  unfold findBlock?
  rw [blocks_append h, List.find?_append]

theorem parseModel?_append (name : String) :
    parseModel? (front ++ "\n" ++ back) name =
      (parseModel? front name).or (parseModel? back name) := by
  unfold parseModel?
  rw [findBlock?_append h, Option.map_or]

end

/-- Scanning distributes over texts one behind the other, when the first leaves nothing open: the
blocks are those of the first and then those of the second. So a model is read from the first text
that has it, and what stands behind the text of a model never changes what is read for it. -/
theorem scan_distributes {front : String} (h : front = "" ∨ ∃ text, front = text ++ "\x7d")
    (back : String) :
    blocks (front ++ "\n" ++ back) = blocks front ++ blocks back ∧
      (∀ name, parseModel? (front ++ "\n" ++ back) name =
        (parseModel? front name).or (parseModel? back name)) ∧
      ∀ name m, parseModel? front name = some m →
        parseModel? (front ++ "\n" ++ back) name = some m := by
  refine ⟨blocks_append h back, parseModel?_append h back, fun name m hm => ?_⟩
  rw [parseModel?_append h, hm, Option.some_or]

/-- The first text has a stray brace, and in the body of its model a line that looks like a header; the
second has a model of the same name, and a header that is never closed. -/
theorem scan_distributes_over_duplicate :
    let front := "\x7d model X \x7b\nmodel A \x7b\n  model B \x7b\n  id Int\n\x7d"
    let back := "model A \x7b\n  id String\n\x7d\nmodel B \x7b id Int"
    (∃ text, front = text ++ "\x7d") ∧ modelNames (front ++ "\n" ++ back) = ["A", "A"] ∧
      parseModel? (front ++ "\n" ++ back) "A" =
        some (.ofDecls [⟨"model", "B", false, false⟩, ⟨"id", "Int", false, false⟩]) := by
  intro front back
  have hclosed : ∃ text, front = text ++ "\x7d" :=
    ⟨"\x7d model X \x7b\nmodel A \x7b\n  model B \x7b\n  id Int\n", by decide⟩
  have hparse : parseModel? front "A" =
      some (.ofDecls [⟨"model", "B", false, false⟩, ⟨"id", "Int", false, false⟩]) := by
    decide +kernel
  obtain ⟨hblocks, -, hfirst⟩ := scan_distributes (.inr hclosed) back
  refine ⟨hclosed, ?_, hfirst _ _ hparse⟩
  unfold modelNames
  rw [hblocks]
  decide +kernel

end Scaffold.Schema
