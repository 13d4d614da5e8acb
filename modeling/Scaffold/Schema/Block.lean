import Scaffold.Text.Blank

/-!
The `model <Name> { … }` blocks of a schema, in source order.

A header stands at the start of a line: blanks and tabs, the word `model`, white space, a name of
ASCII letters, digits and underscores that starts with no digit, optional white space, and an
opening brace. The body ends at the first closing brace, and the search goes on behind it. A header
with no closing brace after it ends the scan.
-/

namespace Scaffold

structure ModelBlock where
  name : String
  body : String
deriving DecidableEq, Repr

namespace Schema
open Text

def isIndent (c : Char) : Bool := c == ' ' || c == '\t'

def isNameStart (c : Char) : Bool := c.isAlpha || c == '_'

def isNameChar (c : Char) : Bool := c.isAlphanum || c == '_'

/-- Reads a header at the start of a line: the name, and the text after the opening brace. -/
def readHeader? (cs : List Char) : Option (List Char × List Char) :=
  match cs.dropWhile isIndent with
  | 'm' :: 'o' :: 'd' :: 'e' :: 'l' :: gap :: rest =>
    if isBlank gap then
      match rest.dropWhile isBlank with
      | [] => none
      | first :: more =>
        if isNameStart first then
          match (more.dropWhile isNameChar).dropWhile isBlank with
          | '{' :: body => some (first :: more.takeWhile isNameChar, body)
          | _ => none
        else none
    else none
  | _ => none

/-- Splits at the first closing brace: the body, and the text after the brace. -/
def readBody? : List Char → Option (List Char × List Char)
  | [] => none
  | '}' :: rest => some ([], rest)
  | c :: cs => (readBody? cs).map fun (body, rest) => (c :: body, rest)

theorem length_dropWhile_le (p : Char → Bool) (cs : List Char) :
    (cs.dropWhile p).length ≤ cs.length := (List.dropWhile_suffix p).length_le

theorem length_of_readHeader? {cs name rest : List Char}
    (h : readHeader? cs = some (name, rest)) : rest.length < cs.length := by
  have h0 := length_dropWhile_le isIndent cs
  unfold readHeader? at h
  split at h <;> try contradiction
  rename_i gap r hcs
  rw [hcs] at h0
  split at h <;> try contradiction
  have h1 := length_dropWhile_le isBlank r
  split at h <;> try contradiction
  rename_i first more hr
  rw [hr] at h1
  split at h <;> try contradiction
  have h2 := length_dropWhile_le isNameChar more
  have h3 := length_dropWhile_le isBlank (more.dropWhile isNameChar)
  split at h <;> try contradiction
  rename_i body hb
  rw [hb] at h3
  simp only [Option.some.injEq, Prod.mk.injEq] at h
  obtain ⟨_, rfl⟩ := h
  simp only [List.length_cons] at h0 h1 h3
  omega

theorem readBody?_cons {c : Char} {cs : List Char} (h : c ≠ '}') :
    readBody? (c :: cs) = (readBody? cs).map fun (body, rest) => (c :: body, rest) := by
  rw [readBody?]
  exact h

theorem readBody?_eq_some {cs body rest : List Char} :
    readBody? cs = some (body, rest) ↔ cs = body ++ '}' :: rest ∧ '}' ∉ body := by
  induction cs generalizing body with
  | nil => simp [readBody?]
  | cons c cs ih =>
    by_cases hc : c = '}'
    · subst hc
      cases body with
      | nil => simp [readBody?, eq_comm]
      | cons b bs =>
        simp only [readBody?, Option.some.injEq, Prod.mk.injEq, List.nil_eq, reduceCtorEq,
          false_and, List.cons_append, List.cons.injEq, List.mem_cons, not_or, false_iff, not_and]
        exact fun h hb => absurd h.1 hb
    · rw [readBody?_cons hc]
      cases body with
      | nil => simp [hc]
      | cons b bs =>
        constructor
        · intro h
          obtain ⟨⟨b', r'⟩, hb, heq⟩ := Option.map_eq_some_iff.1 h
          simp only [Prod.mk.injEq, List.cons.injEq] at heq
          obtain ⟨⟨rfl, rfl⟩, rfl⟩ := heq
          obtain ⟨rfl, hn⟩ := ih.1 hb
          exact ⟨by simp, by simp [hn, Ne.symm hc]⟩
        · rintro ⟨heq, hn⟩
          simp only [List.cons_append, List.cons.injEq] at heq
          obtain ⟨rfl, rfl⟩ := heq
          rw [ih.2 ⟨rfl, fun h => hn (by simp [h])⟩]
          rfl

/-- The blocks of a text, of which the first character stands at the start of a line or not. -/
def blocksFrom (atLineStart : Bool) (cs : List Char) : List ModelBlock :=
  match _hcs : cs with
  | [] => []
  | c :: rest =>
    match _hh : (if atLineStart then readHeader? cs else none) with
    | none => blocksFrom (c == '\n') rest
    | some (name, opened) =>
      match _hb : readBody? opened with
      | none => []
      | some (body, after) => ⟨String.ofList name, String.ofList body⟩ :: blocksFrom false after
termination_by cs.length
decreasing_by
  · simp
  · have h1 : readHeader? cs = some (name, opened) := by
      cases atLineStart <;> simp_all
    have h2 := length_of_readHeader? h1
    obtain ⟨rfl, _⟩ := readBody?_eq_some.1 _hb
    simp only [List.length_append, List.length_cons, _hcs] at h2 ⊢
    omega

/-- Every model block of a schema, in source order. -/
def blocks (source : String) : List ModelBlock := blocksFrom true source.toList

/-- The names of the blocks, in source order. -/
def modelNames (source : String) : List String := (blocks source).map (·.name)

/-- The first block with exactly this name. -/
def findBlock? (source name : String) : Option ModelBlock :=
  (blocks source).find? (·.name == name)

end Schema

end Scaffold
