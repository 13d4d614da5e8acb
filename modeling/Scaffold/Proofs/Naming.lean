import Scaffold.Naming
import Scaffold.Proofs.Schema.Header
import Scaffold.Proofs.Text.LetterCase
import Scaffold.Proofs.Text.Path

/-! Folder names. An identifier in kebab case is a plain name, and stays one with an ending. Two
identifiers share their folder if they differ in letter case alone and break into the same words. -/

namespace Scaffold
open Text

theorem Path.isPlain_of_mem {name : String} (hslash : '/' ∉ name.toList) {c : Char}
    (hc : c ∈ name.toList) (hdot : c ≠ '.') : IsPlain name := by
  refine ⟨hslash, ?_, ?_⟩
  · unfold isIdle
    rw [Bool.or_eq_false_iff, beq_eq_false_iff_ne, beq_eq_false_iff_ne]
    constructor
    · intro h
      simp [h] at hc
    · intro h
      simp [h, hdot] at hc
  · intro h
    simp [h, hdot] at hc

namespace Naming

theorem toNat_toLower (c : Char) :
    c.toLower.toNat = if 65 ≤ c.toNat ∧ c.toNat ≤ 90 then c.toNat + 32 else c.toNat := by
  have hrange : (c.val ≥ 'A'.val ∧ c.val ≤ 'Z'.val) ↔ 65 ≤ c.toNat ∧ c.toNat ≤ 90 := Iff.rfl
  unfold Char.toLower
  split
  · rename_i hupper
    have hn := hrange.1 hupper
    rw [if_pos hn]
    show (c.val + 32).toNat = c.val.toNat + 32
    rw [UInt32.toNat_add]
    have hval : c.val.toNat ≤ 90 := hn.2
    have h32 : (32 : UInt32).toNat = 32 := rfl
    omega
  · rename_i hupper
    rw [if_neg (fun hn => hupper (hrange.2 hn))]

theorem isAscii_of_isNameChar {c : Char} (h : Schema.isNameChar c = true) : c.toNat < 0x80 := by
  have hc := Schema.toNat_of_isNameChar h
  omega

theorem toLower_of_isNameChar {c : Char} (h : Schema.isNameChar c = true) :
    toLower c = [c.toLower] := toLower_of_ascii (isAscii_of_isNameChar h)

theorem toLower_ne {c d : Char} (h : Schema.isNameChar c = true) (hd : d.toNat < 48) :
    c.toLower ≠ d := by
  have hc := Schema.toNat_of_isNameChar h
  have hlower := toNat_toLower c
  intro heq
  rw [heq] at hlower
  split at hlower <;> omega

/-- Small letters, digits, `_` and `-`. -/
def isFolderChar (c : Char) : Bool := c.isLower || c.isDigit || c == '_' || c == '-'

theorem ne_of_isFolderChar {c d : Char} (h : isFolderChar c = true) (hd : isFolderChar d = false) :
    c ≠ d := by
  rintro rfl
  rw [h] at hd
  cases hd

theorem isFolderChar_toLower {c : Char} (h : Schema.isNameChar c = true) :
    isFolderChar c.toLower = true :=
  of_ascii (p := fun c => Schema.isNameChar c = true → isFolderChar c.toLower = true)
    (by decide +kernel) (isAscii_of_isNameChar h) h

theorem mem_kebabFrom {previous : Option Char} {cs : List Char}
    (h : ∀ c ∈ cs, Schema.isNameChar c = true) :
    ∀ c ∈ kebabFrom previous cs, isFolderChar c = true := by
  induction cs generalizing previous with
  | nil => simp [kebabFrom]
  | cons d cs ih =>
    intro c hc
    have hd := h d (by simp)
    rw [kebabFrom, toLower_of_isNameChar hd, List.mem_append, List.mem_append] at hc
    rcases hc with (hc | hc) | hc
    · split at hc
      · obtain rfl : c = '-' := by simpa using hc
        decide
      · simp at hc
    · obtain rfl : c = d.toLower := by simpa using hc
      exact isFolderChar_toLower hd
    · exact ih (fun x hx => h x (by simp [hx])) c hc

theorem kebabFrom_ne_nil {previous : Option Char} {cs : List Char} (hne : cs ≠ [])
    (h : ∀ c ∈ cs, Schema.isNameChar c = true) : kebabFrom previous cs ≠ [] := by
  obtain ⟨d, ds, rfl⟩ := List.exists_cons_of_ne_nil hne
  rw [kebabFrom, toLower_of_isNameChar (h d (by simp))]
  simp

theorem mem_kebab {model : String} (h : Schema.IsIdentifier model.toList) :
    ∀ c ∈ (kebab model).toList, isFolderChar c = true := by
  unfold kebab
  rw [String.toList_ofList]
  exact mem_kebabFrom (Schema.isNameChar_of_mem h)

theorem exists_mem_kebab {model : String} (h : Schema.IsIdentifier model.toList) :
    ∃ c ∈ (kebab model).toList, c ≠ '.' := by
  have hne : (kebab model).toList ≠ [] := by
    unfold kebab
    rw [String.toList_ofList]
    refine kebabFrom_ne_nil ?_ (Schema.isNameChar_of_mem h)
    obtain ⟨first, more, heq, -⟩ := h
    simp [heq]
  obtain ⟨c, cs, hcs⟩ := List.exists_cons_of_ne_nil hne
  have hc : c ∈ (kebab model).toList := by simp [hcs]
  exact ⟨c, hc, ne_of_isFolderChar (mem_kebab h c hc) (by decide)⟩

/-- The folder name of an identifier between any texts without a separator is a plain name. -/
theorem isPlain_around_kebab {model front back : String} (h : Schema.IsIdentifier model.toList)
    (hfront : '/' ∉ front.toList) (hback : '/' ∉ back.toList) :
    Path.IsPlain (front ++ kebab model ++ back) := by
  obtain ⟨c, hc, hdot⟩ := exists_mem_kebab h
  refine Path.isPlain_of_mem ?_ (c := c) (by simp [hc]) hdot
  rw [String.toList_append, String.toList_append, List.mem_append, List.mem_append, not_or, not_or]
  exact ⟨⟨hfront, fun hslash => ne_of_isFolderChar (mem_kebab h _ hslash) (by decide) rfl⟩, hback⟩

theorem isPlain_kebab {model : String} (h : Schema.IsIdentifier model.toList) :
    Path.IsPlain (kebab model) := by
  have hkebab : Path.IsPlain ("" ++ kebab model ++ "") := isPlain_around_kebab h (by decide) (by decide)
  rwa [String.empty_append, String.append_empty] at hkebab

/-! ## Identifiers with the same folder -/

/-- The small letters of a name, each with whether it begins a new word. -/
def spelled (previous : Option Char) : List Char → List (Bool × Char)
  | [] => []
  | c :: cs => (beginsWord previous c cs.head?, c.toLower) :: spelled (some c) cs

def dashed (letters : List (Bool × Char)) : List Char :=
  letters.flatMap fun (begins, c) => if begins then ['-', c] else [c]

theorem kebabFrom_eq_dashed {previous : Option Char} {cs : List Char}
    (h : ∀ c ∈ cs, Schema.isNameChar c = true) :
    kebabFrom previous cs = dashed (spelled previous cs) := by
  induction cs generalizing previous with
  | nil => rfl
  | cons c cs ih =>
    rw [kebabFrom, toLower_of_isNameChar (h c (by simp)), ih fun d hd => h d (by simp [hd])]
    cases hbegins : beginsWord previous c cs.head? <;> simp [dashed, spelled, hbegins]

theorem ne_dash_of_mem_spelled {previous : Option Char} {cs : List Char}
    (h : ∀ c ∈ cs, Schema.isNameChar c = true) : ∀ p ∈ spelled previous cs, p.2 ≠ '-' := by
  induction cs generalizing previous with
  | nil => simp [spelled]
  | cons c cs ih =>
    intro p hp
    rcases List.mem_cons.1 hp with rfl | hp
    · exact toLower_ne (h c (by simp)) (by decide)
    · exact ih (fun d hd => h d (by simp [hd])) p hp

/-- Letters that are no dashes can be read off behind their dashes. -/
theorem dashed_injective {xs ys : List (Bool × Char)} (hxs : ∀ p ∈ xs, p.2 ≠ '-')
    (hys : ∀ p ∈ ys, p.2 ≠ '-') (h : dashed xs = dashed ys) : xs = ys := by
  induction xs generalizing ys with
  | nil =>
    cases ys with
    | nil => rfl
    | cons y ys =>
      obtain ⟨begins, c⟩ := y
      cases begins <;> simp [dashed] at h
  | cons x xs ih =>
    obtain ⟨begins, c⟩ := x
    have hc : c ≠ '-' := hxs (begins, c) (by simp)
    cases ys with
    | nil => cases begins <;> simp [dashed] at h
    | cons y ys =>
      obtain ⟨begins', d⟩ := y
      have hd : d ≠ '-' := hys (begins', d) (by simp)
      have htail : dashed xs = dashed ys → xs = ys :=
        ih (fun p hp => hxs p (by simp [hp])) fun p hp => hys p (by simp [hp])
      change (if begins then ['-', c] else [c]) ++ dashed xs =
        (if begins' then ['-', d] else [d]) ++ dashed ys at h
      -- a dash in front of one letter and not of the other would be that other letter
      cases begins <;> cases begins' <;> simp [hc, hd.symm] at h
      · rw [h.1, htail h.2]
      · rw [h.1, htail h.2]

theorem kebab_eq_iff {a b : String} (ha : Schema.IsIdentifier a.toList)
    (hb : Schema.IsIdentifier b.toList) :
    kebab a = kebab b ↔ spelled none a.toList = spelled none b.toList := by
  have hcharsA := Schema.isNameChar_of_mem ha
  have hcharsB := Schema.isNameChar_of_mem hb
  unfold kebab
  rw [String.ofList_inj, kebabFrom_eq_dashed hcharsA, kebabFrom_eq_dashed hcharsB]
  constructor
  · exact dashed_injective (ne_dash_of_mem_spelled hcharsA) (ne_dash_of_mem_spelled hcharsB)
  · intro h
    rw [h]

/-! ## The shape of a folder name -/

theorem getLast?_dashed (letters : List (Bool × Char)) :
    (dashed letters).getLast? = letters.getLast?.map (·.2) := by
  rcases letters.eq_nil_or_concat with rfl | ⟨front, ⟨begins, c⟩, rfl⟩
  · rfl
  · unfold dashed
    rw [List.getLast?_flatMap, List.concat_eq_append, List.reverse_append, List.getLast?_append]
    cases begins <;> rfl

/-- One or more small letters, digits, `_` and `-`, no `-` at the ends. -/
structure IsFolderName (name : String) : Prop where
  ne_nil : name.toList ≠ []
  chars : ∀ c ∈ name.toList, isFolderChar c = true
  first : name.toList.head? ≠ some '-'
  last : name.toList.getLast? ≠ some '-'

theorem isFolderName_kebab {model : String} (h : Schema.IsIdentifier model.toList) :
    IsFolderName (kebab model) := by
  have hchars := Schema.isNameChar_of_mem h
  have hkebab : (kebab model).toList = kebabFrom none model.toList := String.toList_ofList
  refine ⟨?_, mem_kebab h, ?_, ?_⟩
  · obtain ⟨c, hc, -⟩ := exists_mem_kebab h
    exact List.ne_nil_of_mem hc
  · obtain ⟨first, more, heq, -⟩ := h
    rw [heq] at hchars
    have hfirst := hchars first (by simp)
    -- a first letter begins no new word
    have hstart : beginsWord none first more.head? = false := Bool.and_false _
    rw [hkebab, heq, kebabFrom, hstart, toLower_of_isNameChar hfirst]
    intro hdash
    exact toLower_ne hfirst (by decide) (Option.some.inj hdash)
  · rw [hkebab, kebabFrom_eq_dashed hchars, getLast?_dashed]
    intro hdash
    obtain ⟨letter, hletter, heq⟩ := Option.map_eq_some_iff.1 hdash
    exact ne_dash_of_mem_spelled hchars letter (List.mem_of_getLast? hletter) heq

end Naming

end Scaffold
