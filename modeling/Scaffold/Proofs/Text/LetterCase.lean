import Scaffold.Text.LetterCase

/-! Letter case. What a change of case does to ASCII is checked letter by letter, and to the rest by the
tables; it makes no line feed and no backslash. -/

namespace Scaffold.Text

/-- What holds of every ASCII character is checked on the codes below 128. -/
theorem of_ascii {p : Char → Prop} (hall : ∀ n < 0x80, p (Char.ofNat n)) {c : Char}
    (h : c.toNat < 0x80) : p c := by
  have hc := hall c.toNat h
  rwa [Char.ofNat_toNat] at hc

theorem eq_of_ofNat {n : Nat} {c : Char} (hc : 0 < c.toNat) (h : Char.ofNat n = c) : n = c.toNat := by
  unfold Char.ofNat at h
  by_cases hvalid : n.isValidChar
  · rw [dif_pos hvalid] at h
    exact congrArg Char.toNat h
  · rw [dif_neg hvalid] at h
    rw [← h] at hc
    exact absurd hc (by decide)

/-- The character is no other character's upper case, as the tables say. -/
structure IsUnreached (c : Char) : Prop where
  pos : 0 < c.toNat
  ascii : ∀ n < 0x80, Char.ofNat n ≠ c → (Char.ofNat n).toUpper ≠ c
  expansions : ∀ p ∈ upperExpansions, c.toNat ∉ p.2
  runs : ∀ r ∈ upperRuns, (c.toNat : Int) < r.first + r.shift ∨ r.last + r.shift < c.toNat

theorem isUnreached_newline : IsUnreached '\n' :=
  ⟨by decide, by decide +kernel, by decide +kernel, by decide +kernel⟩

theorem isUnreached_return : IsUnreached '\r' :=
  ⟨by decide, by decide +kernel, by decide +kernel, by decide +kernel⟩

theorem isUnreached_backslash : IsUnreached '\\' :=
  ⟨by decide, by decide +kernel, by decide +kernel, by decide +kernel⟩

theorem not_mem_toUpper {c d : Char} (hd : IsUnreached d) (h : c ≠ d) : d ∉ toUpper c := by
  intro hmem
  unfold toUpper at hmem
  split at hmem
  · rename_i hlow
    have hupper : c ≠ d → c.toUpper ≠ d := of_ascii (p := fun c => c ≠ d → c.toUpper ≠ d) hd.ascii hlow
    exact hupper h (List.mem_singleton.1 hmem).symm
  · unfold mapCase at hmem
    split at hmem
    · rename_i ns hlookup
      obtain ⟨front, back, hsplit, -⟩ := List.lookup_eq_some_iff.1 hlookup
      obtain ⟨n, hn, hcode⟩ := List.mem_map.1 hmem
      rw [eq_of_ofNat hd.pos hcode] at hn
      refine hd.expansions (c.toNat, ns) ?_ hn
      rw [hsplit]
      exact List.mem_append_right _ List.mem_cons_self
    · split at hmem
      · rename_i run hfind
        have hcode := eq_of_ofNat hd.pos (List.mem_singleton.1 hmem).symm
        have hrun := hd.runs run (List.mem_of_find?_eq_some hfind)
        have hcovers := List.find?_some hfind
        have hpos := hd.pos
        simp only [CaseRun.covers, Bool.and_eq_true, decide_eq_true_eq] at hcovers
        omega
      · exact h (List.mem_singleton.1 hmem).symm

theorem not_mem_capitalize {cs : List Char} {d : Char} (hd : IsUnreached d) (h : d ∉ cs) :
    d ∉ capitalize cs := by
  cases cs with
  | nil => exact h
  | cons c cs =>
    rw [List.mem_cons, not_or] at h
    rw [capitalize, List.mem_append, not_or]
    exact ⟨not_mem_toUpper hd fun heq => h.1 heq.symm, h.2⟩

end Scaffold.Text
