import Scaffold.Text.Blank
import Scaffold.Text.Cut

/-! How words, comments and lines behave when a text is put together from parts. White space at the
ends of a text changes none of its words, before a comment or without one. -/

namespace Scaffold.Text

/-! ## Words -/

theorem words_nil : words [] = [] := by
  simp [words]

theorem words_append_of_blank {b : Char} (hb : isBlank b = true) (cs ds : List Char) :
    words (cs ++ b :: ds) = words cs ++ words ds := by
  unfold words
  rw [List.splitOnP_append_cons cs ds hb, List.filter_append]

theorem words_cons_blank {b : Char} (hb : isBlank b = true) (cs : List Char) :
    words (b :: cs) = words cs := by
  have happend := words_append_of_blank hb [] cs
  rwa [words_nil, List.nil_append, List.nil_append] at happend

theorem words_of_not_blank {w : List Char} (hne : w ≠ []) (hw : ∀ c ∈ w, isBlank c = false) :
    words w = [w] := by
  unfold words
  rw [List.splitOnP_eq_singleton hw]
  simp [hne]

theorem words_blank_append {ws : List Char} (hws : ∀ c ∈ ws, isBlank c = true) (cs : List Char) :
    words (ws ++ cs) = words cs := by
  induction ws with
  | nil => rfl
  | cons w ws ih =>
    rw [List.cons_append, words_cons_blank (hws w (by simp))]
    exact ih fun c hc => hws c (by simp [hc])

theorem words_append_blank {ws : List Char} (hws : ∀ c ∈ ws, isBlank c = true) (cs : List Char) :
    words (cs ++ ws) = words cs := by
  cases ws with
  | nil => rw [List.append_nil]
  | cons w ws =>
    have hrest := words_blank_append (fun c hc => hws c (List.mem_cons_of_mem w hc)) []
    rw [List.append_nil, words_nil] at hrest
    rw [words_append_of_blank (hws w (by simp)), hrest, List.append_nil]

/-! ## Pieces -/

/-- The pieces between separators hold none, and the first one begins the text. -/
theorem exists_splitOnP (p : Char → Bool) (cs : List Char) :
    ∃ first more, cs.splitOnP p = first :: more ∧ first <+: cs ∧ (∀ c ∈ first, p c = false) ∧
      ∀ w ∈ more, w <:+: cs ∧ ∀ c ∈ w, p c = false := by
  induction cs with
  | nil => exact ⟨[], [], by simp, List.nil_prefix, by simp, by simp⟩
  | cons c cs ih =>
    obtain ⟨first, more, heq, hfirst, hplain, hmore⟩ := ih
    have hsuffix := List.suffix_cons c cs
    rw [List.splitOnP_cons_eq_if_modifyHead, heq]
    cases hc : p c with
    | true =>
      refine ⟨[], first :: more, rfl, List.nil_prefix, by simp, fun w hw => ?_⟩
      rcases List.mem_cons.1 hw with rfl | hw
      · exact ⟨hfirst.isInfix.trans hsuffix.isInfix, hplain⟩
      · exact ⟨(hmore w hw).1.trans hsuffix.isInfix, (hmore w hw).2⟩
    | false =>
      refine ⟨c :: first, more, rfl, List.cons_prefix_cons.2 ⟨rfl, hfirst⟩, ?_, fun w hw => ?_⟩
      · exact List.forall_mem_cons.2 ⟨hc, hplain⟩
      · exact ⟨(hmore w hw).1.trans hsuffix.isInfix, (hmore w hw).2⟩

theorem of_mem_splitOnP {p : Char → Bool} {cs w : List Char} (h : w ∈ cs.splitOnP p) :
    w <:+: cs ∧ ∀ c ∈ w, p c = false := by
  obtain ⟨first, more, heq, hfirst, hplain, hmore⟩ := exists_splitOnP p cs
  rw [heq] at h
  rcases List.mem_cons.1 h with rfl | hw
  · exact ⟨hfirst.isInfix, hplain⟩
  · exact hmore w hw

theorem of_mem_splitOn {sep : Char} {cs w : List Char} (h : w ∈ cs.splitOn sep) :
    w <:+: cs ∧ sep ∉ w := by
  rw [List.splitOn_eq_splitOnP] at h
  obtain ⟨hwithin, hplain⟩ := of_mem_splitOnP h
  refine ⟨hwithin, fun hmem => ?_⟩
  have hsep := hplain sep hmem
  simp at hsep

theorem mem_intercalate {c : Char} {sep : List Char} {pieces : List (List Char)}
    (h : c ∈ sep.intercalate pieces) : c ∈ sep ∨ ∃ piece ∈ pieces, c ∈ piece := by
  induction pieces with
  | nil => simp at h
  | cons piece pieces ih =>
    cases pieces with
    | nil => exact .inr ⟨piece, by simp, by simpa using h⟩
    | cons next pieces =>
      rw [List.intercalate_cons_cons, List.mem_append, List.mem_append] at h
      rcases h with (hmem | hsep) | hrest
      · exact .inr ⟨piece, by simp, hmem⟩
      · exact .inl hsep
      · refine (ih hrest).imp_right ?_
        rintro ⟨other, hother, hmem⟩
        exact ⟨other, List.mem_cons_of_mem piece hother, hmem⟩

theorem exists_mem_splitOn {sep c : Char} {cs : List Char} (h : c ∈ cs) (hne : c ≠ sep) :
    ∃ piece ∈ cs.splitOn sep, c ∈ piece := by
  have hjoined : [sep].intercalate (cs.splitOn sep) = cs := List.intercalate_splitOn sep
  rw [← hjoined] at h
  exact (mem_intercalate h).resolve_left (by simpa using hne)

/-- Characters put in front of a text join its first piece. -/
theorem splitOn_append_of_not_mem {sep : Char} {front : List Char} (h : sep ∉ front)
    {cs piece : List Char} {pieces : List (List Char)} (hcs : cs.splitOn sep = piece :: pieces) :
    (front ++ cs).splitOn sep = (front ++ piece) :: pieces := by
  induction front with
  | nil => exact hcs
  | cons c front ih =>
    rw [List.mem_cons, not_or] at h
    rw [List.cons_append, List.splitOn_cons_eq_if_modifyHead, ih h.2,
      if_neg (by simpa using Ne.symm h.1)]
    rfl

/-- Characters put at the end of a text join its last piece. -/
theorem exists_last_piece (sep : Char) (cs : List Char) :
    ∃ pieces last, ∀ back, sep ∉ back → (cs ++ back).splitOn sep = pieces ++ [last ++ back] := by
  induction cs with
  | nil =>
    refine ⟨[], [], fun back hback => ?_⟩
    rw [List.nil_append, List.splitOn_eq_singleton hback]
    rfl
  | cons c cs ih =>
    obtain ⟨pieces, last, hlast⟩ := ih
    by_cases hc : c = sep
    · refine ⟨[] :: pieces, last, fun back hback => ?_⟩
      rw [List.cons_append, List.splitOn_cons_eq_if_modifyHead, hlast back hback]
      simp [hc]
    · cases pieces with
      | nil =>
        refine ⟨[], c :: last, fun back hback => ?_⟩
        rw [List.cons_append, List.splitOn_cons_eq_if_modifyHead, hlast back hback]
        simp [hc]
      | cons piece pieces =>
        refine ⟨(c :: piece) :: pieces, last, fun back hback => ?_⟩
        rw [List.cons_append, List.splitOn_cons_eq_if_modifyHead, hlast back hback]
        simp [hc]

theorem map_words_splitOn_append_blank {sep : Char} (hsep : isBlank sep = false) {ws : List Char}
    (hws : ∀ c ∈ ws, isBlank c = true) (cs : List Char) :
    ((cs ++ ws).splitOn sep).map words = (cs.splitOn sep).map words := by
  have hnot : sep ∉ ws := by
    intro hmem
    rw [hws sep hmem] at hsep
    contradiction
  obtain ⟨pieces, last, hlast⟩ := exists_last_piece sep cs
  have hplain := hlast [] (by simp)
  rw [List.append_nil, List.append_nil] at hplain
  rw [hlast ws hnot, hplain, List.map_append, List.map_append, List.map_singleton,
    List.map_singleton, words_append_blank hws]

theorem of_mem_words {cs w : List Char} (h : w ∈ words cs) :
    w ≠ [] ∧ w <:+: cs ∧ ∀ c ∈ w, isBlank c = false := by
  obtain ⟨hmem, hne⟩ := List.mem_filter.1 h
  refine ⟨?_, of_mem_splitOnP hmem⟩
  rintro rfl
  contradiction

/-- The first occurrence of a piece is not before its first character. -/
theorem removeFirst_append {c : Char} {front : List Char} (h : c ∉ front) (piece cs : List Char) :
    removeFirst (c :: piece) (front ++ cs) = front ++ removeFirst (c :: piece) cs := by
  induction front with
  | nil => rfl
  | cons d front ih =>
    rw [List.mem_cons, not_or] at h
    have hd : (c == d) = false := beq_eq_false_iff_ne.2 h.1
    rw [List.cons_append, removeFirst, List.isPrefixOf, hd, Bool.false_and, if_neg Bool.false_ne_true,
      ih h.2, List.cons_append]

theorem occursIn_append {c : Char} {front : List Char} (h : c ∉ front) (piece cs : List Char) :
    occursIn (c :: piece) (front ++ cs) = occursIn (c :: piece) cs := by
  induction front with
  | nil => rfl
  | cons d front ih =>
    rw [List.mem_cons, not_or] at h
    have hd : (c == d) = false := beq_eq_false_iff_ne.2 h.1
    rw [List.cons_append, occursIn, List.isPrefixOf, hd, Bool.false_and, Bool.false_or, ih h.2]

/-! ## Trimming -/

/-- A text is its trimmed form between two runs of white space. -/
theorem exists_blank_trim (cs : List Char) :
    ∃ front back, cs = front ++ trim cs ++ back ∧ (∀ c ∈ front, isBlank c = true) ∧
      ∀ c ∈ back, isBlank c = true := by
  refine ⟨cs.takeWhile isBlank, ((trimStart cs).reverse.takeWhile isBlank).reverse, ?_, ?_, ?_⟩
  · have hback := congrArg List.reverse
      (List.takeWhile_append_dropWhile (p := isBlank) (l := (trimStart cs).reverse))
    rw [List.reverse_append, List.reverse_reverse] at hback
    rw [List.append_assoc, trim, trimEnd, hback, trimStart, List.takeWhile_append_dropWhile]
  · exact List.all_eq_true.1 List.all_takeWhile
  · intro c hc
    exact List.all_eq_true.1 List.all_takeWhile c (List.mem_reverse.1 hc)

theorem trimStart_eq_self {cs : List Char} (h : ∀ c ∈ cs.head?, isBlank c = false) :
    trimStart cs = cs := by
  cases cs with
  | nil => rfl
  | cons c cs => exact trimStart_of_not_blank (h c rfl)

theorem trimEnd_eq_self {cs : List Char} (h : ∀ c ∈ cs.getLast?, isBlank c = false) :
    trimEnd cs = cs := by
  have hback : trimStart cs.reverse = cs.reverse := trimStart_eq_self (by rwa [List.head?_reverse])
  unfold trimStart at hback
  rw [trimEnd, hback, List.reverse_reverse]

theorem trimEnd_append_of_blank {ws : List Char} (hws : ∀ c ∈ ws, isBlank c = true) (cs : List Char) :
    trimEnd (cs ++ ws) = trimEnd cs := by
  unfold trimEnd
  rw [List.reverse_append, List.dropWhile_append_of_pos (by simpa using hws)]

/-- There is no white space at the two ends. -/
structure IsTrimmed (cs : List Char) : Prop where
  head : ∀ c ∈ cs.head?, isBlank c = false
  last : ∀ c ∈ cs.getLast?, isBlank c = false

instance (cs : List Char) : Decidable (IsTrimmed cs) :=
  decidable_of_iff ((cs.head?.all (!isBlank ·) && cs.getLast?.all (!isBlank ·)) = true) (by
    rw [Bool.and_eq_true, Option.all_eq_true, Option.all_eq_true]
    simp only [Bool.not_eq_true']
    exact ⟨fun h => ⟨h.1, h.2⟩, fun h => ⟨h.head, h.last⟩⟩)

theorem isTrimmed_of_not_blank {cs : List Char} (h : ∀ c ∈ cs, isBlank c = false) : IsTrimmed cs where
  head c hc := h c (List.mem_of_mem_head? hc)
  last c hc := h c (List.mem_of_getLast? hc)

theorem IsTrimmed.trim_padded {front cs back : List Char} (h : IsTrimmed cs)
    (hfront : ∀ c ∈ front, isBlank c = true) (hback : ∀ c ∈ back, isBlank c = true) :
    trim (front ++ (cs ++ back)) = cs := by
  rw [trim, trimStart_append_of_blank hfront]
  cases cs with
  | nil =>
    have hstart : trimStart (back ++ []) = [] := trimStart_append_of_blank hback
    rw [List.append_nil] at hstart
    rw [List.nil_append, hstart]
    rfl
  | cons c cs =>
    have hstart : trimStart (c :: cs ++ back) = c :: cs ++ back := trimStart_of_not_blank (h.head c rfl)
    rw [hstart, trimEnd_append_of_blank hback, trimEnd_eq_self h.last]

theorem trim_eq_nil_iff {cs : List Char} : trim cs = [] ↔ ∀ c ∈ cs, isBlank c = true := by
  constructor
  · intro htrim
    obtain ⟨front, back, heq, hfront, hback⟩ := exists_blank_trim cs
    rw [htrim, List.append_nil] at heq
    rw [heq]
    exact List.forall_mem_append.2 ⟨hfront, hback⟩
  · intro h
    have hnil : IsTrimmed [] := isTrimmed_of_not_blank nofun
    have htrim : trim (cs ++ ([] ++ [])) = [] := hnil.trim_padded h nofun
    rwa [List.append_nil, List.append_nil] at htrim

theorem words_trim (cs : List Char) : words (trim cs) = words cs := by
  obtain ⟨front, back, heq, hfront, hback⟩ := exists_blank_trim cs
  conv => rhs; rw [heq]
  rw [words_append_blank hback, words_blank_append hfront]

theorem trimEnd_cons {c : Char} (hc : isBlank c = false) (cs : List Char) :
    ∃ ds, trimEnd (c :: cs) = c :: ds := by
  unfold trimEnd
  rw [List.reverse_cons, List.dropWhile_append]
  split
  · exact ⟨[], by simp [hc]⟩
  · exact ⟨(cs.reverse.dropWhile isBlank).reverse, by simp⟩

theorem trim_cases (cs : List Char) :
    trim cs = [] ∨ ∃ c ds, trim cs = c :: ds ∧ isBlank c = false := by
  unfold trim
  have hhead := List.head?_dropWhile_not isBlank cs
  cases hstart : trimStart cs with
  | nil => exact .inl rfl
  | cons c ds =>
    rw [trimStart] at hstart
    rw [hstart] at hhead
    obtain ⟨es, hes⟩ := trimEnd_cons hhead ds
    exact .inr ⟨c, es, hes, hhead⟩

theorem isTrimmed_trim (cs : List Char) : IsTrimmed (trim cs) where
  head := by
    intro c hc
    rcases trim_cases cs with hnil | ⟨d, ds, heq, hd⟩
    · rw [hnil] at hc
      cases hc
    · rw [heq] at hc
      cases hc
      exact hd
  last := by
    intro c hc
    have hlast := List.head?_dropWhile_not isBlank (trimStart cs).reverse
    rw [trim, trimEnd, List.getLast?_reverse, Option.mem_def] at hc
    rw [hc] at hlast
    exact hlast

/-! ## Comments -/

theorem beforeComment_cons {c : Char} (hc : c ≠ '/') (cs : List Char) :
    beforeComment (c :: cs) = c :: beforeComment cs := by
  rw [beforeComment]
  rintro ds rfl
  contradiction

/-- A character that begins no comment is kept. -/
theorem beforeComment_cons_append {c : Char} {cs ds : List Char}
    (hno : ∀ tail, c = '/' → cs = '/' :: tail → False) (hds : cs = [] → ds.head? ≠ some '/') :
    beforeComment (c :: cs ++ ds) = c :: beforeComment (cs ++ ds) := by
  rw [List.cons_append]
  apply beforeComment.eq_3
  intro tail hc heq
  cases cs with
  | nil =>
    rw [List.nil_append] at heq
    exact hds rfl (by rw [heq]; rfl)
  | cons d cs => exact hno cs hc (by rw [(List.cons.inj heq).1])

/-- A text without a comment is kept, and one behind it that starts with no slash is cut as if it
stood alone. -/
theorem beforeComment_append {cs ds : List Char} (hcs : beforeComment cs = cs)
    (hds : ds.head? ≠ some '/') : beforeComment (cs ++ ds) = cs ++ beforeComment ds := by
  fun_induction beforeComment cs with
  | case1 => rfl
  | case2 => contradiction
  | case3 c cs hno ih =>
    rw [beforeComment_cons_append hno fun _ => hds, ih (List.cons.inj hcs).2, List.cons_append]

/-- What stands behind a comment is not seen. -/
theorem beforeComment_append_of_ne {cs : List Char} (hcs : beforeComment cs ≠ cs) (ds : List Char) :
    beforeComment (cs ++ ds) = beforeComment cs := by
  fun_induction beforeComment cs with
  | case1 => contradiction
  | case2 => rfl
  | case3 c cs hno ih =>
    have hcs' : beforeComment cs ≠ cs := fun heq => hcs (by rw [heq])
    have hne : cs ≠ [] := by
      rintro rfl
      exact hcs' rfl
    rw [beforeComment_cons_append hno fun hnil => absurd hnil hne, ih hcs']

/-- A comment right behind a text without slashes is cut off it. -/
theorem beforeComment_append_comment {cs : List Char} (h : '/' ∉ cs) (comment : List Char) :
    beforeComment (cs ++ '/' :: '/' :: comment) = cs := by
  induction cs with
  | nil => rfl
  | cons c cs ih =>
    rw [List.mem_cons, not_or] at h
    rw [List.cons_append, beforeComment_cons (Ne.symm h.1), ih h.2]

theorem ne_slash_of_isBlank {c : Char} (h : isBlank c = true) : c ≠ '/' := by
  rintro rfl
  exact absurd h (by decide)

theorem beforeComment_blank {ws : List Char} (hws : ∀ c ∈ ws, isBlank c = true) :
    beforeComment ws = ws := by
  induction ws with
  | nil => rfl
  | cons w ws ih =>
    have hw := hws w (by simp)
    rw [beforeComment_cons (ne_slash_of_isBlank hw), ih fun c hc => hws c (by simp [hc])]

theorem mem_of_mem_beforeComment {cs : List Char} {c : Char} (h : c ∈ beforeComment cs) : c ∈ cs := by
  fun_induction beforeComment cs with
  | case1 => exact h
  | case2 => simp at h
  | case3 d cs hno ih =>
    rcases List.mem_cons.1 h with rfl | h
    · simp
    · exact List.mem_cons_of_mem d (ih h)

theorem beforeComment_of_uncommented {cs : List Char} (h : ¬ ['/', '/'] <:+: cs) :
    beforeComment cs = cs := by
  fun_induction beforeComment cs with
  | case1 => rfl
  | case2 cs => exact absurd (List.prefix_append ['/', '/'] cs).isInfix h
  | case3 c cs hno ih => rw [ih fun hslash => h (hslash.trans (List.suffix_cons c cs).isInfix)]

theorem not_infix_beforeComment (cs : List Char) : ¬ ['/', '/'] <:+: beforeComment cs := by
  fun_induction beforeComment cs with
  | case1 => decide
  | case2 => decide
  | case3 c cs hno ih =>
    intro hslash
    rcases List.infix_cons_iff.1 hslash with hstart | hinner
    · obtain ⟨rfl, hnext⟩ := List.cons_prefix_cons.1 hstart
      cases cs with
      | nil => simp [beforeComment] at hnext
      | cons d cs =>
        by_cases hd : d = '/'
        · exact hno cs rfl (by rw [hd])
        · rw [beforeComment_cons hd] at hnext
          exact hd (List.cons_prefix_cons.1 hnext).1.symm
    · exact ih hinner

theorem head?_blank {ws : List Char} (hws : ∀ c ∈ ws, isBlank c = true) : ws.head? ≠ some '/' := by
  intro h
  exact ne_slash_of_isBlank (hws '/' (List.mem_of_mem_head? h)) rfl

theorem words_beforeComment_append_blank {ws : List Char} (hws : ∀ c ∈ ws, isBlank c = true)
    (cs : List Char) : words (beforeComment (cs ++ ws)) = words (beforeComment cs) := by
  by_cases hcs : beforeComment cs = cs
  · rw [beforeComment_append hcs (head?_blank hws), beforeComment_blank hws, words_append_blank hws, hcs]
  · rw [beforeComment_append_of_ne hcs]

theorem words_beforeComment_blank_append {ws : List Char} (hws : ∀ c ∈ ws, isBlank c = true)
    (cs : List Char) : words (beforeComment (ws ++ cs)) = words (beforeComment cs) := by
  induction ws with
  | nil => rfl
  | cons w ws ih =>
    have hw := hws w (by simp)
    rw [List.cons_append, beforeComment_cons (ne_slash_of_isBlank hw), words_cons_blank hw]
    exact ih fun c hc => hws c (by simp [hc])

theorem words_beforeComment_trim (cs : List Char) :
    words (beforeComment (trim cs)) = words (beforeComment cs) := by
  obtain ⟨front, back, heq, hfront, hback⟩ := exists_blank_trim cs
  conv => rhs; rw [heq]
  rw [words_beforeComment_append_blank hback, words_beforeComment_blank_append hfront]

/-! ## Lines -/

/-- A line differs from its form without the carriage return by white space at its end. -/
theorem exists_dropReturn (line : List Char) :
    ∃ back, line = dropReturn line ++ back ∧ ∀ c ∈ back, isBlank c = true := by
  unfold dropReturn
  split
  · rename_i h
    obtain ⟨kept, rfl⟩ := List.getLast?_eq_some_iff.1 h
    exact ⟨['\r'], by rw [List.dropLast_concat], by simp [isBlank]⟩
  · exact ⟨[], by simp⟩

theorem subset_of_mem_lines {cs line : List Char} (h : line ∈ lines cs) : line ⊆ cs := by
  have hpiece : ∀ piece ∈ cs.splitOn '\n', piece ⊆ cs :=
    fun piece hpiece => (of_mem_splitOn hpiece).1.subset
  unfold lines at h
  rcases List.mem_append.1 h with hwhole | hlast
  · obtain ⟨piece, hmem, rfl⟩ := List.mem_map.1 hwhole
    obtain ⟨back, heq, -⟩ := exists_dropReturn piece
    refine List.Subset.trans ?_ (hpiece piece (List.dropLast_subset _ hmem))
    conv => rhs; rw [heq]
    exact List.subset_append_left _ _
  · have hmem := List.mem_filter.1 hlast
    exact hpiece line (List.mem_of_getLast? (Option.mem_toList.1 hmem.1))

end Scaffold.Text
