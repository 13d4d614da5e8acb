import Scaffold.Proofs.Naming

/-! A folder name is the model's name in small letters with word breaks marked, and no more than that:
it says the same without its dashes, has no idle dash, and is its own folder name. A name that is made
of capitalized words is read back from it. -/

namespace Scaffold.Naming
open Text

/-! ## Dashes -/

theorem map_snd_spelled (previous : Option Char) (cs : List Char) :
    (spelled previous cs).map (·.2) = cs.map Char.toLower := by
  induction cs generalizing previous with
  | nil => rfl
  | cons c cs ih => simp only [spelled, List.map_cons, ih]

theorem filter_dashed {letters : List (Bool × Char)} (h : ∀ p ∈ letters, p.2 ≠ '-') :
    (dashed letters).filter (· != '-') = letters.map (·.2) := by
  induction letters with
  | nil => rfl
  | cons p letters ih =>
    obtain ⟨begins, c⟩ := p
    have hc : (c != '-') = true := bne_iff_ne.2 (h (begins, c) (by simp))
    have hrest := ih fun p hp => h p (by simp [hp])
    change ((if begins then ['-', c] else [c]) ++ dashed letters).filter (· != '-') = c :: _
    rw [List.filter_append, hrest]
    cases begins <;> simp [hc]

/-- A dash has a letter behind it. -/
theorem not_infix_dashed {letters : List (Bool × Char)} (h : ∀ p ∈ letters, p.2 ≠ '-') :
    ¬ ['-', '-'] <:+: dashed letters := by
  induction letters with
  | nil => simp [dashed]
  | cons p letters ih =>
    obtain ⟨begins, c⟩ := p
    have hc : '-' ≠ c := (h (begins, c) (by simp)).symm
    have hrest := ih fun p hp => h p (by simp [hp])
    change ¬ ['-', '-'] <:+: (if begins then ['-', c] else [c]) ++ dashed letters
    cases begins <;> simp [List.infix_cons_iff, hc, hrest]

/-! ## Folder names as names -/

theorem isNameChar_of_letter {c : Char} (h : c.isUpper = true ∨ c.isLower = true ∨ c.isDigit = true) :
    Schema.isNameChar c = true := by
  delta Schema.isNameChar Char.isAlphanum Char.isAlpha
  rcases h with h | h | h <;> simp [h]

theorem isAscii_of_isFolderChar {c : Char} (h : isFolderChar c = true) : c.toNat < 0x80 := by
  unfold isFolderChar at h
  simp only [Bool.or_eq_true, beq_iff_eq] at h
  rcases h with ((hlower | hdigit) | rfl) | rfl
  · exact isAscii_of_isNameChar (isNameChar_of_letter (.inr (.inl hlower)))
  · exact isAscii_of_isNameChar (isNameChar_of_letter (.inr (.inr hdigit)))
  · decide
  · decide

/-- In a folder name nothing changes: no character of it is a capital. -/
theorem unchanged_of_isFolderChar {c : Char} (h : isFolderChar c = true) :
    c.isUpper = false ∧ toLower c = [c] := by
  have hascii := isAscii_of_isFolderChar h
  rw [toLower_of_ascii hascii]
  exact of_ascii (p := fun c => isFolderChar c = true → c.isUpper = false ∧ [c.toLower] = [c])
    (by decide +kernel) hascii h

theorem kebabFrom_eq_self {previous : Option Char} {cs : List Char}
    (h : ∀ c ∈ cs, isFolderChar c = true) : kebabFrom previous cs = cs := by
  induction cs generalizing previous with
  | nil => rfl
  | cons c cs ih =>
    obtain ⟨hupper, hlower⟩ := unchanged_of_isFolderChar (h c (by simp))
    have hbegins : beginsWord previous c cs.head? = false := by simp [beginsWord, hupper]
    rw [kebabFrom, hbegins, hlower, ih fun d hd => h d (by simp [hd])]
    rfl

theorem kebab_eq_self {name : String} (h : ∀ c ∈ name.toList, isFolderChar c = true) :
    kebab name = name := by
  rw [kebab, kebabFrom_eq_self h, String.ofList_toList]

/-! ## Names of capitalized words -/

/-- What a capitalized word goes on with behind its capital. -/
def isSmall (c : Char) : Bool := c.isLower || c.isDigit

/-- A capital with one or more small letters or digits behind it. -/
def IsCapitalized (word : List Char) : Prop :=
  ∃ first more, word = first :: more ∧ first.isUpper = true ∧ more ≠ [] ∧ ∀ c ∈ more, isSmall c = true

theorem isFolderChar_of_isSmall {c : Char} (h : isSmall c = true) : isFolderChar c = true := by
  unfold isSmall at h
  simp [isFolderChar, h]

theorem isAscii_of_isUpper {c : Char} (h : c.isUpper = true) : c.toNat < 0x80 :=
  isAscii_of_isNameChar (isNameChar_of_letter (.inl h))

theorem capitalize_toLower {c : Char} {cs : List Char} (h : c.isUpper = true) :
    capitalize (c.toLower :: cs) = c :: cs := by
  have hascii := isAscii_of_isUpper h
  obtain ⟨hlow, hback⟩ : c.toLower.toNat < 0x80 ∧ c.toLower.toUpper = c :=
    of_ascii (p := fun c => c.isUpper = true → c.toLower.toNat < 0x80 ∧ c.toLower.toUpper = c)
      (by decide +kernel) hascii h
  rw [capitalize, toUpper_of_ascii hlow, hback]
  rfl

theorem map_toLower_small {cs : List Char} (h : ∀ c ∈ cs, isSmall c = true) :
    cs.map Char.toLower = cs := by
  refine (List.map_congr_left fun c hc => ?_).trans (List.map_id cs)
  have hfolder := isFolderChar_of_isSmall (h c hc)
  have hlower := (unchanged_of_isFolderChar hfolder).2
  rw [toLower_of_ascii (isAscii_of_isFolderChar hfolder)] at hlower
  exact List.singleton_inj.1 hlower

/-- Small letters stand for themselves, and what follows them is read behind a small letter. -/
theorem kebabFrom_small (previous : Option Char) {cs : List Char} (rest : List Char) (hne : cs ≠ [])
    (h : ∀ c ∈ cs, isSmall c = true) :
    ∃ p, isSmall p = true ∧ kebabFrom previous (cs ++ rest) = cs ++ kebabFrom (some p) rest := by
  induction cs generalizing previous with
  | nil => exact absurd rfl hne
  | cons c cs ih =>
    have hc := h c (by simp)
    obtain ⟨hupper, hlower⟩ := unchanged_of_isFolderChar (isFolderChar_of_isSmall hc)
    have hstep : kebabFrom previous (c :: (cs ++ rest)) = c :: kebabFrom (some c) (cs ++ rest) := by
      have hbegins : beginsWord previous c (cs ++ rest).head? = false := by simp [beginsWord, hupper]
      rw [kebabFrom, hbegins, hlower]
      rfl
    rw [List.cons_append, hstep]
    by_cases hcs : cs = []
    · subst hcs
      exact ⟨c, hc, rfl⟩
    · obtain ⟨p, hp, hrest⟩ := ih (some c) hcs fun d hd => h d (by simp [hd])
      exact ⟨p, hp, by rw [hrest]; rfl⟩

/-- A capitalized word becomes small, and has a dash in front behind another word. -/
theorem kebabFrom_capitalized {previous : Option Char} {word : List Char} (rest : List Char)
    (hprevious : ∀ p ∈ previous, isSmall p = true) (hword : IsCapitalized word) :
    ∃ p, isSmall p = true ∧ kebabFrom previous (word ++ rest) =
      (if previous.isSome then ['-'] else []) ++ word.map Char.toLower ++ kebabFrom (some p) rest := by
  obtain ⟨first, more, rfl, hfirst, hne, hmore⟩ := hword
  obtain ⟨p, hp, hrest⟩ := kebabFrom_small (some first) rest hne hmore
  refine ⟨p, hp, ?_⟩
  have hbegins : beginsWord previous first (more ++ rest).head? = previous.isSome := by
    cases previous with
    | none => exact Bool.and_false _
    | some q =>
      have hq : (q.isLower || q.isDigit) = true := hprevious q rfl
      simp [beginsWord, hfirst, hq]
  rw [List.cons_append, kebabFrom, hbegins, toLower_of_ascii (isAscii_of_isUpper hfirst), hrest,
    List.map_cons, map_toLower_small hmore]
  simp

theorem kebabFrom_words (previous : Option Char) {words : List (List Char)}
    (hprevious : ∀ p ∈ previous, isSmall p = true) (h : ∀ w ∈ words, IsCapitalized w) :
    kebabFrom previous words.flatten =
      (if previous.isSome ∧ words ≠ [] then ['-'] else []) ++
        ['-'].intercalate (words.map (·.map Char.toLower)) := by
  induction words generalizing previous with
  | nil => simp [kebabFrom]
  | cons word words ih =>
    obtain ⟨p, hp, hword⟩ := kebabFrom_capitalized words.flatten hprevious (h word (by simp))
    have hwords := ih (some p) (by simpa using hp) fun w hw => h w (by simp [hw])
    rw [List.flatten_cons, hword, hwords]
    cases words with
    | nil => simp
    | cons next words => simp [List.intercalate_cons_cons]

theorem dash_not_mem_small {word : List Char} (h : IsCapitalized word) :
    '-' ∉ word.map Char.toLower := by
  obtain ⟨first, more, rfl, hfirst, -, hmore⟩ := h
  rw [List.map_cons, map_toLower_small hmore, List.mem_cons, not_or]
  have hname : Schema.isNameChar first = true := isNameChar_of_letter (.inl hfirst)
  exact ⟨(toLower_ne hname (by decide)).symm, fun hdash => absurd (hmore _ hdash) (by decide)⟩

theorem splitOn_kebab {words : List (List Char)} (hne : words ≠ [])
    (h : ∀ w ∈ words, IsCapitalized w) :
    (kebab (String.ofList words.flatten)).toList.splitOn '-' = words.map (·.map Char.toLower) := by
  have hkebab : (kebab (String.ofList words.flatten)).toList =
      ['-'].intercalate (words.map (·.map Char.toLower)) := by
    rw [kebab, String.toList_ofList, String.toList_ofList, kebabFrom_words none (by simp) h]
    simp
  rw [hkebab]
  refine List.splitOn_intercalate '-' (fun w hw => ?_) (by simpa using hne)
  obtain ⟨word, hword, rfl⟩ := List.mem_map.1 hw
  exact dash_not_mem_small (h word hword)

theorem capitalize_small {word : List Char} (h : IsCapitalized word) :
    capitalize (word.map Char.toLower) = word := by
  obtain ⟨first, more, rfl, hfirst, -, hmore⟩ := h
  rw [List.map_cons, map_toLower_small hmore, capitalize_toLower hfirst]

/-- A folder name only marks word breaks. Without its dashes it is the identifier in small letters; no
dash stands at its ends or beside another one; and it is its own folder name. Of an identifier that is
made of capitalized words, its pieces are these words in small letters, so the identifier is what the
pieces give when they are capitalized and put together. -/
theorem kebab_only_marks_words :
    (∀ model : String, Schema.IsIdentifier model.toList →
      (kebab model).toList.filter (· != '-') = model.toList.map Char.toLower ∧
      (kebab model).toList.head? ≠ some '-' ∧ (kebab model).toList.getLast? ≠ some '-' ∧
      ¬ ['-', '-'] <:+: (kebab model).toList ∧
      kebab (kebab model) = kebab model) ∧
    ∀ (words : List (List Char)) (model : String), words ≠ [] → (∀ w ∈ words, IsCapitalized w) →
      model = String.ofList words.flatten →
        (kebab model).toList.splitOn '-' = words.map (·.map Char.toLower) ∧
        String.ofList (((kebab model).toList.splitOn '-').flatMap capitalize) = model := by
  constructor
  · intro model h
    have hchars := Schema.isNameChar_of_mem h
    have hletters : ∀ p ∈ spelled none model.toList, p.2 ≠ '-' := ne_dash_of_mem_spelled hchars
    have hkebab : (kebab model).toList = dashed (spelled none model.toList) := by
      rw [kebab, String.toList_ofList, kebabFrom_eq_dashed hchars]
    have hname := isFolderName_kebab h
    refine ⟨?_, hname.first, hname.last, ?_, kebab_eq_self hname.chars⟩
    · rw [hkebab, filter_dashed hletters, map_snd_spelled]
    · rw [hkebab]
      exact not_infix_dashed hletters
  · rintro words _ hne h rfl
    have hpieces := splitOn_kebab hne h
    refine ⟨hpieces, ?_⟩
    rw [hpieces, List.flatMap_map, List.flatMap_def,
      List.map_congr_left fun w hw => capitalize_small (h w hw), List.map_id']

/-- An acronym at the front, and a digit at the end of a word. -/
theorem kebab_only_marks_words_digit :
    Schema.IsIdentifier "HTTPServer".toList ∧ kebab "HTTPServer" = "http-server" ∧
      kebab "http-server" = "http-server" ∧
      String.ofList (("user2-fa".toList.splitOn '-').flatMap capitalize) = "User2Fa" := by
  have hserver : Schema.IsIdentifier "HTTPServer".toList :=
    ⟨'H', "TTPServer".toList, rfl, by decide, List.all_eq_true.1 (by decide)⟩
  have hkebab : kebab "HTTPServer" = "http-server" := by decide
  have hsame := (kebab_only_marks_words.1 _ hserver).2.2.2.2
  rw [hkebab] at hsame
  have hwords : ∀ w ∈ ["User2".toList, "Fa".toList], IsCapitalized w := by
    simp only [List.forall_mem_cons, List.not_mem_nil, false_imp_iff, implies_true, and_true]
    exact ⟨⟨'U', "ser2".toList, rfl, by decide, by decide, List.all_eq_true.1 (by decide)⟩,
      ⟨'F', "a".toList, rfl, by decide, by decide, List.all_eq_true.1 (by decide)⟩⟩
  have hback := (kebab_only_marks_words.2 ["User2".toList, "Fa".toList] "User2Fa" (by simp) hwords rfl).2
  have hfa : kebab "User2Fa" = "user2-fa" := by decide
  rw [hfa] at hback
  exact ⟨hserver, hkebab, hsame, hback⟩

end Scaffold.Naming
