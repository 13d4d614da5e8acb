import Scaffold.Proofs.Text.Words

/-! Comma-separated lists. The parts of a list are what stands between its commas, without the white
space around it, where anything is left. Two lists with a comma between them have the parts of both, so a
list has given parts exactly if it is these with commas between them, each perhaps with white space around
it, and blank pieces anywhere. -/

namespace Scaffold.Text

/-- What can be a part of a list. -/
structure IsPart (cs : List Char) : Prop where
  ne_nil : cs ≠ []
  comma : ',' ∉ cs
  trimmed : IsTrimmed cs

instance (cs : List Char) : Decidable (IsPart cs) :=
  decidable_of_iff (cs ≠ [] ∧ ',' ∉ cs ∧ IsTrimmed cs)
    ⟨fun h => ⟨h.1, h.2.1, h.2.2⟩, fun h => ⟨h.ne_nil, h.comma, h.trimmed⟩⟩

theorem isPart_of_mem {part cs : List Char} (h : part ∈ parts trim cs) : IsPart part := by
  obtain ⟨hmem, hne⟩ := List.mem_filter.1 h
  obtain ⟨piece, hpiece, rfl⟩ := List.mem_map.1 hmem
  obtain ⟨front, back, heq, -, -⟩ := exists_blank_trim piece
  have hwithin : trim piece ⊆ piece := by
    conv => rhs; rw [heq]
    simp
  exact ⟨by simpa using hne, fun hcomma => (of_mem_splitOn hpiece).2 (hwithin hcomma), isTrimmed_trim piece⟩

/-! ## Lists put together -/

theorem parts_append (p : List Char → List Char) (cs ds : List Char) :
    parts p (cs ++ ',' :: ds) = parts p cs ++ parts p ds := by
  unfold parts
  rw [List.splitOn_append_cons_self, List.map_append, List.filter_append]

theorem parts_intercalate (pieces : List (List Char)) :
    parts trim ([','].intercalate pieces) = pieces.flatMap (parts trim) := by
  induction pieces with
  | nil => rfl
  | cons piece pieces ih =>
    cases pieces with
    | nil => rw [List.intercalate_singleton, List.flatMap_singleton]
    | cons next pieces =>
      have hjoined : [','].intercalate (piece :: next :: pieces) =
          piece ++ ',' :: [','].intercalate (next :: pieces) := by
        simp [List.intercalate_cons_cons]
      rw [hjoined, parts_append, ih]
      rfl

theorem comma_not_mem_blank {ws : List Char} (h : ∀ c ∈ ws, isBlank c = true) : ',' ∉ ws := by
  intro hmem
  exact absurd (h ',' hmem) (by decide)

theorem parts_blank {ws : List Char} (h : ∀ c ∈ ws, isBlank c = true) : parts trim ws = [] := by
  unfold parts
  rw [List.splitOn_eq_singleton (comma_not_mem_blank h), List.map_singleton, trim_eq_nil_iff.2 h]
  rfl

theorem IsPart.parts_padded {front part back : List Char} (h : IsPart part)
    (hfront : ∀ c ∈ front, isBlank c = true) (hback : ∀ c ∈ back, isBlank c = true) :
    parts trim (front ++ (part ++ back)) = [part] := by
  have hcomma : ',' ∉ front ++ (part ++ back) := by
    rw [List.mem_append, List.mem_append, not_or, not_or]
    exact ⟨comma_not_mem_blank hfront, h.comma, comma_not_mem_blank hback⟩
  unfold parts
  rw [List.splitOn_eq_singleton hcomma, List.map_singleton, h.trimmed.trim_padded hfront hback]
  simpa using h.ne_nil

/-! ## All texts of a list -/

/-- The pieces are the parts in their order, perhaps with white space around them, and any number of blank
pieces before, between and behind them. -/
inductive Spaced : List (List Char) → List (List Char) → Prop
  | nil : Spaced [] []
  | blank {ws : List Char} {kept pieces : List (List Char)} : (∀ c ∈ ws, isBlank c = true) →
      Spaced kept pieces → Spaced kept (ws :: pieces)
  | part (front part back : List Char) {kept pieces : List (List Char)} :
      (∀ c ∈ front, isBlank c = true) → (∀ c ∈ back, isBlank c = true) → Spaced kept pieces →
        Spaced (part :: kept) ((front ++ (part ++ back)) :: pieces)

theorem spaced_self (kept : List (List Char)) : Spaced kept kept := by
  induction kept with
  | nil => exact .nil
  | cons part kept ih =>
    have hspaced := Spaced.part [] part [] nofun nofun ih
    rwa [List.nil_append, List.append_nil] at hspaced

theorem Spaced.parts_intercalate {kept pieces : List (List Char)} (h : Spaced kept pieces)
    (hkept : ∀ part ∈ kept, IsPart part) : parts trim ([','].intercalate pieces) = kept := by
  rw [Text.parts_intercalate]
  induction h with
  | nil => rfl
  | blank hws _ ih => rw [List.flatMap_cons, parts_blank hws, List.nil_append, ih hkept]
  | part front part back hfront hback _ ih =>
    obtain ⟨hpart, hkept⟩ := List.forall_mem_cons.1 hkept
    rw [List.flatMap_cons, hpart.parts_padded hfront hback, ih hkept, List.singleton_append]

theorem spaced_pieces (pieces : List (List Char)) :
    Spaced ((pieces.map trim).filter (!·.isEmpty)) pieces := by
  induction pieces with
  | nil => exact .nil
  | cons piece pieces ih =>
    rw [List.map_cons]
    by_cases hblank : trim piece = []
    · rw [hblank, List.filter_cons_of_neg (by simp)]
      exact .blank (trim_eq_nil_iff.1 hblank) ih
    · obtain ⟨front, back, heq, hfront, hback⟩ := exists_blank_trim piece
      rw [List.append_assoc] at heq
      have hspaced := Spaced.part front (trim piece) back hfront hback ih
      rw [← heq] at hspaced
      rwa [List.filter_cons_of_pos (by simpa using hblank)]

/-- Every text of a list is its parts between commas, with white space added. -/
theorem parts_eq_iff {kept : List (List Char)} (h : ∀ part ∈ kept, IsPart part) {cs : List Char} :
    parts trim cs = kept ↔ ∃ pieces, Spaced kept pieces ∧ cs = [','].intercalate pieces := by
  constructor
  · rintro rfl
    exact ⟨cs.splitOn ',', spaced_pieces _, (List.intercalate_splitOn ',').symm⟩
  · rintro ⟨pieces, hspaced, rfl⟩
    exact hspaced.parts_intercalate h

end Scaffold.Text
