import Scaffold.Proofs.FileTree.Holding

/-! What making directories leaves, in any tree and for any path, moves up included: directories on the
path's way and nothing else. Making them again changes nothing. -/

namespace Scaffold.FileTree
open Scaffold.Path

variable {t u v : FileTree} {path : String} {moves more : List Step} {loc : Location}

/-- The content of the file that stands in a place. -/
def file? (t : FileTree) (loc : Location) : Option ByteArray :=
  match t.get? loc with
  | some (.file content) => some content
  | _ => none

theorem file?_congr (h : u.get? loc = t.get? loc) : u.file? loc = t.file? loc := by
  unfold file?
  rw [h]

theorem file?_of_directory (h : t.get? loc = some .directory) : t.file? loc = none := by
  unfold file?
  rw [h]

/-! ## New directories -/

/-- `u` is `t` with more directories, all of them in places on the way of these moves. -/
structure Extended (t u : FileTree) (moves : List Step) : Prop where
  grown : Grown t u
  made : ∀ loc, u.get? loc = t.get? loc ∨
    u.get? loc = some .directory ∧ ∃ front, front <+: moves ∧ loc = follow [] front

theorem Extended.refl (t : FileTree) (moves : List Step) : Extended t t moves :=
  ⟨.refl t, fun _ => .inl rfl⟩

theorem Extended.mono (h : Extended t u moves) (hmoves : moves <+: more) : Extended t u more := by
  refine ⟨h.grown, fun loc => (h.made loc).imp_right ?_⟩
  rintro ⟨hdir, front, hfront, hloc⟩
  exact ⟨hdir, front, hfront.trans hmoves, hloc⟩

theorem Extended.trans (h : Extended t u moves) (h' : Extended u v moves) : Extended t v moves := by
  refine ⟨h.grown.trans h'.grown, fun loc => ?_⟩
  rcases h'.made loc with hsame | hnew
  · rw [hsame]
    exact h.made loc
  · exact .inr hnew

theorem extended_makeDir (h : t.makeDir moves = .ok u) : Extended t u moves := by
  refine ⟨grown_makeDir h, fun loc => ?_⟩
  obtain ⟨place, hwalk, hmake⟩ := bind_eq_ok.1 h
  split at hmake
  · cases hmake
  · rename_i hnone
    obtain ⟨-, -, hput⟩ := bind_eq_ok.1 hmake
    cases hput
    by_cases hloc : loc = place
    · subst hloc
      refine .inr ⟨get?_put_self t ?_ _, moves, List.prefix_refl _, eq_follow_of_walk hwalk⟩
      rintro rfl
      cases hnone
    · exact .inl (get?_put_of_ne t hloc _)

theorem extended_makeDirsRev (moves : List Step) :
    Extended t (t.makeDirsRev moves).1 moves.reverse := by
  fun_induction makeDirsRev t moves with
  | case1 => exact .refl t _
  | case2 last above moves made hmake => exact extended_makeDir hmake
  | case3 last above moves hmake u e hdirs ih =>
    rw [hdirs] at ih
    exact ih.mono (by simp)
  | case4 last above moves hmake u hdirs made hlast ih =>
    rw [hdirs] at ih
    exact (ih.mono (by simp)).trans (extended_makeDir hlast)
  | case5 last above moves hmake u hdirs e hlast ih =>
    rw [hdirs] at ih
    exact ih.mono (by simp)
  | case6 last above moves e hother hmake => exact .refl t _

/-- Making only the first directories of a way. -/
theorem extended_makeDirsRev_drop (n : Nat) :
    Extended t (t.makeDirsRev (moves.reverse.drop n)).1 moves := by
  refine (extended_makeDirsRev _).mono ?_
  rw [List.drop_reverse, List.reverse_reverse]
  exact List.take_prefix _ _

theorem extended_makeDirs (path : String) : Extended t (t.makeDirs path).1 (steps path) := by
  unfold makeDirs
  dsimp only
  split
  · exact .refl t _
  · split
    · split
      · have hrev : Extended t (t.makeDirsRev ((steps path).reverse.drop 1)).1 (steps path) :=
          extended_makeDirsRev_drop 1
        rw [List.drop_one] at hrev
        split
        · rename_i u hdirs
          rwa [hdirs] at hrev
        · exact hrev
      · exact .refl t _
    · exact extended_makeDirsRev_drop 0

/-! ## Directories that are there -/

theorem isDirectory_iff :
    t.isDirectory moves = true ↔
      ∃ loc, t.walk [] moves = .ok loc ∧ t.get? loc = some .directory := by
  unfold isDirectory
  cases hwalk : t.walk [] moves with
  | error e => simp
  | ok loc =>
    cases hget : t.get? loc with
    | none => simp [hget]
    | some e => cases e <;> simp [hget, Entry.isDirectory]

theorem Keeps.isDirectory (h : Keeps t u) (hdir : t.isDirectory moves = true) :
    u.isDirectory moves = true := by
  obtain ⟨loc, hwalk, hget⟩ := isDirectory_iff.1 hdir
  exact isDirectory_iff.2 ⟨loc, h.walk hwalk, h.directories loc hget⟩

theorem isDirectory_of_makeDir (h : t.makeDir moves = .ok u) : u.isDirectory moves = true := by
  have hkeeps := (grown_makeDir h).keeps
  obtain ⟨loc, hwalk, hmake⟩ := bind_eq_ok.1 h
  refine isDirectory_iff.2 ⟨loc, hkeeps.walk hwalk, ?_⟩
  split at hmake
  · cases hmake
  · rename_i hnone
    obtain ⟨-, -, hput⟩ := bind_eq_ok.1 hmake
    cases hput
    refine get?_put_self t ?_ _
    rintro rfl
    cases hnone

/-- Directories whose making succeeded are there. -/
theorem isDirectory_of_makeDirsRev (h : t.makeDirsRev moves = (u, .ok ())) :
    u.isDirectory moves.reverse = true := by
  fun_induction makeDirsRev t moves with
  | case1 => exact isDirectory_iff.2 ⟨[], rfl, rfl⟩
  | case2 last above moves made hmake =>
    cases h
    exact isDirectory_of_makeDir hmake
  | case3 => cases h
  | case4 last above moves hmake v hdirs made hlast ih =>
    cases h
    exact isDirectory_of_makeDir hlast
  | case5 last above moves hmake v hdirs e hlast ih =>
    split at h
    · cases h
      assumption
    · cases h
  | case6 last above moves e hother hmake =>
    split at h
    · cases h
      assumption
    · cases h

theorem makeDirsRev_of_isDirectory (h : t.isDirectory moves.reverse = true) :
    t.makeDirsRev moves = (t, .ok ()) := by
  cases moves with
  | nil => rfl
  | cons last above =>
    obtain ⟨loc, hwalk, hget⟩ := isDirectory_iff.1 h
    have hmake : t.makeDir (last :: above).reverse = .error .alreadyExists := by
      unfold makeDir
      rw [hwalk]
      simp only [bind, Except.bind, hget]
    simp only [makeDirsRev, hmake, h, if_true]

theorem makeDirs_of_not_endsInDot (h : endsInDot path = false) :
    t.makeDirs path =
      if pathLimit < path.utf8ByteSize then (t, .error .nameTooLong)
      else t.makeDirsRev (steps path).reverse := by
  unfold makeDirs
  rw [h]
  rfl

/-- Directories whose making succeeded are made again without any change. -/
theorem makeDirs_again (hdot : endsInDot path = false) (h : t.makeDirs path = (u, .ok ()))
    (hkeeps : Keeps u v) : v.makeDirs path = (v, .ok ()) := by
  rw [makeDirs_of_not_endsInDot hdot] at h ⊢
  split at h
  · cases h
  · rename_i hshort
    rw [if_neg hshort]
    exact makeDirsRev_of_isDirectory (hkeeps.isDirectory (isDirectory_of_makeDirsRev h))

/-! ## Files that can be written -/

theorem Takes.keeps (h : t.Takes path) (hkeeps : Keeps t u)
    (hfree : u.get? (place path) ≠ some .directory) : u.Takes path :=
  ⟨hkeeps.resolve h.resolve, hfree, h.file, hkeeps.refuses ▸ h.permitted⟩

end Scaffold.FileTree
