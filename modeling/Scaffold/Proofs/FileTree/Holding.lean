import Scaffold.Proofs.FileTree.Way
import Scaffold.Proofs.Outcome
import Scaffold.Proofs.Text.Path

/-! Which file stands behind a path, and which operations leave it there. Nothing takes a directory
away or puts one in a file's place, so a path once followed leads to the same place ever after, and a
file is lost only to a write at its own place. -/

namespace Scaffold.FileTree
open Scaffold.Path

variable {t u : FileTree} {path other : String} {loc : Location} {content : ByteArray}

/-! ## Where a path leads -/

/-- A walk takes its first move from a directory that one may go through. -/
theorem walk_cons_eq_ok {base : Location} {move : Step} {moves : List Step} :
    t.walk base (move :: moves) = .ok loc ↔
      t.get? base = some .directory ∧ t.refuses .search base = none ∧
        match move with
        | .up => t.walk base.dropLast moves = .ok loc
        | .into name =>
          name.utf8ByteSize ≤ nameLimit ∧ t.walk (base ++ [name]) moves = .ok loc := by
  cases hget : t.get? base with
  | none => simp [walk, hget]
  | some e =>
    cases e with
    | file content => simp [walk, hget]
    | directory =>
      cases hsearch : t.refuses .search base with
      | some text => simp [walk, hget, hsearch]
      | none =>
        cases move with
        | up => simp [walk, hget, hsearch]
        | into name =>
          rcases Nat.lt_or_ge nameLimit name.utf8ByteSize with hlong | hshort
          · simp [walk, hget, hsearch, hlong, Nat.not_le.2 hlong]
          · simp [walk, hget, hsearch, hshort, Nat.not_lt.2 hshort]

theorem eq_follow_of_walk {base : Location} {moves : List Step} (h : t.walk base moves = .ok loc) :
    loc = follow base moves := by
  induction moves generalizing base with
  | nil =>
    cases h
    rfl
  | cons move moves ih =>
    obtain ⟨-, -, hrest⟩ := walk_cons_eq_ok.1 h
    cases move with
    | up => exact ih hrest
    | into name => exact ih hrest.2

theorem resolve_eq_ok : t.resolve path = .ok loc ↔
    path ≠ "" ∧ path.utf8ByteSize ≤ pathLimit ∧ t.walk [] (steps path) = .ok loc := by
  unfold resolve
  by_cases hempty : path = ""
  · simp [hempty]
  · rcases Nat.lt_or_ge pathLimit path.utf8ByteSize with hlong | hshort
    · simp [hempty, hlong, Nat.not_le.2 hlong]
    · simp [hempty, Nat.not_lt.2 hshort, hshort]

/-- A path has one place in all trees in which it leads anywhere. -/
theorem eq_place_of_resolve (h : t.resolve path = .ok loc) : loc = place path :=
  eq_follow_of_walk (resolve_eq_ok.1 h).2.2

/-- Paths that part lead to different places in every tree. -/
theorem resolve_ne_of_apart (h : Apart path other) (hpath : t.resolve path = .ok loc) :
    t.resolve other ≠ .ok loc := by
  intro hother
  exact h.place_ne ((eq_place_of_resolve hpath).symm.trans (eq_place_of_resolve hother))

/-! ## What is kept -/

/-- What is refused stays so, and directories stay. -/
structure Keeps (t u : FileTree) : Prop where
  refuses : u.refuses = t.refuses
  directories : ∀ loc, t.get? loc = some .directory → u.get? loc = some .directory

theorem Keeps.trans {v : FileTree} (h : Keeps t u) (h' : Keeps u v) : Keeps t v :=
  ⟨h'.refuses.trans h.refuses, fun loc hdir => h'.directories loc (h.directories loc hdir)⟩

theorem Keeps.walk (h : Keeps t u) {base : Location} {moves : List Step}
    (hwalk : t.walk base moves = .ok loc) : u.walk base moves = .ok loc := by
  induction moves generalizing base with
  | nil => exact hwalk
  | cons move moves ih =>
    obtain ⟨hdir, hsearch, hrest⟩ := walk_cons_eq_ok.1 hwalk
    refine walk_cons_eq_ok.2 ⟨h.directories base hdir, h.refuses ▸ hsearch, ?_⟩
    cases move with
    | up => exact ih hrest
    | into name => exact ⟨hrest.1, ih hrest.2⟩

theorem Keeps.resolve (h : Keeps t u) (hresolve : t.resolve path = .ok loc) :
    u.resolve path = .ok loc := by
  obtain ⟨hempty, hshort, hwalk⟩ := resolve_eq_ok.1 hresolve
  exact resolve_eq_ok.2 ⟨hempty, hshort, h.walk hwalk⟩

/-- Nothing that was there has changed. -/
structure Grown (t u : FileTree) : Prop where
  refuses : u.refuses = t.refuses
  entries : ∀ loc e, t.get? loc = some e → u.get? loc = some e

theorem Grown.keeps (h : Grown t u) : Keeps t u := ⟨h.refuses, fun loc => h.entries loc _⟩

theorem Grown.refl (t : FileTree) : Grown t t := ⟨rfl, fun _ _ => id⟩

theorem Grown.trans {v : FileTree} (h : Grown t u) (h' : Grown u v) : Grown t v :=
  ⟨h'.refuses.trans h.refuses, fun loc e he => h'.entries loc e (h.entries loc e he)⟩

theorem grown_put (hnone : t.get? loc = none) (e : Entry) : Grown t (t.put loc e) := by
  refine ⟨rfl, fun place e' he => ?_⟩
  rw [get?_put_of_ne t ?_, he]
  rintro rfl
  rw [hnone] at he
  cases he

theorem grown_makeDir {moves : List Step} (h : t.makeDir moves = .ok u) : Grown t u := by
  obtain ⟨loc, -, hmake⟩ := bind_eq_ok.1 h
  split at hmake
  · cases hmake
  · obtain ⟨-, -, hput⟩ := bind_eq_ok.1 hmake
    cases hput
    exact grown_put (by assumption) _

theorem grown_makeDirsRev (moves : List Step) : Grown t (t.makeDirsRev moves).1 := by
  fun_induction makeDirsRev t moves with
  | case1 => exact .refl t
  | case2 last above steps made hmake => exact grown_makeDir hmake
  | case3 last above steps hmake u e hdirs ih =>
    rw [hdirs] at ih
    exact ih
  | case4 last above steps hmake u hdirs made hlast ih =>
    rw [hdirs] at ih
    exact ih.trans (grown_makeDir hlast)
  | case5 last above steps hmake u hdirs e hlast ih =>
    rw [hdirs] at ih
    exact ih
  | case6 last above steps e hother hmake => exact .refl t

theorem grown_makeDirs (path : String) : Grown t (t.makeDirs path).1 := by
  unfold makeDirs
  dsimp only
  split
  · exact .refl t
  · split
    · split
      · have hrev := grown_makeDirsRev (t := t) (steps path).reverse.tail
        split
        · rename_i u hdirs
          rwa [hdirs] at hrev
        · exact hrev
      · exact .refl t
    · exact grown_makeDirsRev _

/-- The path leads to a place where a file can be written. -/
structure Takes (t : FileTree) (path : String) : Prop where
  resolve : t.resolve path = .ok (place path)
  free : t.get? (place path) ≠ some .directory
  file : namesDirectory path = false
  permitted : t.refuses .write (place path) = none

theorem permit_eq_ok {a : Access} : t.permit a loc = .ok () ↔ t.refuses a loc = none := by
  unfold permit
  cases t.refuses a loc <;> simp

/-- A write succeeds exactly if the path takes a file, and then it puts it in its place. -/
theorem writeBytes_eq_ok :
    t.writeBytes path content = .ok u ↔ t.Takes path ∧ u = t.put (place path) (.file content) := by
  constructor
  · intro h
    obtain ⟨loc, hresolve, hwrite⟩ := bind_eq_ok.1 h
    obtain rfl := eq_place_of_resolve hresolve
    cases hname : namesDirectory path with
    | true =>
      rw [hname] at hwrite
      split at hwrite <;> cases hwrite
    | false =>
      rw [hname] at hwrite
      have hput : (do t.permit .write (place path); return t.put (place path) (.file content)) =
          Except.ok u → t.refuses .write (place path) = none ∧
            u = t.put (place path) (.file content) := by
        intro hdone
        obtain ⟨done, hpermit, hdone⟩ := bind_eq_ok.1 hdone
        exact ⟨permit_eq_ok.1 hpermit, (Except.ok.inj hdone).symm⟩
      split at hwrite
      · cases hwrite
      · rename_i hget
        obtain ⟨hpermitted, rfl⟩ := hput hwrite
        exact ⟨⟨hresolve, by simp [hget], hname, hpermitted⟩, rfl⟩
      · rename_i hget
        obtain ⟨hpermitted, rfl⟩ := hput hwrite
        exact ⟨⟨hresolve, by simp [hget], hname, hpermitted⟩, rfl⟩
  · rintro ⟨⟨hresolve, hfree, hfile, hpermitted⟩, rfl⟩
    unfold writeBytes
    rw [hresolve]
    simp only [bind, Except.bind, hfile, permit_eq_ok.2 hpermitted]
    cases hget : t.get? (place path) with
    | none => rfl
    | some e =>
      cases e with
      | directory => exact absurd hget hfree
      | file content => rfl

theorem keeps_put (hplace : t.get? loc ≠ some .directory) (content : ByteArray) :
    Keeps t (t.put loc (.file content)) := by
  refine ⟨rfl, fun place hdir => ?_⟩
  rw [get?_put_of_ne t ?_, hdir]
  rintro rfl
  exact hplace hdir

/-! ## What stands behind a path -/

/-- The path names a file with this content. -/
def Holds (t : FileTree) (path : String) (content : ByteArray) : Prop :=
  t.find path = .ok (.file content)

theorem holds_iff : t.Holds path content ↔
    ∃ loc, t.resolve path = .ok loc ∧ t.get? loc = some (.file content) ∧
      namesDirectory path = false := by
  refine bind_eq_ok.trans (exists_congr fun loc => and_congr_right fun _ => ?_)
  cases t.get? loc with
  | none => simp
  | some e =>
    cases e with
    | directory => simp
    | file other => cases namesDirectory path <;> simp

theorem Holds.grown (h : t.Holds path content) (hgrown : Grown t u) : u.Holds path content := by
  obtain ⟨loc, hresolve, hget, hfile⟩ := holds_iff.1 h
  exact holds_iff.2 ⟨loc, hgrown.keeps.resolve hresolve, hgrown.entries loc _ hget, hfile⟩

theorem Takes.ne_nil (h : t.Takes path) : place path ≠ [] := by
  intro hnil
  have hfree := h.free
  rw [hnil] at hfree
  exact hfree t.get?_nil

theorem Takes.holds (h : t.Takes path) (content : ByteArray) :
    (t.put (place path) (.file content)).Holds path content :=
  holds_iff.2 ⟨_, (keeps_put h.free content).resolve h.resolve, get?_put_self t h.ne_nil _, h.file⟩

/-- A file stays where a path that parts from its own is written. -/
theorem Holds.written {written : ByteArray} (h : t.Holds path content) (hapart : Apart path other)
    (hwrite : t.writeBytes other written = .ok u) : u.Holds path content := by
  obtain ⟨loc, hresolve, hget, hfile⟩ := holds_iff.1 h
  obtain ⟨htakes, rfl⟩ := writeBytes_eq_ok.1 hwrite
  obtain rfl := eq_place_of_resolve hresolve
  exact holds_iff.2 ⟨_, (keeps_put htakes.free written).resolve hresolve,
    (get?_put_of_ne t hapart.place_ne _).trans hget, hfile⟩

end Scaffold.FileTree
