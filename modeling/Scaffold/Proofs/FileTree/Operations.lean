import Scaffold.Proofs.FileTree.Way
import Scaffold.Proofs.Text.Path

/-! What making the directories of a path and writing its file do to every place of a tree. -/

namespace Scaffold.FileTree
open Scaffold.Path

/-! ## Making directories -/

/-- `u` is `t` with a directory at every clear place of the way. -/
structure Paved (t u : FileTree) (rs : List String) : Prop where
  refuses : u.refuses = t.refuses
  made : ∀ ss, ss <:+ rs → t.obstacle? ss = none → u.get? ss.reverse = some .directory
  kept : ∀ loc, (loc.reverse <:+ rs → t.obstacle? loc.reverse ≠ none) → u.get? loc = t.get? loc

def verdict : Option IoError → Except IoError Unit
  | none => .ok ()
  | some e => .error e

theorem makeDir_of_open {t : FileTree} {rs : List String} (h : t.Open rs)
    (hnone : t.get? rs.reverse = none) (hbar : t.bar? rs.reverse = none) :
    t.makeDir (rs.reverse.map .into) = .ok (t.put rs.reverse .directory) := by
  rw [bar?_of_missing hnone, Option.map_eq_none_iff] at hbar
  unfold makeDir
  rw [walk_of_open h]
  simp only [bind, Except.bind, hnone, permit, hbar]
  rfl

theorem makeDir_of_bar {t : FileTree} {rs : List String} (h : t.Open rs)
    (hnone : t.get? rs.reverse = none) {e : IoError} (hbar : t.bar? rs.reverse = some e) :
    t.makeDir (rs.reverse.map .into) = .error e := by
  rw [bar?_of_missing hnone] at hbar
  obtain ⟨text, hrefused, rfl⟩ := Option.map_eq_some_iff.1 hbar
  unfold makeDir
  rw [walk_of_open h]
  simp only [bind, Except.bind, hnone, permit, hrefused]

theorem makeDir_of_some {t : FileTree} {rs : List String} (h : t.Open rs) {e : Entry}
    (hsome : t.get? rs.reverse = some e) :
    t.makeDir (rs.reverse.map .into) = .error .alreadyExists := by
  unfold makeDir
  rw [walk_of_open h]
  simp only [bind, Except.bind, hsome]

theorem makeDir_of_error {t : FileTree} {moves : List Step} {e : IoError}
    (h : t.walk [] moves = .error e) : t.makeDir moves = .error e := by
  unfold makeDir
  rw [h]
  rfl

theorem isDirectory_of_open {t : FileTree} {rs : List String} (h : t.Open rs) :
    t.isDirectory (rs.reverse.map .into) = (t.get? rs.reverse).any Entry.isDirectory := by
  unfold isDirectory
  rw [walk_of_open h]

theorem isDirectory_of_error {t : FileTree} {moves : List Step} {e : IoError}
    (h : t.walk [] moves = .error e) : t.isDirectory moves = false := by
  unfold isDirectory
  rw [h]

theorem paved_self {t : FileTree} {rs : List String}
    (h : ∀ ss, ss <:+ rs → t.obstacle? ss = none → t.get? ss.reverse = some .directory) :
    Paved t t rs :=
  ⟨rfl, h, fun _ _ => rfl⟩

/-- A directory at the end of an open way paves it. -/
theorem paved_put {t : FileTree} {rs : List String} (h : t.Open rs)
    (hnone : t.get? rs.reverse = none) (hbar : t.bar? rs.reverse = none) :
    Paved t (t.put rs.reverse .directory) rs := by
  have hne : rs.reverse ≠ [] := by
    intro hnil
    rw [hnil, get?_nil] at hnone
    cases hnone
  refine ⟨rfl, ?_, ?_⟩
  · intro ss hs hclear
    by_cases heq : ss = rs
    · rw [heq, get?_put_self t hne]
    · rw [get?_put_of_ne t (by simpa using heq), directory_of_open h hs heq]
  · intro loc hloc
    refine get?_put_of_ne t ?_ _
    rintro rfl
    rw [List.reverse_reverse] at hloc
    exact hloc (List.suffix_refl rs) ((obstacle?_of_open h).trans hbar)

/-- Making the last directory of a way, those above it being there. -/
theorem paved_cons {t u v : FileTree} {name : String} {above : List String}
    (habove : Paved t u above) (hname : t.obstacle? (name :: above) = none)
    (hrefuses : v.refuses = u.refuses) (hmade : v.get? (name :: above).reverse = some .directory)
    (hkept : ∀ loc, loc ≠ (name :: above).reverse → v.get? loc = u.get? loc) :
    Paved t v (name :: above) := by
  refine ⟨hrefuses.trans habove.refuses, ?_, ?_⟩
  · intro ss hs hclear
    rcases List.suffix_cons_iff.1 hs with rfl | hs
    · exact hmade
    · rw [hkept _ ?_, habove.made ss hs hclear]
      intro heq
      have hlen := congrArg List.length heq
      have hle := hs.length_le
      simp only [List.length_reverse, List.length_cons] at hlen
      omega
  · intro loc hloc
    have hne : loc ≠ (name :: above).reverse := by
      rintro rfl
      rw [List.reverse_reverse] at hloc
      exact hloc (List.suffix_refl _) hname
    rw [hkept loc hne]
    exact habove.kept loc fun hs => hloc (hs.trans (List.suffix_cons name above))

/-- Nothing more is made behind an obstacle. -/
theorem paved_cons_of_obstacle {t u : FileTree} {name : String} {above : List String} {e : IoError}
    (habove : Paved t u above) (hname : t.obstacle? (name :: above) = some e) :
    Paved t u (name :: above) := by
  refine ⟨habove.refuses, ?_, ?_⟩
  · intro ss hs hclear
    rcases List.suffix_cons_iff.1 hs with heq | hs
    · exact absurd heq (ne_of_clear hname hclear)
    · exact habove.made ss hs hclear
  · intro loc hloc
    exact habove.kept loc fun hs => hloc (hs.trans (List.suffix_cons name above))

/-- Making a directory that may be there already. -/
def makeLast (t : FileTree) (moves : List Step) : FileTree × Except IoError Unit :=
  match t.makeDir moves with
  | .ok made => (made, .ok ())
  | .error e => (t, if t.isDirectory moves then .ok () else .error e)

theorem makeDirsRev_cons (t : FileTree) (name : String) (above : List String) :
    t.makeDirsRev ((name :: above).map .into) =
      match t.makeDir ((name :: above).reverse.map .into) with
      | .error .notFound =>
        match t.makeDirsRev (above.map .into) with
        | (u, .error e) => (u, .error e)
        | (u, .ok ()) => u.makeLast ((name :: above).reverse.map .into)
      | _ => t.makeLast ((name :: above).reverse.map .into) := by
  rw [List.map_cons, makeDirsRev, List.map_reverse, List.map_cons]
  unfold makeLast
  cases t.makeDir (Step.into name :: above.map .into).reverse with
  | ok made => rfl
  | error e => cases e <;> rfl

/-- The last step of a way whose other directories have just been made. -/
theorem makeLast_spec {t u : FileTree} (ht : t.Closed) {name : String} {above : List String}
    (hpaved : Paved t u above) (hclear : t.obstacle? above = none)
    (hnone : t.get? above.reverse = none) :
    Paved t (u.makeLast ((name :: above).reverse.map .into)).1 (name :: above) ∧
      (u.makeLast ((name :: above).reverse.map .into)).2 =
        verdict (t.obstacle? (name :: above)) := by
  unfold makeLast
  have hdirs : ∀ ss, ss <:+ above → u.get? ss.reverse = some .directory :=
    fun ss hs => hpaved.made ss hs (clear_of_suffix hs hclear)
  have hopen := open_of_clear hpaved.refuses hclear hdirs
  have hdir := hdirs above (List.suffix_refl above)
  have hname := obstacle?_cons_of_clear hclear name
  cases haway : u.turnedAway? above.reverse name with
  | some e =>
    have hwalk : u.walk [] ((name :: above).reverse.map .into) = .error e := by
      rw [walk_cons, walk_of_open hopen]
      exact walk_into_away hdir haway
    rw [← turnedAway?_congr hpaved.refuses, haway, Option.some_or] at hname
    rw [makeDir_of_error hwalk, isDirectory_of_error hwalk, hname]
    exact ⟨paved_cons_of_obstacle hpaved hname, rfl⟩
  | none =>
    have hplace : u.Open (name :: above) := ⟨hopen, hdir, haway⟩
    have hmissing : t.get? (name :: above).reverse = none := by
      rw [List.reverse_cons]
      exact ht.get?_of_none hnone name
    have hget : u.get? (name :: above).reverse = none := by
      rw [hpaved.kept, hmissing]
      intro hs
      have hle := hs.length_le
      rw [List.reverse_reverse, List.length_cons] at hle
      omega
    have hsame : u.bar? (name :: above).reverse = t.bar? (name :: above).reverse :=
      bar?_congr hpaved.refuses (hget.trans hmissing.symm)
    rw [← turnedAway?_congr hpaved.refuses, haway, Option.none_or, ← hsame] at hname
    cases hbar : u.bar? (name :: above).reverse with
    | some e =>
      rw [hbar] at hname
      rw [makeDir_of_bar hplace hget hbar, isDirectory_of_open hplace, hget, hname]
      exact ⟨paved_cons_of_obstacle hpaved hname, rfl⟩
    | none =>
      rw [hbar] at hname
      rw [makeDir_of_open hplace hget hbar, hname]
      refine ⟨paved_cons hpaved hname rfl (get?_put_self u (by simp) _) ?_, rfl⟩
      intro loc hne
      exact get?_put_of_ne u hne _

/-- The directories of a way are made up to the first obstacle, which is the outcome. -/
theorem makeDirsRev_spec {t : FileTree} (ht : t.Closed) (rs : List String) :
    Paved t (t.makeDirsRev (rs.map .into)).1 rs ∧
      (t.makeDirsRev (rs.map .into)).2 = verdict (t.obstacle? rs) := by
  induction rs with
  | nil =>
    refine ⟨paved_self ?_, rfl⟩
    rintro ss hs -
    rw [List.suffix_nil.1 hs]
    exact t.get?_nil
  | cons name above ih =>
    rw [makeDirsRev_cons]
    rcases walk_cases ht (name :: above) with hopen | ⟨e, hwalk, hstop⟩
    · unfold makeLast
      have hobstacle := obstacle?_of_open hopen
      cases hget : t.get? (name :: above).reverse with
      | none =>
        cases hbar : t.bar? (name :: above).reverse with
        | none =>
          rw [makeDir_of_open hopen hget hbar, hobstacle, hbar]
          exact ⟨paved_put hopen hget hbar, rfl⟩
        | some e =>
          rw [hbar] at hobstacle
          rw [makeDir_of_bar hopen hget hbar, isDirectory_of_open hopen, hget, hobstacle]
          have hfound : e ≠ .notFound := by
            rw [bar?_of_missing hget] at hbar
            obtain ⟨text, -, rfl⟩ := Option.map_eq_some_iff.1 hbar
            nofun
          have hpaved : Paved t t (name :: above) := paved_self fun ss hs hclear =>
            directory_of_open hopen hs (ne_of_clear hobstacle hclear)
          cases e <;> first | exact ⟨hpaved, rfl⟩ | exact absurd rfl hfound
      | some e =>
        rw [makeDir_of_some hopen hget, isDirectory_of_open hopen, hget]
        cases e with
        | directory =>
          rw [hobstacle, bar?_of_directory hget]
          refine ⟨paved_self fun ss hs _ => ?_, rfl⟩
          by_cases heq : ss = name :: above
          · rw [heq]
            exact hget
          · exact directory_of_open hopen hs heq
        | file content =>
          rw [bar?_of_file hget] at hobstacle
          rw [hobstacle]
          refine ⟨paved_self fun ss hs hclear => ?_, rfl⟩
          exact directory_of_open hopen hs (ne_of_clear hobstacle hclear)
    · rw [makeDir_of_error hwalk]
      cases hstop with
      | blocked hfound hexists hobstacle hdirs =>
        rw [hobstacle, makeLast, makeDir_of_error hwalk, isDirectory_of_error hwalk]
        cases e <;> first | exact ⟨paved_self hdirs, rfl⟩ | exact absurd rfl hfound
      | missing hnone =>
        obtain ⟨hpaved, hresult⟩ := ih
        generalize t.makeDirsRev (above.map .into) = done at hpaved hresult
        obtain ⟨u, result⟩ := done
        simp only at hpaved hresult
        cases habove : t.obstacle? above with
        | some e =>
          rw [hresult, habove]
          have hname := obstacle?_cons_of_some habove name
          have hbelow : fromBelow e = e := by
            cases e with
            | alreadyExists => exact absurd hnone (exists_of_obstacle? habove)
            | _ => rfl
          rw [hname, hbelow]
          exact ⟨paved_cons_of_obstacle hpaved hname, rfl⟩
        | none =>
          rw [hresult, habove]
          exact makeLast_spec ht hpaved habove hnone

/-! ## What paving keeps -/

theorem Paved.directory {t u : FileTree} {rs : List String} (h : Paved t u rs) {loc : Location}
    (hloc : t.get? loc = some .directory) : u.get? loc = some .directory := by
  by_cases hmade : loc.reverse <:+ rs ∧ t.obstacle? loc.reverse = none
  · have hdir := h.made loc.reverse hmade.1 hmade.2
    rwa [List.reverse_reverse] at hdir
  · rw [h.kept loc fun hs hclear => hmade ⟨hs, hclear⟩, hloc]

theorem Paved.closed {t u : FileTree} {rs : List String} (h : Paved t u rs) (ht : t.Closed) :
    u.Closed := by
  intro loc name hne
  by_cases hmade : (loc ++ [name]).reverse <:+ rs ∧ t.obstacle? (loc ++ [name]).reverse = none
  · rw [List.reverse_concat] at hmade
    have hsuffix := List.suffix_cons name loc.reverse
    have hdir := h.made loc.reverse (hsuffix.trans hmade.1) (clear_of_suffix hsuffix hmade.2)
    rwa [List.reverse_reverse] at hdir
  · rw [h.kept _ fun hs hclear => hmade ⟨hs, hclear⟩] at hne
    exact h.directory (ht loc name hne)

/-- Obstacles depend on nothing but what is refused and what is barred on the way. -/
theorem obstacle?_congr {t u : FileTree} {rs : List String} (hrefuses : u.refuses = t.refuses)
    (h : ∀ ss, ss <:+ rs → u.bar? ss.reverse = t.bar? ss.reverse) :
    u.obstacle? rs = t.obstacle? rs := by
  induction rs with
  | nil => rfl
  | cons name above ih =>
    have habove := ih fun ss hs => h ss (hs.trans (List.suffix_cons name above))
    cases hobstacle : t.obstacle? above with
    | some e => rw [obstacle?_cons_of_some hobstacle, obstacle?_cons_of_some (habove.trans hobstacle)]
    | none =>
      rw [obstacle?_cons_of_clear hobstacle, obstacle?_cons_of_clear (habove.trans hobstacle),
        turnedAway?_congr hrefuses, h _ (List.suffix_refl (name :: above))]

/-! ## Operations by path -/

theorem makeDirs_of_long {t : FileTree} {path : String} (h : pathLimit < path.utf8ByteSize) :
    t.makeDirs path = (t, .error .nameTooLong) := by
  unfold makeDirs
  rw [if_pos h]

theorem makeDirs_of_names {t : FileTree} {path name : String} {above : List String}
    (h : Names path above.reverse name) (hshort : path.utf8ByteSize ≤ pathLimit) :
    t.makeDirs path = t.makeDirsRev ((name :: above).map .into) := by
  unfold makeDirs
  rw [if_neg (Nat.not_lt.2 hshort), if_neg (by rw [h.endsInDot]; exact Bool.false_ne_true), h.steps,
    ← List.map_reverse, List.reverse_concat, List.reverse_reverse]

theorem resolve_of_names {t : FileTree} {path name : String} {above : List String}
    (h : Names path above.reverse name) :
    t.resolve path =
      if pathLimit < path.utf8ByteSize then .error .nameTooLong
      else t.walk [] ((name :: above).reverse.map .into) := by
  unfold resolve
  rw [if_neg (by rw [h.not_empty]; exact Bool.false_ne_true), h.steps, List.reverse_cons]

/-- What keeps a file from being made or written in a place. -/
def fault? (t : FileTree) (loc : Location) : Option IoError :=
  match t.get? loc with
  | some .directory => some .isDirectory
  | _ => (t.refuses .write loc).map .other

/-- Why a file cannot be written at the end of an open way. -/
def writeFault? (t : FileTree) (path name : String) (above : Location) : Option IoError :=
  if pathLimit < path.utf8ByteSize then some .nameTooLong
  else (t.turnedAway? above name).or (t.fault? (above ++ [name]))

theorem not_directory_of_fault? {t : FileTree} {loc : Location} (h : t.fault? loc = none) :
    t.get? loc ≠ some .directory := by
  intro hdir
  unfold fault? at h
  rw [hdir] at h
  cases h

theorem fault?_of_file {t : FileTree} {loc : Location} {content : ByteArray}
    (h : t.get? loc = some (.file content)) : t.fault? loc = (t.refuses .write loc).map .other := by
  unfold fault?
  rw [h]

theorem refuses_of_fault? {t : FileTree} {loc : Location} (h : t.fault? loc = none) :
    t.refuses .write loc = none := by
  unfold fault? at h
  split at h
  · cases h
  · exact Option.map_eq_none_iff.1 h

theorem fault?_congr {t u : FileTree} {loc : Location} (hrefuses : u.refuses = t.refuses)
    (h : u.get? loc = t.get? loc) : u.fault? loc = t.fault? loc := by
  unfold fault?
  rw [h, hrefuses]

theorem writeFault?_congr {t u : FileTree} {above : Location} {name : String}
    (hrefuses : u.refuses = t.refuses) (h : u.fault? (above ++ [name]) = t.fault? (above ++ [name]))
    (path : String) : u.writeFault? path name above = t.writeFault? path name above := by
  unfold writeFault?
  rw [turnedAway?_congr hrefuses, h]

theorem fault?_of_writable {t : FileTree} {path name : String} {above : Location}
    (h : t.writeFault? path name above = none) : t.fault? (above ++ [name]) = none := by
  unfold writeFault? at h
  split at h
  · cases h
  · exact (Option.or_eq_none_iff.1 h).2

theorem writeBytes_spec {t : FileTree} {path name : String} {above : List String}
    (h : Names path above.reverse name) (hopen : t.Open above)
    (hdir : t.get? above.reverse = some .directory) (content : ByteArray) :
    t.writeBytes path content =
      match t.writeFault? path name above.reverse with
      | none => .ok (t.put (name :: above).reverse (.file content))
      | some e => .error e := by
  unfold writeBytes writeFault?
  rw [resolve_of_names h]
  rcases Nat.lt_or_ge pathLimit path.utf8ByteSize with hlong | hshort
  · rw [if_pos hlong, if_pos hlong]
    rfl
  rw [if_neg (Nat.not_lt.2 hshort), if_neg (Nat.not_lt.2 hshort), ← List.reverse_cons]
  cases haway : t.turnedAway? above.reverse name with
  | some e =>
    rw [walk_cons, walk_of_open hopen, Except.bind, walk_into_away hdir haway]
    rfl
  | none =>
    have hplace : t.Open (name :: above) := ⟨hopen, hdir, haway⟩
    rw [walk_of_open hplace, Option.none_or]
    unfold fault?
    simp only [bind, Except.bind, h.namesDirectory, permit]
    cases t.get? (name :: above).reverse with
    | none => cases t.refuses .write (name :: above).reverse <;> rfl
    | some e =>
      cases e with
      | directory => rfl
      | file content => cases t.refuses .write (name :: above).reverse <;> rfl

/-- A file written in a directory leaves the tree closed. -/
theorem closed_put_file {t : FileTree} (ht : t.Closed) {loc : Location} {name : String}
    (hdir : t.get? loc = some .directory) (hplace : t.get? (loc ++ [name]) ≠ some .directory)
    (content : ByteArray) : (t.put (loc ++ [name]) (.file content)).Closed := by
  have hother : ∀ other, t.get? other = some .directory →
      (t.put (loc ++ [name]) (.file content)).get? other = some .directory := by
    intro other hget
    rw [get?_put_of_ne t ?_, hget]
    rintro rfl
    exact hplace hget
  intro other last hne
  by_cases heq : other ++ [last] = loc ++ [name]
  · rw [(List.append_inj' heq rfl).1]
    exact hother loc hdir
  · rw [get?_put_of_ne t heq] at hne
    exact hother other (ht other last hne)

end Scaffold.FileTree
