import Scaffold.FileTree

/-! What stands in the way of a path. A walk through a closed tree arrives, or it misses a place, or
it meets an obstacle. Names are given last first where a recursion goes up the tree. -/

namespace Scaffold.FileTree
open Scaffold.Path

/-- Whatever exists lies in a directory, as in every file system. -/
def Closed (t : FileTree) : Prop :=
  ∀ loc name, t.get? (loc ++ [name]) ≠ none → t.get? loc = some .directory

/-- A file stops those who want a directory in its place and those who want to go on below it. -/
def fromBelow : IoError → IoError
  | .alreadyExists => .notDirectory
  | e => e

/-- What keeps a directory from standing in a place. -/
def bar? (t : FileTree) (loc : Location) : Option IoError :=
  match t.get? loc with
  | some .directory => none
  | some (.file _) => some .alreadyExists
  | none => (t.refuses .write loc).map .other

/-- What keeps one from going through a directory for a name. -/
def turnedAway? (t : FileTree) (loc : Location) (name : String) : Option IoError :=
  match t.refuses .search loc with
  | some text => some (.other text)
  | none => if nameLimit < name.utf8ByteSize then some .nameTooLong else none

/-- What keeps a directory from being made here, whatever is missing above it: that it is barred
from its place, or a directory above it from its own, or that one cannot go through one of them. -/
def obstacle? (t : FileTree) : List String → Option IoError
  | [] => none
  | name :: above =>
    match obstacle? t above with
    | some e => some (fromBelow e)
    | none => (t.turnedAway? above.reverse name).or (t.bar? (name :: above).reverse)

/-- Every place above is a directory that one can go through. -/
def Open (t : FileTree) : List String → Prop
  | [] => True
  | name :: above =>
    t.Open above ∧ t.get? above.reverse = some .directory ∧ t.turnedAway? above.reverse name = none

theorem get?_nil (t : FileTree) : t.get? [] = some .directory := rfl

theorem bar?_of_directory {t : FileTree} {loc : Location} (h : t.get? loc = some .directory) :
    t.bar? loc = none := by
  unfold bar?
  rw [h]

theorem bar?_of_file {t : FileTree} {loc : Location} {content : ByteArray}
    (h : t.get? loc = some (.file content)) : t.bar? loc = some .alreadyExists := by
  unfold bar?
  rw [h]

theorem bar?_of_missing {t : FileTree} {loc : Location} (h : t.get? loc = none) :
    t.bar? loc = (t.refuses .write loc).map .other := by
  unfold bar?
  rw [h]

theorem bar?_congr {t u : FileTree} {loc : Location} (hrefuses : u.refuses = t.refuses)
    (h : u.get? loc = t.get? loc) : u.bar? loc = t.bar? loc := by
  unfold bar?
  rw [h, hrefuses]

theorem turnedAway?_congr {t u : FileTree} (hrefuses : u.refuses = t.refuses) (loc : Location)
    (name : String) : u.turnedAway? loc name = t.turnedAway? loc name := by
  unfold turnedAway?
  rw [hrefuses]

theorem turnedAway?_ne {t : FileTree} {loc : Location} {name : String} {e : IoError}
    (h : t.turnedAway? loc name = some e) : e ≠ .notFound ∧ e ≠ .alreadyExists := by
  unfold turnedAway? at h
  split at h
  · cases h
    exact ⟨nofun, nofun⟩
  · split at h
    · cases h
      exact ⟨nofun, nofun⟩
    · cases h

theorem closed_of_entries {t : FileTree}
    (h : ∀ p ∈ t.entries, t.get? p.1.dropLast = some .directory) : t.Closed := by
  intro loc name hne
  obtain ⟨e, he⟩ := Option.ne_none_iff_exists'.1 hne
  have hlookup : t.entries.lookup (loc ++ [name]) = some e := by
    unfold get? at he
    rwa [if_neg (by simp)] at he
  have hmem : (loc ++ [name], e) ∈ t.entries := by
    obtain ⟨front, back, heq, -⟩ := List.lookup_eq_some_iff.1 hlookup
    rw [heq]
    simp
  have hparent := h _ hmem
  rwa [List.dropLast_concat] at hparent

theorem Closed.get?_of_none {t : FileTree} (ht : t.Closed) {loc : Location}
    (h : t.get? loc = none) (name : String) : t.get? (loc ++ [name]) = none := by
  cases hbelow : t.get? (loc ++ [name]) with
  | none => rfl
  | some e =>
    have hloc := ht loc name (by rw [hbelow]; exact Option.some_ne_none e)
    rw [h] at hloc
    contradiction

/-! ## Obstacles -/

theorem obstacle?_cons_of_some {t : FileTree} {above : List String} {e : IoError}
    (h : t.obstacle? above = some e) (name : String) :
    t.obstacle? (name :: above) = some (fromBelow e) := by
  simp only [obstacle?, h]

theorem obstacle?_cons_of_clear {t : FileTree} {above : List String} (h : t.obstacle? above = none)
    (name : String) :
    t.obstacle? (name :: above) =
      (t.turnedAway? above.reverse name).or (t.bar? (name :: above).reverse) := by
  simp only [obstacle?, h]

theorem clear_cons_iff {t : FileTree} {name : String} {above : List String} :
    t.obstacle? (name :: above) = none ↔
      t.obstacle? above = none ∧ t.turnedAway? above.reverse name = none ∧
        t.bar? (name :: above).reverse = none := by
  cases habove : t.obstacle? above with
  | some e => simp [obstacle?_cons_of_some habove]
  | none => simp [obstacle?_cons_of_clear habove]

theorem ne_of_clear {t : FileTree} {rs ss : List String} {e : IoError} (h : t.obstacle? rs = some e)
    (hclear : t.obstacle? ss = none) : ss ≠ rs := by
  rintro rfl
  rw [h] at hclear
  contradiction

theorem bar?_of_clear {t : FileTree} {rs : List String} (h : t.obstacle? rs = none) :
    t.bar? rs.reverse = none := by
  cases rs with
  | nil => rfl
  | cons name above => exact (clear_cons_iff.1 h).2.2

/-- Every part of a clear way is clear. -/
theorem clear_of_suffix {t : FileTree} {rs ss : List String} (hs : ss <:+ rs)
    (h : t.obstacle? rs = none) : t.obstacle? ss = none := by
  induction rs with
  | nil =>
    obtain rfl := List.suffix_nil.1 hs
    exact h
  | cons name above ih =>
    rcases List.suffix_cons_iff.1 hs with rfl | hs
    · exact h
    · exact ih hs (clear_cons_iff.1 h).1

/-- Where a directory would exist already, something stands in its place. -/
theorem exists_of_obstacle? {t : FileTree} {rs : List String}
    (h : t.obstacle? rs = some .alreadyExists) : t.get? rs.reverse ≠ none := by
  cases rs with
  | nil => cases h
  | cons name above =>
    intro hnone
    cases habove : t.obstacle? above with
    | some e =>
      rw [obstacle?_cons_of_some habove] at h
      cases e <;> cases h
    | none =>
      rw [obstacle?_cons_of_clear habove, bar?_of_missing hnone] at h
      rcases Option.or_eq_some_iff.1 h with haway | ⟨-, hrefused⟩
      · exact (turnedAway?_ne haway).2 rfl
      · obtain ⟨text, -, htext⟩ := Option.map_eq_some_iff.1 hrefused
        cases htext

/-- On an open way nothing but the last place can be an obstacle. -/
theorem obstacle?_of_open {t : FileTree} {rs : List String} (h : t.Open rs) :
    t.obstacle? rs = t.bar? rs.reverse := by
  induction rs with
  | nil => rfl
  | cons name above ih =>
    obtain ⟨habove, hdir, haway⟩ := h
    have hclear : t.obstacle? above = none := by rw [ih habove, bar?_of_directory hdir]
    rw [obstacle?_cons_of_clear hclear, haway, Option.none_or]

/-! ## Walking to a place -/

theorem walk_append (t : FileTree) (base : Location) (moves more : List Step) :
    t.walk base (moves ++ more) = (t.walk base moves).bind fun loc => t.walk loc more := by
  induction moves generalizing base with
  | nil => rfl
  | cons first moves ih =>
    rw [List.cons_append]
    cases hget : t.get? base with
    | none =>
      simp only [walk, hget]
      rfl
    | some e =>
      cases e with
      | file content =>
        simp only [walk, hget]
        rfl
      | directory =>
        cases hrefused : t.refuses .search base with
        | some text =>
          simp only [walk, hget, hrefused]
          rfl
        | none =>
          cases first with
          | up =>
            simp only [walk, hget, hrefused]
            exact ih base.dropLast
          | into name =>
            by_cases hlong : nameLimit < name.utf8ByteSize
            · simp only [walk, hget, hrefused, if_pos hlong]
              rfl
            · simp only [walk, hget, hrefused, if_neg hlong]
              exact ih (base ++ [name])

theorem walk_cons (t : FileTree) (name : String) (above : List String) :
    t.walk [] ((name :: above).reverse.map .into) =
      (t.walk [] (above.reverse.map .into)).bind fun loc => t.walk loc [.into name] := by
  rw [List.reverse_cons, List.map_append, List.map_singleton, walk_append]

theorem walk_into {t : FileTree} {loc : Location} (h : t.get? loc = some .directory)
    {name : String} (haway : t.turnedAway? loc name = none) :
    t.walk loc [.into name] = .ok (loc ++ [name]) := by
  unfold turnedAway? at haway
  split at haway
  · cases haway
  · rename_i hrefused
    split at haway
    · cases haway
    · rename_i hshort
      simp only [walk, h, hrefused, if_neg hshort]

theorem walk_into_away {t : FileTree} {loc : Location} (h : t.get? loc = some .directory)
    {name : String} {e : IoError} (haway : t.turnedAway? loc name = some e) :
    t.walk loc [.into name] = .error e := by
  unfold turnedAway? at haway
  split at haway
  · rename_i hrefused
    cases haway
    simp only [walk, h, hrefused]
  · rename_i hrefused
    split at haway
    · rename_i hlong
      cases haway
      simp only [walk, h, hrefused, if_pos hlong]
    · cases haway

theorem walk_into_file {t : FileTree} {loc : Location} {content : ByteArray}
    (h : t.get? loc = some (.file content)) (name : String) :
    t.walk loc [.into name] = .error .notDirectory := by
  simp only [walk, h]

theorem walk_into_none {t : FileTree} {loc : Location} (h : t.get? loc = none) (name : String) :
    t.walk loc [.into name] = .error .notFound := by
  simp only [walk, h]

theorem walk_of_open {t : FileTree} {rs : List String} (h : t.Open rs) :
    t.walk [] (rs.reverse.map .into) = .ok rs.reverse := by
  induction rs with
  | nil => rfl
  | cons name above ih =>
    obtain ⟨habove, hdir, haway⟩ := h
    rw [walk_cons, ih habove, List.reverse_cons]
    exact walk_into hdir haway

theorem directory_of_open {t : FileTree} {rs ss : List String} (h : t.Open rs) (hs : ss <:+ rs)
    (hne : ss ≠ rs) : t.get? ss.reverse = some .directory := by
  induction rs with
  | nil => exact absurd (List.suffix_nil.1 hs) hne
  | cons name above ih =>
    rcases List.suffix_cons_iff.1 hs with heq | hs
    · exact absurd heq hne
    · by_cases heq : ss = above
      · rw [heq]
        exact h.2.1
      · exact ih h.1 hs heq

/-- A clear way is open where every place on it is a directory. -/
theorem open_of_clear {t u : FileTree} {rs : List String} (hrefuses : u.refuses = t.refuses)
    (hclear : t.obstacle? rs = none)
    (hdirs : ∀ ss, ss <:+ rs → u.get? ss.reverse = some .directory) : u.Open rs := by
  induction rs with
  | nil => trivial
  | cons name above ih =>
    have hsuffix := List.suffix_cons name above
    obtain ⟨habove, haway, -⟩ := clear_cons_iff.1 hclear
    rw [← turnedAway?_congr hrefuses] at haway
    refine ⟨ih habove ?_, hdirs above hsuffix, haway⟩
    intro ss hs
    exact hdirs ss (hs.trans hsuffix)

theorem open_of_suffix {t : FileTree} {rs ss : List String} (h : t.Open rs) (hs : ss <:+ rs) :
    t.Open ss := by
  induction rs with
  | nil =>
    rw [List.suffix_nil.1 hs]
    trivial
  | cons name above ih =>
    rcases List.suffix_cons_iff.1 hs with rfl | hs
    · exact h
    · exact ih h.1 hs

theorem open_mono {t u : FileTree} {rs : List String} (hrefuses : u.refuses = t.refuses)
    (h : t.Open rs)
    (hdirs : ∀ ss, ss <:+ rs → t.get? ss.reverse = some .directory →
      u.get? ss.reverse = some .directory) : u.Open rs := by
  induction rs with
  | nil => trivial
  | cons name above ih =>
    obtain ⟨habove, hdir, haway⟩ := h
    have hsuffix := List.suffix_cons name above
    rw [← turnedAway?_congr hrefuses] at haway
    refine ⟨ih habove ?_, hdirs above hsuffix hdir, haway⟩
    intro ss hs
    exact hdirs ss (hs.trans hsuffix)

/-- Why a walk in a closed tree stops: a place on the way is missing, or what stops it stops the
making of directories too, and there are directories all the way up to it. -/
inductive Stopped (t : FileTree) : List String → IoError → Prop
  | missing {name : String} {above : List String} :
      t.get? above.reverse = none → t.Stopped (name :: above) .notFound
  | blocked {rs : List String} {e : IoError} :
      e ≠ .notFound → e ≠ .alreadyExists → t.obstacle? rs = some e →
        (∀ ss, ss <:+ rs → t.obstacle? ss = none → t.get? ss.reverse = some .directory) →
        t.Stopped rs e

theorem stopped_below {t : FileTree} (ht : t.Closed) {above : List String} {e : IoError}
    (h : t.Stopped above e) (name : String) : t.Stopped (name :: above) e := by
  cases h with
  | missing hnone =>
    refine .missing ?_
    rw [List.reverse_cons]
    exact ht.get?_of_none hnone _
  | blocked hfound hexists hobstacle hdirs =>
    have hbelow : fromBelow e = e := by
      cases e <;> first | rfl | exact absurd rfl hexists
    have hname := obstacle?_cons_of_some hobstacle name
    rw [hbelow] at hname
    refine .blocked hfound hexists hname fun ss hs hclear => ?_
    rcases List.suffix_cons_iff.1 hs with heq | hs
    · exact absurd heq (ne_of_clear hname hclear)
    · exact hdirs ss hs hclear

/-- In a closed tree a walk arrives, or it stops for one of two reasons. -/
theorem walk_cases {t : FileTree} (ht : t.Closed) (rs : List String) :
    t.Open rs ∨ ∃ e, t.walk [] (rs.reverse.map .into) = .error e ∧ t.Stopped rs e := by
  induction rs with
  | nil => exact .inl trivial
  | cons name above ih =>
    rw [walk_cons]
    rcases ih with hopen | ⟨e, hwalk, hstop⟩
    · rw [walk_of_open hopen]
      cases hget : t.get? above.reverse with
      | none => exact .inr ⟨_, walk_into_none hget name, .missing hget⟩
      | some e =>
        -- a proper part of the way is clear because it is open
        have hpart : ∀ ss, ss <:+ name :: above → ss ≠ name :: above → ss ≠ above →
            t.get? ss.reverse = some .directory := by
          intro ss hs hne hne'
          rcases List.suffix_cons_iff.1 hs with heq | hs
          · exact absurd heq hne
          · exact directory_of_open hopen hs hne'
        cases e with
        | file content =>
          have habove := obstacle?_of_open hopen
          rw [bar?_of_file hget] at habove
          have hname := obstacle?_cons_of_some habove name
          refine .inr ⟨_, walk_into_file hget name, .blocked nofun nofun hname ?_⟩
          intro ss hs hclear
          exact hpart ss hs (ne_of_clear hname hclear) (ne_of_clear habove hclear)
        | directory =>
          cases haway : t.turnedAway? above.reverse name with
          | some e =>
            have hclear : t.obstacle? above = none := by
              rw [obstacle?_of_open hopen, bar?_of_directory hget]
            have hname : t.obstacle? (name :: above) = some e := by
              rw [obstacle?_cons_of_clear hclear, haway, Option.some_or]
            obtain ⟨hfound, hexists⟩ := turnedAway?_ne haway
            refine .inr ⟨e, walk_into_away hget haway, .blocked hfound hexists hname ?_⟩
            intro ss hs hclear
            by_cases heq : ss = above
            · rw [heq]
              exact hget
            · exact hpart ss hs (ne_of_clear hname hclear) heq
          | none => exact .inl ⟨hopen, hget, haway⟩
    · rw [hwalk]
      exact .inr ⟨e, rfl, stopped_below ht hstop name⟩

end Scaffold.FileTree
