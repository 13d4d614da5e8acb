import Scaffold.Text.Path

/-! The moves of joined paths. A join keeps the parts of what it joins, idle ones apart, so the moves
of the whole are those of the base and then those of the rest. -/

namespace Scaffold.Path

/-- The parts between the separators, idle ones with them. -/
def pieces (path : String) : List (List Char) := path.toList.splitOn '/'

/-- The moves that the parts stand for. -/
def moves (parts : List (List Char)) : List Step :=
  (parts.filter (!isIdle ·)).map fun part =>
    if part = ['.', '.'] then .up else .into (String.ofList part)

theorem steps_eq (path : String) : steps path = moves (pieces path) := rfl

theorem moves_append (xs ys : List (List Char)) : moves (xs ++ ys) = moves xs ++ moves ys := by
  unfold moves
  rw [List.filter_append, List.map_append]

theorem pieces_append (front rest : String) :
    pieces (front ++ "/" ++ rest) = pieces front ++ pieces rest := by
  unfold pieces
  rw [String.toList_append, String.toList_append, List.append_assoc]
  exact List.splitOn_append_cons_self _ _

theorem steps_append (front rest : String) :
    steps (front ++ "/" ++ rest) = steps front ++ steps rest := by
  rw [steps_eq, pieces_append, moves_append, ← steps_eq, ← steps_eq]

theorem steps_here (path : String) : steps ("./" ++ path) = steps path := by
  have hhere : "." ++ "/" ++ path = "./" ++ path := rfl
  rw [← hhere, steps_append]
  rfl

theorem steps_above (path : String) : steps ("../" ++ path) = .up :: steps path := by
  have habove : ".." ++ "/" ++ path = "../" ++ path := rfl
  rw [← habove, steps_append]
  rfl

/-- A base as it stands in front of what is joined to it. -/
def stem (base : String) : String :=
  if base.isEmpty || base.endsWith "/" then base else base ++ "/"

theorem join_eq (base : String) {path : String} (h : path.startsWith "/" = false) :
    join base path = stem base ++ path := by
  unfold join stem
  rw [h]
  split
  · contradiction
  · split <;> rfl

theorem exists_of_endsWith_slash {path : String} (h : path.endsWith "/" = true) :
    ∃ cs, path.toList = cs ++ ['/'] := by
  rw [String.endsWith_eq_endsWith_toSlice, String.Slice.endsWith_string_iff] at h
  obtain ⟨cs, hcs⟩ := h
  exact ⟨cs, by simpa using hcs.symm⟩

/-- The parts of a join end with the parts of the rest, and those before them lead where the base
leads. -/
theorem exists_pieces_join (base : String) {path : String} (h : path.startsWith "/" = false) :
    ∃ front, pieces (join base path) = front ++ pieces path ∧ moves front = steps base := by
  unfold join
  rw [if_neg (by simp [h])]
  split
  · rename_i hbase
    rcases Bool.or_eq_true_iff.1 hbase with hempty | hslash
    · obtain rfl : base = "" := by simpa using hempty
      exact ⟨[], by simp, by decide⟩
    · obtain ⟨cs, hcs⟩ := exists_of_endsWith_slash hslash
      refine ⟨cs.splitOn '/', ?_, ?_⟩
      · unfold pieces
        rw [String.toList_append, hcs, List.append_assoc, List.singleton_append,
          List.splitOn_append_cons_self]
      · rw [steps_eq, pieces, hcs, List.splitOn_append_cons_self, moves_append]
        simp [moves, isIdle]
  · exact ⟨pieces base, pieces_append base path, rfl⟩

theorem steps_join (base : String) {path : String} (h : path.startsWith "/" = false) :
    steps (join base path) = steps base ++ steps path := by
  obtain ⟨front, hpieces, hfront⟩ := exists_pieces_join base h
  rw [steps_eq, hpieces, moves_append, hfront, ← steps_eq]

theorem startsWith_append {front : String} (hne : front ≠ "") (h : front.startsWith "/" = false)
    (rest : String) : (front ++ rest).startsWith "/" = false := by
  rw [String.startsWith_string_eq_false_iff] at h ⊢
  rw [String.toList_append]
  intro hslash
  cases hcs : front.toList with
  | nil => exact hne (by rw [← String.toList_inj, hcs]; rfl)
  | cons c cs =>
    rw [hcs] at h hslash
    obtain rfl : '/' = c := (List.cons_prefix_cons.1 hslash).1
    exact h (List.prefix_append ['/'] cs)

theorem startsWith_join {base path : String} (hne : base ≠ "") (hbase : base.startsWith "/" = false)
    (hpath : path.startsWith "/" = false) : (join base path).startsWith "/" = false := by
  rw [join_eq base hpath]
  unfold stem
  split
  · exact startsWith_append hne hbase path
  · rw [String.append_assoc]
    exact startsWith_append hne hbase _

/-! ## Plain names -/

/-- A name of one place: a part that is neither idle nor a move up. -/
structure IsPlain (name : String) : Prop where
  slash : '/' ∉ name.toList
  busy : isIdle name.toList = false
  down : name.toList ≠ ['.', '.']

theorem IsPlain.pieces {name : String} (h : IsPlain name) : pieces name = [name.toList] :=
  List.splitOn_eq_singleton h.slash

theorem IsPlain.startsWith {name : String} (h : IsPlain name) : name.startsWith "/" = false := by
  rw [String.startsWith_string_eq_false_iff]
  exact fun hslash => h.slash (hslash.subset (by decide))

theorem IsPlain.steps {name : String} (h : IsPlain name) : steps name = [.into name] := by
  rw [steps_eq, h.pieces]
  simp [moves, h.busy, h.down]

theorem IsPlain.ne_nil {name : String} (h : IsPlain name) : name.toList ≠ [] := by
  intro hnil
  have hbusy := h.busy
  rw [hnil] at hbusy
  exact absurd hbusy (by decide)

theorem IsPlain.startsWith_append {name : String} (h : IsPlain name) (rest : String) :
    (name ++ rest).startsWith "/" = false := by
  refine Path.startsWith_append ?_ h.startsWith rest
  rintro rfl
  exact h.ne_nil rfl

/-- A text that ends in a plain name ends in no separator. -/
theorem IsPlain.endsWith {name : String} (h : IsPlain name) (front : String) :
    (front ++ name).endsWith "/" = false := by
  rw [Bool.eq_false_iff]
  intro hslash
  obtain ⟨cs, hcs⟩ := exists_of_endsWith_slash hslash
  obtain ⟨before, last, hname⟩ := (List.eq_nil_or_concat name.toList).resolve_left h.ne_nil
  rw [String.toList_append, hname, List.concat_eq_append, ← List.append_assoc] at hcs
  have hlast := (List.append_inj' hcs rfl).2
  refine h.slash ?_
  rw [hname, List.concat_eq_append, hlast]
  simp

theorem IsPlain.join_append {name : String} (h : IsPlain name) (front : String) {rest : String}
    (hrest : rest.startsWith "/" = false) :
    join (front ++ name) rest = front ++ name ++ "/" ++ rest := by
  have hempty : (front ++ name).isEmpty = false := by
    rw [Bool.eq_false_iff]
    intro hempty
    have hnil : (front ++ name).toList = [] := by simpa using hempty
    rw [String.toList_append] at hnil
    exact h.ne_nil (List.append_eq_nil_iff.1 hnil).2
  unfold join
  rw [hrest, hempty, h.endsWith]
  rfl

theorem IsPlain.join {name : String} (h : IsPlain name) {rest : String}
    (hrest : rest.startsWith "/" = false) : join name rest = name ++ "/" ++ rest := by
  have happend := h.join_append "" hrest
  rwa [String.empty_append] at happend

/-- Joining a plain name and then more is joining both at once. -/
theorem IsPlain.join_join {name : String} (h : IsPlain name) (base : String) {rest : String}
    (hrest : rest.startsWith "/" = false) :
    Path.join (Path.join base name) rest = Path.join base (name ++ "/" ++ rest) := by
  have hstart : (name ++ "/" ++ rest).startsWith "/" = false := by
    rw [String.append_assoc]
    exact h.startsWith_append _
  rw [join_eq base h.startsWith, h.join_append _ hrest, join_eq base hstart]
  simp only [String.append_assoc]

theorem IsPlain.pieces_append {name : String} (h : IsPlain name) (rest : String) :
    Path.pieces (name ++ "/" ++ rest) = name.toList :: Path.pieces rest := by
  rw [Path.pieces_append, h.pieces, List.singleton_append]

/-! ## Paths that end in a plain name -/

/-- The moves of `path` are into the places `above`, and then into `name`, with which it ends. -/
structure Names (path : String) (above : List String) (name : String) : Prop where
  steps : steps path = (above ++ [name]).map .into
  last : (pieces path).getLast? = some name.toList
  plain : IsPlain name

theorem IsPlain.names {name : String} (h : IsPlain name) : Names name [] name :=
  ⟨h.steps, by rw [h.pieces]; rfl, h⟩

theorem Names.join {path base name : String} {above root : List String} (h : Names path above name)
    (hbase : Path.steps base = root.map .into) (hpath : path.startsWith "/" = false) :
    Names (Path.join base path) (root ++ above) name := by
  obtain ⟨front, hpieces, -⟩ := exists_pieces_join base hpath
  refine ⟨?_, ?_, h.plain⟩
  · rw [steps_join base hpath, hbase, h.steps, ← List.map_append, List.append_assoc]
  · rw [hpieces, List.getLast?_append, h.last, Option.some_or]

theorem Names.exists_pieces {path name : String} {above : List String} (h : Names path above name) :
    ∃ front, pieces path = front ++ [name.toList] :=
  List.getLast?_eq_some_iff.1 h.last

theorem Names.not_empty {path name : String} {above : List String} (h : Names path above name) :
    path.isEmpty = false := by
  rw [Bool.eq_false_iff]
  intro hempty
  obtain rfl : path = "" := by simpa using hempty
  have hsteps := congrArg List.length h.steps
  simp [steps_eq, pieces, moves, isIdle] at hsteps

theorem Names.namesDirectory {path name : String} {above : List String} (h : Names path above name) :
    namesDirectory path = false := by
  have hlast := h.last
  unfold pieces at hlast
  unfold Path.namesDirectory
  rw [hlast, Option.map_some, Option.getD_some, h.plain.busy]

/-- What a path ends with decides whether it ends in a dot. -/
theorem IsPlain.endsInDot {path name : String} (h : IsPlain name) {front : List (List Char)}
    (hpath : Path.pieces path = front ++ [name.toList]) : endsInDot path = false := by
  have hkept : [name.toList].filter (· != []) = [name.toList] := by
    simp [h.ne_nil]
  unfold Path.pieces at hpath
  unfold Path.endsInDot
  rw [hpath, List.filter_append, hkept, List.getLast?_concat, beq_eq_false_iff_ne, Ne,
    Option.some_inj]
  intro hdot
  have hbusy := h.busy
  rw [hdot] at hbusy
  exact absurd hbusy (by decide)

theorem Names.endsInDot {path name : String} {above : List String} (h : Names path above name) :
    endsInDot path = false := by
  obtain ⟨front, hfront⟩ := h.exists_pieces
  exact h.plain.endsInDot hfront

/-! ## Paths that part -/

/-- From a common start the two paths go into places with different names. -/
def Apart (path other : String) : Prop :=
  ∃ (start : List Step) (names otherNames : List String), steps path = start ++ names.map .into ∧
    steps other = start ++ otherNames.map .into ∧ names ≠ otherNames

theorem Apart.ne {path other : String} (h : Apart path other) : path ≠ other := by
  obtain ⟨start, names, otherNames, hpath, hother, hne⟩ := h
  rintro rfl
  have hnames := List.append_cancel_left (hpath.symm.trans hother)
  exact hne ((List.map_inj_right fun _ _ => Step.into.inj).1 hnames)

/-! ## Places -/

/-- The place that moves lead to from `base`, whatever stands on the way. -/
def follow (base : List String) : List Step → List String
  | [] => base
  | .up :: rest => follow base.dropLast rest
  | .into name :: rest => follow (base ++ [name]) rest

/-- The place that a path names. -/
def place (path : String) : List String := follow [] (steps path)

theorem follow_append (base : List String) (front back : List Step) :
    follow base (front ++ back) = follow (follow base front) back := by
  induction front generalizing base with
  | nil => rfl
  | cons move front ih =>
    cases move with
    | up => exact ih _
    | into name => exact ih _

theorem follow_names (base names : List String) :
    follow base (names.map .into) = base ++ names := by
  induction names generalizing base with
  | nil => exact (List.append_nil base).symm
  | cons name names ih =>
    rw [List.map_cons, follow, ih, List.append_assoc, List.singleton_append]

theorem exists_names {moves : List Step} (h : Step.up ∉ moves) :
    ∃ names : List String, moves = names.map .into := by
  induction moves with
  | nil => exact ⟨[], rfl⟩
  | cons move moves ih =>
    rw [List.mem_cons, not_or] at h
    obtain ⟨hmove, hmoves⟩ := h
    obtain ⟨names, hnames⟩ := ih hmoves
    cases move with
    | up => exact absurd rfl hmove
    | into name => exact ⟨name :: names, by rw [List.map_cons, hnames]⟩

theorem Apart.place_ne {path other : String} (h : Apart path other) : place path ≠ place other := by
  obtain ⟨start, names, otherNames, hpath, hother, hne⟩ := h
  unfold place
  rw [hpath, hother, follow_append, follow_append, follow_names, follow_names]
  exact fun heq => hne (List.append_cancel_left heq)

end Scaffold.Path
