import Mathlib.Data.List.Induction
import Mathlib.Data.List.Nodup
import Scaffold.Proofs.CommandLine.Reading

/-! A command line as it is meant: options, flags and models, each spelled in its own way. The arguments
that are accepted are the spellings of the lines whose items agree, and what is read is what was meant. -/

namespace Scaffold.CommandLine

/-! ## Items -/

inductive Item where
  | option (slot : Slot) (value : String) (isJoined : Bool)
  | watch
  | model (name : String)
deriving DecidableEq, Repr

namespace Item

def spell : Item → List String
  | .option slot value true => [joined slot value]
  | .option slot value false => [opened slot, value]
  | .watch => ["--watch"]
  | .model name => [name]

/-- A value apart from its option, and a model, must not look like an option. -/
def IsSpelled : Item → Prop
  | .option _ value false => IsWord value
  | .option _ _ true => True
  | .watch => True
  | .model name => IsWord name

@[simp] def option? : Item → Option (Slot × String)
  | .option slot value _ => some (slot, value)
  | _ => none

@[simp] def model? : Item → Option String
  | .model name => some name
  | _ => none

/-- Takes the item down at once. -/
def record (r : Reading) : Item → Outcome Reading
  | .option slot value _ => r.take slot value
  | .watch => if r.watch then fault .argumentConflict else .ok { r with watch := true }
  | .model name => if r.model.isSome then fault .unknownArgument else .ok { r with model := some name }

end Item

section
variable {r s t : Reading} {i : Item}

theorem waits_of_record (h : i.record r = .ok s) :
    s.pending = r.pending ∧ s.onlyPositional = r.onlyPositional := by
  cases i with
  | option slot value isJoined =>
    obtain ⟨-, -, rfl⟩ := take_eq_ok.1 h
    exact ⟨rfl, rfl⟩
  | watch =>
    simp only [Item.record] at h
    split at h <;> cases h
    exact ⟨rfl, rfl⟩
  | model name =>
    simp only [Item.record] at h
    split at h <;> cases h
    exact ⟨rfl, rfl⟩

theorem settle_of_pending (h : r.pending = none) : r.settle = .ok r := by
  simp [Reading.settle, h]

theorem positional_of_pending (h : r.pending = none) (name : String) :
    r.positional name = (Item.model name).record r := by
  unfold Reading.positional
  rw [settle_of_pending h]
  cases hmodel : r.model with
  | none => simp only [Item.record, hmodel]; rfl
  | some _ => simp only [Item.record, hmodel]; rfl

theorem argument_opened_settled (hr : r.IsSettled) (slot : Slot) :
    r.argument (opened slot) = .ok { r with pending := some (slot, none) } := by
  rw [argument_opened hr.onlyPositional]
  cases slot <;>
    simp only [Reading.longOption, Slot.name, Slot.ofName?, settle_of_pending hr.pending] <;> rfl

/-- An item is taken down where it is spelled. -/
theorem readAll_spell (hi : i.IsSpelled) (hr : r.IsSettled) (rest : List String) :
    readAll (i.spell ++ rest) r = .ok t ↔ ∃ s, i.record r = .ok s ∧ readAll rest s = .ok t := by
  have hpending := hr.pending
  have honly := hr.onlyPositional
  have hsettle := settle_of_pending hpending
  rcases i with ⟨slot, value, _ | _⟩ | _ | name
  · have hword : Reading.argument { r with pending := some (slot, none) } value =
        .ok { r with pending := some (slot, some value) } := by
      rw [argument_word (by exact honly) hi]
      rfl
    have hwaits : Reading.settle { r with pending := some (slot, some value) } = r.take slot value := by
      simp only [Reading.settle]
      rw [← hpending]
    rw [Item.spell, List.cons_append, List.singleton_append, readAll_cons,
      argument_opened_settled hr]
    simp only [Except.ok.injEq, exists_eq_left', readAll_cons, hword]
    rw [readAll_settled (by simp [Reading.IsOpen]) (by exact honly), hwaits]
    rfl
  · have hjoined : r.argument (joined slot value) = r.take slot value := by
      rw [argument_joined honly]
      cases slot <;> simp only [Reading.longOption, Slot.name, Slot.ofName?, hsettle] <;> rfl
    rw [Item.spell, List.singleton_append, readAll_cons, hjoined]
    rfl
  · have hwatch : r.argument "--watch" = Item.watch.record r := by
      rw [argument_watch honly]
      simp [Reading.longOption, Slot.ofName?, hsettle, Item.record]
      rfl
    rw [Item.spell, List.singleton_append, readAll_cons, hwatch]
  · have hclosed : ¬ r.IsOpen := by simp [Reading.IsOpen, hpending]
    rw [Item.spell, List.singleton_append, readAll_cons, argument_word honly hi,
      word_eq_positional hclosed, positional_of_pending hpending]

theorem Reading.IsSettled.record (hr : r.IsSettled) (h : i.record r = .ok s) : s.IsSettled :=
  ⟨(waits_of_record h).1.trans hr.pending, (waits_of_record h).2.trans hr.onlyPositional⟩

def recordAll (items : List Item) (r : Reading) : Outcome Reading := items.foldlM Item.record r

theorem recordAll_cons {items : List Item} :
    recordAll (i :: items) r = .ok t ↔ ∃ s, i.record r = .ok s ∧ recordAll items s = .ok t := by
  unfold recordAll
  rw [List.foldlM_cons, bind_eq_ok]

theorem recordAll_append {xs ys : List Item} :
    recordAll (xs ++ ys) r = .ok t ↔ ∃ s, recordAll xs r = .ok s ∧ recordAll ys s = .ok t := by
  unfold recordAll
  rw [List.foldlM_append, bind_eq_ok]

theorem recordAll_singleton : recordAll [i] r = .ok t ↔ i.record r = .ok t := by
  simp [recordAll]

theorem readAll_spells {items : List Item} (hitems : ∀ i ∈ items, i.IsSpelled) (hr : r.IsSettled)
    (rest : List String) :
    readAll (items.flatMap Item.spell ++ rest) r = .ok t ↔
      ∃ s, s.IsSettled ∧ recordAll items r = .ok s ∧ readAll rest s = .ok t := by
  induction items generalizing r with
  | nil => exact ⟨fun h => ⟨r, hr, rfl, h⟩, fun ⟨_, _, rfl, h⟩ => h⟩
  | cons i items ih =>
    have htail : ∀ i ∈ items, i.IsSpelled := fun i hi => hitems i (List.mem_cons_of_mem _ hi)
    rw [List.flatMap_cons, List.append_assoc, readAll_spell (hitems i List.mem_cons_self) hr]
    simp only [recordAll_cons]
    constructor
    · rintro ⟨u, hu, h⟩
      obtain ⟨s, hs, hrecord, h⟩ := (ih htail (hr.record hu)).1 h
      exact ⟨s, hs, ⟨u, hu, hrecord⟩, h⟩
    · rintro ⟨s, hs, ⟨u, hu, hrecord⟩, h⟩
      exact ⟨u, hu, (ih htail (hr.record hu)).2 ⟨s, hs, hrecord, h⟩⟩

/-- After two dashes every argument is a model. -/
theorem readAll_models (hpending : r.pending = none) (honly : r.onlyPositional = true) (rest : List String) :
    readAll rest r = .ok t ↔ recordAll (rest.map .model) r = .ok t := by
  induction rest generalizing r with
  | nil => rw [readAll_nil, settle_of_pending hpending]; rfl
  | cons name rest ih =>
    rw [readAll_cons, argument_behind honly, positional_of_pending hpending, List.map_cons, recordAll_cons]
    refine exists_congr fun s => and_congr_right fun hs => ?_
    obtain ⟨hp, ho⟩ := waits_of_record hs
    exact ih (hp.trans hpending) (ho.trans honly)

theorem record_behind : i.record r.behind = .ok t ↔ ∃ s, i.record r = .ok s ∧ s.behind = t := by
  cases i with
  | option slot value isJoined =>
    simp only [Item.record, take_eq_ok]
    constructor
    · rintro ⟨hnone, hvalue, rfl⟩
      exact ⟨_, ⟨hnone, hvalue, rfl⟩, rfl⟩
    · rintro ⟨_, ⟨hnone, hvalue, rfl⟩, rfl⟩
      exact ⟨hnone, hvalue, rfl⟩
  | watch => cases hwatch : r.watch <;> simp [Item.record, Reading.behind, hwatch, fault]
  | model name => cases hmodel : r.model <;> simp [Item.record, Reading.behind, hmodel, fault]

theorem recordAll_behind {items : List Item} :
    recordAll items r.behind = .ok t ↔ ∃ s, recordAll items r = .ok s ∧ s.behind = t := by
  induction items generalizing r with
  | nil =>
    constructor
    · intro h
      exact ⟨r, rfl, Except.ok.inj h⟩
    · rintro ⟨_, hs, h⟩
      cases hs
      exact congrArg _ h
  | cons i items ih =>
    simp only [recordAll_cons, record_behind]
    constructor
    · rintro ⟨_, ⟨u, hu, rfl⟩, h⟩
      obtain ⟨s, hs, rfl⟩ := ih.1 h
      exact ⟨s, ⟨u, hu, hs⟩, rfl⟩
    · rintro ⟨s, ⟨u, hu, hs⟩, rfl⟩
      exact ⟨_, ⟨u, hu, rfl⟩, ih.2 ⟨s, hs, rfl⟩⟩

end

/-! ## What items come to -/

def options (items : List Item) : List (Slot × String) := items.filterMap Item.option?

def models (items : List Item) : List String := items.filterMap Item.model?

/-- The items can stand together: nothing is given twice, and every option has a value. -/
structure AreCompatible (items : List Item) : Prop where
  valued : ∀ o ∈ options items, o.2 ≠ ""
  optionsOnce : ((options items).map Prod.fst).Nodup
  watchOnce : items.count .watch ≤ 1
  modelOnce : (models items).length ≤ 1

def recorded (items : List Item) : Reading where
  model := (models items).head?
  watch := items.contains .watch
  values := (options items).reverse

section
variable {items : List Item} {i : Item} {t : Reading}

@[simp] theorem options_snoc : options (items ++ [i]) = options items ++ i.option?.toList := by
  unfold options
  rw [List.filterMap_append]
  cases i <;> rfl

@[simp] theorem models_snoc : models (items ++ [i]) = models items ++ i.model?.toList := by
  unfold models
  rw [List.filterMap_append]
  cases i <;> rfl

theorem AreCompatible.of_snoc (h : AreCompatible (items ++ [i])) : AreCompatible items where
  valued o ho := h.valued o (by rw [options_snoc]; exact List.mem_append_left _ ho)
  optionsOnce := by
    have hall := h.optionsOnce
    rw [options_snoc, List.map_append, List.nodup_append] at hall
    exact hall.1
  watchOnce := by
    have hall := h.watchOnce
    rw [List.count_append] at hall
    omega
  modelOnce := by
    have hall := h.modelOnce
    rw [models_snoc, List.length_append] at hall
    omega

theorem compatible_option (h : AreCompatible items) {slot : Slot} {value : String} {isJoined : Bool} :
    AreCompatible (items ++ [.option slot value isJoined]) ↔
      (recorded items).values.lookup slot = none ∧ value ≠ "" := by
  have hoptions : options (items ++ [.option slot value isJoined]) = options items ++ [(slot, value)] :=
    options_snoc
  rw [List.lookup_eq_none_iff]
  constructor
  · intro hall
    have honce := hall.optionsOnce
    rw [hoptions, List.map_append, List.nodup_append] at honce
    refine ⟨fun o ho => bne_iff_ne.2 ?_, hall.valued (slot, value) (by simp)⟩
    exact (honce.2.2 o.1 (List.mem_map_of_mem (List.mem_reverse.1 ho)) slot (by simp)).symm
  · rintro ⟨hnew, hvalue⟩
    refine ⟨?_, ?_, by simpa [List.count_append] using h.watchOnce, by simpa using h.modelOnce⟩
    · intro o ho
      rw [hoptions, List.mem_append, List.mem_singleton] at ho
      rcases ho with ho | rfl
      · exact h.valued o ho
      · exact hvalue
    · rw [hoptions, List.map_append, List.nodup_append]
      refine ⟨h.optionsOnce, by simp, ?_⟩
      rintro a ha b hb rfl
      obtain ⟨o, ho, rfl⟩ := List.mem_map.1 ha
      have hslot : o.1 = slot := by simpa using hb
      simpa [hslot] using hnew o (List.mem_reverse.2 ho)

theorem compatible_watch (h : AreCompatible items) :
    AreCompatible (items ++ [.watch]) ↔ (recorded items).watch = false := by
  simp only [recorded, List.contains_eq_mem, decide_eq_false_iff_not]
  constructor
  · intro hall hmem
    have honce := hall.watchOnce
    have hpos := List.count_pos_iff.2 hmem
    rw [List.count_append, List.count_singleton_self] at honce
    omega
  · intro hnot
    refine ⟨by simpa using h.valued, by simpa using h.optionsOnce, ?_, by simpa using h.modelOnce⟩
    rw [List.count_append, List.count_eq_zero.2 hnot, List.count_singleton_self]

theorem compatible_model (h : AreCompatible items) {name : String} :
    AreCompatible (items ++ [.model name]) ↔ (recorded items).model = none := by
  simp only [recorded, List.head?_eq_none_iff]
  constructor
  · intro hall
    have honce := hall.modelOnce
    rw [models_snoc, List.length_append] at honce
    exact List.length_eq_zero_iff.1 (Nat.lt_one_iff.1 (Nat.lt_of_succ_le honce))
  · intro hnone
    exact ⟨by simpa using h.valued, by simpa using h.optionsOnce, by
      simpa [List.count_append] using h.watchOnce, by simp [hnone]⟩

theorem record_recorded (h : AreCompatible items) :
    i.record (recorded items) = .ok t ↔ AreCompatible (items ++ [i]) ∧ t = recorded (items ++ [i]) := by
  cases i with
  | option slot value isJoined =>
    have hsnoc : recorded (items ++ [.option slot value isJoined]) =
        { recorded items with values := (slot, value) :: (recorded items).values } := by
      simp [recorded]
    rw [Item.record, take_eq_ok, compatible_option h, hsnoc, and_assoc]
  | watch =>
    have hsnoc : recorded (items ++ [.watch]) = { recorded items with watch := true } := by
      simp [recorded]
    rw [Item.record, compatible_watch h, hsnoc]
    cases (recorded items).watch with
    | true => simp [fault]
    | false => exact ⟨fun heq => ⟨rfl, (Except.ok.inj heq).symm⟩, fun heq => by rw [heq.2]; rfl⟩
  | model name =>
    rw [Item.record, compatible_model h]
    cases hmodel : (recorded items).model with
    | some _ => simp [fault]
    | none =>
      have hnone : models items = [] := List.head?_eq_none_iff.1 hmodel
      have hsnoc : recorded (items ++ [.model name]) = { recorded items with model := some name } := by
        simp [recorded, hnone]
      rw [hsnoc]
      exact ⟨fun heq => ⟨rfl, (Except.ok.inj heq).symm⟩, fun heq => by rw [heq.2]; rfl⟩

/-- Items are taken down one after the other exactly when they can stand together. -/
theorem recordAll_eq_ok_iff : recordAll items {} = .ok t ↔ AreCompatible items ∧ t = recorded items := by
  induction items using List.reverseRecOn generalizing t with
  | nil =>
    have hnone : AreCompatible [] := ⟨by simp [options], by simp [options], by simp, by simp [models]⟩
    exact ⟨fun h => ⟨hnone, (Except.ok.inj h).symm⟩, fun ⟨_, h⟩ => congrArg _ h.symm⟩
  | append_singleton items i ih =>
    simp only [recordAll_append, recordAll_singleton]
    constructor
    · rintro ⟨s, hs, h⟩
      obtain ⟨hitems, rfl⟩ := ih.1 hs
      exact (record_recorded hitems).1 h
    · rintro ⟨hall, h⟩
      exact ⟨_, ih.2 ⟨hall.of_snoc, rfl⟩, (record_recorded hall.of_snoc).2 ⟨hall, h⟩⟩

end

/-! ## Lines -/

/-- Items, and the models behind two dashes if there are any. -/
structure Line where
  items : List Item
  rest : Option (List String)

namespace Line

def spell (l : Line) : List String := l.items.flatMap Item.spell ++ l.rest.elim [] ("--" :: ·)

def all (l : Line) : List Item := l.items ++ (l.rest.getD []).map .model

def models (l : Line) : List String := CommandLine.models l.all

def value? (l : Line) (slot : Slot) : Option String := (options l.all).lookup slot

/-- What is asked for can be done: the items agree, there is something to do, and the schema has a path. -/
structure IsAccepted (l : Line) (env : Environment) : Prop where
  spelled : ∀ i ∈ l.items, i.IsSpelled
  compatible : AreCompatible l.all
  given : l.models ≠ [] ∨ .watch ∈ l.all
  schema : l.value? .schema = none → env.path? schemaVariable ≠ some ""

def commandLine (l : Line) (env : Environment) : CommandLine where
  model := l.models.head?
  outDir := (l.value? .outDir).getD "src"
  watch := l.all.contains .watch
  schema := (l.value? .schema <|> env.path? schemaVariable).getD Settings.defaultSchemaPath
  config := l.value? .config

end Line

section
variable {args : List String} {l : Line} {r t : Reading}

theorem exists_first_of_readAll (hr : r.IsSettled) (h : readAll args r = .ok t) :
    args = [] ∨ (∃ rest, args = "--" :: rest) ∨
      ∃ i : Item, ∃ rest, i.IsSpelled ∧ args = i.spell ++ rest := by
  cases args with
  | nil => exact .inl rfl
  | cons arg args =>
    obtain ⟨s, hs, hrest⟩ := readAll_cons.1 h
    rcases isUnderstood_of_argument hr.onlyPositional hs with _ | _ | slot | ⟨slot, value⟩ | harg
    · exact .inr (.inl ⟨args, rfl⟩)
    · exact .inr (.inr ⟨.watch, args, trivial, rfl⟩)
    · rw [argument_opened_settled hr] at hs
      cases hs
      obtain ⟨value, rest, rfl, hvalue⟩ :=
        word_of_readAll_isOpen ⟨slot, rfl⟩ (by exact hr.onlyPositional) hrest
      exact .inr (.inr ⟨.option slot value false, rest, hvalue, rfl⟩)
    · exact .inr (.inr ⟨.option slot value true, args, trivial, rfl⟩)
    · exact .inr (.inr ⟨.model arg, args, harg, rfl⟩)

/-- Arguments that are read are the spelling of a line. -/
theorem exists_line_of_readAll (hr : r.IsSettled) (h : readAll args r = .ok t) :
    ∃ l : Line, (∀ i ∈ l.items, i.IsSpelled) ∧ l.spell = args := by
  induction hlength : args.length using Nat.strong_induction_on generalizing args r with
  | h n ih =>
    rcases exists_first_of_readAll hr h with rfl | ⟨rest, rfl⟩ | ⟨i, rest, hi, rfl⟩
    · exact ⟨⟨[], none⟩, by simp, rfl⟩
    · exact ⟨⟨[], some rest⟩, by simp, rfl⟩
    · obtain ⟨s, hs, hrest⟩ := (readAll_spell hi hr rest).1 h
      have hshorter : rest.length < n := by
        rw [← hlength, List.length_append]
        have hpos : 0 < i.spell.length := by rcases i with ⟨_, _, _ | _⟩ | _ | _ <;> exact Nat.succ_pos _
        omega
      obtain ⟨l, hl, rfl⟩ := ih rest.length hshorter (hr.record hs) hrest rfl
      refine ⟨⟨i :: l.items, l.rest⟩, ?_, by simp [Line.spell]⟩
      rintro j (_ | ⟨_, hj⟩)
      · exact hi
      · exact hl j hj

theorem readAll_line (hspelled : ∀ i ∈ l.items, i.IsSpelled) :
    readAll l.spell {} = .ok t ↔
      AreCompatible l.all ∧ t = { recorded l.all with onlyPositional := l.rest.isSome } := by
  rw [Line.spell, readAll_spells hspelled ⟨rfl, rfl⟩]
  obtain ⟨items, _ | names⟩ := l
  · simp only [Line.all, Option.elim_none, Option.getD_none, List.map_nil, List.append_nil]
    constructor
    · rintro ⟨s, hs, hrecord, hsettle⟩
      rw [readAll_nil, settle_of_pending hs.pending] at hsettle
      cases hsettle
      exact recordAll_eq_ok_iff.1 hrecord
    · rintro ⟨hall, rfl⟩
      exact ⟨_, ⟨rfl, rfl⟩, recordAll_eq_ok_iff.2 ⟨hall, rfl⟩, rfl⟩
  · simp only [Line.all, Option.elim_some, Option.getD_some]
    constructor
    · rintro ⟨s, hs, hrecord, h⟩
      rw [readAll_dashes hs.onlyPositional, readAll_models (by exact hs.pending) rfl, recordAll_behind] at h
      obtain ⟨u, hu, rfl⟩ := h
      obtain ⟨hall, rfl⟩ := recordAll_eq_ok_iff.1 (recordAll_append.2 ⟨s, hrecord, hu⟩)
      exact ⟨hall, rfl⟩
    · rintro ⟨hall, rfl⟩
      obtain ⟨s, hrecord, hu⟩ := recordAll_append.1 (recordAll_eq_ok_iff.2 ⟨hall, rfl⟩)
      have hs : s.IsSettled := by
        rw [(recordAll_eq_ok_iff.1 hrecord).2]
        exact ⟨rfl, rfl⟩
      refine ⟨s, hs, hrecord, ?_⟩
      rw [readAll_dashes hs.onlyPositional, readAll_models (by exact hs.pending) rfl, recordAll_behind]
      exact ⟨_, hu, rfl⟩

end

theorem lookup_eq_some_iff_mem {xs : List (Slot × String)} (h : (xs.map Prod.fst).Nodup) {slot : Slot}
    {value : String} : xs.lookup slot = some value ↔ (slot, value) ∈ xs := by
  induction xs with
  | nil => simp
  | cons first xs ih =>
    obtain ⟨key, other⟩ := first
    rw [List.map_cons, List.nodup_cons] at h
    rw [List.mem_cons, Prod.mk.injEq]
    by_cases hkey : slot = key
    · subst hkey
      have hnot : (slot, value) ∉ xs := fun hmem => h.1 (List.mem_map.2 ⟨_, hmem, rfl⟩)
      simp [List.lookup_cons_self, hnot, eq_comm]
    · simp [List.lookup_cons, beq_false_of_ne hkey, hkey, ih h.2]

theorem lookup_reverse {xs : List (Slot × String)} (h : (xs.map Prod.fst).Nodup) (slot : Slot) :
    xs.reverse.lookup slot = xs.lookup slot := by
  have hreverse : (xs.reverse.map Prod.fst).Nodup := by rwa [List.map_reverse, List.nodup_reverse]
  refine Option.ext fun value => ?_
  rw [lookup_eq_some_iff_mem hreverse, lookup_eq_some_iff_mem h, List.mem_reverse]

theorem schemaOf_eq_ok_iff {r : Reading} {env : Environment} {path : String} :
    schemaOf r env = .ok path ↔
      (r.values.lookup .schema = none → env.path? schemaVariable ≠ some "") ∧
        (r.values.lookup .schema <|> env.path? schemaVariable).getD Settings.defaultSchemaPath = path := by
  unfold schemaOf
  cases r.values.lookup .schema with
  | some _ => simp
  | none =>
    cases env.path? schemaVariable with
    | none => simp
    | some other => by_cases hother : other = "" <;> simp [hother, fault]

/-- What is read is enough: there is something to do, and the schema has a path. -/
theorem parse_eq_ok {env : Environment} {args : List String} {c : CommandLine} :
    parse env args = .ok c ↔ ∃ r, readAll args {} = .ok r ∧
      (r.values.lookup .schema = none → env.path? schemaVariable ≠ some "") ∧
      (r.model ≠ none ∨ r.watch = true) ∧
      { model := r.model
        outDir := (r.values.lookup .outDir).getD "src"
        watch := r.watch
        schema := (r.values.lookup .schema <|> env.path? schemaVariable).getD Settings.defaultSchemaPath
        config := r.values.lookup .config } = c := by
  have hmissing (r : Reading) :
      (r.model.isNone && !r.watch) = true ↔ ¬ (r.model ≠ none ∨ r.watch = true) := by
    cases r.model <;> cases r.watch <;> simp
  unfold parse readAll
  simp only [bind_eq_ok, schemaOf_eq_ok_iff]
  constructor
  · rintro ⟨s, hs, r, hr, schema, ⟨hschema, rfl⟩, h⟩
    by_cases hnone : (r.model.isNone && !r.watch) = true
    · rw [if_pos hnone] at h
      cases h
    · rw [if_neg hnone] at h
      exact ⟨r, ⟨s, hs, hr⟩, hschema, not_not.1 fun h => hnone ((hmissing r).2 h), Except.ok.inj h⟩
  · rintro ⟨r, ⟨s, hs, hr⟩, hschema, hgiven, rfl⟩
    refine ⟨s, hs, r, hr, _, ⟨hschema, rfl⟩, ?_⟩
    rw [if_neg fun hnone => (hmissing r).1 hnone hgiven]

theorem parse_line {env : Environment} {l : Line} {c : CommandLine}
    (hspelled : ∀ i ∈ l.items, i.IsSpelled) :
    parse env l.spell = .ok c ↔ l.IsAccepted env ∧ l.commandLine env = c := by
  have hvalue : AreCompatible l.all → ∀ slot, (recorded l.all).values.lookup slot = l.value? slot :=
    fun hall => lookup_reverse hall.optionsOnce
  have hgiven : (recorded l.all).model ≠ none ∨ (recorded l.all).watch = true ↔
      l.models ≠ [] ∨ .watch ∈ l.all := by
    simp [recorded, Line.models]
  rw [parse_eq_ok]
  simp only [readAll_line hspelled]
  constructor
  · rintro ⟨_, ⟨hall, rfl⟩, hschema, hmode, rfl⟩
    refine ⟨⟨hspelled, hall, hgiven.1 hmode, by rw [← hvalue hall]; exact hschema⟩, ?_⟩
    simp only [Line.commandLine, ← hvalue hall]
    rfl
  · rintro ⟨hl, rfl⟩
    refine ⟨_, ⟨hl.compatible, rfl⟩, ?_, hgiven.2 hl.given, ?_⟩
    · simp only [hvalue hl.compatible]
      exact hl.schema
    · simp only [hvalue hl.compatible]
      rfl

/-- The arguments that are accepted are the spellings of accepted lines, and they are read as meant. -/
theorem parse_eq_ok_iff {env : Environment} {args : List String} {c : CommandLine} :
    parse env args = .ok c ↔ ∃ l : Line, l.IsAccepted env ∧ l.spell = args ∧ l.commandLine env = c := by
  constructor
  · intro h
    obtain ⟨r, hr, -⟩ := parse_eq_ok.1 h
    obtain ⟨l, hl, rfl⟩ := exists_line_of_readAll ⟨rfl, rfl⟩ hr
    obtain ⟨haccepted, hc⟩ := (parse_line hl).1 h
    exact ⟨l, haccepted, rfl, hc⟩
  · rintro ⟨l, hl, rfl, hc⟩
    exact (parse_line hl.spelled).2 ⟨hl, hc⟩

/-! ## The mode -/

theorem Line.mode_cases {l : Line} {env : Environment} (hl : l.IsAccepted env) :
    (.watch ∈ l.items ∧ (l.commandLine env).mode? = some .watch) ∨
      (.watch ∉ l.items ∧ ∃ name, l.models = [name] ∧
        (l.commandLine env).mode? = some (.generate name)) := by
  have hwatch : .watch ∈ l.all ↔ .watch ∈ l.items := by simp [Line.all]
  by_cases hmem : .watch ∈ l.items
  · exact .inl ⟨hmem, by simp [CommandLine.mode?, Line.commandLine, hwatch, hmem]⟩
  · have hnot : .watch ∉ l.all := fun h => hmem (hwatch.1 h)
    have hone : l.models.length = 1 := by
      have hpos := List.length_pos_iff.2 (hl.given.resolve_right hnot)
      have hle : l.models.length ≤ 1 := hl.compatible.modelOnce
      omega
    obtain ⟨name, hname⟩ := List.length_eq_one_iff.1 hone
    exact .inr ⟨hmem, name, hname, by simp [CommandLine.mode?, Line.commandLine, hnot, hname]⟩

/-- Whatever the order and the spelling, arguments that are accepted say what to do: to watch if that
flag is among them, and else to generate the one model they name. -/
theorem accepted_has_mode {env : Environment} {args : List String} {c : CommandLine}
    (h : parse env args = .ok c) :
    (∃ l : Line, l.IsAccepted env ∧ l.spell = args) ∧
      ∃ mode, c.mode? = some mode ∧ ∀ l : Line, l.IsAccepted env → l.spell = args →
        (mode = .watch ↔ .watch ∈ l.items) ∧
          (.watch ∉ l.items → ∃ name, l.models = [name] ∧ mode = .generate name) := by
  -- Another line of the same spelling is read to the same result, so either line tells the mode.
  have hread : ∀ l : Line, l.IsAccepted env → l.spell = args → c = l.commandLine env := by
    rintro l hl rfl
    exact Except.ok.inj (h.symm.trans ((parse_line hl.spelled).2 ⟨hl, rfl⟩))
  obtain ⟨l, hl, hspell, rfl⟩ := parse_eq_ok_iff.1 h
  refine ⟨⟨l, hl, hspell⟩, ?_⟩
  obtain ⟨mode, hmode⟩ : ∃ mode, (l.commandLine env).mode? = some mode := by
    rcases l.mode_cases hl with ⟨-, hmode⟩ | ⟨-, _, -, hmode⟩ <;> exact ⟨_, hmode⟩
  refine ⟨mode, hmode, fun l' hl' hspell' => ?_⟩
  rw [hread l' hl' hspell'] at hmode
  rcases l'.mode_cases hl' with ⟨hmem, hwatch⟩ | ⟨hmem, name, hname, hgenerate⟩
  · obtain rfl : mode = .watch := Option.some_inj.1 (hmode.symm.trans hwatch)
    exact ⟨iff_of_true rfl hmem, fun hnot => absurd hmem hnot⟩
  · obtain rfl : mode = .generate name := Option.some_inj.1 (hmode.symm.trans hgenerate)
    exact ⟨iff_of_false nofun hmem, fun _ => ⟨name, hname, rfl⟩⟩

/-- Neither the value of an option nor what stands behind two dashes is the flag. -/
theorem accepted_has_mode_behind_dashes :
    ∃ c, parse (.ofList []) ["--outDir=--watch", "--", "--watch"] = .ok c ∧
      c.mode? = some (.generate "--watch") := by
  let l : Line := ⟨[.option .outDir "--watch" true], some ["--watch"]⟩
  have hl : l.IsAccepted (.ofList []) := {
    spelled := fun i hi => by rw [List.mem_singleton.1 hi]; trivial
    compatible := ⟨by decide, by decide, by decide, by decide⟩
    given := .inl (by decide)
    schema := fun _ => by decide }
  have h : parse (.ofList []) l.spell = .ok (l.commandLine (.ofList [])) :=
    parse_eq_ok_iff.2 ⟨l, hl, rfl, rfl⟩
  obtain ⟨-, mode, hmode, hall⟩ := accepted_has_mode h
  obtain ⟨name, hname, rfl⟩ := (hall l hl rfl).2 (by decide)
  obtain rfl : name = "--watch" := by
    have hmodels : l.models = ["--watch"] := by decide
    exact (List.cons.inj (hname.symm.trans hmodels)).1
  exact ⟨_, h, hmode⟩

end Scaffold.CommandLine
