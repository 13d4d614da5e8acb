import Mathlib.Data.List.TakeWhile
import Scaffold.CommandLine
import Scaffold.Proofs.Outcome

/-! How arguments are read. Each argument is of one of five shapes or cannot be understood, and an option
that waits to be checked may as well be checked at once: what comes of a reading does not depend on when. -/

namespace Scaffold.CommandLine

/-! ## Arguments -/

def Slot.name : Slot → String
  | .outDir => "outDir"
  | .schema => "schema"
  | .config => "config"

theorem Slot.ofName?_eq_some_iff {name : String} {slot : Slot} :
    Slot.ofName? name = some slot ↔ name = slot.name := by
  constructor
  · intro h
    unfold Slot.ofName? at h
    split at h <;> first | (obtain rfl := Option.some_inj.1 h; rfl) | cases h
  · rintro rfl
    cases slot <;> rfl

/-- The argument does not look like an option. A single dash does not. -/
def IsWord (arg : String) : Prop := arg.toList.head? ≠ some '-' ∨ arg = "-"

/-- After two dashes. -/
def Reading.behind (r : Reading) : Reading := { r with onlyPositional := true }

def opened (slot : Slot) : String := "--" ++ slot.name

def joined (slot : Slot) (value : String) : String := opened slot ++ "=" ++ value

/-- The shapes of an argument that can be understood. -/
inductive IsUnderstood : String → Prop
  | dashes : IsUnderstood "--"
  | watch : IsUnderstood "--watch"
  | opened (slot : Slot) : IsUnderstood (opened slot)
  | joined (slot : Slot) (value : String) : IsUnderstood (joined slot value)
  | word {arg : String} (harg : IsWord arg) : IsUnderstood arg

theorem splitOption_joined {name value : List Char} (h : '=' ∉ name) :
    splitOption (name ++ '=' :: value) = (String.ofList name, some (String.ofList value)) := by
  have hall : ∀ c ∈ name, (c != '=') = true := fun c hc => bne_iff_ne.2 fun heq => h (heq ▸ hc)
  unfold splitOption
  rw [List.takeWhile_append_of_pos hall, List.dropWhile_append_of_pos hall]
  simp

/-- What is split at an equals sign has it between its two parts. -/
theorem eq_of_splitOption {cs : List Char} {name : String} {value : Option String}
    (h : splitOption cs = (name, value)) :
    cs = name.toList ++ value.elim [] ('=' :: ·.toList) := by
  unfold splitOption at h
  obtain ⟨rfl, rfl⟩ := Prod.mk.inj h
  have hsplit := List.takeWhile_append_dropWhile (p := (· != '=')) (l := cs)
  rw [String.toList_ofList]
  cases hdrop : cs.dropWhile (· != '=') with
  | nil =>
    have hnone : '=' ∉ cs := fun hmem => by simpa using List.dropWhile_eq_nil_iff.1 hdrop _ hmem
    rw [hdrop, List.append_nil] at hsplit
    simp [hnone, hsplit]
  | cons c back =>
    have hc : c = '=' := by
      have hhead := List.head?_dropWhile_not (· != '=') cs
      rw [hdrop] at hhead
      simpa using hhead
    subst hc
    have hmem : '=' ∈ cs := (List.dropWhile_suffix _).subset (hdrop ▸ List.mem_cons_self)
    rw [hdrop] at hsplit
    simpa [hmem] using hsplit.symm

theorem equals_not_mem_name (slot : Slot) : '=' ∉ slot.name.toList := by cases slot <;> decide

section
variable {r : Reading}

theorem argument_behind (h : r.onlyPositional = true) (arg : String) :
    r.argument arg = r.positional arg := by
  simp [Reading.argument, h]

variable (h : r.onlyPositional = false)
include h

theorem argument_dashes : r.argument "--" = .ok r.behind := by
  simp [Reading.argument, Reading.behind, h]

theorem argument_watch : r.argument "--watch" = r.longOption "watch" none := by
  unfold Reading.argument
  rw [h]
  rfl

theorem argument_opened (slot : Slot) : r.argument (opened slot) = r.longOption slot.name none := by
  unfold Reading.argument
  rw [h]
  cases slot <;> rfl

theorem argument_joined (slot : Slot) (value : String) :
    r.argument (joined slot value) = r.longOption slot.name (some value) := by
  have hlist : (joined slot value).toList = '-' :: '-' :: (slot.name.toList ++ '=' :: value.toList) := by
    simp [joined, opened]
  obtain ⟨c, cs, hcs⟩ : ∃ c cs, slot.name.toList ++ '=' :: value.toList = c :: cs :=
    List.exists_cons_of_ne_nil (by simp)
  unfold Reading.argument
  rw [h, hlist, hcs]
  change r.longOption (splitOption (c :: cs)).1 (splitOption (c :: cs)).2 = _
  rw [← hcs, splitOption_joined (equals_not_mem_name slot), String.ofList_toList, String.ofList_toList]

theorem argument_word {arg : String} (harg : IsWord arg) : r.argument arg = r.word arg := by
  unfold Reading.argument
  rw [h]
  rcases harg with hhead | rfl
  · cases hlist : arg.toList with
    | nil => rfl
    | cons c cs =>
      have hc : c ≠ '-' := fun heq => hhead (by rw [hlist, heq]; rfl)
      rw [if_neg Bool.false_ne_true]
      split
      · rename_i heq
        exact absurd (List.cons.inj heq).1 hc
      · rename_i heq
        exact absurd (List.cons.inj heq).1 hc
      · rename_i heq
        exact absurd (List.cons.inj heq).1 hc
      · rename_i heq
        exact absurd (List.cons.inj heq).1 hc
      · rfl
  · rfl

omit h in
theorem name_of_longOption {name : String} {value : Option String} {r' : Reading}
    (h : r.longOption name value = .ok r') :
    (∃ slot : Slot, name = slot.name) ∨ (name = "watch" ∧ value = none) := by
  unfold Reading.longOption at h
  split at h
  · rename_i hslot
    exact .inl ⟨_, Slot.ofName?_eq_some_iff.1 hslot⟩
  · rename_i hslot
    exact .inl ⟨_, Slot.ofName?_eq_some_iff.1 hslot⟩
  · exact .inr ⟨rfl, rfl⟩
  · obtain ⟨_, _, hhelp⟩ := bind_eq_ok.1 h
    cases hhelp
  all_goals cases h

theorem isUnderstood_of_argument {arg : String} {r' : Reading} (harg : r.argument arg = .ok r') :
    IsUnderstood arg := by
  unfold Reading.argument at harg
  rw [if_neg (by simp [h])] at harg
  split at harg
  · rename_i hlist
    rw [show arg = "--" from String.toList_inj.1 hlist]
    exact .dashes
  · rename_i option _ hlist
    cases hsplit : splitOption option with
    | mk name value =>
      have hoption := eq_of_splitOption hsplit
      rw [hsplit] at harg
      rcases name_of_longOption harg with ⟨slot, rfl⟩ | ⟨rfl, rfl⟩
      · cases value with
        | none =>
          rw [show arg = opened slot from String.toList_inj.1 (by simp [hlist, hoption, opened])]
          exact .opened slot
        | some value =>
          rw [show arg = joined slot value from
            String.toList_inj.1 (by simp [hlist, hoption, opened, joined])]
          exact .joined slot value
      · rw [show arg = "--watch" from String.toList_inj.1 (by simp [hlist, hoption])]
        exact .watch
  · rcases name_of_longOption harg with ⟨slot, hslot⟩ | ⟨hwatch, -⟩
    · cases slot <;> contradiction
    · contradiction
  · cases harg
  · rename_i hdashes hlong hhelp hshort
    refine .word ?_
    unfold IsWord
    by_contra hnot
    rw [not_or, not_not] at hnot
    obtain ⟨back, hback⟩ : ∃ back, arg.toList = '-' :: back := by
      cases hlist : arg.toList with
      | nil => simp [hlist] at hnot
      | cons c back =>
        rw [hlist] at hnot
        exact ⟨back, by rw [Option.some_inj.1 hnot.1]⟩
    cases back with
    | nil => exact hnot.2 (String.toList_inj.1 hback)
    | cons d back => exact hshort d back hback

end

/-! ## Options that wait -/

/-- The option that waits has no value yet. -/
def Reading.IsOpen (r : Reading) : Prop := ∃ slot, r.pending = some (slot, none)

/-- Nothing waits, and options may follow. -/
structure Reading.IsSettled (r : Reading) : Prop where
  pending : r.pending = none
  onlyPositional : r.onlyPositional = false

/-- What is left when the arguments end. -/
def readAll (args : List String) (r : Reading) : Outcome Reading := do
  (← args.foldlM Reading.argument r).settle

theorem readAll_cons {arg : String} {args : List String} {r t : Reading} :
    readAll (arg :: args) r = .ok t ↔ ∃ s, r.argument arg = .ok s ∧ readAll args s = .ok t := by
  unfold readAll
  rw [List.foldlM_cons, bind_assoc, bind_eq_ok]

section
variable {r s t : Reading}

theorem take_eq_ok {slot : Slot} {value : String} :
    r.take slot value = .ok s ↔
      r.values.lookup slot = none ∧ value ≠ "" ∧ s = { r with values := (slot, value) :: r.values } := by
  unfold Reading.take
  cases r.values.lookup slot with
  | some _ => simp [fault]
  | none =>
    by_cases hvalue : value = ""
    · simp [hvalue, fault]
    · rw [if_neg (by simp), if_neg (by simpa using hvalue)]
      exact ⟨fun h => ⟨rfl, hvalue, (Except.ok.inj h).symm⟩, fun ⟨_, _, h⟩ => h ▸ rfl⟩

/-- Settling changes nothing but what waits and what is recorded. -/
theorem of_settle (h : r.settle = .ok s) : s = { r with pending := none, values := s.values } := by
  unfold Reading.settle at h
  split at h
  · rename_i hnone
    cases h
    rw [← hnone]
  · cases h
  · obtain ⟨-, -, rfl⟩ := take_eq_ok.1 h
    rfl

theorem settle_settled (h : r.settle = .ok s) : s.settle = .ok s := by
  rw [of_settle h]
  rfl

theorem settle_bind_settled {f : Reading → Outcome Reading} :
    r.settle >>= f = .ok t ↔ ∃ s, r.settle = .ok s ∧ s.settle >>= f = .ok t := by
  rw [bind_eq_ok]
  exact exists_congr fun s => and_congr_right fun hs => by rw [settle_settled hs]; rfl

theorem not_settle_of_isOpen (h : r.IsOpen) : r.settle ≠ .ok s := by
  obtain ⟨slot, hopen⟩ := h
  simp [Reading.settle, hopen, fault]

theorem positional_settled {arg : String} :
    r.positional arg = .ok t ↔ ∃ s, r.settle = .ok s ∧ s.positional arg = .ok t := by
  have hmodel : ∀ s, r.settle = .ok s → s.model = r.model := fun s hs => by rw [of_settle hs]
  unfold Reading.positional
  cases hr : r.model with
  | some _ =>
    refine ⟨nofun, fun ⟨s, hs, h⟩ => ?_⟩
    rw [hmodel s hs, hr] at h
    cases h
  | none =>
    rw [settle_bind_settled]
    exact exists_congr fun s => and_congr_right fun hs => by rw [hmodel s hs, hr]

theorem longOption_settled {name : String} {value : Option String} :
    r.longOption name value = .ok t ↔ ∃ s, r.settle = .ok s ∧ s.longOption name value = .ok t := by
  unfold Reading.longOption
  split
  case h_1 | h_2 | h_3 | h_4 => exact settle_bind_settled
  all_goals simp [fault]

theorem word_eq_positional (h : ¬ r.IsOpen) (arg : String) : r.word arg = r.positional arg := by
  unfold Reading.word
  split
  · rename_i slot hopen
    exact absurd ⟨slot, hopen⟩ h
  · rfl

/-- Before an argument that is neither the value of the option that waits nor the two dashes, that
option may as well be settled. -/
theorem argument_settled {arg : String} (hdashes : arg = "--" → r.onlyPositional = true)
    (hword : r.IsOpen → r.onlyPositional = true ∨ ¬ IsWord arg) :
    r.argument arg = .ok t ↔ ∃ s, r.settle = .ok s ∧ s.argument arg = .ok t := by
  have hsame : ∀ s, r.settle = .ok s → s.onlyPositional = r.onlyPositional := fun s hs => by
    rw [of_settle hs]
  cases honly : r.onlyPositional with
  | true =>
    rw [argument_behind honly, positional_settled]
    refine exists_congr fun s => and_congr_right fun hs => ?_
    rw [argument_behind (by rw [hsame s hs, honly])]
  | false =>
    have hlong {name : String} {value : Option String}
        (heq : ∀ s : Reading, s.onlyPositional = false → s.argument arg = s.longOption name value) :
        r.argument arg = .ok t ↔ ∃ s, r.settle = .ok s ∧ s.argument arg = .ok t := by
      rw [heq r honly, longOption_settled]
      refine exists_congr fun s => and_congr_right fun hs => ?_
      rw [heq s (by rw [hsame s hs, honly])]
    suffices hshape : IsUnderstood arg →
        (r.argument arg = .ok t ↔ ∃ s, r.settle = .ok s ∧ s.argument arg = .ok t) from
      ⟨fun hok => (hshape (isUnderstood_of_argument honly hok)).1 hok, fun ⟨s, hs, hok⟩ =>
        (hshape (isUnderstood_of_argument (by rw [hsame s hs, honly]) hok)).2 ⟨s, hs, hok⟩⟩
    rintro (_ | _ | slot | ⟨slot, value⟩ | harg)
    · rw [hdashes rfl] at honly
      cases honly
    · exact hlong fun s hs => argument_watch hs
    · exact hlong fun s hs => argument_opened hs slot
    · exact hlong fun s hs => argument_joined hs slot value
    · have hclosed : ¬ r.IsOpen := fun hopen => by
        rcases hword hopen with htrue | hnot
        · rw [honly] at htrue
          cases htrue
        · exact hnot harg
      rw [argument_word honly harg, word_eq_positional hclosed, positional_settled]
      refine exists_congr fun s => and_congr_right fun hs => ?_
      have hs' : ¬ s.IsOpen := fun ⟨_, hopen⟩ => by
        rw [of_settle hs] at hopen
        cases hopen
      rw [argument_word (by rw [hsame s hs, honly]) harg, word_eq_positional hs']

/-! ## Reading to the end -/

theorem readAll_nil : readAll [] r = r.settle := rfl

theorem readAll_nil_settled : readAll [] r = .ok t ↔ ∃ s, r.settle = .ok s ∧ readAll [] s = .ok t :=
  ⟨fun h => ⟨t, h, settle_settled h⟩, fun ⟨s, hs, h⟩ => by
    rw [readAll_nil, settle_settled hs] at h
    rw [readAll_nil, hs, h]⟩

theorem readAll_cons_settled {arg : String} {args : List String}
    (h : ∀ t, r.argument arg = .ok t ↔ ∃ s, r.settle = .ok s ∧ s.argument arg = .ok t) :
    readAll (arg :: args) r = .ok t ↔ ∃ s, r.settle = .ok s ∧ readAll (arg :: args) s = .ok t := by
  simp only [readAll_cons, h]
  exact ⟨fun ⟨u, ⟨s, hs, hu⟩, ht⟩ => ⟨s, hs, u, hu, ht⟩, fun ⟨s, hs, u, hu, ht⟩ => ⟨u, ⟨s, hs, hu⟩, ht⟩⟩

theorem readAll_behind_settled (h : r.onlyPositional = true) (args : List String) :
    readAll args r = .ok t ↔ ∃ s, r.settle = .ok s ∧ readAll args s = .ok t := by
  cases args with
  | nil => exact readAll_nil_settled
  | cons arg args => exact readAll_cons_settled fun _ => argument_settled (fun _ => h) (fun _ => .inl h)

theorem readAll_dashes (h : r.onlyPositional = false) (args : List String) :
    readAll ("--" :: args) r = readAll args r.behind := by
  unfold readAll
  rw [List.foldlM_cons, argument_dashes h]
  rfl

theorem settle_behind : r.behind.settle = .ok t ↔ ∃ s, r.settle = .ok s ∧ s.behind = t := by
  cases hpending : r.pending with
  | none => simp [Reading.settle, Reading.behind, hpending]
  | some waiting =>
    obtain ⟨slot, _ | value⟩ := waiting
    · simp [Reading.settle, Reading.behind, hpending, fault]
    · simp only [Reading.settle, Reading.behind, hpending, take_eq_ok]
      constructor
      · rintro ⟨hnone, hvalue, rfl⟩
        exact ⟨_, ⟨hnone, hvalue, rfl⟩, rfl⟩
      · rintro ⟨_, ⟨hnone, hvalue, rfl⟩, rfl⟩
        exact ⟨hnone, hvalue, rfl⟩

/-- An option that waits with its value may as well be settled before the next argument is read. -/
theorem readAll_settled (hpending : ¬ r.IsOpen) (h : r.onlyPositional = false) (args : List String) :
    readAll args r = .ok t ↔ ∃ s, r.settle = .ok s ∧ readAll args s = .ok t := by
  cases args with
  | nil => exact readAll_nil_settled
  | cons arg args =>
    by_cases hdashes : arg = "--"
    · subst hdashes
      rw [readAll_dashes h, readAll_behind_settled rfl]
      simp only [settle_behind]
      constructor
      · rintro ⟨_, ⟨s, hs, rfl⟩, ht⟩
        exact ⟨s, hs, by rwa [readAll_dashes (by rw [of_settle hs, h])]⟩
      · rintro ⟨s, hs, ht⟩
        exact ⟨_, ⟨s, hs, rfl⟩, by rwa [readAll_dashes (by rw [of_settle hs, h])] at ht⟩
    · exact readAll_cons_settled fun _ =>
        argument_settled (fun heq => absurd heq hdashes) (fun hopen => absurd hopen hpending)

/-- What follows an option that waits for its value starts with one. -/
theorem word_of_readAll_isOpen {args : List String} (hopen : r.IsOpen) (h : r.onlyPositional = false)
    (hread : readAll args r = .ok t) : ∃ value rest, args = value :: rest ∧ IsWord value := by
  cases args with
  | nil => exact absurd hread (not_settle_of_isOpen hopen)
  | cons arg args =>
    refine ⟨arg, args, rfl, Classical.byContradiction fun hword => ?_⟩
    by_cases hdashes : arg = "--"
    · subst hdashes
      rw [readAll_dashes h] at hread
      have hbehind : r.behind.IsOpen := hopen
      obtain ⟨s, hs, -⟩ := (readAll_behind_settled rfl args).1 hread
      exact not_settle_of_isOpen hbehind hs
    · obtain ⟨s, hs, -⟩ := (readAll_cons_settled fun _ =>
        argument_settled (fun heq => absurd heq hdashes) (fun _ => .inr hword)).1 hread
      exact not_settle_of_isOpen hopen hs

end

end Scaffold.CommandLine
