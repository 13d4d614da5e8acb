import Scaffold.Proofs.Outcome
import Scaffold.Proofs.Watch.Clock
import Scaffold.Watch.Timeline

/-! When triggers return. A call is accepted at once if a re-scan is pending, and else with the first
event; it returns when things have settled, and what was sent by then is taken with it. The invariant
follows one call through the stages of its wait. -/

namespace Scaffold.Watch.Clocked

open Happening

/-- When the wait that was `called` at this time takes up an event or the pending re-scan. -/
def accepted? (again : Bool) (called : Nat) (h : List (Nat × Happening)) : Option Nat :=
  if again then some called else (h.find? (·.2.isSend)).map Prod.fst

theorem accepted?_snoc (again : Bool) (called : Nat) (h : List (Nat × Happening)) (e : Nat × Happening) :
    accepted? again called (h ++ [e]) =
      (accepted? again called h).or (if e.2.isSend then some e.1 else none) := by
  unfold accepted?
  cases again with
  | true => rfl
  | false =>
    rw [if_neg Bool.false_ne_true, if_neg Bool.false_ne_true, List.find?_append]
    cases h.find? (·.2.isSend) <;> cases hsend : e.2.isSend <;> simp [hsend]

variable {σ : Type}

/-- Where a wait can stand, and what has happened to it since it was called. -/
inductive Awaiting (debounceMs : Nat) (accepted? : Option Nat) (c : Clocked σ) : Prop
  | idle (hnone : accepted? = none) (hstage : c.stage = .waiting) (hflag : c.queue.rescanRequested = false)
      (hempty : c.channel.queued = 0)
  | accepting {accepted : Nat} (hsome : accepted? = some accepted) (hstage : c.stage = .waiting)
      (hdue : c.queue.rescanRequested = true ∨ 0 < c.channel.queued) (hnow : c.now = accepted)
  | settling {accepted : Nat} (hsome : accepted? = some accepted) (hstage : c.stage = .settling)
      (hsince : c.since = accepted) (hnow : c.now ≤ accepted + debounceMs)
  | clearing {accepted : Nat} (hsome : accepted? = some accepted) (hstage : c.stage = .clearing)
      (hnow : c.now = accepted + debounceMs) (hsince : c.since = c.now)
  | ended (hnone : accepted? = none) (hstage : c.stage = .ended) (hclosed : c.channel.isOpen = false)
      (hempty : c.channel.queued = 0)

variable [Workspace (StateM σ)] {settings : Settings} {schemaPath outDir : String} {debounceMs : Nat}
  {c c' called : Clocked σ}

/-! ## Steps of a wait -/

theorem settling_of_ready (hs : c.Step settings schemaPath outDir (.did .waiting) c')
    (hready : c.queue.rescanRequested = true ∨ 0 < c.channel.queued) : c'.stage = .settling := by
  have hm := moved_of_did hs.1
  have hstage := hs.1.1
  obtain ⟨⟨loop, channel, files⟩, now, since⟩ := c
  obtain ⟨⟨loop', channel', files'⟩, now', since'⟩ := c'
  cases hm with
  | rescan _ => rfl
  | received _ _ => rfl
  | ended hdown hqueued hclosed =>
    rcases hready with hset | hpos
    · exact absurd hset (by simp [queue, hdown])
    · exact absurd hqueued (Nat.ne_of_gt hpos)
  | _ => cases hstage

theorem ended_of_idle (hs : c.Step settings schemaPath outDir (.did .waiting) c')
    (hflag : c.queue.rescanRequested = false) (hempty : c.channel.queued = 0) :
    c'.stage = .ended ∧ c'.channel.queued = 0 ∧ c'.channel.isOpen = false := by
  have hm := moved_of_did hs.1
  have hstage := hs.1.1
  obtain ⟨⟨loop, channel, files⟩, now, since⟩ := c
  obtain ⟨⟨loop', channel', files'⟩, now', since'⟩ := c'
  cases hm with
  | rescan hset => exact absurd hflag (by simp [queue, hset])
  | received _ hpos => exact absurd hempty (Nat.ne_of_gt hpos)
  | ended _ hqueued hclosed => exact ⟨rfl, hqueued, hclosed⟩
  | _ => cases hstage

theorem clearing_of_settling (hs : c.Step settings schemaPath outDir (.did .settling) c') :
    c'.stage = .clearing := by
  have hm := moved_of_did hs.1
  have hstage := hs.1.1
  obtain ⟨⟨loop, channel, files⟩, now, since⟩ := c
  obtain ⟨⟨loop', channel', files'⟩, now', since'⟩ := c'
  cases hm <;> cases hstage
  rfl

/-! ## The invariant -/

section
variable {again : Bool} {time : Nat} {h : List (Nat × Happening)} {e : Happening}

theorem MayPass.le {ms : Nat} (hpass : c.MayPass settings schemaPath outDir ms)
    (hfree : ¬ c.config.IsBlocked) (htime : c.stage.takesTime = false) :
    c.now + ms ≤ c.since + c.config.pause settings schemaPath outDir := by
  rcases hpass with hblocked | htakes | hle
  · exact absurd hblocked hfree
  · rw [htime] at htakes
    contradiction
  · exact hle

theorem Awaiting.passed {ms : Nat} (hwait : Awaiting debounceMs (accepted? again time h) c)
    (hsince : c.since ≤ c.now) (hdebounce : c.queue.debounceMs = debounceMs)
    (hpass : c.MayPass settings schemaPath outDir ms) :
    Awaiting debounceMs (accepted? again time h) { c with now := c.now + ms } := by
  cases hwait with
  | idle hnone hstage hflag hempty => exact .idle hnone hstage hflag hempty
  | @accepting accepted hsome hstage hdue hnow =>
    have hle := hpass.le (not_isBlocked_of_ready hdue) (by rw [hstage]; rfl)
    rw [pause_waiting hstage] at hle
    refine .accepting hsome hstage hdue ?_
    change c.now + ms = accepted
    omega
  | @settling accepted hsome hstage hstart hnow =>
    have hle := hpass.le (not_isBlocked_of_stage (by simp [hstage])) (by rw [hstage]; rfl)
    rw [pause_settling hstage, hdebounce, hstart] at hle
    exact .settling hsome hstage hstart hle
  | @clearing accepted hsome hstage hnow hstart =>
    have hle := hpass.le (not_isBlocked_of_stage (by simp [hstage])) (by rw [hstage]; rfl)
    rw [pause_clearing hstage] at hle
    obtain rfl : ms = 0 := by omega
    exact .clearing hsome hstage hnow hstart
  | ended hnone hstage hclosed hempty => exact .ended hnone hstage hclosed hempty

omit [Workspace (StateM σ)] in
/-- What happens elsewhere, short of an event, does not matter to the wait. -/
theorem Awaiting.elsewhere (hwait : Awaiting debounceMs (accepted? again time h) c)
    (hloop : c'.config.loop = c.config.loop) (hqueued : c'.channel.queued = c.channel.queued)
    (hopen : c.channel.isOpen = false → c'.channel.isOpen = false) (hnow' : c'.now = c.now)
    (hsince' : c'.since = c.since) : Awaiting debounceMs (accepted? again time h) c' := by
  have hstage' : c'.stage = c.stage := congrArg LoopState.stage hloop
  have hqueue' : c'.queue = c.queue := congrArg LoopState.queue hloop
  cases hwait with
  | idle hnone hstage hflag hempty =>
    exact .idle hnone (hstage'.trans hstage) (by rwa [hqueue']) (hqueued.trans hempty)
  | accepting hsome hstage hdue hnow =>
    exact .accepting hsome (hstage'.trans hstage) (by rwa [hqueue', hqueued]) (hnow'.trans hnow)
  | settling hsome hstage hsince hnow =>
    exact .settling hsome (hstage'.trans hstage) (hsince'.trans hsince) (by rwa [hnow'])
  | clearing hsome hstage hnow hsince =>
    exact .clearing hsome (hstage'.trans hstage) (hnow'.trans hnow) (by rw [hsince', hsince, hnow'])
  | ended hnone hstage hclosed hempty =>
    exact .ended hnone (hstage'.trans hstage) (hopen hclosed) (hqueued.trans hempty)

theorem Awaiting.sent (hwait : Awaiting debounceMs (accepted? again time h) c)
    (hs : c.Step settings schemaPath outDir .sent c') :
    Awaiting debounceMs (accepted? again time (h ++ [(c.now, .sent)])) c' := by
  obtain ⟨config', now', since'⟩ := c'
  obtain ⟨⟨hopen, rfl⟩, rfl, rfl⟩ := hs
  have hqueued : (c.channel.send 1).queued = c.channel.queued + 1 := by simp [Channel.send, hopen]
  have hpos : 0 < (c.channel.send 1).queued := by omega
  rw [accepted?_snoc]
  cases hwait with
  | idle hnone hstage hflag hempty =>
    rw [hnone]
    exact .accepting rfl hstage (.inr hpos) rfl
  | accepting hsome hstage hdue hnow =>
    rw [hsome]
    exact .accepting rfl hstage (.inr hpos) hnow
  | settling hsome hstage hsince hnow =>
    rw [hsome]
    exact .settling rfl hstage hsince hnow
  | clearing hsome hstage hnow hsince =>
    rw [hsome]
    exact .clearing rfl hstage hnow hsince
  | ended hnone hstage hclosed hempty =>
    rw [hclosed] at hopen
    contradiction

theorem Awaiting.did {stage : Stage} (hwait : Awaiting debounceMs (accepted? again time h) c)
    (hdebounce : c.queue.debounceMs = debounceMs)
    (hs : c.Step settings schemaPath outDir (.did stage) c') (htrigger : isTrigger (.did stage) = false) :
    Awaiting debounceMs (accepted? again time h) c' := by
  have ⟨⟨hsame, halive, _⟩, hnow', hdue, hsince'⟩ := hs
  cases hwait with
  | idle hnone hstage hflag hempty =>
    obtain rfl : stage = .waiting := hsame.symm.trans hstage
    obtain ⟨hend, hqueued, hclosed⟩ := ended_of_idle hs hflag hempty
    exact .ended hnone hend hclosed hqueued
  | accepting hsome hstage hready hnow =>
    obtain rfl : stage = .waiting := hsame.symm.trans hstage
    refine .settling hsome (settling_of_ready hs hready) (hsince'.trans hnow) ?_
    rw [hnow', hnow]
    exact Nat.le_add_right _ _
  | settling hsome hstage hstart hnow =>
    obtain rfl : stage = .settling := hsame.symm.trans hstage
    rw [IsDue, pause_settling hstage, hdebounce, hstart] at hdue
    refine .clearing hsome (clearing_of_settling hs) ?_ (hsince'.trans hnow'.symm)
    rw [hnow']
    exact Nat.le_antisymm hnow hdue
  | clearing hsome hstage hnow hstart =>
    obtain rfl : stage = .clearing := hsame.symm.trans hstage
    contradiction
  | ended hnone hstage hclosed hempty => exact absurd (hsame.symm.trans hstage) halive

theorem Awaiting.stepped (hwait : Awaiting debounceMs (accepted? again time h) c)
    (hdebounce : c.queue.debounceMs = debounceMs)
    (hs : c.Step settings schemaPath outDir e c') (htrigger : isTrigger e = false) :
    Awaiting debounceMs (accepted? again time (h ++ [(c.now, e)])) c' := by
  have hsame (hother : isSend e = false) :
      accepted? again time (h ++ [(c.now, e)]) = accepted? again time h := by
    rw [accepted?_snoc, hother]
    exact Option.or_none
  cases e with
  | sent => exact hwait.sent hs
  | did stage =>
    rw [hsame rfl]
    exact hwait.did hdebounce hs htrigger
  | closed =>
    obtain ⟨hconfig, hnow, hsince⟩ := hs
    rw [hsame rfl]
    exact hwait.elsewhere (by rw [hconfig]) (by rw [channel, hconfig]; rfl)
      (fun _ => by rw [channel, hconfig]; rfl) hnow hsince
  | edited =>
    obtain ⟨⟨files, hconfig⟩, hnow, hsince⟩ := hs
    rw [hsame rfl]
    exact hwait.elsewhere (by rw [hconfig]) (by rw [channel, hconfig])
      (fun hclosed => by rwa [channel, hconfig]) hnow hsince

/-! ## The wait -/

/-- Nothing in it ends a wait for a trigger. -/
def Untriggered (h : List (Nat × Happening)) : Prop := ∀ e ∈ h, isTrigger e.2 = false

/-- Right behind the end of a batch. -/
theorem awaiting_called (hs : c.Step settings schemaPath outDir (.did .finishing) called) :
    Awaiting debounceMs (accepted? c.rescans called.now []) called := by
  obtain ⟨hstage, hflag, hempty, hnow, hsince⟩ := finished hs
  cases hrescans : c.rescans with
  | true => exact .accepting rfl hstage (.inl (hflag.trans hrescans)) rfl
  | false => exact .idle rfl hstage (hflag.trans hrescans) hempty

end

section
variable {h after rest : List (Nat × Happening)} {c₀ : Clocked σ}

theorem awaiting_leads (hs : c.Step settings schemaPath outDir (.did .finishing) called)
    (hl : Leads settings schemaPath outDir called after c') (hno : Untriggered after) :
    Awaiting called.queue.debounceMs (accepted? c.rescans called.now after) c' := by
  have hstart : called.since ≤ called.now := by
    obtain ⟨-, -, -, hnow, hsince⟩ := finished hs
    rw [hsince, hnow]
  induction hl with
  | nil => exact awaiting_called hs
  | passed ms hl hpass ih => exact (ih hno).passed (since_le hl hstart) (debounceMs_eq hl) hpass
  | @snoc front c c' e hl hstep ih =>
    obtain ⟨hfront, hlast⟩ := List.forall_mem_append.1 hno
    exact (ih hfront).stepped (debounceMs_eq hl) hstep (hlast _ (List.mem_singleton.2 rfl))

theorem exists_trigger_clearing (hl : Leads settings schemaPath outDir c₀ h c) (hstage : c.stage = .clearing)
    (hsince : c.since ≤ c.now) :
    ∃ c', Leads settings schemaPath outDir c₀ (h ++ [(c.now, .did .clearing)]) c' := by
  have hdue : c.IsDue settings schemaPath outDir := by
    rw [IsDue, pause_clearing hstage]
    exact hsince
  exact ⟨_, hl.snoc (step_of_isDue hstage (by simp) (not_isBlocked_of_stage (by simp [hstage])) hdue)⟩

theorem exists_trigger_settling (hl : Leads settings schemaPath outDir c₀ h c) (hstage : c.stage = .settling)
    (hnow : c.now ≤ c.since + c.queue.debounceMs) :
    ∃ c', Leads settings schemaPath outDir c₀ (h ++ [(c.since + c.queue.debounceMs, .did .settling)] ++
      [(c.since + c.queue.debounceMs, .did .clearing)]) c' := by
  have hpause : c.config.pause settings schemaPath outDir = c.queue.debounceMs := pause_settling hstage
  have hpassed : Leads settings schemaPath outDir c₀ h { c with now := c.since + c.queue.debounceMs } := by
    have hpass : c.MayPass settings schemaPath outDir (c.since + c.queue.debounceMs - c.now) :=
      .inr (.inr (by rw [hpause]; omega))
    have hlater := hl.passed _ hpass
    rwa [Nat.add_sub_cancel' hnow] at hlater
  have hdue : IsDue settings schemaPath outDir { c with now := c.since + c.queue.debounceMs } :=
    Nat.add_le_add_left (Nat.le_of_eq hpause) _
  have hbusy : c.stage ≠ .waiting := by simp [hstage]
  have hs := step_of_isDue (c := { c with now := c.since + c.queue.debounceMs }) hstage (by simp)
    (not_isBlocked_of_stage hbusy) hdue
  exact exists_trigger_clearing (hpassed.snoc hs) (clearing_of_settling hs) (Nat.le_refl _)

/-- The wait is over soon: nothing but time has to pass. -/
theorem Awaiting.exists_trigger {accepted : Nat} {accepted? : Option Nat}
    (hwait : Awaiting c.queue.debounceMs accepted? c) (hsome : accepted? = some accepted)
    (hl : Leads settings schemaPath outDir c₀ h c) (hsince : c.since ≤ c.now) :
    ∃ (steps : List (Nat × Happening)) (c' : Clocked σ),
      Leads settings schemaPath outDir c₀ (h ++ steps ++
        [(accepted + c.queue.debounceMs, .did .clearing)]) c' ∧
          (∀ e ∈ steps, isStep e.2 = true) ∧ Untriggered steps := by
  subst hsome
  cases hwait with
  | idle hnone hstage hflag hempty => cases hnone
  | ended hnone hstage hclosed hempty => cases hnone
  | clearing hsome hstage hnow hsince =>
    cases hsome
    obtain ⟨c', hl'⟩ := exists_trigger_clearing hl hstage (Nat.le_of_eq hsince)
    rw [hnow] at hl'
    exact ⟨[], c', by rwa [List.append_nil], by simp [Untriggered]⟩
  | settling hsome hstage hstart hnow =>
    cases hsome
    subst hstart
    obtain ⟨c', hl'⟩ := exists_trigger_settling hl hstage hnow
    exact ⟨_, c', hl', by simp [Untriggered, isStep, isTrigger]⟩
  | accepting hsome hstage hready hnow =>
    cases hsome
    subst hnow
    have hdue : c.IsDue settings schemaPath outDir := by
      rw [IsDue, pause_waiting hstage]
      exact hsince
    have hs := step_of_isDue hstage (by simp) (not_isBlocked_of_ready hready) hdue
    have hdebounce := debounceMs_eq (Leads.nil.snoc hs)
    obtain ⟨c', hl'⟩ := exists_trigger_settling (hl.snoc hs) (settling_of_ready hs hready) (Nat.le_add_right _ _)
    rw [hdebounce, List.append_assoc h] at hl'
    exact ⟨_, c', hl', by simp [Untriggered, isStep, isTrigger]⟩

/-- What is sent while a batch runs stays in the channel. -/
theorem queued_leads (hs : c.Step settings schemaPath outDir (.did .clearing) called)
    (hl : Leads settings schemaPath outDir called rest c') (hno : ∀ e ∈ rest, isFinish e.2 = false) :
    c'.stage.unfinished = 1 ∧ c'.channel.queued = rest.countP (isSend ·.2) := by
  induction hl with
  | nil =>
    have hm := moved_of_did hs.1
    have hstage := hs.1.1
    obtain ⟨⟨loop, channel, files⟩, now, since⟩ := c
    obtain ⟨⟨loop', channel', files'⟩, now', since'⟩ := called
    cases hm <;> cases hstage
    exact ⟨rfl, rfl⟩
  | passed _ _ _ ih => exact ih hno
  | @snoc front c₁ c₂ e hl hstep ih =>
    rw [List.forall_mem_append] at hno
    obtain ⟨hstage, hqueued⟩ := ih hno.1
    have hother : isFinish e = false := hno.2 _ (List.mem_singleton.2 rfl)
    rw [List.countP_append, List.countP_singleton, ← hqueued]
    obtain ⟨hstep, -, -⟩ := hstep
    cases e with
    | sent =>
      obtain ⟨hopen, hconfig⟩ := hstep
      rw [stage, channel, hconfig]
      exact ⟨hstage, by simp [Channel.send, hopen, isSend]⟩
    | closed =>
      rw [stage, channel, show c₂.config = _ from hstep]
      exact ⟨hstage, rfl⟩
    | edited =>
      obtain ⟨files, hconfig⟩ := hstep
      rw [stage, channel, hconfig]
      exact ⟨hstage, rfl⟩
    | did stage =>
      have hm := moved_of_did hstep
      obtain ⟨rfl, -⟩ := hstep
      obtain ⟨⟨loop, channel, files⟩, now, since⟩ := c₁
      obtain ⟨⟨loop', channel', files'⟩, now', since'⟩ := c₂
      cases hm <;> first | exact ⟨rfl, rfl⟩ | contradiction

omit [Workspace (StateM σ)] in
theorem Awaiting.accepted {accepted : Nat} (hwait : Awaiting debounceMs (some accepted) c) :
    c.stage ≠ .ended ∧ c.now ≤ accepted + debounceMs := by
  cases hwait with
  | accepting hsome hstage hready hnow =>
    cases hsome
    exact ⟨by simp [hstage], Nat.le_add_right_of_le (Nat.le_of_eq hnow)⟩
  | settling hsome hstage hstart hnow =>
    cases hsome
    exact ⟨by simp [hstage], hnow⟩
  | clearing hsome hstage hnow hstart =>
    cases hsome
    exact ⟨by simp [hstage], Nat.le_of_eq hnow⟩
  | idle hnone _ _ _ => cases hnone
  | ended hnone _ _ _ => cases hnone

/-- While nothing has been accepted, the loop waits for an event, or ends at once if none can come. -/
theorem Awaiting.unaccepted (hwait : Awaiting debounceMs none c) (hsince : c.since ≤ c.now) :
    c.channel.queued = 0 ∧ (c.channel.isOpen = true → c.config.IsBlocked) ∧
      (c.channel.isOpen = false → c.stage ≠ .ended →
        (∀ ms, c.MayPass settings schemaPath outDir ms → ms = 0) ∧
          ∃ c', c.Step settings schemaPath outDir (.did .waiting) c' ∧ c'.stage = .ended) := by
  cases hwait with
  | idle hnone hstage hflag hempty =>
    refine ⟨hempty, fun hopen => ⟨hstage, hflag, hempty, hopen⟩, fun hclosed _ => ?_⟩
    have hfree : ¬ c.config.IsBlocked := fun ⟨_, _, _, hopen⟩ => by
      rw [hclosed] at hopen
      contradiction
    have hpause : c.config.pause settings schemaPath outDir = 0 := pause_waiting hstage
    refine ⟨fun ms hpass => ?_, ?_⟩
    · have hle := hpass.le hfree (by rw [hstage]; rfl)
      omega
    · have hdue : c.IsDue settings schemaPath outDir := by
        rw [IsDue, hpause]
        exact hsince
      have hs := step_of_isDue hstage (by simp) hfree hdue
      exact ⟨_, hs, (ended_of_idle hs hflag hempty).1⟩
  | ended hnone hstage hclosed hempty =>
    refine ⟨hempty, fun hopen => ?_, fun _ halive => absurd hstage halive⟩
    rw [hclosed] at hopen
    contradiction
  | accepting hsome hstage hready hnow => cases hsome
  | settling hsome hstage hstart hnow => cases hsome
  | clearing hsome hstage hnow hstart => cases hsome

end

/-- When triggers return, whatever happens and when. A wait for a trigger that is called as a batch
ends, by the loop that is its steps one after the other, is accepted there and then if the batch asks
for a re-scan, and else with the first event. It returns one debounce after that, and nothing but time
has to pass until then; what was sent by then is gone from the channel, and what is sent later is still
there when the next batch ends. So long as nothing is accepted the loop waits, and once the senders are
gone it ends at once. -/
theorem triggers_on_time (settings : Settings) (schemaPath outDir : String) (debounceMs : Nat) :
    (∀ (m : Type → Type) [Monad m] [LawfulMonad m] [Workspace m] [ChangeFeed m] (rounds : Nat),
      (loop settings schemaPath outDir rounds ⟨debounceMs, false⟩ : m (Option Nat)) =
        LoopState.result? <$>
          advances settings schemaPath outDir (6 * rounds) (.start ⟨debounceMs, false⟩)) ∧
    ∀ (files : σ) (h : List (Nat × Happening)) (c called : Clocked σ),
      Leads settings schemaPath outDir (.start debounceMs files) h c →
      c.Step settings schemaPath outDir (.did .finishing) called →
      ∀ (after : List (Nat × Happening)) (c' : Clocked σ),
        Leads settings schemaPath outDir called after c' →
        (∀ before time rest, after = before ++ (time, .did .clearing) :: rest → Untriggered before →
          (∃ accepted, accepted? c.rescans called.now before = some accepted ∧
            time = accepted + debounceMs) ∧
          ((∀ e ∈ rest, isFinish e.2 = false) → c'.channel.queued = rest.countP (isSend ·.2))) ∧
        (Untriggered after →
          (∀ accepted, accepted? c.rescans called.now after = some accepted →
            c'.stage ≠ .ended ∧ c'.now ≤ accepted + debounceMs ∧
            ∃ (steps : List (Nat × Happening)) (c'' : Clocked σ),
              Leads settings schemaPath outDir called
                (after ++ steps ++ [(accepted + debounceMs, .did .clearing)]) c'' ∧
              (∀ e ∈ steps, isStep e.2 = true) ∧ Untriggered steps) ∧
          (accepted? c.rescans called.now after = none →
            c'.channel.queued = 0 ∧ (c'.channel.isOpen = true → c'.config.IsBlocked) ∧
            (c'.channel.isOpen = false → c'.stage ≠ .ended →
              (∀ ms, c'.MayPass settings schemaPath outDir ms → ms = 0) ∧
              ∃ c'', c'.Step settings schemaPath outDir (.did .waiting) c'' ∧ c''.stage = .ended))) := by
  refine ⟨fun m _ _ _ _ rounds => loop_eq_advances settings schemaPath outDir rounds _, ?_⟩
  intro files h c called hbefore hs after c' hl
  have hdebounce : called.queue.debounceMs = debounceMs := debounceMs_eq (hbefore.snoc hs)
  have hstart : called.since ≤ called.now := since_le (hbefore.snoc hs) (Nat.le_refl 0)
  refine ⟨?_, fun hno => ⟨?_, ?_⟩⟩
  · rintro before time rest rfl hno
    obtain ⟨c₁, c₂, hfront, rfl, htrigger, hback⟩ := exists_of_leads hl
    refine ⟨?_, fun hrest => (queued_leads htrigger hback hrest).2⟩
    have hstage : c₁.stage = .clearing := htrigger.1.1
    have hwait := awaiting_leads hs hfront hno
    rw [hdebounce] at hwait
    cases hwait with
    | clearing hsome _ hnow _ => exact ⟨_, hsome, hnow⟩
    | idle _ hother _ _ => cases hstage.symm.trans hother
    | accepting _ hother _ _ => cases hstage.symm.trans hother
    | settling _ hother _ _ => cases hstage.symm.trans hother
    | ended _ hother _ _ => cases hstage.symm.trans hother
  · intro accepted hsome
    have hwait := awaiting_leads hs hl hno
    rw [hdebounce, hsome] at hwait
    have hsame : c'.queue.debounceMs = debounceMs := (debounceMs_eq hl).trans hdebounce
    refine ⟨hwait.accepted.1, hwait.accepted.2, ?_⟩
    rw [← hsame] at hwait ⊢
    exact hwait.exists_trigger rfl hl (since_le hl hstart)
  · intro hnone
    have hwait := awaiting_leads hs hl hno
    rw [hnone] at hwait
    exact hwait.unaccepted (since_le hl hstart)

/-- A save during a batch asks for a re-scan, and time and steps lead on to its trigger. -/
theorem exists_rescan :
    ∃ (h : List (Nat × Happening)) (c called c' : Clocked FileTree),
      Leads .default "" "" (.start 5 .empty) h c ∧ c.Step .default "" "" (.did .finishing) called ∧
        c.rescans = true ∧ called.now = 5 ∧
        Leads .default "" "" called
          ([(5, .did .waiting), (10, .did .settling)] ++ [(10, .did .clearing)]) c' := by
  have sent : Leads .default "" "" (.start 5 .empty) [(0, .sent)]
      (⟨⟨.start ⟨5, false⟩, ⟨1, true⟩, .empty⟩, 0, 0⟩ : Clocked FileTree) :=
    Leads.nil.snoc ⟨⟨rfl, rfl⟩, rfl, rfl⟩
  have accepted : Leads .default "" "" (.start 5 .empty) [(0, .sent), (0, .did .waiting)]
      (⟨⟨⟨.settling, ⟨5, false⟩, 0⟩, ⟨0, true⟩, .empty⟩, 0, 0⟩ : Clocked FileTree) :=
    sent.snoc (step_of_isDue rfl (by simp) (not_isBlocked_of_ready (.inr Nat.one_pos)) (Nat.le_refl 0))
  have waited : Leads .default "" "" (.start 5 .empty) [(0, .sent), (0, .did .waiting)]
      (⟨⟨⟨.settling, ⟨5, false⟩, 0⟩, ⟨0, true⟩, .empty⟩, 5, 0⟩ : Clocked FileTree) :=
    accepted.passed 5 (.inr (.inr (Nat.le_refl 5)))
  have settled : Leads .default "" "" (.start 5 .empty)
      [(0, .sent), (0, .did .waiting), (5, .did .settling)]
      (⟨⟨⟨.clearing, ⟨5, false⟩, 0⟩, ⟨0, true⟩, .empty⟩, 5, 5⟩ : Clocked FileTree) :=
    waited.snoc (step_of_isDue rfl (by simp) (not_isBlocked_of_stage (by simp)) (Nat.le_refl 5))
  have cleared : Leads .default "" "" (.start 5 .empty)
      [(0, .sent), (0, .did .waiting), (5, .did .settling), (5, .did .clearing)]
      (⟨⟨⟨.reading, ⟨5, false⟩, 0⟩, ⟨0, true⟩, .empty⟩, 5, 5⟩ : Clocked FileTree) :=
    settled.snoc (step_of_isDue rfl (by simp) (not_isBlocked_of_stage (by simp)) (Nat.le_refl 5))
  have read : Leads .default "" "" (.start 5 .empty)
      [(0, .sent), (0, .did .waiting), (5, .did .settling), (5, .did .clearing), (5, .did .reading)]
      (⟨⟨⟨.generating (.error (.schemaRead "" .notFound)), ⟨5, false⟩, 0⟩, ⟨0, true⟩, .empty⟩, 5, 5⟩ :
        Clocked FileTree) :=
    cleared.snoc (step_of_isDue rfl (by simp) (not_isBlocked_of_stage (by simp)) (Nat.le_refl 5))
  have saved : Leads .default "" "" (.start 5 .empty)
      [(0, .sent), (0, .did .waiting), (5, .did .settling), (5, .did .clearing), (5, .did .reading), (5, .sent)]
      (⟨⟨⟨.generating (.error (.schemaRead "" .notFound)), ⟨5, false⟩, 0⟩, ⟨1, true⟩, .empty⟩, 5, 5⟩ :
        Clocked FileTree) :=
    read.snoc ⟨⟨rfl, rfl⟩, rfl, rfl⟩
  have generated : Leads .default "" "" (.start 5 .empty)
      [(0, .sent), (0, .did .waiting), (5, .did .settling), (5, .did .clearing), (5, .did .reading), (5, .sent),
        (5, .did (.generating (.error (.schemaRead "" .notFound))))]
      (⟨⟨⟨.finishing, ⟨5, false⟩, 1⟩, ⟨1, true⟩, .empty⟩, 5, 5⟩ : Clocked FileTree) :=
    saved.snoc (step_of_isDue rfl (by simp) (not_isBlocked_of_stage (by simp)) (Nat.le_refl 5))
  let called : Clocked FileTree := ⟨⟨⟨.waiting, ⟨5, true⟩, 1⟩, ⟨0, true⟩, .empty⟩, 5, 5⟩
  have again : Leads .default "" "" called [(5, .did .waiting)]
      (⟨⟨⟨.settling, ⟨5, false⟩, 1⟩, ⟨0, true⟩, .empty⟩, 5, 5⟩ : Clocked FileTree) :=
    Leads.nil.snoc (step_of_isDue rfl (by simp) (not_isBlocked_of_ready (.inl rfl)) (Nat.le_refl 5))
  have later : Leads .default "" "" called [(5, .did .waiting)]
      (⟨⟨⟨.settling, ⟨5, false⟩, 1⟩, ⟨0, true⟩, .empty⟩, 10, 5⟩ : Clocked FileTree) :=
    again.passed 5 (.inr (.inr (Nat.le_refl 10)))
  have quiet : Leads .default "" "" called [(5, .did .waiting), (10, .did .settling)]
      (⟨⟨⟨.clearing, ⟨5, false⟩, 1⟩, ⟨0, true⟩, .empty⟩, 10, 10⟩ : Clocked FileTree) :=
    later.snoc (step_of_isDue rfl (by simp) (not_isBlocked_of_stage (by simp)) (Nat.le_refl 10))
  have triggered : Leads .default "" "" called
      ([(5, .did .waiting), (10, .did .settling)] ++ [(10, .did .clearing)])
      (⟨⟨⟨.reading, ⟨5, false⟩, 1⟩, ⟨0, true⟩, .empty⟩, 10, 10⟩ : Clocked FileTree) :=
    quiet.snoc (step_of_isDue rfl (by simp) (not_isBlocked_of_stage (by simp)) (Nat.le_refl 10))
  have finished : Clocked.Step .default "" ""
      (⟨⟨⟨.finishing, ⟨5, false⟩, 1⟩, ⟨1, true⟩, .empty⟩, 5, 5⟩ : Clocked FileTree) (.did .finishing) called :=
    step_of_isDue rfl (by simp) (not_isBlocked_of_stage (by simp)) (Nat.le_refl 5)
  exact ⟨_, _, called, _, generated, finished, rfl, rfl, triggered⟩

theorem triggers_on_time_rescan :
    ∃ (h before : List (Nat × Happening)) (time : Nat) (c called c' : Clocked FileTree),
      Leads .default "" "" (.start 5 .empty) h c ∧ c.Step .default "" "" (.did .finishing) called ∧
        c.rescans = true ∧ Leads .default "" "" called (before ++ [(time, .did .clearing)]) c' ∧
        Untriggered before ∧ time = called.now + 5 := by
  obtain ⟨h, c, called, c', hl, hs, hrescans, hnow, hl'⟩ := exists_rescan
  have hno : Untriggered [(5, .did .waiting), (10, .did .settling)] := by
    simp [Untriggered, isTrigger]
  obtain ⟨⟨accepted, haccepted, htime⟩, -⟩ :=
    ((triggers_on_time .default "" "" 5).2 _ h c called hl hs _ c' hl').1 _ _ _ rfl hno
  have hcalled : called.now = accepted := by
    rw [hrescans] at haccepted
    exact Option.some_inj.1 haccepted
  exact ⟨h, _, _, c, called, c', hl, hs, hrescans, hl', hno, by rw [hcalled, htime]⟩

/-- So the trigger of a pending re-scan does not return at the instant at which it is waited for. -/
theorem rescan_not_at_once :
    ¬ ∀ (debounceMs : Nat) (h before : List (Nat × Happening)) (time : Nat) (c called c' : Clocked FileTree),
      Leads .default "" "" (.start debounceMs .empty) h c →
      c.Step .default "" "" (.did .finishing) called → c.rescans = true →
      Leads .default "" "" called (before ++ [(time, .did .clearing)]) c' → Untriggered before →
      time = called.now := by
  intro hall
  obtain ⟨h, c, called, c', hl, hs, hrescans, hnow, hl'⟩ := exists_rescan
  have hlate := hall 5 h _ _ c called c' hl hs hrescans hl' (by simp [Untriggered, isTrigger])
  rw [hnow] at hlate
  contradiction

end Scaffold.Watch.Clocked

namespace Scaffold.ChangeQueue

/-- On a timeline, too, a pending re-scan waits one debounce, whatever is sent before or meanwhile. -/
theorem triggerWithin_rescan {q : ChangeQueue} (hset : q.rescanRequested = true) {limit : Nat}
    (hlimit : q.debounceMs ≤ limit) (channel : Channel) (arrivals : List Nat) :
    (q.triggerWithin channel arrivals limit).result = .fired ∧
      (q.triggerWithin channel arrivals limit).waitedMs = q.debounceMs := by
  obtain ⟨debounceMs, rescan⟩ := q
  obtain rfl : rescan = true := hset
  cases debounceMs with
  | zero => exact ⟨rfl, rfl⟩
  | succ ms =>
    let settled : Timeline := Timeline.advance { channel, arrivals, limit } (0 + (ms + 1))
    have hpause : (ChangeFeed.pause (ms + 1) : ExceptT Blocked (StateM Timeline) Unit).run.run
        { channel, arrivals, limit } = (.ok (), settled) := by
      change (if 0 + (ms + 1) ≤ limit then _ else _ : ExceptT Blocked (StateM Timeline) Unit) _ = _
      rw [if_pos (by rwa [Nat.zero_add])]
      rfl
    have hrun : ((⟨ms + 1, true⟩ : ChangeQueue).nextTrigger :
        ExceptT Blocked (StateM Timeline) (Bool × ChangeQueue)).run.run { channel, arrivals, limit } =
        (.ok (true, ⟨ms + 1, false⟩), { settled with channel := settled.channel.clear }) := by
      change (ChangeFeed.pause (ms + 1) >>= _ : ExceptT Blocked (StateM Timeline) _).run.run _ = _
      rw [run_run_bind, hpause]
      rfl
    dsimp only [triggerWithin]
    rw [hrun]
    exact ⟨rfl, Nat.zero_add _⟩

end Scaffold.ChangeQueue
