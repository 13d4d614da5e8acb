import Mathlib.Data.List.DropRight
import Scaffold.Proofs.Watch.NoLoss

/-! Events coalesce. The events that arrive between two triggers are paid for by one batch, the later
of the two, and no event is paid for twice: a tally of what has happened goes with every history. -/

namespace Scaffold.Watch

/-! ## Counting -/

namespace Happening

def isSend : Happening → Bool
  | .sent => true
  | _ => false

/-- The step that takes the events which came while things settled ends the wait for a trigger. -/
def isTrigger : Happening → Bool
  | .did .clearing => true
  | _ => false

/-- The step that runs a batch, or that reports that there is none because the schema could not be
read. -/
def isBatch : Happening → Bool
  | .did (.generating _) => true
  | _ => false

def isFinish : Happening → Bool
  | .did .finishing => true
  | _ => false

def isStep : Happening → Bool
  | .did _ => true
  | _ => false

end Happening

open Happening

/-- What has happened since the last trigger. -/
def sinceTrigger (h : List Happening) : List Happening := h.rtakeWhile (!isTrigger ·)

theorem sinceTrigger_snoc (h : List Happening) (e : Happening) :
    sinceTrigger (h ++ [e]) = if isTrigger e then [] else sinceTrigger h ++ [e] := by
  unfold sinceTrigger
  rw [List.rtakeWhile_concat]
  cases isTrigger e <;> rfl

theorem countP_snoc (p : Happening → Bool) (h : List Happening) (e : Happening) :
    (h ++ [e]).countP p = h.countP p + if p e then 1 else 0 := by
  rw [List.countP_append, List.countP_singleton]

theorem sinceTrigger_eq_self {h : List Happening} (hno : h.countP isTrigger = 0) :
    sinceTrigger h = h := by
  refine List.rtakeWhile_eq_self_iff.2 fun e he => ?_
  have hother := List.countP_eq_zero.1 hno e he
  simpa using hother

theorem sinceTrigger_append (before during : List Happening) :
    sinceTrigger (before ++ .did .clearing :: during) = sinceTrigger during := by
  induction during using List.reverseRecOn with
  | nil => rw [sinceTrigger_snoc]; rfl
  | append_singleton during e ih =>
    rw [← List.cons_append, ← List.append_assoc, sinceTrigger_snoc, sinceTrigger_snoc, ih]

theorem mem_of_mem_sinceTrigger {h : List Happening} {e : Happening} (he : e ∈ sinceTrigger h) :
    e ∈ h := (List.rtakeWhile_suffix (!isTrigger ·) h).subset he

/-- The trigger with this number, counted from zero. -/
theorem exists_trigger {h : List Happening} {k : Nat} (hk : k < h.countP isTrigger) :
    ∃ before after, h = before ++ .did .clearing :: after ∧ before.countP isTrigger = k := by
  induction h generalizing k with
  | nil => simp at hk
  | cons e h ih =>
    by_cases he : isTrigger e = true
    · obtain rfl : e = .did .clearing := by
        unfold isTrigger at he
        split at he
        · rfl
        · contradiction
      cases k with
      | zero => exact ⟨[], h, rfl, rfl⟩
      | succ k =>
        rw [List.countP_cons_of_pos he] at hk
        obtain ⟨before, after, rfl, hcount⟩ := ih (Nat.lt_of_succ_lt_succ hk)
        exact ⟨.did .clearing :: before, after, rfl, by rw [List.countP_cons_of_pos he, hcount]⟩
    · rw [List.countP_cons_of_neg he] at hk
      obtain ⟨before, after, rfl, hcount⟩ := ih hk
      exact ⟨e :: before, after, rfl, by rw [List.countP_cons_of_neg he, hcount]⟩

/-! ## The tally -/

/-- Steps of the round that are yet to come before it can be counted, and steps beyond the rounds
that are counted: a trigger is half-way through the six steps of its round. -/
def Stage.ahead : Stage → Nat
  | .reading => 3
  | .generating _ => 2
  | .finishing => 1
  | _ => 0

def Stage.behind : Stage → Nat
  | .settling | .ended => 1
  | .clearing => 2
  | _ => 0

/-- A trigger has returned and its batch has not run. -/
def Stage.unrun : Stage → Nat
  | .reading | .generating _ => 1
  | _ => 0

/-- A trigger has returned and its batch has not been finished. -/
def Stage.unfinished : Stage → Nat
  | .reading | .generating _ | .finishing => 1
  | _ => 0

/-- The counts of a history and the state of its loop, whoever sent what and when. -/
structure Tally (h : List Happening) (s : LoopState) : Prop where
  steps : h.countP isStep + s.stage.ahead = 6 * h.countP isTrigger + s.stage.behind
  run : h.countP isBatch + s.stage.unrun = h.countP isTrigger
  finished : h.countP isFinish + s.stage.unfinished = h.countP isTrigger
  batches : s.batches = h.countP isBatch

theorem tally_moved {h : List Happening} {stage : Stage} {s s' : LoopState} {c c' : Channel}
    (hm : Moved s c s' c') (hs : s.stage = stage) (tally : Tally h s) :
    Tally (h ++ [.did stage]) s' := by
  subst hs
  obtain ⟨hsteps, hrun, hfinished, hbatches⟩ := tally
  have hcounts := fun p => countP_snoc p h (.did s.stage)
  -- each step moves the counts and the figures of the stage alike
  cases hm <;> constructor <;> simp only [hcounts, isStep, isTrigger, isBatch, isFinish, Stage.ahead,
    Stage.behind, Stage.unrun, Stage.unfinished, if_true, Bool.false_eq_true, if_false] at * <;> omega

/-! ## What is owed -/

/-- A batch is owed: to an event in the channel, a pending re-scan, or an accepted trigger. -/
def Pending (s : LoopState) (c : Channel) : Prop :=
  0 < c.queued ∨ s.queue.rescanRequested = true ∨ s.stage = .settling ∨ s.stage = .clearing

/-- A batch is owed exactly if an event was sent since the last trigger, and that event has not been
counted against a trigger yet. -/
structure Owed (h : List Happening) (s : LoopState) (c : Channel) : Prop where
  pending : .sent ∈ sinceTrigger h ↔ Pending s c
  paid : h.countP isTrigger ≤ h.countP isSend
  unspent : Pending s c → h.countP isTrigger < h.countP isSend

/-- Only a trigger settles what is owed. Every other step hands it on. -/
theorem pending_moved {s s' : LoopState} {c c' : Channel} (hm : Moved s c s' c')
    (hflag : s.stage ≠ .waiting → s.queue.rescanRequested = false) (hstage : s.stage ≠ .clearing) :
    Pending s' c' ↔ Pending s c := by
  unfold Pending
  cases hm with
  | rescan hr => simp [hr]
  | received hr hq => simp [hq]
  | ended hr hq hc => simp [hr, hq]
  | settled q n c => simp
  | cleared q n c => exact absurd rfl hstage
  | read q n c text => simp
  | generated q n c text => simp
  | finished q n c =>
    have hdown : q.rescanRequested = false := hflag nofun
    simp [hdown, Channel.clear]

theorem not_pending_reading {q : ChangeQueue} {n : Nat} {c : Channel}
    (hflag : q.rescanRequested = false) : ¬ Pending ⟨.reading, q, n⟩ c.clear := by
  simp [Pending, hflag, Channel.clear]

theorem Owed.handed_on {h : List Happening} {e : Happening} {s s' : LoopState} {c c' : Channel}
    (owed : Owed h s c) (hsend : isSend e = false) (htrigger : isTrigger e = false)
    (hsame : Pending s' c' ↔ Pending s c) : Owed (h ++ [e]) s' c' := by
  have hsends : (h ++ [e]).countP isSend = h.countP isSend := by simp [hsend]
  have htriggers : (h ++ [e]).countP isTrigger = h.countP isTrigger := by
    simp [htrigger]
  have hother : .sent ≠ e := by
    rintro rfl
    contradiction
  refine ⟨?_, ?_, fun hpending => ?_⟩
  · rw [sinceTrigger_snoc, htrigger, hsame, ← owed.pending]
    simp [hother]
  · rw [hsends, htriggers]
    exact owed.paid
  · rw [hsends, htriggers]
    exact owed.unspent (hsame.1 hpending)

theorem owed_moved {h : List Happening} {stage : Stage} {s s' : LoopState} {c c' : Channel}
    (hm : Moved s c s' c') (hs : s.stage = stage)
    (hflag : s.stage ≠ .waiting → s.queue.rescanRequested = false) (owed : Owed h s c) :
    Owed (h ++ [.did stage]) s' c' := by
  subst hs
  by_cases hstage : s.stage = .clearing
  · have hsettled : ¬ Pending s' c' := by
      cases hm <;> cases hstage
      exact not_pending_reading (hflag nofun)
    have hpaid := owed.unspent (.inr (.inr (.inr hstage)))
    rw [hstage]
    refine ⟨?_, ?_, fun hpending => absurd hpending hsettled⟩
    · rw [sinceTrigger_snoc]
      simp [isTrigger, hsettled]
    · simp only [countP_snoc, isSend, isTrigger, if_true, Bool.false_eq_true, if_false]
      omega
  · have hother : isTrigger (.did s.stage) = false := by
      cases hcase : s.stage <;> first | rfl | exact absurd hcase hstage
    exact owed.handed_on rfl hother (pending_moved hm hflag hstage)

/-! ## Histories -/

variable {σ : Type} [Workspace (StateM σ)]

section
variable {settings : Settings} {schemaPath outDir : String} {debounceMs : Nat}
  {h before between after : List Happening} {c c' : Config σ} {e : Happening}

theorem tally_step (hs : Step settings schemaPath outDir c e c') (tally : Tally h c.loop) :
    Tally (h ++ [e]) c'.loop := by
  obtain ⟨hsteps, hrun, hfinished, hbatches⟩ := tally
  have hsame (hother : isStep e = false) (hloop : c'.loop = c.loop) : Tally (h ++ [e]) c'.loop := by
    cases e with
    | did stage => contradiction
    | _ => constructor <;> simpa [countP_snoc, isStep, isTrigger, isBatch, isFinish, hloop]
  cases e with
  | sent => exact hsame rfl (by rw [hs.2])
  | closed => exact hsame rfl (by rw [hs])
  | edited =>
    obtain ⟨files, rfl⟩ := hs
    exact hsame rfl rfl
  | did stage => exact tally_moved (moved_of_did hs) hs.1 ⟨hsteps, hrun, hfinished, hbatches⟩

theorem tally_run (run : Run settings schemaPath outDir debounceMs h c) : Tally h c.loop := by
  induction run with
  | nil files => exact ⟨rfl, rfl, rfl, rfl⟩
  | snoc _ hs ih => exact tally_step hs ih

theorem owed_step (hs : Step settings schemaPath outDir c e c')
    (hflag : c.loop.stage ≠ .waiting → c.loop.queue.rescanRequested = false)
    (owed : Owed h c.loop c.channel) : Owed (h ++ [e]) c'.loop c'.channel := by
  cases e with
  | sent =>
    obtain ⟨hopen, rfl⟩ := hs
    have hpending : Pending c.loop (c.channel.send 1) := .inl (by simp [Channel.send, hopen])
    have hpaid := owed.paid
    refine ⟨?_, ?_, fun _ => ?_⟩
    · rw [sinceTrigger_snoc]
      simp [isTrigger, hpending]
    · simp only [countP_snoc, isTrigger, isSend, if_true, Bool.false_eq_true, if_false]
      omega
    · simp only [countP_snoc, isTrigger, isSend, if_true, Bool.false_eq_true, if_false]
      omega
  | closed =>
    obtain rfl := hs
    exact owed.handed_on rfl rfl Iff.rfl
  | edited =>
    obtain ⟨files, rfl⟩ := hs
    exact owed.handed_on rfl rfl Iff.rfl
  | did stage => exact owed_moved (moved_of_did hs) hs.1 hflag owed

theorem owed_run (run : Run settings schemaPath outDir debounceMs h c) :
    Owed h c.loop c.channel := by
  induction run with
  | nil files =>
    refine ⟨?_, Nat.le_refl 0, fun hpending => ?_⟩
    · simp [sinceTrigger, Pending, LoopState.start]
    · simp [Pending, LoopState.start] at hpending
  | snoc run hs ih => exact owed_step hs (nothingLost_run run).unflagged ih

theorem exists_step_of_run (run : Run settings schemaPath outDir debounceMs (h ++ [e]) c') :
    ∃ c, Run settings schemaPath outDir debounceMs h c ∧ Step settings schemaPath outDir c e c' := by
  generalize hlist : h ++ [e] = whole at run
  cases run with
  | nil files => simp at hlist
  | snoc run hs =>
    obtain ⟨rfl, hlast⟩ := List.append_inj' hlist rfl
    obtain rfl : e = _ := by simpa using hlast
    exact ⟨_, run, hs⟩

theorem exists_run_of_append (run : Run settings schemaPath outDir debounceMs (h ++ after) c') :
    ∃ c : Config σ, Run settings schemaPath outDir debounceMs h c := by
  induction after using List.reverseRecOn generalizing c' with
  | nil => exact ⟨c', by rwa [List.append_nil] at run⟩
  | append_singleton after e ih =>
    rw [← List.append_assoc] at run
    obtain ⟨c, run, -⟩ := exists_step_of_run run
    exact ih run

/-- Between two triggers an event was sent. -/
theorem sent_between
    (run : Run settings schemaPath outDir debounceMs
      (before ++ .did .clearing :: (between ++ .did .clearing :: after)) c) : .sent ∈ between := by
  have hlist : before ++ .did .clearing :: (between ++ .did .clearing :: after) =
      (before ++ .did .clearing :: between) ++ [.did .clearing] ++ after := by simp
  rw [hlist] at run
  obtain ⟨c', run⟩ := exists_run_of_append run
  obtain ⟨c, run, hstage, -⟩ := exists_step_of_run run
  have hsent := (owed_run run).pending.2 (.inr (.inr (.inr hstage)))
  rw [sinceTrigger_append] at hsent
  exact mem_of_mem_sinceTrigger hsent

/-- When the loop has ended, nothing was sent after the last trigger. -/
theorem not_sent_of_ended (run : Run settings schemaPath outDir debounceMs h c)
    (hend : c.loop.stage = .ended) : .sent ∉ sinceTrigger h := by
  have inv := nothingLost_run run
  rw [(owed_run run).pending]
  simp [Pending, hend, inv.unflagged, (inv.ended hend).1]

/-! ## The end -/

theorem isOpen_moved {s s' : LoopState} {channel channel' : Channel}
    (hm : Moved s channel s' channel') : channel'.isOpen = channel.isOpen := by
  cases hm <;> rfl

/-- A loop whose senders are gone can take its next step. -/
theorem step_of_closed (hclosed : c.channel.isOpen = false) (hend : c.loop.stage ≠ .ended) :
    Step settings schemaPath outDir c (.did c.loop.stage) (c.advanced settings schemaPath outDir) := by
  refine ⟨rfl, hend, fun hblocked => ?_, rfl⟩
  rw [hblocked.2.2.2] at hclosed
  contradiction

theorem steps_le (run : Run settings schemaPath outDir debounceMs h c) :
    h.countP isStep ≤ 6 * h.countP isSend + 1 := by
  have hsteps := (tally_run run).steps
  have owed := owed_run run
  have hpaid := owed.paid
  cases hstage : c.loop.stage <;> simp only [hstage, Stage.ahead, Stage.behind] at hsteps
  case settling =>
    have := owed.unspent (.inr (.inr (.inl hstage)))
    omega
  case clearing =>
    have := owed.unspent (.inr (.inr (.inr hstage)))
    omega
  all_goals omega

/-- Once the senders are gone the loop comes to its end by itself, for it is not blocked and has only
so many steps left. -/
theorem exists_end (run : Run settings schemaPath outDir debounceMs h c)
    (hclosed : c.channel.isOpen = false) :
    ∃ (steps : List Happening) (c' : Config σ),
      Run settings schemaPath outDir debounceMs (h ++ steps) c' ∧
      (∀ e ∈ steps, isStep e = true) ∧ c'.loop.stage = .ended := by
  obtain ⟨left, hleft⟩ : ∃ left, 6 * h.countP isSend + 1 = h.countP isStep + left :=
    Nat.exists_eq_add_of_le (steps_le run)
  induction left generalizing h c with
  | zero =>
    refine ⟨[], c, by rwa [List.append_nil], by simp, ?_⟩
    by_contra hend
    have hbound := steps_le (run.snoc (step_of_closed hclosed hend))
    simp only [countP_snoc, isStep, isSend, if_true, Bool.false_eq_true, if_false] at hbound
    omega
  | succ left ih =>
    by_cases hend : c.loop.stage = .ended
    · exact ⟨[], c, by rwa [List.append_nil], by simp, hend⟩
    · have hstep : Step settings schemaPath outDir c (.did c.loop.stage)
          (c.advanced settings schemaPath outDir) := step_of_closed hclosed hend
      have hstill := (isOpen_moved (moved_of_did hstep)).trans hclosed
      obtain ⟨steps, c', hrun, hall, hended⟩ := ih (run.snoc hstep) hstill (by
        simp only [countP_snoc, isStep, isSend, if_true, Bool.false_eq_true, if_false]
        omega)
      refine ⟨.did c.loop.stage :: steps, c', ?_, List.forall_mem_cons.2 ⟨rfl, hall⟩, hended⟩
      rwa [List.append_assoc] at hrun

section
variable (run : Run settings schemaPath outDir debounceMs h c) (hend : c.loop.stage = .ended)
include run hend

theorem batches_of_ended :
    c.loop.batches = h.countP isTrigger ∧ h.countP isBatch = h.countP isTrigger := by
  have tally := tally_run run
  have hrun : h.countP isBatch = h.countP isTrigger := by
    have hrun := tally.run
    rwa [hend] at hrun
  exact ⟨tally.batches.trans hrun, hrun⟩

theorem batches_eq_zero_iff : c.loop.batches = 0 ↔ h.countP isSend = 0 := by
  have hpaid := (owed_run run).paid
  rw [(batches_of_ended run hend).1]
  constructor
  · intro hzero
    have hsent := not_sent_of_ended run hend
    rw [sinceTrigger_eq_self hzero] at hsent
    refine List.countP_eq_zero.2 fun e he hsend => ?_
    unfold isSend at hsend
    split at hsend
    · exact hsent he
    · contradiction
  · intro hzero
    omega

/-- If an event was sent behind a trigger, another trigger followed. -/
theorem trigger_of_sent (hsplit : h = before ++ .did .clearing :: after) (hsent : .sent ∈ after) :
    0 < after.countP isTrigger := by
  by_contra hno
  have hzero : after.countP isTrigger = 0 := Nat.eq_zero_of_not_pos hno
  have hlast := not_sent_of_ended run hend
  rw [hsplit, sinceTrigger_append, sinceTrigger_eq_self hzero] at hlast
  exact hlast hsent

theorem lt_batches_iff {k : Nat} :
    k + 1 < c.loop.batches ↔
      ∃ before after : List Happening, h = before ++ .did .clearing :: after ∧
        before.countP isTrigger = k ∧ .sent ∈ after := by
  rw [(batches_of_ended run hend).1]
  constructor
  · intro hlt
    obtain ⟨before, after, rfl, hcount⟩ := exists_trigger (Nat.lt_of_succ_lt hlt)
    rw [List.countP_append, List.countP_cons_of_pos rfl, hcount] at hlt
    obtain ⟨between, rest, rfl, -⟩ := exists_trigger (h := after) (k := 0) (by omega)
    exact ⟨before, _, rfl, hcount, List.mem_append_left _ (sent_between run)⟩
  · rintro ⟨before, after, rfl, hcount, hsent⟩
    have hnext := trigger_of_sent run hend rfl hsent
    rw [List.countP_append, List.countP_cons_of_pos rfl]
    omega

end

/-- While a batch is not finished no trigger returns. -/
theorem no_trigger_during (run : Run settings schemaPath outDir debounceMs
      (before ++ .did .clearing :: between) c) (hfinish : between.countP isFinish = 0) :
    between.countP isTrigger = 0 := by
  have hlist : before ++ .did .clearing :: between = before ++ [.did .clearing] ++ between := by simp
  have hafter := (tally_run run).finished
  rw [hlist] at run
  obtain ⟨c', run'⟩ := exists_run_of_append run
  obtain ⟨c₀, run₀, hstage, -⟩ := exists_step_of_run run'
  have hbefore := (tally_run run₀).finished
  rw [hstage] at hbefore
  simp only [List.countP_append, List.countP_cons, isTrigger, isFinish, hfinish, if_true,
    Bool.false_eq_true, if_false] at hafter
  have hone : c.loop.stage.unfinished ≤ 1 := by
    cases c.loop.stage <;> simp [Stage.unfinished]
  simp only [Stage.unfinished] at hbefore
  omega

/-- Whatever arrives while one batch runs costs one more, if nothing arrives later. -/
theorem batches_after_last_sent
    (run : Run settings schemaPath outDir debounceMs
      (before ++ .did .clearing :: (between ++ .did .finishing :: after)) c)
    (hend : c.loop.stage = .ended) (hfinish : .did .finishing ∉ between) (hsent : .sent ∈ between)
    (hlater : .sent ∉ after) : c.loop.batches = before.countP isTrigger + 2 := by
  have hunfinished : between.countP isFinish = 0 := by
    refine List.countP_eq_zero.2 fun e he hfin => ?_
    unfold isFinish at hfin
    split at hfin
    · exact hfinish he
    · contradiction
  have hduring : between.countP isTrigger = 0 := by
    rw [← List.cons_append, ← List.append_assoc] at run
    obtain ⟨c', run'⟩ := exists_run_of_append run
    exact no_trigger_during run' hunfinished
  have hnext := trigger_of_sent run hend rfl (List.mem_append_left _ hsent)
  rw [List.countP_append, hduring, List.countP_cons_of_neg (by simp [isTrigger])] at hnext
  obtain ⟨settled, rest, rfl, hsettled⟩ := exists_trigger (h := after) (k := 0) (by omega)
  have hlast : rest.countP isTrigger = 0 := by
    by_contra hmore
    obtain ⟨quiet, more, rfl, -⟩ := exists_trigger (Nat.pos_of_ne_zero hmore)
    have hlist : before ++ .did .clearing :: (between ++ .did .finishing ::
        (settled ++ .did .clearing :: (quiet ++ .did .clearing :: more))) =
        (before ++ .did .clearing :: (between ++ .did .finishing :: settled)) ++
          .did .clearing :: (quiet ++ .did .clearing :: more) := by simp
    rw [hlist] at run
    exact hlater (by simp [sent_between run])
  rw [(batches_of_ended run hend).1]
  simp only [List.countP_append, List.countP_cons, hduring, hsettled, hlast, isTrigger, if_true,
    Bool.false_eq_true, if_false]

theorem batches_of_generating {read : Except GenerateError String}
    (hs : Step settings schemaPath outDir c (.did (.generating read)) c') :
    c'.loop.batches = c.loop.batches + 1 ∧ c'.loop.stage = .finishing := by
  have hm := moved_of_did hs
  obtain ⟨hstage, -⟩ := hs
  obtain ⟨⟨stage, q, n⟩, channel, files⟩ := c
  obtain ⟨loop', channel', files'⟩ := c'
  cases hm <;> cases hstage
  exact ⟨rfl, rfl⟩

theorem ended_of_result? {s : LoopState} {batches : Nat} (h : s.result? = some batches) :
    s.stage = .ended ∧ s.batches = batches := by
  unfold LoopState.result? at h
  split at h
  · exact ⟨by assumption, Option.some_inj.1 h⟩
  · contradiction

end

/-- Events coalesce exactly, in whatever order things happen. The loop, which is its steps one after
the other, takes no more than six steps for an event and one to end, and once the senders are gone it
does end. Any two triggers have an event between them; a batch counts also if the schema could not be
read, and the loop goes on behind it. Of the batches of a loop that has ended there are none if and
only if there was no event, and never more than events; after the first, each ran if and only if an
event was sent behind the trigger before it; and what was sent during one batch, with nothing
later, made one more. -/
theorem batches_coalesce (settings : Settings) (schemaPath outDir : String) (debounceMs : Nat) :
    (∀ (m : Type → Type) [Monad m] [LawfulMonad m] [Workspace m] [ChangeFeed m] (rounds : Nat),
      (loop settings schemaPath outDir rounds ⟨debounceMs, false⟩ : m (Option Nat)) =
        LoopState.result? <$>
          advances settings schemaPath outDir (6 * rounds) (.start ⟨debounceMs, false⟩)) ∧
    ∀ (h : List Happening) (c : Config σ), Run settings schemaPath outDir debounceMs h c →
      h.countP isStep ≤ 6 * h.countP isSend + 1 ∧
      (c.channel.isOpen = false → ∃ (steps : List Happening) (c' : Config σ),
        Run settings schemaPath outDir debounceMs (h ++ steps) c' ∧
          (∀ e ∈ steps, isStep e = true) ∧ c'.loop.stage = .ended) ∧
      (∀ before between after : List Happening,
        h = before ++ .did .clearing :: (between ++ .did .clearing :: after) → .sent ∈ between) ∧
      (∀ read c', Step settings schemaPath outDir c (.did (.generating read)) c' →
        c'.loop.batches = c.loop.batches + 1 ∧ c'.loop.stage = .finishing) ∧
      ∀ batches, c.loop.result? = some batches →
        batches = h.countP isBatch ∧ (batches = 0 ↔ h.countP isSend = 0) ∧
        batches ≤ h.countP isSend ∧
        (∀ k, 2 ≤ k → (k ≤ batches ↔ ∃ before after : List Happening, h = before ++ .did .clearing :: after ∧
          before.countP isTrigger + 2 = k ∧ .sent ∈ after)) ∧
        ∀ before during after : List Happening,
          h = before ++ .did .clearing :: (during ++ .did .finishing :: after) →
            .did .finishing ∉ during → .sent ∈ during → .sent ∉ after →
              batches = before.countP isTrigger + 2 := by
  refine ⟨fun m _ _ _ _ rounds => loop_eq_advances settings schemaPath outDir rounds _, ?_⟩
  intro h c run
  refine ⟨steps_le run, exists_end run, ?_, fun read c' => batches_of_generating, ?_⟩
  · rintro before between after rfl
    exact sent_between run
  · intro batches hresult
    obtain ⟨hend, rfl⟩ := ended_of_result? hresult
    obtain ⟨hbatches, hran⟩ := batches_of_ended run hend
    refine ⟨hbatches.trans hran.symm, batches_eq_zero_iff run hend, ?_, ?_, ?_⟩
    · exact hbatches.trans_le (owed_run run).paid
    · intro k hk
      obtain ⟨j, rfl⟩ := Nat.exists_eq_add_of_le' hk
      refine (lt_batches_iff run hend (k := j)).trans ?_
      simp only [Nat.add_right_cancel_iff]
    · rintro before during after rfl hfinish hsent hlater
      exact batches_after_last_sent run hend hfinish hsent hlater

/-- A round without a schema file, up to its batch. -/
theorem run_unreadable {h : List Happening} {channel : Channel} {n : Nat}
    (run : Run .default "" "" 0 h (⟨⟨.settling, ⟨0, false⟩, n⟩, channel, .empty⟩ : Config FileTree)) :
    Run .default "" "" 0 (h ++ [did .settling] ++ [did .clearing] ++ [did .reading])
      (⟨⟨.generating (.error (.schemaRead "" .notFound)), ⟨0, false⟩, n⟩, channel.clear, .empty⟩ :
        Config FileTree) := by
  have settled : Run .default "" "" 0 (h ++ [did .settling])
      (⟨⟨.clearing, ⟨0, false⟩, n⟩, channel, .empty⟩ : Config FileTree) :=
    run.snoc ⟨rfl, nofun, nofun, rfl⟩
  have cleared : Run .default "" "" 0 (h ++ [did .settling] ++ [did .clearing])
      (⟨⟨.reading, ⟨0, false⟩, n⟩, channel.clear, .empty⟩ : Config FileTree) :=
    settled.snoc ⟨rfl, nofun, nofun, rfl⟩
  exact cleared.snoc ⟨rfl, nofun, nofun, rfl⟩

theorem run_finish {h : List Happening} {channel : Channel} {n : Nat}
    (run : Run .default "" "" 0 h (⟨⟨.generating (.error (.schemaRead "" .notFound)), ⟨0, false⟩, n⟩,
      channel, .empty⟩ : Config FileTree)) :
    Run .default "" "" 0
      (h ++ [did (.generating (.error (.schemaRead "" .notFound)))] ++ [did .finishing])
      (⟨⟨.waiting, ⟨0, 0 < channel.queued⟩, n + 1⟩, channel.clear, .empty⟩ : Config FileTree) := by
  have generated : Run .default "" "" 0
      (h ++ [did (.generating (.error (.schemaRead "" .notFound)))])
      (⟨⟨.finishing, ⟨0, false⟩, n + 1⟩, channel, .empty⟩ : Config FileTree) :=
    run.snoc ⟨rfl, nofun, nofun, rfl⟩
  exact generated.snoc ⟨rfl, nofun, nofun, rfl⟩

/-- Two saves during a batch for which the schema cannot be read make one more batch. -/
theorem batches_coalesce_mid_batch :
    ∃ (h : List Happening) (c : Config FileTree),
      Run .default "" "" 0 h c ∧ h.countP isSend = 3 ∧ c.loop.result? = some 2 := by
  let unread : Happening := did (.generating (.error (.schemaRead "" .notFound)))
  have started : Run .default "" "" 0 [sent, did .waiting]
      (⟨⟨.settling, ⟨0, false⟩, 0⟩, ⟨0, true⟩, .empty⟩ : Config FileTree) := by
    refine ((Run.nil .empty).snoc (e := sent) ⟨rfl, rfl⟩).snoc (e := did .waiting) ?_
    exact ⟨rfl, nofun, by simp [Config.IsBlocked, LoopState.start, Channel.send], rfl⟩
  have saved : Run .default "" "" 0
      ([sent, did .waiting, did .settling] ++ did .clearing :: [did .reading, sent, sent])
      (⟨⟨.generating (.error (.schemaRead "" .notFound)), ⟨0, false⟩, 0⟩, ⟨2, true⟩, .empty⟩ :
        Config FileTree) :=
    ((run_unreadable started).snoc (e := sent) ⟨rfl, rfl⟩).snoc (e := sent) ⟨rfl, rfl⟩
  have again : Run .default "" "" 0
      ([sent, did .waiting, did .settling] ++ did .clearing ::
        ([did .reading, sent, sent, unread] ++ did .finishing :: [did .waiting, closed]))
      (⟨⟨.settling, ⟨0, false⟩, 1⟩, ⟨0, false⟩, .empty⟩ : Config FileTree) := by
    have finished := run_finish saved
    have accepted : Run .default "" "" 0
        ([sent, did .waiting, did .settling] ++ did .clearing ::
          ([did .reading, sent, sent, unread] ++ did .finishing :: [did .waiting]))
        (⟨⟨.settling, ⟨0, false⟩, 1⟩, ⟨0, true⟩, .empty⟩ : Config FileTree) :=
      finished.snoc ⟨rfl, nofun, by simp [Config.IsBlocked], rfl⟩
    exact accepted.snoc (e := closed) rfl
  have run : Run .default "" "" 0
      ([sent, did .waiting, did .settling] ++ did .clearing ::
        ([did .reading, sent, sent, unread] ++ did .finishing ::
          [did .waiting, closed, did .settling, did .clearing, did .reading, unread,
            did .finishing, did .waiting]))
      (⟨⟨.ended, ⟨0, false⟩, 2⟩, ⟨0, false⟩, .empty⟩ : Config FileTree) := by
    have finished := run_finish (run_unreadable again)
    exact finished.snoc (e := did .waiting) ⟨rfl, nofun, by simp [Config.IsBlocked, Channel.clear], rfl⟩
  obtain ⟨-, -, -, -, hresult⟩ := (batches_coalesce .default "" "" 0).2 _ _ run
  refine ⟨_, _, run, rfl, ?_⟩
  obtain ⟨-, -, -, -, hcost⟩ := hresult 2 rfl
  have htwo := hcost _ _ _ rfl (by simp [unread]) (by simp) (by simp [unread])
  exact congrArg some htwo.symm

end Scaffold.Watch
