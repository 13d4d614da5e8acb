import Scaffold.Proofs.Watch.Coalescing

/-!
The watch loop on a clock. Time passes only while the loop waits: for an event, for things to settle,
or for its files; else its next step is taken at once. For how long a step asks to pause is found by
running the step where pauses are counted.
-/

namespace Scaffold.Watch

open Happening

variable {σ : Type}

/-- A site where pauses are counted. -/
abbrev Paced (σ : Type) := StateT Nat (Site σ)

instance : ChangeFeed (Paced σ) where
  receive := StateT.lift ChangeFeed.receive
  pause ms := modify (· + ms)
  drain := StateT.lift ChangeFeed.drain

/-- The loop works on files, or has ended. What that takes is not its own doing. -/
def Stage.takesTime : Stage → Bool
  | .reading | .generating _ | .ended => true
  | _ => false

/-- A loop among others, the time now, and the time of its last step. -/
structure Clocked (σ : Type) where
  config : Config σ
  now : Nat
  since : Nat

namespace Clocked

def start (debounceMs : Nat) (files : σ) : Clocked σ := ⟨⟨.start ⟨debounceMs, false⟩, {}, files⟩, 0, 0⟩

abbrev stage (c : Clocked σ) : Stage := c.config.loop.stage

abbrev queue (c : Clocked σ) : ChangeQueue := c.config.loop.queue

abbrev channel (c : Clocked σ) : Channel := c.config.channel

/-- What the end of the batch answers: whether events came meanwhile. -/
def rescans (c : Clocked σ) : Bool :=
  (((c.queue.finishBatch : Site σ (Bool × ChangeQueue)).run c.channel).run c.config.files).1.1.1

theorem not_isBlocked_of_stage {c : Clocked σ} (hstage : c.stage ≠ .waiting) : ¬ c.config.IsBlocked :=
  fun hblocked => hstage hblocked.1

theorem not_isBlocked_of_ready {c : Clocked σ}
    (hready : c.queue.rescanRequested = true ∨ 0 < c.channel.queued) : ¬ c.config.IsBlocked := by
  rintro ⟨-, hflag, hempty, -⟩
  rcases hready with hset | hpos
  · exact absurd hset (by rw [hflag]; exact Bool.false_ne_true)
  · exact absurd hempty (Nat.ne_of_gt hpos)

end Clocked

variable [Workspace (StateM σ)]

instance : Workspace (Paced σ) where
  readText limit path := StateT.lift (Workspace.readText limit path)
  makeDirs limit path := StateT.lift (Workspace.makeDirs limit path)
  writeText limit path text := StateT.lift (Workspace.writeText limit path text)
  pathExists path := StateT.lift (Workspace.pathExists path)
  watchDir path := StateT.lift (Workspace.watchDir path)
  report event := StateT.lift (Workspace.report event)

section
variable (settings : Settings) (schemaPath outDir : String)

/-- The milliseconds for which the next step of the loop asks to pause. -/
def Config.pause (c : Config σ) : Nat :=
  let step : Paced σ LoopState := advance settings schemaPath outDir c.loop
  (((step.run 0).run c.channel).run c.files).1.1.2

namespace Clocked

/-- The step may be taken: its pause is over. -/
def IsDue (c : Clocked σ) : Prop := c.since + c.config.pause settings schemaPath outDir ≤ c.now

/-- So much time may pass before the loop has to take its next step. -/
def MayPass (c : Clocked σ) (ms : Nat) : Prop :=
  c.config.IsBlocked ∨ c.stage.takesTime = true ∨
    c.now + ms ≤ c.since + c.config.pause settings schemaPath outDir

def Step (c : Clocked σ) (e : Happening) (c' : Clocked σ) : Prop :=
  Watch.Step settings schemaPath outDir c.config e c'.config ∧ c'.now = c.now ∧
    if e.isStep then c.IsDue settings schemaPath outDir ∧ c'.since = c.now else c'.since = c.since

/-- The loop has taken its next step. -/
def advanced (c : Clocked σ) : Clocked σ := ⟨c.config.advanced settings schemaPath outDir, c.now, c.now⟩

/-- What may happen from a state on, each at its time, and the states that it leads to. -/
inductive Leads (c₀ : Clocked σ) : List (Nat × Happening) → Clocked σ → Prop
  | nil : Leads c₀ [] c₀
  | passed {h : List (Nat × Happening)} {c : Clocked σ} (ms : Nat) :
      Leads c₀ h c → c.MayPass settings schemaPath outDir ms → Leads c₀ h { c with now := c.now + ms }
  | snoc {h : List (Nat × Happening)} {c c' : Clocked σ} {e : Happening} :
      Leads c₀ h c → c.Step settings schemaPath outDir e c' → Leads c₀ (h ++ [(c.now, e)]) c'

end Clocked

end

namespace Clocked

variable {settings : Settings} {schemaPath outDir : String} {debounceMs : Nat} {files : σ}
  {h before after : List (Nat × Happening)} {c c₀ c' : Clocked σ} {e : Nat × Happening}

/-! ## Pauses -/

theorem pause_waiting (hstage : c.stage = .waiting) : c.config.pause settings schemaPath outDir = 0 := by
  obtain ⟨⟨⟨stage, q, n⟩, channel, files⟩, now, since⟩ := c
  obtain rfl : stage = .waiting := hstage
  obtain ⟨debounceMs, rescan⟩ := q
  cases rescan <;> rfl

omit [Workspace (StateM σ)] in
theorem settle_paced (q : ChangeQueue) (ms : Nat) (channel : Channel) (files : σ) :
    (((q.settle : Paced σ Unit).run ms).run channel).run files =
      ((((), ms + q.debounceMs), channel), files) := by
  unfold ChangeQueue.settle
  split
  · rfl
  · rename_i hzero
    rw [not_not.1 hzero]
    rfl

theorem pause_settling (hstage : c.stage = .settling) :
    c.config.pause settings schemaPath outDir = c.queue.debounceMs := by
  obtain ⟨⟨⟨stage, q, n⟩, channel, files⟩, now, since⟩ := c
  obtain rfl : stage = .settling := hstage
  have hsettle := settle_paced q 0 channel files
  change ((((q.settle : Paced σ Unit).run 0).run channel).run files).1.1.2 = q.debounceMs
  rw [hsettle]
  exact Nat.zero_add _

theorem pause_clearing (hstage : c.stage = .clearing) : c.config.pause settings schemaPath outDir = 0 := by
  obtain ⟨⟨⟨stage, q, n⟩, channel, files⟩, now, since⟩ := c
  obtain rfl : stage = .clearing := hstage
  rfl

/-! ## Steps -/

theorem debounceMs_moved {s s' : LoopState} {channel channel' : Channel}
    (hm : Moved s channel s' channel') : s'.queue.debounceMs = s.queue.debounceMs := by
  cases hm <;> rfl

/-- A step that is due can be taken, unless there is none. -/
theorem step_of_isDue {stage : Stage} (hstage : c.stage = stage) (hend : stage ≠ .ended)
    (hfree : ¬ c.config.IsBlocked) (hdue : c.IsDue settings schemaPath outDir) :
    c.Step settings schemaPath outDir (.did stage) (c.advanced settings schemaPath outDir) :=
  ⟨⟨hstage, hend, hfree, rfl⟩, rfl, hdue, rfl⟩

/-- The end of a batch leaves an empty channel, and its answer as the flag. -/
theorem finished (hs : c.Step settings schemaPath outDir (.did .finishing) c') :
    c'.stage = .waiting ∧ c'.queue.rescanRequested = c.rescans ∧ c'.channel.queued = 0 ∧
      c'.now = c.now ∧ c'.since = c.now := by
  obtain ⟨hstep, hnow, hdue, hsince⟩ := hs
  have hm := moved_of_did hstep
  obtain ⟨hstage, -⟩ := hstep
  obtain ⟨⟨⟨stage, q, n⟩, channel, files⟩, now, since⟩ := c
  obtain ⟨⟨loop', channel', files'⟩, now', since'⟩ := c'
  cases hm <;> cases hstage
  exact ⟨rfl, rfl, rfl, hnow, hsince⟩

/-! ## Without the clock -/

/-- What holds of all runs holds of those in which time passes. -/
theorem Leads.run (hl : Leads settings schemaPath outDir (.start debounceMs files) h c) :
    Run settings schemaPath outDir debounceMs (h.map Prod.snd) c.config := by
  induction hl with
  | nil => exact .nil files
  | passed _ _ _ ih => exact ih
  | snoc _ hs ih =>
    rw [List.map_append]
    exact ih.snoc hs.1

theorem debounceMs_eq (hl : Leads settings schemaPath outDir c₀ h c) :
    c.queue.debounceMs = c₀.queue.debounceMs := by
  induction hl with
  | nil => rfl
  | passed _ _ _ ih => exact ih
  | @snoc _ c c' e _ hs ih =>
    rw [← ih]
    obtain ⟨hstep, -⟩ := hs
    cases e with
    | sent => rw [queue, hstep.2]
    | closed => rw [queue, hstep]
    | edited =>
      obtain ⟨files, heq⟩ := hstep
      rw [queue, heq]
    | did stage => exact debounceMs_moved (moved_of_did hstep)

theorem since_le (hl : Leads settings schemaPath outDir c₀ h c) (hstart : c₀.since ≤ c₀.now) :
    c.since ≤ c.now := by
  induction hl with
  | nil => exact hstart
  | passed _ _ _ ih => exact Nat.le_add_right_of_le ih
  | snoc _ hs ih =>
    obtain ⟨-, hnow, hsince⟩ := hs
    split at hsince <;> omega

theorem exists_of_leads (hl : Leads settings schemaPath outDir c₀ (before ++ e :: after) c) :
    ∃ c₁ c₂, Leads settings schemaPath outDir c₀ before c₁ ∧ c₁.now = e.1 ∧
      c₁.Step settings schemaPath outDir e.2 c₂ ∧ Leads settings schemaPath outDir c₂ after c := by
  generalize hlist : before ++ e :: after = whole at hl
  induction hl generalizing after with
  | nil => simp at hlist
  | passed ms _ hpass ih =>
    obtain ⟨c₁, c₂, hfront, hnow, hs, hback⟩ := ih hlist
    exact ⟨c₁, c₂, hfront, hnow, hs, hback.passed ms hpass⟩
  | @snoc front c c' last hfront hs ih =>
    rcases List.eq_nil_or_concat after with rfl | ⟨between, other, rfl⟩
    · obtain ⟨rfl, hlast⟩ := List.append_inj' hlist rfl
      obtain rfl : e = (c.now, last) := (List.cons.inj hlast).1
      exact ⟨c, c', hfront, rfl, hs, .nil⟩
    · rw [List.concat_eq_append, ← List.cons_append, ← List.append_assoc] at hlist
      obtain ⟨rfl, hlast⟩ := List.append_inj' hlist rfl
      obtain rfl : other = (c.now, last) := (List.cons.inj hlast).1
      obtain ⟨c₁, c₂, hfront, hnow, hs', hback⟩ := ih rfl
      rw [List.concat_eq_append]
      exact ⟨c₁, c₂, hfront, hnow, hs', hback.snoc hs⟩

end Clocked

end Scaffold.Watch
