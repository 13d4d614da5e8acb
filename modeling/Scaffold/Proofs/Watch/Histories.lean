import Scaffold.Proofs.Watch.Stages

/-!
The watch loop among others. Senders put events into its channel and go, files change, and the loop
takes its steps, in any order; a history lists what happened. The workspace may be of any kind: how
its operations end is never looked at.
-/

namespace Scaffold.Watch

/-- A channel with a workspace beside it, of which `σ` holds the state. -/
abbrev Site (σ : Type) := StateT Channel (StateM σ)

variable {σ : Type}

theorem takeOne_eq_self {c : Channel} (h : c.queued = 0) : c.takeOne = c := by
  obtain ⟨queued, isOpen⟩ := c
  obtain rfl : queued = 0 := h
  rfl

theorem accept_run (q : ChangeQueue) (c : Channel) (files : σ) :
    ((q.accept : Site σ Bool).run c).run files =
      ((q.rescanRequested || 0 < c.queued, if q.rescanRequested then c else c.takeOne), files) := by
  cases hr : q.rescanRequested <;> simp only [ChangeQueue.accept, hr] <;> rfl

theorem settle_run (q : ChangeQueue) (c : Channel) (files : σ) :
    ((q.settle : Site σ Unit).run c).run files = (((), c), files) := by
  unfold ChangeQueue.settle
  split <;> rfl

/-! Work on files leaves the channel alone. -/

section Quiet
variable {α β ε : Type}

def Quiet (x : Site σ α) : Prop := ∀ c files, ((x.run c).run files).1.2 = c

theorem quiet_pure (a : α) : Quiet (pure a : Site σ α) := fun _ _ => rfl

theorem quiet_bind {x : Site σ α} {f : α → Site σ β} (hx : Quiet x) (hf : ∀ a, Quiet (f a)) :
    Quiet (x >>= f) := fun c files => (hf _ _ _).trans (hx c files)

theorem quiet_map {x : Site σ α} (f : α → β) (hx : Quiet x) : Quiet (f <$> x) :=
  fun c files => hx c files

theorem quiet_run_bind {x : ExceptT ε (Site σ) α} {f : α → ExceptT ε (Site σ) β}
    (hx : Quiet x.run) (hf : ∀ a, Quiet (f a).run) : Quiet (x >>= f).run := by
  rw [ExceptT.run_bind]
  refine quiet_bind hx fun r => ?_
  cases r with
  | ok a => exact hf a
  | error e => exact quiet_pure _

theorem quiet_forM {f : α → Site σ Unit} (hf : ∀ a, Quiet (f a)) (as : List α) :
    Quiet (as.forM f) := by
  induction as with
  | nil => exact quiet_pure _
  | cons a as ih => exact quiet_bind (hf a) fun _ => ih

theorem quiet_mapM {f : α → Site σ β} (hf : ∀ a, Quiet (f a)) (as : List α) :
    Quiet (as.mapM f) := by
  induction as with
  | nil => simpa using quiet_pure _
  | cons a as ih =>
    rw [List.mapM_cons]
    exact quiet_bind (hf a) fun _ => quiet_bind ih fun _ => quiet_pure _

theorem quiet_run_forM {f : α → ExceptT ε (Site σ) Unit} (hf : ∀ a, Quiet (f a).run)
    (as : List α) : Quiet (as.forM f).run := by
  induction as with
  | nil => exact quiet_pure _
  | cons a as ih => exact quiet_run_bind (hf a) fun _ => ih

theorem quiet_run_mapM {f : α → ExceptT ε (Site σ) β} (hf : ∀ a, Quiet (f a).run)
    (as : List α) : Quiet (as.mapM f).run := by
  induction as with
  | nil => simpa using quiet_pure _
  | cons a as ih =>
    rw [List.mapM_cons]
    exact quiet_run_bind (hf a) fun _ => quiet_run_bind ih fun _ => quiet_pure _

end Quiet

variable [Workspace (StateM σ)]

instance : Workspace (Site σ) where
  readText limit path := StateT.lift (Workspace.readText limit path)
  makeDirs limit path := StateT.lift (Workspace.makeDirs limit path)
  writeText limit path text := StateT.lift (Workspace.writeText limit path text)
  pathExists path := StateT.lift (Workspace.pathExists path)
  watchDir path := StateT.lift (Workspace.watchDir path)
  report event := StateT.lift (Workspace.report event)

theorem quiet_report (e : Event) : Quiet (Workspace.report e : Site σ Unit) := fun _ _ => rfl

theorem quiet_writeArtifacts (limit : Duration) (r : Resource) (outDir : String) :
    Quiet (Generate.writeArtifacts limit r outDir : ExceptT _ (Site σ) (List String)).run := by
  refine quiet_run_bind (quiet_run_forM (fun _ _ _ => rfl) _) fun _ => ?_
  refine quiet_run_mapM (fun a => ?_) _
  exact quiet_run_bind (fun _ _ => rfl) fun _ => quiet_run_bind (fun _ _ => rfl) fun _ => quiet_pure _

theorem quiet_fromSource (settings : Settings) (source model outDir : String) :
    Quiet (Generate.fromSource settings source model outDir : ExceptT _ (Site σ) (List String)).run := by
  unfold Generate.fromSource
  cases Schema.findBlock? source model with
  | none => exact quiet_pure _
  | some block =>
    refine quiet_run_bind ?_ fun _ => quiet_writeArtifacts _ _ _
    exact quiet_map _ (quiet_forM quiet_report _)

theorem quiet_batch (settings : Settings) (source outDir : String) :
    Quiet (Generate.batch settings source outDir : Site σ BatchReport) := by
  have one (model : String) :
      Quiet (Generate.batchModel settings source outDir model : Site σ ModelOutcome) := by
    refine quiet_bind (quiet_report _) fun _ => quiet_bind (quiet_fromSource _ _ _ _) fun r => ?_
    cases r with
    | ok paths => exact quiet_pure _
    | error e => exact quiet_bind (quiet_report _) fun _ => quiet_pure _
  refine quiet_bind (quiet_report _) fun _ => ?_
  dsimp only
  split
  · exact quiet_bind (quiet_report _) fun _ => quiet_bind (quiet_mapM one _) fun _ => quiet_pure _
  · exact quiet_bind (quiet_mapM one _) fun _ => quiet_pure _

/-! ## Histories -/

inductive Happening where
  | sent
  | closed
  | edited
  | did (stage : Stage)

/-- The loop, the channel that it listens to, and the files that it works on. -/
structure Config (σ : Type) where
  loop : LoopState
  channel : Channel
  files : σ

/-- The loop waits for an event that is not there yet. -/
def Config.IsBlocked (c : Config σ) : Prop :=
  c.loop.stage = .waiting ∧ c.loop.queue.rescanRequested = false ∧ c.channel.queued = 0 ∧
    c.channel.isOpen = true

section
variable (settings : Settings) (schemaPath outDir : String)

/-- The loop takes its next step. -/
def Config.advanced (c : Config σ) : Config σ :=
  let step : Site σ LoopState := advance settings schemaPath outDir c.loop
  let ((loop, channel), files) := (step.run c.channel).run c.files
  ⟨loop, channel, files⟩

/-- What may happen in a state, and the state it leaves. -/
def Step (c : Config σ) : Happening → Config σ → Prop
  | .sent, c' => c.channel.isOpen = true ∧ c' = { c with channel := c.channel.send 1 }
  | .closed, c' => c' = { c with channel := c.channel.close }
  | .edited, c' => ∃ files, c' = { c with files }
  | .did stage, c' =>
    c.loop.stage = stage ∧ stage ≠ .ended ∧ ¬ c.IsBlocked ∧
      c' = c.advanced settings schemaPath outDir

/-- The histories of a loop that waits `debounceMs` for things to settle, and the states they
lead to. -/
inductive Run (debounceMs : Nat) : List Happening → Config σ → Prop
  | nil (files : σ) : Run debounceMs [] ⟨.start ⟨debounceMs, false⟩, {}, files⟩
  | snoc {h : List Happening} {c c' : Config σ} {e : Happening} :
      Run debounceMs h c → Step settings schemaPath outDir c e c' → Run debounceMs (h ++ [e]) c'

end

/-- What a step of the loop does to the loop and the channel, whatever the files. -/
inductive Moved : LoopState → Channel → LoopState → Channel → Prop
  | rescan {q : ChangeQueue} {n : Nat} {c : Channel} : q.rescanRequested = true →
      Moved ⟨.waiting, q, n⟩ c ⟨.settling, q.accepted, n⟩ c
  | received {q : ChangeQueue} {n : Nat} {c : Channel} : q.rescanRequested = false →
      0 < c.queued → Moved ⟨.waiting, q, n⟩ c ⟨.settling, q.accepted, n⟩ c.takeOne
  | ended {q : ChangeQueue} {n : Nat} {c : Channel} : q.rescanRequested = false →
      c.queued = 0 → c.isOpen = false → Moved ⟨.waiting, q, n⟩ c ⟨.ended, q, n⟩ c
  | settled (q : ChangeQueue) (n : Nat) (c : Channel) :
      Moved ⟨.settling, q, n⟩ c ⟨.clearing, q, n⟩ c
  | cleared (q : ChangeQueue) (n : Nat) (c : Channel) :
      Moved ⟨.clearing, q, n⟩ c ⟨.reading, q, n⟩ c.clear
  | read (q : ChangeQueue) (n : Nat) (c : Channel) (text : Except GenerateError String) :
      Moved ⟨.reading, q, n⟩ c ⟨.generating text, q, n⟩ c
  | generated (q : ChangeQueue) (n : Nat) (c : Channel) (text : Except GenerateError String) :
      Moved ⟨.generating text, q, n⟩ c ⟨.finishing, q, n + 1⟩ c
  | finished (q : ChangeQueue) (n : Nat) (c : Channel) :
      Moved ⟨.finishing, q, n⟩ c ⟨.waiting, { q with rescanRequested := 0 < c.queued }, n⟩ c.clear

theorem moved_of_did {settings : Settings} {schemaPath outDir : String} {c c' : Config σ}
    {stage : Stage} (h : Step settings schemaPath outDir c (.did stage) c') :
    Moved c.loop c.channel c'.loop c'.channel := by
  obtain ⟨⟨stage, q, n⟩, channel, files⟩ := c
  obtain ⟨rfl, alive, free, rfl⟩ := h
  cases stage with
  | waiting =>
    have due := accept_run q channel files
    change Moved _ _
      (if (((q.accept : Site σ Bool).run channel).run files).1.1 then ⟨.settling, q.accepted, n⟩
        else ⟨.ended, q, n⟩) (((q.accept : Site σ Bool).run channel).run files).1.2
    rw [due]
    cases hr : q.rescanRequested with
    | true => exact .rescan hr
    | false =>
      by_cases hq : 0 < channel.queued
      · simpa [hq] using Moved.received hr hq
      · have empty : channel.queued = 0 := by omega
        have shut : channel.isOpen = false :=
          Bool.eq_false_iff.2 fun hopen => free ⟨rfl, hr, empty, hopen⟩
        simpa [takeOne_eq_self empty, hq] using Moved.ended hr empty shut
  | settling =>
    have same := settle_run q channel files
    change Moved _ _ ⟨.clearing, q, n⟩ (((q.settle : Site σ Unit).run channel).run files).1.2
    rw [same]
    exact .settled q n channel
  | clearing => exact .cleared q n channel
  | reading => exact .read q n channel _
  | generating text =>
    cases text with
    | ok source =>
      have same := quiet_batch (σ := σ) settings source outDir channel files
      change Moved _ _ ⟨.finishing, q, n + 1⟩
        (((Generate.batch settings source outDir : Site σ BatchReport).run channel).run files).1.2
      rw [same]
      exact .generated q n channel _
    | error e => exact .generated q n channel _
  | finishing => exact .finished q n channel
  | ended => exact absurd rfl alive

end Scaffold.Watch
