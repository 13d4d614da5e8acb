import Scaffold.Watch.Loop

/-!
The watch loop cut into single steps, between which anything else may happen: an event is sent, the
senders go, a file changes. Main statement: run to the end of its rounds, the loop is its steps taken
one after the other.
-/

namespace Scaffold

namespace ChangeQueue

variable {m : Type → Type} [Monad m] [ChangeFeed m]

/-- Waits for an event, unless a re-scan is pending. -/
def accept (q : ChangeQueue) : m Bool :=
  if q.rescanRequested then pure true else ChangeFeed.receive

def settle (q : ChangeQueue) : m Unit :=
  if q.debounceMs ≠ 0 then ChangeFeed.pause q.debounceMs else pure ()

def accepted (q : ChangeQueue) : ChangeQueue := { q with rescanRequested := false }

theorem nextTrigger_eq [LawfulMonad m] (q : ChangeQueue) :
    (q.nextTrigger : m (Bool × ChangeQueue)) = do
      let due ← q.accept
      if due then
        q.accepted.settle
        let _ ← ChangeFeed.drain
        return (true, q.accepted)
      else return (false, q) := by
  cases hr : q.rescanRequested <;> by_cases hq : q.debounceMs = 0 <;>
    simp [nextTrigger, accept, settle, accepted, hr, hq]

end ChangeQueue

namespace Watch

/-- What the loop does next. -/
inductive Stage where
  | waiting
  | settling
  | clearing
  | reading
  | generating (read : Except GenerateError String)
  | finishing
  | ended

/-- A trigger was accepted and the schema has not been read for it yet. -/
def Stage.isDue : Stage → Bool
  | .settling | .clearing | .reading => true
  | _ => false

structure LoopState where
  stage : Stage
  queue : ChangeQueue
  batches : Nat := 0

namespace LoopState

def start (q : ChangeQueue) : LoopState := { stage := .waiting, queue := q }

/-- The number of batches of a loop that has ended. -/
def result? (s : LoopState) : Option Nat :=
  match s.stage with
  | .ended => some s.batches
  | _ => none

end LoopState

variable {m : Type → Type} [Monad m] [Workspace m] [ChangeFeed m]

/-- One step of the loop. A wait for a trigger takes three steps: an event is received unless a
re-scan is pending, things settle, and the events that came meanwhile are taken. -/
def advance (settings : Settings) (schemaPath outDir : String) (s : LoopState) : m LoopState :=
  match s.stage with
  | .waiting => do
    let due ← s.queue.accept
    return if due then { s with stage := .settling, queue := s.queue.accepted }
      else { s with stage := .ended }
  | .settling => do
    s.queue.settle
    return { s with stage := .clearing }
  | .clearing => do
    let _ ← ChangeFeed.drain
    return { s with stage := .reading }
  | .reading => do
    Workspace.report (.schemaChanged schemaPath)
    let read ← (Generate.readSchema settings schemaPath).run
    return { s with stage := .generating read }
  | .generating read => do
    match read with
    | .ok source =>
      let done ← Generate.batch settings source outDir
      Workspace.report (.batchEnded done.succeeded done.failed)
    | .error e => Workspace.report (.schemaUnreadable e)
    return { s with stage := .finishing, batches := s.batches + 1 }
  | .finishing => do
    let (again, q) ← s.queue.finishBatch
    Workspace.report (if again then .rescanDue else .waiting)
    return { s with stage := .waiting, queue := q }
  | .ended => return s

/-- So many steps, one after the other. -/
def advances (settings : Settings) (schemaPath outDir : String) : Nat → LoopState → m LoopState
  | 0, s => return s
  | k + 1, s => do advances settings schemaPath outDir k (← advance settings schemaPath outDir s)

section
variable [LawfulMonad m] (settings : Settings) (schemaPath outDir : String)

theorem advances_add (j k : Nat) (s : LoopState) :
    (advances settings schemaPath outDir (j + k) s : m LoopState) =
      advances settings schemaPath outDir j s >>= advances settings schemaPath outDir k := by
  induction j generalizing s with
  | zero => simp [advances]
  | succ j ih => simp only [Nat.succ_add, advances, ih, bind_assoc]

theorem advances_one (s : LoopState) :
    (advances settings schemaPath outDir 1 s : m LoopState) = advance settings schemaPath outDir s := by
  simp [advances]

theorem advances_ended (k : Nat) (q : ChangeQueue) (n : Nat) :
    (advances settings schemaPath outDir k ⟨.ended, q, n⟩ : m LoopState) =
      pure ⟨.ended, q, n⟩ := by
  induction k with
  | zero => rfl
  | succ k ih => simp [advances, advance, ih]

/-- What a round does once a trigger was accepted. -/
def afterTrigger (q : ChangeQueue) : m ChangeQueue := do
  q.settle
  let _ ← ChangeFeed.drain
  runTriggered settings schemaPath outDir
  let (again, q) ← q.finishBatch
  Workspace.report (if again then .rescanDue else .waiting)
  return q

theorem round_eq (q : ChangeQueue) :
    (round settings schemaPath outDir q : m (Option ChangeQueue)) = do
      let due ← q.accept
      if due then some <$> afterTrigger settings schemaPath outDir q.accepted else return none := by
  rw [round, ChangeQueue.nextTrigger_eq, bind_assoc]
  congr 1; funext due
  cases due <;> simp [afterTrigger]

theorem advances_settling (q : ChangeQueue) (n : Nat) :
    (advances settings schemaPath outDir 5 ⟨.settling, q, n⟩ : m LoopState) =
      (fun q => ⟨.waiting, q, n + 1⟩) <$> afterTrigger settings schemaPath outDir q := by
  simp only [advances, advance, afterTrigger, runTriggered, bind_assoc, pure_bind, bind_pure,
    map_bind, map_pure]
  congr 1; funext _
  congr 1; funext _
  congr 1; funext _
  congr 1; funext read
  cases read <;> simp

/-- The state that a round leaves if it began with `q` after `n` batches. -/
def afterRound (q : ChangeQueue) (n : Nat) : Option ChangeQueue → LoopState
  | none => ⟨.ended, q, n⟩
  | some q' => ⟨.waiting, q', n + 1⟩

/-- Six steps from the wait for a trigger are a round. -/
theorem advances_round (q : ChangeQueue) (n : Nat) :
    (advances settings schemaPath outDir 6 ⟨.waiting, q, n⟩ : m LoopState) =
      afterRound q n <$> round settings schemaPath outDir q := by
  rw [show 6 = 1 + 5 by rfl, advances_add, advances_one, round_eq, advance]
  simp only [bind_assoc, pure_bind, map_bind]
  congr 1; funext due
  cases due with
  | true => simp [advances_settling, afterRound]
  | false => simp [advances_ended, afterRound]

theorem result?_advances_waiting (rounds : Nat) (q : ChangeQueue) (n : Nat) :
    LoopState.result? <$> (advances settings schemaPath outDir (6 * rounds) ⟨.waiting, q, n⟩ : m _) =
      Option.map (· + n) <$> loop settings schemaPath outDir rounds q := by
  induction rounds generalizing q n with
  | zero => simp [advances, loop, LoopState.result?]
  | succ rounds ih =>
    rw [Nat.mul_succ, Nat.add_comm, advances_add, advances_round]
    simp only [loop, map_bind, bind_map_left]
    congr 1; funext next
    cases next with
    | none => simp [afterRound, advances_ended, LoopState.result?]
    | some q' =>
      simp only [afterRound, ih, map_bind, map_pure]
      simp [Option.map_map, Function.comp_def, Nat.add_assoc, Nat.add_comm 1]

/-- The loop is its steps: limited to so many rounds, it gives what six times as many steps give. -/
theorem loop_eq_advances (rounds : Nat) (q : ChangeQueue) :
    (loop settings schemaPath outDir rounds q : m (Option Nat)) =
      LoopState.result? <$> advances settings schemaPath outDir (6 * rounds) (.start q) := by
  rw [LoopState.start, result?_advances_waiting]
  simp

end

end Watch

end Scaffold
