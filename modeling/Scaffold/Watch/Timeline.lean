import Scaffold.Watch.Queue

/-!
A change feed on a clock of its own: events arrive at given times, and a wait is abandoned when it
would outlast a limit.
-/

namespace Scaffold

/-- A channel, the times at which further events will be sent, the time now, and the time at which
waiting is given up. -/
structure Timeline where
  channel : Channel
  arrivals : List Nat
  now : Nat := 0
  limit : Nat
deriving DecidableEq, Repr

inductive Blocked where
  | blocked
deriving DecidableEq, Repr

namespace Timeline

/-- Moves the clock to `time`. The events due by then are sent. -/
def advance (t : Timeline) (time : Nat) : Timeline :=
  { t with
    channel := t.channel.send (t.arrivals.filter (· ≤ time)).length
    arrivals := t.arrivals.filter (time < ·)
    now := time }

/-- The time of the next arrival. -/
def nextArrival? (t : Timeline) : Option Nat := t.arrivals.min?.map (max t.now)

def giveUp {α : Type} : ExceptT Blocked (StateM Timeline) α := do
  modify fun t => t.advance t.limit
  throw .blocked

instance : ChangeFeed (ExceptT Blocked (StateM Timeline)) where
  receive := do
    let t ← get
    if 0 < t.channel.queued then
      set { t with channel := t.channel.takeOne }
      return true
    else if !t.channel.isOpen then return false
    else
      match t.nextArrival? with
      | none => giveUp
      | some time =>
        if time ≤ t.limit then
          let t := t.advance time
          set { t with channel := t.channel.takeOne }
          return true
        else giveUp
  pause ms := do
    let t ← get
    if t.now + ms ≤ t.limit then set (t.advance (t.now + ms)) else giveUp
  drain := do
    let t ← get
    set { t with channel := t.channel.clear }
    return 0 < t.channel.queued

end Timeline

/-- What a wait for a trigger came to: whether one fired, or that the wait was abandoned. -/
inductive TriggerResult where
  | fired
  | ended
  | blocked
deriving DecidableEq, Repr

structure TriggerReport where
  result : TriggerResult
  waitedMs : Nat
  queue : ChangeQueue
  channel : Channel
deriving DecidableEq, Repr

namespace ChangeQueue

/-- Waits for a trigger for at most `limit`, with events sent at the times `arrivals` after the wait
began. An abandoned wait loses the event or re-scan that it has taken. Events due after the wait are
in the channel when it is over. -/
def triggerWithin (q : ChangeQueue) (channel : Channel) (arrivals : List Nat) (limit : Nat) :
    TriggerReport :=
  let wait : ExceptT Blocked (StateM Timeline) (Bool × ChangeQueue) := q.nextTrigger
  let (outcome, t) := wait.run.run { channel, arrivals, limit }
  let after := t.channel.send t.arrivals.length
  match outcome with
  | .ok (true, q) => ⟨.fired, t.now, q, after⟩
  | .ok (false, q) => ⟨.ended, t.now, q, after⟩
  | .error .blocked => ⟨.blocked, t.now, { q with rescanRequested := false }, after⟩

end ChangeQueue

end Scaffold
