/-!
Change events and when they start a batch. An event only says that something changed, so a channel
is a count. Any number of events before a batch starts make one batch, and any number during a batch
make one more.
-/

namespace Scaffold

/-- Events that were sent and not yet taken, and whether more can be sent. -/
structure Channel where
  queued : Nat := 0
  isOpen : Bool := true
deriving DecidableEq, Repr

namespace Channel

/-- Events sent to a closed channel are lost. -/
def send (c : Channel) (n : Nat) : Channel :=
  if c.isOpen then { c with queued := c.queued + n } else c

def close (c : Channel) : Channel := { c with isOpen := false }

def takeOne (c : Channel) : Channel := { c with queued := c.queued - 1 }

def clear (c : Channel) : Channel := { c with queued := 0 }

end Channel

/-- A source of change events. -/
class ChangeFeed (m : Type → Type) where
  /-- Waits for an event and takes it; `false` once the feed has ended and holds none. -/
  receive : m Bool
  /-- Lets time pass. -/
  pause (ms : Nat) : m Unit
  /-- Takes all events that are there, and says whether there were any. -/
  drain : m Bool

/-- A channel to which nothing is sent while it is waited on: a wait finds an event or none ever
comes. -/
instance {n : Type → Type} [Monad n] : ChangeFeed (StateT Channel n) where
  receive := modifyGet fun c => (0 < c.queued, c.takeOne)
  pause _ := pure ()
  drain := modifyGet fun c => (0 < c.queued, c.clear)

/-- What is remembered between batches: how long to wait for things to settle, and whether events
came while the last batch ran. -/
structure ChangeQueue where
  debounceMs : Nat
  rescanRequested : Bool := false
deriving DecidableEq, Repr

namespace ChangeQueue

variable {m : Type → Type} [Monad m] [ChangeFeed m]

/-- Waits until a batch should start: for an event, unless a re-scan is pending, and then until
things have settled. `false` if no batch will ever start again. -/
def nextTrigger (q : ChangeQueue) : m (Bool × ChangeQueue) := do
  let due ← if q.rescanRequested then pure true else ChangeFeed.receive
  if due then
    if q.debounceMs ≠ 0 then ChangeFeed.pause q.debounceMs
    let _ ← ChangeFeed.drain
    return (true, { q with rescanRequested := false })
  else return (false, q)

/-- Ends a batch. Events that came meanwhile request a re-scan. -/
def finishBatch (q : ChangeQueue) : m (Bool × ChangeQueue) := do
  let any ← ChangeFeed.drain
  return (any, { q with rescanRequested := any })

end ChangeQueue

end Scaffold
