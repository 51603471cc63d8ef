import StorageEngine.Error

/-!
# Announcing events

A storage announces the turning points of its life to listeners.  Listeners stand in a bounded
table in the order of registration; each has a number that is never given twice, one event that it
waits for, and a life: for ever, or a number of calls.

An announcement takes a snapshot of the listeners that wait for its event and have life left, and
takes one call from the life of each (`Emitter.begin`).  The snapshot is called in order, and what
the callbacks do to the table meanwhile does not change it.  When the last one has returned,
listeners without life leave the table (`Emitter.purge`).  Callbacks may announce again, so several
announcements can be under way, the innermost first: `Relay` keeps them.
-/

namespace StorageEngine

/-- A turning point in the life of a storage. -/
inductive Event
  | failed
  | opened
  | closed
  | destroyed
  deriving DecidableEq, Inhabited

namespace Event

/-- Every event. -/
def all : List Event :=
  [.failed, .opened, .closed, .destroyed]

/-- The number of an event. -/
def code : Event → Nat
  | .failed => 254
  | .opened => 259
  | .closed => 260
  | .destroyed => 261

/-- The word for an event. -/
def word : Event → String
  | .failed => "error"
  | .opened => "open"
  | .closed => "close"
  | .destroyed => "destroy"

/-- The name of an event in diagnostics. -/
def label : Event → String
  | .failed => "Error"
  | .opened => "Open"
  | .closed => "Close"
  | .destroyed => "Destroy"

end Event

/-- A piece of the client's own code, known to the engine by a number. -/
abbrev Callback := Nat

/-- What a listener is told. -/
structure Notice where
  event : Event
  error : Option Error := none
  deriving DecidableEq, Inhabited

/-- How often a listener may still be called. -/
inductive Ttl
  | forever
  | times (n : Nat)
  deriving DecidableEq, Inhabited

namespace Ttl

/-- No call is left. -/
def isSpent (t : Ttl) : Bool :=
  t = .times 0

/-- One call less. -/
def consume : Ttl → Ttl
  | .forever => .forever
  | .times n => .times (n - 1)

/-- The diagnostic text of a life. -/
def describe : Ttl → String
  | .forever => "Forever"
  | .times n => Text.wrapped "Times" (toString n)

end Ttl

/-- The number of a registration, counted from one. -/
abbrev ListenerId := Nat

/-- The diagnostic text of a registration number. -/
def ListenerId.describe (id : ListenerId) : String :=
  Text.wrapped "ListenerId" (toString id)

/-- One registered listener. -/
structure Listener where
  id : ListenerId
  event : Event
  ttl : Ttl
  callback : Callback
  deriving DecidableEq, Inhabited

namespace Listener

/-- Whether an announcement of `event` calls this listener. -/
def hears (l : Listener) (event : Event) : Bool :=
  l.event = event && !l.ttl.isSpent

/-- The diagnostic text of a listener. -/
def describe (l : Listener) : String :=
  Text.record "Listener" [
    ("id", ListenerId.describe l.id),
    ("event", l.event.label),
    ("ttl", l.ttl.describe)] true

end Listener

/-- A table of listeners. -/
structure Emitter where
  listeners : List Listener := []
  capacity : Nat := 64
  nextId : ListenerId := 1
  deriving DecidableEq, Inhabited

/-- An announcement that is under way: what it tells, the listeners still to be called, and how
many there were at the start. -/
structure Delivery where
  notice : Notice
  waiting : List Listener
  called : Nat
  deriving DecidableEq, Inhabited

namespace Emitter

/-- Adds a listener.  A listener without any life is refused before a full table is noticed. -/
def register (e : Emitter) (event : Event) (ttl : Ttl) (callback : Callback) :
    Except Error (ListenerId × Emitter) :=
  if ttl.isSpent then .error .invalidArgument
  else if e.capacity ≤ e.listeners.length then
    .error (.capacityExceeded "listener table" e.capacity)
  else
    .ok (e.nextId, { e with
      listeners := e.listeners ++ [{ id := e.nextId, event, ttl, callback }]
      nextId := e.nextId + 1 })

/-- Keeps the listeners that satisfy `p`. -/
def retain (e : Emitter) (p : Listener → Bool) : Emitter :=
  { e with listeners := e.listeners.filter p }

/-- Removes the listener with this number. -/
def off (e : Emitter) (id : ListenerId) : Emitter :=
  e.retain fun l => l.id ≠ id

/-- Removes every registration of this callback. -/
def offCallback (e : Emitter) (callback : Callback) : Emitter :=
  e.retain fun l => l.callback ≠ callback

/-- Removes every listener for this event. -/
def offEvent (e : Emitter) (event : Event) : Emitter :=
  e.retain fun l => l.event ≠ event

/-- Removes every listener. -/
def clear (e : Emitter) : Emitter :=
  { e with listeners := [] }

/-- How many listeners are in the table. -/
def size (e : Emitter) : Nat :=
  e.listeners.length

/-- How many listeners in the table would hear this event. -/
def count (e : Emitter) (event : Event) : Nat :=
  e.listeners.countP (·.hears event)

/-- Starts an announcement: the snapshot, and the table with one call taken from each listener in
it. -/
def begin (e : Emitter) (notice : Notice) : Delivery × Emitter :=
  let snapshot := e.listeners.filter (·.hears notice.event)
  ({ notice, waiting := snapshot, called := snapshot.length },
   { e with listeners := e.listeners.map fun l =>
      if l.hears notice.event then { l with ttl := l.ttl.consume } else l })

/-- Ends an announcement: listeners without life leave the table. -/
def purge (e : Emitter) : Emitter :=
  e.retain fun l => !l.ttl.isSpent

/-- The diagnostic text of a table. -/
def describe (e : Emitter) : String :=
  Text.record "Emitter" [
    ("listeners", Text.record "RefCell" [("value", Text.listing (e.listeners.map (·.describe)))]),
    ("capacity", toString e.capacity),
    ("next_id", Text.record "Cell" [("value", toString e.nextId)])]

theorem length_retain_le (e : Emitter) (p : Listener → Bool) : (e.retain p).size ≤ e.size :=
  List.length_filter_le p e.listeners

theorem size_begin (e : Emitter) (notice : Notice) : (e.begin notice).2.size = e.size := by
  simp [begin, size]

end Emitter

/-- An emitter on its own, with the announcements under way, innermost first. -/
structure Relay where
  emitter : Emitter := {}
  deliveries : List Delivery := []
  deriving DecidableEq, Inhabited

namespace Relay

/-- Starts an announcement inside those already under way. -/
def announce (r : Relay) (notice : Notice) : Relay :=
  let (delivery, emitter) := r.emitter.begin notice
  { emitter, deliveries := delivery :: r.deliveries }

/-- The next listener of the innermost announcement, with what it is told. -/
def next? (r : Relay) : Option (Listener × Notice × Relay) :=
  match r.deliveries with
  | { notice, waiting := l :: waiting, called } :: outer =>
    some (l, notice, { r with deliveries := { notice, waiting, called } :: outer })
  | _ => none

/-- Ends the innermost announcement; the answer is how many listeners it called. -/
def finish (r : Relay) : Nat × Relay :=
  match r.deliveries with
  | delivery :: outer => (delivery.called, { emitter := r.emitter.purge, deliveries := outer })
  | [] => (0, r)

end Relay

end StorageEngine
