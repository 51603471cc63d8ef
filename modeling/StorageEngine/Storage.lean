import StorageEngine.Allocator
import StorageEngine.Capabilities
import StorageEngine.Limits
import StorageEngine.Request

/-!
# A storage and its control stack

A storage admits operations for one device.  Client code is called back in the middle of an
operation and may call the storage again, to any depth, so the work that is still to be done is
kept explicitly: `Storage.stack` is a stack of `Task`s, and the task on top is the next thing to
happen.  A task that names client code (`Task.client`) stays on top until the client gives control
back; meanwhile the client may start further operations, whose tasks go on top of it.

Every request of the storage is in exactly one place: in the queue, outside (inside the device, or
in the hands of a client), or in one task of the stack.
-/

namespace StorageEngine

/-- Where a storage is in its life.  Nothing follows `destroyed`. -/
inductive Ready
  | unopened
  | opened
  | closed
  | destroyed
  deriving DecidableEq, Inhabited

/-- The name of a point of life in diagnostics. -/
def Ready.label : Ready → String
  | .unopened => "Unopened"
  | .opened => "Open"
  | .closed => "Closed"
  | .destroyed => "Destroyed"

/-- An operation that a client asks for. -/
inductive Operation
  | opening
  | read (offset size : Nat)
  | write (offset : Nat) (data : Bytes)
  | delete (offset size : Nat)
  | stat
  | closing
  | destroying
  deriving DecidableEq, Inhabited

/-- A request to be made: what it asks for and who hears about it. -/
structure Order where
  kind : Kind
  offset : Nat := 0
  size : Nat := 0
  /-- The bytes of a write. -/
  payload : Option Bytes := none
  receiver : Option Receiver := none
  observer : Option Observer := none
  deriving DecidableEq, Inhabited

/-- The last request that an operation makes. -/
def Operation.order (op : Operation) (receiver : Option Receiver) (observer : Option Observer) :
    Order :=
  match op with
  | .opening => { kind := .opening, receiver, observer }
  | .read offset size => { kind := .read, offset, size, receiver, observer }
  | .write offset data =>
    { kind := .write, offset, size := data.length, payload := some data, receiver, observer }
  | .delete offset size => { kind := .delete, offset, size, receiver, observer }
  | .stat => { kind := .stat, receiver, observer }
  | .closing => { kind := .closing, receiver, observer }
  | .destroying => { kind := .destroying, receiver, observer }

/-- A call of client code. -/
inductive Invocation
  /-- A handler of the device takes over a request. -/
  | handler (h : Handler) (id : RequestId)
  /-- The caller's callback. -/
  | done (code : Callback) (result : Except Error Payload)
  /-- The extra observer of an operation. -/
  | hook (code : Callback) (outcome : Outcome)
  /-- A listener for events. -/
  | listener (code : Callback) (notice : Notice)
  deriving DecidableEq

/-- What a promise answers. -/
inductive Promised
  | pending
  | settled (result : Except Error Payload)
  deriving DecidableEq

/-- What a call of the storage answers. -/
inductive Reply
  | unit
  | done (r : Except Error Unit)
  | length (r : Except Error Nat)
  | made (r : Except Error RequestId)
  | shifted (id : Option RequestId)
  | registered (r : Except Error ListenerId)
  | count (n : Nat)
  | flag (b : Bool)
  | promise (number : Nat)
  | promised (p : Promised)
  deriving DecidableEq

/-- The stages that a finished request goes through.  `idle` says that nothing was left inside the
device when the request had settled. -/
inductive Stage
  | record (result : Except Error Nat)
  | settle (dispatched : Bool)
  | observe (idle : Bool)
  | conclude (idle : Bool)
  | release (idle : Bool)
  | free (idle : Bool)
  deriving DecidableEq

/-- Something that is still to be done. -/
inductive Task
  /-- Client code has control. -/
  | client (code : Invocation)
  /-- A call has come to its end with this answer. -/
  | answer (reply : Reply)
  /-- Make a request and admit it. -/
  | submit (order : Order)
  /-- Wait for the end of the opening that a data request needs first. -/
  | awaitOpening (r : Request)
  /-- Wait for the admission of the closing that precedes a destruction. -/
  | awaitClosing (order : Order)
  /-- Wait for the end of the call behind a promise. -/
  | awaitCall (promise : Nat)
  /-- Run a data request, or let it wait. -/
  | enter (r : Request)
  /-- Start what the queue allows, unless this is already going on. -/
  | drain
  /-- The next turn of starting what the queue allows. -/
  | drainNext
  /-- Give a request to the device, or finish it in place. -/
  | run (r : Request)
  /-- The next stage of a finished request. -/
  | pipeline (r : Request) (stage : Stage)
  /-- Call the listeners that are still waiting. -/
  | deliver (d : Delivery)
  /-- Fail what was queued behind a destruction, then let go of listeners and device. -/
  | teardown (orphans : List Request)
  deriving DecidableEq

/-- A storage. -/
structure Storage where
  ready : Ready := .unopened
  /-- Set until an opening is dispatched, and again after an opening fails. -/
  needsOpen : Bool := true
  /-- How many requests are inside the device. -/
  pending : Nat := 0
  /-- Whether one of them is a barrier. -/
  barrier : Bool := false
  /-- Why the last opening failed, until one succeeds. -/
  openError : Option Error := none
  queue : List Request := []
  /-- A copy of the request that was dispatched last. -/
  last : Option RequestInfo := none
  /-- Whether the queue is being drained further down the stack. -/
  draining : Bool := false
  /-- Whether the device is still attached. -/
  attached : Bool := true
  capabilities : Capabilities
  limits : Limits := {}
  allocator : Allocator := {}
  emitter : Emitter
  nextId : RequestId := RequestId.first
  /-- The requests inside the device and in the hands of clients. -/
  outside : List Request := []
  nextPromise : Nat := 0
  /-- The results that promises keep until they are asked for. -/
  kept : List (Nat × Except Error Payload) := []
  /-- Whether the owner still holds the storage. -/
  owned : Bool := true
  stack : List Task := []
  deriving DecidableEq

namespace Storage

/-- A fresh storage over a device with these capabilities. -/
def create (capabilities : Capabilities) (limits : Limits := {}) (allocator : Allocator := {}) :
    Storage where
  capabilities
  limits
  allocator
  emitter := { capacity := limits.listenerCapacity }

/-- A fresh storage, unless its limits make no sense. -/
def build (capabilities : Capabilities) (limits : Limits) (allocator : Allocator) :
    Except Error Storage :=
  limits.validate.map fun _ => create capabilities limits allocator

/-- A device that can open for reading only is opened so. -/
def prefersReadOnly (s : Storage) : Bool :=
  s.capabilities.openReadOnly

/-- Nothing more can be done with the storage. -/
def isDestroyed (s : Storage) : Bool :=
  s.ready = .destroyed

/-- Somebody holds the storage: its owner, or an operation that is still going on. -/
def isAlive (s : Storage) : Bool :=
  s.owned || !s.stack.isEmpty

/-- Puts tasks on top of the stack, the first one topmost. -/
def push (s : Storage) (tasks : List Task) : Storage :=
  { s with stack := tasks ++ s.stack }

/-- Ends a call. -/
def reply (s : Storage) (r : Reply) : Storage :=
  s.push [.answer r]

@[simp] theorem stack_push (s : Storage) (tasks : List Task) :
    (s.push tasks).stack = tasks ++ s.stack :=
  rfl

@[simp] theorem stack_reply (s : Storage) (r : Reply) :
    (s.reply r).stack = .answer r :: s.stack :=
  rfl

/-- Hands the leases of a request back; the request is no more. -/
def discard (s : Storage) (r : Request) : Storage :=
  { s with allocator := s.allocator.releaseAll r.leases }

/-- Lets go of a request without finishing it.  A request inside the device is finished with
`Error.abandoned`; any other is simply no more. -/
def letGo (s : Storage) (r : Request) : Storage :=
  if r.phase = .running then s.push [.pipeline r (.record (.error .abandoned))] else s.discard r

/-- Keeps a result for whoever polls the promise. -/
def keep (s : Storage) (promise : Nat) (result : Except Error Payload) : Storage :=
  { s with kept := s.kept ++ [(promise, result)] }

/-- The request with this number that is outside. -/
def find? (s : Storage) (id : RequestId) : Option Request :=
  s.outside.find? (·.id = id)

/-- Takes the request with this number back from outside. -/
def take (s : Storage) (id : RequestId) : Storage :=
  { s with outside := s.outside.filter (·.id ≠ id) }

/-- Hands a request out. -/
def handOut (s : Storage) (r : Request) : Storage :=
  { s with outside := s.outside ++ [r] }

/-- The diagnostic text of a storage. -/
def describe (s : Storage) : String :=
  Text.record "Storage" [
    ("ready", s.ready.label),
    ("needs_open", Text.flag s.needsOpen),
    ("pending", toString s.pending),
    ("queued", toString s.queue.length),
    ("capabilities", s.capabilities.describe)] true

end Storage

end StorageEngine
