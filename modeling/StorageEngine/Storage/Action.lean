import StorageEngine.Storage.Step

/-!
# What a client can do with a storage

A client makes its moves when it is its turn: with nothing on the stack, or from inside a callback
or a handler.  `Storage.act` makes one move.  Every move but leaving client code and collecting an
answer ends with an answer on the stack, at once or after some steps, which the client then
collects.

Handlers of the device are client code here: a device takes over a request when its handler is
called and finishes it by completing it, or drops it, from inside the handler or at any later time.
-/

namespace StorageEngine

/-- A change that the holder of a request makes to it. -/
inductive Edit
  /-- Replaces the buffer. -/
  | data (b : Bytes)
  /-- Overwrites one byte of the buffer, if it is there. -/
  | byte (position : Nat) (value : UInt8)
  /-- Fills in the stat record, if there is one. -/
  | stats (st : Stats)
  deriving DecidableEq

/-- The request after a change. -/
def Edit.apply (r : Request) : Edit → Request
  | .data b => { r with data := b }
  | .byte position value => { r with data := r.data.set position value }
  | .stats st => { r with stats := r.stats.map fun _ => st }

/-- A move of a client. -/
inductive Action
  /-- Asks for an operation. -/
  | call (op : Operation) (receiver : Option Receiver) (observer : Option Observer)
  /-- Asks for an operation whose result is kept. -/
  | promise (op : Operation)
  /-- Asks for a kept result. -/
  | poll (number : Nat)
  /-- Gives up on a promise. -/
  | forget (number : Nat)
  /-- Makes a request that nobody hears about. -/
  | makeRequest (kind : Kind) (offset size : Nat)
  /-- Puts a request that is outside at the end of the queue. -/
  | push (id : RequestId)
  /-- Tries to queue a request of another storage. -/
  | pushForeign
  /-- Takes the head of the queue. -/
  | shift
  /-- Finishes a request that is outside. -/
  | complete (id : RequestId) (v : Verdict)
  /-- Drops a request that is outside. -/
  | abandon (id : RequestId)
  /-- Changes a request that is outside. -/
  | edit (id : RequestId) (e : Edit)
  /-- Registers a listener through the storage. -/
  | listen (event : Event) (ttl : Ttl) (callback : Callback)
  /-- Registers a listener in the storage's table directly. -/
  | register (event : Event) (ttl : Ttl) (callback : Callback)
  | off (id : ListenerId)
  | offCallback (callback : Callback)
  | offEvent (event : Event)
  | clearListeners
  /-- Announces something in the storage's name. -/
  | announce (notice : Notice)
  /-- The owner lets go of the storage. -/
  | disown
  /-- Client code gives control back. -/
  | leave
  /-- Takes the answer of a call. -/
  | collect
  deriving DecidableEq

namespace Task

/-- The requests that a task holds. -/
def requests : Task → List Request
  | .awaitOpening r | .enter r | .run r | .pipeline r _ => [r]
  | .teardown orphans => orphans
  | _ => []

/-- Whether a task holds an order whose result the promise waits for. -/
def promises (number : Nat) : Task → Bool
  | .submit order | .awaitClosing order => order.receiver = some (.promise number)
  | _ => false

end Task

namespace Storage

/-- Every request of the storage. -/
def requests (s : Storage) : List Request :=
  s.queue ++ s.outside ++ s.stack.flatMap (·.requests)

/-- The storage is open and nothing stands in the way of saying so. -/
def isOpenSettled (s : Storage) : Bool :=
  s.ready = .opened && !s.needsOpen && !s.barrier && s.queue.isEmpty

/-- Starts an operation.  A plain opening of a storage that is settled open is answered at once; a
destruction closes first. -/
def call (s : Storage) (op : Operation) (receiver : Option Receiver)
    (observer : Option Observer) : Storage :=
  let order := op.order receiver observer
  match op with
  | .opening =>
    if observer = none ∧ s.isOpenSettled then
      let s := s.reply (.done (.ok ()))
      match receiver with
      | none => s
      | some receiver => s.tell receiver (.ok .unit)
    else s.push [.submit order]
  | .destroying => s.push [.submit { kind := .closing }, .awaitClosing order]
  | _ => s.push [.submit order]

/-- Starts an operation whose result is kept. -/
def callPromised (s : Storage) (op : Operation) : Storage :=
  let number := s.nextPromise
  ({ s with nextPromise := number + 1 }.push [.awaitCall number]).call op
    (some (.promise number)) none

/-- What a promise answers now.  It is pending while a request, or an order for one, will still
settle it; once there is none left, it has been abandoned. -/
def promised (s : Storage) (number : Nat) : Promised :=
  match s.kept.find? (·.1 = number) with
  | some (_, result) => .settled result
  | none =>
    if s.requests.any (·.carries number) || s.stack.any (·.promises number) then .pending
    else .settled (.error .abandoned)

/-- Gives up on a promise. -/
def forget (s : Storage) (number : Nat) : Storage :=
  { s with kept := s.kept.filter (·.1 ≠ number) }

/-- Makes a request that nobody hears about and hands it out.  A write carries zero bytes. -/
def makeRequest (s : Storage) (kind : Kind) (offset size : Nat) : Storage :=
  if s.isDestroyed then s.reply (.made (.error .fault))
  else
    let payload := if kind = .write then some (Bytes.zeros size) else none
    match s.make { kind, offset, size, payload } with
    | (none, s) => s.reply (.made (.error .fault))
    | (some r, s) => (s.handOut r).reply (.made (.ok r.id))

/-- Queues a request that is outside and drains.  The answer is the length of the queue right after
the request joined it; a refused request is let go of. -/
def pushRequest (s : Storage) (id : RequestId) : Storage :=
  match s.find? id with
  | none => s.reply (.length (.error .invalidArgument))
  | some r =>
    let s := s.take id
    match s.enqueue r with
    | .ok s => s.push [.drain, .answer (.length (.ok s.queue.length))]
    | .error e => (s.reply (.length (.error e))).letGo r

/-- Takes the head of the queue out; it is as new. -/
def shift (s : Storage) : Storage :=
  match s.queue with
  | [] => s.reply (.shifted none)
  | r :: rest =>
    ({ s with queue := rest }.handOut { r with phase := .created }).reply (.shifted (some r.id))

/-- Finishes a request that is outside.  A storage that nobody holds any more takes no notice. -/
def complete (s : Storage) (id : RequestId) (v : Verdict) : Storage :=
  match s.find? id with
  | none => s.reply .unit
  | some r =>
    let filled := r.fill v
    let s' := (s.take id).reply .unit
    if s.isAlive then s'.finish filled (filled.resultOf v) else s'.discard r

/-- Drops a request that is outside. -/
def abandon (s : Storage) (id : RequestId) : Storage :=
  match s.find? id with
  | none => s.reply .unit
  | some r =>
    let s' := (s.take id).reply .unit
    if s.isAlive then s'.letGo r else s'.discard r

/-- Changes a request that is outside. -/
def edit (s : Storage) (id : RequestId) (e : Edit) : Storage :=
  { s with outside := s.outside.map fun r : Request => if r.id = id then e.apply r else r }.reply .unit

/-- Registers a listener. -/
def register (s : Storage) (event : Event) (ttl : Ttl) (callback : Callback) : Storage :=
  match s.emitter.register event ttl callback with
  | .ok (id, emitter) => { s with emitter }.reply (.registered (.ok id))
  | .error e => s.reply (.registered (.error e))

/-- Registers a listener unless the storage is destroyed. -/
def listen (s : Storage) (event : Event) (ttl : Ttl) (callback : Callback) : Storage :=
  if s.isDestroyed then s.reply (.registered (.error .fault)) else s.register event ttl callback

/-- Replaces the listener table by a smaller one; the answer is how many listeners left. -/
def withdraw (s : Storage) (emitter : Emitter) : Storage :=
  { s with emitter }.reply (.count (s.emitter.size - emitter.size))

/-- Announces something; the answer is how many listeners were called. -/
def announce (s : Storage) (notice : Notice) : Storage :=
  let (delivery, emitter) := s.emitter.begin notice
  { s with emitter }.push [.deliver delivery, .answer (.count delivery.called)]

/-- Takes client code off the stack. -/
def leave (s : Storage) : Storage :=
  match s.stack with
  | .client _ :: rest => { s with stack := rest }
  | _ => s

/-- Takes an answer off the stack. -/
def collect (s : Storage) : Storage :=
  match s.stack with
  | .answer _ :: rest => { s with stack := rest }
  | _ => s

/-- Makes one move. -/
def act (s : Storage) : Action → Storage
  | .call op receiver observer => s.call op receiver observer
  | .promise op => s.callPromised op
  | .poll number => (s.forget number).reply (.promised (s.promised number))
  | .forget number => (s.forget number).reply .unit
  | .makeRequest kind offset size => s.makeRequest kind offset size
  | .push id => s.pushRequest id
  | .pushForeign => s.reply (.length (.error .invalidArgument))
  | .shift => s.shift
  | .complete id v => s.complete id v
  | .abandon id => s.abandon id
  | .edit id e => s.edit id e
  | .listen event ttl callback => s.listen event ttl callback
  | .register event ttl callback => s.register event ttl callback
  | .off id => { s with emitter := s.emitter.off id }.reply
      (.flag ((s.emitter.off id).size < s.emitter.size))
  | .offCallback callback => s.withdraw (s.emitter.offCallback callback)
  | .offEvent event => s.withdraw (s.emitter.offEvent event)
  | .clearListeners => { s with emitter := s.emitter.clear }.reply .unit
  | .announce notice => s.announce notice
  | .disown => { s with owned := false }.reply .unit
  | .leave => s.leave
  | .collect => s.collect

/-- The answer that is ready to be collected. -/
def answer? (s : Storage) : Option Reply :=
  match s.stack with
  | .answer reply :: _ => some reply
  | _ => none

end Storage

end StorageEngine
