import StorageEngine.Storage

/-!
# Admission

How requests come to run.  A barrier is queued, and the queue is drained.  A data request first
makes sure that an opening is under way where one is needed, then runs at once if no barrier is
inside the device and nothing is queued, and waits in the queue otherwise.

Draining takes requests from the head of the queue and runs them.  It stops when a barrier is
inside the device, and before a barrier while data requests are still there.

Running a request gives it to the device, unless it can be finished on the spot: it shares the fate
of a failed opening, its buffer is refused, the storage is not open, or there is nothing to do.
-/

namespace StorageEngine.Storage

/-- Makes the request of an order.  The record is leased first, then the payload's buffer; a
refused buffer gives the record back.  The number is taken last. -/
def make (s : Storage) (o : Order) : Option Request × Storage :=
  match s.allocator.allocate Request.recordSize with
  | (false, a) => (none, { s with allocator := a })
  | (true, a) =>
    let r : Request := {
      id := s.nextId
      kind := o.kind
      offset := o.offset
      size := o.size
      receiver := o.receiver
      observer := o.observer }
    match o.payload with
    | none => (some r, { s with allocator := a, nextId := s.nextId + 1 })
    | some bytes =>
      match a.allocate bytes.length with
      | (false, a) => (none, { s with allocator := a.release Request.recordSize })
      | (true, a) =>
        (some { r with data := bytes, buffer := some bytes.length },
         { s with allocator := a, nextId := s.nextId + 1 })

/-- Appends a request to the queue.  A destroyed storage refuses before a full queue does. -/
def enqueue (s : Storage) (r : Request) : Except Error Storage :=
  if s.isDestroyed then .error .fault
  else if s.limits.queueCapacity ≤ s.queue.length then
    .error (.capacityExceeded "admission queue" s.limits.queueCapacity)
  else .ok { s with queue := s.queue ++ [{ r with phase := .queued }] }

/-- Queues a barrier and drains. -/
def admitBarrier (s : Storage) (r : Request) : Storage :=
  match s.enqueue r with
  | .ok s => s.push [.drain, .answer (.done (.ok ()))]
  | .error e => (s.discard r).reply (.done (.error e))

/-- Admits a data request.  If the storage was never opened, or its last opening failed, an opening
goes first. -/
def admitData (s : Storage) (r : Request) : Storage :=
  if s.needsOpen ∧ s.ready ≠ .opened then
    s.push [.submit { kind := .opening }, .awaitOpening r]
  else s.push [.enter r]

/-- Makes the request of an order and admits it. -/
def submit (s : Storage) (o : Order) : Storage :=
  if s.isDestroyed then s.reply (.done (.error .fault))
  else if o.kind.isData && !s.capabilities.supports o.kind then
    s.reply (.done (.error (.unsupported o.kind)))
  else
    match s.make o with
    | (none, s) => s.reply (.done (.error .fault))
    | (some r, s) => if o.kind.isBarrier then s.admitBarrier r else s.admitData r

/-- Goes on with a data request once the opening before it has been admitted.  An opening that has
already failed in place owes its error to the request. -/
def afterOpening (s : Storage) (r : Request) (opening : Except Error Unit) : Storage :=
  match opening with
  | .error e => (s.discard r).reply (.done (.error e))
  | .ok () =>
    if !s.barrier ∧ s.queue = [] ∧ s.ready ≠ .opened then
      match s.openError with
      | some e => s.push [.enter (r.poison e)]
      | none => s.push [.enter r]
    else s.push [.enter r]

/-- Runs a data request, or lets it wait behind a barrier or the queue. -/
def enter (s : Storage) (r : Request) : Storage :=
  if s.barrier ∨ s.queue ≠ [] then
    match s.enqueue r with
    | .ok s => s.reply (.done (.ok ()))
    | .error e => (s.discard r).reply (.done (.error e))
  else s.push [.run r, .answer (.done (.ok ()))]

/-- Drains the queue, unless that is already going on. -/
def drain (s : Storage) : Storage :=
  if s.draining then s else { s with draining := true }.push [.drainNext]

/-- The request that draining starts next, with the rest of the queue. -/
def startable? (s : Storage) : Option (Request × List Request) :=
  if s.isDestroyed ∨ s.barrier then none
  else
    match s.queue with
    | [] => none
    | r :: rest => if r.kind.isBarrier ∧ 0 < s.pending then none else some (r, rest)

/-- One turn of draining. -/
def drainNext (s : Storage) : Storage :=
  match s.startable? with
  | none => { s with draining := false }
  | some (r, rest) => { s with queue := rest }.push [.run r, .drainNext]

/-- Leases a buffer for a request that runs; an older buffer is given back. -/
def leaseBuffer (s : Storage) (r : Request) (size : Nat) : Option Request × Storage :=
  match s.allocator.allocate size with
  | (false, a) => (none, { s with allocator := a })
  | (true, a) =>
    (some { r with buffer := some size }, { s with allocator := a.releaseAll r.buffer.toList })

/-- Prepares the buffer that a request needs inside the device: zero bytes for a read, an empty
record for a stat. -/
def prepare (s : Storage) (r : Request) : Option Request × Storage :=
  match r.kind with
  | .read =>
    match s.leaseBuffer r r.size with
    | (some r, s) => (some { r with data := Bytes.zeros r.size }, s)
    | refused => refused
  | .stat =>
    match s.leaseBuffer r Request.statsSize with
    | (some r, s) => (some { r with stats := some {}, size := Request.statsSize }, s)
    | refused => refused
  | _ => (some r, s)

/-- Where a request goes: to a handler, or straight to its result. -/
inductive Route
  | handler (h : Handler)
  | finished (result : Except Error Nat)
  deriving DecidableEq

/-- Where a request of this kind goes now.  Routing an opening to the device, or to a success
without one, settles that no further opening is needed. -/
def route (s : Storage) (kind : Kind) : Route × Storage :=
  match kind with
  | .read | .write | .delete | .stat =>
    if s.ready ≠ .opened then (.finished (.error .notReady), s)
    else if !s.capabilities.supports kind then (.finished (.error (.unsupported kind)), s)
    else (.handler kind.dataHandler, s)
  | .opening =>
    if s.ready = .opened ∧ !s.needsOpen then (.finished (.ok 0), s)
    else
      let s := { s with needsOpen := false }
      if s.prefersReadOnly then (.handler .openReadOnly, s)
      else if s.capabilities.openReadWrite then (.handler .openReadWrite, s)
      else (.finished (.ok 0), s)
  | .closing =>
    if s.ready = .opened ∧ s.capabilities.close then (.handler .close, s)
    else (.finished (.ok 0), s)
  | .destroying =>
    if s.ready ≠ .destroyed ∧ s.capabilities.destroy then (.handler .destroy, s)
    else (.finished (.ok 0), s)
  | .nothing => (.finished (.error (.unsupported .nothing)), s)

/-- Hands a finished request to the completion pipeline. -/
def finish (s : Storage) (r : Request) (result : Except Error Nat) : Storage :=
  s.push [.pipeline r (.record result)]

/-- Sends a prepared request to its destination. -/
def dispatch (s : Storage) (r : Request) : Storage :=
  match { s with last := some r.info }.route r.kind with
  | (.finished result, s) => s.finish r result
  | (.handler h, s) =>
    if s.attached then (s.handOut r).push [.client (.handler h r.id)]
    else s.finish r (.error .fault)

/-- Runs a request: it counts as inside the device until it settles. -/
def run (s : Storage) (r : Request) : Storage :=
  let s := { s with pending := s.pending + 1, barrier := s.barrier || r.kind.isBarrier }
  let r := { r with phase := .running }
  match r.error with
  | some e => s.finish r (.error e)
  | none =>
    match s.prepare r with
    | (none, s) => s.finish r (.error .fault)
    | (some r, s) => s.dispatch r

end StorageEngine.Storage
