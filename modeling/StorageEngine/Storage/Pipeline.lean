import StorageEngine.Storage.Admission

/-!
# The completion pipeline

A finished request goes through the same stages in the same order, once: its result is recorded,
the end of a lifecycle request is announced, the storage's state moves on, the observer and then
the caller are told, buffers are given back, and the request is freed.  If nothing was left inside
the device when the state had moved on, the queue is drained after all that.

The announcement comes before the state moves on, so a listener still sees the old state; observer
and caller see the new one.
-/

namespace StorageEngine.Storage

/-- Records the result and announces the end of a lifecycle request, unless the storage is
destroyed.  A success keeps an error that the request already has. -/
def recordResult (s : Storage) (r : Request) (result : Except Error Nat) : Storage :=
  let dispatched : Bool := r.phase = .running
  let r := { r with phase := .completed }
  let r := match result with
    | .ok size => { r with size }
    | .error e => { r with error := some e }
  let s := s.push [.pipeline r (.settle dispatched)]
  match r.notice? with
  | none => s
  | some notice =>
    if s.isDestroyed then s
    else
      let (delivery, emitter) := s.emitter.begin notice
      { s with emitter }.push [.deliver delivery]

/-- What a finished request does to the state.  A failed opening marks everything queued with its
error and asks for another opening. -/
def transition (s : Storage) (r : Request) : Storage :=
  match r.error, r.kind with
  | some e, .opening =>
    { s with queue := s.queue.map (·.poison e), needsOpen := true, openError := some e }
  | some _, _ => s
  | none, .opening =>
    if s.ready = .destroyed then s else { s with ready := .opened, openError := none }
  | none, .closing => if s.ready = .opened then { s with ready := .closed } else s
  | none, .destroying => { s with ready := .destroyed }
  | none, _ => s

/-- Takes a request that was dispatched out of the count of those inside the device. -/
def uncount (s : Storage) (r : Request) (dispatched : Bool) : Storage :=
  if dispatched then
    { s with pending := s.pending - 1, barrier := s.barrier && !r.kind.isBarrier }
  else s

/-- Moves the state on. -/
def settle (s : Storage) (r : Request) (dispatched : Bool) : Storage :=
  let s := (s.transition r).uncount r dispatched
  s.push [.pipeline r (.observe (s.pending = 0))]

/-- Tells the observer. -/
def observe (s : Storage) (r : Request) (idle : Bool) : Storage :=
  match r.observer with
  | none => s.push [.pipeline r (.conclude idle)]
  | some o =>
    s.push [.client (.hook o.code (r.outcome o.shared)),
      .pipeline { r with observer := none } (.conclude idle)]

/-- Tells the receiver. -/
def tell (s : Storage) (receiver : Receiver) (result : Except Error Payload) : Storage :=
  match receiver with
  | .call code => s.push [.client (.done code result)]
  | .promise number => s.keep number result

/-- Tells the caller. -/
def conclude (s : Storage) (r : Request) (idle : Bool) : Storage :=
  match r.receiver with
  | none => s.push [.pipeline r (.release idle)]
  | some receiver =>
    (s.push [.pipeline { r with receiver := none } (.release idle)]).tell receiver r.result

/-- Gives the buffers of a read, write or stat back; after a destruction that succeeded, clears the
storage out. -/
def release (s : Storage) (r : Request) (idle : Bool) : Storage :=
  match r.kind with
  | .read | .write | .stat =>
    { s with allocator := s.allocator.releaseAll r.buffer.toList }.push
      [.pipeline { r with data := [], stats := none, buffer := none } (.free idle)]
  | .destroying =>
    if r.error = none ∧ s.isDestroyed then
      { s with queue := [] }.push [.teardown s.queue, .pipeline r (.free idle)]
    else s.push [.pipeline r (.free idle)]
  | _ => s.push [.pipeline r (.free idle)]

/-- Frees the request, and drains the queue if nothing was left inside the device. -/
def free (s : Storage) (r : Request) (idle : Bool) : Storage :=
  let s := s.discard r
  if idle then s.push [.drain] else s

/-- The next stage of a finished request. -/
def advance (s : Storage) (r : Request) : Stage → Storage
  | .record result => s.recordResult r result
  | .settle dispatched => s.settle r dispatched
  | .observe idle => s.observe r idle
  | .conclude idle => s.conclude r idle
  | .release idle => s.release r idle
  | .free idle => s.free r idle

/-- Calls the next listener of an announcement, or ends it. -/
def deliver (s : Storage) (d : Delivery) : Storage :=
  match d.waiting with
  | [] => { s with emitter := s.emitter.purge }
  | l :: waiting =>
    s.push [.client (.listener l.callback d.notice), .deliver { d with waiting }]

/-- Fails the next request that was queued behind a destruction; after the last one, lets go of the
listeners and the device. -/
def teardown (s : Storage) (orphans : List Request) : Storage :=
  match orphans with
  | [] => { s with emitter := s.emitter.clear, attached := false }
  | r :: rest => s.push [.pipeline r (.record (.error .fault)), .teardown rest]

end StorageEngine.Storage
