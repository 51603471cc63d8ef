import StorageEngine.Proofs.Turn

/-!
# The passage of a request

A request that runs is *launched*: it is counted and prepared, and then it goes to a handler of the
device, or it has come to its result already.  Once it has a result, it is *wrapped up*: the stages
of the completion pipeline follow one another until it is no more.  Both take several steps, because
client code is called in between.  If that code calls nothing in turn, it is as if each were done in
one: `Storage.launch` and `Storage.wrapUp` say what comes out, and `Storage.audience` which client
code is called on the way, in order.

* `run_eq_launch` — running a request launches it;
* `launch_staged`, `wrapUp_frame` — what is still to be done, what is outside and what waits play
  no part in either, but that a failed opening leaves its mark on what waits;
* `launch_cases`, `wrapUp_eq` — what changes.
-/

namespace StorageEngine

namespace Request

/-- The sizes of the blocks that a finished request gives back, in order. -/
def returned (r : Request) : List Nat :=
  match r.kind with
  | .read | .write | .stat => r.buffer.toList ++ [recordSize]
  | _ => r.leases

/-- A destruction that comes to a success. -/
def Razes (r : Request) : Prop :=
  r.kind = .destroying ∧ r.error = none

instance (r : Request) : Decidable r.Razes :=
  inferInstanceAs (Decidable (_ ∧ _))

/-- The observer that hears of the end of a request, if there is one. -/
def observation (r : Request) : List Invocation :=
  match r.observer with
  | some o => [.hook o.code (r.outcome o.shared)]
  | none => []

/-- The caller that hears of it, if there is one. -/
def notification (r : Request) : List Invocation :=
  match r.receiver with
  | some (.call code) => [.done code r.result]
  | _ => []

end Request

namespace Storage

/-- The storage with these tasks still to be done, being drained or not, with these requests outside
and waiting. -/
def staged (s : Storage) (stack : List Task) (draining : Bool) (outside queue : List Request) :
    Storage :=
  { s with stack, draining, outside, queue }

/-- What comes of running a request: the request as it leaves, where it goes, and the storage. -/
structure Launch where
  request : Request
  route : Route
  storage : Storage

/-- Counts a request that runs, prepares it and finds its way. -/
def launch (s : Storage) (r : Request) : Launch :=
  match r.error with
  | some e => ⟨r.started, .finished (.error e), s.count r⟩
  | none =>
    match (s.count r).prepare r.started with
    | (none, s) => ⟨r.started, .finished (.error .fault), s⟩
    | (some r, s) =>
      match { s with last := some r.info }.route r.kind with
      | (.finished result, s) => ⟨r, .finished result, s⟩
      | (.handler h, s) =>
        if s.attached then ⟨r, .handler h, s⟩ else ⟨r, .finished (.error .fault), s⟩

/-- The announcement of the end of a request, if there is one. -/
def announcement (s : Storage) (r : Request) : Option Notice :=
  if s.isDestroyed then none else r.notice?

/-- The listeners when the end of a request has been announced. -/
def informed (s : Storage) (r : Request) : Emitter :=
  match s.announcement r with
  | some notice => (s.emitter.begin notice).2.purge
  | none => s.emitter

/-- The listeners that hear of the end of a request, in order. -/
def hearers (s : Storage) (r : Request) : List Invocation :=
  match s.announcement r with
  | some notice => (s.emitter.begin notice).1.waiting.map (.listener ·.callback notice)
  | none => []

/-- The client code that is called while a request is wrapped up, in order: listeners, observer and
caller. -/
def audience (s : Storage) (r : Request) : List Invocation :=
  s.hearers r ++ r.observation ++ r.notification

/-- The results that promises keep when a request has come to its end. -/
def keptAfter (s : Storage) (r : Request) : List (Nat × Except Error Payload) :=
  match r.receiver with
  | some (.promise number) => s.kept ++ [(number, r.result)]
  | _ => s.kept

/-- The storage when the state has moved on for a finished request. -/
def movedOn (s : Storage) (r : Request) (dispatched : Bool) : Storage :=
  ({ s with emitter := s.informed r }.transition r).uncount r dispatched

/-- The storage when a request is no more that came to a result. -/
def wrapUp (s : Storage) (r : Request) (result : Except Error Nat) : Storage :=
  let r' := r.recorded result
  let s := s.movedOn r' (r.phase = .running)
  { s with
    kept := s.keptAfter r'
    emitter := if r'.Razes then s.emitter.clear else s.emitter
    attached := s.attached && !decide r'.Razes
    allocator := s.allocator.releaseAll r'.returned }

/-- Running a request launches it. -/
theorem run_eq_launch (s : Storage) (r : Request) :
    s.run r = match (s.launch r).route with
      | .finished result => (s.launch r).storage.finish (s.launch r).request result
      | .handler h => ((s.launch r).storage.handOut (s.launch r).request).push
          [.client (.handler h (s.launch r).request.id)] := by
  unfold launch
  cases error : r.error with
  | some e => exact run_of_error error
  | none =>
    cases prepared : (s.count r).prepare r.started with
    | mk r' s' =>
      cases r' with
      | none => exact run_of_refused error prepared
      | some r' =>
        rw [run_of_prepared error prepared]
        unfold dispatch
        dsimp only
        cases routed : ({ s' with last := some r'.info } : Storage).route r'.kind with
        | mk route s'' =>
          cases route with
          | finished result => rfl
          | handler h =>
            dsimp only
            split <;> rfl

/-- Recording a result announces it first, if there is anything to announce. -/
theorem recordResult_eq (s : Storage) (r : Request) (result : Except Error Nat) :
    s.recordResult r result = match s.announcement (r.recorded result) with
      | none => s.push [.pipeline (r.recorded result) (.settle (r.phase = Phase.running))]
      | some notice => { s with emitter := (s.emitter.begin notice).2 }.push
          [.deliver (s.emitter.begin notice).1,
            .pipeline (r.recorded result) (.settle (r.phase = Phase.running))] := by
  unfold announcement isDestroyed
  cases result with
  | ok size | error e =>
    unfold recordResult
    dsimp only [Request.recorded]
    split
    case h_1 silent => by_cases dead : s.ready = .destroyed <;> simp [dead, silent, push]
    case h_2 notice loud =>
      by_cases dead : s.ready = .destroyed <;> simp [dead, loud, push, isDestroyed]

/-- A request that does not end the storage gives its buffers back now and its record when it is
freed. -/
theorem release_of_not_razes (s : Storage) {r : Request} (idle : Bool) (ordinary : ¬ r.Razes) :
    ∃ r' a, s.release r idle = { s with allocator := a }.push [.pipeline r' (.free idle)] ∧
      a.releaseAll r'.leases = s.allocator.releaseAll r.returned := by
  cases kind : r.kind with
  | read | write | stat =>
    refine ⟨r.emptied, s.allocator.releaseAll r.buffer.toList, ?_, ?_⟩
    · simp only [release, kind, Request.emptied]
    · simp only [Request.returned, kind, Allocator.releaseAll, List.foldl_append]
      rfl
  | delete | opening | closing | nothing =>
    exact ⟨r, s.allocator, by simp only [release, kind], by simp only [Request.returned, kind]⟩
  | destroying =>
    have failed : r.error ≠ none := fun none => ordinary ⟨kind, none⟩
    exact ⟨r, s.allocator, by simp [release, kind, failed], by simp only [Request.returned, kind]⟩

section Launch

variable (s : Storage) (r : Request) (stack : List Task) (draining : Bool)
  (outside queue : List Request)

/-- Routing a request changes no more than whether an opening is asked for. -/
theorem route_eq (kind : Kind) :
    s.route kind =
      ((s.destination kind).1, { s with needsOpen := (s.destination kind).2 }) := by
  obtain ⟨h, n, routed, -⟩ | ⟨result, n, routed, -⟩ := s.route_cases kind <;>
    simp [destination, routed]

theorem prepare_staged : (s.staged stack draining outside queue).prepare r =
    ((s.prepare r).1, (s.prepare r).2.staged stack draining outside queue) := by
  unfold prepare leaseBuffer staged
  cases r.kind <;> dsimp only
  case read =>
    cases s.allocator.allocate r.size with
    | mk granted a => cases granted <;> rfl
  case stat =>
    cases s.allocator.allocate Request.statsSize with
    | mk granted a => cases granted <;> rfl

theorem route_staged (kind : Kind) : (s.staged stack draining outside queue).route kind =
    ((s.route kind).1, (s.route kind).2.staged stack draining outside queue) := by
  have same : (s.staged stack draining outside queue).destination kind = s.destination kind := by
    apply destination_congr <;> rfl
  rw [route_eq, route_eq, same]
  rfl

/-- Launching a request neither looks at what stands around it nor changes it. -/
theorem launch_staged : (s.staged stack draining outside queue).launch r =
    { s.launch r with storage := (s.launch r).storage.staged stack draining outside queue } := by
  have counted : (s.staged stack draining outside queue).count r =
    (s.count r).staged stack draining outside queue := rfl
  unfold launch
  cases r.error with
  | some e => rfl
  | none =>
    dsimp only
    rw [counted, prepare_staged]
    cases (s.count r).prepare r.started with
    | mk r' s' =>
      cases r' with
      | none => rfl
      | some r' =>
        have recorded : ({ s'.staged stack draining outside queue with
            last := some r'.info } : Storage) =
          ({ s' with last := some r'.info } : Storage).staged stack draining outside queue := rfl
        dsimp only
        rw [recorded, route_staged]
        cases ({ s' with last := some r'.info } : Storage).route r'.kind with
        | mk route s'' =>
          cases route with
          | finished result => rfl
          | handler h =>
            have attached : (s''.staged stack draining outside queue).attached = s''.attached := rfl
            dsimp only
            rw [attached]
            split <;> rfl

/-- Launching a request counts it, and changes nothing else that matters to others. -/
theorem launch_cases : ∃ a last n,
    (s.launch r).storage = { s.count r with allocator := a, last := last, needsOpen := n } ∧
      r.Follows (s.launch r).request ∧ (s.launch r).request.phase = .running := by
  have started : r.Follows r.started := ⟨rfl, rfl, rfl, rfl⟩
  unfold launch
  cases r.error with
  | some e => exact ⟨s.allocator, s.last, s.needsOpen, rfl, started, rfl⟩
  | none =>
    obtain ⟨a, refused, -⟩ | ⟨a, r', prepared, later, phase, -⟩ :=
      (s.count r).prepare_cases r.started
    · rw [refused]
      exact ⟨a, s.last, s.needsOpen, rfl, started, rfl⟩
    rw [prepared]
    have follows : r.Follows r' := ⟨later.id, later.kind, later.receiver, later.observer⟩
    dsimp only
    rw [route_eq]
    split
    case h_1 routed =>
      obtain ⟨-, rfl⟩ := Prod.mk.inj routed
      exact ⟨a, _, _, rfl, follows, phase⟩
    case h_2 routed =>
      obtain ⟨-, rfl⟩ := Prod.mk.inj routed
      split <;> exact ⟨a, _, _, rfl, follows, phase⟩

end Launch

section WrapUp

variable (s : Storage) (r : Request) (result : Except Error Nat)

/-- How the state moves on depends on what it is, and on nothing around it. -/
theorem transition_frame (stack : List Task) (draining : Bool) (outside queue : List Request)
    (nextId : RequestId) (allocator : Allocator) (emitter : Emitter) :
    ({ s with stack, draining, outside, queue, nextId, allocator, emitter } : Storage).transition r =
      { s.transition r with
        stack, draining, outside, nextId, allocator, emitter
        queue := queue.map r.fallout } := by
  have unmarked : queue.map (fun other => other) = queue := List.map_id _
  unfold transition Request.fallout
  cases r.error <;> cases r.kind <;> simp only [unmarked] <;> (try split) <;> rfl

/-- The end of a request moves the state on, and leaves a mark on what waits if it was an opening
that failed. -/
theorem wrapUp_eq : s.wrapUp r result = { s with
    ready := (s.transition (r.recorded result)).ready
    needsOpen := (s.transition (r.recorded result)).needsOpen
    openError := (s.transition (r.recorded result)).openError
    queue := s.queue.map (r.recorded result).fallout
    pending := if r.phase = .running then s.pending - 1 else s.pending
    barrier := if r.phase = .running then s.barrier && !r.kind.isBarrier else s.barrier
    kept := s.keptAfter (r.recorded result)
    emitter := if (r.recorded result).Razes then (s.informed (r.recorded result)).clear
      else s.informed (r.recorded result)
    attached := s.attached && !decide (r.recorded result).Razes
    allocator := s.allocator.releaseAll (r.recorded result).returned } := by
  have announced (emitter : Emitter) : { s with emitter }.transition (r.recorded result) =
      { s with emitter
               ready := (s.transition (r.recorded result)).ready
               needsOpen := (s.transition (r.recorded result)).needsOpen
               openError := (s.transition (r.recorded result)).openError
               queue := s.queue.map (r.recorded result).fallout } := by
    rw [transition_frame s (r.recorded result) s.stack s.draining s.outside s.queue s.nextId
      s.allocator emitter, transition_eq]
  have moved : s.movedOn (r.recorded result) (r.phase = .running) = { s with
      ready := (s.transition (r.recorded result)).ready
      needsOpen := (s.transition (r.recorded result)).needsOpen
      openError := (s.transition (r.recorded result)).openError
      queue := s.queue.map (r.recorded result).fallout
      pending := if r.phase = .running then s.pending - 1 else s.pending
      barrier := if r.phase = .running then s.barrier && !r.kind.isBarrier else s.barrier
      emitter := s.informed (r.recorded result) } := by
    unfold movedOn uncount
    rw [announced]
    by_cases running : r.phase = .running <;> simp [running]
  unfold wrapUp
  dsimp only
  rw [moved]
  rfl

section Around

variable (stack : List Task) (draining : Bool) (outside queue : List Request)

/-- Wrapping a request up leaves a mark on what waits; what else stands around it, numbers and
blocks included, plays no part. -/
theorem wrapUp_frame (nextId : RequestId) (allocator : Allocator) :
    ({ s with stack, draining, outside, queue, nextId, allocator } : Storage).wrapUp r result =
      { s.wrapUp r result with
        stack, draining, outside, nextId
        queue := queue.map (r.recorded result).fallout
        allocator := allocator.releaseAll (r.recorded result).returned } := by
  rw [wrapUp_eq, wrapUp_eq, transition_frame s _ stack draining outside queue nextId allocator
    s.emitter]
  rfl

theorem transition_staged : (s.staged stack draining outside queue).transition r =
    (s.transition r).staged stack draining outside (queue.map r.fallout) := by
  have framed := transition_frame s r stack draining outside queue s.nextId s.allocator s.emitter
  rw [transition_eq s] at framed ⊢
  exact framed

end Around

end WrapUp

end Storage

end StorageEngine
