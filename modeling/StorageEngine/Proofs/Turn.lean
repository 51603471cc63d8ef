import StorageEngine.Proofs.History

/-!
# The rules of a storage

The steps of a storage and the moves of its clients, written as rules: each constructor of `Turn`
and `Move` names one thing that can happen, under which conditions it happens, what it leaves in
the history and what the state is afterwards.  Values that no later argument depends on, such as the
allocator's counters, are left open.

This file proves:

* `turn_of_step`, `move_of_act` — the storage does nothing but what the rules say;
* `Run.invariant` — what every rule keeps holds along every run.  Every invariant below is proved
  against the rules, one case a rule.
-/

namespace StorageEngine

/-- The request that an order makes: its number, and the buffer that its payload fills. -/
def Order.request (o : Order) (id : RequestId) (data : Bytes) (buffer : Option Nat) : Request where
  id := id
  kind := o.kind
  offset := o.offset
  size := o.size
  data := data
  buffer := buffer
  receiver := o.receiver
  observer := o.observer

@[simp] theorem Order.request_phase (o : Order) (id : RequestId) (data : Bytes)
    (buffer : Option Nat) : (o.request id data buffer).phase = .created :=
  rfl

@[simp] theorem Order.request_receiver (o : Order) (id : RequestId) (data : Bytes)
    (buffer : Option Nat) : (o.request id data buffer).receiver = o.receiver :=
  rfl

@[simp] theorem Order.request_observer (o : Order) (id : RequestId) (data : Bytes)
    (buffer : Option Nat) : (o.request id data buffer).observer = o.observer :=
  rfl

section Operation

variable (op : Operation) (receiver : Option Receiver) (observer : Option Observer)

@[simp] theorem Operation.order_receiver : (op.order receiver observer).receiver = receiver := by
  cases op <;> rfl

@[simp] theorem Operation.order_observer : (op.order receiver observer).observer = observer := by
  cases op <;> rfl

end Operation

namespace Request

/-- The request once it has joined the queue. -/
def queued (r : Request) : Request :=
  { r with phase := .queued }

/-- The request once it runs. -/
def started (r : Request) : Request :=
  { r with phase := .running }

/-- The request with its result recorded.  A success keeps an error that is already there. -/
def recorded (r : Request) (result : Except Error Nat) : Request :=
  match result with
  | .ok size => { r with phase := .completed, size }
  | .error e => { r with phase := .completed, error := some e }

/-- The size of the buffer that a request has inside the device: a read and a stat get one there. -/
def buffered (r : Request) : Option Nat :=
  match r.kind with
  | .read => some r.size
  | .stat => some statsSize
  | _ => r.buffer

/-- The request without its buffers. -/
def emptied (r : Request) : Request :=
  { r with data := [], stats := none, buffer := none }

/-- What the end of a request does to one that is queued: a failed opening marks it. -/
def fallout (r other : Request) : Request :=
  match r.error, r.kind with
  | some e, .opening => other.poison e
  | _, _ => other

/-- The same request at a later point of its way, before its callers have heard of it. -/
structure Follows (r r' : Request) : Prop where
  id : r'.id = r.id
  kind : r'.kind = r.kind
  receiver : r'.receiver = r.receiver
  observer : r'.observer = r.observer

/-- The request with the buffer that it needs inside the device. -/
structure Equips (r r' : Request) : Prop where
  buffer : r'.buffer = r.buffered
  size : r.kind ≠ .stat → r'.size = r.size

theorem Follows.refl (r : Request) : Follows r r :=
  ⟨rfl, rfl, rfl, rfl⟩

theorem Follows.tag {r r' : Request} (h : Follows r r') : r'.tag = r.tag := by
  simp [Request.tag, h.id, h.kind]

section Fields

variable (r other : Request) (result : Except Error Nat)

@[simp] theorem queued_tag : r.queued.tag = r.tag :=
  rfl

@[simp] theorem poison_tag (e : Error) : (r.poison e).tag = r.tag :=
  rfl

@[simp] theorem queued_receiver : r.queued.receiver = r.receiver :=
  rfl

@[simp] theorem queued_observer : r.queued.observer = r.observer :=
  rfl

@[simp] theorem poison_receiver (e : Error) : (r.poison e).receiver = r.receiver :=
  rfl

@[simp] theorem poison_observer (e : Error) : (r.poison e).observer = r.observer :=
  rfl

@[simp] theorem recorded_tag : (r.recorded result).tag = r.tag := by
  cases result <;> rfl

@[simp] theorem recorded_kind : (r.recorded result).kind = r.kind := by
  cases result <;> rfl

@[simp] theorem recorded_id : (r.recorded result).id = r.id := by
  cases result <;> rfl

@[simp] theorem recorded_phase : (r.recorded result).phase = .completed := by
  cases result <;> rfl

@[simp] theorem recorded_stats : (r.recorded result).stats = r.stats := by
  cases result <;> rfl

@[simp] theorem recorded_error (e : Error) : (r.recorded (.error e)).error = some e :=
  rfl

@[simp] theorem recorded_receiver : (r.recorded result).receiver = r.receiver := by
  cases result <;> rfl

@[simp] theorem recorded_observer : (r.recorded result).observer = r.observer := by
  cases result <;> rfl

@[simp] theorem fill_tag (v : Verdict) : (r.fill v).tag = r.tag :=
  rfl

@[simp] theorem fill_id (v : Verdict) : (r.fill v).id = r.id :=
  rfl

@[simp] theorem fill_kind (v : Verdict) : (r.fill v).kind = r.kind :=
  rfl

@[simp] theorem fill_phase (v : Verdict) : (r.fill v).phase = r.phase :=
  rfl

@[simp] theorem fill_receiver (v : Verdict) : (r.fill v).receiver = r.receiver :=
  rfl

@[simp] theorem fill_observer (v : Verdict) : (r.fill v).observer = r.observer :=
  rfl

@[simp] theorem fallout_tag : (r.fallout other).tag = other.tag := by
  unfold fallout
  split <;> rfl

@[simp] theorem fallout_id : (r.fallout other).id = other.id :=
  congrArg Tag.id (r.fallout_tag other)

@[simp] theorem fallout_kind : (r.fallout other).kind = other.kind :=
  congrArg Tag.kind (r.fallout_tag other)

@[simp] theorem fallout_phase : (r.fallout other).phase = other.phase := by
  unfold fallout
  split <;> rfl

@[simp] theorem fallout_receiver : (r.fallout other).receiver = other.receiver := by
  unfold fallout
  split <;> rfl

@[simp] theorem fallout_observer : (r.fallout other).observer = other.observer := by
  unfold fallout
  split <;> rfl

end Fields

end Request

namespace Storage

/-- The queue takes another request. -/
structure HasRoom (s : Storage) : Prop where
  living : s.ready ≠ .destroyed
  room : s.queue.length < s.limits.queueCapacity

/-- Where a request of this kind goes, and whether an opening is asked for afterwards. -/
def destination (s : Storage) (kind : Kind) : Route × Bool :=
  ((s.route kind).1, (s.route kind).2.needsOpen)

/-- Where requests go depends on three fields. -/
theorem destination_congr {s s' : Storage} (ready : s'.ready = s.ready)
    (needsOpen : s'.needsOpen = s.needsOpen) (capabilities : s'.capabilities = s.capabilities)
    (kind : Kind) : s'.destination kind = s.destination kind := by
  cases kind <;>
    simp only [destination, route, prefersReadOnly, ready, needsOpen, capabilities] <;>
    (repeat' split) <;> simp_all

/-- A request that runs reaches the handler `h`. -/
structure Serves (s : Storage) (r : Request) (h : Handler) (needsOpen : Bool) : Prop where
  unmarked : r.error = none
  attached : s.attached = true
  routed : s.destination r.kind = (.handler h, needsOpen)

/-- A request that runs comes to a result without a handler. -/
inductive AnswersInPlace (s : Storage) (r : Request) : Except Error Nat → Bool → Prop
  /-- It is marked with an error. -/
  | marked {e : Error} (error : r.error = some e) : AnswersInPlace s r (.error e) s.needsOpen
  /-- Its buffer is refused. -/
  | refused (unmarked : r.error = none) (data : r.kind.isData) :
      AnswersInPlace s r (.error .fault) s.needsOpen
  /-- There is nothing for the device to do, or nothing that it can do. -/
  | routed {result : Except Error Nat} {needsOpen : Bool} (unmarked : r.error = none)
      (routed : s.destination r.kind = (.finished result, needsOpen)) :
      AnswersInPlace s r result needsOpen
  /-- The device has been let go of. -/
  | detached {h : Handler} {needsOpen : Bool} (unmarked : r.error = none)
      (detached : s.attached = false) (routed : s.destination r.kind = (.handler h, needsOpen)) :
      AnswersInPlace s r (.error .fault) needsOpen

/-- A data request is marked with the error of an opening that failed in place: it is handed over
at once. -/
structure Owes (s : Storage) (marked : Request) : Prop where
  free : s.barrier = false
  empty : s.queue = []
  shut : s.ready ≠ .opened
  error : marked.error = s.openError

theorem enqueue_eq_ok_iff {s s' : Storage} {r : Request} :
    s.enqueue r = .ok s' ↔ s.HasRoom ∧ s' = { s with queue := s.queue ++ [r.queued] } := by
  unfold enqueue isDestroyed
  split
  case isTrue dead =>
    simp only [reduceCtorEq, false_iff, not_and]
    intro room
    exact absurd (by simpa using dead) room.living
  case isFalse living =>
    split
    case isTrue full =>
      simp only [reduceCtorEq, false_iff, not_and]
      intro room
      exact absurd room.room (by omega)
    case isFalse room =>
      have hasRoom : s.HasRoom := ⟨by simpa using living, by omega⟩
      simp [hasRoom, Request.queued, eq_comm]

/-- Making the request of an order. -/
theorem make_cases (s : Storage) (o : Order) :
    (∃ a, s.make o = (none, { s with allocator := a })) ∨
    ∃ a data buffer, s.make o =
      (some (o.request s.nextId data buffer),
        { s with allocator := a, nextId := s.nextId + 1 }) ∧
      buffer = o.payload.map List.length := by
  unfold make
  split
  · exact .inl ⟨_, rfl⟩
  · split
    case h_1 payload => exact .inr ⟨_, _, _, rfl, by rw [payload]; rfl⟩
    case h_2 payload =>
      split
      · exact .inl ⟨_, rfl⟩
      · exact .inr ⟨_, _, _, rfl, by rw [payload]; rfl⟩

theorem leaseBuffer_cases (s : Storage) (r : Request) (size : Nat) :
    (∃ a, s.leaseBuffer r size = (none, { s with allocator := a })) ∨
    ∃ a, s.leaseBuffer r size =
      (some { r with buffer := some size }, { s with allocator := a }) := by
  unfold leaseBuffer
  split
  · exact .inl ⟨_, rfl⟩
  · exact .inr ⟨_, rfl⟩

/-- Preparing a request that runs.  A stat that is not refused gets its record. -/
theorem prepare_cases (s : Storage) (r : Request) :
    (∃ a, s.prepare r = (none, { s with allocator := a }) ∧ r.kind.isData) ∨
    ∃ a r', s.prepare r = (some r', { s with allocator := a }) ∧ r.Follows r' ∧
      r'.phase = r.phase ∧ r'.error = r.error ∧ (r'.kind = .stat → r'.stats.isSome) ∧
      r.Equips r' := by
  unfold prepare
  split
  case h_1 isRead =>
    obtain ⟨a, refused⟩ | ⟨a, granted⟩ := s.leaseBuffer_cases r r.size
    · exact .inl ⟨a, by simp only [refused], by rw [isRead]; rfl⟩
    · refine .inr ⟨a, { r with buffer := some r.size, data := Bytes.zeros r.size },
        by simp only [granted], ⟨rfl, rfl, rfl, rfl⟩, rfl, rfl, by simp [isRead],
        ⟨by rw [Request.buffered, isRead], fun _ => rfl⟩⟩
  case h_2 isStat =>
    obtain ⟨a, refused⟩ | ⟨a, granted⟩ := s.leaseBuffer_cases r Request.statsSize
    · exact .inl ⟨a, by simp only [refused], by rw [isStat]; rfl⟩
    · exact .inr ⟨a, { r with
        buffer := some Request.statsSize, stats := some {}, size := Request.statsSize },
        by simp only [granted], ⟨rfl, rfl, rfl, rfl⟩, rfl, rfl, fun _ => rfl,
        ⟨by rw [Request.buffered, isStat], fun notStat => absurd isStat notStat⟩⟩
  case h_3 notRead notStat =>
    exact .inr ⟨s.allocator, r, rfl, .refl r, rfl, rfl, fun isStat => absurd isStat notStat,
      ⟨by unfold Request.buffered; split <;> simp_all, fun _ => rfl⟩⟩

/-- Routing a request.  A stat is never answered in place with a success, and a request for nothing
reaches no handler. -/
theorem route_cases (s : Storage) (k : Kind) :
    (∃ h n, s.route k = (.handler h, { s with needsOpen := n }) ∧ k ≠ .nothing) ∨
    ∃ result n, s.route k = (.finished result, { s with needsOpen := n }) ∧
      (k = .stat → ∀ n, result ≠ .ok n) := by
  cases k <;> simp only [route] <;> (repeat' split) <;>
    first
    | exact .inl ⟨_, _, rfl, by simp⟩
    | exact .inr ⟨_, _, rfl, by simp⟩

/-- Sending a prepared request to its destination. -/
theorem dispatch_cases (s : Storage) (r : Request) :
    (∃ h n, s.dispatch r = { s with
      last := some r.info, needsOpen := n, outside := s.outside ++ [r]
      stack := .client (.handler h r.id) :: s.stack } ∧ r.kind ≠ .nothing ∧
      s.attached = true ∧ s.destination r.kind = (.handler h, n)) ∨
    ∃ result n, s.dispatch r = { s with
      last := some r.info, needsOpen := n, stack := .pipeline r (.record result) :: s.stack } ∧
      (r.kind = .stat → ∀ n, result ≠ .ok n) ∧
      (s.destination r.kind = (.finished result, n) ∨
        s.attached = false ∧ result = .error .fault ∧
          ∃ h, s.destination r.kind = (.handler h, n)) := by
  have same : ({ s with last := some r.info } : Storage).destination r.kind =
      s.destination r.kind := by
    apply destination_congr <;> rfl
  unfold dispatch
  obtain ⟨h, n, routed, something⟩ | ⟨result, n, routed, noStat⟩ :=
    route_cases { s with last := some r.info } r.kind
  · have sent : s.destination r.kind = (.handler h, n) := by rw [← same, destination, routed]
    rw [routed]
    dsimp only
    split
    case isTrue attached => exact .inl ⟨h, n, rfl, something, attached, sent⟩
    case isFalse detached =>
      exact .inr ⟨.error .fault, n, rfl, by simp, .inr ⟨by simpa using detached, rfl, h, sent⟩⟩
  · have sent : s.destination r.kind = (.finished result, n) := by rw [← same, destination, routed]
    rw [routed]
    exact .inr ⟨result, n, rfl, noStat, .inl sent⟩

/-- A request that runs is counted as inside the device. -/
def count (s : Storage) (r : Request) : Storage :=
  { s with pending := s.pending + 1, barrier := s.barrier || r.kind.isBarrier }

/-- A request that is marked with an error is finished at once. -/
theorem run_of_error {s : Storage} {r : Request} {e : Error} (error : r.error = some e) :
    s.run r = (s.count r).finish r.started (.error e) := by
  simp only [run, count, Request.started, error]

/-- So is one that cannot be prepared. -/
theorem run_of_refused {s s' : Storage} {r : Request} (error : r.error = none)
    (refused : (s.count r).prepare r.started = (none, s')) :
    s.run r = s'.finish r.started (.error .fault) := by
  simp only [count, Request.started, error] at refused
  simp only [run, Request.started, error, refused]

theorem run_of_prepared {s s' : Storage} {r r' : Request} (error : r.error = none)
    (prepared : (s.count r).prepare r.started = (some r', s')) : s.run r = s'.dispatch r' := by
  simp only [count, Request.started, error] at prepared
  simp only [run, error, prepared]

/-- Running a request: it is counted and either finished without a handler or handed to one. -/
theorem run_cases (s : Storage) (r : Request) :
    ∃ r' a last n, r.Follows r' ∧ r'.phase = .running ∧ r'.error = r.error ∧
      ((∃ h, s.run r = { s.count r with
          allocator := a, last := last, needsOpen := n, outside := s.outside ++ [r']
          stack := .client (.handler h r.id) :: s.stack } ∧
          (r'.kind = .stat → r'.stats.isSome) ∧ r.kind ≠ .nothing ∧ s.Serves r h n ∧
          r.Equips r') ∨
       ∃ result, s.run r = { s.count r with
          allocator := a, last := last, needsOpen := n
          stack := .pipeline r' (.record result) :: s.stack } ∧
          (r.kind = .stat → ∀ n, result ≠ .ok n) ∧ s.AnswersInPlace r result n) := by
  have same : r.Follows r.started := ⟨rfl, rfl, rfl, rfl⟩
  cases error : r.error with
  | some e =>
    rw [run_of_error error]
    exact ⟨r.started, s.allocator, s.last, s.needsOpen, same, rfl, error,
      .inr ⟨.error e, rfl, by simp, .marked error⟩⟩
  | none =>
    obtain ⟨a, refused, data⟩ | ⟨a, r', prepared, later, phase, unmarked, stat, equips⟩ :=
      (s.count r).prepare_cases r.started
    · rw [run_of_refused error refused]
      exact ⟨r.started, a, s.last, s.needsOpen, same, rfl, error,
        .inr ⟨.error .fault, rfl, by simp, .refused error data⟩⟩
    rw [run_of_prepared error prepared]
    have follows : r.Follows r' := ⟨later.id, later.kind, later.receiver, later.observer⟩
    have unmarked : r'.error = none := unmarked.trans error
    have sent : ({ s.count r with allocator := a } : Storage).destination r'.kind =
        s.destination r.kind := by
      rw [follows.kind]
      apply destination_congr <;> rfl
    obtain ⟨h, n, ran, something, attached, routed⟩ | ⟨result, n, ran, noStat, routed⟩ :=
      dispatch_cases { s.count r with allocator := a } r'
    · refine ⟨r', a, some r'.info, n, follows, phase, unmarked,
        .inl ⟨h, ?_, stat, follows.kind ▸ something, ⟨error, attached, sent ▸ routed⟩,
          equips.buffer, equips.size⟩⟩
      rw [← follows.id]
      exact ran
    · refine ⟨r', a, some r'.info, n, follows, phase, unmarked,
        .inr ⟨result, ran, follows.kind ▸ noStat, ?_⟩⟩
      rw [sent] at routed
      obtain answered | ⟨detached, rfl, h, handled⟩ := routed
      · exact .routed error answered
      · exact .detached error detached handled

/-- A destruction that has succeeded clears the storage out. -/
theorem release_of_ended {s : Storage} {r : Request} (idle : Bool)
    (ended : r.kind = .destroying ∧ r.error = none ∧ s.ready = .destroyed) :
    s.release r idle = { s with
      queue := [], stack := .teardown s.queue :: .pipeline r (.free idle) :: s.stack } := by
  simp [release, ended, isDestroyed, push]

/-- Any other end of a request gives its buffers back. -/
theorem release_of_ordinary {s : Storage} {r : Request} (idle : Bool)
    (ordinary : ¬ (r.kind = .destroying ∧ r.error = none ∧ s.ready = .destroyed)) :
    ∃ r' a, s.release r idle =
      { s with allocator := a, stack := .pipeline r' (.free idle) :: s.stack } ∧
      r.Follows r' ∧ r'.phase = r.phase ∧ r'.error = r.error := by
  have buffered : { s with allocator := s.allocator.releaseAll r.buffer.toList }.push
      [.pipeline r.emptied (.free idle)] = { s with
        allocator := s.allocator.releaseAll r.buffer.toList
        stack := .pipeline r.emptied (.free idle) :: s.stack } := rfl
  have emptied : r.Follows r.emptied := ⟨rfl, rfl, rfl, rfl⟩
  cases kind : r.kind with
  | read | write | stat =>
    refine ⟨r.emptied, s.allocator.releaseAll r.buffer.toList, ?_, emptied, rfl, rfl⟩
    rw [← buffered]
    simp only [release, kind, Request.emptied]
  | delete | opening | closing | nothing =>
    exact ⟨r, s.allocator, by simp [release, kind, push], .refl r, rfl, rfl⟩
  | destroying =>
    have living : ¬ (r.error = none ∧ s.isDestroyed = true) := by
      simpa [kind, isDestroyed] using ordinary
    exact ⟨r, s.allocator, by simp [release, kind, living, push], .refl r, rfl, rfl⟩

theorem foldl_discard (s : Storage) (rs : List Request) :
    ∃ a, rs.foldl discard s = { s with allocator := a } := by
  induction rs generalizing s with
  | nil => exact ⟨s.allocator, rfl⟩
  | cons r rs ih =>
    obtain ⟨a, rest⟩ := ih (s.discard r)
    exact ⟨a, rest⟩

/-- Whether draining can start the head of the queue. -/
theorem startable?_cases (s : Storage) :
    (s.startable? = none ∧ (s.ready = .destroyed ∨ s.barrier = true ∨ s.queue = [] ∨
      ∃ r q, s.queue = r :: q ∧ r.kind.isBarrier ∧ 0 < s.pending)) ∨
    ∃ r q, s.startable? = some (r, q) ∧ s.queue = r :: q ∧ s.barrier = false ∧
      (r.kind.isBarrier → s.pending = 0) ∧ s.ready ≠ .destroyed := by
  unfold startable? isDestroyed
  split
  case isTrue closed =>
    simp only [decide_eq_true_eq] at closed
    exact .inl ⟨rfl, by tauto⟩
  case isFalse free =>
    have living : s.ready ≠ .destroyed := by simpa using (not_or.mp free).1
    have free : s.barrier = false := by simpa using (not_or.mp free).2
    cases s.queue with
    | nil => exact .inl ⟨rfl, .inr (.inr (.inl rfl))⟩
    | cons r q =>
      by_cases blocked : r.kind.isBarrier ∧ 0 < s.pending
      · exact .inl ⟨by simp [blocked], .inr (.inr (.inr ⟨r, q, rfl, blocked⟩))⟩
      · refine .inr ⟨r, q, by simp only [if_neg blocked], rfl, free, fun barrier => ?_, living⟩
        have := not_and.mp blocked barrier
        omega

/-- Recording a result: the end of a lifecycle request may be announced. -/
theorem recordResult_cases (s : Storage) (r : Request) (result : Except Error Nat) :
    ∃ (emitter : Emitter) (announced : Option Delivery), s.recordResult r result = { s with
      emitter := emitter
      stack := (announced.map Task.deliver).toList ++
        .pipeline (r.recorded result) (.settle (r.phase = .running)) :: s.stack } := by
  cases result with
  | ok size | error e =>
    unfold recordResult
    dsimp only
    split
    · exact ⟨s.emitter, none, rfl⟩
    split
    · exact ⟨s.emitter, none, rfl⟩
    · exact ⟨_, some _, rfl⟩

/-- What the end of a request does to the state: four fields change. -/
theorem transition_eq (s : Storage) (r : Request) : s.transition r = { s with
    ready := (s.transition r).ready
    needsOpen := (s.transition r).needsOpen
    openError := (s.transition r).openError
    queue := s.queue.map r.fallout } := by
  have unmarked : s.queue.map (fun other => other) = s.queue := List.map_id _
  unfold transition Request.fallout
  cases r.error <;> cases r.kind <;> simp only [unmarked] <;> (try split) <;> rfl

theorem transition_stack (s : Storage) (stack : List Task) (r : Request) :
    { s with stack }.transition r = { s.transition r with stack } := by
  unfold transition
  cases r.error <;> cases r.kind <;> simp only [] <;> (try split) <;> rfl

/-- The state moves on. -/
theorem settle_eq (s : Storage) (r : Request) (dispatched : Bool) :
    s.settle r dispatched = { s with
      ready := (s.transition r).ready
      needsOpen := (s.transition r).needsOpen
      openError := (s.transition r).openError
      queue := s.queue.map r.fallout
      pending := if dispatched then s.pending - 1 else s.pending
      barrier := if dispatched then s.barrier && !r.kind.isBarrier else s.barrier
      stack := .pipeline r
        (.observe ((if dispatched then s.pending - 1 else s.pending) = 0)) :: s.stack } := by
  unfold settle uncount
  rw [transition_eq]
  cases dispatched <;> rfl

end Storage

/-- What a step does, rule by rule. -/
inductive Turn (s : Storage) : History → Storage → Prop
  /-- The last queued requests go with a storage that nobody holds. -/
  | lost (top : s.stack = []) (unowned : s.owned = false) (a : Allocator) :
      Turn s (s.queue.map .lost) { s with allocator := a, queue := [] }
  /-- An order is refused. -/
  | refused {o : Order} {rest : List Task} (top : s.stack = .submit o :: rest) (e : Error)
      (a : Allocator) (n : RequestId) (later : s.nextId ≤ n) :
      Turn s [] { s with
        allocator := a, nextId := n, stack := .answer (.done (.error e)) :: rest }
  /-- A barrier joins the queue. -/
  | queued {o : Order} {rest : List Task} (top : s.stack = .submit o :: rest) (a : Allocator)
      (data : Bytes) (buffer : Option Nat) (barrier : o.kind.isBarrier) (room : s.HasRoom)
      (leased : buffer = o.payload.map List.length) :
      Turn s [.admitted (o.request s.nextId data buffer)] { s with
        allocator := a
        nextId := s.nextId + 1
        queue := s.queue ++ [(o.request s.nextId data buffer).queued]
        stack := .drain :: .answer (.done (.ok ())) :: rest }
  /-- A data request sends an opening ahead. -/
  | deferred {o : Order} {rest : List Task} (top : s.stack = .submit o :: rest) (a : Allocator)
      (data : Bytes) (buffer : Option Nat) (barrier : ¬ o.kind.isBarrier)
      (leased : buffer = o.payload.map List.length) :
      Turn s [] { s with
        allocator := a
        nextId := s.nextId + 1
        stack := .submit { kind := .opening } ::
          .awaitOpening (o.request s.nextId data buffer) :: rest }
  /-- A data request needs no opening. -/
  | offered {o : Order} {rest : List Task} (top : s.stack = .submit o :: rest) (a : Allocator)
      (data : Bytes) (buffer : Option Nat) (barrier : ¬ o.kind.isBarrier)
      (leased : buffer = o.payload.map List.length) :
      Turn s [] { s with
        allocator := a
        nextId := s.nextId + 1
        stack := .enter (o.request s.nextId data buffer) :: rest }
  /-- The opening that a data request sent ahead was refused. -/
  | openingRefused {r : Request} {e : Error} {rest : List Task}
      (top : s.stack = .answer (.done (.error e)) :: .awaitOpening r :: rest) (a : Allocator) :
      Turn s [] { s with allocator := a, stack := .answer (.done (.error e)) :: rest }
  /-- The opening that a data request sent ahead was admitted; it may have failed in place. -/
  | openingAdmitted {r r' : Request} {rest : List Task}
      (top : s.stack = .answer (.done (.ok ())) :: .awaitOpening r :: rest)
      (marked : r' = r ∨ ∃ e, r' = r.poison e) (owes : r' = r ∨ s.Owes r') :
      Turn s [] { s with stack := .enter r' :: rest }
  /-- The closing before a destruction was refused. -/
  | closingRefused {o : Order} {e : Error} {rest : List Task}
      (top : s.stack = .answer (.done (.error e)) :: .awaitClosing o :: rest) :
      Turn s [] { s with stack := .answer (.done (.error e)) :: rest }
  /-- The closing before a destruction was admitted. -/
  | closingAdmitted {o : Order} {rest : List Task}
      (top : s.stack = .answer (.done (.ok ())) :: .awaitClosing o :: rest) :
      Turn s [] { s with stack := .submit o :: rest }
  /-- The call behind a promise has ended. -/
  | promised {n : Nat} {result : Except Error Unit} {rest : List Task}
      (top : s.stack = .answer (.done result) :: .awaitCall n :: rest)
      (kept : List (Nat × Except Error Payload))
      (keeps : kept = s.kept ∨ ∃ e, kept = s.kept ++ [(n, .error e)]) :
      Turn s [] { s with kept := kept, stack := .answer (.promise n) :: rest }
  /-- A data request waits in the queue. -/
  | waiting {r : Request} {rest : List Task} (top : s.stack = .enter r :: rest)
      (blocked : s.barrier = true ∨ s.queue ≠ []) (room : s.HasRoom) :
      Turn s [.admitted r] { s with
        queue := s.queue ++ [r.queued], stack := .answer (.done (.ok ())) :: rest }
  /-- A data request would have to wait, but the queue does not take it. -/
  | turnedAway {r : Request} {rest : List Task} (top : s.stack = .enter r :: rest) (e : Error)
      (a : Allocator) :
      Turn s [] { s with allocator := a, stack := .answer (.done (.error e)) :: rest }
  /-- A data request is handed over at once. -/
  | entered {r : Request} {rest : List Task} (top : s.stack = .enter r :: rest)
      (free : s.barrier = false) (empty : s.queue = []) :
      Turn s [.admitted r, .begun r] { s with
        stack := .run r :: .answer (.done (.ok ())) :: rest }
  /-- Draining is already going on. -/
  | drainNested {rest : List Task} (top : s.stack = .drain :: rest) (draining : s.draining = true) :
      Turn s [] { s with stack := rest }
  /-- Draining starts. -/
  | drainStarted {rest : List Task} (top : s.stack = .drain :: rest)
      (draining : s.draining = false) :
      Turn s [] { s with draining := true, stack := .drainNext :: rest }
  /-- Draining ends: nothing can be started. -/
  | drainEnded {rest : List Task} (top : s.stack = .drainNext :: rest)
      (blocked : s.ready = .destroyed ∨ s.barrier = true ∨ s.queue = [] ∨
        ∃ r q, s.queue = r :: q ∧ r.kind.isBarrier ∧ 0 < s.pending) :
      Turn s [] { s with draining := false, stack := rest }
  /-- Draining hands the head of the queue over. -/
  | drained {r : Request} {q : List Request} {rest : List Task}
      (top : s.stack = .drainNext :: rest) (head : s.queue = r :: q)
      (free : s.barrier = false) (alone : r.kind.isBarrier → s.pending = 0)
      (living : s.ready ≠ .destroyed) :
      Turn s [.begun r] { s with queue := q, stack := .run r :: .drainNext :: rest }
  /-- A request runs and is finished without a handler. -/
  | finished {r : Request} {rest : List Task} (top : s.stack = .run r :: rest) (r' : Request)
      (result : Except Error Nat) (a : Allocator) (last : Option RequestInfo) (needsOpen : Bool)
      (follows : r.Follows r') (phase : r'.phase = .running)
      (stat : r.kind = .stat → ∀ n, result ≠ .ok n) (error : r'.error = r.error)
      (answers : s.AnswersInPlace r result needsOpen) :
      Turn s [] { s with
        allocator := a
        last := last
        needsOpen := needsOpen
        pending := s.pending + 1
        barrier := s.barrier || r.kind.isBarrier
        stack := .pipeline r' (.record result) :: rest }
  /-- A request runs and reaches a handler. -/
  | dispatched {r : Request} {rest : List Task} (top : s.stack = .run r :: rest) (r' : Request)
      (handler : Handler) (a : Allocator) (last : Option RequestInfo) (needsOpen : Bool)
      (follows : r.Follows r') (phase : r'.phase = .running)
      (stat : r'.kind = .stat → r'.stats.isSome) (something : r.kind ≠ .nothing)
      (error : r'.error = r.error) (serves : s.Serves r handler needsOpen)
      (equips : r.Equips r') :
      Turn s [.invoked (.handler handler r.id)] { s with
        allocator := a
        last := last
        needsOpen := needsOpen
        pending := s.pending + 1
        barrier := s.barrier || r.kind.isBarrier
        outside := s.outside ++ [r']
        stack := .client (.handler handler r.id) :: rest }
  /-- The result of a request is recorded, and announced if there is something to announce. -/
  | recorded {r : Request} {result : Except Error Nat} {rest : List Task}
      (top : s.stack = .pipeline r (.record result) :: rest) (emitter : Emitter)
      (announced : Option Delivery) :
      Turn s [] { s with
        emitter := emitter
        stack := (announced.map Task.deliver).toList ++
          .pipeline (r.recorded result) (.settle (r.phase = .running)) :: rest }
  /-- The state moves on for a finished request. -/
  | settled {r : Request} {dispatched : Bool} {rest : List Task}
      (top : s.stack = .pipeline r (.settle dispatched) :: rest) :
      Turn s [.settled r dispatched] { s with
        ready := (s.transition r).ready
        needsOpen := (s.transition r).needsOpen
        openError := (s.transition r).openError
        queue := s.queue.map r.fallout
        pending := if dispatched then s.pending - 1 else s.pending
        barrier := if dispatched then s.barrier && !r.kind.isBarrier else s.barrier
        stack := .pipeline r
          (.observe ((if dispatched then s.pending - 1 else s.pending) = 0)) :: rest }
  /-- Nobody observes the request. -/
  | unobserved {r : Request} {idle : Bool} {rest : List Task}
      (top : s.stack = .pipeline r (.observe idle) :: rest) (observer : r.observer = none) :
      Turn s [] { s with stack := .pipeline r (.conclude idle) :: rest }
  /-- The observer is told. -/
  | observed {r : Request} {idle : Bool} {rest : List Task} {o : Observer}
      (top : s.stack = .pipeline r (.observe idle) :: rest) (observer : r.observer = some o) :
      Turn s [.invoked (.hook o.code (r.outcome o.shared))] { s with
        stack := .client (.hook o.code (r.outcome o.shared)) ::
          .pipeline { r with observer := none } (.conclude idle) :: rest }
  /-- Nobody receives the result. -/
  | unheard {r : Request} {idle : Bool} {rest : List Task}
      (top : s.stack = .pipeline r (.conclude idle) :: rest) (receiver : r.receiver = none) :
      Turn s [] { s with stack := .pipeline r (.release idle) :: rest }
  /-- The caller is told the result. -/
  | told {r : Request} {idle : Bool} {rest : List Task} {code : Callback}
      (top : s.stack = .pipeline r (.conclude idle) :: rest)
      (receiver : r.receiver = some (.call code)) :
      Turn s [.invoked (.done code r.result)] { s with
        stack := .client (.done code r.result) ::
          .pipeline { r with receiver := none } (.release idle) :: rest }
  /-- The result is kept for a promise. -/
  | kept {r : Request} {idle : Bool} {rest : List Task} {number : Nat}
      (top : s.stack = .pipeline r (.conclude idle) :: rest)
      (receiver : r.receiver = some (.promise number)) :
      Turn s [] { s with
        kept := s.kept ++ [(number, r.result)]
        stack := .pipeline { r with receiver := none } (.release idle) :: rest }
  /-- Buffers are given back. -/
  | released {r : Request} {idle : Bool} {rest : List Task}
      (top : s.stack = .pipeline r (.release idle) :: rest) (r' : Request) (a : Allocator)
      (follows : r.Follows r') (phase : r'.phase = r.phase)
      (ordinary : ¬ (r.kind = .destroying ∧ r.error = none ∧ s.ready = .destroyed))
      (error : r'.error = r.error) :
      Turn s [] { s with allocator := a, stack := .pipeline r' (.free idle) :: rest }
  /-- A destruction has succeeded: the queue is emptied. -/
  | cleared {r : Request} {idle : Bool} {rest : List Task}
      (top : s.stack = .pipeline r (.release idle) :: rest) (destroying : r.kind = .destroying)
      (success : r.error = none) (dead : s.ready = .destroyed) :
      Turn s (s.queue.map .cleared) { s with
        queue := [], stack := .teardown s.queue :: .pipeline r (.free idle) :: rest }
  /-- A request is no more; if nothing was left inside the device, the queue is drained. -/
  | freed {r : Request} {idle : Bool} {rest : List Task}
      (top : s.stack = .pipeline r (.free idle) :: rest) (a : Allocator) :
      Turn s [] { s with allocator := a, stack := (if idle then [.drain] else []) ++ rest }
  /-- The next listener is called. -/
  | delivered {d : Delivery} {l : Listener} {waiting : List Listener} {rest : List Task}
      (top : s.stack = .deliver d :: rest) (next : d.waiting = l :: waiting) :
      Turn s [.invoked (.listener l.callback d.notice)] { s with
        stack := .client (.listener l.callback d.notice) :: .deliver { d with waiting } :: rest }
  /-- An announcement ends. -/
  | announced {d : Delivery} {rest : List Task} (top : s.stack = .deliver d :: rest)
      (last : d.waiting = []) :
      Turn s [] { s with emitter := s.emitter.purge, stack := rest }
  /-- The next request behind a destruction fails. -/
  | orphaned {r : Request} {orphans : List Request} {rest : List Task}
      (top : s.stack = .teardown (r :: orphans) :: rest) :
      Turn s [] { s with
        stack := .pipeline r (.record (.error .fault)) :: .teardown orphans :: rest }
  /-- Listeners and device are let go of. -/
  | detached {rest : List Task} (top : s.stack = .teardown [] :: rest) :
      Turn s [] { s with emitter := s.emitter.clear, attached := false, stack := rest }

section Step

variable {s : Storage} {rest : List Task}

theorem turn_submit {o : Order} (top : s.stack = .submit o :: rest) :
    Turn s ({ s with stack := rest }.submission o) ({ s with stack := rest }.submit o) := by
  unfold Storage.submission Storage.submit
  split
  · exact .refused top .fault s.allocator s.nextId (Nat.le_refl _)
  split
  · exact .refused top (.unsupported o.kind) s.allocator s.nextId (Nat.le_refl _)
  obtain ⟨a, refused⟩ | ⟨a, data, buffer, made, leased⟩ :=
    ({ s with stack := rest } : Storage).make_cases o
  · simp only [refused]
    exact .refused top .fault a s.nextId (Nat.le_refl _)
  simp only [made]
  split
  case isTrue barrier =>
    unfold Storage.admission Storage.admitBarrier
    cases attempt : ({ s with allocator := a, nextId := s.nextId + 1, stack := rest } :
        Storage).enqueue (o.request s.nextId data buffer) with
    | ok accepted =>
      obtain ⟨room, rfl⟩ := Storage.enqueue_eq_ok_iff.mp attempt
      exact .queued top a data buffer barrier ⟨room.living, room.room⟩ leased
    | error e =>
      exact .refused top e _ (s.nextId + 1) (Nat.le_succ _)
  case isFalse barrier =>
    unfold Storage.admitData
    split
    · exact .deferred top a data buffer barrier leased
    · exact .offered top a data buffer barrier leased

theorem turn_enter {r : Request} (top : s.stack = .enter r :: rest) :
    Turn s ({ s with stack := rest }.performance (.enter r))
      ({ s with stack := rest }.enter r) := by
  simp only [Storage.performance, Storage.enter]
  split
  case isTrue blocked =>
    unfold Storage.admission
    cases attempt : ({ s with stack := rest } : Storage).enqueue r with
    | ok accepted =>
      obtain ⟨room, rfl⟩ := Storage.enqueue_eq_ok_iff.mp attempt
      exact .waiting top blocked ⟨room.living, room.room⟩
    | error e =>
      exact .turnedAway top e _
  case isFalse free =>
    obtain ⟨noBarrier, empty⟩ := not_or.mp free
    exact .entered top (by simpa using noBarrier) (by simpa using empty)

theorem turn_drain (top : s.stack = .drain :: rest) :
    Turn s [] ({ s with stack := rest }.drain) := by
  unfold Storage.drain
  split
  case isTrue draining => exact .drainNested top draining
  case isFalse idle => exact .drainStarted top (by simpa using idle)

theorem turn_drainNext (top : s.stack = .drainNext :: rest) :
    Turn s ({ s with stack := rest }.performance .drainNext)
      ({ s with stack := rest }.drainNext) := by
  unfold Storage.performance Storage.drainNext
  obtain ⟨blocked, why⟩ | ⟨r, q, startable, head, free, alone, living⟩ :=
    ({ s with stack := rest } : Storage).startable?_cases
  · simp only [blocked]
    exact .drainEnded top why
  · simp only [startable]
    exact .drained top head free alone living

theorem turn_run {r : Request} (top : s.stack = .run r :: rest) :
    Turn s ({ s with stack := rest }.performance (.run r)) ({ s with stack := rest }.run r) := by
  have same (kind : Kind) :
      ({ s with stack := rest } : Storage).destination kind = s.destination kind := by
    apply Storage.destination_congr <;> rfl
  obtain ⟨r', a, last, n, follows, phase, error,
      ⟨h, ran, stat, something, serves, equips⟩ | ⟨result, ran, noStat, answers⟩⟩ :=
    ({ s with stack := rest } : Storage).run_cases r
  · rw [Storage.performance, ran, Storage.newcomers_of_called]
    · exact .dispatched top r' h a last n follows phase stat something error
        ⟨serves.unmarked, serves.attached, same _ ▸ serves.routed⟩ equips
    · rfl
  · rw [Storage.performance, ran, Storage.newcomers_of_same (by rfl)]
    have answers : s.AnswersInPlace r result n := by
      cases answers with
      | marked error => exact .marked error
      | refused unmarked data => exact .refused unmarked data
      | routed unmarked routed => exact .routed unmarked (same _ ▸ routed)
      | detached unmarked detached routed => exact .detached unmarked detached (same _ ▸ routed)
    exact .finished top r' result a last n follows phase noStat error answers

theorem turn_pipeline {r : Request} {stage : Stage} (top : s.stack = .pipeline r stage :: rest) :
    Turn s ({ s with stack := rest }.progress r stage)
      ({ s with stack := rest }.advance r stage) := by
  cases stage with
  | record result =>
    obtain ⟨emitter, announced, recorded⟩ :=
      ({ s with stack := rest } : Storage).recordResult_cases r result
    simp only [Storage.progress, Storage.advance, recorded]
    exact .recorded top emitter announced
  | settle dispatched =>
    simp only [Storage.progress, Storage.advance, Storage.settle_eq, Storage.transition_stack]
    exact .settled top
  | observe idle =>
    simp only [Storage.progress, Storage.advance, Storage.observe]
    cases observer : r.observer with
    | none =>
      rw [Storage.newcomers_of_same (by rfl)]
      exact .unobserved top observer
    | some o =>
      rw [Storage.newcomers_of_called]
      · exact .observed top observer
      · rfl
  | conclude idle =>
    simp only [Storage.progress, Storage.advance, Storage.conclude]
    cases receiver : r.receiver with
    | none =>
      rw [Storage.newcomers_of_same (by rfl)]
      exact .unheard top receiver
    | some receiver' =>
      cases receiver' with
      | call code =>
        rw [Storage.newcomers_of_called]
        · exact .told top receiver
        · rfl
      | promise number =>
        rw [Storage.newcomers_of_same (by rfl)]
        exact .kept top receiver
  | release idle =>
    simp only [Storage.progress, Storage.advance, Storage.isDestroyed, decide_eq_true_eq]
    split
    case isTrue ended =>
      rw [Storage.release_of_ended (s := { s with stack := rest }) idle ended]
      exact .cleared top ended.1 ended.2.1 ended.2.2
    case isFalse ordinary =>
      obtain ⟨r', a, released, follows, phase, error⟩ :=
        Storage.release_of_ordinary (s := { s with stack := rest }) idle ordinary
      rw [released]
      exact .released top r' a follows phase ordinary error
  | free idle =>
    cases idle with
    | true => exact .freed top _
    | false => exact .freed top _

theorem turn_deliver {d : Delivery} (top : s.stack = .deliver d :: rest) :
    Turn s ({ s with stack := rest }.performance (.deliver d))
      ({ s with stack := rest }.deliver d) := by
  simp only [Storage.performance, Storage.deliver]
  cases next : d.waiting with
  | nil =>
    rw [Storage.newcomers_of_same (by rfl)]
    exact .announced top next
  | cons l waiting =>
    rw [Storage.newcomers_of_called]
    · exact .delivered top next
    · rfl

theorem turn_teardown {orphans : List Request} (top : s.stack = .teardown orphans :: rest) :
    Turn s [] ({ s with stack := rest }.teardown orphans) := by
  cases orphans with
  | nil => exact .detached top
  | cons r orphans => exact .orphaned top

theorem turn_resume {reply : Reply} {task : Task} {s' : Storage}
    (top : s.stack = .answer reply :: task :: rest)
    (resumed : { s with stack := rest }.resume? reply task = some s') : Turn s [] s' := by
  unfold Storage.resume? at resumed
  cases task with
  | awaitOpening r =>
    cases reply with
    | done result =>
      obtain rfl := Option.some.inj resumed
      cases result with
      | error e => exact .openingRefused top _
      | ok _ =>
        unfold Storage.afterOpening
        dsimp only
        split
        case isTrue owed =>
          obtain ⟨free, empty, shut⟩ := owed
          split
          case h_1 e failed =>
            exact .openingAdmitted top (.inr ⟨e, rfl⟩)
              (.inr ⟨by simpa using free, empty, shut, failed.symm⟩)
          case h_2 => exact .openingAdmitted top (.inl rfl) (.inl rfl)
        case isFalse => exact .openingAdmitted top (.inl rfl) (.inl rfl)
    | _ => simp at resumed
  | awaitClosing o =>
    cases reply with
    | done result =>
      cases result with
      | error e =>
        obtain rfl := Option.some.inj resumed
        exact .closingRefused top
      | ok _ =>
        obtain rfl := Option.some.inj resumed
        exact .closingAdmitted top
    | _ => simp at resumed
  | awaitCall n =>
    cases reply with
    | done result =>
      cases result with
      | error e =>
        obtain rfl := Option.some.inj resumed
        exact .promised top _ (.inr ⟨e, rfl⟩)
      | ok _ =>
        obtain rfl := Option.some.inj resumed
        exact .promised top s.kept (.inl rfl)
    | _ => simp at resumed
  | _ => simp at resumed

/-- A storage does nothing but what the rules say. -/
theorem turn_of_step {s' : Storage} (next : s.step = some s') : Turn s s.incidents s' := by
  unfold Storage.step at next
  unfold Storage.incidents
  cases top : s.stack with
  | nil =>
    simp only [top] at next
    split at next
    · simp at next
    case isFalse dead =>
      obtain ⟨unowned, -⟩ := not_or.mp dead
      obtain ⟨a, dropped⟩ := Storage.foldl_discard { s with queue := [] } s.queue
      obtain rfl := Option.some.inj next
      unfold Storage.dropQueue
      rw [dropped]
      exact .lost top (by simpa using unowned) a
  | cons task rest =>
    simp only [top] at next ⊢
    cases task with
    | client code => simp at next
    | awaitOpening r | awaitClosing o | awaitCall n => simp at next
    | answer reply =>
      cases rest with
      | nil => simp at next
      | cons task rest => exact turn_resume top next
    | submit o =>
      obtain rfl := Option.some.inj next
      exact turn_submit top
    | enter r =>
      obtain rfl := Option.some.inj next
      exact turn_enter top
    | drain =>
      obtain rfl := Option.some.inj next
      exact turn_drain top
    | drainNext =>
      obtain rfl := Option.some.inj next
      exact turn_drainNext top
    | run r =>
      obtain rfl := Option.some.inj next
      exact turn_run top
    | pipeline r stage =>
      obtain rfl := Option.some.inj next
      exact turn_pipeline top
    | deliver d =>
      obtain rfl := Option.some.inj next
      exact turn_deliver top
    | teardown orphans =>
      obtain rfl := Option.some.inj next
      exact turn_teardown top

end Step

/-- What a move does, rule by rule. -/
inductive Move (s : Storage) : Action → History → Storage → Prop
  /-- A storage that is settled open calls back at once. -/
  | calledBack (code : Callback) :
      Move s (.call .opening (some (.call code)) none)
        [.asked (.call .opening (some (.call code)) none), .invoked (.done code (.ok .unit))]
        { s with stack :=
          .client (.done code (.ok .unit)) :: .answer (.done (.ok ())) :: s.stack }
  /-- The same, where there is nobody to call back. -/
  | answeredAtOnce (receiver : Option Receiver) (kept : List (Nat × Except Error Payload))
      (nobody : ∀ code, receiver ≠ some (.call code))
      (keeps : kept = s.kept ∨ ∃ number, receiver = some (.promise number) ∧
        kept = s.kept ++ [(number, .ok .unit)]) :
      Move s (.call .opening receiver none) [.asked (.call .opening receiver none)]
        { s with kept := kept, stack := .answer (.done (.ok ())) :: s.stack }
  /-- An operation is ordered. -/
  | ordered (op : Operation) (receiver : Option Receiver) (observer : Option Observer)
      (destroying : op ≠ .destroying) :
      Move s (.call op receiver observer) [.asked (.call op receiver observer)]
        { s with stack := .submit (op.order receiver observer) :: s.stack }
  /-- A destruction is ordered; a closing goes first. -/
  | orderedDestruction (receiver : Option Receiver) (observer : Option Observer) :
      Move s (.call .destroying receiver observer) [.asked (.call .destroying receiver observer)]
        { s with stack := .submit { kind := .closing } ::
          .awaitClosing (Operation.destroying.order receiver observer) :: s.stack }
  /-- The result of an opening is kept at once. -/
  | promisedAtOnce :
      Move s (.promise .opening) [.asked (.promise .opening)] { s with
        nextPromise := s.nextPromise + 1
        kept := s.kept ++ [(s.nextPromise, .ok .unit)]
        stack := .answer (.done (.ok ())) :: .awaitCall s.nextPromise :: s.stack }
  /-- An operation is ordered whose result is kept. -/
  | promised (op : Operation) (destroying : op ≠ .destroying) :
      Move s (.promise op) [.asked (.promise op)] { s with
        nextPromise := s.nextPromise + 1
        stack := .submit (op.order (some (.promise s.nextPromise)) none) ::
          .awaitCall s.nextPromise :: s.stack }
  /-- A destruction is ordered whose result is kept. -/
  | promisedDestruction :
      Move s (.promise .destroying) [.asked (.promise .destroying)] { s with
        nextPromise := s.nextPromise + 1
        stack := .submit { kind := .closing } ::
          .awaitClosing (Operation.destroying.order (some (.promise s.nextPromise)) none) ::
          .awaitCall s.nextPromise :: s.stack }
  /-- A move that concerns no request is answered at once. -/
  | aside (a : Action) (reply : Reply) (emitter : Emitter) (allocator : Allocator)
      (kept : List (Nat × Except Error Payload)) (owned : Bool)
      (noCall : ∀ op receiver observer, a ≠ .call op receiver observer)
      (owner : owned = (s.owned && decide (a ≠ .disown)))
      (keeps : kept = s.kept ∨
        ∃ m, (a = .poll m ∨ a = .forget m) ∧ kept = s.kept.filter (·.1 ≠ m))
      (plain : ∀ m, reply ≠ .promise m) :
      Move s a [.asked a] { s with
        emitter := emitter
        allocator := allocator
        kept := kept
        owned := owned
        stack := .answer reply :: s.stack }
  /-- A client makes a request of its own. -/
  | made (kind : Kind) (offset size : Nat) (payload : Option Bytes) (a : Allocator) (data : Bytes)
      (buffer : Option Nat) (leased : buffer = if kind = .write then some size else none) :
      Move s (.makeRequest kind offset size) [.asked (.makeRequest kind offset size)] { s with
        allocator := a
        nextId := s.nextId + 1
        outside := s.outside ++
          [({ kind, offset, size, payload } : Order).request s.nextId data buffer]
        stack := .answer (.made (.ok s.nextId)) :: s.stack }
  /-- A request that is outside joins the queue. -/
  | pushed {id : RequestId} {r : Request} (found : s.find? id = some r) (room : s.HasRoom) :
      Move s (.push id) [.asked (.push id), .admitted r] { s with
        outside := (s.take id).outside
        queue := s.queue ++ [r.queued]
        stack := .drain :: .answer (.length (.ok (s.queue.length + 1))) :: s.stack }
  /-- A refused request that is inside the device is finished as abandoned. -/
  | pushAbandoned {id : RequestId} {r : Request} (found : s.find? id = some r) (e : Error)
      (inside : r.phase = .running) :
      Move s (.push id) [.asked (.push id), .abandoned r] { s with
        outside := (s.take id).outside
        stack := .pipeline r (.record (.error .abandoned)) ::
          .answer (.length (.error e)) :: s.stack }
  /-- A client takes the head of the queue. -/
  | shifted {r : Request} {q : List Request} (head : s.queue = r :: q) :
      Move s .shift [.asked .shift, .shifted r] { s with
        queue := q
        outside := s.outside ++ [{ r with phase := .created }]
        stack := .answer (.shifted (some r.id)) :: s.stack }
  /-- A request that is outside is finished. -/
  | completed {id : RequestId} {r : Request} (found : s.find? id = some r) (v : Verdict) :
      Move s (.complete id v) [.asked (.complete id v)] { s with
        outside := (s.take id).outside
        stack := .pipeline (r.fill v) (.record ((r.fill v).resultOf v)) ::
          .answer .unit :: s.stack }
  /-- The device lets go of a request. -/
  | abandoned {id : RequestId} {r : Request} (found : s.find? id = some r)
      (inside : r.phase = .running) :
      Move s (.abandon id) [.asked (.abandon id), .abandoned r] { s with
        outside := (s.take id).outside
        stack := .pipeline r (.record (.error .abandoned)) :: .answer .unit :: s.stack }
  /-- A request that is outside is no more: it was refused or let go of outside the device, or
  nobody holds the storage. -/
  | discarded (a : Action) {id : RequestId} {r : Request} (found : s.find? id = some r)
      (reply : Reply) (al : Allocator) (outside : r.phase ≠ .running ∨ s.isAlive = false)
      (noCall : ∀ op receiver observer, a ≠ .call op receiver observer)
      (plain : ∀ m, reply ≠ .promise m) :
      Move s a [.asked a] { s with
        allocator := al, outside := (s.take id).outside, stack := .answer reply :: s.stack }
  /-- A request that is outside is changed. -/
  | edited (id : RequestId) (e : Edit) :
      Move s (.edit id e) [.asked (.edit id e)] { s with
        outside := s.outside.map fun r => if r.id = id then e.apply r else r
        stack := .answer .unit :: s.stack }
  /-- Something is announced. -/
  | announced (notice : Notice) (emitter : Emitter) (d : Delivery) (n : Nat) :
      Move s (.announce notice) [.asked (.announce notice)] { s with
        emitter := emitter, stack := .deliver d :: .answer (.count n) :: s.stack }
  /-- Client code gives control back. -/
  | left {code : Invocation} {rest : List Task} (top : s.stack = .client code :: rest) :
      Move s .leave [] { s with stack := rest }
  /-- An answer is taken. -/
  | collected {reply : Reply} {rest : List Task} (top : s.stack = .answer reply :: rest) :
      Move s .collect [.answered reply] { s with stack := rest }
  /-- There is nothing to leave or to collect. -/
  | idle (a : Action) : Move s a [] s

section Act

variable {s : Storage}

theorem answeredAtOnce_of_not {op : Operation} {receiver : Option Receiver}
    {observer : Option Observer}
    (waits : ¬ (op = .opening ∧ observer = none ∧ s.isOpenSettled = true)) :
    s.answeredAtOnce op receiver observer = [] := by
  refine Storage.newcomers_of_same ?_
  cases op with
  | opening =>
    have waits : ¬ (observer = none ∧ s.isOpenSettled = true) := by simpa using waits
    simp only [Storage.call, if_neg waits]
    rfl
  | _ => rfl

/-- A callback is called at once where the opening is answered at once. -/
theorem answeredAtOnce_of_settled (settled : s.isOpenSettled = true) (receiver : Option Receiver) :
    s.answeredAtOnce .opening receiver none =
      match receiver with
      | some (.call code) => [.invoked (.done code (.ok .unit))]
      | _ => [] := by
  simp only [Storage.answeredAtOnce, Storage.call, settled, and_self, if_true]
  rcases receiver with _ | code | _
  · exact Storage.newcomers_of_same rfl
  · exact Storage.newcomers_of_called rfl
  · exact Storage.newcomers_of_same rfl

theorem register_cases (s : Storage) (event : Event) (ttl : Ttl) (callback : Callback) :
    ∃ reply emitter, s.register event ttl callback = { s with emitter }.reply reply ∧
      ∀ m, reply ≠ .promise m := by
  unfold Storage.register
  split
  · exact ⟨_, _, rfl, by simp⟩
  · exact ⟨_, s.emitter, rfl, by simp⟩

theorem move_call (op : Operation) (receiver : Option Receiver) (observer : Option Observer) :
    Move s (.call op receiver observer)
      (.asked (.call op receiver observer) :: s.answeredAtOnce op receiver observer)
      (s.call op receiver observer) := by
  by_cases atOnce : op = .opening ∧ observer = none ∧ s.isOpenSettled = true
  · obtain ⟨rfl, rfl, settled⟩ := atOnce
    rw [answeredAtOnce_of_settled settled]
    simp only [Storage.call, settled, and_self, if_true]
    cases receiver with
    | none => exact .answeredAtOnce none s.kept (by simp) (.inl rfl)
    | some receiver =>
      cases receiver with
      | call code => exact .calledBack code
      | promise number => exact .answeredAtOnce _ _ (by simp) (.inr ⟨number, rfl, rfl⟩)
  · rw [answeredAtOnce_of_not atOnce]
    cases op with
    | destroying => exact .orderedDestruction receiver observer
    | opening =>
      have waits : ¬ (observer = none ∧ s.isOpenSettled = true) := by simpa using atOnce
      simp only [Storage.call, if_neg waits]
      exact .ordered .opening receiver observer (by simp)
    | _ => exact .ordered _ receiver observer (by simp)

theorem move_promise (op : Operation) :
    Move s (.promise op) [.asked (.promise op)] (s.callPromised op) := by
  unfold Storage.callPromised Storage.call
  cases op with
  | destroying => exact .promisedDestruction
  | opening =>
    dsimp only
    split
    · exact .promisedAtOnce
    · exact .promised .opening (by simp)
  | _ => exact .promised _ (by simp)

theorem move_makeRequest (kind : Kind) (offset size : Nat) :
    Move s (.makeRequest kind offset size) [.asked (.makeRequest kind offset size)]
      (s.makeRequest kind offset size) := by
  unfold Storage.makeRequest
  split
  · exact .aside _ _ s.emitter s.allocator s.kept s.owned (by simp) (by simp) (.inl rfl) (by simp)
  · dsimp only
    obtain ⟨a, refused⟩ | ⟨a, data, buffer, made, leased⟩ := s.make_cases
      { kind, offset, size, payload := if kind = .write then some (Bytes.zeros size) else none }
    · rw [refused]
      exact .aside _ _ s.emitter a s.kept s.owned (by simp) (by simp) (.inl rfl) (by simp)
    · rw [made]
      have leased : buffer = if kind = .write then some size else none := by
        rw [leased]
        split <;> simp [Bytes.zeros]
      exact .made kind offset size _ a data buffer leased

theorem move_push (id : RequestId) :
    Move s (.push id) (.asked (.push id) :: s.pushing id) (s.pushRequest id) := by
  unfold Storage.pushing Storage.pushRequest
  cases found : s.find? id with
  | none =>
    exact .aside _ _ s.emitter s.allocator s.kept s.owned (by simp) (by simp) (.inl rfl) (by simp)
  | some r =>
    dsimp only
    cases queued : (s.take id).enqueue r with
    | ok s' =>
      obtain ⟨room, rfl⟩ := Storage.enqueue_eq_ok_iff.mp queued
      simpa using .pushed found ⟨room.living, room.room⟩
    | error e =>
      by_cases inside : r.phase = .running
      · simpa [Storage.letGo, inside] using .pushAbandoned found e inside
      · simpa [Storage.letGo, inside] using
          .discarded (.push id) found (.length (.error e)) (s.allocator.releaseAll r.leases)
            (.inl inside) (by simp) (by simp)

theorem move_shift :
    Move s .shift (.asked .shift :: (s.queue.head?.map Incident.shifted).toList) s.shift := by
  unfold Storage.shift
  cases head : s.queue with
  | nil =>
    exact .aside _ _ s.emitter s.allocator s.kept s.owned (by simp) (by simp) (.inl rfl) (by simp)
  | cons r q => exact .shifted head

theorem move_complete (id : RequestId) (v : Verdict) :
    Move s (.complete id v) [.asked (.complete id v)] (s.complete id v) := by
  unfold Storage.complete
  cases found : s.find? id with
  | none =>
    exact .aside _ _ s.emitter s.allocator s.kept s.owned (by simp) (by simp) (.inl rfl) (by simp)
  | some r =>
    dsimp only
    split
    · exact .completed found v
    · rename_i dead
      exact .discarded _ found .unit _ (.inr (by simpa using dead)) (by simp) (by simp)

theorem move_abandon (id : RequestId) :
    Move s (.abandon id) (.asked (.abandon id) :: s.dropping id) (s.abandon id) := by
  unfold Storage.abandon Storage.dropping
  cases found : s.find? id with
  | none =>
    exact .aside _ _ s.emitter s.allocator s.kept s.owned (by simp) (by simp) (.inl rfl) (by simp)
  | some r =>
    dsimp only
    by_cases alive : s.isAlive = true
    · by_cases inside : r.phase = .running
      · simpa [alive, inside, Storage.letGo] using .abandoned found inside
      · simpa [alive, inside, Storage.letGo] using
          .discarded (.abandon id) found .unit (s.allocator.releaseAll r.leases) (.inl inside)
            (by simp) (by simp)
    · simpa [alive] using
        .discarded (.abandon id) found .unit (s.allocator.releaseAll r.leases)
          (.inr (by simpa using alive)) (by simp) (by simp)

/-- A client does nothing but what the rules say. -/
theorem move_of_act (s : Storage) (a : Action) : Move s a (s.incidentsOf a) (s.act a) := by
  have aside (reply : Reply) (emitter : Emitter) (kept : List (Nat × Except Error Payload))
      (owned : Bool) (noCall : ∀ op receiver observer, a ≠ .call op receiver observer)
      (owner : owned = (s.owned && decide (a ≠ .disown)))
      (keeps : kept = s.kept ∨
        ∃ m, (a = .poll m ∨ a = .forget m) ∧ kept = s.kept.filter (·.1 ≠ m))
      (plain : ∀ m, reply ≠ .promise m) :=
    Move.aside a reply emitter s.allocator kept owned noCall owner keeps plain
  cases a with
  | call op receiver observer => exact move_call op receiver observer
  | promise op => exact move_promise op
  | makeRequest kind offset size => exact move_makeRequest kind offset size
  | push id => exact move_push id
  | shift => exact move_shift
  | complete id v => exact move_complete id v
  | abandon id => exact move_abandon id
  | edit id e => exact .edited id e
  | announce notice => exact .announced notice _ _ _
  | poll number =>
    exact aside _ s.emitter _ s.owned (by simp) (by simp) (.inr ⟨number, .inl rfl, rfl⟩) (by simp)
  | forget number =>
    exact aside _ s.emitter _ s.owned (by simp) (by simp) (.inr ⟨number, .inr rfl, rfl⟩) (by simp)
  | pushForeign => exact aside _ s.emitter s.kept s.owned (by simp) (by simp) (.inl rfl) (by simp)
  | disown => exact aside _ s.emitter s.kept false (by simp) (by simp) (.inl rfl) (by simp)
  | register event ttl callback =>
    obtain ⟨reply, emitter, registered, plain⟩ := register_cases s event ttl callback
    simp only [Storage.act, registered]
    exact aside reply emitter s.kept s.owned (by simp) (by simp) (.inl rfl) plain
  | listen event ttl callback =>
    simp only [Storage.act, Storage.listen]
    split
    · exact aside _ s.emitter s.kept s.owned (by simp) (by simp) (.inl rfl) (by simp)
    · obtain ⟨reply, emitter, registered, plain⟩ := register_cases s event ttl callback
      rw [registered]
      exact aside reply emitter s.kept s.owned (by simp) (by simp) (.inl rfl) plain
  | off id | clearListeners | offCallback callback | offEvent event =>
    exact aside _ _ s.kept s.owned (by simp) (by simp) (.inl rfl) (by simp)
  | leave =>
    simp only [Storage.act, Storage.leave]
    split
    · rename_i top
      exact .left top
    · exact .idle _
  | collect =>
    simp only [Storage.act, Storage.collect, Storage.incidentsOf]
    cases top : s.stack with
    | nil => exact .idle _
    | cons task rest =>
      cases task with
      | answer reply => exact .collected top
      | _ => exact .idle _

end Act

/-- No step takes the storage from its owner. -/
theorem Turn.owned_eq {s s' : Storage} {i : History} (t : Turn s i s') : s'.owned = s.owned := by
  cases t <;> rfl

/-- Only the owner lets go of the storage. -/
theorem Move.owned_eq {s s' : Storage} {a : Action} {i : History} (m : Move s a i s')
    (keeps : a ≠ .disown) : s'.owned = s.owned := by
  cases m with
  | aside _ _ _ _ _ _ _ owner => simpa [keeps] using owner
  | _ => rfl

/-- What holds at the start and is kept by every rule holds along every run. -/
theorem Run.invariant {rule : Rule} {start : Storage} {motive : History → Storage → Prop}
    (initial : motive [] start)
    (turn : ∀ {h s i s'}, Run rule start h s → motive h s → Turn s i s' → motive (h ++ i) s')
    (move : ∀ {h s a i s'}, Run rule start h s → motive h s → s.isAtRest → rule h s a →
      Move s a i s' → motive (h ++ i) s')
    {h : History} {s : Storage} (run : Run rule start h s) : motive h s := by
  induction run with
  | start => exact initial
  | step run next ih => exact turn run ih (turn_of_step next)
  | move a run rest allowed ih => exact move run ih rest allowed (move_of_act _ a)

end StorageEngine
