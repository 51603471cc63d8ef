import Mathlib.Computability.StateTransition
import StorageEngine.Proofs.Calls
import StorageEngine.Proofs.Passage

/-!
# Sessions with quiet clients

A session is a storage, a device that serves its handlers, and clients that call the storage from
outside but call nothing back: a callback, an observer or a listener gives control back at once.
The device answers each request either while its handler runs, or it parks the request and finishes
what it has parked, oldest first, when the call has returned.  What it answers is decided when the
handler is called, in the same way for both (`Worker.respond`).

A session leaves a record of what was seen from outside: which requests the handlers were given, and
which client code was called, in order (`Sight`).

* `tick`, `goOn`, `call`, `play` — how a session goes on;
* `tick_cases`, `tick_storage` — its steps are steps of the storage and moves of its clients;
* `reaches_pipeline` — a finished request is wrapped up, and all who should hear of it do;
* `reaches_drain` — where nothing waits, there is nothing to drain.
-/

namespace StorageEngine

open StateTransition

/-- How a device ends a request: with a verdict, or by dropping it. -/
inductive Response
  | verdict (v : Verdict)
  | dropped
  deriving DecidableEq

namespace Response

/-- The move that ends a request in this way. -/
def move (id : RequestId) : Response → Action
  | .verdict v => .complete id v
  | .dropped => .abandon id

/-- What the device leaves of a request, and the result. -/
def apply (r : Request) : Response → Request × Except Error Nat
  | .verdict v => (r.fill v, (r.fill v).resultOf v)
  | .dropped => (r, .error .abandoned)

end Response

/-- Something seen from outside: a handler is given a request, or other client code is called. -/
inductive Sight
  | given (h : Handler) (r : Request)
  | called (code : Invocation)
  deriving DecidableEq

/-- Whether a device ends a request while its handler runs, or after the call has returned. -/
inductive Pace
  | prompt
  | parking
  deriving DecidableEq

/-- How a device in some state ends the request that a handler was given, and its next state. -/
abbrev Responder (σ : Type) :=
  σ → Handler → Request → Response × σ

/-- A device that serves a storage: when it ends its requests, and how. -/
structure Worker (σ : Type) where
  pace : Pace
  respond : Responder σ

/-- A storage with its device, the requests that are parked with their ends, oldest first, and what
has been seen. -/
structure Session (σ : Type) where
  storage : Storage
  device : σ
  parked : List (RequestId × Response) := []
  seen : List Sight := []

/-- What a call looks like from outside: its answer, what was seen until everything that it has
started was over, and the storage after that. -/
structure Report where
  answer : Option Reply
  seen : List Sight
  storage : Storage
  deriving DecidableEq

namespace Session

variable {σ : Type}

/-- The session, with its storage gone on to this one. -/
def onto (x : Session σ) (s : Storage) : Session σ :=
  { x with storage := s }

/-- A move of whoever has control. -/
def act (x : Session σ) (a : Action) : Session σ :=
  x.onto (x.storage.act a)

/-- Something is seen. -/
def sees (x : Session σ) (sights : List Sight) : Session σ :=
  { x with seen := x.seen ++ sights }

/-- The device looks at a request that its handler was given, and decides how to end it. -/
def ask (f : Responder σ) (x : Session σ) (h : Handler) (r : Request) : Response × Session σ :=
  ((f x.device h r).1, { x with device := (f x.device h r).2 }.sees [.given h r])

/-- The device parks a request that its handler was given, with the end that it will give it. -/
def park (f : Responder σ) (x : Session σ) (h : Handler) (r : Request) : Session σ :=
  { (x.ask f h r).2 with parked := x.parked ++ [(r.id, (x.ask f h r).1)] }

/-- The device's turn: its handler was called with this request. -/
def serve (w : Worker σ) (x : Session σ) (h : Handler) (r : Request) : Session σ :=
  match w.pace with
  | .prompt => (x.ask w.respond h r).2.act ((x.ask w.respond h r).1.move r.id)
  | .parking => (x.park w.respond h r).act .leave

/-- The next step: of the storage, of the device, or of client code that gives control back. -/
def tick (w : Worker σ) (x : Session σ) : Option (Session σ) :=
  match x.storage.step with
  | some s => some (x.onto s)
  | none =>
    match x.storage.stack with
    | .client (.handler h id) :: _ =>
      match x.storage.find? id with
      | some r => some (x.serve w h r)
      | none => some (x.act .leave)
    | .client code :: _ => some ((x.sees [.called code]).act .leave)
    | .answer _ :: .client _ :: _ => some (x.act .collect)
    | _ => none

/-- Goes on for at most so many steps. -/
def goOn (w : Worker σ) : Nat → Session σ → Session σ
  | 0, x => x
  | n + 1, x =>
    match x.tick w with
    | none => x
    | some y => goOn w n y

/-- Finishes at most so many parked requests, the oldest first. -/
def finish (w : Worker σ) (fuel : Nat) : Nat → Session σ → Session σ
  | 0, x => x
  | n + 1, x =>
    match x.parked with
    | [] => x
    | (id, response) :: parked =>
      finish w fuel n ((({ x with parked }.act (response.move id)).goOn w fuel).act .collect)

/-- Makes a call and takes its answer; then the device finishes what it has parked. -/
def call (w : Worker σ) (fuel : Nat) (x : Session σ) (op : Operation) (client : Client) :
    Report × Session σ :=
  let y :=
    ({ x with seen := [] }.act (.call op (some (.call client.code)) client.observer)).goOn w fuel
  let z := (y.act .collect).finish w fuel fuel
  (⟨y.storage.answer?, z.seen, z.storage⟩, z)

/-- Makes these calls, one after the other. -/
def play (w : Worker σ) (fuel : Nat) (x : Session σ) : List (Operation × Client) → List Report
  | [] => []
  | (op, client) :: calls =>
    (x.call w fuel op client).1 :: play w fuel (x.call w fuel op client).2 calls

/-- The session with these tasks still to be done, being drained or not, with these requests outside
and waiting. -/
def staged (x : Session σ) (stack : List Task) (draining : Bool) (outside queue : List Request) :
    Session σ :=
  x.onto (x.storage.staged stack draining outside queue)

/-- The session when a request is no more that came to a result. -/
def wrapUp (x : Session σ) (r : Request) (result : Except Error Nat) : Session σ :=
  (x.onto (x.storage.wrapUp r result)).sees
    ((x.storage.audience (r.recorded result)).map .called)

section Sees

variable (x : Session σ)

@[simp] theorem sees_nil : x.sees [] = x := by
  simp [sees]

@[simp] theorem sees_sees (first second : List Sight) :
    (x.sees first).sees second = x.sees (first ++ second) := by
  simp [sees]

@[simp] theorem storage_sees (sights : List Sight) : (x.sees sights).storage = x.storage :=
  rfl

@[simp] theorem storage_onto (s : Storage) : (x.onto s).storage = s :=
  rfl

@[simp] theorem onto_sees (sights : List Sight) (s : Storage) :
    (x.sees sights).onto s = (x.onto s).sees sights :=
  rfl

@[simp] theorem onto_onto (s s' : Storage) : (x.onto s).onto s' = x.onto s' :=
  rfl

end Sees

/-- What a session does next: a step of its storage, or else the device serves a request, or client
code is seen and makes a move. -/
theorem tick_cases {w : Worker σ} {x y : Session σ} (next : x.tick w = some y) :
    (∃ s, x.storage.step = some s ∧ y = x.onto s) ∨
      x.storage.step = none ∧
        ((∃ h r, y = x.serve w h r) ∨ ∃ sights a, y = (x.sees sights).act a) := by
  unfold tick at next
  split at next
  case h_1 s stepped => exact .inl ⟨s, stepped, (Option.some.inj next).symm⟩
  case h_2 rest =>
    refine .inr ⟨rest, ?_⟩
    split at next
    case h_1 h id _ _ =>
      split at next
      case h_1 r _ => exact .inl ⟨h, r, (Option.some.inj next).symm⟩
      case h_2 => exact .inr ⟨[], .leave, by simpa using (Option.some.inj next).symm⟩
    case h_2 => exact .inr ⟨[.called _], .leave, (Option.some.inj next).symm⟩
    case h_3 => exact .inr ⟨[], .collect, by simpa using (Option.some.inj next).symm⟩
    case h_4 => exact absurd next nofun

/-- A session takes the steps of its storage, and makes moves where the storage has none to take. -/
theorem tick_storage {w : Worker σ} {x y : Session σ} (next : x.tick w = some y) :
    x.storage.step = some y.storage ∨
      x.storage.step = none ∧ ∃ a, y.storage = x.storage.act a := by
  obtain ⟨s, stepped, rfl⟩ | ⟨rest, ⟨h, r, rfl⟩ | ⟨sights, a, rfl⟩⟩ := tick_cases next
  · exact .inl stepped
  · refine .inr ⟨rest, ?_⟩
    unfold serve
    cases w.pace with
    | prompt => exact ⟨(x.ask w.respond h r).1.move r.id, rfl⟩
    | parking => exact ⟨.leave, rfl⟩
  · exact .inr ⟨rest, a, rfl⟩

/-- The device changes when a handler of its is called with a request. -/
theorem device_tick {w : Worker σ} {x y : Session σ} (next : x.tick w = some y) :
    y.device = x.device ∨ ∃ h r, y.device = (w.respond x.device h r).2 := by
  obtain ⟨s, -, rfl⟩ | ⟨-, ⟨h, r, rfl⟩ | ⟨sights, a, rfl⟩⟩ := tick_cases next
  · exact .inl rfl
  · refine .inr ⟨h, r, ?_⟩
    unfold serve
    cases w.pace <;> rfl
  · exact .inl rfl

/-- A device that ends each request while its handler runs parks nothing. -/
theorem parked_tick {w : Worker σ} {x y : Session σ} (prompt : w.pace = .prompt)
    (next : x.tick w = some y) : y.parked = x.parked := by
  obtain ⟨s, -, rfl⟩ | ⟨-, ⟨h, r, rfl⟩ | ⟨sights, a, rfl⟩⟩ := tick_cases next
  · rfl
  · unfold serve
    rw [prompt]
    rfl
  · rfl

section Pipeline

variable {w : Worker σ} (x : Session σ) (r : Request) (rest : List Task) (draining : Bool)
  (outside queue : List Request)

theorem reaches_trans {x y z : Session σ} (first : Reaches (tick w) x y)
    (second : Reaches (tick w) y z) : Reaches (tick w) x z :=
  Relation.ReflTransGen.trans first second

/-- The storage goes on where it is not the clients' turn. -/
theorem reaches_step {x : Session σ} {stack : List Task} {s : Storage} {stack' : List Task}
    {draining draining' : Bool} {outside outside' queue queue' : List Request}
    (next : (x.storage.staged stack draining outside queue).step =
      some (s.staged stack' draining' outside' queue')) :
    Reaches (tick w) (x.staged stack draining outside queue)
      ((x.onto s).staged stack' draining' outside' queue') := by
  refine .single ?_
  have next : (x.staged stack draining outside queue).storage.step = _ := next
  simp only [tick, next]
  rfl

/-- Client code that is called back gives control back. -/
theorem reaches_called {code : Invocation} (client : ∀ h id, code ≠ .handler h id) :
    Reaches (tick w) (x.staged (.client code :: rest) draining outside queue)
      ((x.sees [.called code]).staged rest draining outside queue) := by
  refine .single ?_
  cases code with
  | handler h id => exact absurd rfl (client h id)
  | _ => rfl

/-- An announcement calls its listeners, one after the other. -/
theorem reaches_deliver (d : Delivery) :
    Reaches (tick w) (x.staged (.deliver d :: rest) draining outside queue)
      (((x.onto { x.storage with emitter := x.storage.emitter.purge }).sees
        (d.waiting.map fun l : Listener => .called (.listener l.callback d.notice))).staged
          rest draining outside queue) := by
  obtain ⟨notice, waiting, called⟩ := d
  induction waiting generalizing x with
  | nil => simpa using reaches_step (w := w) (x := x) rfl
  | cons l waiting ih =>
    refine reaches_trans (reaches_step (s := x.storage) rfl)
      (reaches_trans (reaches_called x _ draining outside queue (by simp)) ?_)
    simpa using ih (x.sees [.called (.listener l.callback notice)])

/-- The result is recorded and announced. -/
theorem reaches_record (result : Except Error Nat) :
    Reaches (tick w) (x.staged (.pipeline r (.record result) :: rest) draining outside queue)
      (((x.onto { x.storage with emitter := x.storage.informed (r.recorded result) }).sees
        ((x.storage.hearers (r.recorded result)).map .called)).staged
        (.pipeline (r.recorded result) (.settle (r.phase = .running)) :: rest)
          draining outside queue) := by
  have recorded := Storage.recordResult_eq (x.storage.staged rest draining outside queue) r result
  have same : (x.storage.staged rest draining outside queue).announcement (r.recorded result) =
    x.storage.announcement (r.recorded result) := rfl
  rw [same] at recorded
  unfold Storage.informed Storage.hearers
  cases announced : x.storage.announcement (r.recorded result) with
  | none =>
    rw [announced] at recorded
    have next : (x.storage.staged (.pipeline r (.record result) :: rest) draining outside
        queue).step = some (x.storage.staged
          (.pipeline (r.recorded result) (.settle (r.phase = .running)) :: rest) draining outside
          queue) := congrArg some recorded
    rw [List.map_nil, sees_nil]
    exact reaches_step next
  | some notice =>
    rw [announced] at recorded
    have next : (x.storage.staged (.pipeline r (.record result) :: rest) draining outside
        queue).step = some (({ x.storage with
          emitter := (x.storage.emitter.begin notice).2 } : Storage).staged
          (.deliver (x.storage.emitter.begin notice).1 ::
            .pipeline (r.recorded result) (.settle (r.phase = .running)) :: rest) draining outside
          queue) := congrArg some recorded
    refine reaches_trans (reaches_step next) ?_
    have delivered := reaches_deliver (w := w) (x.onto { x.storage with
      emitter := (x.storage.emitter.begin notice).2 })
      (.pipeline (r.recorded result) (.settle (r.phase = .running)) :: rest) draining outside queue
      (x.storage.emitter.begin notice).1
    have told : (x.storage.emitter.begin notice).1.notice = notice := rfl
    simpa [Function.comp_def, told] using delivered

/-- The state moves on. -/
theorem reaches_settle (dispatched : Bool) :
    Reaches (tick w) (x.staged (.pipeline r (.settle dispatched) :: rest) draining outside queue)
      ((x.onto ((x.storage.transition r).uncount r dispatched)).staged
        (.pipeline r (.observe (((x.storage.transition r).uncount r dispatched).pending = 0)) ::
          rest) draining outside (queue.map r.fallout)) := by
  refine reaches_step (congrArg some ?_)
  change (x.storage.staged rest draining outside queue).settle r dispatched = _
  unfold Storage.settle
  rw [Storage.transition_staged]
  cases dispatched <;> rfl

/-- The observer is told. -/
theorem reaches_observe (idle : Bool) :
    Reaches (tick w) (x.staged (.pipeline r (.observe idle) :: rest) draining outside queue)
      ((x.sees (r.observation.map .called)).staged
        (.pipeline { r with observer := none } (.conclude idle) :: rest) draining outside
        queue) := by
  cases r with
  | mk id kind offset size error data stats phase receiver observer buffer =>
    cases observer with
    | none =>
      exact (sees_nil x).symm ▸ reaches_step (s := x.storage) rfl
    | some o =>
      exact reaches_trans (reaches_step (s := x.storage) rfl)
        (reaches_called x _ draining outside queue (by simp))

/-- The caller is told. -/
theorem reaches_conclude (idle : Bool) :
    Reaches (tick w) (x.staged (.pipeline r (.conclude idle) :: rest) draining outside queue)
      (((x.onto { x.storage with kept := x.storage.keptAfter r }).sees
        (r.notification.map .called)).staged
        (.pipeline { r with receiver := none } (.release idle) :: rest) draining outside
        queue) := by
  cases r with
  | mk id kind offset size error data stats phase receiver observer buffer =>
    match receiver with
    | none | some (.promise number) =>
      change Reaches (tick w) _ (((x.onto _).sees []).staged ..)
      rw [sees_nil]
      exact reaches_step rfl
    | some (.call code) =>
      exact reaches_trans (reaches_step (s := x.storage) rfl)
        (reaches_called x _ draining outside queue (by simp))

/-- Buffers and record are given back, and a destruction that has succeeded lets go of listeners and
device. -/
theorem reaches_release (idle : Bool) (razes : r.Razes → queue = [] ∧ x.storage.isDestroyed) :
    Reaches (tick w) (x.staged (.pipeline r (.release idle) :: rest) draining outside queue)
      ((x.onto { x.storage with
          emitter := if r.Razes then x.storage.emitter.clear else x.storage.emitter
          attached := x.storage.attached && !decide r.Razes
          allocator := x.storage.allocator.releaseAll r.returned }).staged
        ((if idle then [.drain] else []) ++ rest) draining outside queue) := by
  have freed (r' : Request) (s : Storage) :
      Reaches (tick w)
        ((x.onto s).staged (.pipeline r' (.free idle) :: rest) draining outside queue)
        ((x.onto { s with allocator := s.allocator.releaseAll r'.leases }).staged
          ((if idle then [.drain] else []) ++ rest) draining outside queue) := by
    refine reaches_step (x := x.onto s) ?_
    cases idle <;> rfl
  by_cases ends : r.Razes
  · obtain ⟨rfl, dead⟩ := razes ends
    have dead : x.storage.ready = .destroyed := by simpa [Storage.isDestroyed] using dead
    have released := Storage.release_of_ended (s := x.storage.staged rest draining outside [])
      (r := r) idle ⟨ends.1, ends.2, dead⟩
    have cleared : Reaches (tick w)
        (x.staged (.pipeline r (.release idle) :: rest) draining outside [])
        (x.staged (.teardown [] :: .pipeline r (.free idle) :: rest) draining outside []) :=
      reaches_step (s := x.storage) (congrArg some released)
    have left : Reaches (tick w)
        (x.staged (.teardown [] :: .pipeline r (.free idle) :: rest) draining outside [])
        ((x.onto { x.storage with emitter := x.storage.emitter.clear, attached := false }).staged
          (.pipeline r (.free idle) :: rest) draining outside []) :=
      reaches_step rfl
    have returned : r.returned = r.leases := by simp [Request.returned, ends.1]
    refine reaches_trans cleared (reaches_trans left ?_)
    simpa [ends, returned] using freed r { x.storage with
      emitter := x.storage.emitter.clear, attached := false }
  · obtain ⟨r', a, released, same⟩ :=
      Storage.release_of_not_razes (x.storage.staged rest draining outside queue) idle ends
    have same : a.releaseAll r'.leases = x.storage.allocator.releaseAll r.returned := same
    have emptied : Reaches (tick w)
        (x.staged (.pipeline r (.release idle) :: rest) draining outside queue)
        ((x.onto { x.storage with allocator := a }).staged (.pipeline r' (.free idle) :: rest)
          draining outside queue) :=
      reaches_step (congrArg some released)
    refine reaches_trans emptied ?_
    simpa [ends, same] using freed r' { x.storage with allocator := a }

/-- A finished request is wrapped up, and all who should hear of it do. -/
theorem reaches_pipeline (result : Except Error Nat)
    (empty : (r.recorded result).Razes → queue = []) :
    Reaches (tick w) (x.staged (.pipeline r (.record result) :: rest) draining outside queue)
      ((x.wrapUp r result).staged
        ((if (x.storage.wrapUp r result).pending = 0 then [.drain] else []) ++ rest) draining
        outside (queue.map (r.recorded result).fallout)) := by
  let ended := r.recorded result
  let moved := x.storage.movedOn ended (r.phase = .running)
  have razes : ended.Razes → queue.map ended.fallout = [] ∧ moved.isDestroyed := fun ends => by
    have dead : (({ x.storage with emitter := x.storage.informed ended } : Storage).transition
      ended).ready = .destroyed := (Storage.transition_ready _ _).mpr (.inr ends)
    refine ⟨by simp [empty ends], ?_⟩
    simp only [moved, Storage.movedOn, Storage.isDestroyed, decide_eq_true_eq]
    unfold Storage.uncount
    split <;> exact dead
  have recorded := reaches_record (w := w) x r rest draining outside queue result
  have settled := reaches_settle (w := w)
    ((x.onto { x.storage with emitter := x.storage.informed ended }).sees
      ((x.storage.hearers ended).map .called)) ended rest draining outside queue
    (r.phase = .running)
  have observed := reaches_observe (w := w) ((x.onto moved).sees
    ((x.storage.hearers ended).map .called)) ended rest draining outside
    (queue.map ended.fallout) (moved.pending = 0)
  have concluded := reaches_conclude (w := w) ((x.onto moved).sees
    ((x.storage.hearers ended).map .called ++ ended.observation.map .called))
    { ended with observer := none } rest draining outside (queue.map ended.fallout)
    (moved.pending = 0)
  have released := reaches_release (w := w)
    ((x.onto { moved with kept := moved.keptAfter ended }).sees
      ((x.storage.hearers ended).map .called ++ ended.observation.map .called ++
        ended.notification.map .called))
    { ended with observer := none, receiver := none } rest draining outside
    (queue.map ended.fallout) (moved.pending = 0) razes
  rw [sees_sees] at observed
  rw [onto_sees, sees_sees, onto_onto] at concluded
  refine reaches_trans recorded (reaches_trans settled (reaches_trans observed
    (reaches_trans concluded ?_)))
  unfold wrapUp Storage.audience
  rw [List.map_append, List.map_append]
  simp only [decide_eq_true_eq] at released
  exact released

end Pipeline

section Drain

variable {w : Worker σ} (x : Session σ) (rest : List Task) (outside queue : List Request)

/-- Draining ends where nothing can be started. -/
theorem reaches_drainNext (idle : x.storage.barrier = true ∨ queue = []) :
    Reaches (tick w) (x.staged (.drainNext :: rest) true outside queue)
      (x.staged rest false outside queue) := by
  refine reaches_step (s := x.storage) (congrArg some ?_)
  change (x.storage.staged rest true outside queue).drainNext = _
  have none : (x.storage.staged rest true outside queue).startable? = none := by
    obtain barrier | rfl := idle
    · have barrier : (x.storage.staged rest true outside queue).barrier = true := barrier
      simp [Storage.startable?, barrier]
    · unfold Storage.startable?
      split <;> rfl
  simp only [Storage.drainNext, none]
  rfl

/-- There is nothing to drain where a drain is going on already, or nothing can be started. -/
theorem reaches_drain (draining : Bool)
    (nothing : draining = true ∨ x.storage.barrier = true ∨ queue = []) :
    Reaches (tick w) (x.staged (.drain :: rest) draining outside queue)
      (x.staged rest draining outside queue) := by
  cases draining with
  | true => exact reaches_step (s := x.storage) rfl
  | false =>
    have started : Reaches (tick w) (x.staged (.drain :: rest) false outside queue)
        (x.staged (.drainNext :: rest) true outside queue) := reaches_step (s := x.storage) rfl
    exact reaches_trans started (reaches_drainNext x rest outside queue (by simpa using nothing))

/-- A barrier that waits for what is inside the device is not started. -/
theorem reaches_drain_waiting {r : Request} (barrier : r.kind.isBarrier)
    (occupied : 0 < x.storage.pending) :
    Reaches (tick w) (x.staged (.drain :: rest) false outside (r :: queue))
      (x.staged rest false outside (r :: queue)) := by
  have started : Reaches (tick w) (x.staged (.drain :: rest) false outside (r :: queue))
      (x.staged (.drainNext :: rest) true outside (r :: queue)) := reaches_step (s := x.storage) rfl
  refine reaches_trans started (reaches_step (s := x.storage) (congrArg some ?_))
  change (x.storage.staged rest true outside (r :: queue)).drainNext = _
  have none : (x.storage.staged rest true outside (r :: queue)).startable? = none := by
    simp [Storage.startable?, Storage.staged, barrier, occupied]
  simp only [Storage.drainNext, none]
  rfl

end Drain

section Run

variable {w : Worker σ} (x : Session σ) (r : Request) (rest : List Task) (draining : Bool)
  (outside queue : List Request)

/-- A request that comes to its result in place. -/
theorem reaches_run_of_finished {result : Except Error Nat}
    (routed : (x.storage.launch r).route = .finished result) :
    Reaches (tick w) (x.staged (.run r :: rest) draining outside queue)
      ((x.onto (x.storage.launch r).storage).staged
        (.pipeline (x.storage.launch r).request (.record result) :: rest) draining outside
        queue) := by
  have ran := Storage.run_eq_launch (x.storage.staged rest draining outside queue) r
  rw [Storage.launch_staged] at ran
  simp only [routed] at ran
  exact reaches_step (congrArg some ran)

/-- A request that reaches a handler. -/
theorem reaches_run_of_handler {h : Handler} (routed : (x.storage.launch r).route = .handler h) :
    Reaches (tick w) (x.staged (.run r :: rest) draining outside queue)
      ((x.onto (x.storage.launch r).storage).staged
        (.client (.handler h (x.storage.launch r).request.id) :: rest) draining
        (outside ++ [(x.storage.launch r).request]) queue) := by
  have ran := Storage.run_eq_launch (x.storage.staged rest draining outside queue) r
  rw [Storage.launch_staged] at ran
  simp only [routed] at ran
  exact reaches_step (congrArg some ran)

/-- The device ends the request that it was given. -/
theorem act_move (response : Response) (running : r.phase = .running)
    (alive : x.storage.owned = true ∨ rest ≠ []) :
    (x.staged rest draining [r] queue).act (response.move r.id) =
      x.staged (.pipeline (response.apply r).1 (.record (response.apply r).2) ::
        .answer .unit :: rest) draining [] queue := by
  have found : (x.storage.staged rest draining [r] queue).find? r.id = some r := by
    simp [Storage.find?, Storage.staged]
  have taken : (x.storage.staged rest draining [r] queue).take r.id =
      x.storage.staged rest draining [] queue := by
    simp [Storage.take, Storage.staged]
  have alive : (x.storage.staged rest draining [r] queue).isAlive = true := by
    simpa [Storage.isAlive, Storage.staged] using alive
  refine congrArg x.onto ?_
  change (x.storage.staged rest draining [r] queue).act (response.move r.id) = _
  cases response with
  | verdict v =>
    simp only [Response.move, Storage.act, Storage.complete, found, taken, alive, if_true]
    rfl
  | dropped =>
    simp only [Response.move, Storage.act, Storage.abandon, found, taken, alive, if_true,
      Storage.letGo, running]
    rfl

/-- A handler that is called with a request has it served. -/
theorem tick_given (h : Handler) :
    tick w (x.staged (.client (.handler h r.id) :: rest) draining [r] queue) =
      some ((x.staged (.client (.handler h r.id) :: rest) draining [r] queue).serve w h r) := by
  have found :
      (x.staged (.client (.handler h r.id) :: rest) draining [r] queue).storage.find? r.id =
        some r := by
    simp [Storage.find?, Storage.staged, staged]
  change (match (x.staged (.client (.handler h r.id) :: rest) draining [r] queue).storage.find? r.id
    with | some r => some (serve w _ h r) | none => _) = _
  rw [found]

/-- A device that parks the request that its handler was given. -/
theorem reaches_park {h : Handler} (parking : w.pace = .parking) :
    Reaches (tick w) (x.staged (.client (.handler h r.id) :: rest) draining [r] queue)
      ((x.park w.respond h r).staged rest draining [r] queue) := by
  refine .single ?_
  rw [tick_given]
  unfold serve
  rw [parking]
  rfl

/-- A device that ends the request while its handler runs. -/
theorem reaches_serve {h : Handler} (prompt : w.pace = .prompt) (running : r.phase = .running) :
    Reaches (tick w) (x.staged (.client (.handler h r.id) :: rest) draining [r] queue)
      ((x.ask w.respond h r).2.staged (.pipeline ((x.ask w.respond h r).1.apply r).1
        (.record ((x.ask w.respond h r).1.apply r).2) :: .answer .unit ::
          .client (.handler h r.id) :: rest) draining [] queue) := by
  refine .single ?_
  rw [tick_given]
  unfold serve
  rw [prompt]
  exact congrArg some
    (act_move (x.ask w.respond h r).2 r _ draining queue _ running (.inr (by simp)))

/-- The handler takes its answer and returns. -/
theorem reaches_return (h : Handler) (id : RequestId) :
    Reaches (tick w) (x.staged (.answer .unit :: .client (.handler h id) :: rest) draining [] queue)
      (x.staged rest draining [] queue) :=
  reaches_trans (y := x.staged (.client (.handler h id) :: rest) draining [] queue)
    (.single rfl) (.single rfl)

/-- The session when a request has been run, and the device has ended it if it was given it. -/
def perform (f : Responder σ) (x : Session σ) (r : Request) : Session σ :=
  let y := x.onto (x.storage.launch r).storage
  let launched := (x.storage.launch r).request
  match (x.storage.launch r).route with
  | .finished result => y.wrapUp launched result
  | .handler h =>
    (y.ask f h launched).2.wrapUp ((y.ask f h launched).1.apply launched).1
      ((y.ask f h launched).1.apply launched).2

/-- Where nothing waits, there is nothing to drain after the end of a request. -/
theorem reaches_wrapUp (result : Except Error Nat) :
    Reaches (tick w) (x.staged (.pipeline r (.record result) :: rest) draining outside [])
      ((x.wrapUp r result).staged rest draining outside []) := by
  refine reaches_trans (reaches_pipeline x r rest draining outside [] result fun _ => rfl) ?_
  split
  · exact reaches_drain _ rest outside _ draining (.inr (.inr rfl))
  · exact .refl

/-- Where nothing waits, a request that runs is performed at one go, unless the device parks it. -/
theorem reaches_perform (atOnce : w.pace = .prompt ∨ ∃ result,
      (x.storage.launch r).route = .finished result) :
    Reaches (tick w) (x.staged (.run r :: rest) draining [] [])
      ((x.perform w.respond r).staged rest draining [] []) := by
  unfold perform
  obtain ⟨-, -, -, -, -, running⟩ := x.storage.launch_cases r
  cases routed : (x.storage.launch r).route with
  | finished result =>
    exact reaches_trans (reaches_run_of_finished x r rest draining [] [] routed)
      (reaches_wrapUp ..)
  | handler h =>
    have prompt : w.pace = .prompt := atOnce.resolve_right fun ⟨_, other⟩ => by
      simp [routed] at other
    exact reaches_trans (reaches_run_of_handler x r rest draining [] [] routed)
      (reaches_trans (reaches_serve _ _ rest draining [] prompt running)
        (reaches_trans (reaches_wrapUp ..) (reaches_return ..)))

end Run

end Session

end StorageEngine
