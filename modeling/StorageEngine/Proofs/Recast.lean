import StorageEngine.Proofs.Duties
import StorageEngine.Proofs.Receivers
import StorageEngine.Proofs.Passage

/-!
# Other receivers

Who hears of the end of a request plays no part in what happens to the request until then, and the
results that promises keep play no part in anything that a storage does by itself.  So a storage
does the same whoever stands in for its promises, whether or not somebody waits for a call behind
one, and whatever has been kept already: `Recast` says who stands in, and `Storage.recast` is the
storage with the others.

* `step_recast` — the storage and the one with the others take the same steps, unless the step is to
  tell one of those that others stand in for;
* `incidents_recast` — and the same happens;
* `recast_eq`, `step_before` — where others stand in for nothing, only what is kept can differ.
-/

namespace StorageEngine

/-- Who stands in for promises. -/
structure Recast where
  /-- Who hears of the end of a request in the place of a promise. -/
  receiver : Nat → Receiver
  /-- The answer of a call in the place of a promise. -/
  answer : Nat → Reply
  /-- Whether nobody waits for the call behind a promise. -/
  hides : Nat → Bool
  /-- What is kept in the place of what is kept. -/
  kept : List (Nat × Except Error Payload) → List (Nat × Except Error Payload)

/-- Nobody stands in for this promise. -/
structure Recast.Fixes (c : Recast) (number : Nat) : Prop where
  receiver : c.receiver number = .promise number
  answer : c.answer number = .promise number
  hides : c.hides number = false
  kept : ∀ l result, c.kept (l ++ [(number, result)]) = c.kept l ++ [(number, result)]

section Recast

variable (c : Recast)

def Receiver.recast : Receiver → Receiver
  | .call code => .call code
  | .promise number => c.receiver number

def Reply.recast : Reply → Reply
  | .promise number => c.answer number
  | reply => reply

def Request.recast (r : Request) : Request :=
  { r with receiver := r.receiver.map (·.recast c) }

def Order.recast (o : Order) : Order :=
  { o with receiver := o.receiver.map (·.recast c) }

/-- The task with the others, if it is not left out. -/
def Task.recast : Task → Option Task
  | .answer reply => some (.answer (reply.recast c))
  | .submit o => some (.submit (o.recast c))
  | .awaitOpening r => some (.awaitOpening (r.recast c))
  | .awaitClosing o => some (.awaitClosing (o.recast c))
  | .awaitCall number => if c.hides number then none else some (.awaitCall number)
  | .enter r => some (.enter (r.recast c))
  | .run r => some (.run (r.recast c))
  | .pipeline r stage => some (.pipeline (r.recast c) stage)
  | .teardown orphans => some (.teardown (orphans.map (·.recast c)))
  | t => some t

/-- The storage with the others. -/
def Storage.recast (s : Storage) : Storage :=
  { s with
    queue := s.queue.map (·.recast c)
    outside := s.outside.map (·.recast c)
    kept := c.kept s.kept
    stack := s.stack.filterMap (·.recast c) }

/-- What happens, with the others. -/
def Incident.recast : Incident → Incident
  | .answered reply => .answered (reply.recast c)
  | .admitted r => .admitted (r.recast c)
  | .begun r => .begun (r.recast c)
  | .shifted r => .shifted (r.recast c)
  | .cleared r => .cleared (r.recast c)
  | .lost r => .lost (r.recast c)
  | .settled r dispatched => .settled (r.recast c) dispatched
  | .abandoned r => .abandoned (r.recast c)
  | incident => incident

/-- A task that waits for no call is not left out. -/
theorem Task.exists_recast {t : Task} (outer : t.isAwait = false) : ∃ t', t.recast c = some t' := by
  cases t with
  | awaitCall => simp [isAwait] at outer
  | _ => exact ⟨_, rfl⟩

end Recast

section Unmoved

variable {c : Recast}

theorem Receiver.recast_eq {x : Receiver}
    (stays : ∀ number, x = .promise number → c.receiver number = .promise number) :
    x.recast c = x := by
  cases x with
  | call => rfl
  | promise number => exact stays number rfl

theorem Receiver.map_recast {receiver : Option Receiver}
    (stays : ∀ number, receiver = some (.promise number) → c.receiver number = .promise number) :
    receiver.map (·.recast c) = receiver := by
  cases receiver with
  | none => rfl
  | some x => exact congrArg some (recast_eq fun number same => stays number (by rw [same]))

theorem Request.recast_eq {r : Request}
    (stays : ∀ number, r.receiver = some (.promise number) →
      c.receiver number = .promise number) : r.recast c = r := by
  rw [recast, Receiver.map_recast stays]

theorem Order.recast_eq {o : Order}
    (stays : ∀ number, o.receiver = some (.promise number) →
      c.receiver number = .promise number) : o.recast c = o := by
  rw [recast, Receiver.map_recast stays]

theorem Request.map_recast_eq {rs : List Request}
    (stays : ∀ number, .promise number ∈ rs.flatMap (·.receiver.toList) →
      c.receiver number = .promise number) : rs.map (·.recast c) = rs := by
  refine (List.map_congr_left fun r held => ?_).trans rs.map_id
  refine recast_eq fun number waits => stays number ?_
  exact List.mem_flatMap.mpr ⟨r, held, by simp [waits]⟩

theorem Task.recast_eq {t : Task}
    (receivers : ∀ number, .promise number ∈ t.receivers → c.receiver number = .promise number)
    (calls : ∀ number, t = .awaitCall number → c.hides number = false)
    (answers : ∀ number, t = .answer (.promise number) → c.answer number = .promise number) :
    t.recast c = some t := by
  cases t with
  | answer reply =>
    cases reply with
    | promise number => simp [recast, Reply.recast, answers number rfl]
    | _ => rfl
  | submit o | awaitClosing o =>
    rw [recast, Order.recast_eq fun number waits =>
      receivers number (by simp [Task.receivers, waits])]
  | awaitOpening r | enter r | run r | pipeline r =>
    rw [recast, Request.recast_eq fun number waits =>
      receivers number (by simp [Task.receivers, waits])]
  | awaitCall number => simp [recast, calls number rfl]
  | teardown orphans => rw [recast, Request.map_recast_eq receivers]
  | _ => rfl

/-- If others stand in for nothing that the storage has to do with, then only what is kept can
change. -/
theorem Storage.recast_eq {s : Storage}
    (receivers : ∀ number, .promise number ∈ s.receivers → c.receiver number = .promise number)
    (calls : ∀ number, .awaitCall number ∈ s.stack → c.hides number = false)
    (answers : ∀ number, .answer (.promise number) ∈ s.stack →
      c.answer number = .promise number) :
    s.recast c = { s with kept := c.kept s.kept } := by
  simp only [Storage.receivers, List.mem_append] at receivers
  have shown : s.stack.filterMap (·.recast c) = s.stack := by
    refine (List.filterMap_congr fun t onStack => ?_).trans s.stack.filterMap_some
    refine Task.recast_eq (fun number waits => receivers number (.inr ?_))
      (fun number same => calls number (same ▸ onStack))
      (fun number same => answers number (same ▸ onStack))
    exact List.mem_flatMap.mpr ⟨t, onStack, waits⟩
  rw [recast, Request.map_recast_eq fun number waits => receivers number (.inl (.inl waits)),
    Request.map_recast_eq fun number waits => receivers number (.inl (.inr waits)), shown]

end Unmoved

namespace Storage

variable {c : Recast} (s : Storage)

section Parts

@[simp] theorem recast_ready : (s.recast c).ready = s.ready :=
  rfl

@[simp] theorem recast_isDestroyed : (s.recast c).isDestroyed = s.isDestroyed :=
  rfl

@[simp] theorem recast_barrier : (s.recast c).barrier = s.barrier :=
  rfl

@[simp] theorem recast_openError : (s.recast c).openError = s.openError :=
  rfl

@[simp] theorem recast_queue : (s.recast c).queue = s.queue.map (·.recast c) :=
  rfl

@[simp] theorem recast_attached : (s.recast c).attached = s.attached :=
  rfl

@[simp] theorem recast_capabilities : (s.recast c).capabilities = s.capabilities :=
  rfl

@[simp] theorem recast_limits : (s.recast c).limits = s.limits :=
  rfl

@[simp] theorem recast_allocator : (s.recast c).allocator = s.allocator :=
  rfl

@[simp] theorem recast_emitter : (s.recast c).emitter = s.emitter :=
  rfl

@[simp] theorem kind_recast (r : Request) : (r.recast c).kind = r.kind :=
  rfl

@[simp] theorem poison_recast (r : Request) (e : Error) :
    (r.recast c).poison e = (r.poison e).recast c :=
  rfl

theorem enqueue_recast (r : Request) :
    (s.recast c).enqueue (r.recast c) = (s.enqueue r).map (·.recast c) := by
  simp only [enqueue, recast_isDestroyed, recast_limits, recast_queue, List.length_map]
  split
  · rfl
  split
  · rfl
  · simp [Except.map, recast, Request.recast]

theorem make_recast (o : Order) :
    (s.recast c).make (o.recast c) = ((s.make o).1.map (·.recast c), (s.make o).2.recast c) := by
  have payload : (o.recast c).payload = o.payload := rfl
  simp only [make, recast_allocator, payload]
  cases s.allocator.allocate Request.recordSize with
  | mk granted a =>
    cases granted with
    | false => rfl
    | true =>
      cases o.payload with
      | none => rfl
      | some bytes =>
        dsimp only
        cases a.allocate bytes.length with
        | mk granted a => cases granted <;> rfl

theorem admitBarrier_recast (r : Request) :
    (s.recast c).admitBarrier (r.recast c) = (s.admitBarrier r).recast c := by
  unfold admitBarrier
  rw [enqueue_recast]
  cases s.enqueue r <;> rfl

theorem admitData_recast (r : Request) :
    (s.recast c).admitData (r.recast c) = (s.admitData r).recast c := by
  unfold admitData
  rw [apply_ite (recast c)]
  exact if_congr Iff.rfl rfl rfl

theorem submit_recast (o : Order) : (s.recast c).submit (o.recast c) = (s.submit o).recast c := by
  have kind : (o.recast c).kind = o.kind := rfl
  simp only [submit, recast_isDestroyed, recast_capabilities, kind, make_recast]
  split
  · rfl
  split
  · rfl
  cases s.make o with
  | mk r s' =>
    cases r with
    | none => rfl
    | some r =>
      dsimp only [Option.map_some]
      split
      · exact admitBarrier_recast s' r
      · exact admitData_recast s' r

theorem enter_recast (r : Request) : (s.recast c).enter (r.recast c) = (s.enter r).recast c := by
  have waits : (s.recast c).barrier ∨ (s.recast c).queue ≠ [] ↔ s.barrier ∨ s.queue ≠ [] := by
    simp
  unfold enter
  rw [enqueue_recast, apply_ite (recast c)]
  refine if_congr waits ?_ rfl
  cases s.enqueue r <;> rfl

theorem afterOpening_recast (r : Request) (opening : Except Error Unit) :
    (s.recast c).afterOpening (r.recast c) opening = (s.afterOpening r opening).recast c := by
  cases opening with
  | error e => rfl
  | ok =>
    have waits : !(s.recast c).barrier ∧ (s.recast c).queue = [] ∧ (s.recast c).ready ≠ .opened ↔
        !s.barrier ∧ s.queue = [] ∧ s.ready ≠ .opened := by
      simp
    unfold afterOpening
    dsimp only
    rw [apply_ite (recast c), recast_openError]
    refine if_congr waits ?_ rfl
    cases s.openError <;> rfl

theorem drain_recast : (s.recast c).drain = s.drain.recast c := by
  unfold drain
  rw [apply_ite (recast c)]
  exact if_congr Iff.rfl rfl rfl

theorem startable?_recast : (s.recast c).startable? =
    s.startable?.map fun next => (next.1.recast c, next.2.map (·.recast c)) := by
  unfold startable?
  rw [apply_ite (Option.map _)]
  refine if_congr Iff.rfl rfl ?_
  rw [recast_queue]
  cases s.queue with
  | nil => rfl
  | cons r rest =>
    rw [List.map_cons, apply_ite (Option.map _)]
    exact if_congr Iff.rfl rfl rfl

theorem drainNext_recast : (s.recast c).drainNext = s.drainNext.recast c := by
  unfold drainNext
  rw [startable?_recast]
  cases s.startable? <;> rfl

theorem prepare_recast (r : Request) : (s.recast c).prepare (r.recast c) =
    ((s.prepare r).1.map (·.recast c), (s.prepare r).2.recast c) := by
  have size : (r.recast c).size = r.size := rfl
  simp only [prepare, leaseBuffer, kind_recast, recast_allocator, size]
  cases r.kind <;> dsimp only
  case read =>
    cases s.allocator.allocate r.size with
    | mk granted a => cases granted <;> rfl
  case stat =>
    cases s.allocator.allocate Request.statsSize with
    | mk granted a => cases granted <;> rfl
  all_goals rfl

theorem route_recast (kind : Kind) :
    (s.recast c).route kind = ((s.route kind).1, (s.route kind).2.recast c) := by
  have same : (s.recast c).destination kind = s.destination kind := by
    apply destination_congr <;> rfl
  rw [route_eq, route_eq, same]
  rfl

theorem dispatch_recast (r : Request) :
    (s.recast c).dispatch (r.recast c) = (s.dispatch r).recast c := by
  have recorded : ({ s.recast c with last := some (r.recast c).info } : Storage) =
    ({ s with last := some r.info } : Storage).recast c := rfl
  unfold dispatch
  rw [recorded, kind_recast, route_recast]
  cases ({ s with last := some r.info } : Storage).route r.kind with
  | mk route s' =>
    cases route with
    | finished result => rfl
    | handler h =>
      dsimp only
      rw [recast_attached]
      cases s'.attached with
      | true => simp [handOut, push, recast, Task.recast, Request.recast]
      | false => rfl

theorem run_recast (r : Request) : (s.recast c).run (r.recast c) = (s.run r).recast c := by
  cases error : r.error with
  | some e =>
    rw [run_of_error error, run_of_error (r := r.recast c) error]
    rfl
  | none =>
    have prepared' : ((s.recast c).count (r.recast c)).prepare (r.recast c).started = _ :=
      (s.count r).prepare_recast r.started
    cases prepared : (s.count r).prepare r.started with
    | mk r' s' =>
      rw [prepared] at prepared'
      cases r' with
      | none =>
        rw [run_of_refused error prepared, run_of_refused (r := r.recast c) error prepared']
        rfl
      | some r' =>
        rw [run_of_prepared error prepared, run_of_prepared (r := r.recast c) error prepared']
        exact dispatch_recast s' r'

theorem recordResult_recast (r : Request) (result : Except Error Nat) :
    (s.recast c).recordResult (r.recast c) result = (s.recordResult r result).recast c := by
  have announced : (s.recast c).announcement ((r.recast c).recorded result) =
      s.announcement (r.recorded result) := by
    cases result <;> rfl
  have recorded : (r.recast c).recorded result = (r.recorded result).recast c := by
    cases result <;> rfl
  rw [recordResult_eq, recordResult_eq, announced, recorded]
  cases s.announcement (r.recorded result) <;> rfl

theorem settle_recast (r : Request) (dispatched : Bool) :
    (s.recast c).settle (r.recast c) dispatched = (s.settle r dispatched).recast c := by
  have moved : (s.recast c).transition (r.recast c) = (s.transition r).recast c := by
    have error : (r.recast c).error = r.error := rfl
    simp only [transition, error, kind_recast, recast_ready]
    cases r.error <;> cases r.kind <;> simp only [] <;> (try split) <;>
      simp [recast, *]
  unfold settle
  rw [moved]
  cases dispatched <;> rfl

theorem observe_recast (r : Request) (idle : Bool) :
    (s.recast c).observe (r.recast c) idle = (s.observe r idle).recast c := by
  have observer : (r.recast c).observer = r.observer := rfl
  unfold observe
  rw [observer]
  cases r.observer <;> rfl

theorem release_recast (r : Request) (idle : Bool) :
    (s.recast c).release (r.recast c) idle = (s.release r idle).recast c := by
  have error : (r.recast c).error = r.error := rfl
  simp only [release, kind_recast, error, recast_isDestroyed]
  cases r.kind <;> simp only [] <;> (try split) <;> rfl

theorem free_recast (r : Request) (idle : Bool) :
    (s.recast c).free (r.recast c) idle = (s.free r idle).recast c := by
  cases idle <;> rfl

theorem deliver_recast (d : Delivery) : (s.recast c).deliver d = (s.deliver d).recast c := by
  unfold deliver
  cases d.waiting <;> rfl

theorem teardown_recast (orphans : List Request) :
    (s.recast c).teardown (orphans.map (·.recast c)) = (s.teardown orphans).recast c := by
  cases orphans <;> rfl

theorem dropQueue_recast : (s.recast c).dropQueue = s.dropQueue.recast c := by
  have each (queue : List Request) (s : Storage) :
      (queue.map (·.recast c)).foldl discard (s.recast c) = (queue.foldl discard s).recast c := by
    induction queue generalizing s with
    | nil => rfl
    | cons r queue ih => exact ih (s.discard r)
  exact each s.queue { s with queue := [] }

end Parts

/-- The promise that the next step is about, if there is one. -/
def addressed? (s : Storage) : Option Nat :=
  match s.stack with
  | .pipeline r (.conclude _) :: _ =>
    match r.receiver with
    | some (.promise number) => some number
    | _ => none
  | .answer _ :: .awaitCall number :: _ => some number
  | _ => none

section Step

variable {s}

theorem stack_recast (s : Storage) : (s.recast c).stack = s.stack.filterMap (·.recast c) :=
  rfl

theorem tell_recast {receiver : Receiver} (result : Except Error Payload)
    (fixes : ∀ number, receiver = .promise number → c.Fixes number) :
    (s.recast c).tell (receiver.recast c) result = (s.tell receiver result).recast c := by
  cases receiver with
  | call code => rfl
  | promise number =>
    have fixed := fixes number rfl
    simp [tell, keep, Receiver.recast, fixed.receiver, recast, fixed.kept]

theorem conclude_recast {r : Request} {idle : Bool}
    (fixes : ∀ number, r.receiver = some (.promise number) → c.Fixes number) :
    (s.recast c).conclude (r.recast c) idle = (s.conclude r idle).recast c := by
  have receiver : (r.recast c).receiver = r.receiver.map (·.recast c) := rfl
  unfold conclude
  rw [receiver]
  cases told : r.receiver with
  | none => rfl
  | some receiver =>
    exact tell_recast (s := s.push [.pipeline { r with receiver := none } (.release idle)]) r.result
      fun number same => fixes number (same ▸ told)

theorem resume?_recast {reply : Reply} {task task' : Task} (shown : task.recast c = some task')
    (call : ∀ number, task = .awaitCall number → c.Fixes number)
    (answer : ∀ number, reply = .promise number → ¬ task.isAwait) :
    (s.recast c).resume? (reply.recast c) task' = (s.resume? reply task).map (·.recast c) := by
  cases task with
  | awaitOpening r =>
    obtain rfl := Option.some.inj shown
    cases reply with
    | promise number => exact absurd rfl (answer number rfl)
    | done result => exact congrArg some (s.afterOpening_recast r result)
    | _ => rfl
  | awaitClosing o =>
    obtain rfl := Option.some.inj shown
    cases reply with
    | promise number => exact absurd rfl (answer number rfl)
    | done result => cases result <;> rfl
    | _ => rfl
  | awaitCall number =>
    have fixed := call number rfl
    obtain rfl : Task.awaitCall number = task' := by simpa [Task.recast, fixed.hides] using shown
    cases reply with
    | promise number => exact absurd rfl (answer number rfl)
    | done result =>
      cases result with
      | ok => simp [resume?, reply, push, recast, Task.recast, Reply.recast, fixed.answer]
      | error e =>
        simp [resume?, reply, push, keep, recast, Task.recast, Reply.recast, fixed.answer,
          fixed.kept]
    | _ => rfl
  | _ =>
    obtain rfl := Option.some.inj shown
    rfl

/-- **Whoever hears.**  A storage and the one with others in the place of promises take the same
steps, unless the next step is about a promise that others stand in for. -/
theorem step_recast (nested : s.Nested)
    (fixes : ∀ number, s.addressed? = some number → c.Fixes number) :
    (s.recast c).step = s.step.map (·.recast c) := by
  obtain ⟨linked, top⟩ := nested
  unfold step
  rw [stack_recast]
  unfold addressed? at fixes
  cases stack : s.stack with
  | nil =>
    rw [List.filterMap_nil, dropQueue_recast]
    dsimp only
    rw [apply_ite (Option.map _)]
    exact if_congr (by simp [recast]) rfl rfl
  | cons task rest =>
    rw [stack] at linked top fixes
    let popped : Storage := { s with stack := rest }
    cases task with
    | answer reply =>
      cases rest with
      | nil => rfl
      | cons task rest =>
        have call (number : Nat) (same : task = .awaitCall number) : c.Fixes number :=
          fixes number (by rw [same])
        have answer (number : Nat) (same : reply = .promise number) : ¬ task.isAwait := by
          intro waits
          obtain ⟨result, other⟩ := (linked.1 waits).answer reply rfl
          exact nomatch same.symm.trans other
        obtain ⟨task', shown⟩ : ∃ task', task.recast c = some task' := by
          cases task with
          | awaitCall number =>
            exact ⟨.awaitCall number, by simp [Task.recast, (call number rfl).hides]⟩
          | _ => exact ⟨_, rfl⟩
        have stacked : (Task.answer reply :: task :: rest).filterMap (·.recast c) =
            .answer (reply.recast c) :: task' :: rest.filterMap (·.recast c) := by
          change Task.answer (reply.recast c) :: (task :: rest).filterMap (·.recast c) = _
          rw [List.filterMap_cons_some shown]
        rw [stacked]
        exact resume?_recast (s := { s with stack := rest }) shown call answer
    | client code => rfl
    | submit o => exact congrArg some (popped.submit_recast o)
    | enter r => exact congrArg some (popped.enter_recast r)
    | run r => exact congrArg some (popped.run_recast r)
    | drain => exact congrArg some popped.drain_recast
    | drainNext => exact congrArg some popped.drainNext_recast
    | deliver d => exact congrArg some (popped.deliver_recast d)
    | teardown orphans => exact congrArg some (popped.teardown_recast orphans)
    | awaitOpening | awaitClosing | awaitCall => exact absurd top (by simp [Task.isAwait])
    | pipeline r stage =>
      refine congrArg some ?_
      cases stage with
      | record result => exact popped.recordResult_recast r result
      | settle dispatched => exact popped.settle_recast r dispatched
      | observe idle => exact popped.observe_recast r idle
      | conclude idle =>
        refine conclude_recast (s := popped) fun number told => fixes number ?_
        simp [told]
      | release idle => exact popped.release_recast r idle
      | free idle => exact popped.free_recast r idle

end Step

/-- Others wait in the place of promises. -/
theorem receivers_recast : (s.recast c).receivers = s.receivers.map (·.recast c) := by
  have held (r : Request) :
      (r.recast c).receiver.toList = r.receiver.toList.map (·.recast c) := by
    cases receiver : r.receiver <;> simp [Request.recast, receiver]
  have ordered (o : Order) :
      (o.recast c).receiver.toList = o.receiver.toList.map (·.recast c) := by
    cases receiver : o.receiver <;> simp [Order.recast, receiver]
  have each (rs : List Request) : (rs.map (·.recast c)).flatMap (·.receiver.toList) =
      (rs.flatMap (·.receiver.toList)).map (·.recast c) := by
    simp [List.flatMap_map, List.map_flatMap, held]
  have onStack (t : Task) : (t.recast c).toList.flatMap (·.receivers) =
      t.receivers.map (·.recast c) := by
    cases t with
    | awaitCall number =>
      simp only [Task.recast]
      split <;> rfl
    | _ => simp [Task.recast, Task.receivers, held, ordered, each]
  have stacked (stack : List Task) : (stack.filterMap (·.recast c)).flatMap (·.receivers) =
      (stack.flatMap (·.receivers)).map (·.recast c) := by
    simp only [List.filterMap_eq_flatMap_toList, List.flatMap_assoc, onStack, List.map_flatMap]
  have outside : (s.recast c).outside = s.outside.map (·.recast c) := rfl
  simp only [receivers, recast_queue, outside, stack_recast, List.map_append, each, stacked]

/-- The same client code has control. -/
theorem codes_recast : (s.recast c).codes = s.codes := by
  have same (t : Task) : (t.recast c).bind Task.code? = t.code? := by
    cases t with
    | awaitCall number =>
      simp only [Task.recast]
      split <;> rfl
    | _ => rfl
  simp only [codes, stack_recast, List.filterMap_filterMap, same]

/-- A task on top that waits for no call is still on top. -/
theorem stack_recast_of_cons {task : Task} {rest : List Task}
    (top : Task.awaits s.stack = false) (stack : s.stack = task :: rest) :
    ∃ task', task.recast c = some task' ∧
      (s.recast c).stack = task' :: rest.filterMap (·.recast c) := by
  rw [stack] at top
  obtain ⟨task', shown⟩ := Task.exists_recast c top
  refine ⟨task', shown, ?_⟩
  rw [stack_recast, stack, List.filterMap_cons_some shown]

section Incidents

variable {s}

/-- The same client code is called. -/
theorem newcomers_recast (s' : Storage) :
    (s.recast c).newcomers (s'.recast c) = (s.newcomers s').map (·.recast c) := by
  have same : Incident.recast c ∘ Incident.invoked = Incident.invoked := rfl
  simp only [newcomers, codes_recast, List.map_map, same]

theorem admission_recast (r : Request) :
    (s.recast c).admission (r.recast c) = (s.admission r).map (·.recast c) := by
  unfold admission
  rw [enqueue_recast]
  cases s.enqueue r <;> rfl

theorem submission_recast (o : Order) :
    (s.recast c).submission (o.recast c) = (s.submission o).map (·.recast c) := by
  have kind : (o.recast c).kind = o.kind := rfl
  simp only [submission, recast_isDestroyed, recast_capabilities, kind, make_recast]
  split
  · rfl
  split
  · rfl
  cases s.make o with
  | mk r s' =>
    cases r with
    | none => rfl
    | some r =>
      dsimp only [Option.map_some]
      split
      · exact admission_recast r
      · rfl

theorem progress_recast {r : Request} {stage : Stage}
    (fixes : ∀ idle number, stage = .conclude idle → r.receiver = some (.promise number) →
      c.Fixes number) :
    (s.recast c).progress (r.recast c) stage = (s.progress r stage).map (·.recast c) := by
  cases stage with
  | record | settle | free => rfl
  | observe idle =>
    simp only [progress, observe_recast, newcomers_recast]
  | conclude idle =>
    have concluded : (s.recast c).conclude (r.recast c) idle = (s.conclude r idle).recast c :=
      conclude_recast fun number told => fixes idle number rfl told
    simp only [progress, concluded, newcomers_recast]
  | release idle =>
    have error : (r.recast c).error = r.error := rfl
    simp only [progress, kind_recast, error, recast_isDestroyed, recast_queue]
    split
    · simp [Incident.recast]
    · rfl

/-- **Whatever is heard.**  With others in the place of promises, the next step brings about the
same, unless it is about a promise that others stand in for. -/
theorem incidents_recast (top : Task.awaits s.stack = false)
    (fixes : ∀ number, s.addressed? = some number → c.Fixes number) :
    (s.recast c).incidents = s.incidents.map (·.recast c) := by
  unfold incidents
  unfold addressed? at fixes
  cases stack : s.stack with
  | nil => simp [stack_recast, stack, Incident.recast]
  | cons task rest =>
    obtain ⟨task', shown, stack'⟩ := s.stack_recast_of_cons (c := c) top stack
    rw [stack] at top fixes
    let popped : Storage := { s with stack := rest }
    rw [stack']
    change (popped.recast c).performance task' = (popped.performance task).map (·.recast c)
    cases task with
    | awaitOpening | awaitClosing | awaitCall => simp [Task.isAwait] at top
    | submit o =>
      obtain rfl := Option.some.inj shown
      exact submission_recast o
    | enter r =>
      obtain rfl := Option.some.inj shown
      have waits : (popped.recast c).barrier ∨ (popped.recast c).queue ≠ [] ↔
          popped.barrier ∨ popped.queue ≠ [] := by
        simp
      simp only [performance, waits]
      split
      · exact admission_recast r
      · rfl
    | drainNext =>
      obtain rfl := Option.some.inj shown
      simp only [performance, startable?_recast]
      cases popped.startable? <;> rfl
    | run r =>
      obtain rfl := Option.some.inj shown
      simp only [performance, run_recast, newcomers_recast]
    | pipeline r stage =>
      obtain rfl := Option.some.inj shown
      refine progress_recast fun idle number same told => fixes number ?_
      subst same
      simp [told]
    | deliver d =>
      obtain rfl := Option.some.inj shown
      simp only [performance, deliver_recast, newcomers_recast]
    | _ =>
      obtain rfl := Option.some.inj shown
      rfl

end Incidents

end Storage

/-- Nobody stands in for any promise, but other results have been kept before. -/
def Recast.before (kept : List (Nat × Except Error Payload)) : Recast where
  receiver := .promise
  answer := .promise
  hides _ := false
  kept := (kept ++ ·)

section Before

variable (kept : List (Nat × Except Error Payload))

theorem Recast.fixes_before (number : Nat) : (Recast.before kept).Fixes number where
  receiver := rfl
  answer := rfl
  hides := rfl
  kept l _ := (List.append_assoc kept l _).symm

theorem Storage.recast_before (s : Storage) :
    s.recast (.before kept) = { s with kept := kept ++ s.kept } :=
  recast_eq (fun _ _ => rfl) (fun _ _ => rfl) (fun _ _ => rfl)

/-- What has been kept before plays no part in what a storage does. -/
theorem Storage.step_before {s : Storage} (nested : s.Nested) :
    ({ s with kept := kept ++ s.kept } : Storage).step =
      s.step.map fun s => { s with kept := kept ++ s.kept } := by
  have stepped := Storage.step_recast (c := .before kept) nested
    fun number _ => Recast.fixes_before kept number
  simpa only [Storage.recast_before] using stepped

end Before

end StorageEngine
