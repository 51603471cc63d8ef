import StorageEngine.Proofs.Recast

/-!
# The moves of clients with other receivers

Clients can do the same whoever stands in for the promises of a storage (`act_recast`), and the same
happens (`incidentsOf_recast`), unless they bring in, or ask for, a promise that others stand in
for.
-/

namespace StorageEngine.Storage

variable {c : Recast} {s : Storage}

theorem isOpenSettled_recast : (s.recast c).isOpenSettled = s.isOpenSettled := by
  rw [isOpenSettled, isOpenSettled, recast_queue, List.isEmpty_map]
  rfl

theorem order_recast (op : Operation) (receiver : Option Receiver) (observer : Option Observer) :
    (op.order receiver observer).recast c = op.order (receiver.map (·.recast c)) observer := by
  cases op <;> rfl

/-- A call with others, unless it is answered at once. -/
theorem call_recast {op : Operation} {receiver : Option Receiver} {observer : Option Observer}
    (fixes : op = .opening → observer = none → s.isOpenSettled →
      ∀ number, receiver = some (.promise number) → c.Fixes number) :
    (s.recast c).call op (receiver.map (·.recast c)) observer =
      (s.call op receiver observer).recast c := by
  have submits : (s.recast c).push [.submit (op.order (receiver.map (·.recast c)) observer)] =
      (s.push [.submit (op.order receiver observer)]).recast c := by
    rw [← order_recast]
    rfl
  cases op with
  | destroying =>
    simp only [call, ← order_recast]
    rfl
  | opening =>
    simp only [call, isOpenSettled_recast]
    split
    case isTrue settled =>
      cases told : receiver with
      | none => rfl
      | some receiver' =>
        exact tell_recast (s := s.reply (.done (.ok ()))) _ fun number same =>
          fixes rfl settled.1 settled.2 number (same ▸ told)
    case isFalse => exact submits
  | _ => exact submits

theorem callPromised_recast {op : Operation} (fixed : c.Fixes s.nextPromise) :
    (s.recast c).callPromised op = (s.callPromised op).recast c := by
  let base : Storage := { s with nextPromise := s.nextPromise + 1 }.push [.awaitCall s.nextPromise]
  have pushed : { s.recast c with nextPromise := s.nextPromise + 1 }.push
      [.awaitCall s.nextPromise] = base.recast c := by
    simp [base, push, recast, Task.recast, fixed.hides]
  let receiver : Option Receiver := some (.promise s.nextPromise)
  have fixes (number : Nat) (same : receiver = some (.promise number)) : c.Fixes number := by
    obtain rfl : s.nextPromise = number := by simpa [receiver] using same
    exact fixed
  have called : (base.recast c).call op (receiver.map (·.recast c)) none =
      (base.call op receiver none).recast c := call_recast fun _ _ _ => fixes
  rw [Receiver.map_recast fun number same => (fixes number same).receiver, ← pushed] at called
  exact called

theorem find?_recast (id : RequestId) :
    (s.recast c).find? id = (s.find? id).map (·.recast c) := by
  simp only [find?, recast, List.find?_map]
  rfl

theorem take_recast (id : RequestId) : (s.recast c).take id = (s.take id).recast c := by
  simp only [take, recast, List.filter_map]
  rfl

theorem isAlive_recast (top : Task.awaits s.stack = false) :
    (s.recast c).isAlive = s.isAlive := by
  have empty : (s.recast c).stack.isEmpty = s.stack.isEmpty := by
    cases stack : s.stack with
    | nil =>
      rw [stack_recast, stack]
      rfl
    | cons task rest =>
      obtain ⟨task', -, stack'⟩ := s.stack_recast_of_cons (c := c) top stack
      rw [stack']
      rfl
  rw [isAlive, isAlive, empty]
  rfl

theorem letGo_recast (s : Storage) (r : Request) :
    (s.recast c).letGo (r.recast c) = (s.letGo r).recast c := by
  unfold letGo
  rw [apply_ite (recast c)]
  exact if_congr Iff.rfl rfl rfl

theorem makeRequest_recast (kind : Kind) (offset size : Nat) :
    (s.recast c).makeRequest kind offset size = (s.makeRequest kind offset size).recast c := by
  let o : Order :=
    { kind, offset, size, payload := if kind = .write then some (Bytes.zeros size) else none }
  have made : (s.recast c).make o = ((s.make o).1.map (·.recast c), (s.make o).2.recast c) :=
    s.make_recast o
  simp only [o] at made
  simp only [makeRequest, recast_isDestroyed, made]
  split
  · rfl
  · cases s.make o with
    | mk r s' =>
      cases r <;> simp [handOut, reply, push, recast, Task.recast, Reply.recast, Request.recast]

theorem pushRequest_recast (id : RequestId) :
    (s.recast c).pushRequest id = (s.pushRequest id).recast c := by
  simp only [pushRequest, find?_recast, take_recast]
  cases s.find? id with
  | none => rfl
  | some r =>
    simp only [Option.map_some, enqueue_recast]
    cases (s.take id).enqueue r with
    | ok s' => simp [Except.map, push, recast, Task.recast, Reply.recast]
    | error e => exact letGo_recast ((s.take id).reply (.length (.error e))) r

theorem shift_recast : (s.recast c).shift = s.shift.recast c := by
  simp only [shift, recast_queue]
  cases s.queue with
  | nil => rfl
  | cons r rest => simp [handOut, reply, push, recast, Task.recast, Reply.recast, Request.recast]

theorem complete_recast (top : Task.awaits s.stack = false) (id : RequestId) (v : Verdict) :
    (s.recast c).complete id v = (s.complete id v).recast c := by
  simp only [complete, find?_recast, take_recast, isAlive_recast top]
  cases s.find? id with
  | none => rfl
  | some r =>
    simp only [Option.map_some]
    split <;> rfl

theorem abandon_recast (top : Task.awaits s.stack = false) (id : RequestId) :
    (s.recast c).abandon id = (s.abandon id).recast c := by
  simp only [abandon, find?_recast, take_recast, isAlive_recast top]
  cases s.find? id with
  | none => rfl
  | some r =>
    simp only [Option.map_some]
    split
    · exact letGo_recast ((s.take id).reply .unit) r
    · rfl

theorem edit_recast (id : RequestId) (e : Edit) :
    (s.recast c).edit id e = (s.edit id e).recast c := by
  have each (r : Request) : (if (r.recast c).id = id then e.apply (r.recast c) else r.recast c) =
      (if r.id = id then e.apply r else r).recast c := by
    rw [apply_ite (Request.recast c)]
    exact if_congr Iff.rfl (by cases e <;> rfl) rfl
  simp [edit, recast, reply, push, Task.recast, Reply.recast, each]

theorem register_recast (event : Event) (ttl : Ttl) (callback : Callback) :
    (s.recast c).register event ttl callback = (s.register event ttl callback).recast c := by
  simp only [register, recast_emitter]
  cases s.emitter.register event ttl callback <;> rfl

theorem leave_recast (top : Task.awaits s.stack = false) :
    (s.recast c).leave = s.leave.recast c := by
  unfold leave
  cases stack : s.stack with
  | nil =>
    rw [stack_recast, stack]
    rfl
  | cons task rest =>
    obtain ⟨task', shown, stack'⟩ := s.stack_recast_of_cons (c := c) top stack
    rw [stack']
    rw [stack] at top
    cases task with
    | awaitCall => simp [Task.isAwait] at top
    | _ =>
      obtain rfl := Option.some.inj shown
      rfl

theorem collect_recast (top : Task.awaits s.stack = false) :
    (s.recast c).collect = s.collect.recast c := by
  unfold collect
  cases stack : s.stack with
  | nil =>
    rw [stack_recast, stack]
    rfl
  | cons task rest =>
    obtain ⟨task', shown, stack'⟩ := s.stack_recast_of_cons (c := c) top stack
    rw [stack']
    rw [stack] at top
    cases task with
    | awaitCall => simp [Task.isAwait] at top
    | _ =>
      obtain rfl := Option.some.inj shown
      rfl

/-- **Whoever asks.**  With others in the place of promises, clients can do the same, unless they
bring in, or ask for, a promise that others stand in for. -/
theorem act_recast {a : Action} (top : Task.awaits s.stack = false)
    (joins : ∀ number, .promise number ∈ s.joins a → c.Fixes number)
    (asks : ∀ number, a = .poll number ∨ a = .forget number →
      (s.recast c).forget number = (s.forget number).recast c ∧
        (s.recast c).promised number = s.promised number) :
    (s.recast c).act a = (s.act a).recast c := by
  cases a with
  | call op receiver observer =>
    have fixes (number : Nat) (same : receiver = some (.promise number)) : c.Fixes number :=
      joins number (by simp [Storage.joins, same])
    have called : (s.recast c).call op (receiver.map (·.recast c)) observer =
        (s.call op receiver observer).recast c := call_recast fun _ _ _ => fixes
    rwa [Receiver.map_recast fun number same => (fixes number same).receiver] at called
  | promise op => exact callPromised_recast (joins _ (by simp [Storage.joins]))
  | poll number =>
    obtain ⟨forgot, same⟩ := asks number (.inl rfl)
    simp only [act, forgot, same]
    rfl
  | forget number =>
    simp only [act, (asks number (.inr rfl)).1]
    rfl
  | makeRequest kind offset size => exact makeRequest_recast kind offset size
  | push id => exact pushRequest_recast id
  | shift => exact shift_recast
  | complete id v => exact complete_recast top id v
  | abandon id => exact abandon_recast top id
  | edit id e => exact edit_recast id e
  | register event ttl callback => exact register_recast event ttl callback
  | listen event ttl callback =>
    simp only [act, listen, recast_isDestroyed, register_recast]
    split <;> rfl
  | leave => exact leave_recast top
  | collect => exact collect_recast top
  | _ => rfl

theorem answeredAtOnce_recast (op : Operation) (receiver : Option Receiver)
    (observer : Option Observer) : (s.recast c).answeredAtOnce op receiver observer =
      (s.answeredAtOnce op receiver observer).map (·.recast c) := by
  by_cases atOnce : op = .opening ∧ observer = none ∧ s.isOpenSettled = true
  · obtain ⟨rfl, rfl, settled⟩ := atOnce
    have settled' : (s.recast c).isOpenSettled = true := s.isOpenSettled_recast.trans settled
    rw [answeredAtOnce_of_settled settled, answeredAtOnce_of_settled settled']
    split <;> rfl
  · rw [answeredAtOnce_of_not atOnce, answeredAtOnce_of_not (by rwa [isOpenSettled_recast])]
    rfl

theorem pushing_recast (id : RequestId) :
    (s.recast c).pushing id = (s.pushing id).map (·.recast c) := by
  simp only [pushing, find?_recast, take_recast]
  cases s.find? id with
  | none => rfl
  | some r =>
    simp only [Option.map_some, enqueue_recast]
    cases (s.take id).enqueue r with
    | ok s' => rfl
    | error e =>
      dsimp only [Except.map]
      rw [apply_ite (List.map (Incident.recast c))]
      rfl

theorem dropping_recast (top : Task.awaits s.stack = false) (id : RequestId) :
    (s.recast c).dropping id = (s.dropping id).map (·.recast c) := by
  simp only [dropping, find?_recast, isAlive_recast top]
  cases s.find? id with
  | none => rfl
  | some r =>
    dsimp only [Option.map_some]
    rw [apply_ite (List.map (Incident.recast c))]
    rfl

/-- What a move brings about is the same, with the others. -/
theorem incidentsOf_recast {a : Action} (top : Task.awaits s.stack = false) :
    (s.recast c).incidentsOf a = (s.incidentsOf a).map (·.recast c) := by
  cases a with
  | call op receiver observer =>
    exact congrArg (List.cons _) (answeredAtOnce_recast op receiver observer)
  | push id => exact congrArg (List.cons _) (pushing_recast id)
  | shift =>
    simp only [incidentsOf, recast_queue]
    cases s.queue <;> rfl
  | abandon id => exact congrArg (List.cons _) (dropping_recast top id)
  | collect =>
    unfold incidentsOf
    cases stack : s.stack with
    | nil =>
      rw [stack_recast, stack]
      rfl
    | cons task rest =>
      obtain ⟨task', shown, stack'⟩ := s.stack_recast_of_cons (c := c) top stack
      rw [stack']
      rw [stack] at top
      cases task with
      | awaitCall => simp [Task.isAwait] at top
      | _ =>
        obtain rfl := Option.some.inj shown
        rfl
  | _ => rfl

end StorageEngine.Storage
