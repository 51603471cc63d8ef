import Mathlib.Algebra.GroupWithZero.Nat
import StorageEngine.Proofs.Custody

/-!
# What is left to be done

As long as its clients order nothing, a storage runs dry.  `Storage.effort` bounds how many more
steps it can take: every task counts for the steps that it needs itself, a request that waits counts
for running it, and one inside the device for finishing it.  An announcement takes as many calls as
there are listeners, so the bound depends on how many there can be.

`Storage.demand` counts what can still end inside the device: what waits, what is inside, and what
the tasks of the stack will order.  No step raises it.

* `effort_lt_of_step` — every step of a storage that is held takes some of the effort;
* `Turn.demand_le` — and adds nothing to the demand;
* `effort_lt_of_act`, `act_complete` — so do client code that gives control back and the end of a
  request inside the device;
* `Turn.handlers`, `Move.handlers` — who gives control to a handler, and what is inside the device.
-/

namespace StorageEngine

/-- The steps from a stage of a finished request to its end, where an announcement has at most so
many listeners. -/
def Stage.effort (listeners : Nat) : Stage → Nat
  | .record _ => 2 * listeners + 12
  | .settle _ => 10
  | .observe _ => 9
  | .conclude _ => 7
  | .release _ => 5
  | .free _ => 3

namespace Task

/-- The steps that a task takes, with everything that comes of it. -/
def effort (listeners : Nat) : Task → Nat
  | .client _ | .answer _ | .awaitCall _ | .drainNext => 1
  | .drain => 2
  | .deliver d => 2 * d.waiting.length + 1
  | .teardown orphans => (2 * listeners + 13) * orphans.length + 1
  | .pipeline _ stage => stage.effort listeners
  | .run _ => 2 * listeners + 18
  | .enter _ | .awaitOpening _ => 2 * listeners + 21
  | .submit o | .awaitClosing o =>
    if o.kind.isBarrier then 2 * listeners + 23 else 4 * listeners + 45

/-- How many requests of a task can still reach the device. -/
def demand : Task → Nat
  | .enter _ | .awaitOpening _ | .run _ => 1
  | .submit o | .awaitClosing o => if o.kind.isBarrier then 1 else 2
  | _ => 0

/-- A handler of the device has control. -/
def isHandler : Task → Bool
  | .client (.handler _ _) => true
  | _ => false

end Task

namespace Storage

/-- The requests inside the device, by number. -/
def entrusted (s : Storage) : List RequestId :=
  (s.outside.filter (·.phase = .running)).map (·.id)

/-- The steps that a storage can still take where nothing is ordered. -/
def effort (listeners : Nat) (s : Storage) : Nat :=
  (s.stack.map (Task.effort listeners)).sum + (2 * listeners + 19) * s.queue.length +
    (2 * listeners + 14) * s.entrusted.length

/-- How many requests can still reach the device, or are inside it. -/
def demand (s : Storage) : Nat :=
  (s.stack.map Task.demand).sum + s.queue.length + s.entrusted.length

end Storage

namespace Storage

/-- An announcement calls the listeners that there are. -/
theorem recordResult_waiting (s : Storage) (r : Request) (result : Except Error Nat) :
    ∃ (emitter : Emitter) (announced : Option Delivery), s.recordResult r result = { s with
      emitter := emitter
      stack := (announced.map Task.deliver).toList ++
        .pipeline (r.recorded result) (.settle (r.phase = .running)) :: s.stack } ∧
      emitter.size = s.emitter.size ∧ ∀ d ∈ announced, d.waiting.length ≤ s.emitter.size := by
  cases result with
  | ok size | error e =>
    unfold recordResult
    dsimp only
    split
    · exact ⟨s.emitter, none, rfl, rfl, by simp⟩
    split
    · exact ⟨s.emitter, none, rfl, rfl, by simp⟩
    · refine ⟨_, some _, rfl, Emitter.size_begin .., fun d now => ?_⟩
      obtain rfl := Option.some.inj now
      exact List.length_filter_le ..

end Storage

section Turn

variable {s s' : Storage} {i : History} {listeners : Nat}

section Effort

attribute [local simp] Storage.effort Storage.entrusted Task.effort Stage.effort Nat.mul_add
  Nat.add_mul

/-- A step takes some of what is left to be done, and adds no listener. -/
theorem Turn.effort_lt (t : Turn s i s') (owned : s.owned = true)
    (quiet : ∀ r result rest, s.stack ≠ .pipeline r (.record result) :: rest) :
    s'.effort listeners < s.effort listeners ∧ s'.emitter.size ≤ s.emitter.size := by
  have opening : Kind.opening.isBarrier = true := rfl
  cases t with
  | lost top unowned => simp [owned] at unowned
  | recorded top => exact absurd top (quiet _ _ _)
  | @freed r idle rest top a =>
    cases idle <;> simp [top]
  | queued top a data buffer barrier | deferred top a data buffer barrier
  | offered top a data buffer barrier =>
    simp [top, barrier, opening]
    omega
  | dispatched top r' handler a last needsOpen follows phase =>
    simp [top, phase]
    omega
  | announced top last =>
    exact ⟨by simp [top, last], Emitter.length_retain_le ..⟩
  | detached top =>
    simp [top, Emitter.clear, Emitter.size]
  | refused top | closingRefused top =>
    simp [top]
    split <;> omega
  | _ =>
    simp [*]
    try omega

/-- So does every step of a storage that is held. -/
theorem Storage.effort_lt_of_step (next : s.step = some s') (owned : s.owned = true)
    (few : s.emitter.size ≤ listeners) :
    s'.effort listeners < s.effort listeners ∧ s'.emitter.size ≤ listeners := by
  by_cases ends : ∃ r result rest, s.stack = .pipeline r (.record result) :: rest
  · obtain ⟨r, result, rest, top⟩ := ends
    obtain ⟨emitter, announced, recorded, size, calls⟩ :=
      recordResult_waiting { s with stack := rest } r result
    have step : s.step = some ({ s with stack := rest }.recordResult r result) := by
      simp only [step, top, perform, advance]
    obtain rfl := Option.some.inj (next.symm.trans step)
    rw [recorded]
    refine ⟨?_, Nat.le_trans (Nat.le_of_eq size) few⟩
    cases announced with
    | none => simp [top]
    | some d =>
      have calls : d.waiting.length ≤ s.emitter.size := calls d rfl
      simp [top]
      omega
  · obtain ⟨less, fewer⟩ := (turn_of_step next).effort_lt owned
      fun r result rest top => ends ⟨r, result, rest, top⟩
    exact ⟨less, Nat.le_trans fewer few⟩

end Effort

section Demand

attribute [local simp] Storage.demand Storage.entrusted Task.demand

/-- No step adds to what can still reach the device. -/
theorem Turn.demand_le (t : Turn s i s') : s'.demand ≤ s.demand := by
  cases t with
  | recorded top emitter announced =>
    cases announced <;> simp [top]
  | @freed r idle rest top a =>
    cases idle <;> simp [top]
  | deferred top a data buffer barrier =>
    have opening : Kind.opening.isBarrier = true := rfl
    simp [top, barrier, opening]
    omega
  | queued top a data buffer barrier =>
    simp [top, barrier]
    omega
  | offered top a data buffer barrier => simp [top, barrier]
  | dispatched top r' handler a last needsOpen follows phase =>
    simp [top, phase]
    omega
  | _ =>
    simp [*]
    try omega

end Demand

/-- A step gives control to a handler when it dispatches a request, and then only. -/
theorem Turn.handlers (t : Turn s i s') (below : s.stack.tail.all (!·.isHandler))
    (listeners : Nat) :
    (∃ r r' rest h n, s.stack = .run r :: rest ∧ s'.stack = .client (.handler h r.id) :: rest ∧
      s'.outside = s.outside ++ [r'] ∧ r'.id = r.id ∧ r'.phase = .running ∧ s.Serves r h n ∧
      s'.effort listeners + 3 = s.effort listeners) ∨
    s'.outside = s.outside ∧ s'.stack.all (!·.isHandler) := by
  cases t with
  | recorded top emitter announced =>
    cases announced <;> simp_all [Task.isHandler]
  | @freed r idle rest top a =>
    cases idle <;> simp_all [Task.isHandler]
  | dispatched top r' handler a last needsOpen follows phase stat something error serves =>
    refine .inl ⟨_, r', _, handler, needsOpen, top, rfl, rfl, follows.id, phase, serves, ?_⟩
    simp [Storage.effort, Storage.entrusted, Task.effort, top, phase, Nat.mul_add]
    omega
  | _ => simp_all [Task.isHandler]

end Turn

section Move

variable {s s' : Storage} {i : History} {a : Action} {id : RequestId} {r : Request}

theorem Storage.entrusted_take (s : Storage) (id : RequestId) :
    (s.take id).entrusted = s.entrusted.filter (· ≠ id) := by
  simp only [entrusted, take, List.filter_map, List.filter_filter, Function.comp_def]
  simp only [Bool.and_comm]

/-- What is not inside the device may be taken away. -/
theorem Storage.entrusted_take_of_found (custody : s.Custody) (found : s.find? id = some r)
    (notRunning : r.phase ≠ .running) : (s.take id).entrusted = s.entrusted := by
  obtain ⟨before, after, split, taken, -⟩ :=
    outside_eq_of_find? (countP_outside_le custody.unique id) found
  unfold entrusted
  rw [taken, split]
  simp [notRunning]

theorem Storage.Custody.nodup_outside (custody : s.Custody) : (s.outside.map (·.id)).Nodup := by
  have all := custody.nodup
  rw [Storage.requests, List.map_append, List.map_append] at all
  exact all.of_append_left.of_append_right

theorem Storage.Custody.nodup_entrusted (custody : s.Custody) : s.entrusted.Nodup :=
  custody.nodup_outside.sublist (List.filter_sublist.map _)

/-- What is outside is not on the stack. -/
theorem Storage.Custody.outside_apart (custody : s.Custody) {q r : Request} {t : Task}
    (outside : q ∈ s.outside) (onStack : t ∈ s.stack) (held : r ∈ t.requests) : q.id ≠ r.id := by
  have all := custody.nodup
  rw [Storage.requests, List.map_append, List.nodup_append] at all
  exact all.2.2 _ (List.mem_map_of_mem (List.mem_append_right _ outside)) _
    (List.mem_map_of_mem (List.mem_flatMap.mpr ⟨t, onStack, held⟩))

theorem Storage.Custody.exists_of_entrusted (custody : s.Custody) (held : id ∈ s.entrusted) :
    ∃ r, s.find? id = some r ∧ r.phase = .running := by
  obtain ⟨r, inside, rfl⟩ := List.mem_map.mp held
  obtain ⟨member, running⟩ := List.mem_filter.mp inside
  have some : (s.find? r.id).isSome := List.find?_isSome.mpr ⟨r, member, by simp⟩
  obtain ⟨q, found⟩ := Option.isSome_iff_exists.mp some
  have same : q.id = r.id := by simpa using List.find?_some found
  obtain rfl := List.inj_on_of_nodup_map custody.nodup_outside (List.mem_of_find?_eq_some found)
    member same
  exact ⟨q, found, by simpa using running⟩

/-- A client that leaves alone what is inside the device calls no handler. -/
theorem Move.handlers (m : Move s a i s') (custody : s.Custody) (alive : s.isAlive)
    (apart : ∀ id r, s.find? id = some r → r.phase = .running →
      a ≠ .push id ∧ (∀ v, a ≠ .complete id v) ∧ a ≠ .abandon id)
    (clean : s.stack.all (!·.isHandler)) :
    s'.entrusted = s.entrusted ∧ s'.stack.all (!·.isHandler) := by
  have kept {id : RequestId} {r : Request} (found : s.find? id = some r)
      (outside : r.phase ≠ .running) : (s.take id).entrusted = s.entrusted :=
    Storage.entrusted_take_of_found custody found outside
  cases m with
  | pushed found room =>
    exact ⟨kept found fun inside => (apart _ _ found inside).1 rfl, by simp_all [Task.isHandler]⟩
  | completed found v =>
    exact ⟨kept found fun inside => (apart _ _ found inside).2.1 v rfl,
      by simp_all [Task.isHandler]⟩
  | discarded a found reply al outside =>
    exact ⟨kept found (outside.resolve_right (by simp [alive])), by simp_all [Task.isHandler]⟩
  | pushAbandoned found e inside => exact absurd rfl (apart _ _ found inside).1
  | abandoned found inside => exact absurd rfl (apart _ _ found inside).2.2
  | _ =>
    simp_all [Storage.entrusted, Task.isHandler, List.filter_map, Function.comp_def, apply_ite]

theorem Storage.act_leave {code : Invocation} {rest : List Task}
    (top : s.stack = .client code :: rest) : s.act .leave = { s with stack := rest } := by
  change s.leave = _
  simp only [leave, top]

/-- Whoever gives control back or takes an answer takes one task from the stack. -/
theorem Storage.act_quiet (quiet : a = .leave ∨ a = .collect) (changes : s.act a ≠ s) :
    ∃ t rest, s.stack = t :: rest ∧ t.demand = 0 ∧ (∀ listeners, t.effort listeners = 1) ∧
      s.act a = { s with stack := rest } := by
  obtain rfl | rfl := quiet
  · change s.leave ≠ s at changes
    change ∃ t rest, _ ∧ _ ∧ _ ∧ s.leave = _
    unfold leave at *
    split
    case h_1 code rest top => exact ⟨.client code, rest, top, rfl, fun _ => rfl, rfl⟩
    case h_2 other => exact absurd (by split <;> simp_all) changes
  · change s.collect ≠ s at changes
    change ∃ t rest, _ ∧ _ ∧ _ ∧ s.collect = _
    unfold collect at *
    split
    case h_1 reply rest top => exact ⟨.answer reply, rest, top, rfl, fun _ => rfl, rfl⟩
    case h_2 other => exact absurd (by split <;> simp_all) changes

/-- Control that is given back, and an answer that is taken, are no more to be done. -/
theorem Storage.effort_lt_of_act (quiet : a = .leave ∨ a = .collect) (changes : s.act a ≠ s)
    (listeners : Nat) : (s.act a).effort listeners < s.effort listeners ∧
      (s.act a).emitter = s.emitter ∧ (s.act a).demand ≤ s.demand := by
  obtain ⟨t, rest, top, none, one, acted⟩ := act_quiet quiet changes
  rw [acted]
  simp [effort, demand, entrusted, top, none, one]

/-- A request inside the device that is finished is no longer inside. -/
theorem Storage.act_complete {v : Verdict} (custody : s.Custody) (alive : s.isAlive)
    (held : id ∈ s.entrusted) (listeners : Nat) : let s' := s.act (.complete id v)
    s'.entrusted = s.entrusted.filter (· ≠ id) ∧ s'.effort listeners < s.effort listeners ∧
      s'.emitter = s.emitter ∧ s'.demand < s.demand ∧
      (s.stack.all (!·.isHandler) → s'.stack.all (!·.isHandler)) := by
  obtain ⟨r, found, running⟩ := custody.exists_of_entrusted held
  have acted : s.act (.complete id v) = { s with
      outside := (s.take id).outside
      stack := .pipeline (r.fill v) (.record ((r.fill v).resultOf v)) :: .answer .unit ::
        s.stack } := by
    simp [act, complete, found, alive, finish, push, reply, take]
  have entrusted : (s.act (.complete id v)).entrusted = s.entrusted.filter (· ≠ id) := by
    rw [acted, ← entrusted_take]
    rfl
  have fewer : (s.entrusted.filter (· ≠ id)).length + 1 = s.entrusted.length := by
    have others : s.entrusted.erase id = s.entrusted.filter (· ≠ id) := by
      rw [custody.nodup_entrusted.erase_eq_filter]
      exact List.filter_congr fun q _ => by by_cases same : q = id <;> simp [same]
    have some := List.length_pos_of_mem held
    rw [← others, List.length_erase_of_mem held]
    omega
  refine ⟨entrusted, ?_, by rw [acted], ?_, fun clean => ?_⟩
  · unfold effort
    rw [entrusted, ← fewer, acted]
    simp [Task.effort, Stage.effort, Nat.mul_add]
    omega
  · unfold demand
    rw [entrusted, ← fewer, acted]
    simp [Task.demand]
  · rw [acted]
    simpa [Task.isHandler] using clean

end Move

end StorageEngine
