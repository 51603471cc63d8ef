import StorageEngine.Proofs.Accounting

/-!
# No lost wake-up

Requests that wait in the queue are started by draining, and draining is started by the end of a
request that leaves nothing inside the device behind it.  Both may be in the middle of their work
while clients queue further requests or drain again, so the argument looks at what is still to be
done: a task of the stack *wakes* the queue if it drains it, or will drain it at its end, or will
clear it away after a destruction.

`Wakeful` says that a request never waits without a reason: a barrier is inside the device, or the
head of the queue waits for the data requests inside, or some task of the stack wakes the queue.
Once the stack holds no more tasks, only the first two reasons are left, and both keep a request
inside the device.

* `Turn.draining`, `Turn.destroyed`, `Turn.clearing`, `Turn.woken` — what a step does to each of
  the fields;
* `Move.wakeful` — a client that queues a request drains the queue, too;
* `Wakeful.waits`, `Wakeful.pending_pos` — what is left where no call is going on.
-/

namespace StorageEngine

namespace Task

/-- The end of a destruction that has succeeded: the queue will be cleared. -/
def clears : Task → Bool
  | .pipeline r (.observe _) | .pipeline r (.conclude _) | .pipeline r (.release _) =>
    r.kind = .destroying && r.error = none
  | _ => false

/-- Draining goes on, or will start when the task has come to its end. -/
def drains : Task → Bool
  | .drain | .drainNext => true
  | .pipeline _ (.observe idle) | .pipeline _ (.conclude idle) | .pipeline _ (.release idle)
  | .pipeline _ (.free idle) => idle
  | _ => false

/-- A call has returned and its answer has not been taken. -/
def isAnswer : Task → Bool
  | .answer _ => true
  | _ => false

/-- Some task will clear the queue. -/
def clearing : List Task → Bool
  | [] => false
  | t :: rest => t.clears || clearing rest

/-- Some task wakes the queue. -/
def waking : List Task → Bool
  | [] => false
  | t :: rest => t.drains || t.clears || waking rest

end Task

namespace Storage

/-- No call of the storage is going on. -/
def isIdle (s : Storage) : Bool :=
  s.stack.all (·.isAnswer)

/-- The queue starts with a barrier. -/
def barrierWaits (s : Storage) : Bool :=
  s.queue.head?.any (·.kind.isBarrier)

end Storage

/-- Nothing waits in the queue without a reason. -/
structure Wakeful (h : History) (s : Storage) : Prop where
  draining : s.stack.count .drainNext = s.draining.toNat
  destroyed : Task.clearing s.stack → s.ready = .destroyed
  clearing : s.ready = .destroyed → s.queue ≠ [] → Task.clearing s.stack
  woken : s.queue = [] ∨ s.barrier = true ∨
    0 < s.pending ∧ (s.barrierWaits ∨ h.shifted ≠ []) ∨ Task.waking s.stack

/-- Nothing leaves the last point of life. -/
theorem Storage.transition_ready (s : Storage) (r : Request) :
    (s.transition r).ready = .destroyed ↔
      s.ready = .destroyed ∨ r.kind = .destroying ∧ r.error = none := by
  unfold transition
  cases r.error <;> cases r.kind <;> simp <;> split <;> simp_all

theorem Task.waking_of_drainNext {stack : List Task} (active : 0 < stack.count .drainNext) :
    waking stack := by
  induction stack with
  | nil => simp at active
  | cons t rest ih =>
    by_cases now : t = .drainNext
    · simp [waking, now, drains]
    · rw [List.count_cons_of_ne now] at active
      simp [waking, ih active]

theorem Task.waking_of_clearing {stack : List Task} (active : clearing stack) : waking stack := by
  induction stack with
  | nil => simp [clearing] at active
  | cons t rest ih =>
    simp only [clearing, waking, Bool.or_eq_true] at *
    tauto

section Rules

variable {s s' : Storage} {i : History}

/-- The flag says whether draining is going on. -/
theorem Turn.draining (t : Turn s i s') (inv : s.stack.count .drainNext = s.draining.toNat) :
    s'.stack.count .drainNext = s'.draining.toNat := by
  cases t with
  | recorded top emitter announced =>
    cases announced <;> simp_all
  | @freed r idle rest top a =>
    cases idle <;> simp_all
  | drainEnded top =>
    rw [top, List.count_cons_self] at inv
    cases draining : s.draining <;> simp_all
  | _ => simp_all

/-- A destruction that is past its settling has ended the life of the storage. -/
theorem Turn.destroyed (t : Turn s i s') (inv : Task.clearing s.stack → s.ready = .destroyed) :
    Task.clearing s'.stack → s'.ready = .destroyed := by
  cases t with
  | recorded top emitter announced =>
    cases announced <;> simp_all [Task.clearing, Task.clears]
  | @freed r idle rest top a =>
    cases idle <;> simp_all [Task.clearing, Task.clears]
  | @settled r dispatched rest top =>
    simp_all [Task.clearing, Task.clears, Storage.transition_ready]
    tauto
  | _ => simp_all [Task.clearing, Task.clears]

theorem Turn.clearing (t : Turn s i s') (destroyed : Task.clearing s.stack → s.ready = .destroyed)
    (inv : s.ready = .destroyed → s.queue ≠ [] → Task.clearing s.stack) :
    s'.ready = .destroyed → s'.queue ≠ [] → Task.clearing s'.stack := by
  cases t with
  | recorded top emitter announced =>
    cases announced <;> simp_all [Task.clearing, Task.clears]
  | @freed r idle rest top a =>
    cases idle <;> simp_all [Task.clearing, Task.clears]
  | @settled r dispatched rest top =>
    simp_all [Task.clearing, Task.clears, Storage.transition_ready]
    tauto
  | queued _ _ _ _ _ room | waiting _ _ room =>
    exact fun dead => absurd dead room.living
  | released =>
    simp_all [Task.clearing, Task.clears]
    tauto
  | _ => simp_all [Task.clearing, Task.clears]

/-- Nothing waits without a reason after a step either. -/
theorem Turn.woken {h : History} (t : Turn s i s') (wakeful : Wakeful h s)
    (books : Accounts h s) :
    s'.queue = [] ∨ s'.barrier = true ∨
      0 < s'.pending ∧ (s'.barrierWaits ∨ h.shifted ≠ []) ∨ Task.waking s'.stack := by
  obtain ⟨draining, destroyed, clearing, woken⟩ := wakeful
  cases t with
  | recorded top emitter announced =>
    cases announced <;> simp_all [Task.waking, Task.drains, Task.clears, Storage.barrierWaits]
  | @freed r idle rest top a =>
    cases idle <;> simp_all [Task.waking, Task.drains, Task.clears, Storage.barrierWaits]
  | @waiting r rest top blocked room =>
    cases queue : s.queue <;>
      simp_all [Task.waking, Task.drains, Task.clears, Storage.barrierWaits]
  | @drainNested rest top active =>
    -- The drain that is going on is further down the stack.
    have below : Task.waking rest := Task.waking_of_drainNext (by simp_all)
    exact .inr (.inr (.inr below))
  | @drainEnded rest top blocked =>
    obtain dead | free | empty | ⟨r, q, head, isBarrier, inside⟩ := blocked
    · by_cases empty : s.queue = []
      · exact .inl empty
      · have below : Task.clearing rest := by
          simpa [top, Task.clearing, Task.clears] using clearing dead empty
        exact .inr (.inr (.inr (Task.waking_of_clearing below)))
    · exact .inr (.inl free)
    · exact .inl empty
    · exact .inr (.inr (.inl ⟨inside, by simp [Storage.barrierWaits, head, isBarrier]⟩))
  | finished | dispatched =>
    simp_all [Task.waking, Task.drains, Task.clears, Storage.barrierWaits]
    tauto
  | @settled r dispatched rest top =>
    by_cases last : (if dispatched then s.pending - 1 else s.pending) = 0
    · exact .inr (.inr (.inr (by simp [Task.waking, Task.drains, last])))
    · -- What is left inside keeps the queue waiting for the reason it had before.
      have inside : 0 < if dispatched then s.pending - 1 else s.pending := Nat.pos_of_ne_zero last
      have free : dispatched = true → s.barrier = false := by
        intro counted
        by_contra flag
        have one := books.alone (by simpa using flag)
        simp [counted, one] at inside
      cases dispatched <;>
        simp_all [Task.waking, Task.drains, Task.clears, Storage.barrierWaits, Option.any_map] <;>
        tauto
  | @released r idle rest top r' a follows phase ordinary =>
    have unfinished : ¬ (r.kind = .destroying ∧ r.error = none) := fun ends =>
      ordinary ⟨ends.1, ends.2, destroyed (by simp [top, Task.clearing, Task.clears, ends])⟩
    simp_all [Task.waking, Task.drains, Task.clears, Storage.barrierWaits]
  | _ => simp_all [Task.waking, Task.drains, Task.clears, Storage.barrierWaits]

theorem Wakeful.append {h : History} (inv : Wakeful h s) (i : History) : Wakeful (h ++ i) s where
  draining := inv.draining
  destroyed := inv.destroyed
  clearing := inv.clearing
  woken := by
    obtain empty | flag | ⟨inside, waits | taken⟩ | woken := inv.woken
    · exact .inl empty
    · exact .inr (.inl flag)
    · exact .inr (.inr (.inl ⟨inside, .inl waits⟩))
    · exact .inr (.inr (.inl ⟨inside, .inr (by simp [taken])⟩))
    · exact .inr (.inr (.inr woken))

theorem Turn.wakeful {h : History} (t : Turn s i s') (inv : Wakeful h s) (books : Accounts h s) :
    Wakeful (h ++ i) s' :=
  Wakeful.append ⟨t.draining inv.draining, t.destroyed inv.destroyed,
    t.clearing inv.destroyed inv.clearing, t.woken inv books⟩ i

theorem Move.wakeful {h : History} {a : Action} (m : Move s a i s') (inv : Wakeful h s) :
    Wakeful (h ++ i) s' := by
  obtain ⟨draining, destroyed, clearing, woken⟩ := inv
  cases m with
  | pushed found room =>
    apply Wakeful.append
    constructor
    · simpa using draining
    · simpa [Task.clearing, Task.clears] using destroyed
    · exact fun dead => absurd dead room.living
    · exact .inr (.inr (.inr rfl))
  | @shifted r q head =>
    have taken : [Incident.asked .shift, Incident.shifted r].filterMap Incident.shifted? ≠ [] := by
      simp [Incident.shifted?]
    constructor <;> simp_all [Task.waking, Task.drains, Task.clears, Task.clearing, History.shifted]
    tauto
  | _ =>
    apply Wakeful.append
    constructor <;>
      simp_all [Task.waking, Task.drains, Task.clears, Task.clearing, Storage.barrierWaits]

end Rules

theorem Run.wakeful {start : Storage} (custody : start.Custody) (onTop : start.LaunchOnTop)
    (accounts : Accounts [] start) (initial : Wakeful [] start) {h : History} {s : Storage}
    (run : Run Rule.orderly start h s) : Wakeful h s := by
  refine run.invariant initial ?_ ?_
  · intro h s i s' run inv t
    exact t.wakeful inv (run.accounts custody onTop accounts)
  · intro h s a i s' _ inv _ _ m
    exact m.wakeful inv

section Idle

variable {s : Storage}

/-- Where no call is going on, the stack holds nothing that an answer does not hold. -/
theorem flatMap_stack_eq_nil {α : Type} {f : Task → List α} (idle : s.isIdle)
    (nothing : ∀ reply, f (.answer reply) = []) : s.stack.flatMap f = [] := by
  rw [List.flatMap_eq_nil_iff]
  intro t ht
  have answered := List.all_eq_true.mp idle t ht
  cases t with
  | answer reply => exact nothing reply
  | _ => simp [Task.isAnswer] at answered

/-- Where no call is going on, what is inside the device is outside the storage. -/
theorem counted_of_isIdle (idle : s.isIdle) :
    s.counted = s.outside.filter (·.phase = .running) := by
  rw [Storage.counted, flatMap_stack_eq_nil idle fun _ => rfl, List.append_nil]

theorem not_drainNext_of_isIdle (idle : s.isIdle) : s.stack.count .drainNext = 0 := by
  rw [List.count_eq_zero]
  intro active
  have := List.all_eq_true.mp idle _ active
  simp [Task.isAnswer] at this

theorem waking_of_isIdle (idle : s.isIdle) : Task.waking s.stack = false := by
  unfold Storage.isIdle at idle
  generalize s.stack = stack at idle
  induction stack with
  | nil => rfl
  | cons t rest ih =>
    rw [List.all_cons, Bool.and_eq_true] at idle
    obtain ⟨answered, rest⟩ := idle
    cases t <;> simp_all [Task.isAnswer, Task.waking, Task.drains, Task.clears]

end Idle

theorem Kind.isData_of_ne {k : Kind} (notBarrier : ¬ k.isBarrier) (something : k ≠ .nothing) :
    k.isData := by
  cases k <;> simp_all [isBarrier, isData]

/-- Where the flag is down, what is inside the device is not a barrier. -/
theorem Accounts.not_isBarrier {h : History} (books : Accounts h s) (flag : s.barrier = false)
    {r : Request} (held : r ∈ s.counted) : ¬ r.kind.isBarrier := by
  have noBarrier := books.barrier
  rw [flag, Bool.toNat_false, Storage.tally, List.countP_eq_zero] at noBarrier
  exact noBarrier r held

theorem Accounts.exists_data {h : History} (books : Accounts h s) (inside : 0 < s.pending)
    (flag : s.barrier = false) : ∃ r ∈ s.counted, ¬ r.kind.isBarrier := by
  have some := books.pending
  rw [Storage.tally, List.countP_true] at some
  obtain ⟨r, held⟩ := List.exists_mem_of_length_pos (some ▸ inside)
  exact ⟨r, held, books.not_isBarrier flag held⟩

/-- Where no call is going on, draining is not either. -/
theorem Wakeful.still {h : History} (wakeful : Wakeful h s) (idle : s.isIdle) :
    s.draining = false := by
  have ended := wakeful.draining
  rw [not_drainNext_of_isIdle idle] at ended
  cases draining : s.draining with
  | false => rfl
  | true => simp [draining] at ended

/-- Where no call is going on, a request that waits has one of two reasons. -/
theorem Wakeful.waits {h : History} (wakeful : Wakeful h s) (idle : s.isIdle)
    (nonempty : s.queue ≠ []) :
    s.barrier = true ∨ 0 < s.pending ∧ (s.barrierWaits ∨ h.shifted ≠ []) := by
  have asleep := waking_of_isIdle idle
  simpa [asleep, nonempty] using wakeful.woken

/-- Either reason keeps something inside the device. -/
theorem Wakeful.pending_pos {h : History} (wakeful : Wakeful h s) (books : Accounts h s)
    (idle : s.isIdle) (nonempty : s.queue ≠ []) : 0 < s.pending := by
  obtain flag | ⟨pending, -⟩ := wakeful.waits idle nonempty
  · rw [books.alone flag]
    exact Nat.one_pos
  · exact pending

/-- Where no call is going on, the counter counts what is outside and runs. -/
theorem Accounts.pending_of_isIdle {h : History} (books : Accounts h s) (idle : s.isIdle) :
    s.pending = (s.outside.filter (·.phase = .running)).length := by
  rw [books.pending, Storage.tally, List.countP_true, counted_of_isIdle idle]

theorem Storage.wakeful_create (capabilities : Capabilities) (limits : Limits)
    (allocator : Allocator) : Wakeful [] (create capabilities limits allocator) := by
  constructor <;> simp [create, Task.clearing]

theorem Run.wakeful_of_create {capabilities : Capabilities} {limits : Limits}
    {allocator : Allocator} {h : History} {s : Storage}
    (run : Run Rule.orderly (Storage.create capabilities limits allocator) h s) : Wakeful h s :=
  run.wakeful (Storage.custody_create ..) (Storage.launchOnTop_create ..) (accounts_create ..)
    (Storage.wakeful_create ..)

/-- **No lost wake-up.**  Where no call is going on, draining is not either, and a request that
waits in the queue waits for something inside the device.  Unless clients take requests out of the
queue, that is a barrier, or a data request that the barrier in front has to let pass.  So once the
device has finished what it was given, the queue is empty. -/
theorem Run.wake_up {capabilities : Capabilities} {limits : Limits} {allocator : Allocator}
    {h : History} {s : Storage}
    (run : Run Rule.orderly (Storage.create capabilities limits allocator) h s)
    (idle : s.isIdle) :
    s.draining = false ∧
    (s.queue ≠ [] → 0 < s.pending) ∧
    (h.shifted = [] → ∀ r q, s.queue = r :: q →
      s.barrier = true ∨
        r.kind.isBarrier ∧ ∃ d ∈ s.outside, d.phase = .running ∧ d.kind.isData) ∧
    ((∀ r ∈ s.outside, r.phase ≠ .running) → s.queue = []) := by
  have custody := run.custody (Storage.custody_create ..)
  have books := run.accounts_of_create
  have wakeful := run.wakeful_of_create
  refine ⟨wakeful.still idle, wakeful.pending_pos books idle, ?_, ?_⟩
  · intro untouched r q queue
    obtain flag | ⟨pending, waits⟩ := wakeful.waits idle (by simp [queue])
    · exact .inl flag
    by_cases flag : s.barrier = true
    · exact .inl flag
    have isBarrier : r.kind.isBarrier := by
      simpa [queue, untouched, Storage.barrierWaits] using waits
    obtain ⟨d, held, notBarrier⟩ := books.exists_data pending (by simpa using flag)
    rw [counted_of_isIdle idle, List.mem_filter] at held
    obtain ⟨held, running⟩ := held
    have running : d.phase = .running := by simpa using running
    have something : d.kind ≠ .nothing := by
      obtain created | ⟨-, something⟩ := custody.inPlace.outside d held
      · simp [running] at created
      · exact something
    exact .inr ⟨isBarrier, d, held, running, Kind.isData_of_ne notBarrier something⟩
  · intro finished
    by_contra nonempty
    have pending := wakeful.pending_pos books idle nonempty
    rw [books.pending_of_isIdle idle,
      List.filter_eq_nil_iff.mpr (by simpa using finished)] at pending
    exact absurd pending (Nat.lt_irrefl 0)

/-- A read that waits for the opening inside the device. -/
theorem Run.wake_up_read :
    ∃ h s, Run Rule.orderly (Storage.create .readWrite) h s ∧ s.isIdle ∧ s.queue ≠ [] ∧
      0 < s.pending := by
  have fresh : Run Rule.orderly (Storage.create .readWrite) [] _ := .start
  have asked := fresh.move (.call .opening (some (.call 1)) none) rfl ⟨rfl, by simp⟩
  have inside := (((asked.step rfl).step rfl).step rfl).step rfl
  have left := (inside.move .leave rfl ⟨rfl, by simp⟩).step rfl
  have returned := left.move .collect rfl ⟨rfl, by simp⟩
  have read := returned.move (.call (.read 0 4) (some (.call 2)) none) rfl ⟨rfl, by simp⟩
  have waiting := (read.step rfl).step rfl
  exact ⟨_, _, waiting, by decide, by decide, (Run.wake_up waiting (by decide)).2.1 (by decide)⟩

end StorageEngine
