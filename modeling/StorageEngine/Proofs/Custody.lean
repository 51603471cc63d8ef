import Mathlib.Tactic.MkIffOfInductiveProp
import Mathlib.Data.List.Nodup
import StorageEngine.Proofs.Turn

/-!
# Where requests are

Every request of a storage is in one place: in the queue, outside, or in one task of the stack.
`Custody` says so by counting, for each number, the requests that bear it, and says which phase the
requests in each place are in: those in the queue are queued, those outside are new or running, and
those that have gone past the recording of their result are completed.  Only data requests wait for
an opening, and a request for nothing never reaches the device.

Only running requests count as dispatched when their result is recorded, so the phases decide what
is taken out of the count of requests inside the device.

A request that was handed over is given to the device at once: only the topmost task does so
(`Storage.LaunchOnTop`), and it is never the client's turn meanwhile.

This file proves, for every run, orderly or not:

* `Turn.copies`, `Move.copies` — nothing copies a request, and what is new bears a new number;
* `Turn.inPlace`, `Move.inPlace` — every request is in a phase that fits its place;
* `Run.custody`, `Run.launchOnTop` — both hold along every run.
-/

namespace StorageEngine

/-- The requests of a task are where they belong. -/
def Task.InPlace : Task → Prop
  | .awaitOpening r | .enter r => r.phase = .created ∧ ¬ r.kind.isBarrier
  | .run r => r.phase = .created ∨ r.phase = .queued
  | .pipeline r (.record _) => r.phase ≠ .completed
  | .pipeline r _ => r.phase = .completed
  | .teardown orphans => ∀ r ∈ orphans, r.phase = .queued
  | _ => True

/-- The request that a task is about to give to the device. -/
def Task.launched : Task → List Request
  | .run r => [r]
  | _ => []

namespace Storage

/-- How many requests of the storage bear this number. -/
def copies (s : Storage) (id : RequestId) : Nat :=
  s.requests.countP (·.id = id)

/-- Every request is where it belongs. -/
@[mk_iff]
structure InPlace (s : Storage) : Prop where
  queue : ∀ r ∈ s.queue, r.phase = .queued
  outside : ∀ r ∈ s.outside, r.phase = .created ∨ r.phase = .running ∧ r.kind ≠ .nothing
  stack : ∀ t ∈ s.stack, t.InPlace

/-- Every request is in one place, and where it belongs. -/
structure Custody (s : Storage) : Prop where
  unique : ∀ id, s.copies id ≤ 1
  issued : ∀ id, s.nextId ≤ id → s.copies id = 0
  inPlace : s.InPlace

/-- The requests that have been handed over and do not count yet. -/
def launched (s : Storage) : List Request :=
  s.stack.flatMap (·.launched)

/-- Only the topmost task gives a request to the device. -/
def LaunchOnTop (s : Storage) : Prop :=
  s.stack.tail.flatMap (·.launched) = []

end Storage

namespace Task

section Requests

variable (r : Request)

attribute [local simp] requests

@[simp] theorem requests_client (code : Invocation) : (client code).requests = [] := by simp
@[simp] theorem requests_answer (reply : Reply) : (answer reply).requests = [] := by simp
@[simp] theorem requests_submit (o : Order) : (submit o).requests = [] := by simp
@[simp] theorem requests_awaitOpening : (awaitOpening r).requests = [r] := by simp
@[simp] theorem requests_awaitClosing (o : Order) : (awaitClosing o).requests = [] := by simp
@[simp] theorem requests_awaitCall (n : Nat) : (awaitCall n).requests = [] := by simp
@[simp] theorem requests_enter : (enter r).requests = [r] := by simp
@[simp] theorem requests_drain : drain.requests = [] := by simp
@[simp] theorem requests_drainNext : drainNext.requests = [] := by simp
@[simp] theorem requests_run : (run r).requests = [r] := by simp
@[simp] theorem requests_pipeline (stage : Stage) : (pipeline r stage).requests = [r] := by simp
@[simp] theorem requests_deliver (d : Delivery) : (deliver d).requests = [] := by simp
@[simp] theorem requests_teardown (rs : List Request) : (teardown rs).requests = rs := by simp

end Requests

end Task

section Edit

variable (r : Request) (e : Edit)

@[simp] theorem Edit.apply_id : (e.apply r).id = r.id := by
  cases e <;> rfl

@[simp] theorem Edit.apply_kind : (e.apply r).kind = r.kind := by
  cases e <;> rfl

@[simp] theorem Edit.apply_phase : (e.apply r).phase = r.phase := by
  cases e <;> rfl

@[simp] theorem Edit.apply_error : (e.apply r).error = r.error := by
  cases e <;> rfl

@[simp] theorem Edit.apply_tag : (e.apply r).tag = r.tag := by
  cases e <;> rfl

@[simp] theorem Edit.apply_receiver : (e.apply r).receiver = r.receiver := by
  cases e <;> rfl

@[simp] theorem Edit.apply_observer : (e.apply r).observer = r.observer := by
  cases e <;> rfl

@[simp] theorem Edit.apply_stats : (e.apply r).stats.isSome = r.stats.isSome := by
  cases e <;> simp [Edit.apply]

end Edit

/-- Taking a request back from outside leaves the others where they are. -/
theorem Storage.outside_eq_of_find? {s : Storage} {id : RequestId} {r : Request}
    (unique : s.outside.countP (·.id = id) ≤ 1) (found : s.find? id = some r) :
    ∃ before after, s.outside = before ++ r :: after ∧ (s.take id).outside = before ++ after ∧
      r.id = id := by
  obtain ⟨bears, before, after, split, others⟩ := List.find?_eq_some_iff_append.mp found
  have bears : r.id = id := by simpa using bears
  refine ⟨before, after, split, ?_, bears⟩
  have before_ne : ∀ q ∈ before, q.id ≠ id := by simpa using others
  have after_ne : ∀ q ∈ after, q.id ≠ id := by
    have none : after.countP (·.id = id) = 0 := by
      simp only [split, List.countP_append, List.countP_cons, bears, decide_true, if_true] at unique
      omega
    simpa using none
  simp only [Storage.take, split, List.filter_append, List.filter_cons]
  rw [List.filter_eq_self.mpr (by simpa using before_ne),
    List.filter_eq_self.mpr (by simpa using after_ne)]
  simp [bears]

theorem Storage.countP_outside_le {s : Storage} (unique : ∀ id, s.copies id ≤ 1)
    (id : RequestId) : s.outside.countP (·.id = id) ≤ 1 := by
  have total := unique id
  simp only [Storage.copies, Storage.requests, List.countP_append] at total
  omega

section Copies

attribute [local simp] Storage.copies Storage.requests List.countP_cons Request.queued
  Order.request

/-- No step copies a request; what is new bears a new number. -/
theorem Turn.copies {s s' : Storage} {i : History} (t : Turn s i s') :
    s.nextId ≤ s'.nextId ∧ ∀ id, s'.copies id ≤
      s.copies id + if s.nextId ≤ id ∧ id < s'.nextId then 1 else 0 := by
  cases t with
  | queued | deferred | offered =>
    refine ⟨Nat.le_succ _, fun id => ?_⟩
    simp [*]
    grind
  | settled top =>
    refine ⟨Nat.le_refl _, fun id => ?_⟩
    simp [top, List.countP_map, Function.comp_def]
  | recorded top emitter announced =>
    refine ⟨Nat.le_refl _, fun id => ?_⟩
    cases announced <;> simp [top]
  | openingAdmitted top marked =>
    refine ⟨Nat.le_refl _, fun id => ?_⟩
    obtain rfl | ⟨e, rfl⟩ := marked <;> simp [top, Request.poison]
  | finished top r' result a last n follows | dispatched top r' a last n h follows
  | released top r' a follows =>
    refine ⟨Nat.le_refl _, fun id => ?_⟩
    simp [top, follows.id]
  | @freed r idle rest top a =>
    refine ⟨Nat.le_refl _, fun id => ?_⟩
    cases idle <;> simp [top] <;> omega
  | lost | openingRefused | waiting | turnedAway | drained | cleared =>
    refine ⟨Nat.le_refl _, fun id => ?_⟩
    simp [*]
    omega
  | _ =>
    refine ⟨by simp_all, fun id => ?_⟩
    simp [*]

/-- No move copies a request; what is new bears a new number. -/
theorem Move.copies {s s' : Storage} {a : Action} {i : History} (m : Move s a i s')
    (unique : ∀ id, s.copies id ≤ 1) :
    s.nextId ≤ s'.nextId ∧ ∀ id, s'.copies id ≤
      s.copies id + if s.nextId ≤ id ∧ id < s'.nextId then 1 else 0 := by
  have outside := Storage.countP_outside_le unique
  cases m with
  | made =>
    refine ⟨Nat.le_succ _, fun id => ?_⟩
    simp
    grind
  | edited =>
    refine ⟨Nat.le_refl _, fun id => ?_⟩
    simp [List.countP_map, Function.comp_def, apply_ite]
  | pushed found | pushAbandoned found | completed found | abandoned found | discarded _ found =>
    refine ⟨Nat.le_refl _, fun id => ?_⟩
    obtain ⟨before, after, split, taken, -⟩ := Storage.outside_eq_of_find? (outside _) found
    simp [split, taken, Request.fill]
    omega
  | shifted head =>
    refine ⟨Nat.le_refl _, fun id => ?_⟩
    simp [head]
    omega
  | _ =>
    refine ⟨by simp, fun id => ?_⟩
    simp [*]

end Copies

/-- Custody is kept where at most one request is new under each number given out. -/
theorem Storage.Custody.next {s s' : Storage} (inv : s.Custody) (later : s.nextId ≤ s'.nextId)
    (copies : ∀ id, s'.copies id ≤
      s.copies id + if s.nextId ≤ id ∧ id < s'.nextId then 1 else 0)
    (inPlace : s'.InPlace) : s'.Custody where
  unique id := by
    have new := copies id
    have old := inv.unique id
    split at new
    case isTrue given =>
      rw [inv.issued id given.1] at new
      exact new
    case isFalse => exact Nat.le_trans new old
  issued id past := by
    have new := copies id
    rw [inv.issued id (Nat.le_trans later past),
      if_neg fun given => absurd given.2 (Nat.not_lt.mpr past)] at new
    exact Nat.le_zero.mp new
  inPlace := inPlace

/-- No two requests of a storage bear the same number. -/
theorem Storage.Custody.nodup {s : Storage} (custody : s.Custody) :
    (s.requests.map (·.id)).Nodup := by
  rw [List.nodup_iff_count_le_one]
  intro id
  have same : s.requests.countP ((· == id) ∘ (·.id)) = s.copies id :=
    List.countP_congr fun r _ => by simp
  rw [List.count_eq_countP, List.countP_map, same]
  exact custody.unique id

theorem Storage.Custody.nodup_queue {s : Storage} (custody : s.Custody) :
    (s.queue.map (·.id)).Nodup := by
  have all := custody.nodup
  rw [Storage.requests, List.append_assoc, List.map_append] at all
  exact all.of_append_left

/-- Every request bears a number that was given out. -/
theorem Storage.Custody.id_lt {s : Storage} (custody : s.Custody) {r : Request}
    (held : r ∈ s.requests) : r.id < s.nextId := by
  by_contra later
  have none := custody.issued r.id (Nat.le_of_not_lt later)
  rw [Storage.copies, List.countP_eq_zero] at none
  exact none r held (by simp)

/-- What waits is neither outside nor on the stack. -/
theorem Storage.Custody.apart {s : Storage} (custody : s.Custody) {id : RequestId}
    (waits : id ∈ s.queue.map (·.id)) :
    (∀ r ∈ s.outside, r.id ≠ id) ∧ ∀ t ∈ s.stack, ∀ r ∈ t.requests, r.id ≠ id := by
  have nodup := custody.nodup
  rw [Storage.requests, List.append_assoc, List.map_append, List.nodup_append] at nodup
  have others := nodup.2.2 id waits
  refine ⟨fun r held same => ?_, fun t onStack r held same => ?_⟩
  · exact others r.id (List.mem_map_of_mem (List.mem_append_left _ held)) same.symm
  · have member : r ∈ s.stack.flatMap (·.requests) := List.mem_flatMap.mpr ⟨t, onStack, held⟩
    exact others r.id (List.mem_map_of_mem (List.mem_append_right _ member)) same.symm

section InPlace

attribute [local simp] Task.InPlace Request.queued

/-- Every step leaves requests where they belong. -/
theorem Turn.inPlace {s s' : Storage} {i : History} (t : Turn s i s') (inv : s.InPlace) :
    s'.InPlace := by
  obtain ⟨queue, outside, stack⟩ := inv
  rw [Storage.inPlace_iff]
  cases t with
  | recorded top emitter announced =>
    cases announced <;> simp_all
  | openingAdmitted top marked =>
    obtain rfl | ⟨e, rfl⟩ := marked <;> simp_all [Request.poison]
  | @freed r idle rest top a =>
    cases idle <;> simp_all
  | dispatched top r' _ _ _ _ follows =>
    simp_all [or_imp, forall_and, follows.kind]
  | queued | waiting =>
    simp_all [or_imp, forall_and]
  | _ =>
    simp_all [Order.request]

/-- Every move leaves requests where they belong. -/
theorem Move.inPlace {s s' : Storage} {a : Action} {i : History} (m : Move s a i s')
    (inv : s.InPlace) : s'.InPlace := by
  obtain ⟨queue, outside, stack⟩ := inv
  have taken (id : RequestId) :
      ∀ r ∈ (s.take id).outside, r.phase = .created ∨ r.phase = .running ∧ r.kind ≠ .nothing :=
    fun r held => outside r (List.mem_filter.mp held).1
  rw [Storage.inPlace_iff]
  cases m with
  | @completed id r found v =>
    have held := outside r (List.mem_of_find?_eq_some found)
    refine ⟨queue, taken id, ?_⟩
    simp_all [Request.fill]
    grind
  | edited id e =>
    refine ⟨queue, ?_, ?_⟩
    · simp only [List.forall_mem_map]
      intro r held
      split <;> simpa using outside r held
    · simpa using stack
  | pushed | pushAbandoned | abandoned | discarded =>
    refine ⟨?_, taken _, ?_⟩ <;> simp_all [or_imp]
  | _ =>
    simp_all [Order.request, or_imp, forall_and]

end InPlace

/-- What is true of the requests outside is still true after a move, unless an edit destroys it or
a request comes out of which it is not true. -/
theorem Move.forall_outside {s s' : Storage} {a : Action} {i : History} (m : Move s a i s')
    {p : Request → Prop} (inv : ∀ r ∈ s.outside, p r)
    (edited : ∀ (e : Edit) (r : Request), p r → p (e.apply r))
    (made : ∀ (o : Order) (data : Bytes) (buffer : Option Nat),
      buffer = (if o.kind = .write then some o.size else none) → p (o.request s.nextId data buffer))
    (shifted : a = .shift → ∀ r ∈ s.queue, p { r with phase := .created }) :
    ∀ r ∈ s'.outside, p r := by
  have left (id : RequestId) : ∀ r ∈ (s.take id).outside, p r :=
    fun r held => inv r (List.mem_filter.mp held).1
  cases m with
  | pushed | pushAbandoned | completed | abandoned | discarded => exact left _
  | @shifted r q head =>
    have out := shifted rfl r (by simp [head])
    simpa [or_imp, forall_and] using ⟨inv, out⟩
  | edited id e =>
    simp only [List.forall_mem_map]
    intro r held
    split
    · exact edited e r (inv r held)
    · exact inv r held
  | made kind offset size payload a data buffer leased =>
    have out := made { kind, offset, size, payload } data buffer leased
    simpa [or_imp, forall_and] using ⟨inv, out⟩
  | _ => exact inv

/-- Along every run, every request is in one place, and in the phase of that place. -/
theorem Run.custody {rule : Rule} {start : Storage} (initial : start.Custody) {h : History}
    {s : Storage} (run : Run rule start h s) : s.Custody := by
  refine run.invariant (motive := fun _ s => s.Custody) initial ?_ ?_
  · intro h s i s' _ inv t
    obtain ⟨later, copies⟩ := t.copies
    exact inv.next later copies (t.inPlace inv.inPlace)
  · intro h s a i s' _ inv _ _ m
    obtain ⟨later, copies⟩ := m.copies inv.unique
    exact inv.next later copies (m.inPlace inv.inPlace)

section Launch

attribute [local simp] Storage.launched Task.launched

theorem Turn.launchOnTop {s s' : Storage} {i : History} (t : Turn s i s')
    (inv : s.LaunchOnTop) : s'.LaunchOnTop := by
  have below {rest : List Task} (none : rest.flatMap (·.launched) = []) :
      rest.tail.flatMap (·.launched) = [] := by
    cases rest <;> simp_all
  unfold Storage.LaunchOnTop at *
  cases t with
  | recorded top emitter announced =>
    cases announced <;> simp_all
  | @freed r idle rest top a =>
    cases idle with
    | true => simpa [top] using inv
    | false => exact below (by simpa [top] using inv)
  | @drainNested rest top | @drainEnded rest top | @announced d rest top | @detached rest top =>
    exact below (by simpa [top] using inv)
  | _ =>
    simp_all

/-- When it is the client's turn, nothing is about to be given to the device. -/
theorem Storage.LaunchOnTop.launched_eq_nil {s : Storage} (inv : s.LaunchOnTop)
    (turn : s.isAtRest) : s.launched = [] := by
  unfold Storage.LaunchOnTop at inv
  unfold Storage.isAtRest Storage.step at turn
  cases top : s.stack with
  | nil => simp [top]
  | cons task rest =>
    rw [top] at inv turn
    cases task <;> simp_all

theorem Storage.LaunchOnTop.launched_below {s : Storage} (inv : s.LaunchOnTop) {task : Task}
    {rest : List Task} (top : s.stack = task :: rest) : ∀ t ∈ rest, t.launched = [] := by
  rw [Storage.LaunchOnTop, top, List.tail_cons] at inv
  exact List.flatMap_eq_nil_iff.mp inv

theorem Storage.LaunchOnTop.launched_of_top {s : Storage} (inv : s.LaunchOnTop) {task : Task}
    {rest : List Task} (top : s.stack = task :: rest) (quiet : task.launched = []) :
    s.launched = [] := by
  rw [Storage.launched, top, List.flatMap_cons, quiet, List.nil_append]
  exact List.flatMap_eq_nil_iff.mpr (inv.launched_below top)

theorem Move.launchOnTop {s s' : Storage} {a : Action} {i : History} (m : Move s a i s')
    (none : s.launched = []) : s'.LaunchOnTop := by
  unfold Storage.LaunchOnTop Storage.launched at *
  cases m with
  | @left code rest top | @collected reply rest top =>
    cases rest <;> simp_all
  | idle =>
    cases stack : s.stack with
    | nil => rfl
    | cons task rest => simp_all
  | _ =>
    simp_all

theorem Storage.LaunchOnTop.length_launched_le {s : Storage} (inv : s.LaunchOnTop) :
    s.launched.length ≤ 1 := by
  unfold Storage.LaunchOnTop at inv
  unfold Storage.launched
  cases top : s.stack with
  | nil => simp
  | cons task rest =>
    rw [top, List.tail_cons] at inv
    rw [List.flatMap_cons, inv, List.append_nil]
    cases task <;> simp [Task.launched]

theorem Run.launchOnTop {rule : Rule} {start : Storage} (initial : start.LaunchOnTop)
    {h : History} {s : Storage} (run : Run rule start h s) : s.LaunchOnTop :=
  run.invariant (motive := fun _ s => s.LaunchOnTop) initial
    (fun _ inv t => t.launchOnTop inv)
    (fun _ inv turn _ m => m.launchOnTop (inv.launched_eq_nil turn))

end Launch

section Create

variable (capabilities : Capabilities) (limits : Limits) (allocator : Allocator)

@[simp] theorem Storage.queue_create : (create capabilities limits allocator).queue = [] :=
  rfl

@[simp] theorem Storage.outside_create : (create capabilities limits allocator).outside = [] :=
  rfl

@[simp] theorem Storage.stack_create : (create capabilities limits allocator).stack = [] :=
  rfl

theorem Storage.custody_create : (create capabilities limits allocator).Custody where
  unique _ := by simp [copies, requests]
  issued _ _ := by simp [copies, requests]
  inPlace := by constructor <;> simp

theorem Storage.launchOnTop_create :
    (create capabilities limits allocator).LaunchOnTop := by
  simp [LaunchOnTop]

end Create

end StorageEngine
