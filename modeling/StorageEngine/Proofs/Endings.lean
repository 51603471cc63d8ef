import StorageEngine.Proofs.WakeUp

/-!
# How requests end

A request comes to its end when the state moves on for it: then its error, if it has one, is the one
that its observer and its caller are told.  `History.endings` lists the requests that have ended,
with their errors, in order.

Some requests cannot but fail: those that a failed opening has marked while they waited, and those
that the end of a destruction has taken out of the queue.  `Fated` says so of a group of requests:
those that have not ended stand in line, on the stack and then in the queue, behind those that have;
each fails with the same error; and none of them can be given away, because none is outside.  Every
rule keeps a group fated, unless it breaks into the line (`Line`).

* `Run.append` — a run that goes on is a run;
* `Turn.fated`, `Move.fated` — what a rule does to a group that is fated;
* `Fated.endings_prefix`, `Fated.endings_eq` — a group ends in order, and all of it has ended where
  no call is going on and none of it waits.
-/

namespace StorageEngine

/-- A rule that does not look back: what has happened does not matter to it. -/
def Rule.Timeless (rule : Rule) : Prop :=
  ∀ h h' s a, rule h s a → rule h' s a

/-- A run that goes on is a run. -/
theorem Run.append {rule : Rule} (timeless : rule.Timeless) {start s s' : Storage} {h h' : History}
    (run : Run rule start h s) (later : Run rule s h' s') : Run rule start (h ++ h') s' := by
  induction later with
  | start => simpa using run
  | step _ next ih =>
    rw [← List.append_assoc]
    exact ih.step next
  | move a _ turn allowed ih =>
    rw [← List.append_assoc]
    exact ih.move a turn (timeless _ _ _ _ allowed)

namespace Incident

/-- The request that ends in an incident, with its error. -/
def ending? : Incident → Option (RequestId × Option Error)
  | .settled r _ => some (r.id, r.error)
  | _ => none

/-- The request that the end of a destruction takes out of the queue. -/
def cleared? : Incident → Option RequestId
  | .cleared r => some r.id
  | _ => none

end Incident

namespace History

/-- The requests that have ended, with their errors, in order. -/
def endings (h : History) : List (RequestId × Option Error) :=
  h.filterMap Incident.ending?

/-- The requests that the end of a destruction took out of the queue, in order. -/
def cleared (h : History) : List RequestId :=
  h.filterMap Incident.cleared?

/-- How the requests of a group have ended, in order. -/
def endingsOf (h : History) (group : List RequestId) : List (RequestId × Option Error) :=
  h.endings.filter (·.1 ∈ group)

section Append

variable (h i : History)

@[simp] theorem endings_append : endings (h ++ i) = h.endings ++ i.endings :=
  List.filterMap_append

@[simp] theorem cleared_append : cleared (h ++ i) = h.cleared ++ i.cleared :=
  List.filterMap_append

@[simp] theorem endingsOf_append (group : List RequestId) :
    endingsOf (h ++ i) group = h.endingsOf group ++ i.endingsOf group := by
  simp [endingsOf]

end Append

section Cleared

variable (rs : List Request)

@[simp] theorem cleared_map_cleared : cleared (rs.map .cleared) = rs.map (·.id) := by
  simp [cleared, List.filterMap_map, Function.comp_def, Incident.cleared?]

end Cleared

end History

namespace Task

/-- The requests that will end when their turn comes. -/
def due : Task → List Request
  | .run r | .pipeline r (.record _) | .pipeline r (.settle _) => [r]
  | .teardown orphans => orphans
  | _ => []

theorem mem_requests_of_mem_due {t : Task} {r : Request} (held : r ∈ t.due) : r ∈ t.requests := by
  cases t with
  | pipeline _ stage => cases stage <;> simp_all [due, requests]
  | _ => simp_all [due, requests]

/-- Nothing but this error can come of the requests of a task. -/
def Fails (e : Error) : Task → Prop
  | .awaitOpening _ | .enter _ => False
  | .pipeline _ (.record result) => result = .error e
  | .run r | .pipeline r _ => r.error = some e
  | .teardown _ => e = .fault
  | _ => True

section Due

variable (r : Request)

attribute [local simp] due

@[simp] theorem due_client (code : Invocation) : (client code).due = [] := by simp
@[simp] theorem due_answer (reply : Reply) : (answer reply).due = [] := by simp
@[simp] theorem due_submit (o : Order) : (submit o).due = [] := by simp
@[simp] theorem due_awaitOpening : (awaitOpening r).due = [] := by simp
@[simp] theorem due_awaitClosing (o : Order) : (awaitClosing o).due = [] := by simp
@[simp] theorem due_awaitCall (n : Nat) : (awaitCall n).due = [] := by simp
@[simp] theorem due_enter : (enter r).due = [] := by simp
@[simp] theorem due_drain : drain.due = [] := by simp
@[simp] theorem due_drainNext : drainNext.due = [] := by simp
@[simp] theorem due_run : (run r).due = [r] := by simp
@[simp] theorem due_record (result : Except Error Nat) :
    (pipeline r (.record result)).due = [r] := by simp
@[simp] theorem due_settle (dispatched : Bool) :
    (pipeline r (.settle dispatched)).due = [r] := by simp
@[simp] theorem due_observe (idle : Bool) : (pipeline r (.observe idle)).due = [] := by simp
@[simp] theorem due_conclude (idle : Bool) : (pipeline r (.conclude idle)).due = [] := by simp
@[simp] theorem due_release (idle : Bool) : (pipeline r (.release idle)).due = [] := by simp
@[simp] theorem due_free (idle : Bool) : (pipeline r (.free idle)).due = [] := by simp
@[simp] theorem due_deliver (d : Delivery) : (deliver d).due = [] := by simp
@[simp] theorem due_teardown (rs : List Request) : (teardown rs).due = rs := by simp

end Due

section Fails

variable (e : Error) (r : Request)

@[simp] theorem fails_awaitOpening : ¬ (awaitOpening r).Fails e := id
@[simp] theorem fails_enter : ¬ (enter r).Fails e := id
@[simp] theorem fails_run : (run r).Fails e ↔ r.error = some e := .rfl
@[simp] theorem fails_record (result : Except Error Nat) :
    (pipeline r (.record result)).Fails e ↔ result = .error e := .rfl
@[simp] theorem fails_settle (dispatched : Bool) :
    (pipeline r (.settle dispatched)).Fails e ↔ r.error = some e := .rfl
@[simp] theorem fails_observe (idle : Bool) :
    (pipeline r (.observe idle)).Fails e ↔ r.error = some e := .rfl
@[simp] theorem fails_conclude (idle : Bool) :
    (pipeline r (.conclude idle)).Fails e ↔ r.error = some e := .rfl
@[simp] theorem fails_release (idle : Bool) :
    (pipeline r (.release idle)).Fails e ↔ r.error = some e := .rfl
@[simp] theorem fails_free (idle : Bool) :
    (pipeline r (.free idle)).Fails e ↔ r.error = some e := .rfl
@[simp] theorem fails_teardown (rs : List Request) : (teardown rs).Fails e ↔ e = .fault := .rfl

end Fails

/-- Whatever a task does with the requests of a group, they fail with this error. -/
def Dooms (e : Error) (group : List RequestId) (t : Task) : Prop :=
  ∀ r ∈ t.requests, r.id ∈ group → t.Fails e

section Dooms

variable (e : Error) (group : List RequestId) (r : Request)

@[simp] theorem dooms_of_requests_eq_nil {t : Task} (nobody : t.requests = []) :
    t.Dooms e group := by
  simp [Dooms, nobody]

@[simp] theorem dooms_awaitOpening : (awaitOpening r).Dooms e group ↔ r.id ∉ group := by
  simp [Dooms]

@[simp] theorem dooms_enter : (enter r).Dooms e group ↔ r.id ∉ group := by
  simp [Dooms]

@[simp] theorem dooms_run : (run r).Dooms e group ↔ (r.id ∈ group → r.error = some e) := by
  simp [Dooms]

@[simp] theorem dooms_pipeline (stage : Stage) :
    (pipeline r stage).Dooms e group ↔ (r.id ∈ group → (pipeline r stage).Fails e) := by
  simp [Dooms]

@[simp] theorem dooms_teardown (rs : List Request) :
    (teardown rs).Dooms e group ↔ ∀ r ∈ rs, r.id ∈ group → e = .fault := by
  simp [Dooms]

end Dooms

end Task

namespace Storage

/-- The requests that will end without being admitted again, the next one first. -/
def line (s : Storage) : List Request :=
  s.stack.flatMap (·.due) ++ s.queue

/-- The requests of a group that will end, in order. -/
def awaited (s : Storage) (group : List RequestId) : List RequestId :=
  (s.line.map (·.id)).filter (· ∈ group)

end Storage

/-- The requests of a group end in order, each with the error `e`. -/
structure Fated (e : Error) (group : List RequestId) (h : History) (s : Storage) : Prop where
  order : h.endingsOf group ++ (s.awaited group).map (·, some e) = group.map (·, some e)
  fate : ∀ t ∈ s.stack, t.Dooms e group
  held : ∀ r ∈ s.outside, r.id ∉ group
  issued : ∀ id ∈ group, id < s.nextId

/-- The next step does not break into the line of a group. -/
structure Line (e : Error) (group : List RequestId) (s : Storage) : Prop where
  /-- The head of the queue fails, and is the first in line. -/
  drained : ∀ r q rest, s.stack = .drainNext :: rest → s.queue = r :: q → r.id ∈ group →
    r.error = some e ∧ ∀ t ∈ rest, ∀ r ∈ t.due, r.id ∉ group
  /-- The end of a destruction clears them away only if that error is due, and nobody is before
  them. -/
  cleared : s.ready = .destroyed → (∀ r ∈ s.queue, r.id ∉ group) ∨
    e = .fault ∧ ∀ t ∈ s.stack, ∀ r ∈ t.due, r.id ∉ group
  /-- They do not go with the storage. -/
  lost : s.stack = [] → ∀ r ∈ s.queue, r.id ∉ group

section Queue

variable {s : Storage}

/-- What is on the stack does not wait. -/
theorem Storage.Custody.not_due (custody : s.Custody) {t : Task} (onStack : t ∈ s.stack)
    {r : Request} (due : r ∈ t.due) : r.id ∉ s.queue.map (·.id) :=
  fun waits => (custody.apart waits).2 t onStack r (Task.mem_requests_of_mem_due due) rfl

/-- What waits may become a group. -/
theorem Storage.Custody.fated (custody : s.Custody) (e : Error) {h : History}
    (unended : ∀ id ∈ s.queue.map (·.id), ∀ x ∈ h.endings, x.1 ≠ id) :
    Fated e (s.queue.map (·.id)) h s := by
  have below : ((s.stack.flatMap (·.due)).map (·.id)).filter (· ∈ s.queue.map (·.id)) = [] := by
    rw [List.filter_eq_nil_iff, List.forall_mem_map]
    intro r due
    obtain ⟨t, onStack, due⟩ := List.mem_flatMap.mp due
    simpa using custody.not_due onStack due
  have whole : (s.queue.map (·.id)).filter (· ∈ s.queue.map (·.id)) = s.queue.map (·.id) :=
    List.filter_eq_self.mpr (by simp)
  have before : h.endingsOf (s.queue.map (·.id)) = [] := by
    rw [History.endingsOf, List.filter_eq_nil_iff]
    intro x ended member
    exact unended x.1 (by simpa using member) x ended rfl
  constructor
  · simp only [Storage.awaited, Storage.line, List.map_append, List.filter_append, below, whole,
      before, List.nil_append]
  · exact fun t onStack r held waits => absurd rfl ((custody.apart waits).2 t onStack r held)
  · exact fun r held waits => (custody.apart waits).1 r held rfl
  · intro id waits
    obtain ⟨r, held, rfl⟩ := List.mem_map.mp waits
    exact custody.id_lt (by simp [Storage.requests, held])

end Queue

section Rules

variable {s s' : Storage} {e : Error} {group : List RequestId} {h i : History}

attribute [local simp] Storage.awaited Storage.line History.endingsOf History.endings
  Incident.ending? List.filterMap_cons List.filter_cons Request.queued Order.request Request.fill
  Function.comp_def

/-- What ends in a step stood in front of the line. -/
theorem Turn.awaited_eq (t : Turn s i s') (inv : Fated e group h s) (line : Line e group s) :
    (s.awaited group).map (·, some e) =
      i.endingsOf group ++ (s'.awaited group).map (·, some e) := by
  obtain ⟨-, fate, held, issued⟩ := inv
  have fresh : s.nextId ∉ group := fun old => absurd (issued _ old) (Nat.lt_irrefl _)
  have nobody {rs : List Request} (none : ∀ r ∈ rs, r.id ∉ group) :
      (rs.map (·.id)).filter (· ∈ group) = [] := by
    rw [List.filter_eq_nil_iff, List.forall_mem_map]
    simpa using none
  cases t with
  | lost top =>
    simp [top, nobody (line.lost top), List.filterMap_map]
  | @cleared r idle rest top _ _ dead =>
    obtain none | ⟨-, first⟩ := line.cleared dead
    · simp [top, nobody none, List.filterMap_map]
    · have below : ((rest.flatMap (·.due)).map (·.id)).filter (· ∈ group) = [] :=
        nobody (by
          rw [top, List.forall_mem_cons] at first
          simpa using fun r t held => first.2 t held r)
      simp [top, below, List.filterMap_map]
  | @drained r q rest top head =>
    by_cases first : r.id ∈ group
    · have below : ((rest.flatMap (·.due)).map (·.id)).filter (· ∈ group) = [] :=
        nobody (by
          simpa using fun r t held => (line.drained _ q rest top head first).2 t held r)
      simp [top, head, first, below]
    · simp [top, head, first]
  | finished top r' _ _ _ _ follows => simp_all [follows.id]
  | dispatched top _ _ _ _ _ _ _ _ _ _ serves =>
    have unmarked := serves.unmarked
    simp_all
  | recorded top emitter announced => cases announced <;> simp_all
  | @settled r dispatched rest top => by_cases member : r.id ∈ group <;> simp_all
  | @freed r idle rest top => cases idle <;> simp_all
  | _ => simp_all

/-- A task that comes of a doomed one is doomed. -/
theorem Turn.dooms (t : Turn s i s') (inv : Fated e group h s) (line : Line e group s) :
    ∀ task ∈ s'.stack, task.Dooms e group := by
  obtain ⟨-, fate, held, issued⟩ := inv
  have fresh : s.nextId ∉ group := fun old => absurd (issued _ old) (Nat.lt_irrefl _)
  cases t with
  | openingAdmitted top marked =>
    obtain rfl | ⟨_, rfl⟩ := marked <;> simp_all [Request.poison]
  | @drained r q rest top head =>
    have first := line.drained r q rest top head
    simp_all
  | @finished r rest top r' result _ _ _ follows _ _ _ answers =>
    have failed : r.error = some e → result = .error e := by
      cases answers <;> simp_all
    simp_all [follows.id]
  | recorded top emitter announced =>
    cases announced <;> simp_all
  | released top r' a follows _ _ error =>
    simp_all [follows.id]
  | cleared top _ _ dead =>
    have due : ∀ r ∈ s.queue, r.id ∈ group → e = .fault := by
      obtain none | ⟨fault, -⟩ := line.cleared dead
      · exact fun r waits member => absurd member (none r waits)
      · exact fun _ _ _ => fault
    simp only [top, List.forall_mem_cons] at fate
    simpa using ⟨due, by simpa using fate⟩
  | @freed r idle rest top =>
    cases idle <;> simp_all
  | orphaned top =>
    simp only [top, List.forall_mem_cons, Task.dooms_teardown] at fate
    obtain ⟨⟨first, others⟩, below⟩ := fate
    simpa using ⟨fun member => (first member).symm, others, below⟩
  | _ => simp_all

theorem Turn.held (t : Turn s i s') (inv : Fated e group h s) :
    ∀ r ∈ s'.outside, r.id ∉ group := by
  obtain ⟨-, fate, held, -⟩ := inv
  cases t with
  | dispatched top r' _ _ _ _ follows _ _ _ _ serves =>
    have stranger : r'.id ∉ group := by
      have unmarked := serves.unmarked
      simp_all [follows.id]
    simpa [or_imp, forall_and, stranger] using held
  | _ => simpa using held

/-- None of a group that is fated reaches the device. -/
theorem Turn.handled_not_mem (t : Turn s i s') (inv : Fated e group h s) :
    ∀ id ∈ i.handled, id ∉ group := by
  have fate := inv.fate
  cases t with
  | dispatched top _ _ _ _ _ _ _ _ _ _ serves =>
    have unmarked := serves.unmarked
    simp_all [History.handled, Incident.handled?]
  | _ => simp [History.handled, Incident.handled?]

theorem Turn.fated (t : Turn s i s') (inv : Fated e group h s) (line : Line e group s) :
    Fated e group (h ++ i) s' := by
  refine ⟨?_, t.dooms inv line, t.held inv,
    fun id member => Nat.lt_of_lt_of_le (inv.issued id member) t.copies.1⟩
  rw [History.endingsOf_append, List.append_assoc, ← t.awaited_eq inv line, inv.order]

theorem Move.fated {a : Action} (m : Move s a i s') (inv : Fated e group h s)
    (custody : s.Custody) (kept : a = .shift → ∀ r ∈ s.queue, r.id ∉ group) :
    Fated e group (h ++ i) s' := by
  obtain ⟨order, fate, held, issued⟩ := inv
  have fresh : s.nextId ∉ group := fun old => absurd (issued _ old) (Nat.lt_irrefl _)
  have outside {id : RequestId} {r : Request} (found : s.find? id = some r) : r.id ∉ group :=
    held r (List.mem_of_find?_eq_some found)
  have later := m.copies custody.unique
  refine ⟨?_, ?_, ?_, fun id member => Nat.lt_of_lt_of_le (issued id member) later.1⟩
  · cases m with
    | pushed found | pushAbandoned found | completed found | abandoned found =>
      have stranger := outside found
      simpa [stranger] using order
    | shifted head =>
      have none := kept rfl
      simp_all
    | _ => simp_all
  · cases m with
    | pushAbandoned found | completed found | abandoned found =>
      have stranger := outside found
      simp_all
    | _ => simp_all
  · exact m.forall_outside held (fun e r stranger => by simpa using stranger)
      (fun _ _ _ _ => fresh) kept

end Rules

section Outcome

variable {s : Storage} {e : Error} {group : List RequestId} {h : History}

/-- A group that is fated ends in order, each of its requests at most once. -/
theorem Fated.endings_prefix (inv : Fated e group h s) :
    h.endingsOf group <+: group.map (·, some e) :=
  ⟨_, inv.order⟩

/-- Where no call is going on and none of it waits, all of the group has ended. -/
theorem Fated.endings_eq (inv : Fated e group h s) (idle : s.isIdle)
    (none : ∀ r ∈ s.queue, r.id ∉ group) : h.endingsOf group = group.map (·, some e) := by
  have gone : s.awaited group = [] := by
    rw [Storage.awaited, Storage.line, flatMap_stack_eq_nil idle fun _ => rfl, List.nil_append,
      List.filter_eq_nil_iff, List.forall_mem_map]
    simpa using none
  simpa [gone] using inv.order

/-- The caller of a request of the group is told the error. -/
theorem Fated.result_eq (inv : Fated e group h s) {r : Request} {idle : Bool} {rest : List Task}
    (top : s.stack = .pipeline r (.conclude idle) :: rest) (member : r.id ∈ group) :
    r.result = .error e := by
  have doomed := inv.fate (.pipeline r (.conclude idle)) (by simp [top])
  have error : r.error = some e := by simpa [member] using doomed
  simp [Request.result, error]

end Outcome

end StorageEngine
