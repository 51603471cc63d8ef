import Mathlib.Data.List.Flatten
import StorageEngine.Proofs.Calls

/-!
# Who waits for what

Whoever hears of the end of a request is kept by the request, and by the order before there is one:
`Storage.receivers` are all who still wait.  Nobody comes to wait but by a call, and a callback that
is called waits no longer, so a call is heard of once at most.

* `Turn.receivers`, `Move.receivers` — who still waits, and who has just heard;
* `Run.receivers` — so a callback that waits or has heard has waited before;
* `promised_of_unkept` — a promise that has no result is pending as long as it waits;
* `Run.nobody_waits` — where no call is going on and nothing is inside the device, nobody waits.
-/

namespace StorageEngine

/-- Who waits for what a task holds. -/
def Task.receivers : Task → List Receiver
  | .submit o | .awaitClosing o => o.receiver.toList
  | .awaitOpening r | .enter r | .run r | .pipeline r _ => r.receiver.toList
  | .teardown orphans => orphans.flatMap (·.receiver.toList)
  | _ => []

/-- Everybody who waits for a request of the storage, or for one that has been ordered. -/
def Storage.receivers (s : Storage) : List Receiver :=
  s.queue.flatMap (·.receiver.toList) ++ s.outside.flatMap (·.receiver.toList) ++
    s.stack.flatMap (·.receivers)

/-- Who comes to wait by a move. -/
def Storage.joins (s : Storage) : Action → List Receiver
  | .call _ receiver _ => receiver.toList
  | .promise _ => [.promise s.nextPromise]
  | _ => []

/-- Whether an incident tells somebody who waits. -/
def Incident.tells (x : Receiver) : Incident → Bool
  | .invoked (.done code _) => .call code = x
  | _ => false

/-- What a callback hears is what it is told. -/
theorem History.length_heard (h : History) (code : Callback) :
    (h.heard ⟨code, none⟩).length = h.countP (·.tells (.call code)) := by
  rw [heard, List.length_filterMap_eq_countP]
  refine List.countP_congr fun incident _ => ?_
  cases incident with
  | invoked invocation =>
    cases invocation with
    | done other result =>
      by_cases same : other = code <;> simp [Incident.heard?, Incident.tells, same]
    | _ => simp [Incident.heard?, Incident.tells]
  | _ => simp [Incident.heard?, Incident.tells]

section Rules

variable {s s' : Storage} {i : History} {a : Action} (x : Receiver)

attribute [local simp] Storage.receivers Task.receivers Incident.tells List.count_append
  List.count_cons List.countP_cons List.flatMap_map

/-- A step brings nobody to wait, and whoever is told waits no longer. -/
theorem Turn.receivers (t : Turn s i s') :
    s'.receivers.count x + i.countP (·.tells x) ≤ s.receivers.count x := by
  cases t with
  | recorded top emitter announced =>
    cases announced <;> simp [top]
  | @freed r idle rest top =>
    cases idle <;> simp [top]
  | openingAdmitted top marked =>
    obtain rfl | ⟨e, rfl⟩ := marked <;> simp [top]
  | lost => simp [*, List.countP_map, Function.comp_def]
  | cleared =>
    simp [*, List.countP_map, Function.comp_def]
    omega
  | finished top r' _ _ _ _ follows | dispatched top r' _ _ _ _ follows
  | released top r' _ follows =>
    simp [top, follows.receiver]
  | queued | waiting | drained =>
    simp [*]
    omega
  | told =>
    simp [*]
    omega
  | _ => simp [*]

/-- A request that is taken from outside waits there no longer. -/
theorem Storage.count_taken {id : RequestId} {r : Request} (found : s.find? id = some r) :
    ((s.take id).outside.flatMap (·.receiver.toList)).count x + r.receiver.toList.count x ≤
      (s.outside.flatMap (·.receiver.toList)).count x := by
  obtain ⟨same, before, after, split, -⟩ := List.find?_eq_some_iff_append.mp found
  have taken : ((s.take id).outside.flatMap (·.receiver.toList)).Sublist
      ((before ++ after).flatMap (·.receiver.toList)) := by
    have same : r.id = id := by simpa using same
    have fewer : (s.take id).outside.Sublist (before ++ after) := by
      rw [take, split, List.filter_append, List.filter_cons_of_neg (by simp [same]),
        ← List.filter_append]
      exact List.filter_sublist
    exact fewer.flatMap _
  have fewer := taken.count_le x
  simp [split] at fewer ⊢
  omega

/-- Nobody comes to wait but by a call. -/
theorem Move.receivers (m : Move s a i s') :
    s'.receivers.count x + i.countP (·.tells x) ≤ s.receivers.count x + (s.joins a).count x := by
  cases m with
  | pushed found | pushAbandoned found | discarded _ found | completed found | abandoned found =>
    have taken := Storage.count_taken x found
    simp [Storage.joins] at taken ⊢
    omega
  | calledBack => simp [Storage.joins]
  | ordered | orderedDestruction | promised | promisedDestruction | shifted =>
    simp [Storage.joins, *]
    omega
  | edited id e =>
    have same (q : Request) : (if q.id = id then e.apply q else q).receiver = q.receiver := by
      split <;> simp
    simp [Storage.joins, same]
  | _ => simp [*]

end Rules

/-- Whoever comes to wait by a call is named by it. -/
theorem Storage.not_mem_joins {s : Storage} {a : Action} {code : Callback}
    (new : ∀ client ∈ (s.incidentsOf a).clients, client.code ≠ code) : .call code ∉ s.joins a := by
  intro joins
  cases a with
  | call op receiver observer =>
    obtain rfl : receiver = some (.call code) := by simpa [Storage.joins] using joins
    refine new ⟨code, observer⟩ ?_ rfl
    simp [incidentsOf, History.clients, Incident.client?, Action.client?]
  | _ => simp [Storage.joins] at joins

/-- A callback that nobody brings anew: if it waits or has heard, it has waited before. -/
theorem Run.receivers {rule : Rule} {start s : Storage} {h : History} {code : Callback}
    (run : Run rule start h s) (new : ∀ client ∈ h.clients, client.code ≠ code) :
    s.receivers.count (.call code) + h.countP (·.tells (.call code)) ≤
      start.receivers.count (.call code) := by
  induction run with
  | start => exact Nat.le_refl _
  | step _ next ih =>
    rw [History.clients_append, List.forall_mem_append] at new
    have before := ih new.1
    have step := (turn_of_step next).receivers (.call code)
    rw [List.countP_append]
    omega
  | @move h s a _ _ _ ih =>
    rw [History.clients_append, List.forall_mem_append] at new
    have before := ih new.1
    have move := (move_of_act s a).receivers (.call code)
    rw [List.count_eq_zero_of_not_mem (Storage.not_mem_joins new.2)] at move
    rw [List.countP_append]
    omega

/-- What is not told is not called. -/
theorem History.not_invoked {i : History} {code : Callback}
    (untold : i.countP (·.tells (.call code)) = 0) (v : Except Error Payload) :
    .done code v ∉ i.invoked := by
  intro called
  obtain ⟨incident, happens, invokes⟩ := List.mem_filterMap.mp called
  cases incident with
  | invoked invocation =>
    obtain rfl := Option.some.inj invokes
    exact absurd (List.countP_eq_zero.mp untold _ happens) (by simp [Incident.tells])
  | _ => simp [Incident.invoked?] at invokes

/-- What nobody is told leaves the callback alone. -/
theorem History.heard_eq_nil {i : History} {code : Callback}
    (untold : i.countP (·.tells (.call code)) = 0) : i.heard ⟨code, none⟩ = [] := by
  rw [← List.length_eq_zero_iff, length_heard, untold]

/-- The client code that has control has got it. -/
theorem Run.mem_codes {rule : Rule} {start s : Storage} {h : History} {code : Invocation}
    (run : Run rule start h s) (called : code ∈ s.codes) :
    code ∈ start.codes ∨ code ∈ h.invoked := by
  have invoked_append (h i : History) : (h ++ i).invoked = h.invoked ++ i.invoked :=
    List.filterMap_append
  induction run with
  | start => exact .inl called
  | @step h s s' _ next ih =>
    rw [s.codes_follow.1 s' next, List.mem_append, List.mem_reverse] at called
    rw [invoked_append, List.mem_append]
    tauto
  | @move h s a _ _ _ ih =>
    obtain ⟨-, follows, left, before, -⟩ := s.codes_follow
    rw [invoked_append, List.mem_append]
    by_cases stays : a = .leave
    · subst stays
      exact (ih (before ▸ List.mem_append_right left called)).imp_right .inl
    · rw [follows a stays, List.mem_append, List.mem_reverse] at called
      tauto

section Promised

variable (s : Storage) (number : Nat)

/-- A promise waits for what a task holds. -/
theorem Task.mem_receivers (t : Task) : .promise number ∈ t.receivers ↔
    (∃ r ∈ t.requests, r.carries number) ∨ t.promises number := by
  cases t <;> simp [receivers, requests, promises, Request.carries, Option.mem_toList]

/-- A promise waits for a request or for one that has been ordered. -/
theorem Storage.mem_receivers : .promise number ∈ s.receivers ↔
    s.requests.any (·.carries number) || s.stack.any (·.promises number) := by
  have carried (rs : List Request) :
      .promise number ∈ rs.flatMap (·.receiver.toList) ↔ ∃ r ∈ rs, r.carries number := by
    simp [Request.carries, Option.mem_toList]
  have stacked : .promise number ∈ s.stack.flatMap (·.receivers) ↔
      (∃ r ∈ s.stack.flatMap (·.requests), r.carries number) ∨
        ∃ t ∈ s.stack, t.promises number := by
    simp only [List.mem_flatMap, Task.mem_receivers, and_or_left, exists_or]
    refine or_congr_left ⟨?_, ?_⟩
    · rintro ⟨t, onStack, r, held, waits⟩
      exact ⟨r, ⟨t, onStack, held⟩, waits⟩
    · rintro ⟨r, ⟨t, onStack, held⟩, waits⟩
      exact ⟨t, onStack, r, held, waits⟩
  rw [receivers, List.mem_append, List.mem_append, carried, carried, stacked]
  simp only [requests, Bool.or_eq_true, List.any_eq_true, List.mem_append, or_and_right, exists_or,
    or_assoc]

/-- A promise that has no result is pending as long as it waits. -/
theorem Storage.promised_of_unkept (unkept : s.kept.find? (·.1 = number) = none) :
    s.promised number =
      if .promise number ∈ s.receivers then .pending else .settled (.error .abandoned) := by
  simp only [promised, unkept, mem_receivers]

end Promised

section Idle

/-- Nobody waits for a request in the hands of a client. -/
def Storage.Lone (s : Storage) : Prop :=
  ∀ r ∈ s.outside, r.phase ≠ .running → r.receiver = none

/-- The clients leave the queue to the storage, and do not push what is inside the device. -/
def Rule.undisturbed : Rule :=
  fun h s a => Rule.orderly h s a ∧ a ≠ .shift

variable {s s' : Storage} {h i : History} {a : Action}

theorem Turn.lone (t : Turn s i s') (inv : s.Lone) : s'.Lone := by
  cases t with
  | dispatched _ r' _ _ _ _ _ phase =>
    refine List.forall_mem_append.mpr ⟨inv, ?_⟩
    simp [phase]
  | _ => exact inv

theorem Move.lone (m : Move s a i s') (inv : s.Lone) (noShift : a ≠ .shift) : s'.Lone := by
  cases m with
  | pushed | pushAbandoned | completed | abandoned | discarded =>
    exact fun r held => inv r (List.mem_filter.mp held).1
  | shifted => exact absurd rfl noShift
  | made =>
    refine List.forall_mem_append.mpr ⟨inv, ?_⟩
    simp
  | edited id e =>
    refine List.forall_mem_map.mpr fun r held => ?_
    split
    · simpa using inv r held
    · exact inv r held
  | _ => exact inv

/-- **Nobody is left waiting.**  If clients take nothing out of the queue and push nothing that is
inside the device, then nobody waits where no call is going on and nothing is inside the device. -/
theorem Run.nobody_waits {capabilities : Capabilities} {limits : Limits} {allocator : Allocator}
    (run : Run Rule.undisturbed (Storage.create capabilities limits allocator) h s)
    (idle : s.isIdle) (finished : s.pending = 0) : s.receivers = [] := by
  have lone : s.Lone := by
    refine run.invariant (motive := fun _ s => s.Lone) ?_ ?_ ?_
    · exact fun r held => absurd held (by simp)
    · intro _ _ _ _ _ inv t
      exact t.lone inv
    · intro _ _ _ _ _ _ inv _ allowed m
      exact m.lone inv allowed.2
  have orderly := run.mono fun _ _ _ undisturbed => undisturbed.1
  have queue : s.queue = [] := by
    by_contra waits
    have occupied := orderly.wakeful_of_create.pending_pos orderly.accounts_of_create idle waits
    omega
  have outside : s.outside.flatMap (·.receiver.toList) = [] := by
    have none := orderly.accounts_of_create.pending_of_isIdle idle
    rw [finished, eq_comm, List.length_eq_zero_iff, List.filter_eq_nil_iff] at none
    refine List.flatMap_eq_nil_iff.mpr fun r held => ?_
    rw [lone r held (by simpa using none r held), Option.toList_none]
  have stack : s.stack.flatMap (·.receivers) = [] := flatMap_stack_eq_nil idle fun _ => rfl
  rw [Storage.receivers, queue, outside, stack]
  rfl

end Idle

end StorageEngine
