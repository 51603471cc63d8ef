import StorageEngine.Proofs.Destroyed

/-!
# Regular runs

Clients that use nothing but the operations of a storage neither take requests out of the queue nor
finish requests that were never inside the device.  In such a run (`Rule.regular`) requests keep to
their ways, and `Tidy` says so:

* what is outside is not marked with an error;
* a data request that an opening that failed in place has marked is handed over at once;
* what settles without ever having been inside the device fails with the fault of a destruction;
* no barrier gets into a storage that is destroyed.

Together with the accounts of what is inside, this gives room to a barrier: when the state moves on
for one, nothing else is on its way to an end (`Tidy.clear_of_settle`).

Clients that push nothing that is inside the device leave every request one chance to begin
(`Run.once`).
-/

namespace StorageEngine

namespace Task

/-- What a task is about to admit is not marked. -/
def Unmarked : Task → Prop
  | .awaitOpening r | .enter r => r.error = none
  | _ => True

/-- What a task settles was never inside the device. -/
def Orphaned : Task → Prop
  | .pipeline r (.record _) => r.phase ≠ .running
  | .pipeline _ (.settle dispatched) => dispatched = false
  | .teardown _ => True
  | _ => False

/-- What settles without ever having been inside the device fails with the fault of a destruction
that is over. -/
def Belongs (past : Prop) (t : Task) : Prop :=
  t.due ≠ [] → t.Orphaned → past ∧ t.Fails .fault

section Belongs

variable (past : Prop) (r : Request)

theorem Belongs.mono {past past' : Prop} {t : Task} (belongs : t.Belongs past)
    (still : past → past') : t.Belongs past' :=
  fun some orphaned => (belongs some orphaned).imp_left still

@[simp] theorem belongs_of_due_eq_nil {t : Task} (nothing : t.due = []) : t.Belongs past :=
  fun some => absurd nothing some

@[simp] theorem belongs_run : (run r).Belongs past :=
  fun _ => False.elim

@[simp] theorem belongs_record (result : Except Error Nat) :
    (pipeline r (.record result)).Belongs past ↔
      (r.phase ≠ .running → past ∧ result = .error .fault) := by
  simp [Belongs, Orphaned]

@[simp] theorem belongs_settle (dispatched : Bool) :
    (pipeline r (.settle dispatched)).Belongs past ↔
      (dispatched = false → past ∧ r.error = some .fault) := by
  simp [Belongs, Orphaned]

@[simp] theorem belongs_teardown (rs : List Request) :
    (teardown rs).Belongs past ↔ (rs ≠ [] → past) := by
  simp [Belongs, Orphaned]

end Belongs

end Task

/-- A destruction is over: it has succeeded, and the queue has been cleared. -/
def Storage.IsOver (s : Storage) : Prop :=
  s.ready = .destroyed ∧ s.queue = []

/-- Requests keep to their ways. -/
structure Tidy (s : Storage) : Prop where
  outside : ∀ r ∈ s.outside, r.error = none
  entering : (∀ t ∈ s.stack, t.Unmarked) ∨
    ∃ r rest, s.stack = .enter r :: rest ∧ s.Owes r ∧ ∀ t ∈ rest, t.Unmarked
  orphans : ∀ t ∈ s.stack, t.Belongs s.IsOver
  ended : s.ready = .destroyed → s.barrier = false ∧ ∀ t ∈ s.stack, ¬ t.runsBarrier

/-- A request that waits was not marked on its way in. -/
theorem Tidy.unmarked_of_blocked {s : Storage} (tidy : Tidy s) {r : Request} {rest : List Task}
    (top : s.stack = .enter r :: rest) (blocked : s.barrier = true ∨ s.queue ≠ []) :
    r.error = none := by
  obtain unmarked | ⟨r', rest', entering, owes, -⟩ := tidy.entering
  · exact unmarked (.enter r) (by simp [top])
  · simp [owes.free, owes.empty] at blocked

section Rules

variable {s s' : Storage} {h i : History}

theorem Turn.outside_unmarked (t : Turn s i s') (inv : ∀ r ∈ s.outside, r.error = none) :
    ∀ r ∈ s'.outside, r.error = none := by
  cases t with
  | dispatched top r' _ _ _ _ _ _ _ _ error serves =>
    simpa [or_imp, forall_and, error, serves.unmarked] using inv
  | _ => exact inv

section Entering

attribute [local simp] Task.Unmarked Order.request

theorem Turn.entering (t : Turn s i s')
    (inv : (∀ t ∈ s.stack, t.Unmarked) ∨
      ∃ r rest, s.stack = .enter r :: rest ∧ s.Owes r ∧ ∀ t ∈ rest, t.Unmarked) :
    (∀ t ∈ s'.stack, t.Unmarked) ∨
      ∃ r rest, s'.stack = .enter r :: rest ∧ s'.Owes r ∧ ∀ t ∈ rest, t.Unmarked := by
  cases t with
  | @openingAdmitted r r' rest top _ owes =>
    have unmarked : ∀ t ∈ s.stack, t.Unmarked := inv.resolve_right fun ⟨_, _, entering, _⟩ => by
      simp [top] at entering
    simp only [top, List.forall_mem_cons] at unmarked
    obtain rfl | owes := owes
    · exact .inl (List.forall_mem_cons.mpr unmarked.2)
    · exact .inr ⟨r', rest, rfl, ⟨owes.free, owes.empty, owes.shut, owes.error⟩, unmarked.2.2⟩
  | waiting top | turnedAway top | entered top =>
    -- The request goes, marked or not.
    have others : ∀ t ∈ s.stack.tail, t.Unmarked := by
      obtain unmarked | ⟨r, rest, entering, -, unmarked⟩ := inv
      · exact fun t below => unmarked t (List.mem_of_mem_tail below)
      · rwa [entering]
    rw [top] at others
    exact .inl (by simpa using others)
  | recorded top emitter announced => cases announced <;> simp_all
  | @freed r idle rest top a => cases idle <;> simp_all
  | _ => simp_all

end Entering

/-- A destruction that is over stays so. -/
theorem Turn.isOver (t : Turn s i s') (past : s.IsOver) : s'.IsOver := by
  obtain ⟨dead, empty⟩ := past
  refine ⟨t.ready_of_destroyed dead, ?_⟩
  cases t with
  | queued _ _ _ _ _ room | waiting _ _ room => exact absurd dead room.living
  | drained _ head => simp [empty] at head
  | settled => simp [empty]
  | _ => first | exact empty | rfl

theorem Move.isOver {a : Action} (m : Move s a i s') (past : s.IsOver) : s'.IsOver := by
  obtain ⟨dead, empty⟩ := past
  refine ⟨m.ready_eq.trans dead, ?_⟩
  cases m with
  | pushed _ room => exact absurd dead room.living
  | shifted head => simp [empty] at head
  | _ => exact empty

theorem Turn.orphans (t : Turn s i s') (inv : ∀ t ∈ s.stack, t.Belongs s.IsOver) :
    ∀ t ∈ s'.stack, t.Belongs s'.IsOver := by
  have inv : ∀ t ∈ s.stack, t.Belongs s'.IsOver :=
    fun task onStack => (inv task onStack).mono t.isOver
  generalize past : s'.IsOver = isOver at inv
  cases t with
  | recorded top emitter announced => cases announced <;> simp_all
  | @freed r idle rest top a => cases idle <;> simp_all
  | cleared top _ _ dead =>
    obtain rfl : isOver = True := by simpa [Storage.IsOver, dead, eq_comm] using past
    simp_all
  | orphaned top =>
    simp only [top, List.forall_mem_cons, Task.belongs_teardown] at inv
    simpa using ⟨fun _ => inv.1 (by simp), fun _ => inv.1 (by simp), inv.2⟩
  | _ => simp_all

/-- No barrier gets into a storage that is destroyed. -/
theorem Turn.ended (t : Turn s i s') (inPlace : s.InPlace) (onTop : s.LaunchOnTop)
    (orphans : ∀ t ∈ s.stack, t.Belongs s.IsOver)
    (inv : s.ready = .destroyed → s.barrier = false ∧ ∀ t ∈ s.stack, ¬ t.runsBarrier) :
    s'.ready = .destroyed → s'.barrier = false ∧ ∀ t ∈ s'.stack, ¬ t.runsBarrier := by
  intro dead
  cases t with
  | recorded top emitter announced => cases announced <;> simp_all
  | @freed r idle rest top a => cases idle <;> simp_all
  | @settled r dispatched rest top =>
    have quiet := onTop.not_runsBarrier top
    obtain before | ends := (s.transition_ready r).mp dead
    · cases dispatched <;> simp_all
    · cases dispatched with
      | false =>
        have orphan := orphans (.pipeline r (.settle false)) (by simp [top])
        simp [ends.2] at orphan
      | true =>
        have isBarrier : r.kind.isBarrier = true := by rw [ends.1]; rfl
        simpa [isBarrier] using quiet
  | @entered r rest top =>
    have data := (inPlace.stack (.enter r) (by simp [top])).2
    simp_all
  | _ => simp_all

theorem Turn.tidy (t : Turn s i s') (inPlace : s.InPlace) (onTop : s.LaunchOnTop)
    (inv : Tidy s) : Tidy s' :=
  ⟨t.outside_unmarked inv.outside, t.entering inv.entering, t.orphans inv.orphans,
    t.ended inPlace onTop inv.orphans inv.ended⟩

/-- A client that makes regular moves keeps requests to their ways. -/
theorem Move.tidy {a : Action} (m : Move s a i s') (turn : s.isAtRest)
    (allowed : Rule.regular h s a) (inv : Tidy s) : Tidy s' := by
  have running {id : RequestId} {v : Verdict} {r : Request} (completes : a = .complete id v)
      (found : s.find? id = some r) : r.phase = .running := allowed.2.2 id v r completes found
  refine ⟨?_, ?_, ?_, ?_⟩
  · exact m.forall_outside inv.outside (fun e r unmarked => by simpa using unmarked)
      (fun _ _ _ _ => rfl) (fun shifts => absurd shifts allowed.2.1)
  · have unmarked : ∀ t ∈ s.stack, t.Unmarked := inv.entering.resolve_right fun entering => by
      obtain ⟨r, rest, top, -⟩ := entering
      simp [Storage.isAtRest, Storage.step, top] at turn
    refine .inl ?_
    cases m <;> simp_all [Task.Unmarked]
  · have orphans : ∀ t ∈ s.stack, t.Belongs s'.IsOver :=
      fun task onStack => (inv.orphans task onStack).mono m.isOver
    generalize s'.IsOver = past at orphans
    cases m with
    | completed found => simp_all [Request.fill]
    | _ => simp_all
  · have ended := inv.ended
    cases m <;> simp_all

end Rules

theorem Storage.tidy_create (capabilities : Capabilities) (limits : Limits)
    (allocator : Allocator) : Tidy (create capabilities limits allocator) := by
  constructor <;> simp [create]

theorem Run.tidy {start : Storage} (custody : start.Custody) (onTop : start.LaunchOnTop)
    (initial : Tidy start) {h : History} {s : Storage} (run : Run Rule.regular start h s) :
    Tidy s := by
  refine run.invariant (motive := fun _ s => Tidy s) initial ?_ ?_
  · intro h s i s' run inv t
    exact t.tidy (run.custody custody).inPlace (run.launchOnTop onTop) inv
  · intro h s a i s' _ inv turn allowed m
    exact m.tidy turn allowed inv

/-- Nothing is on its way to an end: neither inside the device nor on the stack. -/
structure Clear (s : Storage) (below : List Task) : Prop where
  outside : ∀ r ∈ s.outside, r.phase ≠ .running
  stack : ∀ t ∈ below, t.due = []

section Clear

variable {s : Storage} {h : History} {r : Request} {rest : List Task}

/-- Where nothing counts as inside a storage that is not destroyed, nothing is on its way to an end:
only what a destruction has left behind comes to its end without having been inside. -/
theorem Tidy.clear_of_counted (tidy : Tidy s) (onTop : s.LaunchOnTop) {task : Task}
    (top : s.stack = task :: rest) (living : s.ready ≠ .destroyed)
    (outside : s.outside.filter (·.phase = .running) = [])
    (uncounted : rest.flatMap (·.counted) = []) : Clear s rest := by
  refine ⟨by simpa [List.filter_eq_nil_iff] using outside, fun t below => ?_⟩
  have uncounted : t.counted = [] := List.flatMap_eq_nil_iff.mp uncounted t below
  have quiet := onTop.launched_below top t below
  have belongs := tidy.orphans t (by simp [top, below])
  have past : ¬ s.IsOver := fun past => living past.1
  cases t with
  | run r => simp [Task.launched] at quiet
  | pipeline r stage =>
    cases stage with
    | record result =>
      have running : r.phase ≠ .running := by simpa [Task.counted] using uncounted
      exact absurd ((Task.belongs_record ..).mp belongs running).1 past
    | settle dispatched =>
      have inPlace : dispatched = false := by
        cases dispatched <;> simp_all [Task.counted]
      exact absurd ((Task.belongs_settle ..).mp belongs inPlace).1 past
    | _ => simp
  | teardown rs =>
    by_contra some
    exact past ((Task.belongs_teardown ..).mp belongs (by simpa using some))
  | _ => simp

/-- A barrier inside the device keeps the flag up, and is alone there. -/
theorem Accounts.counted_of_barrier (books : Accounts h s) (held : r ∈ s.counted)
    (barrier : r.kind.isBarrier) : s.barrier = true ∧ s.counted = [r] := by
  have some : 0 < s.tally (·.kind.isBarrier) := by
    rw [Storage.tally, List.countP_pos_iff]
    exact ⟨r, held, barrier⟩
  have flag : s.barrier = true := by
    cases flag : s.barrier with
    | true => rfl
    | false => simp [books.barrier, flag] at some
  have alone := books.alone flag
  rw [books.pending, Storage.tally, List.countP_true, List.length_eq_one_iff] at alone
  obtain ⟨r', alone⟩ := alone
  rw [alone, List.mem_singleton] at held
  exact ⟨flag, held ▸ alone⟩

theorem Storage.counted_of_settle (top : s.stack = .pipeline r (.settle true) :: rest) :
    s.counted = s.outside.filter (·.phase = .running) ++ r :: rest.flatMap (·.counted) := by
  simp [Storage.counted, top, Task.counted]

/-- The storage is not destroyed before the state moves on for a barrier inside. -/
theorem Tidy.living_of_settle (tidy : Tidy s) (books : Accounts h s)
    (top : s.stack = .pipeline r (.settle true) :: rest) (barrier : r.kind.isBarrier) :
    s.ready ≠ .destroyed := by
  intro dead
  have flag := (books.counted_of_barrier (by simp [s.counted_of_settle top]) barrier).1
  simp [(tidy.ended dead).1] at flag

/-- Nothing else is on its way to an end when the state moves on for a barrier. -/
theorem Tidy.clear_of_settle (tidy : Tidy s) (onTop : s.LaunchOnTop) (books : Accounts h s)
    (top : s.stack = .pipeline r (.settle true) :: rest) (barrier : r.kind.isBarrier) :
    Clear s rest := by
  have counted := s.counted_of_settle top
  have alone := (books.counted_of_barrier (by simp [counted]) barrier).2
  have length := congrArg List.length (counted.symm.trans alone)
  simp only [List.length_append, List.length_cons, List.length_nil] at length
  exact tidy.clear_of_counted onTop top (tidy.living_of_settle books top barrier)
    (List.eq_nil_of_length_eq_zero (by omega)) (List.eq_nil_of_length_eq_zero (by omega))

end Clear

namespace Task

/-- The requests that a task is about to admit. -/
def fresh : Task → List Request
  | .awaitOpening r | .enter r => [r]
  | _ => []

theorem mem_requests_of_mem_fresh {t : Task} {r : Request} (held : r ∈ t.fresh) :
    r ∈ t.requests := by
  cases t <;> simp_all [fresh, requests]

end Task

namespace Storage

/-- The requests that may still begin. -/
def prospects (s : Storage) : List Request :=
  s.queue ++ s.outside.filter (·.phase ≠ .running) ++ s.stack.flatMap (·.fresh)

end Storage

section Begun

variable {s s' : Storage} {h i : History}

attribute [local simp] Storage.prospects Task.fresh History.begun Incident.begun? Request.queued
  Request.tag Order.request List.filterMap_cons List.countP_cons

/-- What begins was a prospect, and at most one request with a new number joins the prospects. -/
theorem Turn.prospects (t : Turn s i s') (id : RequestId) :
    i.begun.countP (·.id = id) + s'.prospects.countP (·.id = id) ≤
      s.prospects.countP (·.id = id) + if s.nextId ≤ id ∧ id < s'.nextId then 1 else 0 := by
  cases t with
  | queued | deferred | offered =>
    simp [*]
    grind
  | openingAdmitted top marked =>
    obtain rfl | ⟨e, rfl⟩ := marked <;> simp [top, Request.poison]
  | recorded top emitter announced =>
    cases announced <;> simp [top]
  | @freed r idle rest top a =>
    cases idle <;> simp [top]
  | settled top =>
    simp [top, List.countP_map, Function.comp_def]
  | lost | cleared =>
    simp [List.filterMap_map, Function.comp_def, *]
    omega
  | _ =>
    simp [*] <;> omega

/-- The same for the moves of clients that push nothing that is inside the device. -/
theorem Move.prospects {a : Action} (m : Move s a i s') (custody : s.Custody)
    (orderly : Rule.orderly h s a) (id : RequestId) :
    i.begun.countP (·.id = id) + s'.prospects.countP (·.id = id) ≤
      s.prospects.countP (·.id = id) + if s.nextId ≤ id ∧ id < s'.nextId then 1 else 0 := by
  have outside := Storage.countP_outside_le custody.unique
  cases m with
  | made =>
    simp
    grind
  | edited id' e =>
    have same (q : Request) : (if q.id = id' then e.apply q else q).id = q.id ∧
        (if q.id = id' then e.apply q else q).phase = q.phase := by
      split <;> simp
    simp [List.filter_map, List.countP_map, Function.comp_def, same]
  | @pushed _ r found =>
    have fresh : r.phase ≠ .running := orderly.2 _ r rfl found
    obtain ⟨before, after, split, taken, -⟩ := Storage.outside_eq_of_find? (outside _) found
    simp [split, taken, fresh]
    omega
  | @pushAbandoned _ r found | @completed _ r found | @abandoned _ r found
  | @discarded _ _ r found =>
    obtain ⟨before, after, split, taken, -⟩ := Storage.outside_eq_of_find? (outside _) found
    by_cases running : r.phase = .running
    · simp [split, taken, running]
    · simp [split, taken, running]
      omega
  | shifted head =>
    simp [head]
    omega
  | _ =>
    simp [*]

end Begun

theorem Storage.Custody.prospects {s : Storage} (custody : s.Custody) {id : RequestId}
    (later : s.nextId ≤ id) : s.prospects.countP (·.id = id) = 0 := by
  rw [List.countP_eq_zero]
  intro r held
  have known : r ∈ s.requests := by
    simp only [Storage.prospects, Storage.requests, List.mem_append, List.mem_filter,
      List.mem_flatMap] at held ⊢
    obtain (waits | ⟨outside, -⟩) | ⟨t, onStack, fresh⟩ := held
    · exact .inl (.inl waits)
    · exact .inl (.inr outside)
    · exact .inr ⟨t, onStack, Task.mem_requests_of_mem_fresh fresh⟩
  have given : r.id ≠ id := Nat.ne_of_lt (Nat.lt_of_lt_of_le (custody.id_lt known) later)
  simpa using given

/-- No request begins twice, and none that has begun waits to begin. -/
structure Once (id : RequestId) (h : History) (s : Storage) : Prop where
  once : h.begun.countP (·.id = id) + s.prospects.countP (·.id = id) ≤ 1
  issued : s.nextId ≤ id → h.begun.countP (·.id = id) = 0

/-- A number is new before its request becomes a prospect. -/
theorem Once.next {id : RequestId} {h i : History} {s s' : Storage} (inv : Once id h s)
    (custody : s.Custody) (later : s.nextId ≤ s'.nextId)
    (moved : i.begun.countP (·.id = id) + s'.prospects.countP (·.id = id) ≤
      s.prospects.countP (·.id = id) + if s.nextId ≤ id ∧ id < s'.nextId then 1 else 0) :
    Once id (h ++ i) s' := by
  have before := inv.once
  by_cases new : s.nextId ≤ id
  · have none := inv.issued new
    rw [custody.prospects new] at moved
    constructor
    · simp only [History.begun_append, List.countP_append]
      split at moved <;> omega
    · intro still
      rw [if_neg fun given => Nat.not_lt.mpr still given.2] at moved
      simp only [History.begun_append, List.countP_append]
      omega
  · rw [if_neg fun given => new given.1] at moved
    constructor
    · simp only [History.begun_append, List.countP_append]
      omega
    · exact fun still => absurd (Nat.le_trans later still) new

theorem Run.once {start : Storage} (custody : start.Custody) {id : RequestId}
    (initial : Once id [] start) {h : History} {s : Storage}
    (run : Run Rule.orderly start h s) : Once id h s := by
  refine run.invariant initial ?_ ?_
  · intro h s i s' run inv t
    exact inv.next (run.custody custody) t.copies.1 (t.prospects id)
  · intro h s a i s' run inv _ orderly m
    have custody := run.custody custody
    exact inv.next custody (m.copies custody.unique).1 (m.prospects custody orderly id)

theorem Storage.once_create (capabilities : Capabilities) (limits : Limits) (allocator : Allocator)
    (id : RequestId) : Once id [] (create capabilities limits allocator) := by
  constructor <;> simp [create, Storage.prospects, History.begun]

end StorageEngine
