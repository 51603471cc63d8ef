import StorageEngine.Proofs.AdmissionOrder
import StorageEngine.Proofs.Regular

/-!
# The marks of a failed opening

An opening that fails marks what waits in the queue with its error.  In regular runs the marked
requests are the front of the queue, and as long as there are some, no other error and no success
comes in between: nothing is inside the device, and whatever else is on its way to an end fails with
the same error (`Tainted`).  So nothing marks a request a second time with another error, and the
state does not move on.

* `Turn.tainted`, `Move.tainted` — marks stay in front until they are used up;
* `Turn.unmarked`, `Turn.failed` — where marks come from;
* `Turn.marks`, `Move.marks` — a queue without marks stays so until an opening fails;
* `Run.regular_of_create` — all that holds along regular runs, in one place (`Regular`).
-/

namespace StorageEngine

/-- Whatever a task brings to its end fails with this error. -/
def Task.Ruins (e : Error) (t : Task) : Prop :=
  t.due ≠ [] → t.Fails e

section Ruins

variable (e : Error) (r : Request)

@[simp] theorem Task.ruins_of_due_eq_nil {t : Task} (nothing : t.due = []) : t.Ruins e :=
  fun some => absurd nothing some

@[simp] theorem Task.ruins_run : (run r).Ruins e ↔ r.error = some e := by
  simp [Ruins]

@[simp] theorem Task.ruins_record (result : Except Error Nat) :
    (pipeline r (.record result)).Ruins e ↔ result = .error e := by
  simp [Ruins]

@[simp] theorem Task.ruins_settle (dispatched : Bool) :
    (pipeline r (.settle dispatched)).Ruins e ↔ r.error = some e := by
  simp [Ruins]

@[simp] theorem Task.ruins_teardown (rs : List Request) :
    (teardown rs).Ruins e ↔ (rs ≠ [] → e = .fault) := by
  simp [Ruins]

end Ruins

/-- Nothing is marked with an error. -/
def Unmarked (q : List Request) : Prop :=
  ∀ r ∈ q, r.error = none

/-- The front of a queue is marked with this error, and nothing else is. -/
def Marked (e : Error) (q : List Request) : Prop :=
  ∃ front back, q = front ++ back ∧ front ≠ [] ∧ (∀ r ∈ front, r.error = some e) ∧ Unmarked back

/-- Requests wait that an opening has marked when it failed with this error. -/
structure Tainted (e : Error) (s : Storage) : Prop where
  living : s.ready ≠ .destroyed
  asks : s.needsOpen = true
  outside : ∀ r ∈ s.outside, r.phase ≠ .running
  stack : ∀ t ∈ s.stack, t.Ruins e
  queue : Marked e s.queue

/-- What waits is not marked, or an opening has failed and has marked it. -/
def Marks (s : Storage) : Prop :=
  Unmarked s.queue ∨ ∃ e, Tainted e s

section Queue

variable {e : Error} {q : List Request} {r : Request}

@[simp] theorem unmarked_nil : Unmarked [] := by
  simp [Unmarked]

@[simp] theorem unmarked_append {q' : List Request} :
    Unmarked (q ++ q') ↔ Unmarked q ∧ Unmarked q' := by
  simp [Unmarked, or_imp, forall_and]

@[simp] theorem unmarked_cons : Unmarked (r :: q) ↔ r.error = none ∧ Unmarked q := by
  simp [Unmarked]

theorem Marked.ne_nil (marked : Marked e q) : q ≠ [] := by
  obtain ⟨front, back, rfl, some, -⟩ := marked
  simp [some]

theorem Marked.not_unmarked (marked : Marked e q) : ¬ Unmarked q := by
  obtain ⟨front, back, rfl, some, front_eq, -⟩ := marked
  obtain ⟨r, held⟩ := List.exists_mem_of_ne_nil front some
  intro unmarked
  have none := unmarked r (by simp [held])
  simp [front_eq r held] at none

theorem Marked.append (marked : Marked e q) (new : r.error = none) : Marked e (q ++ [r]) := by
  obtain ⟨front, back, rfl, some, front_eq, back_eq⟩ := marked
  exact ⟨front, back ++ [r], by simp, some, front_eq, by simp [back_eq, new]⟩

/-- The head is marked, and what is behind it is marked as well or not at all. -/
theorem Marked.of_cons (marked : Marked e (r :: q)) :
    r.error = some e ∧ (Unmarked q ∨ Marked e q) := by
  obtain ⟨front, back, split, some, front_eq, back_eq⟩ := marked
  cases front with
  | nil => exact absurd rfl some
  | cons head front =>
    obtain ⟨rfl, rfl⟩ := List.cons.inj split
    refine ⟨front_eq _ (by simp), ?_⟩
    by_cases last : front = []
    · exact .inl (by simpa [last] using back_eq)
    · exact .inr ⟨front, back, rfl, last, fun r held => front_eq r (by simp [held]), back_eq⟩

/-- A failed opening marks all that waits. -/
theorem marked_map_poison (some : q ≠ []) : Marked e (q.map (·.poison e)) :=
  ⟨q.map (·.poison e), [], by simp, by simpa using some, by simp [Request.poison], by simp⟩

/-- An error moves no storage to another point of life. -/
theorem Storage.transition_ready_of_error {s : Storage} (error : r.error = some e) :
    (s.transition r).ready = s.ready := by
  unfold transition
  rw [error]
  cases r.kind <;> rfl

theorem map_fallout_of_opening (error : r.error = some e) (opening : r.kind = .opening) :
    q.map r.fallout = q.map (·.poison e) := by
  simp [Request.fallout, error, opening]

theorem map_fallout_of_ne (ordinary : r.error = none ∨ r.kind ≠ .opening) :
    q.map r.fallout = q := by
  have same : r.fallout = id := by
    funext other
    unfold Request.fallout
    split <;> simp_all
  rw [same, List.map_id]

/-- There is one error on the marks. -/
theorem Marked.error_eq {e' : Error} (marked : Marked e q) (held : r ∈ q)
    (error : r.error = some e') : e' = e := by
  obtain ⟨front, back, rfl, -, front_eq, back_eq⟩ := marked
  obtain front | back := List.mem_append.mp held
  · simpa [error] using front_eq r front
  · simpa [error] using back_eq r back

end Queue

section Rules

variable {s s' : Storage} {e : Error} {h i : History}

attribute [local simp] Order.request Request.queued

/-- What is about to end while requests are marked fails with the error on the marks. -/
theorem Tainted.error_eq {r : Request} {dispatched : Bool} {rest : List Task}
    (inv : Tainted e s) (top : s.stack = .pipeline r (.settle dispatched) :: rest) :
    r.error = some e := by
  simpa using inv.stack (.pipeline r (.settle dispatched)) (by simp [top])

/-- What waits and is handed over bears the mark, or no mark is left. -/
theorem Turn.marked (t : Turn s i s') (tidy : Tidy s) (inv : Tainted e s) :
    Unmarked s'.queue ∨ Marked e s'.queue := by
  have marked := inv.queue
  cases t with
  | lost | cleared => exact .inl unmarked_nil
  | queued => exact .inr (marked.append rfl)
  | waiting top blocked =>
    have new := tidy.unmarked_of_blocked top blocked
    exact .inr (marked.append new)
  | drained top head =>
    rw [head] at marked
    exact marked.of_cons.2
  | @settled r dispatched rest top =>
    have error := inv.error_eq top
    by_cases opening : r.kind = .opening
    · rw [map_fallout_of_opening error opening]
      exact .inr (marked_map_poison marked.ne_nil)
    · rw [map_fallout_of_ne (.inr opening)]
      exact .inr marked
  | _ => exact .inr marked

/-- Whatever comes to its end while requests are marked fails with the error on the marks. -/
theorem Turn.ruins (t : Turn s i s') (inv : Tainted e s) : ∀ t ∈ s'.stack, t.Ruins e := by
  obtain ⟨living, -, -, stack, queue⟩ := inv
  cases t with
  | cleared _ _ _ dead => exact absurd dead living
  | entered _ _ empty => exact absurd empty queue.ne_nil
  | drained top head =>
    rw [head] at queue
    have error := queue.of_cons.1
    simp_all
  | finished top r' result _ _ _ follows _ _ error answers =>
    have failed : result = .error e := by
      cases answers <;> simp_all
    simp_all
  | recorded top emitter announced => cases announced <;> simp_all
  | @freed r idle rest top => cases idle <;> simp_all
  | orphaned top =>
    simp only [top, List.forall_mem_cons, Task.ruins_teardown] at stack
    simpa using ⟨(stack.1 (by simp)).symm, fun _ => stack.1 (by simp), stack.2⟩
  | _ => simp_all

/-- While requests are marked, nothing reaches the device and the state does not move on. -/
theorem Turn.standstill (t : Turn s i s') (inv : Tainted e s) :
    s'.ready = s.ready ∧ s'.needsOpen = true ∧ s'.outside = s.outside := by
  obtain ⟨-, asks, -, stack, -⟩ := inv
  cases t with
  | finished top r' result _ _ _ _ _ _ _ answers =>
    cases answers <;> simp_all
  | dispatched top _ _ _ _ _ _ _ _ _ _ serves =>
    have unmarked := serves.unmarked
    simp_all
  | @settled r dispatched rest top =>
    have error : r.error = some e := by simp_all
    unfold Storage.transition
    simp only [error]
    split <;> simp_all
  | _ => exact ⟨rfl, asks, rfl⟩

theorem Turn.tainted (t : Turn s i s') (tidy : Tidy s) (inv : Tainted e s) :
    Unmarked s'.queue ∨ Tainted e s' := by
  obtain ⟨ready, asks, outside⟩ := t.standstill inv
  refine (t.marked tidy inv).imp_right fun marked => ?_
  exact ⟨ready ▸ inv.living, asks, outside ▸ inv.outside, t.ruins inv, marked⟩

theorem Move.tainted {a : Action} (m : Move s a i s') (tidy : Tidy s)
    (allowed : Rule.regular h s a) (inv : Tainted e s) : Tainted e s' := by
  obtain ⟨living, asks, outside, stack, queue⟩ := inv
  have after : ∀ r ∈ s'.outside, r.phase ≠ .running :=
    m.forall_outside outside (fun e r still => by simpa using still) (fun _ _ _ _ => by simp)
      (fun shifts => absurd shifts allowed.2.1)
  have still {id : RequestId} {r : Request} (found : s.find? id = some r) : r.phase ≠ .running :=
    outside r (List.mem_of_find?_eq_some found)
  cases m with
  | @pushed id r found room =>
    have unmarked := tidy.outside r (List.mem_of_find?_eq_some found)
    exact ⟨living, asks, after, by simpa using stack, queue.append unmarked⟩
  | shifted => exact absurd rfl allowed.2.1
  | pushAbandoned found _ inside | abandoned found inside => exact absurd inside (still found)
  | completed found v => exact absurd (allowed.2.2 _ _ _ rfl found) (still found)
  | left top | collected top => exact ⟨living, asks, after, by simp_all, queue⟩
  | _ => exact ⟨living, asks, after, by simpa using stack, queue⟩

/-- Nothing is marked but by the end of an opening that fails. -/
theorem Turn.unmarked (t : Turn s i s') (tidy : Tidy s) (unmarked : Unmarked s.queue) :
    Unmarked s'.queue ∨ ∃ o dispatched rest e,
      s.stack = .pipeline o (.settle dispatched) :: rest ∧ o.kind = .opening ∧
        o.error = some e := by
  cases t with
  | lost | cleared => exact .inl unmarked_nil
  | queued => exact .inl (by simpa using unmarked)
  | waiting top blocked =>
    have new := tidy.unmarked_of_blocked top blocked
    exact .inl (by simpa using ⟨unmarked, new⟩)
  | drained top head =>
    rw [head] at unmarked
    exact .inl (unmarked_cons.mp unmarked).2
  | @settled r dispatched rest top =>
    by_cases fails : r.kind = .opening ∧ ∃ e, r.error = some e
    · obtain ⟨opening, e, error⟩ := fails
      exact .inr ⟨r, dispatched, rest, e, top, opening, error⟩
    · have ordinary : r.error = none ∨ r.kind ≠ .opening := by
        cases error : r.error <;> simp_all
      exact .inl (by simpa [map_fallout_of_ne ordinary] using unmarked)
  | _ => exact .inl unmarked

theorem Move.unmarked {a : Action} (m : Move s a i s') (tidy : Tidy s)
    (allowed : Rule.regular h s a) (unmarked : Unmarked s.queue) : Unmarked s'.queue := by
  cases m with
  | @pushed id r found room =>
    have new := tidy.outside r (List.mem_of_find?_eq_some found)
    simpa using ⟨unmarked, new⟩
  | shifted => exact absurd rfl allowed.2.1
  | _ => exact unmarked

/-- An opening that fails marks what waits and asks for another opening. -/
theorem Turn.failed {o : Request} {dispatched : Bool} {rest : List Task} (t : Turn s i s')
    (top : s.stack = .pipeline o (.settle dispatched) :: rest) (opening : o.kind = .opening)
    (failed : o.error = some e) :
    s'.ready = s.ready ∧ s'.needsOpen = true ∧ s'.queue = s.queue.map (·.poison e) ∧
      s'.outside = s.outside ∧ ∃ idle, s'.stack = .pipeline o (.observe idle) :: rest := by
  cases t with
  | settled top' =>
    obtain ⟨⟨rfl, rfl⟩, rfl⟩ : (_ ∧ _) ∧ _ := by simpa using top'.symm.trans top
    exact ⟨Storage.transition_ready_of_error failed, by simp [Storage.transition, failed, opening],
      map_fallout_of_opening failed opening, rfl, _, rfl⟩
  | _ => simp_all

/-- An opening that fails marks what waits, if anything does; otherwise nothing is marked anew. -/
theorem Turn.marks (t : Turn s i s') (tidy : Tidy s) (onTop : s.LaunchOnTop) (books : Accounts h s)
    (inv : Marks s) : Marks s' := by
  obtain unmarked | ⟨e, tainted⟩ := inv
  case inr => exact (t.tainted tidy tainted).imp_right fun tainted => ⟨e, tainted⟩
  obtain unmarked | ⟨o, dispatched, rest, e, top, opening, error⟩ := t.unmarked tidy unmarked
  · exact .inl unmarked
  obtain ⟨ready, asks, queue, outside, idle, stack⟩ := t.failed top opening error
  by_cases empty : s.queue = []
  · exact .inl (by simp [queue, empty])
  have dispatched : dispatched = true := by
    by_contra inPlace
    have belongs := tidy.orphans (.pipeline o (.settle dispatched)) (by simp [top])
    exact empty ((Task.belongs_settle ..).mp belongs (by simpa using inPlace)).1.2
  subst dispatched
  have barrier : o.kind.isBarrier := by rw [opening]; rfl
  have clear := tidy.clear_of_settle onTop books top barrier
  have ruins : ∀ t ∈ s'.stack, t.Ruins e := by
    rw [stack]
    simpa using fun t below => Task.ruins_of_due_eq_nil e (clear.stack t below)
  exact .inr ⟨e, ready ▸ tidy.living_of_settle books top barrier, asks, outside ▸ clear.outside,
    ruins, queue ▸ marked_map_poison empty⟩

theorem Move.marks {a : Action} (m : Move s a i s') (tidy : Tidy s)
    (allowed : Rule.regular h s a) (inv : Marks s) : Marks s' :=
  inv.imp (m.unmarked tidy allowed) fun ⟨e, tainted⟩ => ⟨e, m.tainted tidy allowed tainted⟩

end Rules

/-- All that holds along the regular runs of a fresh storage. -/
structure Regular (h : History) (s : Storage) : Prop where
  custody : s.Custody
  onTop : s.LaunchOnTop
  books : Accounts h s
  wakeful : Wakeful h s
  once : ∀ id, Once id h s
  handled : (h.handled ++ s.launched.map (·.id)).Sublist (h.begun.map Tag.id)
  tidy : Tidy s
  marks : Marks s

theorem Run.regular_of_create {capabilities : Capabilities} {limits : Limits}
    {allocator : Allocator} {h : History} {s : Storage}
    (run : Run Rule.regular (Storage.create capabilities limits allocator) h s) : Regular h s := by
  have custody := Storage.custody_create capabilities limits allocator
  have onTop := Storage.launchOnTop_create capabilities limits allocator
  have orderly {h : History} {s : Storage}
      (run : Run Rule.regular (Storage.create capabilities limits allocator) h s) :
      Run Rule.orderly (Storage.create capabilities limits allocator) h s :=
    run.mono fun _ _ _ => And.left
  have tidy := Storage.tidy_create capabilities limits allocator
  have marks : Marks s := by
    refine run.invariant (motive := fun _ s => Marks s) (.inl unmarked_nil) ?_ ?_
    · intro h s i s' run inv t
      exact t.marks (run.tidy custody onTop tidy) (run.launchOnTop onTop)
        (orderly run).accounts_of_create inv
    · intro h s a i s' run inv _ allowed m
      exact m.marks (run.tidy custody onTop tidy) allowed inv
  exact {
    custody := run.custody custody
    onTop := run.launchOnTop onTop
    books := (orderly run).accounts_of_create
    wakeful := (orderly run).wakeful_of_create
    once := fun id => (orderly run).once custody (Storage.once_create ..)
    handled := run.handled_launched_sublist_begun onTop rfl
    tidy := run.tidy custody onTop tidy
    marks := marks }

end StorageEngine
