import StorageEngine.Proofs.FailedOpening

/-!
# Openings that are sent ahead

A data request that finds the storage in need of an opening sends one ahead: the opening bears the
next number, and the request waits for its call to return.  If that opening was refused, the request
is refused as well.  If it was accepted, it stays in sight: it waits, it has begun, a destruction
has taken it out of the queue, or it has ended.

A destruction that takes place while the request waits fails what it has left behind before the
request goes on.  So where a request goes on and finds nothing in the queue and no barrier inside
the device, the opening that it has sent ahead has ended.

* `Turn.accepted`, `Move.accepted` — what was accepted stays in sight;
* `Turn.escorted`, `Move.escorted` — what waits has sent an opening ahead that was accepted;
* `Run.opening_ended` — where nothing is in the way, that opening has ended.
-/

namespace StorageEngine

/-- The state has moved on for this request. -/
def History.Ended (h : History) (t : Tag) : Prop :=
  ∃ r dispatched, .settled r dispatched ∈ h ∧ r.tag = t

/-- A request that was accepted is in sight. -/
inductive Storage.Accepted (h : History) (s : Storage) (tag : Tag) : Prop
  | begun (begun : tag ∈ h.begun)
  | waits {r : Request} (held : r ∈ s.queue) (same : r.tag = tag)
  | orphaned {t : Task} {r : Request} (onStack : t ∈ s.stack) (orphaned : t.Orphaned)
      (due : r ∈ t.due) (same : r.tag = tag)
  | ended (ended : h.Ended tag)

/-- The opening that a data request waits for was accepted, and no task below that request has to
fail what a destruction has left behind. -/
def Task.Escorted (accepted : Tag → Prop) : List Task → Prop
  | [] => True
  | t :: rest =>
    (∀ r, t = .awaitOpening r → accepted ⟨r.id + 1, .opening⟩ ∧ ∀ t ∈ rest, t.Belongs False) ∧
      Escorted accepted rest

/-- Every data request that waits is escorted; only the topmost one may have an opening ahead that
is still to be made, or that was refused. -/
inductive Storage.Escorted (accepted : Tag → Prop) (s : Storage) : Prop
  | accepted (escorted : Task.Escorted accepted s.stack)
  | sending {r : Request} {rest : List Task}
      (top : s.stack = .submit { kind := .opening } :: .awaitOpening r :: rest)
      (next : s.nextId = r.id + 1) (below : Task.Escorted accepted rest)
  | refused {r : Request} {e : Error} {rest : List Task}
      (top : s.stack = .answer (.done (.error e)) :: .awaitOpening r :: rest)
      (below : Task.Escorted accepted rest)

section Mono

variable {accepted accepted' : Tag → Prop} (still : ∀ t, accepted t → accepted' t)

include still

theorem Task.Escorted.mono {stack : List Task} (escorted : Escorted accepted stack) :
    Escorted accepted' stack := by
  induction stack with
  | nil => trivial
  | cons t rest ih =>
    exact ⟨fun r waits => (escorted.1 r waits).imp_left (still _), ih escorted.2⟩

theorem Storage.Escorted.mono {s : Storage} (escorted : s.Escorted accepted) :
    s.Escorted accepted' := by
  cases escorted with
  | accepted escorted => exact .accepted (escorted.mono still)
  | sending top next below => exact .sending top next (below.mono still)
  | refused top below => exact .refused top (below.mono still)

end Mono

section Escorted

variable (accepted : Tag → Prop) {t : Task} {r : Request} {stack : List Task}

@[simp] theorem Task.escorted_nil : Escorted accepted [] :=
  trivial

@[simp] theorem Task.escorted_awaitOpening :
    Escorted accepted (.awaitOpening r :: stack) ↔
      (accepted ⟨r.id + 1, .opening⟩ ∧ ∀ t ∈ stack, t.Belongs False) ∧
        Escorted accepted stack := by
  simp [Escorted]

@[simp] theorem Task.escorted_cons (other : ∀ r, t ≠ .awaitOpening r) :
    Escorted accepted (t :: stack) ↔ Escorted accepted stack := by
  simp [Escorted, other]

end Escorted

section Rules

variable {s s' : Storage} {h i : History} {tag : Tag}

theorem History.Ended.append (ended : h.Ended tag) (i : History) :
    History.Ended (h ++ i) tag := by
  obtain ⟨r, dispatched, settled, same⟩ := ended
  exact ⟨r, dispatched, by simp [settled], same⟩

theorem History.ended_of_settled (settled : tag ∈ h.settled) : h.Ended tag := by
  obtain ⟨incident, held, settles⟩ := List.mem_filterMap.mp settled
  unfold Incident.settled? at settles
  split at settles
  · exact ⟨_, true, held, Option.some.inj settles⟩
  · simp at settles

attribute [local simp] Task.Orphaned

/-- What a destruction has left behind is left behind until it ends. -/
theorem Turn.orphaned_due (t : Turn s i s') (inPlace : s.InPlace) {task : Task}
    (onStack : task ∈ s.stack) (orphaned : task.Orphaned) {r : Request} (due : r ∈ task.due) :
    s'.Accepted (h ++ i) r.tag := by
  have kept (onStack : task ∈ s'.stack) : s'.Accepted (h ++ i) r.tag :=
    .orphaned onStack orphaned due rfl
  cases t with
  | lost top => simp [top] at onStack
  | @recorded r' result rest top emitter announced =>
    rw [top] at onStack
    obtain rfl | below := List.mem_cons.mp onStack
    · obtain rfl : r = r' := by simpa using due
      refine .orphaned (t := .pipeline (r.recorded result) (.settle false)) ?_ rfl
        (List.mem_singleton_self _) (r.recorded_tag result)
      have outside : r.phase ≠ .running := orphaned
      simp [outside]
    · exact kept (List.mem_append_right _ (List.mem_cons_of_mem _ below))
  | @settled r' dispatched rest top =>
    rw [top] at onStack
    obtain rfl | below := List.mem_cons.mp onStack
    · obtain rfl : r = r' := by simpa using due
      exact .ended ⟨r, dispatched, by simp, rfl⟩
    · exact kept (List.mem_cons_of_mem _ below)
  | @orphaned r' orphans rest top =>
    rw [top] at onStack
    obtain rfl | below := List.mem_cons.mp onStack
    · obtain rfl | behind : r = r' ∨ r ∈ orphans := by simpa using due
      · have queued := inPlace.stack (.teardown (r :: orphans)) (by simp [top])
        refine .orphaned (t := .pipeline r (.record (.error .fault))) (by simp) ?_
          (List.mem_singleton_self _) rfl
        simp_all [Task.InPlace]
      · exact .orphaned (t := .teardown orphans) (by simp) trivial behind rfl
    · exact kept (by simp [below])
  | _ => exact kept (by grind [Task.Orphaned, Task.due])

/-- What was accepted stays in sight. -/
theorem Turn.accepted (t : Turn s i s') (inPlace : s.InPlace) (busy : s.stack ≠ [])
    (inv : s.Accepted h tag) : s'.Accepted (h ++ i) tag := by
  cases inv with
  | begun begun => exact .begun (by simp [begun])
  | orphaned onStack orphaned due same => exact same ▸ t.orphaned_due inPlace onStack orphaned due
  | ended ended => exact .ended (ended.append i)
  | waits held same =>
    cases t with
    | lost top => exact absurd top busy
    | queued | waiting => exact .waits (List.mem_append_left _ held) same
    | @drained r' q rest top head =>
      rw [head] at held
      obtain rfl | behind := List.mem_cons.mp held
      · exact .begun (by simp [History.begun, Incident.begun?, same])
      · exact .waits behind same
    | settled => exact .waits (List.mem_map_of_mem held) (by simpa using same)
    | cleared => exact .orphaned (t := .teardown s.queue) (by simp) trivial held same
    | _ => exact .waits held same

theorem Move.accepted {a : Action} (m : Move s a i s') (allowed : Rule.regular h s a)
    (inv : s.Accepted h tag) : s'.Accepted (h ++ i) tag := by
  cases inv with
  | begun begun => exact .begun (by simp [begun])
  | ended ended => exact .ended (ended.append i)
  | orphaned onStack orphaned due same =>
    refine .orphaned ?_ orphaned due same
    cases m with
    | left top | collected top => grind [Task.Orphaned]
    | _ => simp [onStack]
  | waits held same =>
    cases m with
    | pushed => exact .waits (List.mem_append_left _ held) same
    | shifted => exact absurd rfl allowed.2.1
    | _ => exact .waits held same

/-- An opening that is sent ahead is refused, and the request with it, or it is accepted. -/
theorem Turn.escorted {accepted : Tag → Prop} (t : Turn s i s') (tidy : Tidy s)
    (known : ∀ r ∈ s'.queue, accepted r.tag) (inv : s.Escorted accepted) :
    s'.Escorted accepted := by
  cases inv with
  | accepted escorted =>
    cases t with
    | deferred top => exact .sending rfl rfl (by simpa [top] using escorted)
    | recorded top emitter announced => exact .accepted (by cases announced <;> simp_all)
    | @freed r idle rest top => exact .accepted (by cases idle <;> simp_all)
    | _ => exact .accepted (by simp_all)
  | @sending r rest top next below =>
    cases t with
    | refused top' =>
      obtain ⟨-, rfl⟩ : _ ∧ _ := by simpa using top'.symm.trans top
      exact .refused rfl below
    | @queued o rest' top' a data buffer barrier room =>
      obtain ⟨rfl, rfl⟩ : _ ∧ _ := by simpa using top'.symm.trans top
      have admitted := known (({ kind := .opening } : Order).request s.nextId data buffer).queued
        (by simp)
      -- A storage that takes an opening is not destroyed yet, so nothing has been left behind.
      have nothing : ∀ t ∈ rest, t.Belongs False := fun t onStack =>
        (tidy.orphans t (by simp [top, onStack])).mono fun past => room.living past.1
      rw [next] at admitted
      exact .accepted (by simpa using ⟨⟨admitted, nothing⟩, below⟩)
    | deferred top' _ _ _ data | offered top' _ _ _ data =>
      obtain ⟨rfl, -⟩ : _ ∧ _ := by simpa using top'.symm.trans top
      exact absurd rfl data
    | _ => simp_all
  | refused top below =>
    cases t with
    | openingRefused => exact .accepted (by simp_all)
    | _ => simp_all

theorem Move.escorted {a : Action} {accepted : Tag → Prop} (m : Move s a i s')
    (turn : s.isAtRest) (inv : s.Escorted accepted) : s'.Escorted accepted := by
  cases inv with
  | accepted escorted => exact .accepted (by cases m <;> simp_all)
  | sending top | refused top => simp [Storage.isAtRest, Storage.step, Storage.resume?, top] at turn

end Rules

section Run

variable {capabilities : Capabilities} {limits : Limits} {allocator : Allocator} {h : History}
  {s : Storage} {tag : Tag}
  (run : Run Rule.regular (Storage.create capabilities limits allocator) h s)

include run

theorem Run.escorted : s.Escorted (s.Accepted h) := by
  refine run.invariant (motive := fun h s => s.Escorted (s.Accepted h))
    (.accepted (by simp [Storage.create])) ?_ ?_
  · intro h s i s' run inv t
    have regular := run.regular_of_create
    by_cases empty : s.stack = []
    · have still : s'.stack = [] := by cases t <;> simp_all
      exact .accepted (by simp [still])
    · exact t.escorted regular.tidy (fun r held => .waits held rfl)
        (inv.mono fun _ => t.accepted regular.custody.inPlace empty)
  · intro h s a i s' _ inv turn allowed m
    exact m.escorted turn (inv.mono fun _ => m.accepted allowed)

/-- What has ended bears a number that has been given out. -/
theorem Run.id_lt_of_ended (ended : h.Ended tag) : tag.id < s.nextId := by
  have issued : ∀ r dispatched, .settled r dispatched ∈ h → r.id < s.nextId := by
    refine run.invariant (motive := fun h s => ∀ r dispatched, .settled r dispatched ∈ h →
      r.id < s.nextId) (by simp) ?_ ?_
    · intro h s i s' run inv t r dispatched settled
      obtain before | now := List.mem_append.mp settled
      · exact Nat.lt_of_lt_of_le (inv r dispatched before) t.copies.1
      · cases t with
        | @settled r' _ rest top =>
          obtain ⟨rfl, rfl⟩ : _ ∧ _ := by simpa using now
          exact run.regular_of_create.custody.id_lt
            (by simp [Storage.requests, top, Task.requests])
        | _ => simp at now
    · intro h s a i s' run inv _ allowed m r dispatched settled
      have custody := run.regular_of_create.custody
      obtain before | now := List.mem_append.mp settled
      · exact Nat.lt_of_lt_of_le (inv r dispatched before) (m.copies custody.unique).1
      · cases m <;> simp at now
  obtain ⟨r, dispatched, settled, rfl⟩ := ended
  exact issued r dispatched settled

/-- **An opening that was sent ahead does not lag behind.**  Where a data request goes on and finds
nothing in its way, the opening that it has sent ahead has ended. -/
theorem Run.opening_ended {r : Request} {rest : List Task}
    (top : s.stack = .answer (.done (.ok ())) :: .awaitOpening r :: rest)
    (free : s.barrier = false) (empty : s.queue = []) : h.Ended ⟨r.id + 1, .opening⟩ := by
  have regular := run.regular_of_create
  have ⟨accepted, nothing⟩ : s.Accepted h ⟨r.id + 1, .opening⟩ ∧ ∀ t ∈ rest, t.Belongs False := by
    cases run.escorted with
    | accepted escorted =>
      rw [top] at escorted
      exact ((Task.escorted_awaitOpening _).mp escorted.2).1
    | sending top' | refused top' => simp [top] at top'
  cases accepted with
  | ended ended => exact ended
  | waits held => simp [empty] at held
  | orphaned onStack orphaned due =>
    simp only [top, List.mem_cons] at onStack
    obtain rfl | rfl | below := onStack
    · exact orphaned.elim
    · exact orphaned.elim
    · exact ((nothing _ below) (List.ne_nil_of_mem due) orphaned).1.elim
  | begun begun =>
    have settled : (⟨r.id + 1, .opening⟩ : Tag) ∈ h.settled := by
      by_contra inside
      have counted := regular.books.counted_of_inside rfl begun inside
        (regular.onTop.launched_of_top top rfl)
      obtain ⟨o, alone, same⟩ := List.map_eq_singleton_iff.mp counted
      have opening : o.kind = .opening := congrArg Tag.kind same
      have barrier := regular.books.counted_of_barrier (r := o) (by simp [alone])
        (by rw [opening]; rfl)
      simp [free] at barrier
    exact History.ended_of_settled settled

end Run

end StorageEngine
