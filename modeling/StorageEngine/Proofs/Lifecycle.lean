import StorageEngine.Proofs.FailedOpening

/-!
# The life of a storage as its device sees it

A device sees its handlers being called.  In regular runs it can rely on a protocol: it is opened
only while the storage is not open, and alone; it is closed only while the storage is open, and
alone; data is asked for only while the storage is open, and it stays open until the answer; it is
destroyed alone.

Behind this stands what the storage knows about openings.  `needsOpen` is set until an opening is
given to the device, and again after one has failed, so a storage that is open needs no opening, and
one that was never open and needs none has an opening inside the device.  An opening that will fail,
or bears the mark of one that has failed, exists only while the storage is not open; one that will
succeed has settled that no further opening is needed.  `Lawful` says so of everything that may
still become the end of an opening; all of it is void once the storage is destroyed.

* `Storage.calls_of_destination` — what the routing of a request demands;
* `Turn.lawful`, `Move.lawful`, `Run.lawful` — the laws of openings;
* `Run.data_opened` — data stays reachable while the device works on it;
* `Run.lifecycle` — the protocol.
-/

namespace StorageEngine

/-- The kind of the requests that a handler serves. -/
def Handler.kind : Handler → Kind
  | .openReadOnly | .openReadWrite => .opening
  | .read => .read
  | .write => .write
  | .delete => .delete
  | .stat => .stat
  | .close => .closing
  | .destroy => .destroying

/-- What a task knows about the end of an opening. -/
def Task.Lawful (ready : Ready) (needsOpen : Bool) : Task → Prop
  | .run r => r.kind = .opening → r.error ≠ none → ready ≠ .opened
  | .pipeline r (.record (.ok _)) => r.kind = .opening → r.error = none ∧ needsOpen = false
  | .pipeline r (.record (.error _)) => r.kind = .opening → ready ≠ .opened
  | .pipeline r (.settle _) => r.kind = .opening →
    (r.error = none → needsOpen = false) ∧ (r.error ≠ none → ready ≠ .opened)
  | _ => True

/-- The laws of openings. -/
structure Lawful (s : Storage) : Prop where
  opened : s.ready = .opened → s.needsOpen = false
  unopened : s.ready = .unopened → s.needsOpen = false → 0 < s.tally (·.kind = .opening)
  tainted : ∀ e, Tainted e s → s.ready ≠ .opened
  outside : ∀ r ∈ s.outside, r.phase = .running → r.kind = .opening →
    s.ready ≠ .opened ∧ s.needsOpen = false
  stack : ∀ t ∈ s.stack, t.Lawful s.ready s.needsOpen

section Destination

variable {s : Storage} {kind : Kind} {route : Storage.Route} {needsOpen : Bool}

/-- Only an opening changes whether one is needed. -/
theorem Storage.needsOpen_of_destination (routed : s.destination kind = (route, needsOpen)) :
    needsOpen = s.needsOpen ∨ kind = .opening ∧ needsOpen = false := by
  unfold Storage.destination Storage.route at routed
  cases kind <;> simp only [] at routed <;> (repeat' split at routed) <;> simp_all

/-- Where an opening goes.  One that finds the storage open has nothing to do. -/
theorem Storage.opening_of_destination (law : s.ready = .opened → s.needsOpen = false)
    (routed : s.destination .opening = (route, needsOpen)) :
    needsOpen = false ∧ (s.ready ≠ .opened ∨ route = .finished (.ok 0)) ∧
      ∀ result, route = .finished result → result = .ok 0 := by
  unfold Storage.destination Storage.route at routed
  simp only [] at routed
  (repeat' split at routed) <;> simp_all <;> grind

/-- A handler that is called is on offer, serves requests of that kind, and finds the storage open
or not as it expects. -/
theorem Storage.calls_of_destination {h : Handler}
    (routed : s.destination kind = (.handler h, needsOpen)) :
    s.capabilities.offers h ∧ h.kind = kind ∧
      (kind = .opening → s.ready = .opened → s.needsOpen = true) ∧
      (kind.isData ∨ kind = .closing → s.ready = .opened) := by
  unfold Storage.destination Storage.route at routed
  cases kind <;> simp only [] at routed <;> (repeat' split at routed) <;> cases routed <;>
    simp_all [Capabilities.offers, Capabilities.supports, Handler.kind, Kind.isData,
      Storage.prefersReadOnly, Kind.dataHandler]

/-- Only an opening that runs changes whether one is needed. -/
theorem Storage.AnswersInPlace.needsOpen_cases {r : Request} {result : Except Error Nat}
    (answers : s.AnswersInPlace r result needsOpen) :
    needsOpen = s.needsOpen ∨ r.kind = .opening ∧ needsOpen = false := by
  cases answers with
  | marked | refused => exact .inl rfl
  | routed _ routed | detached _ _ routed => exact Storage.needsOpen_of_destination routed

theorem Storage.Serves.needsOpen_cases {r : Request} {h : Handler}
    (serves : s.Serves r h needsOpen) :
    needsOpen = s.needsOpen ∨ r.kind = .opening ∧ needsOpen = false :=
  Storage.needsOpen_of_destination serves.routed

end Destination

section Task

variable (ready : Ready) (needsOpen : Bool) (r : Request)

@[simp] theorem Task.lawful_of_due_eq_nil {t : Task} (nothing : t.due = []) :
    t.Lawful ready needsOpen := by
  unfold Task.Lawful
  split <;> simp_all

@[simp] theorem Task.lawful_run : (run r).Lawful ready needsOpen ↔
    (r.kind = .opening → r.error ≠ none → ready ≠ .opened) :=
  .rfl

@[simp] theorem Task.lawful_record_ok (size : Nat) :
    (pipeline r (.record (.ok size))).Lawful ready needsOpen ↔
      (r.kind = .opening → r.error = none ∧ needsOpen = false) :=
  .rfl

@[simp] theorem Task.lawful_record_error (e : Error) :
    (pipeline r (.record (.error e))).Lawful ready needsOpen ↔
      (r.kind = .opening → ready ≠ .opened) :=
  .rfl

@[simp] theorem Task.lawful_settle (dispatched : Bool) :
    (pipeline r (.settle dispatched)).Lawful ready needsOpen ↔
      (r.kind = .opening →
        (r.error = none → needsOpen = false) ∧ (r.error ≠ none → ready ≠ .opened)) :=
  .rfl

@[simp] theorem Task.lawful_teardown (rs : List Request) : (teardown rs).Lawful ready needsOpen :=
  trivial

/-- That no opening is needed any more breaks no law. -/
theorem Task.Lawful.closed {ready : Ready} {needsOpen : Bool} {t : Task}
    (lawful : t.Lawful ready needsOpen) : t.Lawful ready false := by
  unfold Task.Lawful at *
  split <;> simp_all

end Task

section Rules

variable {s s' : Storage} {h i : History}

/-- Only a barrier moves the state on. -/
theorem Storage.transition_of_not_barrier {r : Request} (data : ¬ r.kind.isBarrier) :
    (s.transition r).ready = s.ready ∧ (s.transition r).needsOpen = s.needsOpen := by
  unfold transition
  cases r.error <;> cases kind : r.kind <;> simp_all [Kind.isBarrier]

/-- The end of an opening leaves no storage behind that was never open and needs no opening. -/
theorem Storage.transition_unopened {r : Request} (unopened : (s.transition r).ready = .unopened)
    (needless : (s.transition r).needsOpen = false) :
    s.ready = .unopened ∧ s.needsOpen = false ∧ r.kind ≠ .opening := by
  unfold transition at unopened needless
  split at unopened <;> (try split at unopened) <;> simp_all

/-- What settles in a storage that is not destroyed was inside the device. -/
theorem Regular.dispatched_of_settle (regular : Regular h s) {r : Request} {dispatched : Bool}
    {rest : List Task} (top : s.stack = .pipeline r (.settle dispatched) :: rest)
    (living : s.ready ≠ .destroyed) : dispatched = true := by
  by_contra inPlace
  have belongs := regular.tidy.orphans (.pipeline r (.settle dispatched)) (by simp [top])
  exact living ((Task.belongs_settle ..).mp belongs (by simpa using inPlace)).1.1

/-- An opening that comes to its result in place. -/
theorem Storage.AnswersInPlace.lawful {r r' : Request} {result : Except Error Nat}
    {needsOpen : Bool} (answers : s.AnswersInPlace r result needsOpen)
    (law : s.ready = .opened → s.needsOpen = false)
    (lawful : (Task.run r).Lawful s.ready s.needsOpen) (kind : r'.kind = r.kind)
    (error : r'.error = r.error) :
    (Task.pipeline r' (.record result)).Lawful s.ready needsOpen := by
  rw [Task.lawful_run, ← kind, ← error] at lawful
  cases answers with
  | @marked e marked =>
    exact fun opening => lawful opening (by simp [error, marked])
  | refused _ data =>
    intro opening
    simp [← kind, opening, Kind.isData] at data
  | @routed result _ unmarked routed =>
    cases result with
    | ok size =>
      intro opening
      rw [← kind, opening] at routed
      exact ⟨error.trans unmarked, (Storage.opening_of_destination law routed).1⟩
    | error e =>
      intro opening
      rw [← kind, opening] at routed
      simpa using (Storage.opening_of_destination law routed).2.2 _ rfl
  | detached _ _ routed =>
    intro opening
    rw [← kind, opening] at routed
    exact (Storage.opening_of_destination law routed).2.1.resolve_right (by simp)

theorem Turn.lawful_opened (t : Turn s i s') (inv : Lawful s) :
    s'.ready = .opened → s'.needsOpen = false := by
  have law := inv.opened
  cases t with
  | finished _ _ _ _ _ _ _ _ _ _ answers =>
    obtain rfl | ⟨-, rfl⟩ := answers.needsOpen_cases
    · exact law
    · exact fun _ => rfl
  | dispatched _ _ _ _ _ _ _ _ _ _ _ serves =>
    obtain rfl | ⟨-, rfl⟩ := serves.needsOpen_cases
    · exact law
    · exact fun _ => rfl
  | @settled r dispatched rest top =>
    have lawful := inv.stack (.pipeline r (.settle dispatched)) (by simp [top])
    simp only [Task.lawful_settle] at lawful
    unfold Storage.transition
    split <;> (try split) <;> simp_all
  | _ => exact law

theorem Turn.settled_cases (t : Turn s i s') : i.settled = [] ∨
    ∃ r rest, s.stack = .pipeline r (.settle true) :: rest ∧ i.settled = [r.tag] := by
  cases t with
  | lost | cleared => exact .inl (by simp [History.settled, List.filterMap_map, Function.comp_def,
      Incident.settled?])
  | @settled r dispatched rest top =>
    cases dispatched with
    | true => exact .inr ⟨r, rest, top, rfl⟩
    | false => exact .inl rfl
  | _ => exact .inl rfl

/-- What is inside stays there until the state moves on for it. -/
theorem Turn.tally_le (t : Turn s i s') (inPlace : s.InPlace) {p : Tag → Bool}
    (kept : ∀ r rest, s.stack = .pipeline r (.settle true) :: rest → p r.tag = false) :
    s.tally p ≤ s'.tally p := by
  cases t.posting inPlace with
  | nothing _ _ tally => exact Nat.le_of_eq (tally p).symm
  | handedOver _ _ _ tally => exact Nat.le_of_eq (tally p).symm
  | counted r _ _ tally =>
    rw [tally p]
    exact Nat.le_add_right _ _
  | settled r _ settled tally =>
    obtain none | ⟨r', rest, top, one⟩ := t.settled_cases
    · simp [none] at settled
    · obtain same : r'.tag = r.tag := by simpa [one] using settled
      rw [tally p, ← same, kept r' rest top]
      exact Nat.le_refl _

/-- An opening stays inside the device until it settles, and one that leaves no other to be asked
for comes to be there. -/
theorem Turn.opening_inside (t : Turn s i s') (inPlace : s.InPlace)
    (before : s.needsOpen = false → 0 < s.tally (·.kind = .opening))
    (other : ∀ r dispatched rest, s.stack = .pipeline r (.settle dispatched) :: rest →
      s.needsOpen = false ∧ r.kind ≠ .opening) :
    s'.needsOpen = false → 0 < s'.tally (·.kind = .opening) := by
  have stays := t.tally_le (p := (·.kind = .opening)) inPlace
  intro needless
  have inside {r : Request} (held : r ∈ s'.counted) (opening : r.kind = .opening) :
      0 < s'.tally (·.kind = .opening) :=
    List.countP_pos_iff.mpr ⟨r, held, decide_eq_true opening⟩
  cases t with
  | finished top r' _ _ _ _ follows running _ _ answers =>
    obtain rfl | ⟨opening, -⟩ := answers.needsOpen_cases
    · exact Nat.lt_of_lt_of_le (before needless) (stays (by simp [top]))
    · exact inside (r := r') (by simp [Storage.counted, Task.counted, running])
        (follows.kind.trans opening)
  | dispatched top r' _ _ _ _ follows running _ _ _ serves =>
    obtain rfl | ⟨opening, -⟩ := serves.needsOpen_cases
    · exact Nat.lt_of_lt_of_le (before needless) (stays (by simp [top]))
    · exact inside (r := r') (by simp [Storage.counted, running]) (follows.kind.trans opening)
  | settled top =>
    refine Nat.lt_of_lt_of_le (before (other _ _ _ top).1) (stays fun r' rest' top' => ?_)
    exact decide_eq_false (other r' true rest' top').2
  | _ =>
    exact Nat.lt_of_lt_of_le (before needless) (stays (by simp_all))

theorem Turn.lawful_unopened (t : Turn s i s') (regular : Regular h s) (inv : Lawful s) :
    s'.ready = .unopened → s'.needsOpen = false → 0 < s'.tally (·.kind = .opening) := by
  intro unopened needless
  have earlier : s.ready = .unopened ∧ ∀ r dispatched rest,
      s.stack = .pipeline r (.settle dispatched) :: rest →
        s.needsOpen = false ∧ r.kind ≠ .opening := by
    cases t with
    | settled top =>
      obtain ⟨before, other⟩ := s.transition_unopened unopened needless
      simp_all
    | _ => exact ⟨unopened, by simp_all⟩
  exact t.opening_inside regular.custody.inPlace (inv.unopened earlier.1) earlier.2 needless

theorem Turn.lawful_outside (t : Turn s i s') (regular : Regular h s) (inv : Lawful s)
    (living : s.ready ≠ .destroyed) :
    ∀ r ∈ s'.outside, r.phase = .running → r.kind = .opening →
      s'.ready ≠ .opened ∧ s'.needsOpen = false := by
  have law := inv.outside
  cases t with
  | finished _ _ _ _ _ _ _ _ _ _ answers =>
    obtain rfl | ⟨-, rfl⟩ := answers.needsOpen_cases
    · exact law
    · exact fun r held running opening => ⟨(law r held running opening).1, rfl⟩
  | dispatched top r' handler _ _ needsOpen follows _ _ _ _ serves =>
    intro r held running opening
    obtain held | rfl := by simpa using held
    · have before := law r held running opening
      obtain rfl | ⟨-, rfl⟩ := serves.needsOpen_cases
      · exact before
      · exact ⟨before.1, rfl⟩
    · have routed := serves.routed
      rw [← follows.kind, opening] at routed
      obtain ⟨none, shut, -⟩ := Storage.opening_of_destination inv.opened routed
      exact ⟨shut.resolve_right (by simp), none⟩
  | @settled r dispatched rest top =>
    obtain rfl := regular.dispatched_of_settle top living
    by_cases barrier : r.kind.isBarrier
    · have clear := regular.tidy.clear_of_settle regular.onTop regular.books top barrier
      exact fun r held running => absurd running (clear.outside r held)
    · simpa [s.transition_of_not_barrier barrier] using law
  | _ => exact law

theorem Turn.lawful_tainted (t : Turn s i s') (regular : Regular h s) (inv : Lawful s) (e : Error)
    (tainted : Tainted e s') : s'.ready ≠ .opened := by
  obtain unmarked | ⟨e', before⟩ := regular.marks
  · obtain unmarked | ⟨o, dispatched, rest, e, top, opening, error⟩ :=
      t.unmarked regular.tidy unmarked
    · exact absurd unmarked tainted.queue.not_unmarked
    · have lawful := inv.stack (.pipeline o (.settle dispatched)) (by simp [top])
      rw [(t.failed top opening error).1]
      exact ((Task.lawful_settle ..).mp lawful opening).2 (by simp [error])
  · rw [(t.standstill before).1]
    exact inv.tainted e' before

theorem Turn.lawful_stack (t : Turn s i s') (regular : Regular h s) (inv : Lawful s)
    (living : s.ready ≠ .destroyed) : ∀ t ∈ s'.stack, t.Lawful s'.ready s'.needsOpen := by
  have law := inv.stack
  have closed : ∀ t ∈ s.stack, t.Lawful s.ready false := fun t onStack => (law t onStack).closed
  cases t with
  | @finished r rest top r' result _ _ needsOpen follows _ _ error answers =>
    have below : ∀ t ∈ rest, t.Lawful s.ready needsOpen := by
      obtain rfl | ⟨-, rfl⟩ := answers.needsOpen_cases <;> simp_all
    have lawful := inv.stack (.run r) (by simp [top])
    have first := answers.lawful inv.opened lawful follows.kind error
    exact List.forall_mem_cons.mpr ⟨first, below⟩
  | dispatched top r' handler _ _ needsOpen follows _ _ _ _ serves =>
    obtain rfl | ⟨-, rfl⟩ := serves.needsOpen_cases
    · simp_all
    · simp_all
  | @settled r dispatched rest top =>
    obtain rfl := regular.dispatched_of_settle top living
    by_cases barrier : r.kind.isBarrier
    · have clear := regular.tidy.clear_of_settle regular.onTop regular.books top barrier
      simpa using fun t below => Task.lawful_of_due_eq_nil _ _ (clear.stack t below)
    · simp_all [s.transition_of_not_barrier barrier]
  | @recorded r result rest top emitter announced =>
    simp only [top, List.forall_mem_cons] at law
    have first : (Task.pipeline (r.recorded result) (.settle (r.phase = .running))).Lawful
        s.ready s.needsOpen := by
      cases result <;> simp_all [Request.recorded]
    have settling := List.forall_mem_cons.mpr ⟨first, law.2⟩
    cases announced with
    | none => exact settling
    | some d => exact List.forall_mem_cons.mpr ⟨by simp, settling⟩
  | @freed r idle rest top => cases idle <;> simp_all
  | @drained r q rest top head =>
    have first : r.error ≠ none → s.ready ≠ .opened := by
      intro marked
      obtain unmarked | ⟨e, tainted⟩ := regular.marks
      · exact absurd (unmarked r (by simp [head])) marked
      · exact inv.tainted e tainted
    simp_all
  | @entered r rest top =>
    have data := (regular.custody.inPlace.stack (.enter r) (by simp [top])).2
    have first : r.kind ≠ .opening := fun opening => data (by rw [opening]; rfl)
    simp_all
  | cleared _ _ _ dead => exact absurd dead living
  | @orphaned r orphans rest top =>
    have belongs := regular.tidy.orphans (.teardown (r :: orphans)) (by simp [top])
    exact absurd ((Task.belongs_teardown ..).mp belongs (by simp)).1 living
  | _ => simp_all

/-- The laws of openings are kept until the storage is destroyed. -/
theorem Turn.lawful (t : Turn s i s') (regular : Regular h s)
    (inv : s.ready = .destroyed ∨ Lawful s) : s'.ready = .destroyed ∨ Lawful s' := by
  by_cases dead : s.ready = .destroyed
  · exact .inl (t.ready_of_destroyed dead)
  have inv := inv.resolve_left dead
  exact .inr ⟨t.lawful_opened inv, t.lawful_unopened regular inv, t.lawful_tainted regular inv,
    t.lawful_outside regular inv dead, t.lawful_stack regular inv dead⟩

theorem Move.begun_eq_nil {a : Action} (m : Move s a i s') : i.begun = [] := by
  cases m <;> rfl

theorem Move.settled_eq_nil {a : Action} (m : Move s a i s') : i.settled = [] := by
  cases m <;> rfl

/-- Clients move nothing into the device, and out of it only towards its end. -/
theorem Move.tally_eq {a : Action} (m : Move s a i s') (custody : s.Custody)
    (onTop : s.LaunchOnTop) (turn : s.isAtRest) (orderly : Rule.orderly h s a) (p : Tag → Bool) :
    s'.tally p = s.tally p := by
  cases m.posting custody orderly with
  | nothing _ _ tally | handedOver _ _ _ tally => exact tally p
  | counted r _ _ _ launched => simp [onTop.launched_eq_nil turn] at launched
  | settled r _ settled => simp [m.settled_eq_nil] at settled

theorem Move.needsOpen_eq {a : Action} (m : Move s a i s') : s'.needsOpen = s.needsOpen := by
  cases m <;> rfl

theorem Move.lawful {a : Action} (m : Move s a i s') (regular : Regular h s) (turn : s.isAtRest)
    (allowed : Rule.regular h s a) (inv : Lawful s) : Lawful s' := by
  obtain ⟨opened, unopened, tainted, outside, stack⟩ := inv
  have tally := m.tally_eq regular.custody regular.onTop turn allowed.1
  refine ⟨?_, ?_, fun e after => ?_, ?_, ?_⟩
  · rwa [m.ready_eq, m.needsOpen_eq]
  · rwa [m.ready_eq, m.needsOpen_eq, tally]
  · rw [m.ready_eq]
    obtain unmarked | ⟨e', before⟩ := regular.marks
    · exact absurd (m.unmarked regular.tidy allowed unmarked) after.queue.not_unmarked
    · exact tainted e' before
  · rw [m.ready_eq, m.needsOpen_eq]
    exact m.forall_outside outside (fun e r law => by simpa using law) (fun _ _ _ _ => by simp)
      (fun shifts => absurd shifts allowed.2.1)
  · cases m with
    | @completed id r found v =>
      have held := List.mem_of_find?_eq_some found
      have law := outside r held (allowed.2.2 _ _ _ rfl found)
      have unmarked := regular.tidy.outside r held
      have first : (Task.pipeline (r.fill v) (.record ((r.fill v).resultOf v))).Lawful s.ready
          s.needsOpen := by
        cases (r.fill v).resultOf v with
        | ok size => exact fun opening => ⟨unmarked, (law opening).2⟩
        | error e => exact fun opening => (law opening).1
      exact List.forall_mem_cons.mpr ⟨first, by simpa using stack⟩
    | @abandoned id r found running | @pushAbandoned id r found e running =>
      have law := outside r (List.mem_of_find?_eq_some found) running
      simpa using ⟨fun opening => (law opening).1, stack⟩
    | left top | collected top => simp_all
    | _ => simpa using stack

end Rules

section Run

variable {capabilities : Capabilities} {limits : Limits} {allocator : Allocator} {h : History}
  {s : Storage}

theorem Storage.lawful_create : Lawful (create capabilities limits allocator) := by
  constructor <;> simp [create]

theorem Run.lawful (run : Run Rule.regular (Storage.create capabilities limits allocator) h s) :
    s.ready = .destroyed ∨ Lawful s := by
  refine run.invariant (motive := fun _ s => s.ready = .destroyed ∨ Lawful s)
    (.inr Storage.lawful_create) ?_ ?_
  · intro h s i s' run inv t
    exact t.lawful run.regular_of_create inv
  · intro h s a i s' run inv turn allowed m
    exact inv.imp (fun dead => m.ready_eq.trans dead)
      (m.lawful run.regular_of_create turn allowed)

theorem Turn.capabilities_eq {s s' : Storage} {i : History} (t : Turn s i s') :
    s'.capabilities = s.capabilities := by
  cases t <;> rfl

theorem Move.capabilities_eq {s s' : Storage} {a : Action} {i : History} (m : Move s a i s') :
    s'.capabilities = s.capabilities := by
  cases m <;> rfl

theorem Run.capabilities_eq {rule : Rule} {start : Storage} (run : Run rule start h s) :
    s.capabilities = start.capabilities := by
  refine run.invariant (motive := fun _ s => s.capabilities = start.capabilities) rfl ?_ ?_
  · intro h s i s' _ inv t
    exact t.capabilities_eq.trans inv
  · intro h s a i s' _ inv _ _ m
    exact m.capabilities_eq.trans inv

end Run

/-- How a handler is called for a request: where the storage is in its life, and what is inside the
device from then on. -/
structure Called (capabilities : Capabilities) (ready : Ready) (inside : List Tag)
    (handler : Handler) (id : RequestId) : Prop where
  offered : capabilities.offers handler
  living : ready ≠ .destroyed
  /-- It is opened only while the storage is not open. -/
  shut : handler.kind = .opening → ready ≠ .opened
  /-- Data is asked for, and it is closed, only while the storage is open. -/
  opened : handler.kind.isData ∨ handler.kind = .closing → ready = .opened
  /-- It is opened, closed and destroyed only while nothing else is inside. -/
  alone : handler.kind.isBarrier → inside = [⟨id, handler.kind⟩]

section Called

variable {s s' : Storage} {h i : History}

theorem History.mem_handled {handler : Handler} {id : RequestId}
    (calls : .invoked (.handler handler id) ∈ h) : id ∈ h.handled :=
  List.mem_filterMap.mpr ⟨_, calls, rfl⟩

theorem Turn.called (t : Turn s i s') (regular : Regular h s) (regular' : Regular (h ++ i) s')
    (lawful : s.ready = .destroyed ∨ Lawful s) {handler : Handler} {id : RequestId}
    (calls : .invoked (.handler handler id) ∈ i) :
    Called s.capabilities s.ready (h ++ i).inside handler id := by
  cases t with
  | @dispatched r rest top r' handler _ _ needsOpen follows running _ _ _ serves =>
    obtain ⟨rfl, rfl⟩ : _ ∧ _ := by simpa using calls
    obtain ⟨offered, same, shut, opened⟩ := Storage.calls_of_destination serves.routed
    have living : s.ready ≠ .destroyed := by
      intro dead
      have data := (regular.tidy.ended dead).2 (.run r) (by simp [top])
      exact Storage.destination_of_destroyed dead (by simpa using data) _ _ serves.routed
    have lawful := lawful.resolve_left living
    refine ⟨offered, living, fun opening open' => ?_, same ▸ opened, fun barrier => ?_⟩
    · have needless := lawful.opened open'
      simp [shut (same ▸ opening) open'] at needless
    · have given : rest.flatMap (·.launched) = [] :=
        List.flatMap_eq_nil_iff.mpr (regular.onTop.launched_below top)
      have alone := (regular'.books.counted_of_barrier (r := r')
        (by simp [Storage.counted, running]) (by rwa [follows.kind, ← same])).2
      have inside := regular'.books.inside_perm
        (by simpa [Storage.launched, Task.launched] using given)
      rw [alone, List.map_singleton, List.perm_singleton, follows.tag] at inside
      rw [inside, same]
      rfl
  | _ => simp at calls

end Called

section Data

variable {s s' : Storage} {h i : History}

/-- What has begun and has not settled is what is inside. -/
theorem Regular.mem_inside (regular : Regular h s) {t : Tag} :
    t ∈ h.inside ↔ t ∈ h.begun ∧ t ∉ h.settled := by
  refine ⟨fun inside => ?_, fun ⟨begun, open'⟩ => List.mem_diff_of_mem begun open'⟩
  have once := (regular.once t.id).once
  have same : h.begun.count t ≤ h.begun.countP (·.id = t.id) :=
    List.countP_mono_left fun t' _ is => by simp_all
  have some : 0 < h.inside.count t := List.count_pos_iff.mpr inside
  rw [History.inside, List.count_diff] at some
  exact ⟨List.count_pos_iff.mp (by omega), fun settled => by
    have := List.count_pos_iff.mpr settled
    omega⟩

/-- Requests that have begun under one number are one request. -/
theorem Regular.eq_of_begun (regular : Regular h s) {t t' : Tag} (begun : t ∈ h.begun)
    (begun' : t' ∈ h.begun) (same : t.id = t'.id) : t = t' := by
  have once := (regular.once t.id).once
  have short : (h.begun.filter (·.id = t.id)).length ≤ 1 := by
    rw [← List.countP_eq_length_filter]
    omega
  have held : t ∈ h.begun.filter (·.id = t.id) := by simp [begun]
  have held' : t' ∈ h.begun.filter (·.id = t.id) := by simp [begun', same]
  match filtered : h.begun.filter (·.id = t.id) with
  | [] => simp [filtered] at held
  | [only] =>
    rw [filtered, List.mem_singleton] at held held'
    exact held.trans held'.symm
  | _ :: _ :: _ => simp [filtered] at short

/-- What has reached a handler has begun. -/
theorem Regular.begun_of_handled (regular : Regular h s) {id : RequestId}
    (handled : id ∈ h.handled) : ∃ t ∈ h.begun, t.id = id :=
  List.mem_map.mp (regular.handled.subset (List.mem_append_left _ handled))

theorem Regular.begun_of_launched (regular : Regular h s) {r : Request} (given : r ∈ s.launched) :
    r.tag ∈ h.begun := by
  have balance := regular.books.balance (· = r.tag)
  have some : 0 < s.launched.countP fun q => q.tag = r.tag :=
    List.countP_pos_iff.mpr ⟨r, given, by simp⟩
  obtain ⟨t, begun, same⟩ := List.countP_pos_iff.mp (show 0 < h.begun.countP (· = r.tag) by omega)
  obtain rfl : t = r.tag := by simpa using same
  exact begun

/-- What begins has not reached a handler yet. -/
theorem Regular.not_handled (regular' : Regular (h ++ i) s') (regular : Regular h s) {r : Request}
    (begins : r.tag ∈ i.begun) : r.id ∉ h.handled := by
  intro handled
  obtain ⟨t, begun, same⟩ := regular.begun_of_handled handled
  have once := (regular'.once r.id).once
  have before : 0 < h.begun.countP (·.id = r.id) :=
    List.countP_pos_iff.mpr ⟨t, begun, by simp [same]⟩
  have now : 0 < i.begun.countP (·.id = r.id) :=
    List.countP_pos_iff.mpr ⟨r.tag, begins, by simp [Request.tag]⟩
  rw [History.begun_append, List.countP_append] at once
  omega

attribute [local simp] History.begun History.settled History.handled Incident.begun?
  Incident.settled? Incident.handled? List.filterMap_cons List.filterMap_map Function.comp_def

/-- While the device works on data, the storage stays open. -/
theorem Turn.data_opened (t : Turn s i s') (regular : Regular h s)
    (regular' : Regular (h ++ i) s')
    (inv : ∀ d ∈ h.begun, d ∉ h.settled → d.kind.isData → d.id ∈ h.handled →
      s.ready = .opened) :
    ∀ d ∈ (h ++ i).begun, d ∉ (h ++ i).settled → d.kind.isData → d.id ∈ (h ++ i).handled →
      s'.ready = .opened := by
  intro d begun inside data handled
  simp only [History.begun_append, History.settled_append, History.handled_append,
    List.mem_append, not_or] at begun inside handled
  cases t with
  | @settled r dispatched rest top =>
    have earlier : d ∈ h.begun := by simpa using begun
    have before := inv d earlier inside.1 data (by simpa using handled)
    cases dispatched with
    | false =>
      have belongs := regular.tidy.orphans (.pipeline r (.settle false)) (by simp [top])
      have error := ((Task.belongs_settle ..).mp belongs rfl).2
      exact (Storage.transition_ready_of_error error).trans before
    | true =>
      by_cases barrier : r.kind.isBarrier
      · -- A barrier is alone inside, so there is no such data.
        have counted : r ∈ s.counted := by simp [s.counted_of_settle top]
        have alone := (regular.books.counted_of_barrier counted barrier).2
        have held := (regular.books.inside_perm (regular.onTop.launched_of_top top rfl)).mem_iff.mp
          (regular.mem_inside.mpr ⟨earlier, inside.1⟩)
        rw [alone, List.map_singleton, List.mem_singleton] at held
        exact absurd (by simp [held]) inside.2
      · exact (s.transition_of_not_barrier barrier).1.trans before
  | @dispatched r rest top _ handler _ _ _ _ _ _ _ _ serves =>
    have begun : d ∈ h.begun := by simpa using begun
    obtain handled | same : d.id ∈ h.handled ∨ d.id = r.id := by simpa using handled
    · exact inv d begun inside.1 data handled
    · obtain rfl := regular.eq_of_begun begun
        (regular.begun_of_launched (r := r) (by simp [Storage.launched, top, Task.launched])) same
      exact (Storage.calls_of_destination serves.routed).2.2.2 (.inl data)
  | @entered r rest top | @drained r q rest top =>
    obtain begun | rfl : d ∈ h.begun ∨ d = r.tag := by simpa using begun
    · exact inv d begun inside.1 data (by simpa using handled)
    · have before : r.id ∈ h.handled := by simpa [Request.tag] using handled
      exact absurd before (regular'.not_handled regular (by simp))
  | _ => exact inv d (by simpa using begun) inside.1 data (by simpa using handled)

end Data

section Open

variable {s s' : Storage} {h i : History}

/-- Only the end of a closing or a destruction takes a storage out of its being open. -/
theorem Turn.stays_open (t : Turn s i s') (open' : s.ready = .opened ∨ s.ready = .destroyed)
    (unclosed : ∀ r dispatched, .settled r dispatched ∈ i → r.kind = .closing → r.error ≠ none) :
    s'.ready = .opened ∨ s'.ready = .destroyed := by
  cases t with
  | @settled r dispatched rest top =>
    have unclosed := unclosed r dispatched (by simp)
    unfold Storage.transition
    split <;> (try split) <;> simp_all
  | _ => exact open'

/-- An opening that succeeds opens the storage. -/
theorem Turn.opens (t : Turn s i s') (regular : Regular h s) {o : Request} {dispatched : Bool}
    {rest : List Task} (top : s.stack = .pipeline o (.settle dispatched) :: rest)
    (opening : o.kind = .opening) (success : o.error = none) : s'.ready = .opened := by
  have living : s.ready ≠ .destroyed := by
    cases dispatched with
    | false =>
      have belongs := regular.tidy.orphans (.pipeline o (.settle false)) (by simp [top])
      simpa [success] using (Task.belongs_settle ..).mp belongs rfl
    | true => exact regular.tidy.living_of_settle regular.books top (by rw [opening]; rfl)
  cases t with
  | settled top' =>
    obtain ⟨⟨rfl, -⟩, -⟩ : (_ ∧ _) ∧ _ := by simpa using top'.symm.trans top
    simp [Storage.transition, success, opening, living]
  | _ => simp_all

end Open

section Run

variable {capabilities : Capabilities} {limits : Limits} {allocator : Allocator} {h : History}
  {s : Storage} (run : Run Rule.regular (Storage.create capabilities limits allocator) h s)

include run

theorem Run.data_opened :
    ∀ d ∈ h.begun, d ∉ h.settled → d.kind.isData → d.id ∈ h.handled → s.ready = .opened := by
  induction run with
  | start => simp [History.begun]
  | step run next ih =>
    exact (turn_of_step next).data_opened run.regular_of_create
      (run.step next).regular_of_create ih
  | @move h s a run _ _ ih =>
    have m := move_of_act s a
    simpa [m.begun_eq_nil, m.settled_eq_nil, m.handled_eq_nil, m.ready_eq] using ih

/-- A storage that is open is not opened again before a closing has succeeded. -/
theorem Run.not_reopened {h₁ : History} {s₁ : Storage}
    (later : Run Rule.regular s h₁ s₁) (open' : s.ready = .opened)
    (unclosed : ∀ r dispatched, .settled r dispatched ∈ h₁ → r.kind = .closing →
      r.error ≠ none) :
    (s₁.ready = .opened ∨ s₁.ready = .destroyed) ∧
      ∀ handler id, .invoked (.handler handler id) ∈ h₁ → handler.kind ≠ .opening := by
  induction later with
  | start => exact ⟨.inl open', by simp⟩
  | @step h₁ s₁ s₂ later next ih =>
    simp only [List.mem_append, or_imp, forall_and] at unclosed
    obtain ⟨before, unopened⟩ := ih unclosed.1
    have t := turn_of_step next
    have whole := run.append Rule.regular_timeless later
    refine ⟨t.stays_open before unclosed.2, fun handler id calls opening => ?_⟩
    obtain calls | calls := List.mem_append.mp calls
    · exact unopened handler id calls opening
    · have called := t.called whole.regular_of_create (whole.step next).regular_of_create
        whole.lawful calls
      exact called.shut opening (before.resolve_right called.living)
  | @move h₁ s₁ a later turn allowed ih =>
    simp only [List.mem_append, or_imp, forall_and] at unclosed
    obtain ⟨before, unopened⟩ := ih unclosed.1
    have m := move_of_act s₁ a
    refine ⟨m.ready_eq ▸ before, fun handler id calls opening => ?_⟩
    obtain calls | calls := List.mem_append.mp calls
    · exact unopened handler id calls opening
    · have handled := History.mem_handled calls
      simp [m.handled_eq_nil] at handled

end Run

/-- What the device sees of a storage, and what stands behind it. -/
structure Lifecycle (capabilities : Capabilities) (h : History) (s : Storage) : Prop where
  /-- Handlers are called as the protocol says, -/
  called : ∀ s', s.step = some s' → ∀ handler id, .invoked (.handler handler id) ∈ s.incidents →
    Called capabilities s.ready (h ++ s.incidents).inside handler id
  /-- and by the storage's own steps only. -/
  uncalled : ∀ a, (s.incidentsOf a).handled = []
  /-- At most one opening is inside the device, and nothing else beside it. -/
  single : s.isAtRest → ∀ o ∈ h.inside, o.kind = .opening → h.inside = [o]
  /-- The storage is open when an opening has succeeded, -/
  opens : ∀ o dispatched rest s', s.stack = .pipeline o (.settle dispatched) :: rest →
    o.kind = .opening → o.error = none → s.step = some s' → s'.ready = .opened
  /-- and it is not opened again before a closing has succeeded. -/
  once : s.ready = .opened → ∀ h₂ s₂, Run Rule.regular s h₂ s₂ →
    (∀ r dispatched, .settled r dispatched ∈ h₂ → r.kind = .closing → r.error ≠ none) →
    ∀ handler id, .invoked (.handler handler id) ∈ h₂ → handler.kind ≠ .opening
  /-- While the device works on data, the storage stays open. -/
  data : ∀ d ∈ h.inside, d.kind.isData → d.id ∈ h.handled → s.ready = .opened
  /-- A storage that is open needs no opening. -/
  needless : s.ready = .opened → s.needsOpen = false
  /-- One that was never open and needs none has an opening inside the device. -/
  opening : s.ready = .unopened → s.needsOpen = false → ∃ o ∈ h.inside, o.kind = .opening

/-- **The life of a storage as its device sees it.**  In regular runs, handlers are called as the
protocol of openings, closings and destructions says, and a storage is open as long as the device
works on its data. -/
theorem Run.lifecycle {capabilities : Capabilities} {limits : Limits} {allocator : Allocator}
    {h : History} {s : Storage}
    (run : Run Rule.regular (Storage.create capabilities limits allocator) h s) :
    Lifecycle capabilities h s := by
  have regular := run.regular_of_create
  have lawful := run.lawful
  have same : s.capabilities = capabilities := run.capabilities_eq
  have law (living : s.ready ≠ .destroyed) : Lawful s := lawful.resolve_left living
  exact {
    called := fun s' next handler id calls =>
      same ▸ (turn_of_step next).called regular (run.step next).regular_of_create lawful calls
    uncalled := fun a => (move_of_act s a).handled_eq_nil
    single := fun turn o inside opening => by
      have given := regular.onTop.launched_eq_nil turn
      have ⟨begun, unsettled⟩ := regular.mem_inside.mp inside
      have alone := regular.books.inside_perm given
      rwa [regular.books.counted_of_inside (by rw [opening]; rfl) begun unsettled given,
        List.perm_singleton] at alone
    opens := fun o dispatched rest s' top opening success next =>
      (turn_of_step next).opens regular top opening success
    once := fun open' h₂ s₂ later unclosed => (run.not_reopened later open' unclosed).2
    data := fun d inside data handled =>
      run.data_opened d (regular.mem_inside.mp inside).1 (regular.mem_inside.mp inside).2 data
        handled
    needless := fun open' => (law (by simp [open'])).opened open'
    opening := fun unopened needless => by
      have inside := (law (by simp [unopened])).unopened unopened needless
      obtain ⟨o, held, opening⟩ := List.countP_pos_iff.mp inside
      exact ⟨o.tag, regular.mem_inside.mpr (regular.inside_of_counted held),
        of_decide_eq_true opening⟩ }

/-- A read inside the device of a storage that an opening has opened. -/
theorem Run.lifecycle_read :
    ∃ h s, Run Rule.regular (Storage.create .readWrite) h s ∧ s.isAtRest ∧ h.handled = [2, 1] ∧
      h.inside = [⟨1, .read⟩] ∧ s.ready = .opened ∧ Lifecycle .readWrite h s := by
  have fresh : Run Rule.regular (Storage.create .readWrite) [] _ := .start
  have run := fresh.play [
    (.call (.read 0 4) (some (.call 1)) none, 40), (.leave, 40), (.collect, 0),
    (.complete 2 { result := .ok none }, 40)]
    ⟨⟨rfl, ⟨rfl, by simp⟩, by simp⟩, ⟨rfl, ⟨rfl, by simp⟩, by simp⟩,
      ⟨rfl, ⟨rfl, by simp⟩, by simp⟩, ⟨rfl, Rule.regular_complete rfl rfl⟩, trivial⟩
  exact ⟨_, _, run, rfl, rfl, rfl, rfl, Run.lifecycle run⟩

end StorageEngine
