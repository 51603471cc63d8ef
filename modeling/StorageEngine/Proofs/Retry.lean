import StorageEngine.Proofs.Lifecycle
import StorageEngine.Proofs.SentAhead

/-!
# Opening again after a failure

An opening that fails asks for another one and marks what waits.  If no other opening is among the
marked requests, the storage has a fresh start: from then on an opening fails only because the
device has failed an opening that it was given since, and nothing that joins the queue or is made
from then on is marked with any other error (`Run.retry`).

If an opening waits, it is marked as well.  It comes to its end without reaching the device, and
marks in turn what has joined the queue meanwhile, another opening included (`Run.retry_spoilt`).

`Blameless` is the invariant: every error that an opening brings along, or that a request bears
while it waits, is one that the device gave to an opening, except for the requests that waited when
the first one failed.  `Renewed` says the same of requests that are made later.  A data request that
goes on after an opening is marked with the error that the storage recalls; by then the opening that
it has sent ahead has ended, so that error is no older (`Run.opening_ended`).
-/

namespace StorageEngine

/-- The device was given an opening and has failed it with this error. -/
def History.Failed (h : History) (e : Error) : Prop :=
  ∃ o, .settled o true ∈ h ∧ o.kind = .opening ∧ o.error = some e ∧ o.id ∈ h.handled

theorem History.Failed.append {h : History} {e : Error} (failed : h.Failed e) (i : History) :
    (h ++ i).Failed e := by
  obtain ⟨o, settled, opening, error, handled⟩ := failed
  exact ⟨o, by simp [settled], opening, error, by simp [handled]⟩

/-- An opening that the device was given, or that brings an error of the device along, if any. -/
def Request.IsExcused (h : History) (r : Request) : Prop :=
  r.kind = .opening → ∀ e, r.error = some e → r.id ∈ h.handled ∨ h.Failed e

/-- The openings of a task bring along no other errors than those of the device. -/
def Task.Excused (h : History) : Task → Prop
  | .run r => r.kind = .opening → ∀ e, r.error = some e → h.Failed e
  | .pipeline r (.record result) => r.phase = .running → (r.recorded result).IsExcused h
  | .pipeline r (.settle true) => r.IsExcused h
  | _ => True

/-- No error of an opening is about but those of the device, and the marks of these requests. -/
structure Blameless (waited : List RequestId) (h : History) (s : Storage) : Prop where
  queue : ∀ r ∈ s.queue, ∀ e, r.error = some e → h.Failed e ∨ r.id ∈ waited ∧ r.kind ≠ .opening
  device : ∀ r ∈ s.outside, r.phase = .running → r.kind = .opening → r.id ∈ h.handled
  stack : ∀ t ∈ s.stack, t.Excused h
  ended : ∀ o, .settled o true ∈ h → o.kind = .opening → ∀ e, o.error = some e → h.Failed e

/-- The end of a destruction, which lets go of the device. -/
def Task.isTeardown : Task → Bool
  | .teardown _ => true
  | _ => false

/-- Only a storage that is destroyed lets go of its device. -/
structure KeepsDevice (s : Storage) : Prop where
  device : s.attached = false → s.ready = .destroyed
  teardown : s.ready = .destroyed ∨ ∀ t ∈ s.stack, ¬ t.isTeardown

namespace Task

@[simp] theorem isTeardown_eq_false {t : Task} (other : ∀ orphans, t ≠ .teardown orphans) :
    t.isTeardown = false := by
  cases t <;> simp_all [isTeardown]

@[simp] theorem isTeardown_teardown (orphans : List Request) :
    (teardown orphans).isTeardown = true :=
  rfl

end Task

section Excused

variable {h : History} {t : Task} {r : Request}

theorem Request.IsExcused.append (excused : r.IsExcused h) (i : History) :
    r.IsExcused (h ++ i) := fun opening e error =>
  (excused opening e error).imp (fun handled => by simp [handled]) fun failed => failed.append i

@[simp] theorem Task.excused_of_due_eq_nil (nothing : t.due = []) : t.Excused h := by
  unfold Task.Excused
  split <;> simp_all

@[simp] theorem Task.excused_run : (run r).Excused h ↔
    (r.kind = .opening → ∀ e, r.error = some e → h.Failed e) :=
  .rfl

@[simp] theorem Task.excused_record (result : Except Error Nat) :
    (pipeline r (.record result)).Excused h ↔
      (r.phase = .running → (r.recorded result).IsExcused h) :=
  .rfl

@[simp] theorem Task.excused_settle (dispatched : Bool) :
    (pipeline r (.settle dispatched)).Excused h ↔ (dispatched = true → r.IsExcused h) := by
  cases dispatched <;> simp [Task.Excused]

@[simp] theorem Task.excused_teardown (orphans : List Request) : (teardown orphans).Excused h :=
  trivial

theorem Task.Excused.append (excused : t.Excused h) (i : History) : t.Excused (h ++ i) := by
  unfold Task.Excused at excused ⊢
  split
  · exact fun opening e error => (excused opening e error).append i
  · exact fun running => (excused running).append i
  · exact Request.IsExcused.append excused i
  · trivial

end Excused

section Rules

variable {s s' : Storage} {h i : History} {waited : List RequestId}

theorem Turn.keepsDevice (t : Turn s i s') (inv : KeepsDevice s) : KeepsDevice s' := by
  obtain ⟨device, dead | none⟩ := inv
  · have dead := t.ready_of_destroyed dead
    exact ⟨fun _ => dead, .inl dead⟩
  cases t with
  | recorded top emitter announced => cases announced <;> constructor <;> simp_all
  | @freed r idle rest top => cases idle <;> constructor <;> simp_all
  | settled top =>
    simp only [top, List.forall_mem_cons] at none
    refine ⟨fun detached => ?_, .inr (by simpa using none.2)⟩
    exact (s.transition_ready _).mpr (.inl (device detached))
  | _ => constructor <;> simp_all

theorem Move.keepsDevice {a : Action} (m : Move s a i s') (inv : KeepsDevice s) :
    KeepsDevice s' := by
  obtain ⟨device, dead | none⟩ := inv
  · have dead := m.ready_eq.trans dead
    exact ⟨fun _ => dead, .inl dead⟩
  cases m <;> constructor <;> simp_all

/-- An opening that comes to its result in place was marked, or it succeeds. -/
theorem Storage.AnswersInPlace.error_eq {r : Request} {result : Except Error Nat}
    {needsOpen : Bool} (answers : s.AnswersInPlace r result needsOpen) (opening : r.kind = .opening)
    (law : s.ready = .opened → s.needsOpen = false) (attached : s.attached = true)
    {e : Error} (failed : result = .error e) : r.error = some e := by
  cases answers with
  | marked error => simpa [error] using failed
  | refused _ data => simp [opening, Kind.isData] at data
  | routed _ routed =>
    rw [opening] at routed
    simp [(Storage.opening_of_destination law routed).2.2 _ rfl] at failed
  | detached _ detached => simp [attached] at detached

/-- An opening that ends with an error: the device has failed it, or an earlier one. -/
theorem Request.IsExcused.failed {o : Request} (excused : o.IsExcused h)
    (opening : o.kind = .opening) {e : Error} (error : o.error = some e) :
    (h ++ [Incident.settled o true]).Failed e := by
  obtain handled | failed := excused opening e error
  · exact ⟨o, by simp, opening, error, by simp [handled]⟩
  · exact failed.append _

/-- What waits bears no other marks after a step. -/
theorem Turn.blameless_queue (t : Turn s i s') (tidy : Tidy s) (inv : Blameless waited h s) :
    ∀ r ∈ s'.queue, ∀ e, r.error = some e →
      (h ++ i).Failed e ∨ r.id ∈ waited ∧ r.kind ≠ .opening := by
  have old : ∀ r ∈ s.queue, ∀ e, r.error = some e →
      (h ++ i).Failed e ∨ r.id ∈ waited ∧ r.kind ≠ .opening :=
    fun r held e error => (inv.queue r held e error).imp_left fun failed => failed.append i
  cases t with
  | lost | cleared => simp
  | queued => simpa [or_imp, forall_and, Order.request, Request.queued] using old
  | waiting top blocked =>
    have new := tidy.unmarked_of_blocked top blocked
    simpa [or_imp, forall_and, Request.queued, new] using old
  | drained top head => exact fun r held => old r (by simp [head, held])
  | @settled r dispatched rest top =>
    by_cases fails : r.kind = .opening ∧ ∃ e, r.error = some e
    · obtain ⟨opening, e, error⟩ := fails
      have excused := inv.stack (.pipeline r (.settle dispatched)) (by simp [top])
      rw [map_fallout_of_opening error opening]
      cases dispatched with
      | false =>
        -- The destruction that has faulted the opening has left nothing behind that waits.
        have orphan := tidy.orphans (.pipeline r (.settle false)) (by simp [top])
        simp [((Task.belongs_settle ..).mp orphan rfl).1.2]
      | true =>
        have failed := Request.IsExcused.failed excused opening error
        simpa [Request.poison] using fun _ _ => .inl failed
    · have ordinary : r.error = none ∨ r.kind ≠ .opening := by
        cases error : r.error <;> simp_all
      rwa [map_fallout_of_ne ordinary]
  | _ => exact old

/-- What the device has been given since then is known to have been given. -/
theorem Turn.blameless_device (t : Turn s i s') (inv : Blameless waited h s) :
    ∀ r ∈ s'.outside, r.phase = .running → r.kind = .opening → r.id ∈ (h ++ i).handled := by
  have old : ∀ r ∈ s.outside, r.phase = .running → r.kind = .opening → r.id ∈ (h ++ i).handled :=
    fun r held running opening => by simp [inv.device r held running opening]
  cases t with
  | @dispatched r rest top r' _ _ _ _ follows =>
    simpa [or_imp, forall_and, History.handled, Incident.handled?, follows.id] using old
  | _ => exact old

/-- Openings on the stack bring no other errors along after a step. -/
theorem Turn.blameless_stack (t : Turn s i s') (inPlace : s.InPlace) (keeps : KeepsDevice s)
    (law : s.ready = .opened → s.needsOpen = false) (noBarrier : s.ready = .destroyed →
      ∀ t ∈ s.stack, ¬ t.runsBarrier) (inv : Blameless waited h s) :
    ∀ t ∈ s'.stack, t.Excused (h ++ i) := by
  have old : ∀ t ∈ s.stack, t.Excused (h ++ i) := fun t held => (inv.stack t held).append i
  have inPlace := inPlace.stack
  cases t with
  | recorded top emitter announced => cases announced <;> simp_all
  | @freed r idle rest top => cases idle <;> simp_all
  | @entered r rest top =>
    have data : r.kind ≠ .opening := fun opening => by
      simpa [opening, Kind.isBarrier] using (inPlace (.enter r) (by simp [top])).2
    simp_all
  | @drained r q rest top head =>
    have excused : r.kind = .opening → ∀ e, r.error = some e → h.Failed e := fun opening e error =>
      (inv.queue r (by simp [head]) e error).resolve_right fun waited => waited.2 opening
    simp only [top, List.forall_mem_cons] at old ⊢
    exact ⟨fun opening e error => (excused opening e error).append _, old⟩
  | @finished r rest top r' result _ _ _ follows _ _ error answers =>
    simp only [top, List.forall_mem_cons, Task.excused_record, Task.excused_run] at old ⊢
    refine ⟨fun _ kind e failed => ?_, old.2⟩
    have opening : r.kind = .opening := by simpa [follows.kind] using kind
    have attached : s.attached = true := by
      by_contra detached
      have dead := keeps.device (by simpa using detached)
      simpa [opening, Kind.isBarrier] using noBarrier dead (.run r) (by simp [top])
    have marked : r.error = some e := by
      cases result with
      | ok size => exact error ▸ failed
      | error e' =>
        obtain rfl : e' = e := by simpa using failed
        exact answers.error_eq opening law attached rfl
    exact .inr (old.1 opening e marked)
  | orphaned top => simp_all [Task.InPlace]
  | _ => simp_all

/-- Openings end with no other errors. -/
theorem Turn.blameless_ended (t : Turn s i s') (inv : Blameless waited h s) :
    ∀ o, .settled o true ∈ h ++ i → o.kind = .opening → ∀ e, o.error = some e →
      (h ++ i).Failed e := by
  have old : ∀ o, .settled o true ∈ h → o.kind = .opening → ∀ e, o.error = some e →
      (h ++ i).Failed e :=
    fun o settled opening e error => (inv.ended o settled opening e error).append i
  cases t with
  | @settled r dispatched rest top =>
    intro o settled opening e error
    obtain before | now := List.mem_append.mp settled
    · exact old o before opening e error
    · obtain ⟨rfl, rfl⟩ : o = r ∧ dispatched = true := by simpa [eq_comm] using now
      have excused := inv.stack (.pipeline o (.settle true)) (by simp [top])
      exact Request.IsExcused.failed excused opening error
  | _ => simpa using old

theorem Turn.blameless (t : Turn s i s') {whole : History} (regular : Regular whole s)
    (keeps : KeepsDevice s) (lawful : s.ready = .destroyed ∨ Lawful s)
    (inv : Blameless waited h s) :
    Blameless waited (h ++ i) s' :=
  have law : s.ready = .opened → s.needsOpen = false := fun opened =>
    lawful.elim (fun dead => by simp [opened] at dead) fun lawful => lawful.opened opened
  ⟨t.blameless_queue regular.tidy inv, t.blameless_device inv,
    t.blameless_stack regular.custody.inPlace keeps law
      (fun dead => (regular.tidy.ended dead).2) inv, t.blameless_ended inv⟩

theorem Move.blameless {a : Action} (m : Move s a i s') (tidy : Tidy s)
    (allowed : Rule.regular h s a) (inv : Blameless waited h s) :
    Blameless waited (h ++ i) s' := by
  have queue : ∀ r ∈ s.queue, ∀ e, r.error = some e →
      (h ++ i).Failed e ∨ r.id ∈ waited ∧ r.kind ≠ .opening :=
    fun r held e error => (inv.queue r held e error).imp_left fun failed => failed.append i
  have stack : ∀ t ∈ s.stack, t.Excused (h ++ i) := fun t held => (inv.stack t held).append i
  have device : ∀ r ∈ s.outside, r.phase = .running → r.kind = .opening →
      r.id ∈ (h ++ i).handled :=
    fun r held running opening => by simp [inv.device r held running opening]
  have device' := m.forall_outside device (by simp) (by simp)
    (fun shifts => absurd shifts allowed.2.1)
  have given {id : RequestId} {r : Request} (found : s.find? id = some r)
      (running : r.phase = .running) (opening : r.kind = .opening) : r.id ∈ (h ++ i).handled :=
    device r (List.mem_of_find?_eq_some found) running opening
  have ended : ∀ o, .settled o true ∈ h ++ i → o.kind = .opening → ∀ e, o.error = some e →
      (h ++ i).Failed e := by
    intro o settled opening e error
    have before : .settled o true ∈ h := by
      cases m <;> simpa using settled
    exact (inv.ended o before opening e error).append i
  generalize h ++ i = h' at *
  cases m with
  | @pushed id r found room =>
    have unmarked := tidy.outside r (List.mem_of_find?_eq_some found)
    refine ⟨?_, device', by simpa using stack, ended⟩
    simpa [or_imp, forall_and, Request.queued, unmarked] using queue
  | shifted => exact absurd rfl allowed.2.1
  | @pushAbandoned id r found | @abandoned id r found =>
    refine ⟨queue, device', ?_, ended⟩
    simpa [Request.IsExcused] using
      ⟨fun running opening => .inl (given found running opening), stack⟩
  | @completed id r found v =>
    refine ⟨queue, device', ?_, ended⟩
    simpa [Request.IsExcused] using
      ⟨fun running opening _ _ => .inl (given found running opening), stack⟩
  | left top | collected top => exact ⟨queue, device', by simp_all, ended⟩
  | _ => exact ⟨queue, device', by simpa using stack, ended⟩

end Rules

section Run

variable {capabilities : Capabilities} {limits : Limits} {allocator : Allocator} {h : History}
  {s : Storage} (run : Run Rule.regular (Storage.create capabilities limits allocator) h s)

include run

theorem Run.keepsDevice : KeepsDevice s :=
  run.invariant (motive := fun _ s => KeepsDevice s) ⟨by simp [Storage.create], .inr (by simp)⟩
    (fun _ inv t => t.keepsDevice inv) (fun _ inv _ _ m => m.keepsDevice inv)

/-- A storage that is blameless when a run goes on stays so. -/
theorem Run.blameless {waited : List RequestId} (initial : Blameless waited [] s) {h₁ : History}
    {s₁ : Storage} (later : Run Rule.regular s h₁ s₁) : Blameless waited h₁ s₁ := by
  refine later.invariant (motive := fun h₁ s₁ => Blameless waited h₁ s₁) initial ?_ ?_
  · intro h₁ s₁ i s₂ later inv t
    have whole := run.append Rule.regular_timeless later
    exact t.blameless whole.regular_of_create whole.keepsDevice whole.lawful inv
  · intro h₁ s₁ a i s₂ later inv _ allowed m
    have whole := run.append Rule.regular_timeless later
    exact m.blameless whole.regular_of_create.tidy allowed inv

end Run

/-- There is a reason to mark a request with this error: the device has failed an opening with it,
or the storage is destroyed and it is the fault of that. -/
def Storage.Warrants (h : History) (s : Storage) (e : Error) : Prop :=
  h.Failed e ∨ s.ready = .destroyed ∧ e = .fault

/-- Requests with numbers from `first` on are marked for a reason.  As long as no opening has ended
the storage may recall an older error, but nothing is marked with it. -/
structure Renewed (first : RequestId) (h : History) (s : Storage) : Prop where
  recalled : ∀ id, h.Ended ⟨id, .opening⟩ → ∀ e, s.openError = some e → s.Warrants h e
  entering : ∀ r, .enter r ∈ s.stack → first ≤ r.id → ∀ e, r.error = some e → s.Warrants h e
  begun : ∀ r, .begun r ∈ h → first ≤ r.id → ∀ e, r.error = some e → s.Warrants h e

section Renewed

variable {s s' : Storage} {h i : History} {waited : List RequestId} {first : RequestId}

theorem Turn.warrants (t : Turn s i s') {e : Error} (reason : s.Warrants h e) :
    s'.Warrants (h ++ i) e :=
  reason.imp (·.append i) (·.imp_left t.ready_of_destroyed)

/-- The error that is recalled when the state has moved on is that of the opening that has ended, or
an older one, and then no opening has succeeded before the storage was destroyed. -/
theorem Storage.recalled_cases {r : Request} {e : Error}
    (recalled : (s.transition r).openError = some e) :
    r.kind = .opening ∧ r.error = some e ∨
      s.openError = some e ∧
        (r.kind = .opening → s.ready = .destroyed ∧ r.error = none) := by
  unfold transition at recalled
  split at recalled <;> (try split at recalled) <;> simp_all

/-- Once an opening has ended, the storage recalls an error for a reason. -/
theorem Turn.renewed_recalled (t : Turn s i s') {whole : History} (regular : Regular whole s)
    (blameless : Blameless waited h s) (inv : Renewed first h s) {id : RequestId}
    (ended : (h ++ i).Ended ⟨id, .opening⟩) {e : Error} (recalled : s'.openError = some e) :
    s'.Warrants (h ++ i) e := by
  have old (earlier : h.Ended ⟨id, .opening⟩) (same : s.openError = some e) :
      s'.Warrants (h ++ i) e := t.warrants (inv.recalled id earlier e same)
  obtain ⟨o, dispatched, settled, same⟩ := ended
  cases t with
  | @settled r d rest top =>
    have belongs := regular.tidy.orphans (.pipeline r (.settle d)) (by simp [top])
    obtain ⟨opening, error⟩ | ⟨before, ineffective⟩ := Storage.recalled_cases recalled
    · cases d with
      | true =>
        have excused := blameless.stack (.pipeline r (.settle true)) (by simp [top])
        exact .inl (Request.IsExcused.failed excused opening error)
      | false =>
        obtain ⟨past, fault⟩ := (Task.belongs_settle ..).mp belongs rfl
        refine .inr ⟨(Storage.transition_ready_of_error error).trans past.1, ?_⟩
        simpa [error] using fault
    · refine old ⟨o, dispatched, ?_, same⟩ before
      obtain earlier | now := List.mem_append.mp settled
      · exact earlier
      -- What settles in a storage that is destroyed has not been inside the device, and fails.
      obtain ⟨rfl, rfl⟩ : o = r ∧ dispatched = d := by simpa using now
      have opening : o.kind = .opening := congrArg Tag.kind same
      obtain ⟨dead, success⟩ := ineffective opening
      cases dispatched with
      | true =>
        have living := regular.tidy.living_of_settle regular.books top (by rw [opening]; rfl)
        exact absurd dead living
      | false => simp [success] at belongs
  | _ => exact old ⟨o, dispatched, by simpa using settled, same⟩ recalled

/-- A data request that goes on after an opening is marked for a reason. -/
theorem Turn.renewed_entering (t : Turn s i s') (tidy : Tidy s)
    (ahead : ∀ r rest, s.stack = .answer (.done (.ok ())) :: .awaitOpening r :: rest →
      s.barrier = false → s.queue = [] → first ≤ r.id → h.Ended ⟨r.id + 1, .opening⟩)
    (inv : Renewed first h s) {r : Request} (entering : .enter r ∈ s'.stack)
    (new : first ≤ r.id) {e : Error} (error : r.error = some e) :
    s'.Warrants (h ++ i) e := by
  have old (entering : .enter r ∈ s.stack) : s'.Warrants (h ++ i) e :=
    t.warrants (inv.entering r entering new e error)
  cases t with
  | @offered o rest top a data buffer =>
    obtain rfl | below : r = o.request s.nextId data buffer ∨ .enter r ∈ rest := by
      simpa using entering
    · simp [Order.request] at error
    · exact old (by simp [top, below])
  | @openingAdmitted r₀ r' rest top marked owes =>
    obtain rfl | below : r = r' ∨ .enter r ∈ rest := by simpa using entering
    · have same : r.id = r₀.id := by obtain rfl | ⟨e, rfl⟩ := marked <;> rfl
      obtain rfl | owes := owes
      · have unmarked := tidy.entering.resolve_right (by simp [top]) (.awaitOpening r)
          (by simp [top])
        simp [Task.Unmarked, error] at unmarked
      · have ended := ahead r₀ rest top owes.free owes.empty (same ▸ new)
        exact (inv.recalled _ ended e (owes.error ▸ error)).imp_left (·.append _)
    · exact old (by simp [top, below])
  | recorded top emitter announced => cases announced <;> simp_all
  | @freed r idle rest top => cases idle <;> simp_all
  | _ => exact old (by simp_all)

theorem Turn.renewed_begun (t : Turn s i s') (blameless : Blameless waited h s)
    (old : ∀ id ∈ waited, id < first) (inv : Renewed first h s) {r : Request}
    (begun : .begun r ∈ h ++ i) (new : first ≤ r.id) {e : Error} (error : r.error = some e) :
    s'.Warrants (h ++ i) e := by
  obtain before | now := List.mem_append.mp begun
  · exact t.warrants (inv.begun r before new e error)
  · cases t with
    | @entered r' rest top =>
      obtain rfl : r = r' := by simpa using now
      exact (inv.entering r (by simp [top]) new e error).imp_left (·.append _)
    | @drained r' q rest top head =>
      obtain rfl : r = r' := by simpa using now
      obtain failed | waits := blameless.queue r (by simp [head]) e error
      · exact .inl (failed.append _)
      · exact absurd (old _ waits.1) (Nat.not_lt.mpr new)
    | _ => simp at now

theorem Move.renewed {a : Action} (m : Move s a i s') (inv : Renewed first h s) :
    Renewed first (h ++ i) s' := by
  have old {e : Error} (reason : s.Warrants h e) : s'.Warrants (h ++ i) e :=
    reason.imp (·.append i) (·.imp_left m.ready_eq.trans)
  refine ⟨fun id ended e recalled => ?_, fun r entering new e error => ?_,
    fun r begun new e error => ?_⟩
  · have same : s'.openError = s.openError := by cases m <;> rfl
    obtain ⟨o, dispatched, settled, opening⟩ := ended
    have earlier : .settled o dispatched ∈ h := by cases m <;> simpa using settled
    exact old (inv.recalled id ⟨o, dispatched, earlier, opening⟩ e (same ▸ recalled))
  · have earlier : .enter r ∈ s.stack := by cases m <;> simp_all
    exact old (inv.entering r earlier new e error)
  · have earlier : .begun r ∈ h := by cases m <;> simpa using begun
    exact old (inv.begun r earlier new e error)

/-- What is made once the storage is blameless is marked for a reason. -/
theorem Run.renewed {capabilities : Capabilities} {limits : Limits} {allocator : Allocator}
    (run : Run Rule.regular (Storage.create capabilities limits allocator) h s)
    (initial : Blameless waited [] s) (old : ∀ id ∈ waited, id < s.nextId) {h₁ : History}
    {s₁ : Storage} (later : Run Rule.regular s h₁ s₁) : Renewed s.nextId h₁ s₁ := by
  refine later.invariant (motive := fun h₁ s₁ => Renewed s.nextId h₁ s₁) ?_ ?_ ?_
  · refine ⟨by simp [History.Ended], fun r entering new => ?_, by simp⟩
    have known : r ∈ s.requests := by
      simpa [Storage.requests] using .inr (.inr ⟨_, entering, by simp⟩)
    exact absurd (run.regular_of_create.custody.id_lt known) (Nat.not_lt.mpr new)
  · intro h₁ s₁ i s₂ later inv t
    have whole := run.append Rule.regular_timeless later
    have regular := whole.regular_of_create
    have blameless := run.blameless initial later
    have ahead (r : Request) (rest : List Task)
        (top : s₁.stack = .answer (.done (.ok ())) :: .awaitOpening r :: rest)
        (free : s₁.barrier = false) (empty : s₁.queue = []) (new : s.nextId ≤ r.id) :
        h₁.Ended ⟨r.id + 1, .opening⟩ := by
      obtain ⟨o, dispatched, settled, same⟩ := whole.opening_ended top free empty
      obtain before | since := List.mem_append.mp settled
      · -- The opening bears a number that had not been given out before.
        have given : r.id + 1 < s.nextId := run.id_lt_of_ended ⟨o, dispatched, before, same⟩
        exact absurd (Nat.lt_of_succ_lt given) (Nat.not_lt.mpr new)
      · exact ⟨o, dispatched, since, same⟩
    exact ⟨fun id ended e => t.renewed_recalled regular blameless inv ended,
      fun r entering new e => t.renewed_entering regular.tidy ahead inv entering new,
      fun r begun new e => t.renewed_begun blameless old inv begun new⟩
  · intro h₁ s₁ a i s₂ _ inv _ _ m
    exact m.renewed inv

end Renewed

/-- **A new opening is a new attempt, unless another one has waited.**  The device has failed an
opening, and no other opening waits.  Then a new one is asked for, and from now on an opening that
the device does not turn down itself fails only with an error that the device has given to an
opening since.  What joins the queue bears no other mark, and what is made from now on has none when
its turn comes, but for the fault of a destruction. -/
theorem Run.retry {capabilities : Capabilities} {limits : Limits} {allocator : Allocator}
    {h : History} {s : Storage}
    (run : Run Rule.regular (Storage.create capabilities limits allocator) h s)
    {o : Request} {e : Error} {rest : List Task}
    (top : s.stack = .pipeline o (.settle true) :: rest) (opening : o.kind = .opening)
    (failed : o.error = some e) (alone : ∀ r ∈ s.queue, r.kind ≠ .opening)
    {s₁ : Storage} (next : s.step = some s₁) :
    s₁.needsOpen = true ∧ ∀ h₂ s₂, Run Rule.regular s₁ h₂ s₂ →
      (∀ o', .settled o' true ∈ h₂ → o'.kind = .opening → ∀ e', o'.error = some e' →
        h₂.Failed e') ∧
      (∀ r ∈ s₂.queue, r.id ∉ s.queue.map (·.id) → ∀ e', r.error = some e' → h₂.Failed e') ∧
      ∀ r, .begun r ∈ h₂ → s₁.nextId ≤ r.id → ∀ e', r.error = some e' →
        h₂.Failed e' ∨ s₂.ready = .destroyed ∧ e' = .fault := by
  have turn := turn_of_step next
  obtain ⟨-, asks, queue, outside, idle, stack⟩ := turn.failed top opening failed
  have regular := run.regular_of_create
  have barrier : o.kind.isBarrier := by rw [opening]; rfl
  have clear := regular.tidy.clear_of_settle regular.onTop regular.books top barrier
  have initial : Blameless (s.queue.map (·.id)) [] s₁ := {
    queue := by
      simp only [queue, List.forall_mem_map]
      exact fun r held e _ => .inr ⟨List.mem_map.mpr ⟨r, held, rfl⟩, alone r held⟩
    device := fun r held running => absurd running (clear.outside r (outside ▸ held))
    stack := by simpa [stack] using fun t below => Task.excused_of_due_eq_nil (clear.stack t below)
    ended := by simp }
  have old : ∀ id ∈ s.queue.map (·.id), id < s₁.nextId := by
    simp only [List.forall_mem_map]
    exact fun r held => Nat.lt_of_lt_of_le
      (regular.custody.id_lt (by simp [Storage.requests, held])) turn.copies.1
  refine ⟨asks, fun h₂ s₂ later => ?_⟩
  have blameless := (run.step next).blameless initial later
  have renewed := (run.step next).renewed initial old later
  refine ⟨blameless.ended, fun r held new e' error => ?_, renewed.begun⟩
  exact (blameless.queue r held e' error).resolve_right fun waited => new waited.1

/-- A read waits behind an opening that is not ready.  The next read sends another opening ahead,
which reaches the device and fails there: the read is marked with the error of that one. -/
theorem Run.retry_read :
    ∃ h s o rest s₁ h₂ s₂, Run Rule.regular (Storage.create .readWrite) h s ∧
      s.stack = .pipeline o (.settle true) :: rest ∧ o.kind = .opening ∧
      o.error = some .notReady ∧ (∀ r ∈ s.queue, r.kind ≠ .opening) ∧ s.step = some s₁ ∧
      Run Rule.regular s₁ h₂ s₂ ∧ h₂.handled = [4] ∧ s₁.nextId ≤ 3 ∧
      .begun {
        id := 3, kind := .read, size := 4, receiver := some (.call 3)
        error := some (.backend 5) } ∈ h₂ ∧
      s₁.needsOpen = true ∧ h₂.Failed (.backend 5) := by
  have fresh : Run Rule.regular (Storage.create .readWrite) [] _ := .start
  have failed := fresh.play [
    (.call .opening (some (.call 1)) none, 40), (.leave, 40), (.collect, 0),
    (.call (.read 0 4) (some (.call 2)) none, 40), (.collect, 0),
    (.complete 1 { result := .error .notReady }, 2)]
    ⟨⟨rfl, ⟨rfl, by simp⟩, by simp⟩, ⟨rfl, ⟨rfl, by simp⟩, by simp⟩,
      ⟨rfl, ⟨rfl, by simp⟩, by simp⟩, ⟨rfl, ⟨rfl, by simp⟩, by simp⟩,
      ⟨rfl, ⟨rfl, by simp⟩, by simp⟩, ⟨rfl, Rule.regular_complete rfl rfl⟩, trivial⟩
  have going {h : History} {s s₁ : Storage}
      (_ : Run Rule.regular (Storage.create .readWrite) h s) (_ : s.step = some s₁) :
      Run Rule.regular s₁ [] s₁ := .start
  have later := ((going failed rfl).goOn 40).play [
    (.leave, 40), (.leave, 40), (.collect, 0), (.call (.read 0 4) (some (.call 3)) none, 40),
    (.complete 4 { result := .error (.backend 5) }, 40), (.collect, 0), (.leave, 40)]
    ⟨⟨rfl, ⟨rfl, by simp⟩, by simp⟩, ⟨rfl, ⟨rfl, by simp⟩, by simp⟩,
      ⟨rfl, ⟨rfl, by simp⟩, by simp⟩, ⟨rfl, ⟨rfl, by simp⟩, by simp⟩,
      ⟨rfl, Rule.regular_complete rfl rfl⟩, ⟨rfl, ⟨rfl, by simp⟩, by simp⟩,
      ⟨rfl, ⟨rfl, by simp⟩, by simp⟩, trivial⟩
  obtain ⟨asks, retried⟩ := Run.retry failed rfl rfl rfl (by decide +kernel) rfl
  have reason := (retried _ _ later).2.2
    ({ id := 3, kind := .read, size := 4, receiver := some (.call 3), error := some (.backend 5) } :
      Request) (by decide +kernel) (by decide +kernel) (.backend 5) rfl
  exact ⟨_, _, _, _, _, _, _, failed, rfl, rfl, rfl, by decide +kernel, rfl, later, rfl,
    by decide +kernel, by decide +kernel, asks,
    reason.resolve_right fun destroyed => absurd destroyed.1 (by decide +kernel)⟩

/-- **An opening that has waited spoils the next one.**  The device fails an opening while another
one waits.  Its caller asks for a third, which never reaches the device: it fails with the error of
the first, because the second marks it on coming to its end. -/
theorem Run.retry_spoilt :
    ∃ h s o rest s₁ h₂ s₂, Run Rule.regular (Storage.create .readWrite) h s ∧
      s.stack = .pipeline o (.settle true) :: rest ∧ o.kind = .opening ∧
      o.error = some (.backend 5) ∧ s.step = some s₁ ∧ Run Rule.regular s₁ h₂ s₂ ∧
      .asked (.call .opening (some (.call 3)) none) ∈ h₂ ∧
      .invoked (.done 3 (.error (.backend 5))) ∈ h₂ ∧ h₂.handled = [] := by
  have fresh : Run Rule.regular (Storage.create .readWrite) [] _ := .start
  have failed := fresh.play [
    (.call .opening (some (.call 1)) none, 40), (.call .opening (some (.call 2)) none, 40),
    (.collect, 0), (.complete 1 { result := .error (.backend 5) }, 2)]
    ⟨⟨rfl, ⟨rfl, by simp⟩, by simp⟩, ⟨rfl, ⟨rfl, by simp⟩, by simp⟩,
      ⟨rfl, ⟨rfl, by simp⟩, by simp⟩, ⟨rfl, Rule.regular_complete rfl rfl⟩, trivial⟩
  have going {h : History} {s s₁ : Storage}
      (_ : Run Rule.regular (Storage.create .readWrite) h s) (_ : s.step = some s₁) :
      Run Rule.regular s₁ [] s₁ := .start
  have later := ((going failed rfl).goOn 40).play
    [(.call .opening (some (.call 3)) none, 40), (.collect, 0), (.leave, 40), (.collect, 0),
      (.leave, 40), (.leave, 40)]
    ⟨⟨rfl, ⟨rfl, by simp⟩, by simp⟩, ⟨rfl, ⟨rfl, by simp⟩, by simp⟩,
      ⟨rfl, ⟨rfl, by simp⟩, by simp⟩, ⟨rfl, ⟨rfl, by simp⟩, by simp⟩,
      ⟨rfl, ⟨rfl, by simp⟩, by simp⟩, ⟨rfl, ⟨rfl, by simp⟩, by simp⟩, trivial⟩
  exact ⟨_, _, _, _, _, _, _, failed, rfl, rfl, rfl, rfl, later, by decide +kernel,
    by decide +kernel, rfl⟩

end StorageEngine
