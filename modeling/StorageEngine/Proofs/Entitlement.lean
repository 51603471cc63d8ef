import StorageEngine.Proofs.Leases

/-!
# What requests hold

A request that is alive holds a block for its record.  A write holds one for its payload as well, as
long as it is alive; a read and a stat hold one for their buffer while they are inside the device.
No other request holds more.

The payload of a write is as long as the range that it asks for: `Operation.order_fits`.

* `Turn.entitled`, `Move.entitled` — every request in the queue or outside holds what it is entitled
  to, as long as nothing inside the device is pushed;
* `Turn.sweeps`, `Move.sweeps` — what waits in a storage that is destroyed will be cleared away;
* `Run.lease_accounting` — the allocator accounts for what is alive, and for nothing else.
-/

namespace StorageEngine

/-- The size of the buffer that a request outside the storage's own tasks is entitled to. -/
def Request.entitlement (r : Request) : Option Nat :=
  match r.kind, r.phase with
  | .write, _ => some r.size
  | .read, .running => some r.size
  | .stat, .running => some statsSize
  | _, _ => none

/-- A request holds what it is entitled to. -/
def Request.Entitled (r : Request) : Prop :=
  r.buffer = r.entitlement

/-- Nothing but a write has a payload, and that is as long as the range. -/
def Order.Fits (o : Order) : Prop :=
  o.payload.map List.length = if o.kind = .write then some o.size else none

/-- The requests of a task that are about to be admitted or to run hold what they are entitled to,
and so will those that it makes. -/
def Task.Entitled : Task → Prop
  | .submit o | .awaitClosing o => o.Fits
  | .awaitOpening r | .enter r | .run r => r.Entitled
  | _ => True

/-- Every request that is alive holds what it is entitled to. -/
structure Entitled (s : Storage) : Prop where
  queue : ∀ r ∈ s.queue, r.Entitled
  outside : ∀ r ∈ s.outside, r.Entitled
  stack : ∀ t ∈ s.stack, t.Entitled

/-- Clients push nothing that is inside the device. -/
def Rule.apart : Rule :=
  fun _ s a => ∀ id r, a = .push id → s.find? id = some r → r.phase ≠ .running

section Request

variable {r r' : Request}

theorem Operation.order_fits (op : Operation) (receiver : Option Receiver)
    (observer : Option Observer) : (op.order receiver observer).Fits := by
  cases op <;> simp [Operation.order, Order.Fits]

theorem Order.fits_of_barrier {kind : Kind} (barrier : kind.isBarrier) :
    ({ kind } : Order).Fits := by
  have notWrite : kind ≠ .write := by
    rintro rfl
    simp [Kind.isBarrier] at barrier
  simp [Order.Fits, notWrite]

/-- A request that has been made holds the payload of its order. -/
theorem Order.Fits.entitled {o : Order} (fits : o.Fits) (id : RequestId) (data : Bytes)
    {buffer : Option Nat} (leased : buffer = o.payload.map List.length) :
    (o.request id data buffer).Entitled := by
  rw [Order.Fits, ← leased] at fits
  subst fits
  unfold Request.Entitled Request.entitlement Order.request
  cases o.kind <;> simp

/-- Outside the device, only a write is entitled to a buffer. -/
theorem Request.entitlement_of_still (still : r.phase ≠ .running) :
    r.entitlement = if r.kind = .write then some r.size else none := by
  unfold Request.entitlement
  split <;> simp_all

/-- A request that is not inside the device holds the same in every place. -/
theorem Request.Entitled.moved (entitled : r.Entitled) (still : r.phase ≠ .running) (phase : Phase)
    (still' : phase ≠ .running) : ({ r with phase } : Request).Entitled := by
  rw [Request.Entitled, Request.entitlement_of_still still] at entitled
  rw [Request.Entitled, Request.entitlement_of_still still']
  exact entitled

theorem Request.Entitled.congr (entitled : r.Entitled) (kind : r'.kind = r.kind)
    (phase : r'.phase = r.phase) (size : r'.size = r.size) (buffer : r'.buffer = r.buffer) :
    r'.Entitled := by
  unfold Request.Entitled Request.entitlement at *
  rwa [kind, phase, size, buffer]

/-- A request that reaches the device holds the buffer that it needs there. -/
theorem Request.Entitled.equipped (entitled : r.Entitled) (still : r.phase ≠ .running)
    (kind : r'.kind = r.kind) (running : r'.phase = .running) (equips : r.Equips r') :
    r'.Entitled := by
  have size := equips.size
  rw [Request.Entitled, Request.entitlement_of_still still] at entitled
  rw [Request.Entitled, equips.buffer, Request.buffered, Request.entitlement, kind, running]
  cases isKind : r.kind <;> simp_all

end Request

section Rules

variable {s s' : Storage} {h i : History}

attribute [local simp] Task.Entitled

theorem Turn.entitled (t : Turn s i s') (inPlace : s.InPlace) (inv : Entitled s) : Entitled s' := by
  obtain ⟨queue, outside, stack⟩ := inv
  have phases := inPlace.stack
  refine ⟨?_, ?_, ?_⟩
  · cases t with
    | @queued o rest top a data buffer _ _ leased =>
      have fits : o.Fits := stack (.submit o) (by simp [top])
      have joins := (fits.entitled s.nextId data leased).moved (by simp) .queued (by simp)
      simpa [or_imp, forall_and] using ⟨queue, joins⟩
    | @waiting r rest top =>
      have created := (phases (.enter r) (by simp [top])).1
      have entitled : r.Entitled := stack (.enter r) (by simp [top])
      have joins := entitled.moved (by simp [created]) .queued (by simp)
      simpa [or_imp, forall_and] using ⟨queue, joins⟩
    | drained top head =>
      rw [head] at queue
      exact fun r held => queue r (List.mem_cons_of_mem _ held)
    | @settled r dispatched rest top =>
      simp only [List.forall_mem_map]
      intro other held
      unfold Request.fallout
      split
      · exact (queue other held).congr rfl rfl rfl rfl
      · exact queue other held
    | lost | cleared => simp
    | _ => exact queue
  · cases t with
    | @dispatched r rest top r' _ _ _ _ follows running _ _ _ _ equips =>
      have still : r.phase ≠ .running := by
        obtain created | queued := phases (.run r) (by simp [top])
        · simp [created]
        · simp [queued]
      have entitled : r.Entitled := stack (.run r) (by simp [top])
      have reaches := entitled.equipped still follows.kind running equips
      simpa [or_imp, forall_and] using ⟨outside, reaches⟩
    | _ => exact outside
  · cases t with
    | @deferred o rest top a data buffer _ leased | @offered o rest top a data buffer _ leased =>
      simp only [top, List.forall_mem_cons] at stack
      have opening : ({ kind := .opening } : Order).Fits := Order.fits_of_barrier rfl
      have made := stack.1.entitled s.nextId data leased
      simpa [opening] using ⟨made, stack.2⟩
    | openingAdmitted top marked =>
      simp only [top, List.forall_mem_cons] at stack
      obtain rfl | ⟨e, rfl⟩ := marked
      · simpa using stack.2
      · simpa using ⟨stack.2.1.congr rfl rfl rfl rfl, stack.2.2⟩
    | recorded top emitter announced => cases announced <;> simp_all
    | @freed r idle rest top => cases idle <;> simp_all
    | _ => simp_all

theorem Move.entitled {a : Action} (m : Move s a i s') (inPlace : s.InPlace)
    (apart : Rule.apart h s a) (inv : Entitled s) : Entitled s' := by
  obtain ⟨queue, outside, stack⟩ := inv
  have after : ∀ r ∈ s'.outside, r.Entitled := by
    refine m.forall_outside outside (fun e r entitled => ?_) (fun o data buffer leased => ?_)
      (fun _ r waits => ?_)
    · exact entitled.congr (by simp) (by simp) (by cases e <;> rfl) (by cases e <;> rfl)
    · rw [Request.Entitled, Request.entitlement_of_still (by simp)]
      exact leased
    · have queued := inPlace.queue r waits
      exact (queue r waits).moved (by simp [queued]) .created (by simp)
  have closing : ({ kind := .closing } : Order).Fits := Order.fits_of_barrier rfl
  cases m with
  | @pushed id r found room =>
    have still := apart id r rfl found
    have joins := (outside r (List.mem_of_find?_eq_some found)).moved still .queued
      (by simp)
    exact ⟨by simpa [or_imp, forall_and] using ⟨queue, joins⟩, after, by simpa using stack⟩
  | shifted head =>
    rw [head, List.forall_mem_cons] at queue
    exact ⟨queue.2, after, by simpa using stack⟩
  | left top | collected top => exact ⟨queue, after, by simp_all⟩
  | _ =>
    refine ⟨queue, after, ?_⟩
    simpa [closing, Operation.order_fits] using stack

/-- What waits in a storage that is destroyed will be cleared away. -/
structure Sweeps (s : Storage) : Prop where
  destroyed : Task.clearing s.stack → s.ready = .destroyed
  clearing : s.ready = .destroyed → s.queue ≠ [] → Task.clearing s.stack

theorem Turn.sweeps (t : Turn s i s') (inv : Sweeps s) : Sweeps s' :=
  ⟨t.destroyed inv.destroyed, t.clearing inv.destroyed inv.clearing⟩

theorem Move.sweeps {a : Action} (m : Move s a i s') (inv : Sweeps s) : Sweeps s' := by
  obtain ⟨destroyed, clearing⟩ := inv
  cases m with
  | pushed found room =>
    exact ⟨by simpa [Task.clearing, Task.clears] using destroyed,
      fun dead => absurd dead room.living⟩
  | shifted head => constructor <;> simp_all [Task.clearing, Task.clears]
  | _ => constructor <;> simp_all [Task.clearing, Task.clears]

end Rules

/-- The runs of a storage in which the counter of bytes does not overflow. -/
inductive MeteredRun (rule : Rule) (start : Storage) : History → Storage → Prop
  | start : MeteredRun rule start [] start
  | step {h : History} {s s' : Storage} (run : MeteredRun rule start h s) (next : s.step = some s')
      (affords : s.allocator.Affords s.asks) : MeteredRun rule start (h ++ s.incidents) s'
  | move {h : History} {s : Storage} (a : Action) (run : MeteredRun rule start h s)
      (turn : s.isAtRest) (allowed : rule h s a) (affords : s.allocator.Affords (s.asksOf a)) :
      MeteredRun rule start (h ++ s.incidentsOf a) (s.act a)

section Run

variable {rule : Rule} {start s : Storage} {h : History}

theorem MeteredRun.run (metered : MeteredRun rule start h s) : Run rule start h s := by
  induction metered with
  | start => exact .start
  | step _ next _ ih => exact ih.step next
  | move a _ turn allowed _ ih => exact ih.move a turn allowed

theorem MeteredRun.balanced (custody : start.Custody) (initial : start.Balanced [])
    (metered : MeteredRun rule start h s) : s.Balanced [] := by
  induction metered with
  | start => exact initial
  | step _ next affords ih => exact ih.step affords next
  | move a metered _ _ affords ih => exact ih.act (metered.run.custody custody).unique affords

theorem Run.entitled (custody : start.Custody) (initial : Entitled start)
    (run : Run Rule.apart start h s) : Entitled s := by
  refine run.invariant (motive := fun _ s => Entitled s) initial ?_ ?_
  · intro h s i s' run inv t
    exact t.entitled (run.custody custody).inPlace inv
  · intro h s a i s' run inv _ apart m
    exact m.entitled (run.custody custody).inPlace apart inv

theorem Run.sweeps (initial : Sweeps start) (run : Run rule start h s) : Sweeps s :=
  run.invariant (motive := fun _ s => Sweeps s) initial (fun _ inv t => t.sweeps inv)
    (fun _ inv _ _ m => m.sweeps inv)

end Run

/-- The allocator accounts for the requests that are alive, each of which holds what it is entitled
to. -/
structure LeaseAccounts (s : Storage) : Prop where
  /-- A record each, and the buffers. -/
  leases : ∀ r ∈ s.queue ++ s.outside, r.leases = Request.recordSize :: r.entitlement.toList
  blocks : s.allocator.allocCount =
    s.allocator.freeCount + ((s.queue ++ s.outside).flatMap (·.leases)).length
  bytes : s.allocator.bytesInUse = ((s.queue ++ s.outside).flatMap (·.leases)).sum
  /-- Where nothing is alive, all has come back. -/
  balanced : s.queue = [] → s.outside = [] → s.allocator.isBalanced
  /-- After a destruction, nothing but what is outside is alive. -/
  destroyed : s.ready = .destroyed → s.outside = [] → s.allocator.isBalanced

/-- **Leases are accounted for.**  Where no call is going on, the blocks that the allocator has
handed out and has not got back are those of the requests that wait or are outside: a record each,
and a buffer for a write, and for a read or a stat inside the device. -/
theorem Run.lease_accounting {capabilities : Capabilities} {limits : Limits}
    {policy : AllocatorPolicy} {h : History} {s : Storage}
    (run : MeteredRun Rule.apart (Storage.create capabilities limits { policy }) h s)
    (idle : s.isIdle) : LeaseAccounts s := by
  have custody := Storage.custody_create capabilities limits { policy }
  have start : (Storage.create capabilities limits { policy }).Balanced [] := ⟨rfl, rfl⟩
  have entitled := run.run.entitled custody ⟨by simp, by simp, by simp⟩
  have sweeps : Sweeps s := run.run.sweeps ⟨by simp [Task.clearing], by simp⟩
  have empty := flatMap_stack_eq_nil (f := Task.requests) idle fun _ => rfl
  obtain ⟨count, sum⟩ := run.balanced custody start
  simp only [Storage.requests, empty, List.append_nil] at count sum
  have balanced (none : s.queue = []) (none' : s.outside = []) : s.allocator.isBalanced := by
    rw [none, none'] at count sum
    simpa [Allocator.isBalanced] using ⟨count, sum⟩
  refine ⟨fun r alive => ?_, count, sum, balanced, fun dead => balanced ?_⟩
  · have holds : r.Entitled := by
      obtain waits | outside := List.mem_append.mp alive
      · exact entitled.queue r waits
      · exact entitled.outside r outside
    rw [Request.leases, holds]
  · by_contra waits
    have clearing := Task.waking_of_clearing (sweeps.clearing dead waits)
    simp [waking_of_isIdle idle] at clearing

/-- A write in the hands of a client, beside an opening inside the device. -/
theorem Run.lease_accounting_write :
    ∃ h s, MeteredRun Rule.apart (Storage.create .readWrite {} {}) h s ∧ s.isIdle ∧
      s.outside.map (·.leases) = [[256, 16], [256]] ∧ s.allocator.allocCount = 3 ∧
      s.allocator.bytesInUse = 528 ∧ LeaseAccounts s := by
  have fresh : MeteredRun Rule.apart (Storage.create .readWrite {} {}) [] _ := .start
  have made := fresh.move (.makeRequest .write 0 16) rfl (by simp [Rule.apart])
    fun _ => ⟨by decide, fun _ => ⟨by decide, trivial⟩⟩
  have held := made.move .collect rfl (by simp [Rule.apart]) trivial
  have asked := held.move (.call .opening none none) rfl (by simp [Rule.apart]) trivial
  have queued := asked.step rfl fun _ => ⟨by decide, trivial⟩
  have called := ((queued.step rfl trivial).step rfl trivial).step rfl trivial
  have left := called.move .leave rfl (by simp [Rule.apart]) trivial
  have inside := left.step rfl trivial
  exact ⟨_, _, inside, rfl, rfl, rfl, rfl, Run.lease_accounting inside rfl⟩

end StorageEngine
