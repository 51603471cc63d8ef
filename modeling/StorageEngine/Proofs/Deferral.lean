import StorageEngine.Proofs.Calm

/-!
# Immediate and deferred completion

A device may end a request while its handler runs, or park it and end it when the call has returned.
A client that calls nothing back cannot tell the two apart: the calls have the same answers, the
same handlers are given the same requests and the same client code is called, in the same order, and
the storage that is left is the same.

The steps differ, so they are not compared with each other.  Those of either pace lead to what
`Session.answered` says (`comesTo_answered`), which knows nothing of a pace.

* `ComesTo.run` — a request that nothing has to wait for;
* `ComesTo.behind` — a request that waits for a barrier that is parked;
* `play_eq` — a whole session.
-/

namespace StorageEngine

open StateTransition

namespace Storage

variable {s : Storage} {o : Order} {r : Request}

/-- A barrier is made, and queued. -/
theorem submit_barrier (lenient : s.allocator.policy.IsLenient) (room : s.HasRoom)
    (barrier : o.kind.isBarrier) :
    s.submit o = ({ (s.made o).2 with queue := s.queue ++ [(s.made o).1.queued] } : Storage).push
      [.drain, .answer (.done (.ok ()))] := by
  have living : s.isDestroyed = false := by simpa [isDestroyed] using room.living
  have queued : (s.made o).2.enqueue (s.made o).1 =
      .ok { (s.made o).2 with queue := s.queue ++ [(s.made o).1.queued] } :=
    enqueue_eq_ok_iff.mpr ⟨⟨room.living, room.room⟩, rfl⟩
  unfold submit
  simp only [living, Kind.not_isData_of_isBarrier barrier, make_eq_made lenient, barrier,
    Bool.false_and, Bool.false_eq_true, if_false, if_true]
  unfold admitBarrier
  rw [queued]

/-- A data request is made, and admitted. -/
theorem submit_data (lenient : s.allocator.policy.IsLenient) (living : s.ready ≠ .destroyed)
    (data : o.kind.isData) (supported : s.capabilities.supports o.kind) :
    s.submit o = (s.made o).2.admitData (s.made o).1 := by
  have living : s.isDestroyed = false := by simpa [isDestroyed] using living
  have noBarrier : o.kind.isBarrier = false := by
    cases kind : o.kind <;> simp_all [Kind.isData, Kind.isBarrier]
  unfold submit
  simp only [living, data, supported, make_eq_made lenient, noBarrier, Bool.not_true,
    Bool.and_false, Bool.false_eq_true, if_false]

/-- Behind a barrier, a data request waits. -/
theorem enter_behind (room : s.HasRoom) (barrier : s.barrier = true) (r : Request) :
    s.enter r = ({ s with queue := s.queue ++ [r.queued] } : Storage).reply (.done (.ok ())) := by
  have queued : s.enqueue r = .ok _ := enqueue_eq_ok_iff.mpr ⟨room, rfl⟩
  unfold enter
  simp only [barrier, true_or, if_true, queued]

/-- Where nothing is in its way, it runs at once. -/
theorem enter_free (barrier : s.barrier = false) (queue : s.queue = []) (r : Request) :
    s.enter r = s.push [.run r, .answer (.done (.ok ()))] := by
  simp [enter, barrier, queue]

/-- A data request owes something to an opening before it that has failed in place. -/
theorem afterOpening_free (barrier : s.barrier = false) (queue : s.queue = []) (r : Request) :
    s.afterOpening r (.ok ()) = s.push [.enter (s.owing r)] := by
  unfold afterOpening owing
  cases s.openError <;> by_cases opened : s.ready = .opened <;> simp [barrier, queue, opened]

/-- An opening that is still inside decides later. -/
theorem afterOpening_behind (barrier : s.barrier = true) (r : Request) :
    s.afterOpening r (.ok ()) = s.push [.enter r] := by
  simp [afterOpening, barrier]

/-- A request may be made before or after another one is wrapped up, if the allocator does not mind
the order. -/
theorem wrapUp_made (r : Request) (result : Except Error Nat) (o : Order)
    (swap : (s.allocator.allocateAll o.blocks).releaseAll (r.recorded result).returned =
      (s.allocator.releaseAll (r.recorded result).returned).allocateAll o.blocks) :
    (s.made o).2.wrapUp r result = ((s.wrapUp r result).made o).2 := by
  have framed := wrapUp_frame s r result s.stack s.draining s.outside s.queue (s.nextId + 1)
    (s.allocator.allocateAll o.blocks)
  rw [swap, wrapUp_eq s] at framed
  rw [wrapUp_eq s]
  exact framed

/-- Where one record is leased, a second one may be asked for before or after the first is given
back. -/
theorem Calm.swap {c : Order} (calm : s.Calm []) (first : c.payload = none)
    (second : o.payload = none) :
    ((s.made c).2.allocator.allocateAll o.blocks).releaseAll [Request.recordSize] =
      ((s.made c).2.allocator.releaseAll [Request.recordSize]).allocateAll o.blocks := by
  have record : c.blocks = [Request.recordSize] := by simp [Order.blocks, first]
  have another : o.blocks = [Request.recordSize] := by simp [Order.blocks, second]
  have granted (a : Allocator) (policy : a.policy = s.allocator.policy) (size : Nat) :
      a.grants size := calm.lenient a policy size
  have empty : s.allocator.bytesInUse = 0 := Nat.le_zero.mp calm.covered.bytes
  change ((s.allocator.allocateAll c.blocks).allocateAll o.blocks).releaseAll _ =
    ((s.allocator.allocateAll c.blocks).releaseAll _).allocateAll o.blocks
  rw [record, another]
  simp [Allocator.allocateAll, Allocator.releaseAll, Allocator.allocate, Allocator.ruling,
    Allocator.overflows, Allocator.release, granted, empty, Request.recordSize, Word.top]

/-- A storage once a barrier has been made and launched: it is as it was, but for the barrier that
is inside. -/
structure Occupied (s : Storage) (b : Request) (o : Order) (before : Storage) : Prop where
  inside : s.barrier = true
  held : s.owned = true
  ready : s.ready = before.ready
  limits : s.limits = before.limits
  lenient : s.allocator.policy.IsLenient
  allocator : s.allocator = (before.made o).2.allocator
  kind : b.kind = o.kind
  running : b.phase = .running
  leases : b.leases = o.blocks

theorem Calm.occupied {hand : List Request} (calm : s.Calm hand) (barrier : o.kind.isBarrier) :
    let launched := (s.made o).2.launch (s.made o).1
    launched.storage.Occupied launched.request o s := by
  intro launched
  have covered : (s.made o).2.allocator.Covers
      ((s.made o).1.leases ++ hand.flatMap Request.leases) := by
    simpa using calm.made.covered
  obtain ⟨a, last, n, same, -, -, kept⟩ := launch_of_lenient calm.made.lenient covered
  obtain ⟨-, -, -, -, follows, running⟩ := (s.made o).2.launch_cases (s.made o).1
  obtain ⟨rfl, leases⟩ := kept barrier
  have same : launched.storage = _ := same
  rw [same]
  exact {
    inside := by
      have kind : (s.made o).1.kind.isBarrier = true := barrier
      simp [count, kind]
    held := calm.owned
    ready := rfl
    limits := rfl
    lenient := calm.made.lenient
    allocator := rfl
    kind := follows.kind
    running := running
    leases := leases }

end Storage

namespace Session

variable {σ : Type}

/-- What is parked is finished, the oldest first, and that leads to another session. -/
inductive Finishes (w : Worker σ) : Session σ → Session σ → Prop
  | done {x : Session σ} (unparked : x.parked = []) : Finishes w x x
  | next {x y z : Session σ} {id : RequestId} {response : Response}
      {parked : List (RequestId × Response)} (oldest : x.parked = (id, response) :: parked)
      (goes : Reaches (tick w) ({ x with parked }.act (response.move id)) y)
      (halts : tick w y = none) (later : Finishes w (y.act .collect) z) : Finishes w x z

/-- The session goes on until a call has this answer; the answer is taken, what is parked is
finished, and that leads to another session. -/
def ComesTo (w : Worker σ) (x : Session σ) (reply : Reply) (z : Session σ) : Prop :=
  ∃ y, Reaches (tick w) x y ∧ tick w y = none ∧ y.storage.answer? = some reply ∧
    Finishes w (y.act .collect) z

/-- A request comes to its result in place or while its handler runs, or it is parked. -/
theorem atOnce_or_parked (w : Worker σ) (route : Storage.Route) :
    (w.pace = .prompt ∨ ∃ result, route = .finished result) ∨
      w.pace = .parking ∧ ∃ h, route = .handler h := by
  cases w.pace <;> cases route <;> simp

theorem parked_of_reaches {w : Worker σ} {x y : Session σ} (prompt : w.pace = .prompt)
    (goes : Reaches (tick w) x y) : y.parked = x.parked := by
  induction goes with
  | refl => rfl
  | tail _ next ih => exact (parked_tick prompt next).trans ih

theorem Finishes.eq {w : Worker σ} {x z : Session σ} (finishes : Finishes w x z)
    (unparked : x.parked = []) : x = z := by
  cases finishes with
  | done => rfl
  | next oldest => simp [unparked] at oldest

section ComesTo

variable {w : Worker σ} {x y z : Session σ} {r : Request} {reply : Reply}

theorem ComesTo.head (first : Reaches (tick w) x y) (comes : ComesTo w y reply z) :
    ComesTo w x reply z := by
  obtain ⟨v, later, halts, answer, finishes⟩ := comes
  exact ⟨v, reaches_trans first later, halts, answer, finishes⟩

/-- The only parked request is finished. -/
theorem Finishes.of_comesTo {id : RequestId} {response : Response}
    (only : x.parked = [(id, response)])
    (comes : ComesTo w ({ x with parked := [] }.act (response.move id)) .unit z) :
    Finishes w x z := by
  obtain ⟨y, goes, halts, -, later⟩ := comes
  exact .next only goes halts later

/-- The end of a call that leaves nothing parked. -/
theorem ComesTo.answered (unparked : x.parked = []) :
    ComesTo w (x.staged [.answer reply] false [] []) reply (x.staged [] false [] []) :=
  ⟨_, .refl, rfl, rfl, .done unparked⟩

theorem parked_perform (f : Responder σ) (x : Session σ) (r : Request) :
    (x.perform f r).parked = x.parked := by
  unfold perform
  dsimp only
  split <;> rfl

theorem park_eq {f : Responder σ} (unparked : x.parked = []) (h : Handler) (r : Request) :
    x.park f h r = { (x.ask f h r).2 with parked := [(r.id, (x.ask f h r).1)] } := by
  simp [park, unparked]

/-- A request that is parked alone is finished after the call. -/
theorem ComesTo.parked {h : Handler} (unparked : x.parked = []) (running : r.phase = .running)
    (owned : x.storage.owned = true) :
    ComesTo w ((x.park w.respond h r).staged [.answer reply] false [r] []) reply
      (((x.ask w.respond h r).2.wrapUp ((x.ask w.respond h r).1.apply r).1
        ((x.ask w.respond h r).1.apply r).2).staged [] false [] []) := by
  obtain ⟨storage, device, parked, seen⟩ := x
  obtain rfl : parked = [] := unparked
  refine ⟨_, .refl, rfl, rfl, .of_comesTo rfl ?_⟩
  have moved := act_move (ask w.respond ⟨storage, device, [], seen⟩ h r).2 r [] false []
    (ask w.respond ⟨storage, device, [], seen⟩ h r).1 running (.inl owned)
  refine .head ?_ (.answered rfl)
  exact moved ▸ reaches_wrapUp ..

/-- A request that nothing has to wait for is performed, whatever the pace of the device is. -/
theorem ComesTo.run {rest : List Task} {draining : Bool} (unparked : x.parked = [])
    (owned : x.storage.owned = true) (unwinds : ∀ (y : Session σ) (outside : List Request),
      Reaches (tick w) (y.staged rest draining outside [])
        (y.staged [.answer reply] false outside [])) :
    ComesTo w (x.staged (.run r :: rest) draining [] []) reply
      ((x.perform w.respond r).staged [] false [] []) := by
  obtain atOnce | ⟨parking, h, routed⟩ := atOnce_or_parked w (x.storage.launch r).route
  · exact .head (reaches_trans (reaches_perform x r rest draining atOnce) (unwinds _ _))
      (.answered ((parked_perform ..).trans unparked))
  · obtain ⟨a, last, n, launched, -, running⟩ := x.storage.launch_cases r
    have held : (x.storage.launch r).storage.owned = true := by rw [launched]; exact owned
    have ran := reaches_run_of_handler (w := w) x r rest draining [] [] routed
    have left := reaches_park (w := w) (x.onto (x.storage.launch r).storage)
      (x.storage.launch r).request rest draining [] (h := h) parking
    refine .head (reaches_trans ran (reaches_trans left (unwinds _ _))) ?_
    unfold perform
    simp only [routed]
    exact .parked unparked running held

/-- The queue's only request is started. -/
theorem reaches_start (rest : List Task) (outside : List Request)
    (living : x.storage.ready ≠ .destroyed) (barrier : x.storage.barrier = false)
    (pending : x.storage.pending = 0) :
    Reaches (tick w) (x.staged (.drain :: rest) false outside [r])
      (x.staged (.run r :: .drainNext :: rest) true outside []) := by
  have started : Reaches (tick w) (x.staged (.drain :: rest) false outside [r])
      (x.staged (.drainNext :: rest) true outside [r]) := reaches_step (s := x.storage) rfl
  refine reaches_trans started (reaches_step (s := x.storage) (congrArg some ?_))
  change (x.storage.staged rest true outside [r]).drainNext = _
  have startable : (x.storage.staged rest true outside [r]).startable? = some (r, []) := by
    simp [Storage.startable?, Storage.isDestroyed, Storage.staged, living, barrier, pending]
  unfold Storage.drainNext
  rw [startable]
  rfl

/-- A request that waits for a barrier that is parked is performed once the barrier has been
finished. -/
theorem ComesTo.behind {b q : Request} {response : Response} {hand : List Request}
    (unparked : x.parked = []) (running : b.phase = .running) (owned : x.storage.owned = true)
    (survives : b.kind ≠ .destroying)
    (ended : x.wrapUp (response.apply b).1 (response.apply b).2 = y) (calm : y.storage.Calm hand)
    (living : y.storage.ready ≠ .destroyed)
    (marked : ((response.apply b).1.recorded (response.apply b).2).fallout q = r) :
    ComesTo w ({ x with parked := [(b.id, response)] }.staged [.answer reply] false [b] [q]) reply
      ((y.perform w.respond r).staged [] false [] []) := by
  obtain ⟨storage, device, parked, seen⟩ := x
  obtain rfl : parked = [] := unparked
  subst ended marked
  refine ⟨_, .refl, rfl, rfl, .of_comesTo rfl ?_⟩
  have moved := act_move ⟨storage, device, [], seen⟩ b [] false [q] response running (.inl owned)
  have ordinary : ¬ ((response.apply b).1.recorded (response.apply b).2).Razes := fun razes =>
    survives (by simpa using razes.1)
  have piped := reaches_pipeline (w := w) ⟨storage, device, [], seen⟩ (response.apply b).1
    [.answer .unit] false [] [q] (response.apply b).2 fun razes => absurd razes ordinary
  have pending : (storage.wrapUp (response.apply b).1 (response.apply b).2).pending = 0 :=
    calm.pending
  rw [if_pos pending] at piped
  have started := reaches_start (w := w) (r := ((response.apply b).1.recorded
    (response.apply b).2).fallout q) [.answer .unit] [] living calm.barrier calm.pending
  refine .head (moved ▸ reaches_trans piped started) (.run rfl calm.owned fun y outside => ?_)
  exact reaches_drainNext y _ outside [] (.inr rfl)

end ComesTo

section Calls

variable {w : Worker σ} {x : Session σ} {hand : List Request} {o : Order}

/-- A barrier on a calm storage is started at once. -/
theorem reaches_barrier_start (rest : List Task) (calm : x.storage.Calm hand)
    (living : x.storage.ready ≠ .destroyed) (barrier : o.kind.isBarrier) :
    Reaches (tick w) (x.staged (.submit o :: rest) false [] [])
      ((x.onto (x.storage.made o).2).staged
        (.run (x.storage.made o).1.queued :: .drainNext :: .answer (.done (.ok ())) :: rest)
        true [] []) := by
  have submitted : Reaches (tick w) (x.staged (.submit o :: rest) false [] [])
      ((x.onto (x.storage.made o).2).staged (.drain :: .answer (.done (.ok ())) :: rest) false []
        [(x.storage.made o).1.queued]) :=
    reaches_step (congrArg some (Storage.submit_barrier (s := x.storage.staged rest false [] [])
      calm.lenient ⟨living, calm.roomy⟩ barrier))
  exact reaches_trans submitted (reaches_start _ _ living calm.barrier calm.pending)

/-- A barrier that the device does not park. -/
theorem reaches_barrier (rest : List Task) (calm : x.storage.Calm hand)
    (living : x.storage.ready ≠ .destroyed) (barrier : o.kind.isBarrier)
    (atOnce : w.pace = .prompt ∨ ∃ result,
      ((x.storage.made o).2.launch (x.storage.made o).1).route = .finished result) :
    Reaches (tick w) (x.staged (.submit o :: rest) false [] [])
      ((x.carry w.respond o).staged (.answer (.done (.ok ())) :: rest) false [] []) := by
  refine reaches_trans (reaches_barrier_start rest calm living barrier) (reaches_trans
    (reaches_perform _ _ _ true atOnce) ?_)
  exact reaches_drainNext _ _ [] [] (.inr rfl)

/-- A barrier that the device parks. -/
theorem reaches_barrier_parked {h : Handler} (rest : List Task) (calm : x.storage.Calm hand)
    (living : x.storage.ready ≠ .destroyed) (barrier : o.kind.isBarrier)
    (parking : w.pace = .parking)
    (routed : ((x.storage.made o).2.launch (x.storage.made o).1).route = .handler h) :
    let launched := (x.storage.made o).2.launch (x.storage.made o).1
    Reaches (tick w) (x.staged (.submit o :: rest) false [] [])
      (((x.onto launched.storage).park w.respond h launched.request).staged
        (.answer (.done (.ok ())) :: rest) false [launched.request] []) := by
  intro launched
  have inside : launched.storage.barrier = true := by
    obtain ⟨a, last, n, same, -⟩ := (x.storage.made o).2.launch_cases (x.storage.made o).1
    have kind : (x.storage.made o).1.kind.isBarrier = true := barrier
    simp [launched, same, Storage.count, kind]
  have ran := reaches_run_of_handler (w := w) (x.onto (x.storage.made o).2)
    (x.storage.made o).1.queued (.drainNext :: .answer (.done (.ok ())) :: rest) true [] [] routed
  have left := reaches_park (w := w) (x.onto launched.storage) launched.request
    (.drainNext :: .answer (.done (.ok ())) :: rest) true [] (h := h) parking
  refine reaches_trans (reaches_barrier_start rest calm living barrier) (reaches_trans ran
    (reaches_trans left ?_))
  exact reaches_drainNext _ _ _ [] (.inl inside)

/-- A barrier that is called alone. -/
theorem comesTo_barrier (unparked : x.parked = []) (calm : x.storage.Calm hand)
    (living : x.storage.ready ≠ .destroyed) (barrier : o.kind.isBarrier) :
    ComesTo w (x.staged [.submit o] false [] []) (.done (.ok ()))
      ((x.carry w.respond o).staged [] false [] []) :=
  .head (reaches_barrier_start [] calm living barrier) <|
    .run unparked calm.owned fun y outside => reaches_drainNext y _ outside [] (.inr rfl)

/-- A data request that no barrier is in the way of. -/
theorem comesTo_enter {r : Request} (unparked : x.parked = []) (calm : x.storage.Calm hand) :
    ComesTo w (x.staged [.enter r] false [] []) (.done (.ok ()))
      ((x.perform w.respond r).staged [] false [] []) := by
  have entered : Reaches (tick w) (x.staged [.enter r] false [] [])
      (x.staged [.run r, .answer (.done (.ok ()))] false [] []) :=
    reaches_step (s := x.storage) (congrArg some (Storage.enter_free
      (s := x.storage.staged [] false [] []) calm.barrier rfl r))
  exact .head entered (.run unparked calm.owned fun _ _ => .refl)

end Calls

section Data

variable {w : Worker σ} {x : Session σ} {hand : List Request} {o : Order}

theorem living_perform (f : Responder σ) {r : Request} (survives : r.kind ≠ .destroying)
    (living : x.storage.ready ≠ .destroyed) : (x.perform f r).storage.ready ≠ .destroyed := by
  obtain ⟨a, last, n, launched, follows, -⟩ := x.storage.launch_cases r
  have kept (r' : Request) (kind : r'.kind = r.kind) (result : Except Error Nat) :
      ((x.storage.launch r).storage.wrapUp r' result).ready ≠ .destroyed := by
    rw [launched, Storage.wrapUp_eq]
    intro dead
    obtain before | ends := (Storage.transition_ready _ _).mp dead
    · exact living before
    · exact survives (by simpa [kind] using ends.1)
  unfold perform
  dsimp only
  split
  · exact kept _ follows.kind _
  · exact kept _ (by simpa using follows.kind) _

theorem living_carry (f : Responder σ) (survives : o.kind ≠ .destroying)
    (living : x.storage.ready ≠ .destroyed) : (x.carry f o).storage.ready ≠ .destroyed :=
  living_perform f (x := x.onto (x.storage.made o).2) survives living

theorem carry_of_handler {f : Responder σ} {h : Handler}
    (routed : ((x.storage.made o).2.launch (x.storage.made o).1).route = .handler h) :
    let launched := (x.storage.made o).2.launch (x.storage.made o).1
    let y := (x.onto launched.storage).ask f h launched.request
    x.carry f o = y.2.wrapUp (y.1.apply launched.request).1 (y.1.apply launched.request).2 := by
  unfold carry perform
  simp only [storage_onto, routed]
  rfl

/-- What waits for an opening is marked as a request that comes after it is. -/
theorem fallout_eq_owing {s : Storage} {b : Request} (opening : b.kind = .opening)
    (unopened : s.ready ≠ .opened) (living : s.ready ≠ .destroyed) (result : Except Error Nat)
    (r : Request) : (b.recorded result).fallout r = (s.wrapUp b result).owing r := by
  have kind : (b.recorded result).kind = .opening := by simpa using opening
  rw [Storage.wrapUp_eq]
  unfold Request.fallout Storage.owing Storage.transition
  cases error : (b.recorded result).error <;> simp [opening, unopened, living]

theorem owing_queued (s : Storage) (r : Request) : s.owing r.queued = (s.owing r).queued := by
  unfold Storage.owing
  cases s.openError with
  | none => rfl
  | some e =>
    by_cases opened : s.ready = .opened
    · simp only [opened, if_true]
    · simp only [opened, if_false]
      rfl

/-- A data request that waits for an opening that the device parks. -/
theorem comesTo_behind_opening {r : Request} {h : Handler} (unparked : x.parked = [])
    (calm : x.storage.Calm (r :: hand)) (living : x.storage.ready ≠ .destroyed)
    (unopened : x.storage.ready ≠ .opened) (parking : w.pace = .parking)
    (routed : ((x.storage.made { kind := .opening }).2.launch
      (x.storage.made { kind := .opening }).1).route = .handler h) :
    let z := x.carry w.respond { kind := .opening }
    ComesTo w (x.staged [.submit { kind := .opening }, .awaitOpening r] false [] [])
      (.done (.ok ())) ((z.perform w.respond (z.storage.owing r)).staged [] false [] []) := by
  intro z
  let launched :=
    (x.storage.made { kind := .opening }).2.launch (x.storage.made { kind := .opening }).1
  let b := launched.request
  let v := x.onto launched.storage
  let response := (v.ask w.respond h b).1
  have occupied : launched.storage.Occupied b { kind := .opening } x.storage := calm.occupied rfl
  -- The opening is parked, and the request joins the queue.
  have carried := reaches_barrier_parked [.awaitOpening r] calm living rfl parking routed
  have resumed : Reaches (tick w)
      ((v.park w.respond h b).staged [.answer (.done (.ok ())), .awaitOpening r] false [b] [])
      ((v.park w.respond h b).staged [.enter r] false [b] []) :=
    reaches_step (s := launched.storage) (congrArg some (Storage.afterOpening_behind
      (s := launched.storage.staged [] false [b] []) occupied.inside r))
  have room : (launched.storage.staged [] false [b] []).HasRoom :=
    ⟨occupied.ready ▸ living, occupied.limits ▸ calm.roomy⟩
  have entered : Reaches (tick w) ((v.park w.respond h b).staged [.enter r] false [b] [])
      ((v.park w.respond h b).staged [.answer (.done (.ok ()))] false [b] [r.queued]) :=
    reaches_step (s := launched.storage)
      (congrArg some (Storage.enter_behind room occupied.inside r))
  refine .head (reaches_trans carried (reaches_trans resumed entered)) ?_
  -- The end of the opening marks it, if the opening has failed.
  have ended : z = (v.ask w.respond h b).2.wrapUp (response.apply b).1 (response.apply b).2 :=
    carry_of_handler routed
  have marked : ((response.apply b).1.recorded (response.apply b).2).fallout r.queued =
      (z.storage.owing r).queued := by
    rw [ended, ← owing_queued]
    exact fallout_eq_owing (by simpa using occupied.kind) (occupied.ready ▸ unopened)
      (occupied.ready ▸ living) _ _
  rw [park_eq (f := w.respond) (x := v) unparked h b]
  exact .behind (b := b) (r := (z.storage.owing r).queued) unparked occupied.running occupied.held
    (by simp [occupied.kind]) ended.symm (calm_carry w.respond calm _)
    (living_carry _ (by simp) living) marked

/-- A data request that comes after an opening. -/
theorem comesTo_after_opening {r : Request} (unparked : x.parked = [])
    (calm : x.storage.Calm (r :: hand)) (living : x.storage.ready ≠ .destroyed)
    (unopened : x.storage.ready ≠ .opened) :
    let z := x.carry w.respond { kind := .opening }
    ComesTo w (x.staged [.submit { kind := .opening }, .awaitOpening r] false [] [])
      (.done (.ok ())) ((z.perform w.respond (z.storage.owing r)).staged [] false [] []) := by
  intro z
  have opened : z.storage.Calm (r :: hand) := calm_carry w.respond calm _
  obtain atOnce | ⟨parking, h, routed⟩ := atOnce_or_parked w
    ((x.storage.made { kind := .opening }).2.launch (x.storage.made { kind := .opening }).1).route
  · have carried :=
      reaches_barrier [.awaitOpening r] calm living (o := { kind := .opening }) rfl atOnce
    have resumed : Reaches (tick w)
        (z.staged [.answer (.done (.ok ())), .awaitOpening r] false [] [])
        (z.staged [.enter (z.storage.owing r)] false [] []) :=
      reaches_step (s := z.storage) (congrArg some (Storage.afterOpening_free
        (s := z.storage.staged [] false [] []) opened.barrier rfl r))
    exact .head (reaches_trans carried resumed)
      (comesTo_enter ((parked_perform ..).trans unparked) opened)
  · exact comesTo_behind_opening unparked calm living unopened parking routed

/-- A data request, with the opening that it needs. -/
theorem comesTo_data (unparked : x.parked = []) (calm : x.storage.Calm hand)
    (living : x.storage.ready ≠ .destroyed) (data : o.kind.isData)
    (supported : x.storage.capabilities.supports o.kind) :
    ComesTo w (x.staged [.submit o] false [] []) (.done (.ok ()))
      ((x.carryData w.respond o).staged [] false [] []) := by
  let r := (x.storage.made o).1
  let y := x.onto (x.storage.made o).2
  have submitted := Storage.submit_data (s := x.storage.staged [] false [] []) calm.lenient living
    data supported
  unfold carryData
  by_cases needed : x.storage.needsOpen ∧ x.storage.ready ≠ .opened
  · have admitted : Reaches (tick w) (x.staged [.submit o] false [] [])
        (y.staged [.submit { kind := .opening }, .awaitOpening r] false [] []) :=
      reaches_step (congrArg some (submitted.trans (if_pos needed)))
    rw [if_pos needed]
    exact .head admitted (comesTo_after_opening unparked calm.made living needed.2)
  · have entered : Reaches (tick w) (x.staged [.submit o] false [] [])
        (y.staged [.enter r] false [] []) :=
      reaches_step (congrArg some (submitted.trans (if_neg needed)))
    rw [if_neg needed]
    exact .head entered (comesTo_enter unparked calm.made)

end Data

section Destroying

variable {w : Worker σ} {x : Session σ} {o : Order}

/-- A destruction that waits for a closing that the device parks. -/
theorem comesTo_behind_closing {h : Handler} (unparked : x.parked = [])
    (calm : x.storage.Calm []) (living : x.storage.ready ≠ .destroyed) (barrier : o.kind.isBarrier)
    (bare : o.payload = none) (parking : w.pace = .parking)
    (routed : ((x.storage.made { kind := .closing }).2.launch
      (x.storage.made { kind := .closing }).1).route = .handler h) :
    ComesTo w (x.staged [.submit { kind := .closing }, .awaitClosing o] false [] [])
      (.done (.ok ()))
      (((x.carry w.respond { kind := .closing }).carry w.respond o).staged [] false [] []) := by
  let c : Order := { kind := .closing }
  let z := x.carry w.respond c
  let launched := (x.storage.made c).2.launch (x.storage.made c).1
  let b := launched.request
  let v := x.onto launched.storage
  let q := (launched.storage.made o).1
  let u := (v.ask w.respond h b).2.onto (launched.storage.made o).2
  let response := (v.ask w.respond h b).1
  have occupied : launched.storage.Occupied b c x.storage := calm.occupied rfl
  -- The closing is parked, and the destruction joins the queue.
  have carried := reaches_barrier_parked [.awaitClosing o] calm living rfl parking routed
  have resumed : Reaches (tick w)
      ((v.park w.respond h b).staged [.answer (.done (.ok ())), .awaitClosing o] false [b] [])
      ((v.park w.respond h b).staged [.submit o] false [b] []) :=
    reaches_step (s := launched.storage) rfl
  have room : (launched.storage.staged [] false [b] []).HasRoom :=
    ⟨occupied.ready ▸ living, occupied.limits ▸ calm.roomy⟩
  have submitted : Reaches (tick w) ((v.park w.respond h b).staged [.submit o] false [b] [])
      (((v.park w.respond h b).onto (launched.storage.made o).2).staged
        [.drain, .answer (.done (.ok ()))] false [b] [q.queued]) :=
    reaches_step (s := (launched.storage.made o).2) (congrArg some (Storage.submit_barrier
      (s := launched.storage.staged [] false [b] []) occupied.lenient room barrier))
  have blocked := reaches_drain (w := w) ((v.park w.respond h b).onto (launched.storage.made o).2)
    [.answer (.done (.ok ()))] [b] [q.queued] false (.inr (.inl occupied.inside))
  refine .head (reaches_trans carried (reaches_trans resumed (reaches_trans submitted blocked))) ?_
  -- The destruction has been made before the end of the closing, and not after it.
  have ended : z = (v.ask w.respond h b).2.wrapUp (response.apply b).1 (response.apply b).2 :=
    carry_of_handler routed
  have returned : ((response.apply b).1.recorded (response.apply b).2).returned =
      [Request.recordSize] := by
    simp [Request.returned, occupied.kind, occupied.leases, c, Order.blocks]
  have made : (launched.storage.made o).2.wrapUp (response.apply b).1 (response.apply b).2 =
      ((launched.storage.wrapUp (response.apply b).1 (response.apply b).2).made o).2 := by
    refine Storage.wrapUp_made _ _ _ ?_
    rw [returned, occupied.allocator]
    exact calm.swap rfl bare
  have wrapped : u.wrapUp (response.apply b).1 (response.apply b).2 =
      z.onto (z.storage.made o).2 := by
    rw [ended]
    exact congrArg (fun s => ((v.ask w.respond h b).2.onto s).sees _) made
  have numbered : (z.storage.made o).1 = q := by
    rw [ended, storage_wrapUp, Storage.wrapUp_eq]
    rfl
  have unmarked : ((response.apply b).1.recorded (response.apply b).2).fallout q.queued =
      q.queued := by
    simp [Request.fallout, occupied.kind, c]
  have closed : z.storage.Calm [] := calm_carry w.respond calm c
  have last : z.carry w.respond o = (z.onto (z.storage.made o).2).perform w.respond q.queued := by
    unfold carry
    rw [numbered]
    rfl
  change ComesTo w _ _ ((z.carry w.respond o).staged [] false [] [])
  rw [last, park_eq (f := w.respond) (x := v) unparked h b]
  exact .behind (x := u) (b := b) unparked occupied.running occupied.held
    (by simp [occupied.kind, c]) wrapped closed.made (living_carry _ (by simp [c]) living) unmarked

/-- A destruction comes after a closing. -/
theorem comesTo_destroy (unparked : x.parked = []) (calm : x.storage.Calm [])
    (living : x.storage.ready ≠ .destroyed) (barrier : o.kind.isBarrier) (bare : o.payload = none) :
    ComesTo w (x.staged [.submit { kind := .closing }, .awaitClosing o] false [] [])
      (.done (.ok ()))
      (((x.carry w.respond { kind := .closing }).carry w.respond o).staged [] false [] []) := by
  let z := x.carry w.respond { kind := .closing }
  have closed : z.storage.Calm [] := calm_carry w.respond calm _
  have alive : z.storage.ready ≠ .destroyed := living_carry _ (by simp) living
  obtain atOnce | ⟨parking, h, routed⟩ := atOnce_or_parked w
    ((x.storage.made { kind := .closing }).2.launch (x.storage.made { kind := .closing }).1).route
  · have carried :=
      reaches_barrier [.awaitClosing o] calm living (o := { kind := .closing }) rfl atOnce
    have resumed : Reaches (tick w)
        (z.staged [.answer (.done (.ok ())), .awaitClosing o] false [] [])
        (z.staged [.submit o] false [] []) := reaches_step (s := z.storage) rfl
    exact .head (reaches_trans carried resumed)
      (comesTo_barrier ((parked_perform ..).trans unparked) closed alive barrier)
  · exact comesTo_behind_closing unparked calm living barrier bare parking routed

end Destroying

section Answered

variable {w : Worker σ} {x : Session σ} {op : Operation} {client : Client}

theorem staged_eq {hand : List Request} (calm : x.storage.Calm hand) :
    x.staged [] false [] [] = x :=
  congrArg x.onto calm.staged_eq

/-- A call that has come to its end. -/
theorem comesTo_self {reply : Reply} (unparked : x.parked = []) (calm : x.storage.Calm []) :
    ComesTo w (x.staged [.answer reply] false [] []) reply x := by
  have answered : ComesTo w _ reply _ := .answered unparked
  rwa [staged_eq calm] at answered

/-- A call that is refused. -/
theorem reaches_refused {o : Order} {e : Error} (rest : List Task)
    (refused : (x.storage.staged rest false [] []).submit o =
      (x.storage.staged rest false [] []).reply (.done (.error e))) :
    Reaches (tick w) (x.staged (.submit o :: rest) false [] [])
      (x.staged (.answer (.done (.error e)) :: rest) false [] []) :=
  reaches_step (s := x.storage) (congrArg some refused)

theorem submit_of_destroyed {s : Storage} (dead : s.isDestroyed) (o : Order) :
    s.submit o = s.reply (.done (.error .fault)) := by
  simp [Storage.submit, dead]

theorem submit_of_unsupported {s : Storage} {o : Order} (living : ¬ s.isDestroyed)
    (data : o.kind.isData) (unsupported : ¬ s.capabilities.supports o.kind) :
    s.submit o = s.reply (.done (.error (.unsupported o.kind))) := by
  simp [Storage.submit, living, data, unsupported]

/-- An opening of a storage that is settled open is answered at once. -/
theorem comesTo_settled (unparked : x.parked = []) (calm : x.storage.Calm [])
    (settled : x.storage.isOpenSettled) (code : Callback) :
    ComesTo w (x.act (.call .opening (some (.call code)) none)) (.done (.ok ()))
      (x.sees [.called (.done code (.ok .unit))]) := by
  have called : x.act (.call .opening (some (.call code)) none) =
      x.staged [.client (.done code (.ok .unit)), .answer (.done (.ok ()))] false [] [] := by
    refine congrArg x.onto ?_
    have at_once : x.storage.call .opening (some (.call code)) none =
        x.storage.push [.client (.done code (.ok .unit)), .answer (.done (.ok ()))] :=
      if_pos ⟨rfl, settled⟩
    exact at_once.trans (calm.push_eq _)
  rw [called]
  exact .head (reaches_called x _ false [] [] nofun) (comesTo_self unparked calm)

/-- Other calls submit an order; a destruction submits two. -/
theorem act_call (calm : x.storage.Calm []) (asking : ¬ (op = .opening ∧ client.observer = none ∧
      x.storage.isOpenSettled)) :
    let order := op.order (some (.call client.code)) client.observer
    x.act (.call op (some (.call client.code)) client.observer) =
      x.staged (if op = .destroying then [.submit { kind := .closing }, .awaitClosing order]
        else [.submit order]) false [] [] := by
  intro order
  refine congrArg x.onto (Eq.trans ?_ (calm.push_eq _))
  cases op with
  | opening => exact if_neg fun settled => asking ⟨rfl, settled⟩
  | _ => rfl

/-- What a call comes to, whatever the pace of the device is. -/
theorem comesTo_answered (unparked : x.parked = []) (calm : x.storage.Calm []) (op : Operation)
    (client : Client) :
    ComesTo w (x.act (.call op (some (.call client.code)) client.observer))
      (.done (x.answered w.respond op client).1) (x.answered w.respond op client).2 := by
  unfold answered
  by_cases settled : op = .opening ∧ client.observer = none ∧ x.storage.isOpenSettled
  · rw [if_pos settled]
    obtain ⟨rfl, bare, settled⟩ := settled
    rw [bare]
    exact comesTo_settled unparked calm settled client.code
  rw [if_neg settled, act_call calm settled]
  let order := op.order (some (.call client.code)) client.observer
  by_cases dead : x.storage.isDestroyed
  · rw [if_pos dead]
    have refused (o : Order) (rest : List Task) := reaches_refused (w := w) rest
      (submit_of_destroyed (s := x.storage.staged rest false [] []) dead o)
    split
    · have ended : Reaches (tick w)
          (x.staged [.answer (.done (.error .fault)), .awaitClosing order] false [] [])
          (x.staged [.answer (.done (.error .fault))] false [] []) :=
        reaches_step (s := x.storage) rfl
      exact .head (reaches_trans (refused _ _) ended) (comesTo_self unparked calm)
    · exact .head (refused _ _) (comesTo_self unparked calm)
  rw [if_neg dead]
  have living : x.storage.ready ≠ .destroyed := by simpa [Storage.isDestroyed] using dead
  by_cases destroying : op = .destroying
  · subst destroying
    have comes := comesTo_destroy (w := w) unparked calm living (o := order) rfl rfl
    rwa [staged_eq (calm_carry _ (calm_carry _ calm _) _)] at comes
  rw [if_neg destroying]
  by_cases data : order.kind.isData
  · rw [if_pos data]
    by_cases supported : x.storage.capabilities.supports order.kind
    · rw [if_pos supported]
      have comes := comesTo_data (w := w) unparked calm living data supported
      rwa [staged_eq (calm_carryData _ calm _)] at comes
    · rw [if_neg supported]
      exact .head (reaches_refused [] (submit_of_unsupported (s := x.storage.staged [] false [] [])
        dead data supported)) (comesTo_self unparked calm)
  · rw [if_neg data, if_neg destroying]
    have barrier : order.kind.isBarrier := by
      cases op <;> first | rfl | exact absurd rfl data
    have comes := comesTo_barrier (w := w) unparked calm living barrier
    rwa [staged_eq (calm_carry _ calm _)] at comes

end Answered

section Fuel

variable {w : Worker σ} {x y z : Session σ}

/-- Enough fuel goes on to where the steps lead. -/
theorem goOn_of_reaches (goes : Reaches (tick w) x y) (halts : tick w y = none) :
    ∃ n, ∀ fuel ≥ n, x.goOn w fuel = y := by
  induction goes using Relation.ReflTransGen.head_induction_on with
  | refl =>
    refine ⟨0, fun fuel _ => ?_⟩
    cases fuel <;> simp [goOn, halts]
  | head first _ ih =>
    obtain ⟨n, later⟩ := ih
    refine ⟨n + 1, fun fuel enough => ?_⟩
    obtain ⟨fuel, rfl⟩ : ∃ m, fuel = m + 1 := ⟨fuel - 1, by omega⟩
    have first : tick w _ = some _ := first
    simp only [goOn, first]
    exact later fuel (by omega)

theorem finish_of_finishes (finishes : Finishes w x z) :
    ∃ n, ∀ fuel ≥ n, ∀ rounds ≥ n, x.finish w fuel rounds = z := by
  induction finishes with
  | done unparked =>
    refine ⟨0, fun fuel _ rounds _ => ?_⟩
    cases rounds <;> simp [finish, unparked]
  | next oldest goes halts _ ih =>
    obtain ⟨n, goes⟩ := goOn_of_reaches goes halts
    obtain ⟨m, later⟩ := ih
    refine ⟨max n m + 1, fun fuel enough rounds enough' => ?_⟩
    obtain ⟨rounds, rfl⟩ : ∃ m, rounds = m + 1 := ⟨rounds - 1, by omega⟩
    simp only [finish, oldest]
    rw [goes fuel (by omega)]
    exact later fuel (by omega) rounds (by omega)

/-- The report of a call, as it is bound to be, and the session after it. -/
def reported (f : Responder σ) (x : Session σ) (op : Operation) (client : Client) :
    Report × Session σ :=
  let ended := x.answered f op client
  (⟨some (.done ended.1), ended.2.seen, ended.2.storage⟩, ended.2)

/-- A call with enough fuel. -/
theorem call_eq (unparked : x.parked = []) (calm : x.storage.Calm []) (op : Operation)
    (client : Client) : ∃ n, ∀ fuel ≥ n,
      x.call w fuel op client = { x with seen := [] }.reported w.respond op client := by
  obtain ⟨y, goes, halts, answer, finishes⟩ :=
    comesTo_answered (w := w) (x := { x with seen := [] }) unparked calm op client
  obtain ⟨n, goes⟩ := goOn_of_reaches goes halts
  obtain ⟨m, finishes⟩ := finish_of_finishes finishes
  refine ⟨max n m, fun fuel enough => ?_⟩
  unfold call reported
  dsimp only
  rw [goes fuel (by omega), finishes fuel (by omega) fuel (by omega), answer]

theorem parked_answered (f : Responder σ) (x : Session σ) (op : Operation) (client : Client) :
    (x.answered f op client).2.parked = x.parked := by
  have carried (x : Session σ) (o : Order) : (x.carry f o).parked = x.parked :=
    parked_perform ..
  unfold answered
  dsimp only
  repeat' split
  · rfl
  · rfl
  · unfold carryData
    dsimp only
    split
    · exact (parked_perform ..).trans (carried ..)
    · exact parked_perform ..
  · rfl
  · exact (carried ..).trans (carried ..)
  · exact carried ..

/-- The reports of some calls, as they are bound to be. -/
def foreseen (f : Responder σ) (x : Session σ) : List (Operation × Client) → List Report
  | [] => []
  | (op, client) :: calls =>
    let ended := { x with seen := [] }.reported f op client
    ended.1 :: foreseen f ended.2 calls

/-- A whole session with enough fuel. -/
theorem play_eq (unparked : x.parked = []) (calm : x.storage.Calm [])
    (calls : List (Operation × Client)) :
    ∃ n, ∀ fuel ≥ n, x.play w fuel calls = x.foreseen w.respond calls := by
  induction calls generalizing x with
  | nil => exact ⟨0, fun _ _ => rfl⟩
  | cons call calls ih =>
    obtain ⟨op, client⟩ := call
    obtain ⟨n, called⟩ := call_eq (w := w) unparked calm op client
    have unparked' := (parked_answered w.respond { x with seen := [] } op client).trans unparked
    have calm' := calm_answered (x := { x with seen := [] }) w.respond calm op client
    obtain ⟨m, later⟩ := ih unparked' calm'
    refine ⟨max n m, fun fuel enough => ?_⟩
    have called := called fuel (by omega)
    have later := later fuel (by omega)
    unfold play foreseen
    rw [called]
    exact congrArg (List.cons _) later

/-- After every call the storage is calm. -/
theorem calm_of_mem_foreseen {f : Responder σ} (calm : x.storage.Calm [])
    {calls : List (Operation × Client)} {report : Report} (mem : report ∈ x.foreseen f calls) :
    report.storage.Calm [] ∧ ∃ result, report.answer = some (.done result) := by
  induction calls generalizing x with
  | nil => simp [foreseen] at mem
  | cons call calls ih =>
    have after := calm_answered (x := { x with seen := [] }) f calm call.1 call.2
    obtain rfl | mem := List.mem_cons.mp mem
    · exact ⟨after, _, rfl⟩
    · exact ih after mem

end Fuel

end Session

namespace Storage

theorem calm_create {capabilities : Capabilities} {limits : Limits} {policy : AllocatorPolicy}
    {emitter : Emitter} (valid : limits.validate = .ok ()) (lenient : policy.IsLenient) :
    ({ create capabilities limits { policy } with emitter } : Storage).Calm [] where
  stack := rfl
  draining := rfl
  outside := rfl
  queue := rfl
  pending := rfl
  barrier := rfl
  owned := rfl
  lenient := lenient
  roomy := ((Limits.validate_eq_ok_iff limits).mp valid).1
  covered := ⟨rfl, Nat.le_refl 0⟩

end Storage

section Deferral

variable {σ : Type} {limits : Limits} {policy : AllocatorPolicy}

/-- Immediate and deferred completion agree.  Whatever a storage and its device offer, however the
device responds, whoever listens and whatever is called: if nothing is refused and nothing calls
back, then a device that ends each request while its handler runs and one that parks it until the
call has returned lead to the same reports, and with enough fuel these are complete.  A report holds
the answer of a call, the requests that the handlers were given and the client code that was called,
in order, and the storage, which is left with nothing to do. -/
theorem Session.prompt_eq_parking (valid : limits.validate = .ok ()) (lenient : policy.IsLenient)
    (capabilities : Capabilities) (emitter : Emitter) (respond : Responder σ) (device : σ)
    (calls : List (Operation × Client)) :
    let start : Session σ :=
      { storage := { Storage.create capabilities limits { policy } with emitter }, device }
    ∃ n, ∀ fuel ≥ n,
      start.play ⟨.prompt, respond⟩ fuel calls = start.play ⟨.parking, respond⟩ fuel calls ∧
      ∀ report ∈ start.play ⟨.prompt, respond⟩ fuel calls,
        (∃ result, report.answer = some (.done result)) ∧ report.storage.pending = 0 ∧
        report.storage.queue = [] ∧ report.storage.outside = [] ∧ report.storage.stack = [] := by
  intro start
  have calm : start.storage.Calm [] := Storage.calm_create valid lenient
  obtain ⟨n, prompt⟩ := play_eq (w := ⟨.prompt, respond⟩) (x := start) rfl calm calls
  obtain ⟨m, parking⟩ := play_eq (w := ⟨.parking, respond⟩) (x := start) rfl calm calls
  refine ⟨max n m, fun fuel enough => ?_⟩
  rw [prompt fuel (by omega), parking fuel (by omega)]
  refine ⟨rfl, fun report mem => ?_⟩
  obtain ⟨calm, answered⟩ := calm_of_mem_foreseen calm mem
  exact ⟨answered, calm.pending, calm.queue, calm.outside, calm.stack⟩

/-- A read with the opening that it needs, and a destruction: the opening succeeds, the device lets
go of the read, and the closing fails. -/
theorem Session.prompt_eq_parking_read :
    let respond : Responder (List Response) := fun script _ _ =>
      (script.headD .dropped, script.tail)
    let script : List Response := [.verdict { result := .ok none }, .dropped,
      .verdict { result := .error .fault }, .verdict { result := .ok none }]
    let start : Session (List Response) :=
      { storage := { Storage.create .readWrite {} { policy := .unlimited } with
          emitter := { capacity := 1 } }, device := script }
    let calls : List (Operation × Client) :=
      [(.read 0 4, ⟨1, none⟩), (.destroying, ⟨2, some ⟨3, "shared"⟩⟩)]
    ({} : Limits).validate = .ok () ∧ AllocatorPolicy.unlimited.IsLenient ∧ ∃ n, ∀ fuel ≥ n,
      start.play ⟨.prompt, respond⟩ fuel calls = start.play ⟨.parking, respond⟩ fuel calls ∧
      ∀ report ∈ start.play ⟨.prompt, respond⟩ fuel calls,
        (∃ result, report.answer = some (.done result)) ∧ report.storage.pending = 0 ∧
        report.storage.queue = [] ∧ report.storage.outside = [] ∧ report.storage.stack = [] :=
  ⟨by decide, AllocatorPolicy.isLenient_unlimited,
    prompt_eq_parking (by decide) AllocatorPolicy.isLenient_unlimited ..⟩

end Deferral

end StorageEngine
