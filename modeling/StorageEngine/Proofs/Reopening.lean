import StorageEngine.Proofs.CompletionOrder
import StorageEngine.Proofs.Effort
import StorageEngine.Proofs.Lifecycle

/-!
# Opening a storage that is open

A storage that is open, with nothing waiting and no barrier inside the device, answers a plain
opening at once.  With a hook the opening takes the long way: its request is made and queued, waits
for the data requests inside the device, and comes to its success without a handler.  Once the
device has finished what it was given, the two ways have led to the same storage, but for the number
and the block of that request, the record of the last one, and the calls that listeners have heard.

* `Run.recalls` — the error of an opening is forgotten when another one succeeds;
* `Run.settledOpen` — what is known of a storage that is open with nothing in the way;
* `callOpening_plain`, `finishAll_plain` — the short way, and what the device does after it;
* `reaches_asked`, `reaches_reopened` — the beginning and the end of the long one;
* `callOpening_hooked`, `detoured_eq` — all of it, and where it leads;
* `callOpening_agree` — both.
-/

namespace StorageEngine

open StateTransition

namespace Allocator

/-- The allocator when one more block was leased and given back; its byte counter says so many, and
the lease may have overflowed it. -/
def detoured (a : Allocator) (bytes : Nat) (overflows : Bool) : Allocator :=
  { a with
    calls := a.calls + 1
    allocCount := a.allocCount + 1
    freeCount := a.freeCount + 1
    bytesInUse := bytes
    overflowed := a.overflowed || overflows }

variable {a : Allocator} {size : Nat} {sizes : List Nat}

theorem releaseAll_eq (a : Allocator) (sizes : List Nat) : a.releaseAll sizes = { a with
    freeCount := a.freeCount + sizes.length
    bytesInUse := a.bytesInUse - sizes.sum } := by
  induction sizes generalizing a with
  | nil => rfl
  | cons size sizes ih =>
    refine (ih (a.release size)).trans ?_
    simp only [release, List.length_cons, List.sum_cons, mk.injEq, true_and, and_true]
    omega

/-- A block may be leased before others are given back, and given back after them. -/
theorem exists_detoured (granted : a.grants size) (sizes : List Nat) : ∃ bytes,
    (a.overflows size = false → bytes = (a.releaseAll sizes).bytesInUse) ∧
    ((a.allocate size).2.releaseAll sizes).release size =
      (a.releaseAll sizes).detoured bytes (a.overflows size) := by
  obtain ⟨bytes, asked, -, counted⟩ := allocate_counted granted
  refine ⟨bytes - sizes.sum - size, fun fits => ?_, ?_⟩
  · obtain rfl := counted fits
    rw [releaseAll_eq]
    dsimp only
    omega
  · simp only [asked, releaseAll_eq, release, detoured]

end Allocator

namespace Storage

/-- The request of an opening that was called with a callback and a hook. -/
def hookedOpening (id : RequestId) (code : Callback) (o : Observer) : Request :=
  (Operation.opening.order (some (.call code)) (some o)).request id [] none

/-- The storage when such a request has been made. -/
def asked (s : Storage) : Storage :=
  { s with
    allocator := (s.allocator.allocate Request.recordSize).2
    nextId := s.nextId + 1 }

/-- The storage when such a request has come to its success, without a handler. -/
def reopened (s : Storage) (id : RequestId) : Storage :=
  { s with
    openError := none
    last := some { id, kind := .opening, offset := 0, size := 0, error := none }
    emitter := (s.emitter.begin { event := .opened }).2.purge
    allocator := s.allocator.release Request.recordSize }

/-- The client code that hears of it, in order: listeners, hook and callback. -/
def reopeningHeard (s : Storage) (id : RequestId) (code : Callback) (o : Observer) :
    List Invocation :=
  (s.emitter.begin { event := .opened }).1.waiting.map
      (.listener ·.callback { event := .opened }) ++
    [.hook o.code
        { id, kind := .opening, error := none, value := none, size := 0, shared := o.shared },
      .done code (.ok .unit)]

/-- The storage when an opening has gone through the queue for nothing; the byte counter of the
allocator says so many, and the record may have overflowed it. -/
def detoured (s : Storage) (bytes : Nat) (overflows : Bool) : Storage :=
  { s with
    nextId := s.nextId + 1
    last := some { id := s.nextId, kind := .opening, offset := 0, size := 0, error := none }
    emitter := (s.emitter.begin { event := .opened }).2.purge
    allocator := s.allocator.detoured bytes overflows }

end Storage

/-- The error of an opening is recalled as long as another one is asked for, or is inside the
device. -/
def Storage.Recalls (s : Storage) : Prop :=
  s.openError ≠ none → s.ready ≠ .destroyed → s.needsOpen = false →
    0 < s.tally (·.kind = .opening)

section Recalls

variable {s s' : Storage} {h i : History}

/-- The end of an opening leaves no error behind without asking for another opening. -/
theorem Storage.transition_openError {r : Request} (recalled : (s.transition r).openError ≠ none)
    (living : (s.transition r).ready ≠ .destroyed) (needless : (s.transition r).needsOpen = false) :
    s.openError ≠ none ∧ s.ready ≠ .destroyed ∧ s.needsOpen = false ∧ r.kind ≠ .opening := by
  unfold transition at recalled living needless
  split at recalled <;> (try split at recalled) <;> simp_all

theorem Turn.recalls (t : Turn s i s') (inPlace : s.InPlace) (inv : s.Recalls) : s'.Recalls := by
  intro recalled living needless
  have earlier : (s.openError ≠ none ∧ s.ready ≠ .destroyed) ∧ ∀ r dispatched rest,
      s.stack = .pipeline r (.settle dispatched) :: rest →
        s.needsOpen = false ∧ r.kind ≠ .opening := by
    cases t with
    | settled top =>
      obtain ⟨recalled, living, other⟩ := s.transition_openError recalled living needless
      simp_all
    | _ => exact ⟨⟨recalled, living⟩, by simp_all⟩
  exact t.opening_inside inPlace (inv earlier.1.1 earlier.1.2) earlier.2 needless

theorem Move.recalls {a : Action} (m : Move s a i s') (custody : s.Custody)
    (onTop : s.LaunchOnTop) (turn : s.isAtRest) (orderly : Rule.orderly h s a) (inv : s.Recalls) :
    s'.Recalls := by
  have same : s'.openError = s.openError := by cases m <;> rfl
  intro recalled living needless
  rw [same] at recalled
  rw [m.ready_eq] at living
  rw [m.needsOpen_eq] at needless
  rw [m.tally_eq custody onTop turn orderly]
  exact inv recalled living needless

variable {capabilities : Capabilities} {limits : Limits} {allocator : Allocator}

theorem Run.recalls
    (run : Run Rule.orderly (Storage.create capabilities limits allocator) h s) : s.Recalls := by
  refine run.invariant (motive := fun _ s => s.Recalls) ?_ ?_ ?_
  · exact fun recalled => absurd rfl recalled
  · intro h s i s' run inv t
    exact t.recalls (run.custody (Storage.custody_create ..)).inPlace inv
  · intro h s a i s' run inv turn orderly m
    exact m.recalls (run.custody (Storage.custody_create ..))
      (run.launchOnTop (Storage.launchOnTop_create ..)) turn orderly inv

/-- The storage is open, and nothing is in the way of an opening but the data requests inside the
device. -/
structure SettledOpen (s : Storage) : Prop where
  idle : s.isIdle
  alive : s.isAlive
  opened : s.ready = .opened
  needless : s.needsOpen = false
  forgiven : s.openError = none
  free : s.barrier = false
  empty : s.queue = []
  still : s.draining = false
  roomy : 0 < s.limits.queueCapacity
  pending : s.pending = s.entrusted.length
  inside : ∀ id ∈ s.entrusted, s.Inside id
  nodup : s.entrusted.Nodup

/-- Where the flag is down, what is outside and runs is a data request. -/
theorem Storage.Custody.inside_of_entrusted (custody : s.Custody) (books : Accounts h s)
    (free : s.barrier = false) {id : RequestId} (held : id ∈ s.entrusted) : s.Inside id := by
  obtain ⟨r, found, running⟩ := custody.exists_of_entrusted held
  have outside := List.mem_of_find?_eq_some found
  have something : r.kind ≠ .nothing := by
    obtain created | ⟨-, something⟩ := custody.inPlace.outside r outside
    · simp [running] at created
    · exact something
  have counted : r ∈ s.counted := by simp [Storage.counted, outside, running]
  exact ⟨r, found, running, Kind.isData_of_ne (books.not_isBarrier free counted) something⟩

theorem Run.settledOpen
    (run : Run Rule.orderly (Storage.create capabilities limits allocator) h s)
    (valid : limits.validate = .ok ()) (idle : s.isIdle) (alive : s.isAlive)
    (settled : s.isOpenSettled) : SettledOpen s := by
  have custody := run.custody (Storage.custody_create ..)
  have books := run.accounts_of_create
  simp only [Storage.isOpenSettled, Bool.and_eq_true, decide_eq_true_eq, Bool.not_eq_true',
    List.isEmpty_iff] at settled
  obtain ⟨⟨⟨opened, needless⟩, free⟩, empty⟩ := settled
  refine {
    idle, alive, opened, needless, free, empty
    forgiven := ?_
    still := run.wakeful_of_create.still idle
    roomy := run.limits_eq ▸ ((Limits.validate_eq_ok_iff limits).mp valid).1
    pending := by rw [books.pending_of_isIdle idle, Storage.entrusted, List.length_map]
    inside := fun id held => custody.inside_of_entrusted books free held
    nodup := custody.nodup_entrusted }
  -- No opening is inside, since no barrier is.
  by_contra recalled
  obtain ⟨r, held, opening⟩ := List.countP_pos_iff.mp
    (run.recalls recalled (by simp [opened]) needless)
  have opening : r.kind = .opening := of_decide_eq_true opening
  exact books.not_isBarrier free held (by simp [opening, Kind.isBarrier])

/-- Ends for all that is inside the device, in some order. -/
theorem SettledOpen.exhausts (settled : SettledOpen s) {ends : List (RequestId × Response)}
    (all : (ends.map Prod.fst).Perm s.entrusted) :
    (ends.map Prod.fst).Nodup ∧ (∀ e ∈ ends, s.Inside e.1) ∧ ends.length = s.pending := by
  refine ⟨all.nodup_iff.mpr settled.nodup, fun e member => ?_, ?_⟩
  · exact settled.inside _ (all.mem_iff.mp (List.mem_map_of_mem member))
  · rw [settled.pending, ← all.length_eq, List.length_map]

end Recalls

namespace Storage

variable {s : Storage}

theorem launch_of_opened {r : Request} (opened : s.ready = .opened) (needless : s.needsOpen = false)
    (opening : r.kind = .opening) (unmarked : r.error = none) :
    s.launch r =
      ⟨r.started, .finished (.ok 0), { s.count r with last := some r.started.info }⟩ := by
  have kind : r.started.kind = .opening := opening
  simp [launch, unmarked, prepare, kind, route, count, opened, needless]

variable (id : RequestId) (code : Callback) (o : Observer)

/-- An opening that runs although it is not needed comes to its success in place. -/
theorem wrapUp_of_opened (opened : s.ready = .opened) (free : s.barrier = false) :
    let r := (hookedOpening id code o).queued
    let counted : Storage := { s.count r with last := some r.started.info }
    counted.wrapUp r.started (.ok 0) = s.reopened id ∧
      counted.audience (r.started.recorded (.ok 0)) = s.reopeningHeard id code o := by
  intro r counted
  have untouched : counted.queue.map (r.started.recorded (.ok 0)).fallout = s.queue :=
    List.map_id _
  constructor
  · rw [wrapUp_eq, untouched]
    simp [counted, r, hookedOpening, Operation.order, Order.request, Request.queued,
      Request.started, Request.recorded, transition, Request.Razes, keptAfter, Request.returned,
      Request.leases, informed, announcement, Request.notice?, Request.event?, isDestroyed, count,
      opened, free, Kind.isBarrier, reopened, Request.info, Allocator.releaseAll]
  · simp [counted, r, hookedOpening, Operation.order, Order.request, Request.queued,
      Request.started, Request.recorded, audience, hearers, Request.observation,
      Request.notification, announcement, Request.notice?, Request.event?, isDestroyed, count,
      opened, reopeningHeard, Request.outcome, Request.result]

end Storage

namespace Session

variable {σ : Type} {w : Worker σ} {x : Session σ} (code : Callback) (o : Observer)

/-- The session when an opening that waited, and was not needed, has come to its success. -/
def reopened (x : Session σ) (id : RequestId) (code : Callback) (o : Observer) : Session σ :=
  (x.onto (x.storage.reopened id)).sees ((x.storage.reopeningHeard id code o).map .called)

/-- An opening that waits, and is not needed, is drained once nothing is inside the device. -/
theorem reaches_reopened (id : RequestId) (rest : List Task) (outside : List Request)
    (opened : x.storage.ready = .opened) (needless : x.storage.needsOpen = false)
    (free : x.storage.barrier = false) (nothing : x.storage.pending = 0) :
    Reaches (tick w)
      (x.staged (.drain :: rest) false outside [(Storage.hookedOpening id code o).queued])
      ((x.reopened id code o).staged rest false outside []) := by
  let r := (Storage.hookedOpening id code o).queued
  have launched := Storage.launch_of_opened (r := r) opened needless rfl rfl
  have started := reaches_start (w := w) (r := r) rest outside (by simp [opened]) free nothing
  have ran := reaches_run_of_finished (w := w) x r (.drainNext :: rest) true outside []
    (by rw [launched])
  have wrapped := reaches_wrapUp (w := w) (x.onto (x.storage.launch r).storage)
    (x.storage.launch r).request (.drainNext :: rest) true outside (.ok 0)
  obtain ⟨storage, heard⟩ := Storage.wrapUp_of_opened id code o opened free
  rw [launched] at ran wrapped
  unfold wrapUp at wrapped
  rw [storage_onto, storage, heard] at wrapped
  exact reaches_trans started (reaches_trans ran (reaches_trans wrapped
    (reaches_drainNext (x.reopened id code o) rest outside [] (.inr rfl))))

/-- The request of an opening with a hook is made and queued. -/
theorem reaches_asked (settled : SettledOpen x.storage)
    (granted : x.storage.allocator.grants Request.recordSize) :
    Reaches (tick w) (x.act (.call .opening (some (.call code)) (some o)))
      ((x.onto x.storage.asked).staged (.drain :: .answer (.done (.ok ())) :: x.storage.stack)
        false x.storage.outside
        [(Storage.hookedOpening x.storage.nextId code o).queued]) := by
  let order := Operation.opening.order (some (.call code)) (some o)
  have called : x.act (.call .opening (some (.call code)) (some o)) =
      x.staged (.submit order :: x.storage.stack) false x.storage.outside [] := by
    have submitted : x.storage.call .opening (some (.call code)) (some o) =
        x.storage.push [.submit order] := by
      simp [Storage.call, order]
    refine congrArg x.onto (submitted.trans ?_)
    rw [Storage.staged, ← settled.still, ← settled.empty]
    rfl
  rw [called]
  refine reaches_step (s := x.storage.asked) ?_
  exact (Storage.step_submit (s := x.storage.staged (.submit order :: x.storage.stack) false
    x.storage.outside []) rfl rfl rfl ⟨by simp [Storage.staged, settled.opened], settled.roomy⟩
    (Allocator.allocate_of_grants granted)).1

/-- Calls for an opening, and goes on until the call returns. -/
def callOpening (w : Worker σ) (fuel : Nat) (x : Session σ) (code : Callback)
    (observer : Option Observer) : Session σ :=
  (x.act (.call .opening (some (.call code)) observer)).goOn w fuel

variable {ends : List (RequestId × Response)}

/-- A plain opening is answered at once, and its callback has been called by then. -/
theorem callOpening_plain (settled : SettledOpen x.storage) (w : Worker σ) :
    ∃ n, ∀ fuel ≥ n, x.callOpening w fuel code none =
      (x.sees [.called (.done code (.ok .unit))]).onto (x.storage.reply (.done (.ok ()))) := by
  have open' : x.storage.isOpenSettled := by
    simp [Storage.isOpenSettled, settled.opened, settled.needless, settled.free, settled.empty]
  have called : x.act (.call .opening (some (.call code)) none) =
      x.staged (.client (.done code (.ok .unit)) :: .answer (.done (.ok ())) :: x.storage.stack)
        x.storage.draining x.storage.outside x.storage.queue :=
    congrArg x.onto (if_pos ⟨rfl, open'⟩)
  unfold callOpening
  rw [called]
  exact goOn_of_reaches (reaches_called x _ _ _ _ (by simp)) (halts_of_answers _ settled.idle ..)

/-- After it, the device ends its requests, and that is all. -/
theorem finishAll_plain (settled : SettledOpen x.storage) (w : Worker σ)
    (all : (ends.map Prod.fst).Perm x.storage.entrusted) :
    ∃ n, ∀ fuel ≥ n, x.finishAll w fuel ends = x.relieved ends := by
  obtain ⟨distinct, inside, length⟩ := settled.exhausts all
  cases ends using List.reverseRecOn with
  | nil => exact ⟨0, fun fuel _ => relieved_nil.symm⟩
  | append_singleton init e =>
    rw [List.length_append, List.length_singleton] at length
    refine finishAll_concat (z := x.relieved (init ++ [e])) settled.idle settled.alive distinct
      inside length ?_
    exact reaches_drain _ _ _ _ _ (.inr (.inr settled.empty))

/-- The session when the device has ended its requests and the opening that waited for them has come
to its success. -/
def detoured (x : Session σ) (code : Callback) (o : Observer) (ends : List (RequestId × Response)) :
    Session σ :=
  (((x.onto x.storage.asked).relieved ends).reopened x.storage.nextId code o).staged
    x.storage.stack false (x.storage.relieved ends).outside []

/-- An opening with a hook is accepted at once, and waits for the ends of what is inside. -/
theorem callOpening_hooked (settled : SettledOpen x.storage) (w : Worker σ)
    (granted : x.storage.allocator.grants Request.recordSize)
    (all : (ends.map Prod.fst).Perm x.storage.entrusted) :
    ∃ n, ∀ fuel ≥ n,
      (x.callOpening w fuel code (some o)).storage.answer? = some (.done (.ok ())) ∧
      ((x.callOpening w fuel code (some o)).act .collect).finishAll w fuel ends =
        x.detoured code o ends := by
  obtain ⟨distinct, inside, length⟩ := settled.exhausts all
  let r := (Storage.hookedOpening x.storage.nextId code o).queued
  have asked := reaches_asked (w := w) code o settled granted
  cases ends using List.reverseRecOn with
  | nil =>
    have reopened := reaches_reopened (w := w) (x := x.onto x.storage.asked) code o
      x.storage.nextId (.answer (.done (.ok ())) :: x.storage.stack) x.storage.outside
      settled.opened settled.needless settled.free length.symm
    obtain ⟨n, called⟩ := goOn_of_reaches (reaches_trans asked reopened)
      (halts_of_answers _ settled.idle ..)
    refine ⟨n, fun fuel enough => ?_⟩
    unfold callOpening
    rw [called fuel enough]
    refine ⟨rfl, ?_⟩
    unfold detoured
    rw [relieved_nil, Storage.relieved_nil]
    rfl
  | append_singleton init e =>
    rw [List.length_append, List.length_singleton] at length
    -- The request waits, and the last end starts it.
    let y := (x.onto x.storage.asked).staged x.storage.stack false x.storage.outside [r]
    have occupied : 0 < x.storage.pending := by omega
    have waits := reaches_drain_waiting (w := w) (x.onto x.storage.asked)
      (.answer (.done (.ok ())) :: x.storage.stack) x.storage.outside [] (r := r) rfl occupied
    obtain ⟨n, called⟩ := goOn_of_reaches (reaches_trans asked waits)
      (halts_of_answers _ settled.idle ..)
    have nothing : (x.storage.relieved (init ++ [e])).pending = 0 := by
      change x.storage.pending - (init ++ [e]).length = 0
      rw [List.length_append, List.length_singleton, length, Nat.sub_self]
    have reopened := reaches_reopened (w := w) (x := y.relieved (init ++ [e])) code o
      x.storage.nextId (.answer .unit :: x.storage.stack)
      (x.storage.relieved (init ++ [e])).outside settled.opened settled.needless settled.free
      nothing
    obtain ⟨m, finished⟩ := finishAll_concat (w := w) (x := y) settled.idle settled.alive distinct
      inside length reopened
    refine ⟨max n m, fun fuel enough => ?_⟩
    unfold callOpening
    rw [called fuel (by omega)]
    exact ⟨rfl, finished fuel (by omega)⟩

theorem detoured_eq (settled : SettledOpen x.storage)
    (granted : x.storage.allocator.grants Request.recordSize)
    (ends : List (RequestId × Response)) :
    let overflows := x.storage.allocator.overflows Request.recordSize
    ∃ bytes, (overflows = false → bytes = (x.storage.relieved ends).allocator.bytesInUse) ∧
      x.detoured code o ends = { x with
        storage := (x.storage.relieved ends).detoured bytes overflows
        seen := x.seen ++ (x.storage.endings ends).flatMap Request.told ++
          (x.storage.reopeningHeard x.storage.nextId code o).map .called } := by
  intro overflows
  obtain ⟨bytes, fits, allocator⟩ := Allocator.exists_detoured granted
    ((x.storage.endings ends).flatMap Request.returned)
  refine ⟨bytes, fits, ?_⟩
  have storage : (x.detoured code o ends).storage =
      (x.storage.relieved ends).detoured bytes overflows := by
    simp only [detoured, reopened, relieved, staged, onto, sees, Storage.staged, Storage.reopened,
      Storage.detoured, Storage.relieved, Storage.asked, settled.forgiven, settled.still,
      settled.empty]
    rw [← allocator]
    rfl
  have seen : (x.detoured code o ends).seen = x.seen ++
      (x.storage.endings ends).flatMap Request.told ++
        (x.storage.reopeningHeard x.storage.nextId code o).map .called := rfl
  rw [← storage, ← seen]
  rfl

end Session

section Agreement

variable {σ : Type} {capabilities : Capabilities} {limits : Limits} {allocator : Allocator}
  {h : History} {x : Session σ} {ends : List (RequestId × Response)}

/-- **Opening what is open.**  A storage is open, nothing waits and no barrier is inside the device,
no call is going on, and a record is granted; it does not matter how it came to that, as long as
nothing that was inside the device was put into the queue.  Then an opening is accepted and comes
to its success, with a hook or without, and reaches no handler.  Without a hook its callback is
called at once; with one, hook and callback are called when the device has ended all that is inside,
after the listeners to openings.  Whatever these ends are, the two lead to the same storage, which
is open with nothing inside and nothing waiting, but for the number and the record of the request,
the counts of blocks, and the calls that the listeners have left.  The count of bytes is the same,
too, unless the record makes it overflow, which the allocator then says. -/
theorem Session.callOpening_agree (valid : limits.validate = .ok ())
    (run : Run Rule.orderly (Storage.create capabilities limits allocator) h x.storage)
    (idle : x.storage.isIdle) (alive : x.storage.isAlive) (settled : x.storage.isOpenSettled)
    (granted : x.storage.allocator.grants Request.recordSize) (w : Worker σ)
    (all : (ends.map Prod.fst).Perm x.storage.entrusted) (code : Callback) (o : Observer) :
    let s := x.storage.relieved ends
    let told := (x.storage.endings ends).flatMap Request.told
    let overflows := x.storage.allocator.overflows Request.recordSize
    (s.isOpenSettled ∧ s.pending = 0) ∧
    ∃ bytes, (overflows = false → bytes = s.allocator.bytesInUse) ∧
      ∃ n, ∀ fuel ≥ n,
        let plain := x.callOpening w fuel code none
        let hooked := x.callOpening w fuel code (some o)
        plain.storage.answer? = some (.done (.ok ())) ∧
        hooked.storage.answer? = some (.done (.ok ())) ∧
        (plain.act .collect).finishAll w fuel ends = { x with
          storage := s
          seen := x.seen ++ .called (.done code (.ok .unit)) :: told } ∧
        (hooked.act .collect).finishAll w fuel ends = { x with
          storage := s.detoured bytes overflows
          seen := x.seen ++ told ++ (s.reopeningHeard s.nextId code o).map .called } := by
  intro s told overflows
  have open' := run.settledOpen valid idle alive settled
  obtain ⟨bytes, fits, detoured⟩ := detoured_eq code o open' granted ends
  obtain ⟨n, plain⟩ := callOpening_plain code open' w
  obtain ⟨m, finished⟩ :=
    finishAll_plain (x := x.sees [.called (.done code (.ok .unit))]) open' w all
  obtain ⟨k, hooked⟩ := callOpening_hooked code o open' w granted all
  refine ⟨⟨settled, ?_⟩, bytes, fits, max n (max m k), fun fuel enough => ?_⟩
  · change x.storage.pending - ends.length = 0
    rw [(open'.exhausts all).2.2, Nat.sub_self]
  · obtain ⟨accepted, hooked⟩ := hooked fuel (by omega)
    rw [plain fuel (by omega)]
    refine ⟨rfl, accepted, ?_, hooked.trans detoured⟩
    refine (finished fuel (by omega)).trans ?_
    simp [relieved, Session.sees, Session.onto, s, told]

/-- A read and a write are inside, and the device lets go of the write. -/
theorem Session.callOpening_agree_two :
    let w : Worker Unit := ⟨.parking, fun _ _ _ => (.dropped, ())⟩
    let ends : List (RequestId × Response) :=
      [(3, .dropped), (2, .verdict { data := some [7, 7], result := .ok none })]
    let told : List Sight := [.called (.done 2 (.error .abandoned)),
      .called (.done 1 (.ok (.bytes [7, 7])))]
    ∃ (h : History) (x : Session Unit) (bytes : Nat),
      Run Rule.orderly (Storage.create .readWrite) h x.storage ∧ x.storage.pending = 2 ∧
      ∃ n, ∀ fuel ≥ n,
        let plain := ((x.callOpening w fuel 9 none).act .collect).finishAll w fuel ends
        let hooked := ((x.callOpening w fuel 9 (some ⟨8, "h"⟩)).act .collect).finishAll w fuel ends
        hooked.storage = plain.storage.detoured bytes false ∧
        plain.seen = .called (.done 9 (.ok .unit)) :: told ∧
        hooked.seen = told ++ [.called (.listener 5 { event := .opened }),
          .called (.hook 8 ⟨4, .opening, none, none, 0, "h"⟩), .called (.done 9 (.ok .unit))] := by
  intro w ends told
  have fresh : Run Rule.orderly (Storage.create .readWrite) [] _ := .start
  have run := fresh.play
    [(.call .opening none none, 9), (.leave, 9), (.collect, 9),
      (.complete 1 { result := .ok none }, 9), (.collect, 9),
      (.listen .opened (.times 1) 5, 9), (.collect, 9),
      (.call (.read 0 2) (some (.call 1)) none, 9), (.leave, 9), (.collect, 9),
      (.call (.write 0 [8]) (some (.call 2)) none, 9), (.leave, 9), (.collect, 9)]
    (by decide +kernel)
  obtain ⟨s, run, pending, idle, alive, settled, granted, fits, all, heard, after⟩ : ∃ s,
      Run Rule.orderly (Storage.create .readWrite) _ s ∧ s.pending = 2 ∧ s.isIdle ∧ s.isAlive ∧
      s.isOpenSettled ∧ s.allocator.grants Request.recordSize ∧
      s.allocator.overflows Request.recordSize = false ∧
      (ends.map Prod.fst).Perm s.entrusted ∧ (s.endings ends).flatMap Request.told = told ∧
      (s.relieved ends).reopeningHeard (s.relieved ends).nextId 9 ⟨8, "h"⟩ =
        [.listener 5 { event := .opened }, .hook 8 ⟨4, .opening, none, none, 0, "h"⟩,
          .done 9 (.ok .unit)] :=
    ⟨_, run, by decide +kernel, by decide +kernel, by decide +kernel, by decide +kernel,
      by decide +kernel, by decide +kernel, by decide +kernel, by decide +kernel,
      by decide +kernel⟩
  obtain ⟨-, bytes, -, n, ways⟩ := callOpening_agree (x := ⟨s, (), [], []⟩) (by decide) run idle
    alive settled granted w all 9 ⟨8, "h"⟩
  refine ⟨_, ⟨s, (), [], []⟩, bytes, run, pending, n, fun fuel enough => ?_⟩
  obtain ⟨-, -, plain, hooked⟩ := ways fuel enough
  rw [plain, hooked, fits]
  refine ⟨rfl, ?_, ?_⟩ <;> simp [heard, after]

end Agreement

end StorageEngine
