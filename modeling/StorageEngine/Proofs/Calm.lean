import StorageEngine.Proofs.Leases
import StorageEngine.Proofs.Session

/-!
# Calm storages

A storage is calm when nothing is inside the device, nothing waits, and no task is left to do.  If
its allocator never refuses, a call on a calm storage comes to one of a few ends, and the storage is
calm again: `Session.carry` says what a request comes to that nothing has to wait for, and
`Session.answered` what a call comes to.  Both are plain functions of the storage and of how the
device responds; that the steps of a session lead there is shown elsewhere.

* `Storage.make_eq_made` — the request of an order, where nothing is refused;
* `Storage.Calm.perform` — a request that has been performed leaves the storage calm;
* `Storage.Calm.answered` — so does a call.
-/

namespace StorageEngine

/-- An allocator with this policy refuses nothing, whatever its counters say. -/
def AllocatorPolicy.IsLenient (policy : AllocatorPolicy) : Prop :=
  ∀ a : Allocator, a.policy = policy → ∀ size, a.grants size = true

theorem AllocatorPolicy.isLenient_unlimited : unlimited.IsLenient := by
  intro a same size
  simp [Allocator.grants, same]

namespace Allocator

/-- Asks for several blocks, in order. -/
def allocateAll (a : Allocator) (sizes : List Nat) : Allocator :=
  sizes.foldl (fun a size => (a.allocate size).2) a

/-- The counters account for blocks of these sizes.  A counter of bytes that has overflowed says too
little, and never too much. -/
structure Covers (a : Allocator) (sizes : List Nat) : Prop where
  count : a.allocCount = a.freeCount + sizes.length
  bytes : a.bytesInUse ≤ sizes.sum

section Covers

variable {a : Allocator} {size : Nat} {sizes others : List Nat}

theorem allocate_of_grants (granted : a.grants size) : (a.allocate size).1 = true :=
  (a.allocate_fst size).trans granted

theorem allocateAll_policy (sizes : List Nat) : (a.allocateAll sizes).policy = a.policy := by
  induction sizes generalizing a with
  | nil => rfl
  | cons size sizes ih => exact ih.trans (a.allocate_policy size)

theorem releaseAll_policy (sizes : List Nat) : (a.releaseAll sizes).policy = a.policy := by
  induction sizes generalizing a with
  | nil => rfl
  | cons size sizes ih => exact ih.trans (a.release_policy size)

theorem Covers.perm (covers : a.Covers sizes) (same : sizes.Perm others) : a.Covers others where
  count := same.length_eq ▸ covers.count
  bytes := same.sum_eq ▸ covers.bytes

theorem Covers.allocate (covers : a.Covers sizes) (granted : a.grants size) :
    (a.allocate size).2.Covers (size :: sizes) := by
  obtain ⟨count, bytes⟩ := covers
  obtain ⟨_, asked, most, -⟩ := allocate_counted granted
  rw [asked]
  constructor <;> simp only [List.length_cons, List.sum_cons] <;> omega

theorem Covers.release (covers : a.Covers (size :: sizes)) : (a.release size).Covers sizes := by
  obtain ⟨count, bytes⟩ := covers
  simp only [List.length_cons, List.sum_cons] at count bytes
  constructor <;> simp only [Allocator.release] <;> omega

theorem Covers.releaseAll (covers : a.Covers (sizes ++ others)) :
    (a.releaseAll sizes).Covers others := by
  induction sizes generalizing a with
  | nil => exact covers
  | cons size sizes ih => exact ih covers.release

theorem Covers.allocateAll (lenient : a.policy.IsLenient) (covers : a.Covers others) :
    (a.allocateAll sizes).Covers (sizes ++ others) := by
  induction sizes generalizing a others with
  | nil => exact covers
  | cons size sizes ih =>
    have later : (a.allocate size).2.policy.IsLenient := a.allocate_policy size ▸ lenient
    refine (ih later (covers.allocate (lenient a rfl size))).perm ?_
    exact List.perm_middle

/-- Counters that account for nothing are balanced. -/
theorem Covers.isBalanced (covers : a.Covers []) : a.isBalanced := by
  obtain ⟨count, bytes⟩ := covers
  simp only [List.length_nil, List.sum_nil] at count bytes
  simp only [Allocator.isBalanced, Bool.and_eq_true, decide_eq_true_eq]
  omega

end Covers

end Allocator

namespace Request

@[simp] theorem leases_recorded (r : Request) (result : Except Error Nat) :
    (r.recorded result).leases = r.leases := by
  cases result <;> rfl

/-- A request gives back what it holds. -/
theorem returned_perm (r : Request) : r.returned.Perm r.leases := by
  unfold returned
  split
  case h_1 | h_2 | h_3 => exact List.perm_append_comm
  case h_4 => exact .refl _

end Request

@[simp] theorem Response.leases_apply (r : Request) (response : Response) :
    (response.apply r).1.leases = r.leases := by
  cases response <;> rfl

@[simp] theorem Response.phase_apply (r : Request) (response : Response) :
    (response.apply r).1.phase = r.phase := by
  cases response <;> rfl

@[simp] theorem Response.kind_apply (r : Request) (response : Response) :
    (response.apply r).1.kind = r.kind := by
  cases response <;> rfl

namespace Storage

/-- The request of an order, and the storage once it has been made, where nothing is refused. -/
def made (s : Storage) (o : Order) : Request × Storage :=
  (o.request s.nextId (o.payload.getD []) (o.payload.map List.length),
    { s with allocator := s.allocator.allocateAll o.blocks, nextId := s.nextId + 1 })

/-- A data request, marked with the error of the opening before it if that has failed. -/
def owing (s : Storage) (r : Request) : Request :=
  match s.openError with
  | some e => if s.ready = .opened then r else r.poison e
  | none => r

/-- Nothing is inside the device, nothing waits, and nothing is left to do; nothing is refused, and
the allocator accounts for the requests in hand. -/
structure Calm (s : Storage) (hand : List Request) : Prop where
  stack : s.stack = []
  draining : s.draining = false
  outside : s.outside = []
  queue : s.queue = []
  pending : s.pending = 0
  barrier : s.barrier = false
  owned : s.owned = true
  lenient : s.allocator.policy.IsLenient
  roomy : 0 < s.limits.queueCapacity
  covered : s.allocator.Covers (hand.flatMap Request.leases)

section Made

variable {s : Storage} {o : Order} {r : Request}

/-- An allocator that refuses nothing lets every request be made. -/
theorem make_eq_made (lenient : s.allocator.policy.IsLenient) (o : Order) :
    s.make o = (some (s.made o).1, (s.made o).2) := by
  have record : s.allocator.allocate Request.recordSize =
      (true, (s.allocator.allocate Request.recordSize).2) :=
    Prod.ext (Allocator.allocate_of_grants (lenient _ rfl _)) rfl
  unfold make made Order.blocks
  rw [record]
  cases payload : o.payload with
  | none => rfl
  | some data =>
    have later := (s.allocator.allocate_policy Request.recordSize)
    have buffer := Allocator.allocate_of_grants (lenient _ later data.length)
    have buffer : (s.allocator.allocate Request.recordSize).2.allocate data.length =
        (true, ((s.allocator.allocate Request.recordSize).2.allocate data.length).2) :=
      Prod.ext buffer rfl
    dsimp only
    rw [buffer]
    rfl

theorem leases_made : (s.made o).1.leases = o.blocks :=
  rfl

theorem Calm.staged_eq {hand : List Request} (calm : s.Calm hand) :
    s.staged [] false [] [] = s := by
  obtain ⟨stack, draining, outside, queue⟩ := calm
  cases s
  simp only at stack draining outside queue
  simp only [staged, stack, draining, outside, queue]

theorem Calm.push_eq {hand : List Request} (calm : s.Calm hand) (tasks : List Task) :
    s.push tasks = s.staged tasks false [] [] := by
  have same : s.push tasks = (s.staged [] false [] []).push tasks := by rw [calm.staged_eq]
  rw [same]
  simp [push, staged]

theorem Calm.made {hand : List Request} (calm : s.Calm hand) :
    (s.made o).2.Calm ((s.made o).1 :: hand) where
  __ := calm
  lenient := (s.allocator.allocateAll_policy o.blocks).symm ▸ calm.lenient
  covered := by
    rw [List.flatMap_cons, leases_made]
    exact calm.covered.allocateAll calm.lenient

theorem Calm.replace {r' : Request} {hand : List Request} (calm : s.Calm (r :: hand))
    (same : r'.leases = r.leases) : s.Calm (r' :: hand) where
  __ := calm
  covered := by
    have covered := calm.covered
    rw [List.flatMap_cons] at covered ⊢
    rwa [same]

end Made

section Launch

variable {s : Storage} {r : Request} {others : List Nat}

theorem leaseBuffer_of_lenient (lenient : s.allocator.policy.IsLenient) (r : Request) (size : Nat) :
    s.leaseBuffer r size = (some { r with buffer := some size },
      { s with allocator := (s.allocator.allocate size).2.releaseAll r.buffer.toList }) := by
  have granted : s.allocator.allocate size = (true, (s.allocator.allocate size).2) :=
    Prod.ext (Allocator.allocate_of_grants (lenient _ rfl size)) rfl
  unfold leaseBuffer
  rw [granted]

/-- A new buffer takes the place of an old one. -/
theorem covers_leaseBuffer (lenient : s.allocator.policy.IsLenient) (size : Nat)
    (covers : s.allocator.Covers (r.leases ++ others)) :
    ((s.allocator.allocate size).2.releaseAll r.buffer.toList).Covers
      (Request.recordSize :: size :: others) := by
  have held := covers.allocate (lenient _ rfl size)
  refine Allocator.Covers.releaseAll (held.perm ?_)
  unfold Request.leases
  cases r.buffer with
  | none => exact .swap ..
  | some old =>
    have first : (size :: Request.recordSize :: old :: others).Perm
        (Request.recordSize :: old :: size :: others) :=
      (List.Perm.swap ..).trans (.cons _ (.swap ..))
    exact first.trans (.swap ..)

/-- A request that is prepared holds what it needs. -/
theorem covers_prepare (lenient : s.allocator.policy.IsLenient)
    (covers : s.allocator.Covers (r.leases ++ others)) : ∃ a r',
      s.prepare r = (some r', { s with allocator := a }) ∧ a.Covers (r'.leases ++ others) ∧
        a.policy = s.allocator.policy ∧
        (r.kind.isBarrier → a = s.allocator ∧ r'.leases = r.leases) := by
  have policy (size : Nat) :
      ((s.allocator.allocate size).2.releaseAll r.buffer.toList).policy = s.allocator.policy :=
    (Allocator.releaseAll_policy _).trans (s.allocator.allocate_policy size)
  unfold prepare
  split
  case h_1 isRead =>
    rw [leaseBuffer_of_lenient lenient]
    exact ⟨_, _, rfl, covers_leaseBuffer lenient r.size covers, policy _,
      by simp [isRead, Kind.isBarrier]⟩
  case h_2 isStat =>
    rw [leaseBuffer_of_lenient lenient]
    exact ⟨_, _, rfl, covers_leaseBuffer lenient Request.statsSize covers, policy _,
      by simp [isStat, Kind.isBarrier]⟩
  case h_3 => exact ⟨s.allocator, r, rfl, covers, rfl, fun _ => ⟨rfl, rfl⟩⟩

/-- What launching a request changes, where nothing is refused. -/
theorem launch_of_lenient (lenient : s.allocator.policy.IsLenient)
    (covers : s.allocator.Covers (r.leases ++ others)) : ∃ a last n,
      (s.launch r).storage = { s.count r with allocator := a, last := last, needsOpen := n } ∧
        a.Covers ((s.launch r).request.leases ++ others) ∧ a.policy = s.allocator.policy ∧
        (r.kind.isBarrier → a = s.allocator ∧ (s.launch r).request.leases = r.leases) := by
  have started : r.started.leases = r.leases := rfl
  unfold launch
  cases r.error with
  | some e => exact ⟨s.allocator, s.last, s.needsOpen, rfl, covers, rfl, fun _ => ⟨rfl, rfl⟩⟩
  | none =>
    obtain ⟨a, r', prepared, held, policy, barrier⟩ :=
      covers_prepare (s := s.count r) (r := r.started) lenient covers
    rw [prepared]
    dsimp only
    rw [route_eq]
    split
    case h_1 routed =>
      obtain ⟨-, rfl⟩ := Prod.mk.inj routed
      exact ⟨a, _, _, rfl, held, policy, barrier⟩
    case h_2 routed =>
      obtain ⟨-, rfl⟩ := Prod.mk.inj routed
      split <;> exact ⟨a, _, _, rfl, held, policy, barrier⟩

end Launch

section WrapUp

variable {s : Storage} {r : Request} {hand : List Request}

/-- A request that was launched on a calm storage and is wrapped up leaves it calm. -/
theorem Calm.wrapUp (calm : s.Calm (r :: hand)) {r' : Request} {a : Allocator}
    {last : Option RequestInfo} {n : Bool} (kind : r'.kind = r.kind) (running : r'.phase = .running)
    (covers : a.Covers (r'.leases ++ hand.flatMap Request.leases))
    (policy : a.policy = s.allocator.policy) (result : Except Error Nat) :
    (({ s.count r with allocator := a, last := last, needsOpen := n } : Storage).wrapUp r'
      result).Calm hand := by
  have same : (r'.recorded result).returned.Perm r'.leases := by
    simpa using (r'.recorded result).returned_perm
  rw [wrapUp_eq]
  exact {
    stack := calm.stack
    draining := calm.draining
    outside := calm.outside
    queue := by simp [count, calm.queue]
    pending := by simp [count, running, calm.pending]
    barrier := by simp [count, running, calm.barrier, kind]
    owned := calm.owned
    lenient := by
      rw [Allocator.releaseAll_policy, policy]
      exact calm.lenient
    roomy := calm.roomy
    covered := (covers.perm (same.symm.append_right _)).releaseAll }

end WrapUp

end Storage

namespace Session

variable {σ : Type} {f : Responder σ} {x : Session σ} {r : Request} {hand : List Request}

@[simp] theorem storage_wrapUp (x : Session σ) (r : Request) (result : Except Error Nat) :
    (x.wrapUp r result).storage = x.storage.wrapUp r result :=
  rfl

/-- A request that has been performed leaves the storage calm. -/
theorem calm_perform (f : Responder σ) (calm : x.storage.Calm (r :: hand)) :
    (x.perform f r).storage.Calm hand := by
  have covered : x.storage.allocator.Covers (r.leases ++ hand.flatMap Request.leases) := by
    simpa using calm.covered
  obtain ⟨a, last, n, launched, covers, policy, -⟩ :=
    Storage.launch_of_lenient calm.lenient covered
  obtain ⟨-, -, -, -, follows, running⟩ := x.storage.launch_cases r
  unfold perform
  dsimp only
  rw [launched]
  split
  case h_1 => exact calm.wrapUp follows.kind running covers policy _
  case h_2 h _ =>
    exact calm.wrapUp (by simp [follows.kind]) (by simp [running]) (by simpa using covers) policy _

/-- The session when the request of an order has been made and performed. -/
def carry (f : Responder σ) (x : Session σ) (o : Order) : Session σ :=
  (x.onto (x.storage.made o).2).perform f (x.storage.made o).1

/-- The session when a data request has been made and performed, and an opening before it where one
is needed. -/
def carryData (f : Responder σ) (x : Session σ) (o : Order) : Session σ :=
  let y := x.onto (x.storage.made o).2
  if x.storage.needsOpen ∧ x.storage.ready ≠ .opened then
    let z := y.carry f { kind := .opening }
    z.perform f (z.storage.owing (x.storage.made o).1)
  else y.perform f (x.storage.made o).1

/-- The answer of a call, and the session when all that it has started is over. -/
def answered (f : Responder σ) (x : Session σ) (op : Operation) (client : Client) :
    Except Error Unit × Session σ :=
  let order := op.order (some (.call client.code)) client.observer
  if op = .opening ∧ client.observer = none ∧ x.storage.isOpenSettled then
    (.ok (), x.sees [.called (.done client.code (.ok .unit))])
  else if x.storage.isDestroyed then (.error .fault, x)
  else if order.kind.isData then
    if x.storage.capabilities.supports order.kind then (.ok (), x.carryData f order)
    else (.error (.unsupported order.kind), x)
  else if op = .destroying then (.ok (), (x.carry f { kind := .closing }).carry f order)
  else (.ok (), x.carry f order)

theorem calm_carry (f : Responder σ) (calm : x.storage.Calm hand) (o : Order) :
    (x.carry f o).storage.Calm hand :=
  calm_perform f (x := x.onto (x.storage.made o).2) calm.made

theorem leases_owing (s : Storage) (r : Request) : (s.owing r).leases = r.leases := by
  unfold Storage.owing
  split
  · split <;> rfl
  · rfl

theorem calm_carryData (f : Responder σ) (calm : x.storage.Calm hand) (o : Order) :
    (x.carryData f o).storage.Calm hand := by
  unfold carryData
  dsimp only
  split
  · have opened := calm_carry f (x := x.onto (x.storage.made o).2) calm.made { kind := .opening }
    refine calm_perform f (opened.replace ?_)
    exact leases_owing ..
  · exact calm_perform f (x := x.onto (x.storage.made o).2) calm.made

/-- A call leaves the storage calm. -/
theorem calm_answered (f : Responder σ) (calm : x.storage.Calm []) (op : Operation)
    (client : Client) : (x.answered f op client).2.storage.Calm [] := by
  unfold answered
  dsimp only
  repeat' split
  · exact calm
  · exact calm
  · exact calm_carryData f calm _
  · exact calm
  · exact calm_carry f (calm_carry f calm _) _
  · exact calm_carry f calm _

end Session

end StorageEngine
