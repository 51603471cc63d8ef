import Mathlib.Algebra.GroupWithZero.Nat
import Mathlib.Data.List.Perm.Basic
import StorageEngine.Proofs.Destroyed

/-!
# Leases

Every request holds a block for its record as long as it exists, and at times one more for a buffer.
The counters of the allocator account for exactly these blocks (`Storage.Balanced`), whatever is
refused, finished, dropped or taken out of the queue, as long as the counter of bytes does not
overflow.

A function of the storage takes over the requests of a task or of a client, and leaves each of them
in one place or gives its blocks back.  So there is one lemma for each function, which says that the
requests *in hand* before it are accounted for, too.

* `Allocator.Holds.allocate`, `Allocator.Holds.releaseAll` — what the counters say after a call;
* `Storage.Balanced.step`, `Storage.Balanced.act` — a storage that is balanced stays so.
-/

namespace StorageEngine

namespace Allocator

/-- The counters account for that many blocks of that many bytes in all. -/
structure Holds (a : Allocator) (blocks bytes : Nat) : Prop where
  count : a.allocCount = a.freeCount + blocks
  bytes : a.bytesInUse = bytes

/-- Asking for these blocks, one after the other and up to the first refusal, does not overflow the
counter of bytes. -/
def Affords (a : Allocator) : List Nat → Prop
  | [] => True
  | size :: sizes =>
    a.grants size → a.bytesInUse + size ≤ Word.top ∧ (a.allocate size).2.Affords sizes

section Holds

variable {a : Allocator} {blocks bytes : Nat}

theorem Holds.allocate {size : Nat} {sizes : List Nat} (holds : a.Holds blocks bytes)
    (affords : a.Affords (size :: sizes)) :
    (∃ a', a.allocate size = (false, a') ∧ a'.Holds blocks bytes) ∨
    ∃ a', a.allocate size = (true, a') ∧ a'.Holds (blocks + 1) (bytes + size) ∧
      a'.Affords sizes := by
  by_cases granted : a.grants size
  · obtain ⟨fits, later⟩ := affords granted
    obtain ⟨_, asked, -, counted⟩ := allocate_counted granted
    obtain rfl := counted (overflows_eq_false_iff.mpr fits)
    rw [asked] at later
    refine .inr ⟨_, asked, ?_, later⟩
    have count := holds.count
    have sum := holds.bytes
    constructor <;> dsimp only <;> omega
  · have refused : a.ruling size = .refused := ruling_of_refused (by simpa using granted)
    exact .inl ⟨_, allocate_of_refused refused, holds.count, holds.bytes⟩

theorem Holds.release {size : Nat} (holds : a.Holds (blocks + 1) (bytes + size)) :
    (a.release size).Holds blocks bytes := by
  obtain ⟨count, sum⟩ := holds
  constructor <;> simp only [Allocator.release] <;> omega

theorem Holds.releaseAll {sizes : List Nat}
    (holds : a.Holds (blocks + sizes.length) (bytes + sizes.sum)) :
    (a.releaseAll sizes).Holds blocks bytes := by
  induction sizes generalizing a with
  | nil => exact holds
  | cons size sizes ih =>
    refine ih (Holds.release ?_)
    rw [List.length_cons, List.sum_cons, ← Nat.add_assoc, Nat.add_comm size, ← Nat.add_assoc]
      at holds
    exact holds

end Holds

theorem releaseAll_append (a : Allocator) (sizes others : List Nat) :
    a.releaseAll (sizes ++ others) = (a.releaseAll sizes).releaseAll others :=
  List.foldl_append

/-- Blocks may be handed back in any order. -/
theorem releaseAll_perm (a : Allocator) {sizes others : List Nat} (same : sizes.Perm others) :
    a.releaseAll sizes = a.releaseAll others := by
  have swap : RightCommutative release := by
    refine ⟨fun a size other => ?_⟩
    simp [release, Nat.sub_right_comm]
  exact same.foldl_eq a

end Allocator

namespace Request

/-- How many blocks these requests hold. -/
def blocks (rs : List Request) : Nat :=
  (rs.flatMap leases).length

/-- How many bytes these requests hold. -/
def bytes (rs : List Request) : Nat :=
  (rs.flatMap leases).sum

section Blocks

variable (r : Request) (rs rs' : List Request)

@[simp] theorem blocks_nil : blocks [] = 0 :=
  rfl

@[simp] theorem bytes_nil : bytes [] = 0 :=
  rfl

@[simp] theorem blocks_cons : blocks (r :: rs) = r.leases.length + blocks rs := by
  simp [blocks]

@[simp] theorem bytes_cons : bytes (r :: rs) = r.leases.sum + bytes rs := by
  simp [bytes]

@[simp] theorem blocks_append : blocks (rs ++ rs') = blocks rs + blocks rs' := by
  simp [blocks]

@[simp] theorem bytes_append : bytes (rs ++ rs') = bytes rs + bytes rs' := by
  simp [bytes]

end Blocks

/-- What does not change the leases of requests does not change what they hold. -/
theorem blocks_map {f : Request → Request} (same : ∀ r, (f r).leases = r.leases)
    (rs : List Request) : blocks (rs.map f) = blocks rs ∧ bytes (rs.map f) = bytes rs := by
  simp [blocks, bytes, List.flatMap_map, same]

end Request

/-- The blocks that an order asks for. -/
def Order.blocks (o : Order) : List Nat :=
  Request.recordSize :: (o.payload.map List.length).toList

/-- The block that a request asks for when it runs. -/
def Request.wants (r : Request) : List Nat :=
  match r.error, r.kind with
  | none, .read => [r.size]
  | none, .stat => [Request.statsSize]
  | _, _ => []

namespace Storage

/-- The allocator accounts for the requests of a storage, and for those in hand besides. -/
def Balanced (s : Storage) (hand : List Request) : Prop :=
  s.allocator.Holds (Request.blocks (s.requests ++ hand)) (Request.bytes (s.requests ++ hand))

/-- The blocks that doing a task asks for. -/
def asksDoing (s : Storage) : Task → List Nat
  | .submit o =>
    if s.isDestroyed || o.kind.isData && !s.capabilities.supports o.kind then [] else o.blocks
  | .run r => r.wants
  | _ => []

/-- The blocks that the next step asks for. -/
def asks (s : Storage) : List Nat :=
  match s.stack with
  | [] => []
  | task :: _ => s.asksDoing task

/-- The blocks that a move asks for. -/
def asksOf (s : Storage) : Action → List Nat
  | .makeRequest kind offset size =>
    if s.isDestroyed then []
    else Order.blocks
      { kind, offset, size, payload := if kind = .write then some (Bytes.zeros size) else none }
  | _ => []

section Balanced

variable {s s' : Storage} {hand : List Request} {r r' : Request}

/-- Two states are balanced alike if they hold as much and their allocators agree. -/
theorem Balanced.congr {hand' : List Request} (bal : s.Balanced hand)
    (allocator : s'.allocator = s.allocator)
    (blocks : Request.blocks (s'.requests ++ hand') = Request.blocks (s.requests ++ hand))
    (bytes : Request.bytes (s'.requests ++ hand') = Request.bytes (s.requests ++ hand)) :
    s'.Balanced hand' := by
  rw [Balanced, allocator, blocks, bytes]
  exact bal

attribute [local simp] requests

theorem Balanced.push {tasks : List Task}
    (bal : s.Balanced (tasks.flatMap (·.requests) ++ hand)) : (s.push tasks).Balanced hand := by
  refine bal.congr rfl ?_ ?_ <;> simp [Storage.push] <;> omega

theorem Balanced.reply {reply : Reply} (bal : s.Balanced hand) : (s.reply reply).Balanced hand :=
  Balanced.push (by simpa using bal)

theorem Balanced.replace (bal : s.Balanced (r :: hand)) (same : r'.leases = r.leases) :
    s.Balanced (r' :: hand) :=
  bal.congr rfl (by simp [same]) (by simp [same])

theorem Balanced.discard (bal : s.Balanced (r :: hand)) : (s.discard r).Balanced hand := by
  obtain ⟨count, sum⟩ := bal
  refine Allocator.Holds.releaseAll ⟨?_, ?_⟩ <;> simp [Storage.discard] at count sum ⊢ <;> omega

theorem Balanced.enqueue (bal : s.Balanced (r :: hand)) (queued : s.enqueue r = .ok s') :
    s'.Balanced hand := by
  obtain ⟨-, rfl⟩ := enqueue_eq_ok_iff.mp queued
  have same : r.queued.leases = r.leases := rfl
  refine bal.congr rfl ?_ ?_ <;> simp [same] <;> omega

theorem Balanced.letGo (bal : s.Balanced (r :: hand)) : (s.letGo r).Balanced hand := by
  unfold Storage.letGo
  split
  · exact .push (by simpa using bal)
  · exact bal.discard

/-- A request whose blocks have just been handed out. -/
theorem Balanced.of_holds (same : s'.requests = s.requests)
    (holds : s'.allocator.Holds (Request.blocks (s.requests ++ hand) + r.leases.length)
      (Request.bytes (s.requests ++ hand) + r.leases.sum)) : s'.Balanced (r :: hand) := by
  obtain ⟨count, sum⟩ := holds
  constructor
  · rw [count, same]
    simp
    omega
  · rw [sum, same]
    simp
    omega

theorem Balanced.make {o : Order} (bal : s.Balanced hand) (affords : s.allocator.Affords o.blocks) :
    (∃ s', s.make o = (none, s') ∧ s'.Balanced hand) ∨
    ∃ r s', s.make o = (some r, s') ∧ s'.Balanced (r :: hand) := by
  unfold Storage.make
  obtain ⟨a, asked, holds⟩ | ⟨a, asked, holds, affords⟩ := Allocator.Holds.allocate bal affords
  · rw [asked]
    exact .inl ⟨_, rfl, holds⟩
  rw [asked]
  cases payload : o.payload with
  | none => exact .inr ⟨_, _, rfl, .of_holds rfl holds⟩
  | some data =>
    rw [payload] at affords
    dsimp only
    obtain ⟨b, asked, holds⟩ | ⟨b, asked, holds, -⟩ := holds.allocate affords
    · rw [asked]
      exact .inl ⟨_, rfl, holds.release⟩
    · rw [asked]
      exact .inr ⟨_, _, rfl, .of_holds rfl (by simpa [Request.leases, Nat.add_assoc] using holds)⟩

theorem Balanced.admitBarrier (bal : s.Balanced (r :: hand)) :
    (s.admitBarrier r).Balanced hand := by
  unfold Storage.admitBarrier
  split
  case h_1 s' queued => exact .push (by simpa using bal.enqueue queued)
  case h_2 => exact bal.discard.reply

theorem Balanced.admitData (bal : s.Balanced (r :: hand)) : (s.admitData r).Balanced hand := by
  unfold Storage.admitData
  split <;> exact .push (by simpa using bal)

theorem Balanced.submit {o : Order} (bal : s.Balanced hand)
    (affords : s.allocator.Affords (s.asksDoing (.submit o))) : (s.submit o).Balanced hand := by
  unfold Storage.submit
  unfold Storage.asksDoing at affords
  split
  · exact bal.reply
  split
  · exact bal.reply
  simp_all only [Bool.or_self, Bool.not_eq_true]
  obtain ⟨s', refused, bal⟩ | ⟨r, s', made, bal⟩ := bal.make affords
  · rw [refused]
    exact bal.reply
  · rw [made]
    dsimp only
    split
    · exact bal.admitBarrier
    · exact bal.admitData

theorem Balanced.afterOpening {opening : Except Error Unit} (bal : s.Balanced (r :: hand)) :
    (s.afterOpening r opening).Balanced hand := by
  have marked (e : Error) : s.Balanced (r.poison e :: hand) := bal.replace rfl
  unfold Storage.afterOpening
  split
  · exact bal.discard.reply
  split
  · split
    case h_1 e _ => exact .push (by simpa using marked e)
    case h_2 => exact .push (by simpa using bal)
  · exact .push (by simpa using bal)

theorem Balanced.enter (bal : s.Balanced (r :: hand)) : (s.enter r).Balanced hand := by
  unfold Storage.enter
  split
  · split
    case h_1 s' queued => exact (bal.enqueue queued).reply
    case h_2 => exact bal.discard.reply
  · exact .push (by simpa using bal)

theorem Balanced.drain (bal : s.Balanced hand) : s.drain.Balanced hand := by
  unfold Storage.drain
  split
  · exact bal
  · exact .push (bal.congr rfl rfl rfl)

theorem Balanced.drainNext (bal : s.Balanced hand) : s.drainNext.Balanced hand := by
  unfold Storage.drainNext
  obtain ⟨none, -⟩ | ⟨r, q, some, head, -⟩ := s.startable?_cases
  · rw [none]
    exact bal
  · rw [some]
    refine .push (bal.congr rfl ?_ ?_) <;> simp [head] <;> omega

theorem Balanced.leaseBuffer {size : Nat} (bal : s.Balanced (r :: hand))
    (affords : s.allocator.Affords [size]) :
    (∃ s', s.leaseBuffer r size = (none, s') ∧ s'.Balanced (r :: hand)) ∨
    ∃ s', s.leaseBuffer r size = (some { r with buffer := some size }, s') ∧
      s'.Balanced ({ r with buffer := some size } :: hand) := by
  unfold Storage.leaseBuffer
  obtain ⟨a, asked, holds⟩ | ⟨a, asked, holds, -⟩ := Allocator.Holds.allocate bal affords
  · rw [asked]
    exact .inl ⟨_, rfl, holds⟩
  · rw [asked]
    refine .inr ⟨_, rfl, Allocator.Holds.releaseAll ?_⟩
    obtain ⟨count, sum⟩ := holds
    constructor <;> simp [Request.leases] at count sum ⊢ <;> omega

theorem Balanced.prepare (bal : s.Balanced (r :: hand)) (unmarked : r.error = none)
    (affords : s.allocator.Affords r.wants) :
    (∃ s', s.prepare r = (none, s') ∧ s'.Balanced (r :: hand)) ∨
    ∃ r' s', s.prepare r = (some r', s') ∧ s'.Balanced (r' :: hand) := by
  unfold Storage.prepare
  split
  case h_1 isRead =>
    have affords : s.allocator.Affords [r.size] := by
      simpa [Request.wants, unmarked, isRead] using affords
    obtain ⟨s', refused, bal⟩ | ⟨s', granted, bal⟩ := bal.leaseBuffer affords
    · rw [refused]
      exact .inl ⟨s', rfl, bal⟩
    · rw [granted]
      exact .inr ⟨_, s', rfl, bal.replace rfl⟩
  case h_2 isStat =>
    have affords : s.allocator.Affords [Request.statsSize] := by
      simpa [Request.wants, unmarked, isStat] using affords
    obtain ⟨s', refused, bal⟩ | ⟨s', granted, bal⟩ := bal.leaseBuffer affords
    · rw [refused]
      exact .inl ⟨s', rfl, bal⟩
    · rw [granted]
      exact .inr ⟨_, s', rfl, bal.replace rfl⟩
  case h_3 => exact .inr ⟨r, s, rfl, bal⟩

theorem Balanced.dispatch (bal : s.Balanced (r :: hand)) : (s.dispatch r).Balanced hand := by
  obtain ⟨h, n, sent, -⟩ | ⟨result, n, sent, -⟩ := s.dispatch_cases r
  · rw [sent]
    refine bal.congr rfl ?_ ?_ <;> simp <;> omega
  · rw [sent]
    refine bal.congr rfl ?_ ?_ <;> simp <;> omega

theorem Balanced.run (bal : s.Balanced (r :: hand)) (affords : s.allocator.Affords r.wants) :
    (s.run r).Balanced hand := by
  have started : (s.count r).Balanced (r.started :: hand) :=
    (bal.replace rfl : s.Balanced (r.started :: hand))
  cases error : r.error with
  | some e =>
    rw [run_of_error error]
    exact started.push
  | none =>
    obtain ⟨s', refused, bal⟩ | ⟨r', s', prepared, bal⟩ := started.prepare error affords
    · rw [run_of_refused error refused]
      exact bal.push
    · rw [run_of_prepared error prepared]
      exact bal.dispatch

theorem Balanced.recordResult {result : Except Error Nat} (bal : s.Balanced (r :: hand)) :
    (s.recordResult r result).Balanced hand := by
  have same : (r.recorded result).leases = r.leases := by
    cases result <;> rfl
  obtain ⟨emitter, announced, recorded⟩ := s.recordResult_cases r result
  rw [recorded]
  cases announced <;> refine bal.congr rfl ?_ ?_ <;> simp [same] <;> omega

theorem Balanced.settle {dispatched : Bool} (bal : s.Balanced (r :: hand)) :
    (s.settle r dispatched).Balanced hand := by
  have same : ∀ other, (r.fallout other).leases = other.leases := by
    intro other
    unfold Request.fallout
    split <;> rfl
  have queue := Request.blocks_map same s.queue
  rw [settle_eq]
  refine bal.congr rfl ?_ ?_ <;> simp [queue] <;> omega

theorem Balanced.observe {idle : Bool} (bal : s.Balanced (r :: hand)) :
    (s.observe r idle).Balanced hand := by
  unfold Storage.observe
  split
  · exact bal.push
  · exact .push (bal.replace rfl)

theorem Balanced.tell {receiver : Receiver} {result : Except Error Payload}
    (bal : s.Balanced hand) : (s.tell receiver result).Balanced hand := by
  unfold Storage.tell
  split
  · exact .push (by simpa using bal)
  · exact bal.congr rfl rfl rfl

theorem Balanced.conclude {idle : Bool} (bal : s.Balanced (r :: hand)) :
    (s.conclude r idle).Balanced hand := by
  unfold Storage.conclude
  split
  · exact bal.push
  · exact .tell (.push (bal.replace rfl))

theorem Balanced.release {idle : Bool} (bal : s.Balanced (r :: hand)) :
    (s.release r idle).Balanced hand := by
  have emptied : ({ s with allocator := s.allocator.releaseAll r.buffer.toList } :
      Storage).Balanced (r.emptied :: hand) := by
    refine Allocator.Holds.releaseAll ?_
    obtain ⟨count, sum⟩ := bal
    constructor <;> simp [Request.leases, Request.emptied] at count sum ⊢ <;> omega
  unfold Storage.release
  split
  case h_1 | h_2 | h_3 => exact emptied.push
  case h_4 =>
    split
    · refine .push (bal.congr rfl ?_ ?_) <;> simp <;> omega
    · exact bal.push
  case h_5 => exact bal.push

theorem Balanced.free {idle : Bool} (bal : s.Balanced (r :: hand)) :
    (s.free r idle).Balanced hand := by
  unfold Storage.free
  dsimp only
  split
  · exact .push (by simpa using bal.discard)
  · exact bal.discard

theorem Balanced.advance {stage : Stage} (bal : s.Balanced (r :: hand)) :
    (s.advance r stage).Balanced hand := by
  cases stage with
  | record => exact bal.recordResult
  | settle => exact bal.settle
  | observe => exact bal.observe
  | conclude => exact bal.conclude
  | release => exact bal.release
  | free => exact bal.free

theorem Balanced.deliver {d : Delivery} (bal : s.Balanced hand) : (s.deliver d).Balanced hand := by
  unfold Storage.deliver
  split
  · exact bal.congr rfl rfl rfl
  · exact .push (by simpa using bal)

theorem Balanced.teardown {orphans : List Request} (bal : s.Balanced (orphans ++ hand)) :
    (s.teardown orphans).Balanced hand := by
  unfold Storage.teardown
  split
  · exact bal.congr rfl rfl rfl
  · exact .push (by simpa using bal)

theorem Balanced.dropQueue (bal : s.Balanced hand) : s.dropQueue.Balanced hand := by
  have all (rs : List Request) : ∀ s : Storage, s.Balanced (rs ++ hand) →
      (rs.foldl Storage.discard s).Balanced hand := by
    induction rs with
    | nil => exact fun s bal => bal
    | cons r rs ih => exact fun s bal => ih _ bal.discard
  refine all s.queue _ (bal.congr rfl ?_ ?_) <;> simp <;> omega

theorem Balanced.resume {reply : Reply} {task : Task} (bal : s.Balanced task.requests)
    (resumed : s.resume? reply task = some s') : s'.Balanced [] := by
  unfold Storage.resume? at resumed
  cases task with
  | awaitOpening r =>
    cases reply with
    | done result =>
      obtain rfl := Option.some.inj resumed
      exact bal.afterOpening
    | _ => simp at resumed
  | awaitClosing o =>
    cases reply with
    | done result =>
      cases result with
      | ok _ =>
        obtain rfl := Option.some.inj resumed
        exact .push (by simpa using bal)
      | error e =>
        obtain rfl := Option.some.inj resumed
        exact .reply (by simpa using bal)
    | _ => simp at resumed
  | awaitCall number =>
    cases reply with
    | done result =>
      cases result with
      | ok _ =>
        obtain rfl := Option.some.inj resumed
        exact .reply (by simpa using bal)
      | error e =>
        obtain rfl := Option.some.inj resumed
        exact .reply (bal.congr rfl rfl rfl)
    | _ => simp at resumed
  | _ => simp at resumed

/-- Every step leaves the requests that it deals with in their places, or gives their blocks
back. -/
theorem Balanced.step (bal : s.Balanced []) (affords : s.allocator.Affords s.asks)
    (next : s.step = some s') : s'.Balanced [] := by
  unfold Storage.step at next
  unfold Storage.asks at affords
  cases top : s.stack with
  | nil =>
    simp only [top] at next
    split at next
    · simp at next
    · obtain rfl := Option.some.inj next
      exact bal.dropQueue
  | cons task rest =>
    have taken : ({ s with stack := rest } : Storage).Balanced task.requests := by
      refine bal.congr rfl ?_ ?_ <;> simp [top] <;> omega
    simp only [top] at next affords
    cases task with
    | client code | awaitOpening r | awaitClosing o | awaitCall n => simp at next
    | answer reply =>
      cases rest with
      | nil => simp at next
      | cons task rest =>
        have awaited : ({ s with stack := rest } : Storage).Balanced task.requests := by
          refine taken.congr rfl ?_ ?_ <;> simp <;> omega
        exact awaited.resume next
    | submit o =>
      obtain rfl := Option.some.inj next
      exact Balanced.submit (by simpa using taken) affords
    | enter r =>
      obtain rfl := Option.some.inj next
      exact taken.enter
    | drain =>
      obtain rfl := Option.some.inj next
      exact taken.drain
    | drainNext =>
      obtain rfl := Option.some.inj next
      exact taken.drainNext
    | run r =>
      obtain rfl := Option.some.inj next
      exact taken.run affords
    | pipeline r stage =>
      obtain rfl := Option.some.inj next
      exact taken.advance
    | deliver d =>
      obtain rfl := Option.some.inj next
      exact taken.deliver
    | teardown orphans =>
      obtain rfl := Option.some.inj next
      exact Balanced.teardown (by simpa using taken)

theorem Balanced.call {op : Operation} {receiver : Option Receiver} {observer : Option Observer}
    (bal : s.Balanced []) : (s.call op receiver observer).Balanced [] := by
  have ordered (tasks : List Task) (nobody : tasks.flatMap (·.requests) = []) :
      (s.push tasks).Balanced [] := .push (by simpa [nobody] using bal)
  unfold Storage.call
  cases op with
  | opening =>
    dsimp only
    split
    · cases receiver with
      | none => exact bal.reply
      | some receiver => exact bal.reply.tell
    · exact ordered _ rfl
  | _ => exact ordered _ rfl

theorem Balanced.register {event : Event} {ttl : Ttl} {callback : Callback}
    (bal : s.Balanced hand) : (s.register event ttl callback).Balanced hand := by
  obtain ⟨reply, emitter, registered, -⟩ := register_cases s event ttl callback
  rw [registered]
  exact .reply (bal.congr rfl rfl rfl)

/-- A request that is outside may be taken in hand. -/
theorem Balanced.take {id : RequestId} (bal : s.Balanced hand) (unique : ∀ id, s.copies id ≤ 1)
    (found : s.find? id = some r) : (s.take id).Balanced (r :: hand) := by
  obtain ⟨before, after, split, taken, -⟩ :=
    outside_eq_of_find? (countP_outside_le unique id) found
  have queue : (s.take id).queue = s.queue := rfl
  have stack : (s.take id).stack = s.stack := rfl
  refine bal.congr rfl ?_ ?_ <;> simp [split, taken, queue, stack] <;> omega

/-- Every move leaves the requests that it deals with in their places, or gives their blocks
back. -/
theorem Balanced.act {a : Action} (bal : s.Balanced []) (unique : ∀ id, s.copies id ≤ 1)
    (affords : s.allocator.Affords (s.asksOf a)) : (s.act a).Balanced [] := by
  cases a with
  | call op receiver observer => exact bal.call
  | promise op => exact Balanced.call (.push (bal.congr rfl rfl rfl))
  | makeRequest kind offset size =>
    simp only [Storage.act, Storage.makeRequest, asksOf] at affords ⊢
    split
    · exact bal.reply
    · rename_i living
      rw [if_neg living] at affords
      obtain ⟨s', refused, bal⟩ | ⟨r, s', made, bal⟩ := bal.make affords
      · rw [refused]
        exact bal.reply
      · rw [made]
        refine .reply (bal.congr rfl ?_ ?_) <;> simp [handOut] <;> omega
  | push id =>
    simp only [Storage.act, Storage.pushRequest]
    split
    · exact bal.reply
    · rename_i r found
      have taken := bal.take unique found
      split
      case h_1 s' queued => exact .push (by simpa using taken.enqueue queued)
      case h_2 => exact Balanced.letGo taken.reply
  | shift =>
    simp only [Storage.act, Storage.shift]
    split
    · exact bal.reply
    · rename_i r rest head
      have same : ({ r with phase := .created } : Request).leases = r.leases := rfl
      refine .reply (bal.congr rfl ?_ ?_) <;> simp [handOut, head, same] <;> omega
  | complete id v =>
    simp only [Storage.act, Storage.complete]
    split
    · exact bal.reply
    · rename_i r found
      have taken : ((s.take id).reply .unit).Balanced [r] := .reply (bal.take unique found)
      split
      · exact .push (taken.replace rfl)
      · exact taken.discard
  | abandon id =>
    simp only [Storage.act, Storage.abandon]
    split
    · exact bal.reply
    · rename_i r found
      have taken : ((s.take id).reply .unit).Balanced [r] := .reply (bal.take unique found)
      split
      · exact taken.letGo
      · exact taken.discard
  | edit id e =>
    have same (r : Request) : (if r.id = id then e.apply r else r).leases = r.leases := by
      split
      · cases e <;> rfl
      · rfl
    have outside := Request.blocks_map same s.outside
    refine .reply (bal.congr rfl ?_ ?_) <;> simp [outside]
  | register event ttl callback => exact bal.register
  | listen event ttl callback =>
    simp only [Storage.act, Storage.listen]
    split
    · exact bal.reply
    · exact bal.register
  | announce notice => exact .push (bal.congr rfl rfl rfl)
  | leave =>
    simp only [Storage.act, Storage.leave]
    split
    · rename_i top
      refine bal.congr rfl ?_ ?_ <;> simp [top]
    · exact bal
  | collect =>
    simp only [Storage.act, Storage.collect]
    split
    · rename_i top
      refine bal.congr rfl ?_ ?_ <;> simp [top]
    · exact bal
  | _ => exact .reply (bal.congr rfl rfl rfl)

end Balanced

end Storage

end StorageEngine
