import StorageEngine.Proofs.FlatMemory
import StorageEngine.Proofs.Performed

/-!
# A storage over memory is a byte array

A storage over a memory device does what a simple machine does: a point of life, an array of bytes
and a length (`ByteMachine`).  Whatever is called on either, callers are told the same, and after
each call the storage is at rest (`Scene.play_eq_machine`).

`ByteMachine.Mirrors` relates the two.  A request that has been performed changes a storage in few
ways that matter (`Session.Ends`), and these are the ways of the machine, for data operations
(`Mirrors.perform_opened`, `Mirrors.perform_closed`) as for barriers (`Mirrors.perform_barrier`).
So each call keeps the two alike (`Mirrors.answered`), and any number of calls does
(`Mirrors.play_eq`).
-/

namespace StorageEngine

/-- What a client takes a call to be: its answer, what callers have been told by then, and how the
storage stands when it has returned. -/
structure Summary where
  answer : Option Reply
  told : List (Callback × Except Error Payload)
  ready : Ready
  pending : Nat := 0
  queued : Nat := 0
  balanced : Bool := true

/-- Calls made one after the other on a scene. -/
def Scene.play (fuel : Nat) (x : Scene) : List (Operation × Client) → List Summary
  | [] => []
  | (op, client) :: calls =>
    let (answer, called, y) := x.call fuel op client
    { answer
      told := called.filterMap Invocation.told?
      ready := y.node.storage.ready
      pending := y.node.storage.pending
      queued := y.node.storage.queue.length
      balanced := y.node.storage.allocator.isBalanced } :: play fuel y calls

/-- A point of life, and bytes with a length. -/
structure ByteMachine where
  ready : Ready := .unopened
  bytes : Nat → UInt8 := fun _ => 0
  length : Nat := 0

namespace ByteMachine

/-- What an operation does, and its result. -/
def perform (m : ByteMachine) : Operation → Except Error Payload × ByteMachine
  | .opening => (.ok .unit, { m with ready := .opened })
  | .read offset size =>
    if m.length < offset + size then (.error (.backend Code.outOfRange), m)
    else (.ok (.bytes ((List.range' offset size).map m.bytes)), m)
  | .write offset data =>
    if Word.top < offset + data.length then (.error (.backend Code.invalid), m)
    else
      (.ok .unit, { m with
        bytes := fun i =>
          if offset ≤ i ∧ i < offset + data.length then data.getD (i - offset) 0 else m.bytes i
        length := max m.length (offset + data.length) })
  | .delete offset size =>
    (.ok .unit, { m with
      bytes := fun i =>
        if offset ≤ i ∧ i < offset + size ∧ i < m.length then 0 else m.bytes i })
  | .stat => (.ok (.stats { size := m.length }), m)
  | .closing => (.ok .unit, { m with ready := if m.ready = .opened then .closed else m.ready })
  | .destroying => (.ok .unit, { m with ready := .destroyed })

/-- A call: it is refused, or its caller is told a result.  The first data operation opens, and one
that comes after a closing is told so. -/
def step (m : ByteMachine) (op : Operation) :
    Except Error (Except Error Payload × ByteMachine) :=
  if m.ready = .destroyed then .error .fault
  else if (op.order none none).kind.isData then
    if m.ready = .closed then .ok (.error .notReady, m)
    else .ok ({ m with ready := .opened }.perform op)
  else .ok (m.perform op)

/-- Calls made one after the other. -/
def play (m : ByteMachine) : List (Operation × Client) → List Summary
  | [] => []
  | (op, client) :: calls =>
    match m.step op with
    | .error e =>
      { answer := some (.done (.error e)), told := [], ready := m.ready } :: play m calls
    | .ok (result, m') =>
      { answer := some (.done (.ok ())), told := [(client.code, result)], ready := m'.ready } ::
        play m' calls

/-- A paged store holds the bytes of the machine. -/
structure Stores (m : ByteMachine) (store : Sparse) : Prop where
  paged : store.IsPaged
  length : store.length = m.length
  bytes : ∀ i, store.get i = m.bytes i

/-- A storage over memory that stands as the machine does.  Until it is destroyed, its device is
attached and holds the bytes; it asks for an opening until it was opened, and no opening fails. -/
structure Mirrors (m : ByteMachine) (x : Session (Device × Disk)) (hand : List Request) : Prop where
  calm : x.storage.Calm hand
  unparked : x.parked = []
  capabilities : x.storage.capabilities = .readWrite
  ready : x.storage.ready = m.ready
  device : ∃ store, x.device.1 = .memory store ∧ (m.ready ≠ .destroyed → m.Stores store)
  attached : m.ready ≠ .destroyed → x.storage.attached = true
  needsOpen : m.ready ≠ .destroyed → x.storage.needsOpen = decide (m.ready = .unopened)
  openError : x.storage.openError = none

variable {m : ByteMachine} {x y : Session (Device × Disk)} {r : Request} {hand : List Request}

section Data

/-- A data request changes nothing but what the device holds. -/
theorem Mirrors.data {world : Device × Disk} {e : Request} {m' : ByteMachine} {store : Sparse}
    (mirrors : m.Mirrors x (r :: hand))
    (ends : x.Ends (x.perform Device.respond r) world x.storage.needsOpen e) (data : e.kind.isData)
    (same : m'.ready = m.ready) (memory : world.1 = .memory store) (stores : m'.Stores store) :
    m'.Mirrors (x.perform Device.respond r) hand := by
  have still : ({ x.storage with needsOpen := x.storage.needsOpen } : Storage).transition e =
      x.storage := by
    unfold Storage.transition
    cases e.error <;> cases kind : e.kind <;> simp_all [Kind.isData]
  have survives : ¬ e.Razes := fun razes => by simp [razes.1, Kind.isData] at data
  obtain ⟨device, parked, capabilities, ready, needsOpen, openError, attached, -⟩ := ends
  rw [still] at ready needsOpen openError
  exact {
    calm := Session.calm_perform _ mirrors.calm
    unparked := parked.trans mirrors.unparked
    capabilities := capabilities.trans mirrors.capabilities
    ready := by rw [ready, same, mirrors.ready]
    device := ⟨store, by rw [device, memory], fun _ => stores⟩
    attached := fun living => by
      rw [attached, mirrors.attached (same ▸ living)]
      simp [survives]
    needsOpen := fun living => by rw [needsOpen, same, mirrors.needsOpen (same ▸ living)]
    openError := openError.trans mirrors.openError }

theorem respond_memory (store : Sparse) (disk : Disk) (h : Handler) (r : Request) :
    Device.respond (.memory store, disk) h r =
      (.verdict (store.serve h r).1, .memory (store.serve h r).2, disk) :=
  rfl

variable {store : Sparse}

theorem Stores.read (stores : m.Stores store) {offset size : Nat}
    (fits : offset + size ≤ Word.top) :
    store.read offset (Bytes.zeros size) =
      if m.length < offset + size then .error (.backend Code.outOfRange)
      else .ok ((List.range' offset size).map m.bytes) := by
  have length := Bytes.length_zeros size
  have bytes : store.get = m.bytes := funext stores.bytes
  rw [Sparse.read_eq stores.paged (by rwa [length]), length, stores.length, bytes]

theorem Stores.write (stores : m.Stores store) {offset : Nat} {data : Bytes}
    (fits : offset + data.length ≤ Word.top) :
    ∃ store', store.write offset data = .ok store' ∧
      (m.perform (.write offset data)).2.Stores store' := by
  obtain ⟨store', written, paged, -, length, bytes⟩ := Sparse.write_of_fits stores.paged fits
  refine ⟨store', written, ?_⟩
  have accepted : ¬ Word.top < offset + data.length := Nat.not_lt.mpr fits
  simp only [perform, accepted, if_false]
  exact ⟨paged, by rw [length, stores.length], fun i => by rw [bytes, stores.bytes]⟩

theorem Stores.delete (stores : m.Stores store) (offset size : Nat) :
    (m.perform (.delete offset size)).2.Stores (store.erase offset size).2 := by
  obtain ⟨paged, -, length, bytes⟩ := Sparse.erase_eq stores.paged offset size
  refine ⟨paged, by rw [length, stores.length]; rfl, fun i => ?_⟩
  rw [bytes, stores.bytes, stores.length]
  rfl

/-- How the device ends the request of a data operation. -/
theorem Stores.serve (stores : m.Stores store) (disk : Disk) {op : Operation}
    (data : (op.order none none).kind.isData)
    (fits : ∀ offset size, op = .read offset size → offset + size ≤ Word.top)
    (receiver : Option Receiver) (observer : Option Observer) (id : RequestId) :
    let o := op.order receiver observer
    let r := (o.request id (o.payload.getD []) (o.payload.map List.length)).started.prepared
    let served := Device.respond (.memory store, disk) o.kind.dataHandler r
    let e := (served.1.apply r).1.recorded (served.1.apply r).2
    e.result.map Payload.plain = (m.perform op).1 ∧ e.kind = o.kind ∧ e.receiver = receiver ∧
      (m.perform op).2.ready = m.ready ∧
      ∃ store', served.2.1 = .memory store' ∧ (m.perform op).2.Stores store' := by
  intro o r served e
  simp only [e, served, respond_memory]
  cases op with
  | opening | closing | destroying => simp [Operation.order, Kind.isData] at data
  | read offset size =>
    have read := stores.read (fits offset size rfl)
    by_cases past : m.length < offset + size
    · have performed : m.perform (.read offset size) = (.error (.backend Code.outOfRange), m) :=
        if_pos past
      have refused : store.serve o.kind.dataHandler r = _ :=
        Sparse.serve_of_unread (read.trans (if_pos past))
      rw [refused, performed]
      exact ⟨rfl, rfl, rfl, rfl, store, rfl, stores⟩
    · have performed : m.perform (.read offset size) =
          (.ok (.bytes ((List.range' offset size).map m.bytes)), m) := if_neg past
      have served : store.serve o.kind.dataHandler r = _ :=
        Sparse.serve_of_read (read.trans (if_neg past))
      rw [served, performed]
      refine ⟨?_, rfl, rfl, rfl, store, rfl, stores⟩
      -- The reported size covers the whole buffer.
      have whole := List.take_length (l := (List.range' offset size).map m.bytes)
      exact congrArg (fun bytes => Except.ok (Payload.bytes bytes)) whole
  | write offset bytes =>
    by_cases overflow : Word.top < offset + bytes.length
    · have performed : m.perform (.write offset bytes) = (.error (.backend Code.invalid), m) :=
        if_pos overflow
      have refused : store.serve o.kind.dataHandler r = _ :=
        Sparse.serve_of_unwritten (Sparse.write_of_overflow overflow)
      rw [refused, performed]
      exact ⟨rfl, rfl, rfl, rfl, store, rfl, stores⟩
    · obtain ⟨store', written, stores'⟩ := stores.write (Nat.not_lt.mp overflow)
      have performed : m.perform (.write offset bytes) = (.ok .unit, _) := if_neg overflow
      have served : store.serve o.kind.dataHandler r = _ := Sparse.serve_of_written written
      rw [served]
      rw [performed] at stores' ⊢
      exact ⟨rfl, rfl, rfl, rfl, store', rfl, stores'⟩
  | delete offset size => exact ⟨rfl, rfl, rfl, rfl, _, rfl, stores.delete offset size⟩
  | stat =>
    have length : m.perform .stat = (.ok (.stats { size := store.length }), m) := by
      rw [stores.length]
      rfl
    rw [length]
    exact ⟨rfl, rfl, rfl, rfl, store, rfl, stores⟩

/-- A data operation on an open storage. -/
theorem Mirrors.perform_opened {op : Operation} {client : Client} {id : RequestId}
    (mirrors : m.Mirrors x (r :: hand)) (opened : m.ready = .opened)
    (data : (op.order none none).kind.isData)
    (fits : ∀ offset size, op = .read offset size → offset + size ≤ Word.top)
    (made : let o := op.order (some (.call client.code)) client.observer
      r = o.request id (o.payload.getD []) (o.payload.map List.length)) :
    (m.perform op).2.Mirrors (x.perform Device.respond r) hand ∧
      (x.perform Device.respond r).told = x.told ++ [(client.code, (m.perform op).1)] := by
  let o := op.order (some (.call client.code)) client.observer
  let asked := o.request id (o.payload.getD []) (o.payload.map List.length)
  obtain rfl : r = asked := made
  have living : m.ready ≠ .destroyed := by simp [opened]
  obtain ⟨store, memory, stores⟩ := mirrors.device
  have isData : o.kind.isData := by cases op <;> exact data
  have ready : x.storage.ready = .opened := mirrors.ready.trans opened
  have supported : x.storage.capabilities.supports o.kind := by
    rw [mirrors.capabilities]
    cases op <;> rfl
  have routed : x.storage.destination o.kind =
      (.handler o.kind.dataHandler, x.storage.needsOpen) := by
    cases kind : o.kind <;> simp_all [Storage.destination, Storage.route, Kind.isData]
  have ends := Session.ends_of_handler (r := asked) mirrors.calm.lenient rfl
    (mirrors.attached living) routed
  have device : x.device = (.memory store, x.device.2) := Prod.ext memory rfl
  rw [device] at ends
  obtain ⟨result, same, receiver, still, store', memory', stores'⟩ :=
    (stores living).serve x.device.2 data fits (some (.call client.code)) client.observer id
  refine ⟨mirrors.data ends ((congrArg Kind.isData same).trans isData) still memory' stores', ?_⟩
  rw [ends.told, Request.told_notification receiver]
  exact congrArg (fun result => x.told ++ [(client.code, result)]) result

/-- A data operation on a storage that has been closed. -/
theorem Mirrors.perform_closed {client : Client} (mirrors : m.Mirrors x (r :: hand))
    (closed : m.ready = .closed) (data : r.kind.isData) (clear : r.error = none)
    (receiver : r.receiver = some (.call client.code)) :
    m.Mirrors (x.perform Device.respond r) hand ∧
      (x.perform Device.respond r).told = x.told ++ [(client.code, .error .notReady)] := by
  have living : m.ready ≠ .destroyed := by simp [closed]
  obtain ⟨store, memory, stores⟩ := mirrors.device
  have ready : x.storage.ready = .closed := mirrors.ready.trans closed
  have routed : x.storage.destination r.kind =
      (.finished (.error .notReady), x.storage.needsOpen) := by
    cases kind : r.kind <;> simp_all [Storage.destination, Storage.route, Kind.isData]
  have ends := Session.ends_of_finished mirrors.calm.lenient clear (mirrors.attached living) routed
  have same : (r.started.prepared.recorded (.error .notReady)).kind = r.kind := r.kind_prepared
  have heard : (r.started.prepared.recorded (.error .notReady)).receiver =
      some (.call client.code) := r.receiver_prepared.trans receiver
  refine ⟨mirrors.data ends ((congrArg Kind.isData same).trans data) rfl memory (stores living), ?_⟩
  rw [ends.told, Request.told_notification heard]
  rfl

end Data

section Barrier

variable {op : Operation}

/-- A barrier that has ended with success leaves the storage as the machine leaves it. -/
theorem Mirrors.of_ends {world : Device × Disk} {e : Request} {store : Sparse}
    (mirrors : m.Mirrors x (r :: hand)) (living : m.ready ≠ .destroyed)
    (ends : x.Ends y world (x.storage.needsOpen && decide (e.kind ≠ .opening)) e)
    (calm : y.storage.Calm hand) (success : e.error = none)
    (kind : e.kind = (op.order none none).kind) (barrier : e.kind.isBarrier)
    (memory : world.1 = .memory store) (stores : e.kind ≠ .destroying → m.Stores store) :
    (m.perform op).2.Mirrors y hand := by
  have alive : x.storage.ready ≠ .destroyed := mirrors.ready ▸ living
  have survives (living' : (m.perform op).2.ready ≠ .destroyed) : e.kind ≠ .destroying := by
    intro ends
    cases op <;> simp_all [Operation.order, perform]
  have ready : y.storage.ready = (m.perform op).2.ready := by
    rw [ends.ready]
    cases op with
    | closing =>
      simp only [Storage.transition, success, kind, Operation.order, perform, ← mirrors.ready]
      split <;> rfl
    | _ => simp_all [Storage.transition, Operation.order, Kind.isBarrier, perform]
  have asks (living' : (m.perform op).2.ready ≠ .destroyed) :
      y.storage.needsOpen = decide ((m.perform op).2.ready = .unopened) := by
    rw [ends.needsOpen]
    cases op with
    | closing =>
      by_cases opened : m.ready = .opened <;>
        simp [Storage.transition, success, kind, Operation.order, perform, mirrors.ready, opened,
          mirrors.needsOpen living]
    | _ => simp_all [Storage.transition, Operation.order, Kind.isBarrier, perform]
  have openError : y.storage.openError = none := by
    have before := mirrors.openError
    rw [ends.openError]
    cases op with
    | closing =>
      simp only [Storage.transition, success, kind, Operation.order]
      split <;> exact before
    | _ => simp_all [Storage.transition, Operation.order, Kind.isBarrier]
  have bytes : (m.perform op).2.bytes = m.bytes ∧ (m.perform op).2.length = m.length := by
    cases op <;> simp_all [perform, Operation.order, Kind.isBarrier]
  exact {
    calm
    unparked := ends.parked.trans mirrors.unparked
    capabilities := ends.capabilities.trans mirrors.capabilities
    ready
    device := ⟨store, by rw [ends.device, memory], fun living' =>
      have stores := stores (survives living')
      ⟨stores.paged, bytes.2 ▸ stores.length, bytes.1 ▸ stores.bytes⟩⟩
    attached := fun living' => by
      simp [ends.attached, mirrors.attached living, Request.Razes, survives living']
    needsOpen := asks
    openError }

/-- The device ends every barrier with success, and keeps what it holds unless it is destroyed. -/
theorem serve_of_barrier (store : Sparse) {h : Handler}
    (barrier : h ∈ [Handler.openReadWrite, .close, .destroy]) (r : Request) :
    ∃ store', store.serve h r = ({ result := .ok (some 0) }, store') ∧
      (h ≠ .destroy → store' = store) := by
  simp only [List.mem_cons, List.not_mem_nil, or_false] at barrier
  obtain rfl | rfl | rfl := barrier
  · exact ⟨store, rfl, fun _ => rfl⟩
  · exact ⟨store, rfl, fun _ => rfl⟩
  · exact ⟨_, rfl, fun other => absurd rfl other⟩

/-- A barrier on a storage that has not been destroyed. -/
theorem Mirrors.perform_barrier (mirrors : m.Mirrors x (r :: hand)) (living : m.ready ≠ .destroyed)
    (clear : r.error = none) (kind : r.kind = (op.order none none).kind)
    (barrier : r.kind.isBarrier) :
    (m.perform op).2.Mirrors (x.perform Device.respond r) hand ∧
      (x.perform Device.respond r).told = x.told ++ r.acknowledgement := by
  have calm := Session.calm_perform Device.respond mirrors.calm
  have attached := mirrors.attached living
  have settled : x.storage.ready = .opened → x.storage.needsOpen = false := fun opened => by
    simp [mirrors.needsOpen living, ← mirrors.ready, opened]
  obtain ⟨store, memory, stores⟩ := mirrors.device
  -- In place or at the hands of the device, the request ends alike.
  have ended {world : Device × Disk} {e : Request} {store' : Sparse}
      (ends : x.Ends (x.perform Device.respond r) world
        (x.storage.needsOpen && decide (r.kind ≠ .opening)) e)
      (same : e.kind = r.kind) (success : e.error = none) (receiver : e.receiver = r.receiver)
      (memory' : world.1 = .memory store') (stores' : r.kind ≠ .destroying → store' = store) :
      (m.perform op).2.Mirrors (x.perform Device.respond r) hand ∧
        (x.perform Device.respond r).told = x.told ++ r.acknowledgement := by
    rw [← same] at ends kind barrier stores'
    refine ⟨mirrors.of_ends living ends calm success kind barrier memory' fun other => ?_, ?_⟩
    · exact stores' other ▸ stores living
    · rw [ends.told, Request.told_of_barrier barrier success receiver]
  obtain routed | ⟨h, known, routed, destroys⟩ :=
    Storage.destination_of_barrier mirrors.capabilities settled barrier
  · have ends := Session.ends_of_finished mirrors.calm.lenient clear attached routed
    exact ended ends r.kind_prepared (r.error_prepared.trans clear) r.receiver_prepared memory
      fun _ => rfl
  · have ends := Session.ends_of_handler mirrors.calm.lenient clear attached routed
    obtain ⟨store', served, keeps⟩ := serve_of_barrier store known r.started.prepared
    have device : x.device = (.memory store, x.device.2) := Prod.ext memory rfl
    rw [device, respond_memory, served] at ends
    exact ended ends r.kind_prepared (r.error_prepared.trans clear) r.receiver_prepared rfl
      fun other => keeps fun same => other (destroys same)

end Barrier

section Step

variable {op : Operation}

theorem Mirrors.made (mirrors : m.Mirrors x hand) (o : Order) :
    m.Mirrors (x.onto (x.storage.made o).2) ((x.storage.made o).1 :: hand) where
  __ := mirrors
  calm := mirrors.calm.made

/-- What has been seen, and seeing more, makes no difference. -/
theorem Mirrors.seen (mirrors : m.Mirrors x hand) (seen : List Sight) :
    m.Mirrors { x with seen } hand where
  __ := mirrors

/-- A barrier that is called, or comes before another call. -/
theorem Mirrors.carry {o : Order} (mirrors : m.Mirrors x hand) (op : Operation)
    (living : m.ready ≠ .destroyed) (kind : o.kind = (op.order none none).kind)
    (barrier : o.kind.isBarrier) :
    (m.perform op).2.Mirrors (x.carry Device.respond o) hand ∧
      (x.carry Device.respond o).told = x.told ++ (x.storage.made o).1.acknowledgement :=
  (mirrors.made o).perform_barrier living rfl kind barrier

/-- A data operation, on a storage that was never opened, is open or has been closed. -/
theorem Mirrors.carryData (mirrors : m.Mirrors x hand) (client : Client)
    (living : m.ready ≠ .destroyed) (data : (op.order none none).kind.isData)
    (fits : ∀ offset size, op = .read offset size → offset + size ≤ Word.top) :
    let y := x.carryData Device.respond (op.order (some (.call client.code)) client.observer)
    ∃ result m', m.step op = .ok (result, m') ∧ m'.Mirrors y hand ∧
      y.told = x.told ++ [(client.code, result)] := by
  intro y
  let o := op.order (some (.call client.code)) client.observer
  have isData : o.kind.isData := by cases op <;> exact data
  have receiver : (x.storage.made o).1.receiver = some (.call client.code) := by cases op <;> rfl
  have asks := mirrors.needsOpen living
  have made := mirrors.made o
  have step : m.step op = if m.ready = .closed then .ok (.error .notReady, m)
      else .ok ({ m with ready := .opened }.perform op) := by
    unfold step
    rw [if_neg living, if_pos data]
  rw [step]
  have direct (awake : m.ready ≠ .unopened) :
      y = (x.onto (x.storage.made o).2).perform Device.respond (x.storage.made o).1 :=
    if_neg fun needed => by simp [asks, awake] at needed
  cases ready : m.ready with
  | destroyed => exact absurd ready living
  | unopened =>
    have needed : x.storage.needsOpen ∧ x.storage.ready ≠ .opened := by
      simp [asks, mirrors.ready, ready]
    -- The opening that goes first tells nobody, and leaves no error that the request would owe.
    let z := (x.onto (x.storage.made o).2).carry Device.respond { kind := .opening }
    have opening : ({ m with ready := .opened } : ByteMachine).Mirrors z
          ((x.storage.made o).1 :: hand) ∧ z.told = x.told ++ [] :=
      made.carry .opening living rfl rfl
    obtain ⟨opened, silent⟩ := opening
    have unmarked : z.storage.owing (x.storage.made o).1 = (x.storage.made o).1 := by
      unfold Storage.owing
      rw [opened.openError]
    have performed : y = z.perform Device.respond (x.storage.made o).1 :=
      (if_pos needed).trans (congrArg _ unmarked)
    rw [performed, ← List.append_nil x.told, ← silent]
    exact ⟨_, _, rfl, opened.perform_opened rfl data fits rfl⟩
  | opened =>
    have same : { m with ready := .opened } = m := by rw [← ready]
    rw [direct (by simp [ready]), same]
    exact ⟨_, _, rfl, made.perform_opened ready data fits rfl⟩
  | closed =>
    rw [direct (by simp [ready])]
    exact ⟨_, _, rfl, made.perform_closed ready isData rfl receiver⟩

/-- A barrier that is called; a destruction closes first. -/
theorem Mirrors.barrier (mirrors : m.Mirrors x hand) (client : Client)
    (living : m.ready ≠ .destroyed) (barrier : (op.order none none).kind.isBarrier) :
    let o := op.order (some (.call client.code)) client.observer
    let y := if op = .destroying then (x.carry Device.respond { kind := .closing }).carry
      Device.respond o else x.carry Device.respond o
    (m.perform op).2.Mirrors y hand ∧ y.told = x.told ++ [(client.code, (m.perform op).1)] := by
  intro o y
  have kind : o.kind = (op.order none none).kind := by cases op <;> rfl
  have heard (s : Storage) : (s.made o).1.acknowledgement = [(client.code, (m.perform op).1)] := by
    cases op <;> first | rfl | exact absurd barrier nofun
  by_cases destroying : op = .destroying
  · subst destroying
    -- The closing that goes first tells nobody either.
    let z := x.carry Device.respond { kind := .closing }
    have closing : (m.perform .closing).2.Mirrors z hand ∧ z.told = x.told ++ [] :=
      mirrors.carry .closing living rfl rfl
    obtain ⟨closed, silent⟩ := closing
    have living : (m.perform .closing).2.ready ≠ .destroyed := by
      by_cases opened : m.ready = .opened <;> simp [perform, opened, living]
    obtain ⟨destroyed, told⟩ := closed.carry .destroying (o := o) living kind barrier
    rw [heard, silent, List.append_nil] at told
    exact ⟨destroyed, told⟩
  · have last : y = x.carry Device.respond o := if_neg destroying
    obtain ⟨mirrors', told⟩ := mirrors.carry op living kind (kind ▸ barrier)
    rw [last]
    exact ⟨mirrors', told.trans (congrArg _ (heard _))⟩

/-- Opening a storage that is settled open changes nothing. -/
theorem Mirrors.step_of_settled (mirrors : m.Mirrors x hand) (settled : x.storage.isOpenSettled) :
    m.step .opening = .ok (.ok .unit, m) := by
  have opened : m.ready = .opened := by
    rw [← mirrors.ready]
    simp only [Storage.isOpenSettled, Bool.and_eq_true, decide_eq_true_eq] at settled
    exact settled.1.1.1
  have same : { m with ready := .opened } = m := by rw [← opened]
  have performed : m.step .opening = .ok (.ok .unit, { m with ready := .opened }) :=
    if_neg (by simp [opened])
  rwa [same] at performed

/-- A call: either both refuse it, or both tell the caller the same. -/
theorem Mirrors.answered (mirrors : m.Mirrors x []) (client : Client)
    (fits : ∀ offset size, op = .read offset size → offset + size ≤ Word.top) :
    (∃ e, m.step op = .error e ∧ x.answered Device.respond op client = (.error e, x)) ∨
      ∃ result m' y, m.step op = .ok (result, m') ∧
        x.answered Device.respond op client = (.ok (), y) ∧ m'.Mirrors y [] ∧
        y.told = x.told ++ [(client.code, result)] := by
  let o := op.order (some (.call client.code)) client.observer
  have kind : o.kind = (op.order none none).kind := by cases op <;> rfl
  have alive : x.storage.isDestroyed ↔ m.ready = .destroyed := by
    simp [Storage.isDestroyed, mirrors.ready]
  unfold Session.answered
  by_cases settled : op = .opening ∧ client.observer = none ∧ x.storage.isOpenSettled
  · rw [if_pos settled]
    obtain ⟨rfl, -, settled⟩ := settled
    refine .inr ⟨_, _, _, mirrors.step_of_settled settled, rfl, mirrors.seen _, ?_⟩
    exact congrArg (List.filterMap _) (Session.called_sees x _) |>.trans (List.filterMap_append ..)
  rw [if_neg settled]
  by_cases dead : m.ready = .destroyed
  · rw [if_pos (alive.mpr dead)]
    exact .inl ⟨.fault, if_pos dead, rfl⟩
  rw [if_neg (alive.not.mpr dead)]
  refine .inr ?_
  by_cases data : (op.order none none).kind.isData
  · have supported : x.storage.capabilities.supports o.kind := by
      rw [mirrors.capabilities]
      cases op <;> rfl
    obtain ⟨result, m', step, later⟩ := mirrors.carryData client dead data fits
    rw [if_pos (kind ▸ data), if_pos supported]
    exact ⟨result, m', _, step, rfl, later⟩
  · have barrier : (op.order none none).kind.isBarrier := by
      cases op <;> first | rfl | exact absurd rfl data
    have step : m.step op = .ok (m.perform op) := (if_neg dead).trans (if_neg data)
    rw [if_neg (kind ▸ data)]
    obtain ⟨mirrors', told⟩ := mirrors.barrier client dead barrier
    refine ⟨_, _, _, step, ?_, mirrors', told⟩
    split <;> rfl

end Step

section Play

/-- What a call leaves is what the machine leaves. -/
theorem Mirrors.summary (mirrors : m.Mirrors x []) (answer : Option Reply)
    (told : List (Callback × Except Error Payload)) :
    ({ answer, told, ready := x.storage.ready, pending := x.storage.pending
       queued := x.storage.queue.length, balanced := x.storage.allocator.isBalanced } : Summary) =
      { answer, told, ready := m.ready } := by
  simp [mirrors.ready, mirrors.calm.pending, mirrors.calm.queue, mirrors.calm.covered.isBalanced]

/-- Calls on a storage that stands as the machine does have the same results on both. -/
theorem Mirrors.play_eq (mirrors : m.Mirrors x []) {calls : List (Operation × Client)}
    (fits : ∀ call ∈ calls, ∀ offset size, call.1 = .read offset size → offset + size ≤ Word.top) :
    ∃ n, ∀ fuel ≥ n, x.scene.play fuel calls = m.play calls := by
  induction calls generalizing x m with
  | nil => exact ⟨0, fun _ _ => rfl⟩
  | cons call calls ih =>
    obtain ⟨op, client⟩ := call
    have serving : x.device.1.IsPrompt := by
      obtain ⟨store, memory, -⟩ := mirrors.device
      rw [memory]
      trivial
    obtain ⟨n, called⟩ := Scene.call_eq serving mirrors.unparked mirrors.calm op client
    have now := fits (op, client) (List.mem_cons_self ..)
    have later : ∀ call ∈ calls, ∀ offset size, call.1 = .read offset size →
        offset + size ≤ Word.top := fun call mem => fits call (List.mem_cons_of_mem _ mem)
    obtain ⟨e, step, refused⟩ | ⟨result, m', y, step, ended, mirrors', told⟩ :=
      (mirrors.seen []).answered client now
    · obtain ⟨k, later⟩ := ih (mirrors.seen []) later
      refine ⟨max n k, fun fuel enough => ?_⟩
      have called := called fuel (by omega)
      have later := later fuel (by omega)
      unfold Scene.play ByteMachine.play
      rw [called, step, refused]
      exact congrArg₂ List.cons (mirrors.summary ..) later
    · obtain ⟨k, later⟩ := ih mirrors' later
      refine ⟨max n k, fun fuel enough => ?_⟩
      have called := called fuel (by omega)
      have later := later fuel (by omega)
      unfold Scene.play ByteMachine.play
      rw [called, step, ended]
      have told : y.called.filterMap Invocation.told? = [(client.code, result)] := told
      dsimp only
      rw [told]
      exact congrArg₂ List.cons (mirrors'.summary ..) later

end Play

end ByteMachine

section Refinement

variable {pageSize : Nat} {limits : Limits} {policy : AllocatorPolicy}

/-- A storage over memory does what a byte array with a point of life does.  Whatever the pages,
whoever listens and whatever is called: if nothing is refused, nothing calls back and every read
asks for addresses that there are, then the calls have the same answers, their callers are told the
same results before they return, once each, and after each the storage is at the same point of life
with nothing pending, nothing queued and an allocator that is balanced. -/
theorem Scene.play_eq_machine (pages : 0 < pageSize) (valid : limits.validate = .ok ())
    (lenient : policy.IsLenient) (emitter : Emitter) (disk : Disk)
    (calls : List (Operation × Client))
    (fits : ∀ call ∈ calls, ∀ offset size, call.1 = .read offset size → offset + size ≤ Word.top) :
    let fresh := Node.create (.memory (.empty pageSize)) .readWrite limits { policy }
    let start : Scene :=
      { node := { fresh with storage := { fresh.storage with emitter } }, disk }
    ∃ n, ∀ fuel ≥ n, start.play fuel calls = ({} : ByteMachine).play calls := by
  intro fresh start
  let x : Session (Device × Disk) :=
    { storage := { fresh.storage with emitter }, device := (fresh.device, disk) }
  have mirrors : ({} : ByteMachine).Mirrors x [] := {
    calm := Storage.calm_create valid lenient
    unparked := rfl
    capabilities := rfl
    ready := rfl
    device := ⟨_, rfl, fun _ => ⟨Sparse.isPaged_empty pages, rfl, Sparse.get_empty pageSize⟩⟩
    attached := fun _ => rfl
    needsOpen := fun _ => rfl
    openError := rfl }
  exact mirrors.play_eq fits

/-- A write opens the storage, a read runs past the length, and a destruction leaves nothing to be
asked. -/
theorem Scene.play_eq_machine_write :
    let fresh := Node.create (.memory (.empty 4)) .readWrite {} { policy := .unlimited }
    let start : Scene :=
      { node := { fresh with storage := { fresh.storage with emitter := { capacity := 1 } } }
        disk := {} }
    let calls : List (Operation × Client) :=
      [(.write 3 [7, 8], ⟨1, none⟩), (.read 2 9, ⟨2, none⟩), (.destroying, ⟨3, some ⟨4, "shared"⟩⟩),
        (.stat, ⟨5, none⟩)]
    0 < 4 ∧ ({} : Limits).validate = .ok () ∧ AllocatorPolicy.unlimited.IsLenient ∧
      (.read 2 9, ⟨2, none⟩) ∈ calls ∧
      (∀ call ∈ calls, ∀ offset size, call.1 = .read offset size → offset + size ≤ Word.top) ∧
      (∃ n, ∀ fuel ≥ n, start.play fuel calls = ({} : ByteMachine).play calls) ∧
      ({} : ByteMachine).play calls = [
        { answer := some (.done (.ok ())), told := [(1, .ok .unit)], ready := .opened },
        { answer := some (.done (.ok ())), told := [(2, .error (.backend Code.outOfRange))]
          ready := .opened },
        { answer := some (.done (.ok ())), told := [(3, .ok .unit)], ready := .destroyed },
        { answer := some (.done (.error .fault)), told := [], ready := .destroyed }] := by
  intro fresh start calls
  have fits : ∀ call ∈ calls, ∀ offset size, call.1 = .read offset size →
      offset + size ≤ Word.top := by
    simp [calls, Word.top]
  exact ⟨by decide, by decide, AllocatorPolicy.isLenient_unlimited, by simp [calls], fits,
    play_eq_machine (by decide) (by decide) AllocatorPolicy.isLenient_unlimited _ _ _ fits, rfl⟩

end Refinement

end StorageEngine
