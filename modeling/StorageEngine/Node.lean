import StorageEngine.Device
import StorageEngine.Storage.Action

/-!
# A storage with its device

When a handler is called, the device that belongs to the storage answers it: it finishes the request
or parks it, and the handler returns.  With a device of the library, all that is left to the client
is to make calls and to be called back.
-/

namespace StorageEngine

/-- A storage and the device that it works on. -/
structure Node where
  storage : Storage
  device : Device

namespace Node

/-- A storage over this device.  `capabilities` are what the device is said to offer. -/
def create (device : Device) (capabilities : Capabilities := device.capabilities)
    (limits : Limits := {}) (allocator : Allocator := {}) : Node where
  storage := .create capabilities limits allocator
  device

/-- A client's move. -/
def act (n : Node) (a : Action) : Node :=
  { n with storage := n.storage.act a }

/-- The device's turn: a handler that was called takes over its request, and returns once the
request is finished or parked. -/
def handle (n : Node) (disk : Disk) (h : Handler) (id : RequestId) : Node × Disk :=
  match n.storage.find? id with
  | none => (n.act .leave, disk)
  | some r =>
    if n.device.holds id then (n.act .leave, disk)
    else
      let service := n.device.serve disk h r
      let n := { n with device := service.device }
      match service.verdict with
      | some verdict => (n.act (.complete id verdict), service.disk)
      | none => (n, service.disk)

/-- The next step of the storage or its device, if it is not the client's turn. -/
def step (n : Node) (disk : Disk) : Option (Node × Disk) :=
  match n.storage.step with
  | some storage => some ({ n with storage }, disk)
  | none =>
    if n.device.isClient then none
    else
      match n.storage.stack with
      | .client (.handler h id) :: _ => some (n.handle disk h id)
      | .answer .unit :: .client (.handler _ _) :: _ => some (n.act .collect, disk)
      | _ => none

/-- The owner of a pool receives one output: the storage finishes the request that it belongs to.
There is none to receive where no job is under way. -/
def receive? (n : Node) : Option Node :=
  match n.device with
  | .pool workers =>
    if workers.outstanding.isEmpty then none
    else
      match workers.receive? with
      | none => none
      | some (id?, verdict, workers) =>
        let n := { n with device := .pool workers }
        match id? with
        | some id => some (n.act (.complete id verdict))
        | none => some { n with storage := n.storage.reply .unit }
  | _ => none

end Node

end StorageEngine
