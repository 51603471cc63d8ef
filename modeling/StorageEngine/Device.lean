import StorageEngine.Device.Mapping
import StorageEngine.Device.Pool
import StorageEngine.Device.Sparse

/-!
# Devices

What performs the operations of a storage.  A device finishes a request while its handler runs, or
parks it and finishes it later.  `Device.client` stands for client code that serves requests
itself; nothing is known about when and how it does.
-/

namespace StorageEngine

/-- A device. -/
inductive Device
  /-- Client code serves the requests. -/
  | client
  /-- Opening, closing and destroying succeed, data operations are not supported. -/
  | plain
  | memory (store : Sparse)
  | mapped (file : MappedFile)
  | pool (workers : Pool)
  deriving Inhabited

/-- How a handler finishes a request when its device has nothing of its own to do. -/
def Handler.plainVerdict : Handler → Verdict
  | .openReadOnly | .openReadWrite | .close | .destroy => { result := .ok (some 0) }
  | .read => { result := .error (.unsupported .read) }
  | .write => { result := .error (.unsupported .write) }
  | .delete => { result := .error (.unsupported .delete) }
  | .stat => { result := .error (.unsupported .stat) }

namespace Device

/-- What a handler did: the device and the disk afterwards, and how it finished the request; no
verdict means that it parked the request. -/
structure Service where
  device : Device
  disk : Disk
  verdict : Option Verdict := none

/-- What the device offers by itself. -/
def capabilities : Device → Capabilities
  | .plain => {}
  | .mapped file => file.capabilities
  | .client | .memory _ | .pool _ => .readWrite

/-- Calls a handler. -/
def serve (d : Device) (disk : Disk) (h : Handler) (r : Request) : Service :=
  match d with
  | .client => { device := d, disk }
  | .plain => { device := d, disk, verdict := some h.plainVerdict }
  | .memory store =>
    let (verdict, store) := store.serve h r
    { device := .memory store, disk, verdict := some verdict }
  | .mapped file =>
    let (verdict, file, disk) := file.serve disk h r
    { device := .mapped file, disk, verdict := some verdict }
  | .pool workers =>
    match Pool.jobKind? h with
    | some kind => { device := .pool (workers.submit kind r), disk }
    | none => { device := d, disk, verdict := some h.plainVerdict }

/-- Whether the device has parked this request. -/
def holds (d : Device) (id : RequestId) : Bool :=
  match d with
  | .pool workers => workers.holds id
  | _ => false

/-- Whether client code serves the requests. -/
def isClient : Device → Bool
  | .client => true
  | _ => false

end Device

end StorageEngine
