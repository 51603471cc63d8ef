import StorageEngine.Node
import StorageEngine.Scenario.Transcript

/-!
# The world of a scenario

Everything that a client of a scenario can reach: storages with their devices, emitters of its own,
the disk, the requests and promises in its hands, its registrations, and the code behind its
callbacks.  Callbacks are numbers; `World.codes` says what each of them does.
-/

namespace StorageEngine.Scenario

/-- What a callback does, and what it writes into the transcript. -/
inductive Code
  | done (tag : Option String) (body : List Command)
  | hook (tag : Option String) (body : List Command)
  /-- A listener glances at the storage that it was registered through, if there is one. -/
  | listener (tag : Option String) (home : Option Nat) (body : List Command)

/-- A storage of a scenario. -/
structure Station where
  node : Node
  /-- Why the storage could not be set up; nobody owns it then. -/
  refusal : Option Error := none
  manner : Manner
  /-- The requests that the client holds for the device, oldest first. -/
  held : List RequestId := []

/-- A request in the client's hands. -/
structure RequestRef where
  station : Nat
  id : RequestId
  deriving DecidableEq, Inhabited

/-- Everything that a client can reach. -/
structure World where
  stations : Array Station := #[]
  emitters : Array Relay := #[]
  disk : Disk := {}
  slots : Array (Option RequestRef) := #[]
  /-- Promises, by storage and number, until they are redeemed. -/
  futures : Array (Option (Nat × Nat)) := #[]
  registrations : Array ListenerId := #[]
  codes : Array Code := #[]
  namedCallbacks : List (String × Callback) := []
  /-- What has happened during the command, newest first. -/
  log : List Entry := []

/-- A storage in a setup.  A storage whose limits make no sense is there, but nobody owns it. -/
def Station.ofSetup (setup : StorageSetup) : Station :=
  let device := setup.manner.device
  let capabilities := setup.capabilities.getD device.capabilities
  match Storage.build capabilities setup.limits setup.allocator with
  | .ok storage => { node := { storage, device }, manner := setup.manner }
  | .error e =>
    let storage := { Storage.create capabilities setup.limits setup.allocator with owned := false }
    { node := { storage, device }, refusal := some e, manner := setup.manner }

/-- Puts a file or a directory on the disk, with the directories above it. -/
def putSetup (disk : Disk) (file : String × FileSetup) : Disk :=
  match file with
  | (name, .directory) => disk.makeDirectory name
  | (name, .bytes b) => (disk.makeWay name).put name b

namespace World

/-- The world at the start of a scenario.  Directories are made before files. -/
def ofScript (script : Script) : World :=
  let (directories, files) := script.files.partition fun
    | (_, .directory) => true
    | _ => false
  { stations := (script.storages.map Station.ofSetup).toArray
    emitters := (script.emitters.map fun capacity => { emitter := { capacity } }).toArray
    disk := (directories ++ files).foldl putSetup {} }

/-- The storage with this number. -/
def storage? (w : World) (n : Nat) : Option Storage :=
  w.stations[n]?.map (·.node.storage)

/-- The storage with this number, if the client still owns it. -/
def owned? (w : World) (n : Nat) : Option Storage :=
  (w.storage? n).filter (·.owned)

/-- An allocator has overflowed, and the program has stopped. -/
def hasOverflowed (w : World) : Bool :=
  w.stations.any (·.node.storage.allocator.overflowed)

/-- Changes a storage of the scenario. -/
def modifyStation (w : World) (n : Nat) (f : Station → Station) : World :=
  { w with stations := w.stations.modify n f }

/-- Makes a move on a storage. -/
def act (w : World) (n : Nat) (a : Action) : World :=
  w.modifyStation n fun station => { station with node := station.node.act a }

/-- Writes an entry. -/
def write (w : World) (entry : Entry) : World :=
  { w with log := entry :: w.log }

/-- Gives some code a number. -/
def addCode (w : World) (code : Code) : Callback × World :=
  (w.codes.size, { w with codes := w.codes.push code })

/-- A glance at a storage. -/
def glance (s : Storage) : Glance where
  ready := s.ready
  pending := s.pending
  queued := s.queue.length

/-- The request at a place, for a command about storage `own`. -/
def find? (w : World) (own : Nat) : Place → Option RequestRef
  | .slot index => w.slots[index]?.join
  | .held index storage => do
    let n := storage.getD own
    let station ← w.stations[n]?
    let id ← station.held[index]?
    return { station := n, id }

/-- Takes the request at a place away from there. -/
def takeAway (w : World) (own : Nat) : Place → World
  | .slot index => { w with slots := w.slots.setIfInBounds index none }
  | .held index storage =>
    w.modifyStation (storage.getD own) fun station =>
      { station with held := station.held.eraseIdx index }

/-- The request that a reference stands for. -/
def request? (w : World) (ref : RequestRef) : Option Request :=
  (w.storage? ref.station).bind (·.find? ref.id)

/-- A look at a request. -/
def viewRequest (s : Storage) (r : Request) : RequestView where
  info := r.info
  data := r.data
  isPending := r.isPending
  shared := r.observer.map (·.shared)
  hasStorage := s.isAlive && !s.isDestroyed
  stats := r.stats

/-- Keeps a request in the next slot. -/
def keepInSlot (w : World) (n : Nat) (id : RequestId) : Answer × World :=
  match (w.storage? n).bind fun s => (s.find? id).map (viewRequest s) with
  | some view =>
    (.slot w.slots.size view, { w with slots := w.slots.push (some { station := n, id }) })
  | none => (.null, w)

/-- A look at a storage. -/
def viewStorage (s : Storage) : StorageView where
  ready := s.ready
  prefersReadOnly := s.prefersReadOnly
  capabilities := s.capabilities
  limits := s.limits
  isBalanced := s.allocator.isBalanced

/-- A look at a device. -/
def viewDevice (w : World) (station : Station) : DeviceView :=
  match station.node.device, station.manner with
  | .memory store, _ => .memory store.pageSize store.length
  | .mapped file, _ => .mapped file.path (w.disk.entry? file.path).isSome
  | .pool workers, _ => .pool workers.capacity workers.outstanding.length workers.describe
  | _, .held => .held station.held
  | _, _ => .other

/-- The emitter that a command is about: one of its own, or that of an owned storage. -/
def emitter? (w : World) (c : Command) : Option Emitter :=
  match c.emitter with
  | some e => w.emitters[e]?.map (·.emitter)
  | none => (w.owned? c.storage).map (·.emitter)

/-- The state that a transcript shows after a command. -/
def snapshot (w : World) (c : Command) : Snapshot :=
  match c.emitter with
  | some e =>
    match w.emitters[e]? with
    | some relay => .emitter relay.emitter.size (Event.all.map relay.emitter.count)
    | none => .gone
  | none =>
    match w.owned? c.storage with
    | some s => .storage (glance s) s.needsOpen s.last s.allocator s.emitter.size
    | none => .gone

end World

end StorageEngine.Scenario
