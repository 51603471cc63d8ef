import StorageEngine.Device
import StorageEngine.Storage

/-!
# Scripts

A scenario sets up files, storages and emitters of their own, and then has a client carry out
commands on them one after the other.  Where a command hands over a callback, the script says what
the callback does: it is a list of further commands.  Devices that the client serves itself are
scripted too: each handler has a list of reactions, or requests are held until a command finishes
them.
-/

namespace StorageEngine.Scenario

/-- How a script finishes a request. -/
structure Completion where
  /-- Drop the request instead. -/
  drop : Bool := false
  error : Option Error := none
  /-- New bytes for the request's buffer. -/
  fill : Option Bytes := none
  /-- A length for the request's stat record, with words of the device's own. -/
  stat : Option (Nat × Option String) := none
  /-- The size to report. -/
  size : Option Nat := none
  deriving Inhabited

/-- The verdict of a completion that does not drop the request: a failure comes first, then new
bytes, then a stat record. -/
def Completion.verdict (c : Completion) : Verdict :=
  match c.error, c.fill with
  | some e, _ => { result := .error e }
  | none, some bytes => { data := some bytes, result := .ok (some (c.size.getD bytes.length)) }
  | none, none =>
    { stats := c.stat.map fun (size, note) => { size, extended := note.map .note }
      result := .ok c.size }

/-- Where a command finds a request that is outside its storage. -/
inductive Place
  /-- Among the requests that the client made or took from a queue. -/
  | slot (index : Nat)
  /-- Among the requests that a storage's device holds; without a storage, the command's own. -/
  | held (index : Nat) (storage : Option Nat)
  deriving Inhabited

/-- What a command does.  `σ` is the type of the commands that callbacks carry out. -/
inductive Deed (σ : Type)
  /-- Asks for an operation; `shared` adds an observer with its value. -/
  | call (op : Operation) (tag : Option String) (next : List σ)
      (shared : Option (String × List σ))
  /-- Asks for an operation whose result is kept. -/
  | promise (op : Operation)
  | poll (future : Nat)
  | forget (future : Nat)
  | makeRequest (kind : Kind) (offset size : Nat)
  | shift
  | push (place : Place)
  | complete (place : Place) (how : Completion)
  | completeAll (how : Completion)
  | inspect (place : Place)
  | setData (place : Place) (data : Bytes)
  | takeData (place : Place)
  | patch (place : Place) (position : Nat) (value : UInt8)
  | setStats (place : Place) (size : Nat) (note : Option String)
  | describeRequest (place : Place)
  /-- Registers a listener through the storage. -/
  | listen (event : Event) (ttl : Ttl) (tag : Option String) (body : List σ)
  /-- Registers a listener in a table directly. -/
  | register (event : Event) (ttl : Ttl) (tag : Option String) (body : List σ)
  /-- Registers a callback that has a name; the first use of a name makes it. -/
  | registerNamed (name : String) (event : Event) (ttl : Ttl) (tag : Option String)
      (body : List σ)
  | off (registration : Nat)
  | offNamed (name : String)
  | offEvent (event : Event)
  | clearListeners
  | announce (notice : Notice)
  | count (event : Event)
  | emitterInfo
  | describeEmitter
  | query
  | describeStorage
  | device
  /-- Receives outputs of the workers until no job is under way. -/
  | receiveAll
  | showFile (name : String)
  /-- Writes a file, or removes it. -/
  | putFile (name : String) (data : Option Bytes)
  /-- Lets go of the storage. -/
  | disown
  deriving Inhabited

/-- Whether a deed works on an emitter, so that it can also be about one that belongs to no
storage. -/
def Deed.isOnEmitter {σ : Type} : Deed σ → Bool
  | .register .. | .registerNamed .. | .off _ | .offNamed _ | .offEvent _ | .clearListeners
  | .announce _ => true
  | _ => false

/-- A command: its name in the transcript, the storage that it is about, and the emitter of its own
if it is about one. -/
inductive Command
  | mk (name : String) (storage : Nat) (emitter : Option Nat) (deed : Deed Command)

namespace Command

def name : Command → String
  | mk name _ _ _ => name

def storage : Command → Nat
  | mk _ storage _ _ => storage

def emitter : Command → Option Nat
  | mk _ _ emitter _ => emitter

def deed : Command → Deed Command
  | mk _ _ _ deed => deed

end Command

/-- How a scripted handler reacts to a request: some commands, then a completion. -/
structure Reaction where
  body : List Command := []
  finish : Completion := {}
  deriving Inhabited

/-- Who serves the requests of a storage. -/
inductive Manner
  /-- A device of the library. -/
  | library (device : Device)
  /-- The client, which holds every request until a command finishes it. -/
  | held
  /-- The client, by the reactions for each handler, in order. -/
  | scripted (reactions : List (Handler × List Reaction))
  deriving Inhabited

/-- The device of a storage. -/
def Manner.device : Manner → Device
  | .library device => device
  | .held | .scripted _ => .client

/-- How to set up one storage. -/
structure StorageSetup where
  manner : Manner
  /-- What the device is said to offer, if not what it offers by itself. -/
  capabilities : Option Capabilities := none
  limits : Limits := {}
  allocator : Allocator := {}
  deriving Inhabited

/-- What a file is at the start. -/
inductive FileSetup
  | directory
  | bytes (b : Bytes)
  deriving Inhabited

/-- A scenario. -/
structure Script where
  files : List (String × FileSetup) := []
  storages : List StorageSetup := []
  /-- Capacities of the emitters that belong to no storage. -/
  emitters : List Nat := []
  commands : List Command := []

/-- Why a scenario cannot be set up at all: a page has to have at least one byte. -/
def Script.flaw? (script : Script) : Option String :=
  if script.storages.any fun setup =>
    match setup.manner with
    | .library (.memory store) => store.pageSize = 0
    | _ => false
  then some "page size must be positive"
  else none

end StorageEngine.Scenario
