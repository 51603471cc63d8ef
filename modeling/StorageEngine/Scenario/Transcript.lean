import StorageEngine.Scenario.Script

/-!
# Transcripts

What a scenario leaves behind: for every storage whether it could be set up, and for every command
its answer, what happened while it was carried out, and the state afterwards.
-/

namespace StorageEngine.Scenario

/-- A look at a request. -/
structure RequestView where
  info : RequestInfo
  data : Bytes
  isPending : Bool
  shared : Option String
  /-- Whether the request can still reach its storage. -/
  hasStorage : Bool
  stats : Option Stats
  deriving DecidableEq

/-- A look at a device. -/
inductive DeviceView
  | memory (pageSize length : Nat)
  | mapped (path : String) (fileExists : Bool)
  | pool (capacity outstanding : Nat) (text : String)
  | held (ids : List RequestId)
  | other
  deriving DecidableEq

/-- A look at a storage that does not change while it is open. -/
structure StorageView where
  ready : Ready
  prefersReadOnly : Bool
  capabilities : Capabilities
  limits : Limits
  isBalanced : Bool
  deriving DecidableEq

/-- The answer of a command. -/
inductive Answer
  /-- There is no such storage, or no such promise, any more. -/
  | gone
  /-- There is no such request, registration or callback. -/
  | missing
  | pending
  | null
  | flag (b : Bool)
  | number (n : Nat)
  | text (s : String)
  | bytes (b : Bytes)
  | kind (k : Kind)
  | result (r : Except Error Payload)
  | length (r : Except Error Nat)
  | registered (r : Except Error ListenerId)
  | slot (index : Nat) (view : RequestView)
  | request (view : RequestView)
  | emitter (capacity size : Nat)
  | storage (view : StorageView)
  | device (view : DeviceView)
  deriving DecidableEq

/-- The parts of a storage's state that entries show. -/
structure Glance where
  ready : Ready
  pending : Nat
  queued : Nat
  deriving DecidableEq

/-- Something that happened. -/
inductive Entry
  | done (tag : Option String) (result : Except Error Payload) (state : Glance)
  | hook (tag : Option String) (outcome : Outcome)
  | event (tag : Option String) (notice : Notice) (state : Option Glance)
  | handler (h : Handler) (id : RequestId) (offset size : Nat) (data : Bytes)
  | command (name : String) (answer : Answer)
  deriving DecidableEq

/-- The state after a command. -/
inductive Snapshot
  | gone
  | emitter (size : Nat) (counts : List Nat)
  | storage (state : Glance) (needsOpen : Bool) (last : Option RequestInfo)
      (allocator : Allocator) (listeners : Nat)
  deriving DecidableEq

/-- One command in a transcript. -/
structure StepRecord where
  answer : Answer
  entries : List Entry
  state : Snapshot
  deriving DecidableEq

/-- What a scenario leaves behind. -/
structure Transcript where
  setups : List (Option Error)
  steps : List StepRecord
  /-- Why the program stopped before the end, if it did; the steps then stand for nothing. -/
  stopped : Option String := none
  deriving DecidableEq

end StorageEngine.Scenario
