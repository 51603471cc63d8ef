import StorageEngine.Bytes
import StorageEngine.Emitter

/-!
# Requests

A request is one operation on its way through a storage.  It waits in the queue, is inside the
device, or goes through the completion pipeline; at every moment it is in exactly one of these
places, or in the hands of a client that made it or took it from the queue.

A request leases memory: a record of fixed size as long as it exists, and a buffer for the bytes
of a write, of a read inside the device, or for a stat record.
-/

namespace StorageEngine

/-- The number of a request, counted from one within its storage. -/
abbrev RequestId := Nat

namespace RequestId

/-- How a request is named in messages. -/
def text (id : RequestId) : String :=
  "#" ++ toString id

/-- The diagnostic text of a request number. -/
def describe (id : RequestId) : String :=
  Text.record "RequestId" [("id", toString id)]

/-- The first number that a storage gives out. -/
def first : RequestId := 1

/-- The first `n` numbers that a storage gives out. -/
def firstOf (n : Nat) : List RequestId :=
  (List.range n).map (first + ·)

end RequestId

/-- How far a request has come. -/
inductive Phase
  | created
  | queued
  | running
  | completed
  deriving DecidableEq, Inhabited

/-- The name of a phase in diagnostics. -/
def Phase.label : Phase → String
  | .created => "Created"
  | .queued => "Queued"
  | .running => "Running"
  | .completed => "Completed"

/-- What a device may add to the length in a stat record. -/
inductive Extension
  /-- The page size, and how many pages hold data. -/
  | pages (size allocated : Nat)
  /-- A device's own words. -/
  | note (text : String)
  deriving DecidableEq, Inhabited

/-- The answer to a stat: the length, and details that depend on the device. -/
structure Stats where
  size : Nat := 0
  extended : Option Extension := none
  deriving DecidableEq, Inhabited

/-- The diagnostic text of a stat record: the details are only said to be there. -/
def Stats.describe (s : Stats) : String :=
  Text.record "Stats" [("size", toString s.size), ("extended", Text.flag s.extended.isSome)]

/-- What a successful operation gives its caller. -/
inductive Payload
  | unit
  | bytes (b : Bytes)
  | stats (s : Stats)
  deriving DecidableEq, Inhabited

/-- Who is told the result of an operation: a callback, or a promise that keeps it. -/
inductive Receiver
  | call (code : Callback)
  | promise (number : Nat)
  deriving DecidableEq, Inhabited

/-- An extra observer of an operation, with a value of its owner's that it is shown. -/
structure Observer where
  code : Callback
  shared : String
  deriving DecidableEq, Inhabited

/-- A copy of what identifies a request and its fate. -/
structure RequestInfo where
  id : RequestId
  kind : Kind
  offset : Nat
  size : Nat
  error : Option Error
  deriving DecidableEq, Inhabited

/-- What an observer sees.  The bytes are there for a successful read only. -/
structure Outcome where
  id : RequestId
  kind : Kind
  error : Option Error
  value : Option Bytes
  size : Nat
  shared : String
  deriving DecidableEq, Inhabited

/-- One operation on its way through a storage. -/
structure Request where
  id : RequestId
  kind : Kind
  offset : Nat := 0
  /-- The size of the range; after completion, the size that the device reported. -/
  size : Nat := 0
  error : Option Error := none
  /-- The bytes to write, or the buffer that a read fills. -/
  data : Bytes := []
  /-- The record that a stat fills in. -/
  stats : Option Stats := none
  phase : Phase := .created
  receiver : Option Receiver := none
  observer : Option Observer := none
  /-- The size of the leased buffer, if there is one. -/
  buffer : Option Nat := none
  deriving DecidableEq, Inhabited

/-- How a handler finishes a request: bytes that replace its buffer, a stat record for the request
that has one, and the result.  A success without a size of its own reports the request's. -/
structure Verdict where
  data : Option Bytes := none
  stats : Option Stats := none
  result : Except Error (Option Nat)
  deriving DecidableEq

namespace Request

/-- The bytes leased for every request record. -/
def recordSize : Nat := 256

/-- The bytes leased for a stat record. -/
def statsSize : Nat := 24

/-- The sizes of the blocks that a request holds. -/
def leases (r : Request) : List Nat :=
  recordSize :: r.buffer.toList

/-- Waiting or inside the device. -/
def isPending (r : Request) : Bool :=
  r.phase = .queued || r.phase = .running

/-- The part of the buffer that the reported size covers. -/
def value (r : Request) : Bytes :=
  r.data.take r.size

/-- A copy of what identifies the request and its fate. -/
def info (r : Request) : RequestInfo :=
  { id := r.id, kind := r.kind, offset := r.offset, size := r.size, error := r.error }

/-- What an observer with the value `shared` sees of a finished request. -/
def outcome (r : Request) (shared : String) : Outcome where
  id := r.id
  kind := r.kind
  error := r.error
  value := if r.kind = .read ∧ r.error = none then some r.value else none
  size := r.size
  shared

/-- What the caller of a finished request is told. -/
def result (r : Request) : Except Error Payload :=
  match r.error with
  | some e => .error e
  | none =>
    match r.kind with
    | .read => .ok (.bytes r.value)
    | .stat =>
      match r.stats with
      | some s => .ok (.stats s)
      | none => .error .fault
    | _ => .ok .unit

/-- Marks a request that shares the fate of a failed opening. -/
def poison (e : Error) (r : Request) : Request :=
  { r with error := some e }

/-- The event that a kind's success announces; data operations announce nothing. -/
def event? (r : Request) : Option Event :=
  match r.kind with
  | .opening => some .opened
  | .closing => some .closed
  | .destroying => some .destroyed
  | _ => none

/-- What the end of a request announces, if anything. -/
def notice? (r : Request) : Option Notice :=
  r.event?.map fun event =>
    match r.error with
    | none => { event }
    | some e => { event := .failed, error := some e }

/-- The request as a handler leaves it before its result is recorded. -/
def fill (r : Request) (v : Verdict) : Request :=
  { r with
    data := v.data.getD r.data
    stats := r.stats.map fun old => v.stats.getD old }

/-- The result that a verdict records for a request. -/
def resultOf (r : Request) (v : Verdict) : Except Error Nat :=
  v.result.map fun size => size.getD r.size

/-- Whether the promise with this number waits for the request. -/
def carries (r : Request) (promise : Nat) : Bool :=
  r.receiver = some (.promise promise)

/-- The diagnostic text of a request. -/
def describe (r : Request) : String :=
  Text.record "Request" [
    ("id", RequestId.describe r.id),
    ("kind", r.kind.label),
    ("offset", toString r.offset),
    ("size", toString r.size),
    ("err", Text.optional (r.error.map (·.describe))),
    ("phase", r.phase.label)] true

end Request

end StorageEngine
