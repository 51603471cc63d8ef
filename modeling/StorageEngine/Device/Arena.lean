import StorageEngine.Device.Cells
import StorageEngine.Request
import StorageEngine.Word

/-!
# The memory that workers share

A fixed number of bytes, there from the first opening until a destruction, and a length: one past
the last byte ever stored.  Workers carry out jobs on it, one at a time.
-/

namespace StorageEngine

/-- What a worker is told to do.  Jobs that belong to no request of a device are not made. -/
inductive JobKind
  | opening
  | closing
  | destroying
  | read
  | write
  | delete
  | stat
  deriving DecidableEq, Inhabited

/-- One job, as it crosses over to a worker. -/
structure Job where
  number : Nat
  kind : JobKind
  offset : Nat
  size : Nat
  data : Bytes
  deriving DecidableEq, Inhabited

/-- What a job brings back. -/
inductive JobOutput
  | done (size : Nat)
  | bytes (b : Bytes)
  | length (n : Nat)
  deriving DecidableEq, Inhabited

/-- The shared memory. -/
structure Arena where
  memory : Option Cells := none
  length : Nat := 0
  deriving Inhabited

namespace Arena

/-- The end of a range, which has to lie within the capacity. -/
def span (capacity offset size : Nat) : Except Error Nat :=
  match Word.checkedAdd? offset size with
  | none => .error (.backend Code.invalid)
  | some stop =>
    if capacity < stop then .error (.backend Code.noSpace) else .ok stop

/-- Reads a range that lies below the length. -/
def read (a : Arena) (memory : Cells) (capacity : Nat) (job : Job) :
    Except Error JobOutput × Arena :=
  match span capacity job.offset job.size with
  | .error e => (.error e, a)
  | .ok stop =>
    if a.length < stop then (.error (.backend Code.outOfRange), a)
    else (.ok (.bytes (memory.read job.offset job.size)), a)

/-- Stores bytes within the capacity. -/
def write (a : Arena) (memory : Cells) (capacity : Nat) (job : Job) :
    Except Error JobOutput × Arena :=
  match span capacity job.offset job.data.length with
  | .error e => (.error e, a)
  | .ok stop =>
    (.ok (.done job.data.length),
     { memory := some (memory.store job.offset job.data), length := max a.length stop })

/-- Fills with zeros what of the range lies below the length. -/
def delete (a : Arena) (memory : Cells) (job : Job) : Except Error JobOutput × Arena :=
  let start := min job.offset a.length
  let stop := min (Word.clampedAdd start job.size) a.length
  (.ok (.done (stop - start)), { a with memory := some (memory.clear start stop) })

/-- Carries out a job.  Without memory only opening and destroying succeed. -/
def execute (a : Arena) (capacity : Nat) (job : Job) : Except Error JobOutput × Arena :=
  match job.kind, a.memory with
  | .opening, none => (.ok (.done 0), { a with memory := some (Cells.zeros capacity) })
  | .opening, some _ => (.ok (.done 0), a)
  | .destroying, _ => (.ok (.done 0), {})
  | _, none => (.error (.backend Code.badDescriptor), a)
  | .read, some memory => a.read memory capacity job
  | .write, some memory => a.write memory capacity job
  | .delete, some memory => a.delete memory job
  | .stat, some _ => (.ok (.length a.length), a)
  | .closing, some _ => (.ok (.done 0), a)

end Arena

end StorageEngine
