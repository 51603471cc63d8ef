import StorageEngine.Capabilities
import StorageEngine.Device.Arena

/-!
# A pool of workers

Requests stay with the owner of the pool; only a job crosses over to the workers, and its output
comes back.  The owner keeps a table of the requests whose jobs are under way, by job number.
Nothing happens to a request until the owner receives the output of its job.  Jobs are carried out
in the order in which they were given.
-/

namespace StorageEngine

/-- A pool of workers over one arena. -/
structure Pool where
  workers : Nat := 1
  capacity : Nat := 65536
  arena : Arena := {}
  /-- Jobs that no worker has taken up, oldest first. -/
  jobs : List Job := []
  /-- Outputs that have not been received, oldest first. -/
  outputs : List (Nat × Except Error JobOutput) := []
  /-- The requests whose jobs are under way. -/
  outstanding : List (Nat × RequestId) := []
  nextJob : Nat := 1
  deriving Inhabited

namespace Pool

/-- The size of an arena for which none was asked. -/
def defaultCapacity : Nat := 65536

/-- A pool with at least one worker. -/
def start (workers capacity : Nat) : Pool :=
  { workers := max workers 1, capacity }

/-- The job that a handler gives to the workers; an opening for reading only needs none. -/
def jobKind? : Handler → Option JobKind
  | .openReadOnly => none
  | .openReadWrite => some .opening
  | .read => some .read
  | .write => some .write
  | .delete => some .delete
  | .stat => some .stat
  | .close => some .closing
  | .destroy => some .destroying

/-- Gives the job of a request to the workers. -/
def submit (p : Pool) (kind : JobKind) (r : Request) : Pool :=
  let data := if kind = .write then r.data else []
  { p with
    jobs := p.jobs ++ [{ number := p.nextJob, kind, offset := r.offset, size := r.size, data }]
    outstanding := p.outstanding ++ [(p.nextJob, r.id)]
    nextJob := p.nextJob + 1 }

/-- A worker carries out the oldest job. -/
def work (p : Pool) : Pool :=
  match p.jobs with
  | [] => p
  | job :: rest =>
    let (output, arena) := p.arena.execute p.capacity job
    { p with arena, jobs := rest, outputs := p.outputs ++ [(job.number, output)] }

/-- How the output of a job finishes its request. -/
def verdict : Except Error JobOutput → Verdict
  | .ok (.done size) => { result := .ok (some size) }
  | .ok (.bytes b) => { data := some b, result := .ok (some b.length) }
  | .ok (.length size) => { stats := some { size }, result := .ok none }
  | .error e => { result := .error e }

/-- Receives the oldest output, waiting for a worker if there is none: the request that it
finishes, if the job is known, and how. -/
def receive? (p : Pool) : Option (Option RequestId × Verdict × Pool) :=
  let p := if p.outputs.isEmpty then p.work else p
  match p.outputs with
  | [] => none
  | (number, output) :: rest =>
    some (p.outstanding.lookup number, verdict output,
      { p with outputs := rest, outstanding := p.outstanding.filter (·.1 ≠ number) })

/-- Whether a request's job is under way. -/
def holds (p : Pool) (id : RequestId) : Bool :=
  p.outstanding.any (·.2 = id)

/-- The diagnostic text of a pool. -/
def describe (p : Pool) : String :=
  Text.record "ThreadPoolBackend" [
    ("workers", toString p.workers),
    ("region_size", toString p.capacity),
    ("outstanding", toString p.outstanding.length)]

end Pool

end StorageEngine
