import StorageEngine.Device.Pool
import StorageEngine.Proofs.FlatFile
import StorageEngine.Proofs.PagedMemory
import StorageEngine.Proofs.PagedReads

/-!
# The memory that workers share is a bounded flat array

Whatever jobs workers carry out on their memory, in whatever order, they end as on a flat array of
bytes that has a capacity (`Job.perform`): there is no array until an opening and after a
destruction, and then one that a write makes as long as it reaches, within the capacity.  The memory
behind the array holds zeros, and no job ever asks for a slice that the memory does not have.

As long as the ranges of the jobs end within the capacity, a paged store to which the same requests
are given ends them alike and holds the same bytes: only that it says more when it is asked for its
length.

* `Arena.Shows` — the memory shows a flat array;
* `Arena.Shows.execute`, `Arena.Shows.execute?_eq` — one job;
* `Arena.executeAll_eq_flat` — all jobs.
-/

namespace StorageEngine

namespace Cells

/-- These are the ends of a slice. -/
def HasSlice (c : Cells) (start stop : Nat) : Prop :=
  start ≤ stop ∧ stop ≤ c.length

instance (c : Cells) (start stop : Nat) : Decidable (c.HasSlice start stop) :=
  inferInstanceAs (Decidable (_ ∧ _))

/-- The bytes of a slice, if it is one. -/
def slice? (c : Cells) (start stop : Nat) : Option Bytes :=
  if c.HasSlice start stop then some (c.read start (stop - start)) else none

/-- A slice replaced by as many bytes. -/
def put? (c : Cells) (start stop : Nat) (src : Bytes) : Option Cells :=
  if c.HasSlice start stop ∧ src.length = stop - start then some (c.store start src) else none

/-- A slice filled with zeros. -/
def fill? (c : Cells) (start stop : Nat) : Option Cells :=
  if c.HasSlice start stop then some (c.clear start stop) else none

end Cells

namespace Arena

/-- Carries out a job as `execute` does, but gives up at a slice that the memory does not have. -/
def execute? (a : Arena) (capacity : Nat) (job : Job) : Option (Except Error JobOutput × Arena) :=
  match job.kind, a.memory with
  | .read, some memory =>
    match span capacity job.offset job.size with
    | .error e => some (.error e, a)
    | .ok stop =>
      if a.length < stop then some (.error (.backend Code.outOfRange), a)
      else (memory.slice? job.offset stop).map fun bytes => (.ok (.bytes bytes), a)
  | .write, some memory =>
    match span capacity job.offset job.data.length with
    | .error e => some (.error e, a)
    | .ok stop =>
      (memory.put? job.offset stop job.data).map fun memory =>
        (.ok (.done (stop - job.offset)), { memory := some memory, length := max a.length stop })
  | .delete, some memory =>
    let start := min job.offset a.length
    let stop := min (Word.clampedAdd start job.size) a.length
    (memory.fill? start stop).map fun memory =>
      (.ok (.done (stop - start)), { a with memory := some memory })
  | _, _ => some (a.execute capacity job)

end Arena

/-- Carries out jobs, one after the other: their outputs, and what is left after them. -/
def executeAll {σ : Type} (execute : σ → Job → Except Error JobOutput × σ) (s : σ) :
    List Job → List (Except Error JobOutput) × σ
  | [] => ([], s)
  | job :: jobs =>
    ((execute s job).1 :: (executeAll execute (execute s job).2 jobs).1,
      (executeAll execute (execute s job).2 jobs).2)

namespace Job

variable (capacity : Nat) (job : Job)

/-- Where the range of a job ends: of a write, behind the bytes that it has. -/
def stop : Nat :=
  job.offset + if job.kind = .write then job.data.length else job.size

/-- Why a range that ends beyond the capacity is refused. -/
def refusal : Error :=
  .backend (if Word.top < job.stop then Code.invalid else Code.noSpace)

/-- What a job does to a flat array that is at most `capacity` bytes long, if there is one. -/
def perform : Option Bytes → Except Error JobOutput × Option Bytes
  | none =>
    match job.kind with
    | .opening => (.ok (.done 0), some [])
    | .destroying => (.ok (.done 0), none)
    | _ => (.error (.backend Code.badDescriptor), none)
  | some b =>
    match job.kind with
    | .opening | .closing => (.ok (.done 0), some b)
    | .destroying => (.ok (.done 0), none)
    | .read =>
      if capacity < job.stop then (.error job.refusal, some b)
      else if b.length < job.stop then (.error (.backend Code.outOfRange), some b)
      else (.ok (.bytes ((b.drop job.offset).take job.size)), some b)
    | .write =>
      if capacity < job.stop then (.error job.refusal, some b)
      else (.ok (.done job.data.length), some (b.overwrite job.offset job.data))
    | .delete =>
      (.ok (.done (b.reach job.offset job.size)), some (b.wipe job.offset job.size))
    | .stat => (.ok (.length b.length), some b)

/-- The range of a job, if it is one that has a range, ends within the capacity. -/
def EndsWithin : Prop :=
  job.kind ∈ [.read, .write, .delete] → job.stop ≤ capacity

instance : Decidable (job.EndsWithin capacity) :=
  inferInstanceAs (Decidable (_ → _))

/-- The job is the one that a handler gives to the workers for a request.  The buffer of a read is
as long as its size. -/
structure IsFor (job : Job) (call : Handler × Request) : Prop where
  kind : Pool.jobKind? call.1 = some job.kind
  offset : call.2.offset = job.offset
  size : call.2.size = job.size
  data : job.kind = .write → call.2.data = job.data
  buffer : job.kind = .read → call.2.data.length = job.size

end Job

namespace Arena

/-- The bytes below the length. -/
def contents (a : Arena) : Option Bytes :=
  a.memory.map fun memory => memory.read 0 a.length

/-- The memory shows a flat array: its bytes, and zeros behind them up to the capacity. -/
inductive Shows (capacity : Nat) : Arena → Option Bytes → Prop
  | bare : Shows capacity {} none
  | filled {memory : Cells} {length : Nat} {b : Bytes} (size : memory.length = capacity)
      (fits : length ≤ capacity) (long : b.length = length)
      (bytes : ∀ i, memory.get i = b.getD i 0) :
      Shows capacity { memory := some memory, length } (some b)

variable {capacity : Nat} {a : Arena} {flat : Option Bytes} {job : Job} {memory : Cells} {b : Bytes}

theorem Shows.contents_eq (shown : Shows capacity a flat) : a.contents = flat := by
  cases shown with
  | bare => rfl
  | @filled memory length b size fits long bytes =>
    subst long
    refine congrArg some (List.ext_getElem? fun i => ?_)
    rw [Cells.getElem?_read, Nat.zero_add]
    split
    case isTrue inside => rw [bytes, List.getD_eq_getElem _ _ inside, List.getElem?_eq_getElem]
    case isFalse past => exact (List.getElem?_eq_none (Nat.le_of_not_lt past)).symm

/-- Behind the array there are zeros. -/
theorem Shows.bounded (shown : Shows capacity a flat) (there : a.memory = some memory) :
    memory.length = capacity ∧ a.length ≤ capacity ∧ ∀ i, a.length ≤ i → memory.get i = 0 := by
  cases shown with
  | bare => exact absurd there (by simp)
  | filled size fits long bytes =>
    subst long
    obtain rfl := Option.some.inj there
    exact ⟨size, fits, fun i past => (bytes i).trans (List.getD_eq_default _ _ past)⟩

/-- Nothing else is kept while there is no memory. -/
theorem Shows.eq_empty (shown : Shows capacity a flat) (bare : a.memory = none) :
    a = {} ∧ flat = none := by
  cases shown with
  | bare => exact ⟨rfl, rfl⟩
  | filled => exact absurd bare (by simp)

section Ranges

variable (word : capacity ≤ Word.top)
include word

/-- A range that ends within the capacity is accepted; where the others end says why they are not. -/
theorem span_eq (offset size : Nat) : span capacity offset size =
    if capacity < offset + size then
      .error (.backend (if Word.top < offset + size then Code.invalid else Code.noSpace))
    else .ok (offset + size) := by
  unfold span Word.checkedAdd?
  by_cases sum : offset + size ≤ Word.top
  · simp [sum, Nat.not_lt.mpr sum]
  · have beyond : capacity < offset + size := by omega
    simp [sum, beyond, Nat.lt_of_not_le sum]

/-- The slice that an erasure fills: it ends at the end of its range or at the length. -/
theorem erased_slice {length : Nat} (fits : length ≤ capacity) (offset size : Nat) :
    min (Word.clampedAdd (min offset length) size) length =
      max (min offset length) (min (offset + size) length) := by
  unfold Word.clampedAdd
  omega

end Ranges

section Writing

variable (bytes : ∀ i, memory.get i = b.getD i 0)
include bytes

theorem get_store_eq {offset : Nat} {data : Bytes} (inside : offset + data.length ≤ memory.length)
    (i : Nat) : (memory.store offset data).get i = (b.overwrite offset data).getD i 0 := by
  rw [Bytes.getD_overwrite]
  by_cases within : i < memory.length
  · rw [Cells.get_store _ _ within, bytes]
    by_cases there : offset ≤ i ∧ i < offset + data.length
    · rw [if_pos there.1, if_pos there, List.getD_eq_getElem _ _ (by omega),
        List.getD_eq_getElem _ _ (by omega)]
    · rw [if_neg there]
      split
      · exact List.getD_eq_default _ _ (by omega)
      · rfl
  · have past : memory.length ≤ i := Nat.le_of_not_lt within
    rw [if_neg (by omega), ← bytes, Cells.get_of_length_le past]
    exact Cells.get_of_length_le past

theorem get_clear_eq {offset size start stop : Nat} (first : start = min offset b.length)
    (last : stop = max start (min (offset + size) b.length)) (i : Nat) :
    (memory.clear start stop).get i = (b.wipe offset size).getD i 0 := by
  rw [Cells.get_clear, Bytes.getD_wipe, bytes]
  by_cases within : i < b.length
  · exact if_congr (by omega) rfl rfl
  · rw [List.getD_eq_default _ _ (Nat.le_of_not_lt within), ite_self, ite_self]

theorem read_eq_take {start len : Nat} (inside : start + len ≤ b.length) :
    memory.read start len = (b.drop start).take len := by
  refine List.ext_getElem? fun i => ?_
  rw [Cells.getElem?_read, List.getElem?_take, List.getElem?_drop, bytes]
  split
  · rw [List.getD_eq_getElem _ _ (by omega), List.getElem?_eq_getElem]
  · rfl

end Writing

section Step

variable (word : capacity ≤ Word.top)
include word

/-- What a job does to an arena and to the flat array that it shows. -/
theorem Shows.execute (shown : Shows capacity a flat) (job : Job) :
    (a.execute capacity job).1 = (job.perform capacity flat).1 ∧
      Shows capacity (a.execute capacity job).2 (job.perform capacity flat).2 := by
  obtain ⟨number, kind, offset, size, data⟩ := job
  cases shown with
  | bare =>
    cases kind with
    | opening => exact ⟨rfl, .filled rfl (Nat.zero_le _) rfl (Cells.get_zeros capacity)⟩
    | _ => exact ⟨rfl, .bare⟩
  | @filled memory length b room fits long bytes =>
    have same : Shows capacity { memory := some memory, length } (some b) :=
      .filled room fits long bytes
    subst long
    cases kind with
    | opening | closing | stat => exact ⟨rfl, same⟩
    | destroying => exact ⟨rfl, .bare⟩
    | read =>
      simp only [Arena.execute, read, span_eq word, Job.perform, Job.refusal, Job.stop, reduceCtorEq,
        if_false]
      by_cases beyond : capacity < offset + size
      · simp only [beyond, if_true]
        exact ⟨trivial, same⟩
      · by_cases past : b.length < offset + size
        · simp only [beyond, past, if_true, if_false]
          exact ⟨trivial, same⟩
        · simp only [beyond, past, if_false, read_eq_take bytes (Nat.le_of_not_lt past)]
          exact ⟨trivial, same⟩
    | write =>
      simp only [Arena.execute, write, span_eq word, Job.perform, Job.refusal, Job.stop, if_true]
      by_cases beyond : capacity < offset + data.length
      · simp only [beyond, if_true]
        exact ⟨trivial, same⟩
      · simp only [beyond, if_false]
        have inside : offset + data.length ≤ memory.length := room ▸ Nat.le_of_not_lt beyond
        refine ⟨trivial, .filled room ?_ (Bytes.length_overwrite ..) (get_store_eq bytes inside)⟩
        omega
    | delete =>
      have slice := erased_slice word fits offset size
      have counted : max (min offset b.length) (min (offset + size) b.length) -
          min offset b.length = b.reach offset size := by
        unfold Bytes.reach
        omega
      simp only [Arena.execute, delete, Job.perform, slice, counted]
      refine ⟨trivial, .filled room fits (Bytes.length_wipe ..) (get_clear_eq bytes rfl rfl)⟩

/-- No job asks for a slice that the memory does not have. -/
theorem Shows.execute?_eq (shown : Shows capacity a flat) (job : Job) :
    a.execute? capacity job = some (a.execute capacity job) := by
  obtain ⟨number, kind, offset, size, data⟩ := job
  cases shown with
  | bare => cases kind <;> rfl
  | @filled memory length b room fits long bytes =>
    cases kind with
    | read =>
      simp only [execute?, Arena.execute, read, span_eq word]
      by_cases beyond : capacity < offset + size
      · simp only [beyond, if_true]
      · by_cases past : length < offset + size
        · simp only [beyond, past, if_true, if_false]
        · have inside : memory.HasSlice offset (offset + size) := by
            unfold Cells.HasSlice
            omega
          simp only [beyond, past, if_false, Cells.slice?, inside, if_true, Option.map_some,
            Nat.add_sub_cancel_left]
    | write =>
      simp only [execute?, Arena.execute, write, span_eq word]
      by_cases beyond : capacity < offset + data.length
      · simp only [beyond, if_true]
      · have inside : memory.HasSlice offset (offset + data.length) := by
          unfold Cells.HasSlice
          omega
        simp only [beyond, if_false, Cells.put?, inside, Nat.add_sub_cancel_left, and_self, if_true,
          Option.map_some]
    | delete =>
      have slice := erased_slice word fits offset size
      have inside : memory.HasSlice (min offset length)
          (max (min offset length) (min (offset + size) length)) := by
        unfold Cells.HasSlice
        omega
      simp only [execute?, Arena.execute, delete, slice, Cells.fill?, inside, if_true,
        Option.map_some]
    | _ => rfl

end Step

/-- A job that fails changes nothing. -/
theorem execute_of_error {e : Error} (failed : (a.execute capacity job).1 = .error e) :
    (a.execute capacity job).2 = a := by
  obtain ⟨memory, length⟩ := a
  obtain ⟨number, kind, offset, size, data⟩ := job
  cases kind <;> cases memory <;> simp_all only [Arena.execute, reduceCtorEq]
  case read.some memory =>
    unfold read
    split <;> [rfl; (split <;> rfl)]
  case write.some memory =>
    unfold write at failed ⊢
    split <;> simp_all
  case delete.some memory => simp [delete] at failed

/-- What jobs do to an arena and to the flat array that it shows. -/
theorem Shows.executeAll (word : capacity ≤ Word.top) (shown : Shows capacity a flat)
    (jobs : List Job) :
    let ran := executeAll (fun a job => a.execute capacity job) a jobs
    let flat := executeAll (fun flat job => job.perform capacity flat) flat jobs
    ran.1 = flat.1 ∧ Shows capacity ran.2 flat.2 := by
  induction jobs generalizing a flat with
  | nil => exact ⟨rfl, shown⟩
  | cons job jobs ih =>
    obtain ⟨output, left⟩ := shown.execute word job
    obtain ⟨outputs, last⟩ := ih left
    exact ⟨congrArg₂ List.cons output outputs, last⟩

end Arena

/-- A verdict without what a device may add to the length. -/
def Verdict.plain (v : Verdict) : Verdict :=
  { v with stats := v.stats.map fun stats => { size := stats.size } }

namespace Sparse

/-- A paged store holds these bytes, and zeros behind them. -/
structure Contains (s : Sparse) (b : Bytes) : Prop where
  paged : s.IsPaged
  length : s.length = b.length
  bytes : ∀ i, s.get i = b.getD i 0

theorem contains_empty {pageSize : Nat} (positive : 0 < pageSize) :
    (empty pageSize).Contains [] where
  paged := isPaged_empty positive
  length := rfl
  bytes := get_empty pageSize

variable {s : Sparse} {b : Bytes} {capacity : Nat} {job : Job} {h : Handler} {r : Request}

theorem Contains.read_eq (contains : s.Contains b) {start len : Nat}
    (inside : start + len ≤ b.length) :
    (List.range' start len).map s.get = (b.drop start).take len := by
  refine List.ext_getElem? fun i => ?_
  rw [List.getElem?_map, List.getElem?_take, List.getElem?_drop]
  by_cases within : i < len
  · rw [List.getElem?_range' within, Nat.one_mul, Option.map_some, contains.bytes, if_pos within,
      List.getD_eq_getElem _ _ (by omega), List.getElem?_eq_getElem]
  · rw [List.getElem?_eq_none (by simpa using within), if_neg within]
    rfl

/-- A job whose range ends within the capacity ends as its request does on a paged store with the
same bytes, and leaves the same bytes. -/
theorem Contains.serve (contains : s.Contains b) (word : capacity ≤ Word.top)
    (asked : job.IsFor (h, r)) (within : job.EndsWithin capacity) (living : job.kind ≠ .destroying) :
    let performed := job.perform capacity (some b)
    Pool.verdict performed.1 = (s.serve h r).1.plain ∧
      ∃ b', performed.2 = some b' ∧ (s.serve h r).2.Contains b' := by
  obtain ⟨number, kind, offset, size, data⟩ := job
  obtain ⟨known, here, long, written, buffer⟩ := asked
  dsimp only at here long
  subst here long
  have paged := contains.paged
  cases h with
  | openReadOnly => exact absurd known (by simp [Pool.jobKind?])
  | openReadWrite | close =>
    obtain rfl := Option.some.inj known
    exact ⟨rfl, b, rfl, contains⟩
  | destroy => exact absurd (Option.some.inj known).symm living
  | stat =>
    obtain rfl := Option.some.inj known
    refine ⟨?_, b, rfl, contains⟩
    rw [Job.perform, ← contains.length]
    rfl
  | read =>
    obtain rfl := Option.some.inj known
    have buffer : r.data.length = r.size := buffer rfl
    have within : r.offset + r.size ≤ capacity := within (by simp)
    have accepted : ¬ capacity < r.offset + r.size := Nat.not_lt.mpr within
    simp only [Job.perform, Job.stop, reduceCtorEq, accepted, if_false, ← contains.length]
    by_cases past : s.length < r.offset + r.size
    · have short : s.length < Word.top := by omega
      rw [paged.serve_read_beyond (buffer.symm ▸ past) short, if_pos past]
      exact ⟨rfl, b, rfl, contains⟩
    · have inside : r.offset + r.size ≤ b.length := contains.length ▸ Nat.le_of_not_lt past
      rw [paged.serve_read_within (by omega), if_neg past, buffer, contains.read_eq inside]
      refine ⟨?_, b, rfl, contains⟩
      have whole : ((b.drop r.offset).take r.size).length = r.size := by
        rw [List.length_take, List.length_drop]
        omega
      simp [Pool.verdict, Verdict.plain, whole]
  | write =>
    obtain rfl := Option.some.inj known
    obtain rfl : r.data = data := written rfl
    have within : r.offset + r.data.length ≤ capacity := within (by simp)
    obtain ⟨s', stored, paged', -, length, bytes⟩ := write_of_fits paged (within.trans word)
    rw [serve_of_written stored]
    simp only [Job.perform, Job.stop, if_true, Nat.not_lt.mpr within, if_false]
    refine ⟨rfl, _, rfl, paged', ?_, fun i => ?_⟩
    · rw [length, contains.length, Bytes.length_overwrite]
    · rw [bytes, contains.bytes, Bytes.getD_overwrite]
  | delete =>
    obtain rfl := Option.some.inj known
    obtain ⟨paged', -, length, bytes⟩ := erase_eq paged r.offset r.size
    refine ⟨?_, b.wipe r.offset r.size, rfl, paged', ?_, fun i => ?_⟩
    · have count : (s.serve .delete r).1 = { result := .ok (some (s.erase r.offset r.size).1) } := rfl
      rw [count, fst_erase paged, contains.length]
      rfl
    · rw [Sparse.serve, length, contains.length, Bytes.length_wipe]
    · rw [Sparse.serve, bytes, contains.bytes, contains.length, Bytes.getD_wipe]
      by_cases there : i < b.length
      · exact if_congr (by omega) rfl rfl
      · rw [List.getD_eq_default _ _ (Nat.le_of_not_lt there), ite_self, ite_self]

/-- Jobs whose ranges end within the capacity end as their requests do on a paged store. -/
theorem Contains.serveAll (contains : s.Contains b) (word : capacity ≤ Word.top) {jobs : List Job}
    {calls : List (Handler × Request)} (asked : List.Forall₂ Job.IsFor jobs calls)
    (within : ∀ job ∈ jobs, job.EndsWithin capacity)
    (living : ∀ job ∈ jobs, job.kind ≠ .destroying) :
    let performed := executeAll (fun flat job => job.perform capacity flat) (some b) jobs
    let served := serveAll Sparse.serve s calls
    performed.1.map Pool.verdict = served.1.map Verdict.plain ∧
      ∃ b', performed.2 = some b' ∧ served.2.Contains b' := by
  induction asked generalizing s b with
  | nil => exact ⟨rfl, b, rfl, contains⟩
  | @cons job call jobs calls asked later ih =>
    obtain ⟨within, withinLater⟩ := List.forall_mem_cons.mp within
    obtain ⟨living, livingLater⟩ := List.forall_mem_cons.mp living
    obtain ⟨verdict, b', left, contains'⟩ := contains.serve word asked within living
    obtain ⟨verdicts, last⟩ := ih contains' withinLater livingLater
    simp only [executeAll, left]
    exact ⟨congrArg₂ List.cons verdict verdicts, last⟩

end Sparse

/-- An opening finds no array or an empty one alike. -/
theorem Job.perform_opening {job : Job} (opens : job.kind = .opening) (capacity : Nat) :
    job.perform capacity none = job.perform capacity (some []) := by
  simp only [perform, opens]

/-- The jobs that a pool gives to its workers are the jobs of its requests. -/
theorem Pool.submit_isFor {p : Pool} {h : Handler} {r : Request} {kind : JobKind}
    (known : jobKind? h = some kind) (buffer : kind = .read → r.data.length = r.size) :
    ∃ job : Job, (p.submit kind r).jobs = p.jobs ++ [job] ∧ job.IsFor (h, r) :=
  ⟨_, rfl, known, rfl, rfl, fun writing => (if_pos writing).symm, buffer⟩

namespace Arena

/-- An arena that shows the bytes of a paged store has its length and its bytes. -/
theorem Shows.agrees {capacity : Nat} {a : Arena} {b : Bytes} {s : Sparse}
    (shown : Shows capacity a (some b)) (contains : s.Contains b) :
    a.length = s.length ∧ ∃ memory, a.memory = some memory ∧ ∀ i, memory.get i = s.get i := by
  cases shown with
  | @filled memory length b size fits long bytes =>
    refine ⟨long.symm.trans contains.length.symm, memory, rfl, fun i => ?_⟩
    rw [bytes, contains.bytes]

/-- **The memory of the workers is a bounded flat array.**  Whatever jobs are carried out on it, from
the beginning on, they end as on a flat array of at most `capacity` bytes, which the memory shows.
While there is memory it has exactly its capacity, the length lies within it and there are zeros
behind.  The next job, whichever it is, never asks for a slice that the memory does not have, and
changes nothing if it fails.  And whenever there is no memory, jobs that begin with an opening, do
not destroy and stay within the capacity end as their requests do on a paged store of any page size,
which has the same length and the same bytes after them. -/
theorem executeAll_eq_flat {capacity : Nat} (word : capacity ≤ Word.top) (jobs : List Job) :
    let executed := executeAll fun (a : Arena) job => a.execute capacity job
    let performed := executeAll fun flat (job : Job) => job.perform capacity flat
    let a := (executed {} jobs).2
    (executed {} jobs).1 = (performed none jobs).1 ∧ a.contents = (performed none jobs).2 ∧
      (∀ memory, a.memory = some memory →
        memory.length = capacity ∧ a.length ≤ capacity ∧ ∀ i, a.length ≤ i → memory.get i = 0) ∧
      (∀ job, a.execute? capacity job = some (a.execute capacity job)) ∧
      (∀ job e, (a.execute capacity job).1 = .error e → (a.execute capacity job).2 = a) ∧
      ∀ first later calls pageSize, a.memory = none → 0 < pageSize → first.kind = .opening →
        (∀ job ∈ first :: later, job.kind ≠ .destroying ∧ job.EndsWithin capacity) →
        List.Forall₂ Job.IsFor (first :: later) calls →
        let ran := executed a (first :: later)
        let paged := serveAll Sparse.serve (.empty pageSize) calls
        ran.1.map Pool.verdict = paged.1.map Verdict.plain ∧ ran.2.length = paged.2.length ∧
          ∃ memory, ran.2.memory = some memory ∧ ∀ i, memory.get i = paged.2.get i := by
  intro executed performed a
  obtain ⟨outputs, shown⟩ := Shows.executeAll word .bare jobs
  refine ⟨outputs, shown.contents_eq, fun memory there => shown.bounded there,
    shown.execute?_eq word, fun job e => execute_of_error, ?_⟩
  intro first later calls pageSize bare positive opens rules asked ran paged
  obtain ⟨nothing, -⟩ := shown.eq_empty bare
  obtain ⟨verdicts, b, left, contains⟩ := Sparse.Contains.serveAll (Sparse.contains_empty positive)
    word asked (fun job member => (rules job member).2) fun job member => (rules job member).1
  -- A paged store begins with an empty array, the arena with none; its opening makes up for that.
  have empty : performed none (first :: later) = performed (some []) (first :: later) := by
    simp only [performed, executeAll, Job.perform_opening opens]
  have begun : Shows capacity a none := by
    rw [show a = {} from nothing]
    exact .bare
  obtain ⟨outputs, shown⟩ := begun.executeAll word (first :: later)
  have shown : Shows capacity ran.2 (performed none (first :: later)).2 := shown
  rw [empty, left] at shown
  obtain ⟨length, bytes⟩ := shown.agrees contains
  refine ⟨?_, length, bytes⟩
  calc ran.1.map Pool.verdict
      = (performed (some []) (first :: later)).1.map Pool.verdict := by rw [← empty, ← outputs]
    _ = paged.1.map Verdict.plain := verdicts

/-- Jobs before there is memory, beyond the capacity and beyond all addresses, some that go through,
and a destruction; then an opening, and the same operations on a paged store. -/
theorem executeAll_eq_flat_eight :
    let executed := executeAll fun (a : Arena) job => a.execute 8 job
    let jobs : List Job := [
      ⟨1, .read, 0, 2, []⟩, ⟨2, .opening, 0, 0, []⟩, ⟨3, .write, 6, 3, [1, 2, 3]⟩,
      ⟨4, .write, Word.top, 1, [1]⟩, ⟨5, .write, 2, 3, [1, 2, 3]⟩, ⟨6, .delete, 3, 9, []⟩,
      ⟨7, .read, 1, 4, []⟩, ⟨8, .destroying, 0, 0, []⟩]
    let later : List Job := [⟨9, .opening, 0, 0, []⟩, ⟨10, .write, 3, 2, [4, 5]⟩, ⟨11, .read, 2, 3, []⟩]
    let calls : List (Handler × Request) := [
      (.openReadWrite, { id := 9, kind := .opening }),
      (.write, { id := 10, kind := .write, offset := 3, size := 2, data := [4, 5] }),
      (.read, { id := 11, kind := .read, offset := 2, size := 3, data := [7, 7, 7] })]
    8 ≤ Word.top ∧
      (executed {} jobs).1.map Except.toOption = [none, some (.done 0), none, none,
        some (.done 3), some (.done 2), some (.bytes [0, 1, 0, 0]), some (.done 0)] ∧
      (executed (executed {} jobs).2 later).1.map Pool.verdict =
        (serveAll Sparse.serve (.empty 4) calls).1.map Verdict.plain ∧
      ((executed (executed {} jobs).2 later).1.map Pool.verdict).getLast? =
        some { data := some [0, 4, 5], result := .ok (some 3) } := by
  intro executed jobs later calls
  have word : 8 ≤ Word.top := by decide
  obtain ⟨outputs, -, -, -, -, rest⟩ := executeAll_eq_flat word jobs
  have asked : List.Forall₂ Job.IsFor later calls :=
    .cons ⟨rfl, rfl, rfl, nofun, nofun⟩ (.cons ⟨rfl, rfl, rfl, fun _ => rfl, nofun⟩
      (.cons ⟨rfl, rfl, rfl, nofun, fun _ => rfl⟩ .nil))
  obtain ⟨same, -⟩ := rest _ _ calls 4 rfl (by decide) rfl (by decide) asked
  refine ⟨word, ?_, same, ?_⟩
  · exact (congrArg (List.map Except.toOption) outputs).trans (by decide +kernel)
  · exact (congrArg List.getLast? same).trans (by decide +kernel)

end Arena

end StorageEngine
