import StorageEngine.Proofs.Custody

/-!
# What is inside the device

A storage counts the requests inside the device and knows whether one of them is a barrier.  The
requests themselves are spread over several places: with their handlers, or on the stack with a
result that is not yet settled.  `Storage.counted` collects them.

Every rule makes at most one `Posting` in the books: a request is handed over, counted when it runs,
and taken out of the count when it settles.  So the counter never differs from the number of
requests that have begun and not settled, a barrier is inside alone, and nothing is ever taken out
of an empty count.

* `Turn.posting`, `Move.posting` — a rule makes at most one posting;
* `Posting.accounts` — a posting keeps the books right (`Accounts`);
* `Accounts.inside_perm` — what counts as inside is what the history says is inside;
* `Run.queue_length_le` — the queue never outgrows its capacity.
-/

namespace StorageEngine

namespace Task

/-- The requests of a task that count as inside the device. -/
def counted : Task → List Request
  | .pipeline r (.record _) => if r.phase = .running then [r] else []
  | .pipeline r (.settle true) => [r]
  | _ => []

end Task

namespace Storage

/-- The requests that count as inside the device. -/
def counted (s : Storage) : List Request :=
  s.outside.filter (·.phase = .running) ++ s.stack.flatMap (·.counted)

/-- How many of the requests inside the device have a property. -/
def tally (s : Storage) (p : Tag → Bool) : Nat :=
  s.counted.countP fun r => p r.tag

end Storage

/-- What a rule does to the books. -/
inductive Posting (s : Storage) (i : History) (s' : Storage) : Prop
  | nothing (begun : i.begun = []) (settled : i.settled = []) (tally : ∀ p, s'.tally p = s.tally p)
      (launched : s'.launched = s.launched) (pending : s'.pending = s.pending)
      (barrier : s'.barrier = s.barrier)
  | handedOver (r : Request) (begun : i.begun = [r.tag]) (settled : i.settled = [])
      (tally : ∀ p, s'.tally p = s.tally p) (launched : s'.launched = r :: s.launched)
      (pending : s'.pending = s.pending) (barrier : s'.barrier = s.barrier)
      (free : s.barrier = false) (alone : r.kind.isBarrier → s.pending = 0)
  | counted (r : Request) (begun : i.begun = []) (settled : i.settled = [])
      (tally : ∀ p, s'.tally p = s.tally p + if p r.tag then 1 else 0)
      (launched : s.launched = r :: s'.launched) (pending : s'.pending = s.pending + 1)
      (barrier : s'.barrier = (s.barrier || r.kind.isBarrier))
  | settled (r : Request) (begun : i.begun = []) (settled : i.settled = [r.tag])
      (tally : ∀ p, s.tally p = s'.tally p + if p r.tag then 1 else 0)
      (launched : s'.launched = s.launched) (pending : s'.pending = s.pending - 1)
      (barrier : s'.barrier = (s.barrier && !r.kind.isBarrier))

section Rules

attribute [local simp] History.begun History.settled Storage.tally Storage.counted
  Storage.launched Task.counted Task.launched Incident.begun? Incident.settled?
  List.filterMap_cons List.countP_cons

/-- Every step makes at most one posting. -/
theorem Turn.posting {s s' : Storage} {i : History} (t : Turn s i s') (inPlace : s.InPlace) :
    Posting s i s' := by
  cases t with
  | lost | cleared =>
    apply Posting.nothing <;> simp [List.filterMap_map, Function.comp_def, *]
  | @entered r rest top free empty =>
    have data : r.kind.isBarrier = false := by
      simpa using (inPlace.stack (.enter r) (by simp [top])).2
    exact .handedOver r rfl rfl (by simp [top]) (by simp [top]) rfl rfl free (by simp [data])
  | @drained r q rest top head free alone =>
    exact .handedOver r rfl rfl (by simp [top]) (by simp [top]) rfl rfl free alone
  | @finished r rest top r' _ _ _ _ follows phase =>
    have tag : r'.tag = r.tag := follows.tag
    apply Posting.counted r <;> simp [*]
    intro p
    omega
  | @dispatched r rest top r' _ _ _ _ follows phase =>
    have tag : r'.tag = r.tag := follows.tag
    apply Posting.counted r <;> simp [*]
    intro p
    omega
  | @recorded r result rest top emitter announced =>
    apply Posting.nothing <;> cases announced <;> by_cases running : r.phase = .running <;> simp [*]
  | @settled r dispatched rest top =>
    cases dispatched with
    | false => apply Posting.nothing <;> simp [*]
    | true =>
      apply Posting.settled r <;> simp [*]
      intro p
      omega
  | @freed r idle rest top a =>
    apply Posting.nothing <;> cases idle <;> simp [*]
  | @orphaned r orphans rest top =>
    have queued : r.phase = .queued :=
      inPlace.stack (.teardown (r :: orphans)) (by simp [top]) r (by simp)
    apply Posting.nothing <;> simp [*]
  | _ =>
    apply Posting.nothing <;> simp [*]

/-- A client makes no posting, unless what it pushes is inside the device and is taken back. -/
theorem Move.posting_of_kept {s s' : Storage} {a : Action} {i : History} (m : Move s a i s')
    (custody : s.Custody) (alive : s.isAlive)
    (kept : ∀ r, Incident.admitted r ∈ i → r.phase ≠ .running) : Posting s i s' := by
  have outside := Storage.countP_outside_le custody.unique
  cases m with
  | @pushed id r found room =>
    have notRunning : r.phase ≠ .running := kept r (by simp)
    obtain ⟨before, after, split, taken, -⟩ := Storage.outside_eq_of_find? (outside _) found
    apply Posting.nothing <;> simp [*]
  | @completed id r found v =>
    obtain ⟨before, after, split, taken, -⟩ := Storage.outside_eq_of_find? (outside _) found
    apply Posting.nothing <;> by_cases running : r.phase = .running <;> simp [*]
    exact fun p => (Nat.add_assoc _ _ _).symm
  | @pushAbandoned id r found e inside | @abandoned id r found inside =>
    obtain ⟨before, after, split, taken, -⟩ := Storage.outside_eq_of_find? (outside _) found
    apply Posting.nothing <;> simp [*]
    omega
  | @discarded a id r found _ _ letGo =>
    obtain ⟨before, after, split, taken, -⟩ := Storage.outside_eq_of_find? (outside _) found
    have notRunning : r.phase ≠ .running := by
      rcases letGo with notRunning | dead
      · exact notRunning
      · simp [alive] at dead
    apply Posting.nothing <;> simp [*]
  | edited id e =>
    have same (q : Request) : (if q.id = id then e.apply q else q).tag = q.tag ∧
        (if q.id = id then e.apply q else q).phase = q.phase := by
      split <;> simp
    apply Posting.nothing <;>
      simp [List.filter_map, List.countP_map, Function.comp_def, same]
  | _ =>
    apply Posting.nothing <;> simp [*]

/-- A client that keeps the rules makes no posting. -/
theorem Move.posting {s s' : Storage} {a : Action} {h i : History} (m : Move s a i s')
    (custody : s.Custody) (orderly : Rule.orderly h s a) : Posting s i s' := by
  refine m.posting_of_kept custody orderly.1 fun r admitted => ?_
  cases m with
  | pushed found room =>
    obtain rfl : r = _ := by simpa using admitted
    exact orderly.2 _ r rfl found
  | _ => simp at admitted

end Rules

/-- The books are right: what has begun has settled, is inside, or is about to be given to the
device; the counter and the flag agree with what is inside; a barrier is inside alone; and what is
about to be given to the device may go there. -/
structure Accounts (h : History) (s : Storage) : Prop where
  balance : ∀ p, h.begun.countP p =
    h.settled.countP p + s.tally p + s.launched.countP fun r => p r.tag
  pending : s.pending = s.tally fun _ => true
  barrier : s.tally (·.kind.isBarrier) = s.barrier.toNat
  alone : s.barrier = true → s.pending = 1
  next : ∀ r ∈ s.launched, s.barrier = false ∧ (r.kind.isBarrier → s.pending = 0)

theorem Storage.tally_le (s : Storage) (p : Tag → Bool) : s.tally p ≤ s.tally fun _ => true :=
  List.countP_mono_left fun _ _ _ => rfl

/-- A posting keeps the books right. -/
theorem Posting.accounts {h i : History} {s s' : Storage} (e : Posting s i s') (inv : Accounts h s)
    (onTop : s.LaunchOnTop) : Accounts (h ++ i) s' := by
  obtain ⟨balance, pending, barrier, alone, next⟩ := inv
  cases e with
  | nothing begun settled tally launched pending' barrier' =>
    constructor <;>
      simpa only [History.begun_append, History.settled_append, begun, settled, tally, launched,
        pending', barrier', List.append_nil]
  | handedOver r begun settled tally launched pending' barrier' free alone' =>
    constructor
    · intro p
      have := balance p
      simp only [History.begun_append, History.settled_append, begun, settled, tally, launched,
        List.append_nil, List.countP_append, List.countP_cons, List.countP_nil]
      omega
    · rw [pending', tally, pending]
    · rw [barrier', tally, barrier]
    · rw [barrier', pending']
      exact alone
    · rw [launched, barrier', pending']
      exact List.forall_mem_cons.mpr ⟨⟨free, alone'⟩, next⟩
  | counted r begun settled tally launched pending' barrier' =>
    obtain ⟨free, alone'⟩ := next r (by simp [launched])
    have only : s'.launched = [] := by
      have := onTop.length_launched_le
      rw [launched, List.length_cons] at this
      exact List.eq_nil_of_length_eq_zero (by omega)
    constructor
    · intro p
      have := balance p
      simp only [History.begun_append, History.settled_append, begun, settled, tally, launched,
        List.append_nil, List.countP_cons] at this ⊢
      omega
    · rw [pending', tally, pending]
      rfl
    · rw [barrier', tally, barrier, free]
      cases kind : r.kind.isBarrier <;> simp [Request.tag, kind]
    · rw [barrier', pending', free, Bool.false_or]
      intro isBarrier
      rw [alone' isBarrier]
    · simp [only]
  | settled r begun settled tally launched pending' barrier' =>
    have all := tally fun _ => true
    have barriers := tally (·.kind.isBarrier)
    have some := s'.tally_le (·.kind.isBarrier)
    rw [if_pos rfl] at all
    have tag : r.tag.kind = r.kind := rfl
    rw [tag] at barriers
    constructor
    · intro p
      have := balance p
      have := tally p
      simp only [History.begun_append, History.settled_append, begun, settled, launched,
        List.append_nil, List.countP_append, List.countP_cons, List.countP_nil]
      omega
    · omega
    · rw [barrier']
      cases flag : s.barrier with
      | false =>
        rw [flag, Bool.toNat_false] at barrier
        simp only [Bool.false_and, Bool.toNat_false]
        omega
      | true =>
        have one := alone flag
        cases kind : r.kind.isBarrier <;> simp_all
    · rw [barrier', pending']
      intro flag
      cases kind : r.kind.isBarrier <;> simp_all
    · rw [launched, barrier', pending']
      intro q hq
      obtain ⟨free, alone'⟩ := next q hq
      refine ⟨by simp [free], fun isBarrier => ?_⟩
      rw [alone' isBarrier]

theorem Run.accounts {start : Storage} (custody : start.Custody) (onTop : start.LaunchOnTop)
    (initial : Accounts [] start) {h : History} {s : Storage} (run : Run Rule.orderly start h s) :
    Accounts h s := by
  refine run.invariant initial ?_ ?_
  · intro h s i s' run inv t
    exact (t.posting (run.custody custody).inPlace).accounts inv (run.launchOnTop onTop)
  · intro h s a i s' run inv _ orderly m
    exact (m.posting (run.custody custody) orderly).accounts inv (run.launchOnTop onTop)

/-- Where nothing is about to be given to the device, what has begun and not settled is what counts
as inside. -/
theorem Accounts.inside_perm {h : History} {s : Storage} (inv : Accounts h s)
    (none : s.launched = []) : h.inside.Perm (s.counted.map Request.tag) := by
  rw [List.perm_iff_count]
  intro t
  have balance := inv.balance (· == t)
  rw [none, List.countP_nil, Nat.add_zero] at balance
  rw [History.inside, List.count_diff]
  simp only [List.count_eq_countP, List.countP_map, balance, Storage.tally, Function.comp_def]
  omega

theorem Turn.room {s s' : Storage} {i : History} (t : Turn s i s') :
    s'.limits = s.limits ∧
      (s.queue.length ≤ s.limits.queueCapacity → s'.queue.length ≤ s'.limits.queueCapacity) := by
  cases t with
  | queued _ _ _ _ _ room | waiting _ _ room =>
    refine ⟨rfl, fun _ => ?_⟩
    rw [List.length_append]
    exact room.room
  | drained _ head =>
    refine ⟨rfl, fun bound => ?_⟩
    rw [head, List.length_cons] at bound
    exact Nat.le_of_succ_le bound
  | _ =>
    refine ⟨rfl, fun bound => ?_⟩
    simp_all

theorem Move.room {s s' : Storage} {a : Action} {i : History} (m : Move s a i s') :
    s'.limits = s.limits ∧
      (s.queue.length ≤ s.limits.queueCapacity → s'.queue.length ≤ s'.limits.queueCapacity) := by
  cases m with
  | pushed _ room =>
    refine ⟨rfl, fun _ => ?_⟩
    rw [List.length_append]
    exact room.room
  | shifted head =>
    refine ⟨rfl, fun bound => ?_⟩
    rw [head, List.length_cons] at bound
    exact Nat.le_of_succ_le bound
  | _ =>
    exact ⟨rfl, id⟩

theorem Run.limits_eq {rule : Rule} {start : Storage} {h : History} {s : Storage}
    (run : Run rule start h s) : s.limits = start.limits := by
  refine run.invariant (motive := fun _ s => s.limits = start.limits) rfl ?_ ?_
  · exact fun _ inv t => t.room.1.trans inv
  · exact fun _ inv _ _ m => m.room.1.trans inv

/-- The queue never outgrows its capacity. -/
theorem Run.queue_length_le {rule : Rule} {start : Storage} (empty : start.queue = [])
    {h : History} {s : Storage} (run : Run rule start h s) :
    s.queue.length ≤ start.limits.queueCapacity := by
  rw [← run.limits_eq]
  refine run.invariant (motive := fun _ s => s.queue.length ≤ s.limits.queueCapacity) ?_ ?_ ?_
  · simp [empty]
  · exact fun _ inv t => t.room.2 inv
  · exact fun _ inv _ _ m => m.room.2 inv

section Create

variable (capabilities : Capabilities) (limits : Limits) (allocator : Allocator)

theorem accounts_create : Accounts [] (Storage.create capabilities limits allocator) := by
  constructor <;> simp [History.begun, History.settled, Storage.tally, Storage.counted,
    Storage.launched, Storage.create]

end Create

theorem Run.accounts_of_create {capabilities : Capabilities} {limits : Limits}
    {allocator : Allocator} {h : History} {s : Storage}
    (run : Run Rule.orderly (Storage.create capabilities limits allocator) h s) : Accounts h s :=
  run.accounts (Storage.custody_create ..) (Storage.launchOnTop_create ..) (accounts_create ..)

/-- **Accounting and exclusion.**  Whenever client code has control, the counter is the number of
requests that have begun and not settled; the flag is up exactly if one of them is a barrier, and
then that one is alone.  The queue never outgrows its capacity, and nothing is ever taken out of an
empty count. -/
theorem Run.accounting {capabilities : Capabilities} {limits : Limits} {allocator : Allocator}
    {h : History} {s : Storage}
    (run : Run Rule.orderly (Storage.create capabilities limits allocator) h s) :
    (s.isAtRest →
      s.pending = h.inside.length ∧
      (s.barrier = true ↔ ∃ t ∈ h.inside, t.kind.isBarrier) ∧
      (s.barrier = true → s.pending = 1)) ∧
    s.queue.length ≤ limits.queueCapacity ∧
    ∀ r rest, s.stack = .pipeline r (.settle true) :: rest → 0 < s.pending := by
  have books := run.accounts_of_create
  have onTop := run.launchOnTop (Storage.launchOnTop_create ..)
  refine ⟨fun turn => ⟨?_, ?_, books.alone⟩, run.queue_length_le rfl, fun r rest top => ?_⟩
  · have inside := (books.inside_perm (onTop.launched_eq_nil turn)).length_eq
    rw [inside, List.length_map, books.pending, Storage.tally, List.countP_true]
  · have inside := books.inside_perm (onTop.launched_eq_nil turn)
    have flag : s.barrier = true ↔ 0 < s.tally (·.kind.isBarrier) := by
      rw [books.barrier]
      cases s.barrier <;> simp
    simp [flag, Storage.tally, List.countP_pos_iff, inside.mem_iff]
  · rw [books.pending, Storage.tally, List.countP_true]
    exact List.length_pos_of_mem (a := r) (by simp [Storage.counted, top, Task.counted])

/-- An opening inside the device. -/
theorem Run.accounting_opening :
    ∃ h s, Run Rule.orderly (Storage.create .readWrite) h s ∧ s.isAtRest ∧ s.barrier = true ∧
      h.inside = [⟨1, .opening⟩] ∧ s.pending = h.inside.length := by
  have fresh : Run Rule.orderly (Storage.create .readWrite) [] _ := .start
  have asked := fresh.move (.call .opening (some (.call 1)) none) rfl ⟨rfl, by simp⟩
  have run := (((asked.step rfl).step rfl).step rfl).step rfl
  have books := (Run.accounting run).1 (by decide)
  exact ⟨_, _, run, by decide, by decide, by decide, books.1⟩

end StorageEngine
