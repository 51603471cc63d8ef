import StorageEngine.Node
import StorageEngine.Proofs.Calls
import StorageEngine.Proofs.Effort
import StorageEngine.Proofs.Lifecycle

/-!
# Runs of a storage over a pool

A storage over a pool of workers goes on by itself, and so does its device; workers carry out jobs
at any time; and where it is the clients' turn, a client makes a move, or the owner of the pool
receives an output.  The storage itself cannot tell this from any other run (`PoolRun.run`): to it,
the owner is a client that finishes requests.

The traffic between the owner and the workers is noted as it happens: which request each job was
given for, and by which request the table knew the job when its output was received.

* `Pool.Matches` — the channels, the table and the storage agree;
* `Pool.Matches.receives` — then the table knows the job of every output that is received;
* `happening_of_goes` — nothing happens but what the rules of `Happening` say;
* `Happening.run`, `Happening.matches` — it is a part of a run of the storage, and afterwards the
  channels, the table and the storage still agree;
* `PoolRun.reached` — so they do along every run.
-/

namespace StorageEngine

/-- What has happened. -/
@[ext]
structure Traffic where
  history : History := []
  /-- The jobs given to the workers, by number, with the requests that they were given for. -/
  given : List (Nat × RequestId) := []
  /-- The outputs received, by the number of their job, with the requests that the table knew. -/
  received : List (Nat × Option RequestId) := []
  /-- How many things have happened. -/
  steps : Nat := 0

namespace Traffic

/-- What has happened first and then. -/
def and (t t' : Traffic) : Traffic where
  history := t.history ++ t'.history
  given := t.given ++ t'.given
  received := t.received ++ t'.received
  steps := t.steps + t'.steps

theorem and_assoc (t t' t'' : Traffic) : (t.and t').and t'' = t.and (t'.and t'') := by
  simp [and, Nat.add_assoc]

end Traffic

/-- Every output was received for the request that its job was given for. -/
structure Traffic.IsMatched (t : Traffic) : Prop where
  numbers : (t.given.map Prod.fst).Nodup
  once : (t.received.map Prod.fst).Nodup
  known : ∀ output ∈ t.received, ∃ id, output.2 = some id ∧ (output.1, id) ∈ t.given

namespace Pool

/-- The pool when a worker has been waited for, if there was no output. -/
def supplied (p : Pool) : Pool :=
  if p.outputs.isEmpty then p.work else p

theorem outstanding_supplied (p : Pool) : p.supplied.outstanding = p.outstanding := by
  unfold supplied work
  split <;> [split; skip] <;> rfl

/-- The output that the owner receives next. -/
def next? (p : Pool) : Option (Nat × Except Error JobOutput) :=
  p.supplied.outputs.head?

/-- The number of the output that is received next, with the request that the table knows. -/
def receipt (p : Pool) : List (Nat × Option RequestId) :=
  p.next?.toList.map fun output => (output.1, p.outstanding.lookup output.1)

/-- The request that a handler with control has not given to the workers yet. -/
def unsubmitted (p : Pool) (s : Storage) : List RequestId :=
  match s.stack with
  | .client (.handler _ id) :: _ => if p.holds id then [] else [id]
  | _ => []

end Pool

namespace Node

/-- What the next step of a storage or its device brings about. -/
def incidents (n : Node) (disk : Disk) : History :=
  if n.storage.isAtRest then
    match n.storage.stack with
    | .client (.handler h id) :: _ =>
      match n.storage.find? id with
      | some r =>
        match if n.device.holds id then none else (n.device.serve disk h r).verdict with
        | some verdict => n.storage.incidentsOf (.complete id verdict)
        | none => n.storage.incidentsOf .leave
      | none => n.storage.incidentsOf .leave
    | _ => n.storage.incidentsOf .collect
  else n.storage.incidents

/-- The job that a handler with control gives to the workers, with its request. -/
def handed (n : Node) : List (Nat × RequestId) :=
  match n.device, n.storage.stack with
  | .pool p, .client (.handler h id) :: _ =>
    if (n.storage.find? id).isSome ∧ ¬ p.holds id ∧ (Pool.jobKind? h).isSome then [(p.nextJob, id)]
    else []
  | _, _ => []

/-- What the reception of the next output brings about. -/
def reception (n : Node) : History :=
  match n.device with
  | .pool p =>
    match p.receive? with
    | some (some id, verdict, _) => n.storage.incidentsOf (.complete id verdict)
    | _ => []
  | _ => []

/-- It is the clients' turn. -/
def isTurn (n : Node) : Bool :=
  (n.step {}).isNone

/-- What happens next to a storage over a pool.  Clients keep to a rule. -/
inductive Goes (rule : Rule) (h : History) (n : Node) : Traffic → Node → Prop
  /-- The storage or its device goes on. -/
  | step {disk disk' : Disk} {n' : Node} (next : n.step disk = some (n', disk')) :
      Goes rule h n { history := n.incidents disk, given := n.handed, steps := 1 } n'
  /-- A worker carries out the oldest job. -/
  | work {p : Pool} (pool : n.device = .pool p) (job : p.jobs ≠ []) :
      Goes rule h n { steps := 1 } { n with device := .pool p.work }
  /-- A client makes a move. -/
  | move (a : Action) (turn : n.isTurn) (allowed : rule h n.storage a) :
      Goes rule h n { history := n.storage.incidentsOf a, steps := 1 } (n.act a)
  /-- The owner of the pool receives an output, and waits for a worker if there is none. -/
  | receive {p : Pool} {n' : Node} (turn : n.isTurn) (pool : n.device = .pool p)
      (next : n.receive? = some n') :
      Goes rule h n { history := n.reception, received := p.receipt, steps := 1 } n'

end Node

/-- The runs of a storage over a pool under a rule, with what has happened. -/
inductive PoolRun (rule : Rule) (start : Node) : Traffic → Node → Prop
  | start : PoolRun rule start {} start
  | next {t i : Traffic} {n n' : Node} (run : PoolRun rule start t n)
      (goes : n.Goes rule t.history i n') : PoolRun rule start (t.and i) n'

/-- A storage over a pool, with what has happened, goes on by itself, at most so many steps. -/
def Node.goOn (x : Traffic × Node) : Nat → Traffic × Node
  | 0 => x
  | k + 1 =>
    match x.2.step {} with
    | none => x
    | some (n, _) =>
      Node.goOn (x.1.and { history := x.2.incidents {}, given := x.2.handed, steps := 1 }, n) k

theorem PoolRun.goOn {rule : Rule} {start : Node} {t : Traffic} {n : Node}
    (run : PoolRun rule start t n) (k : Nat) :
    PoolRun rule start (Node.goOn (t, n) k).1 (Node.goOn (t, n) k).2 := by
  induction k generalizing t n with
  | zero => exact run
  | succ k ih =>
    unfold Node.goOn
    split
    case h_1 => exact run
    case h_2 next => exact ih (run.next (.step next))

namespace Rule

/-- Calls are made as the storage expects them, and what is inside the device is left to it. -/
def entrusting : Rule :=
  fun h s a => steadfast h s a ∧ ∀ id r, s.find? id = some r → r.phase = .running →
    (∀ v, a ≠ .complete id v) ∧ a ≠ .abandon id

/-- Client code gives control back and takes answers. -/
def quiet : Rule :=
  fun _ s a => (a = .leave ∨ a = .collect) ∧ s.act a ≠ s

end Rule

/-- The channels, the table of a pool and its storage agree, after this traffic. -/
structure Pool.Matches (p : Pool) (t : Traffic) (s : Storage) : Prop where
  /-- The table holds the jobs whose outputs have not been received, oldest first. -/
  table : p.outstanding.map Prod.fst = p.outputs.map Prod.fst ++ p.jobs.map Job.number
  /-- Outputs are received in the order of the jobs, each for the request that gave its job. -/
  traffic : t.given.map (fun g => (g.1, some g.2)) =
    t.received ++ p.outstanding.map fun g => (g.1, some g.2)
  numbers : (t.given.map Prod.fst).Nodup
  fresh : ∀ g ∈ t.given, g.1 < p.nextJob
  /-- The requests inside the device are those in the table, and one that is about to be. -/
  entrusted : s.entrusted = p.outstanding.map Prod.snd ++ p.unsubmitted s
  below : s.stack.tail.all (!·.isHandler)
  served : ∀ h id rest, s.stack = .client (.handler h id) :: rest → h ≠ .openReadOnly

namespace Pool.Matches

variable {p : Pool} {t : Traffic} {s : Storage}

/-- Every output was received for the request that its job was given for. -/
theorem isMatched (m : p.Matches t s) : t.IsMatched := by
  have numbers := congrArg (List.map Prod.fst) m.traffic
  simp only [List.map_append, List.map_map, Function.comp_def] at numbers
  refine ⟨m.numbers, ?_, fun output member => ?_⟩
  · have nodup := m.numbers
    rw [numbers] at nodup
    exact nodup.of_append_left
  · have known : output ∈ t.given.map fun g => (g.1, some g.2) := by
      rw [m.traffic]
      exact List.mem_append_left _ member
    obtain ⟨g, member', rfl⟩ := List.mem_map.mp known
    exact ⟨g.2, rfl, member'⟩

/-- Every job of the table was given for the request that the table knows. -/
theorem outstanding_subset (m : p.Matches t s) : p.outstanding ⊆ t.given := by
  intro g member
  have known : (g.1, some g.2) ∈ t.given.map fun g => (g.1, some g.2) := by
    rw [m.traffic]
    exact List.mem_append_right _ (List.mem_map_of_mem member)
  obtain ⟨g', member', same⟩ := List.mem_map.mp known
  obtain ⟨number, id⟩ := Prod.mk.inj same
  obtain rfl : g' = g := Prod.ext number (Option.some.inj id)
  exact member'

theorem nodup_outstanding (m : p.Matches t s) : (p.outstanding.map Prod.fst).Nodup := by
  have numbers := congrArg (List.map Prod.fst) m.traffic
  simp only [List.map_append, List.map_map, Function.comp_def] at numbers
  have nodup := m.numbers
  rw [numbers] at nodup
  exact nodup.of_append_right

theorem holds_iff {id : RequestId} : p.holds id ↔ id ∈ p.outstanding.map Prod.snd := by
  simp [holds]

end Pool.Matches

section Step

variable {p : Pool} {t : Traffic} {s : Storage} {n' : Node} {disk disk' : Disk}

theorem Pool.exists_jobKind {h : Handler} (plain : h ≠ .openReadOnly) :
    ∃ kind, Pool.jobKind? h = some kind := by
  cases h with
  | openReadOnly => exact absurd rfl plain
  | _ => exact ⟨_, rfl⟩

/-- A handler with control has been called with a request inside the device. -/
theorem Pool.Matches.find? (m : p.Matches t s) (custody : s.Custody) {h : Handler}
    {id : RequestId} {rest : List Task} (top : s.stack = .client (.handler h id) :: rest) :
    ∃ r, s.find? id = some r ∧ r.phase = .running := by
  refine custody.exists_of_entrusted ?_
  rw [m.entrusted, Pool.unsubmitted, top]
  by_cases held : p.holds id
  · exact List.mem_append_left _ (holds_iff.mp held)
  · simp [held]

/-- The next step of a storage over a pool: the storage goes on, or a handler gives the workers a
job, or it gives control back. -/
theorem Node.step_cases (m : p.Matches t s) (custody : s.Custody)
    (next : Node.step ⟨s, .pool p⟩ disk = some (n', disk')) :
    (∃ s', s.step = some s' ∧ n' = ⟨s', .pool p⟩ ∧
      Node.incidents ⟨s, .pool p⟩ disk = s.incidents ∧ Node.handed ⟨s, .pool p⟩ = []) ∨
    ∃ h id rest, s.stack = .client (.handler h id) :: rest ∧
      Node.incidents ⟨s, .pool p⟩ disk = [] ∧
      (p.holds id ∧ n' = ⟨s.act .leave, .pool p⟩ ∧ Node.handed ⟨s, .pool p⟩ = [] ∨
       p.holds id = false ∧ ∃ r kind, r.id = id ∧ n' = ⟨s, .pool (p.submit kind r)⟩ ∧
        Node.handed ⟨s, .pool p⟩ = [(p.nextJob, id)]) := by
  have left : s.incidentsOf .leave = [] := rfl
  unfold Node.step at next
  cases goes : s.step with
  | some s' =>
    have moves : s.isAtRest = false := by simp [Storage.isAtRest, goes]
    simp only [goes, Option.some.injEq, Prod.mk.injEq] at next
    obtain ⟨rfl, -⟩ := next
    refine .inl ⟨s', rfl, rfl, by simp [Node.incidents, moves], ?_⟩
    unfold Node.handed
    split
    case h_1 top =>
      have top : s.stack = _ := top
      simp [Storage.step, top] at goes
    case h_2 => rfl
  | none =>
    have rests : s.isAtRest = true := by simp [Storage.isAtRest, goes]
    simp only [goes, Device.isClient, Bool.false_eq_true, if_false] at next
    split at next
    case h_1 h id rest top =>
      obtain ⟨r, found, running⟩ := m.find? custody top
      obtain ⟨kind, job⟩ := Pool.exists_jobKind (m.served h id rest top)
      have same : r.id = id := by simpa using List.find?_some found
      refine .inr ⟨h, id, rest, top, ?_, ?_⟩
      · simp only [Node.incidents, rests, top, found, Device.serve, job, left, if_true, ite_self]
      · cases held : p.holds id with
        | true =>
          refine .inl ⟨rfl, ?_, by simp [Node.handed, top, held]⟩
          simp only [Node.handle, found, Device.holds, held, if_true, Option.some.injEq] at next
          exact (Prod.mk.inj next).1.symm
        | false =>
          refine .inr ⟨rfl, r, kind, same, ?_, by simp [Node.handed, top, held, found, job]⟩
          simp only [Node.handle, found, Device.holds, held, Device.serve, job,
            Bool.false_eq_true, if_false, Option.some.injEq] at next
          exact (Prod.mk.inj next).1.symm
    case h_2 h id rest top =>
      have below := m.below
      have top : s.stack = .answer .unit :: .client (.handler h id) :: rest := top
      simp [top, Task.isHandler] at below
    case h_3 => simp at next

end Step

/-- A device that does not open for reading only is not asked to. -/
theorem Storage.destination_ne_openReadOnly {s : Storage}
    (plain : s.capabilities.openReadOnly = false) (kind : Kind) (needsOpen : Bool) :
    s.destination kind ≠ (.handler .openReadOnly, needsOpen) := by
  unfold destination route
  cases kind <;> simp [prefersReadOnly, plain] <;> (repeat' split) <;> simp [Kind.dataHandler]

namespace Pool.Matches

variable {p : Pool} {t t' : Traffic} {s s' : Storage} {i : History}

theorem unsubmitted_eq_nil (clean : s.stack.all (!·.isHandler)) : p.unsubmitted s = [] := by
  unfold unsubmitted
  split
  case h_1 top => simp [top, Task.isHandler] at clean
  case h_2 => rfl

theorem all_tail (clean : s.stack.all (!·.isHandler)) : s.stack.tail.all (!·.isHandler) := by
  rw [List.all_eq_true] at *
  exact fun task member => clean task (List.mem_of_mem_tail member)

theorem not_handler (clean : s.stack.all (!·.isHandler)) (h : Handler) (id : RequestId)
    (rest : List Task) (top : s.stack = .client (.handler h id) :: rest) : h ≠ .openReadOnly := by
  simp [top, Task.isHandler] at clean

/-- Only the traffic between the owner and the workers counts. -/
theorem noted (m : p.Matches t s) (given : t'.given = t.given)
    (received : t'.received = t.received) : p.Matches t' s :=
  { m with
    traffic := by rw [given, received, m.traffic]
    numbers := given ▸ m.numbers
    fresh := given ▸ m.fresh }

/-- Where no handler has control, what is inside the device is what the table holds. -/
theorem congr (m : p.Matches t s) (entrusted : s'.entrusted = p.outstanding.map Prod.snd)
    (clean : s'.stack.all (!·.isHandler)) : p.Matches t s' :=
  { m with
    entrusted := by rw [entrusted, unsubmitted_eq_nil clean, List.append_nil]
    below := all_tail clean
    served := not_handler clean }

/-- The storage goes on. -/
theorem turn (m : p.Matches t s) (custody : s.Custody) (plain : s.capabilities.openReadOnly = false)
    (turn : Turn s i s') (top : p.unsubmitted s = []) : p.Matches t s' := by
  have entrusted := m.entrusted
  rw [top, List.append_nil] at entrusted
  obtain ⟨r, q, rest, h, needsOpen, ran, stack, outside, id, running, serves, -⟩ |
    ⟨outside, clean⟩ := turn.handlers m.below 0
  · have new : p.holds r.id = false := by
      rw [Bool.eq_false_iff, ne_eq, holds_iff, ← entrusted]
      intro held
      obtain ⟨d, found, -⟩ := custody.exists_of_entrusted held
      have same : d.id = r.id := by simpa using List.find?_some found
      exact custody.outside_apart (List.mem_of_find?_eq_some found) (t := .run r) (by simp [ran])
        (by simp) same
    exact { m with
      entrusted := by
        have unsubmitted : p.unsubmitted s' = [r.id] := by simp [unsubmitted, stack, new]
        rw [unsubmitted, ← entrusted, Storage.entrusted, outside]
        simp [Storage.entrusted, running, id]
      below := by simpa [ran, stack] using m.below
      served := fun h' id' rest' top' only => by
        rw [stack] at top'
        simp only [List.cons.injEq, Task.client.injEq, Invocation.handler.injEq] at top'
        obtain ⟨⟨rfl, -⟩, -⟩ := top'
        exact s.destination_ne_openReadOnly plain r.kind needsOpen (only ▸ serves.routed) }
  · refine m.congr ?_ clean
    rw [← entrusted, Storage.entrusted, outside]
    rfl

/-- A handler gives the workers the job of its request. -/
theorem submit (m : p.Matches t s) {h : Handler} {id : RequestId} {rest : List Task}
    (top : s.stack = .client (.handler h id) :: rest) (new : p.holds id = false)
    (kind : JobKind) {r : Request} (same : r.id = id) :
    (p.submit kind r).Matches { t with given := t.given ++ [(p.nextJob, id)] } s where
  table := by simp [Pool.submit, m.table]
  traffic := by simp [Pool.submit, m.traffic, same]
  numbers := by
    rw [List.map_append, List.nodup_append]
    refine ⟨m.numbers, by simp, fun a old b new => ?_⟩
    obtain ⟨g, member, rfl⟩ := List.mem_map.mp old
    obtain rfl : b = p.nextJob := by simpa using new
    exact Nat.ne_of_lt (m.fresh g member)
  fresh g member := by
    change g.1 < p.nextJob + 1
    obtain old | rfl := by simpa using member
    · exact Nat.lt_succ_of_lt (m.fresh g old)
    · exact Nat.lt_succ_self _
  entrusted := by
    have entrusted := m.entrusted
    simp only [unsubmitted, top, new, Bool.false_eq_true, if_false] at entrusted
    simp [entrusted, unsubmitted, top, Pool.submit, same, holds]
  below := m.below
  served := m.served

/-- A worker carries out the oldest job. -/
theorem work (m : p.Matches t s) : p.work.Matches t s := by
  have table := m.table
  unfold Pool.work
  split
  case h_1 => exact m
  case h_2 job rest jobs => exact { m with table := by simpa [jobs] using table }

/-- The handler whose job has been given returns. -/
theorem leave (m : p.Matches t s) {h : Handler} {id : RequestId} {rest : List Task}
    (top : s.stack = .client (.handler h id) :: rest) (held : p.holds id) :
    p.Matches t (s.act .leave) := by
  have entrusted := m.entrusted
  simp only [unsubmitted, top, held, if_true, List.append_nil] at entrusted
  rw [Storage.act_leave top]
  refine m.congr entrusted ?_
  simpa [top] using m.below

/-- A worker is waited for. -/
theorem supplied (m : p.Matches t s) : p.supplied.Matches t s := by
  unfold Pool.supplied
  split
  · exact m.work
  · exact m

/-- The output that is received next is that of the oldest job, and the table knows the request
that the job was given for. -/
theorem known (m : p.Matches t s) {number : Nat} {output : Except Error JobOutput}
    (next : p.next? = some (number, output)) :
    ∃ id rest, p.outstanding = (number, id) :: rest ∧ (number, id) ∈ t.given ∧
      p.receipt = [(number, some id)] ∧
      p.receive? = some (some id, verdict output, { p.supplied with
        outputs := p.supplied.outputs.tail, outstanding := rest }) := by
  obtain ⟨outputs, head⟩ := List.head?_eq_some_iff.mp next
  have table := m.supplied.table
  rw [head, p.outstanding_supplied, List.map_cons, List.cons_append] at table
  obtain ⟨⟨number', id⟩, rest, split, rfl, -⟩ := List.map_eq_cons_iff.mp table
  have distinct := m.nodup_outstanding
  rw [split, List.map_cons, List.nodup_cons] at distinct
  have others : p.outstanding.filter (·.1 ≠ number') = rest := by
    rw [split, List.filter_cons_of_neg (by simp), List.filter_eq_self]
    intro g member
    have other : g.1 ≠ number' := fun same =>
      distinct.1 (List.mem_map.mpr ⟨g, member, same⟩)
    simpa using other
  have lookup : p.outstanding.lookup number' = some id := by simp [split]
  refine ⟨id, rest, split, m.outstanding_subset (by simp [split]), ?_, ?_⟩
  · simp [Pool.receipt, next, lookup]
  · have supplied : (if p.outputs.isEmpty then p.work else p) = p.supplied := rfl
    simp only [receive?, supplied, head, p.outstanding_supplied, lookup, others, List.tail_cons]

/-- The request whose output has been received is finished. -/
theorem receive (m : p.Matches t s) (custody : s.Custody) (alive : s.isAlive)
    (clean : s.stack.all (!·.isHandler)) {number : Nat} {id : RequestId}
    {rest : List (Nat × RequestId)} (split : p.outstanding = (number, id) :: rest)
    {output : Except Error JobOutput} (next : p.next? = some (number, output)) :
    ({ p.supplied with outputs := p.supplied.outputs.tail, outstanding := rest } : Pool).Matches
      { t with received := t.received ++ [(number, some id)] }
      (s.act (.complete id (verdict output))) := by
  have entrusted := m.entrusted
  rw [unsubmitted_eq_nil clean, List.append_nil, split, List.map_cons] at entrusted
  have held : id ∈ s.entrusted := by simp [entrusted]
  obtain ⟨left, -, -, -, clean'⟩ :=
    Storage.act_complete (v := verdict output) custody alive held 0
  have distinct := custody.nodup_entrusted
  rw [entrusted, List.nodup_cons] at distinct
  have others : s.entrusted.filter (· ≠ id) = rest.map Prod.snd := by
    rw [entrusted, List.filter_cons_of_neg (by simp), List.filter_eq_self]
    intro q member
    have other : q ≠ id := fun same => distinct.1 (same ▸ member)
    simpa using other
  obtain ⟨outputs, head⟩ := List.head?_eq_some_iff.mp next
  have table := m.supplied.table
  have traffic := m.traffic
  have clean' := clean' clean
  generalize s.act (.complete id (verdict output)) = s' at left clean'
  rw [head, p.outstanding_supplied, split, List.map_cons, List.map_cons, List.cons_append,
    List.cons.injEq] at table
  rw [split, List.map_cons] at traffic
  exact {
    table := by simpa [head] using table.2
    traffic := by simp [traffic]
    numbers := m.numbers
    fresh := m.supplied.fresh
    entrusted := by rw [left, others, unsubmitted_eq_nil clean', List.append_nil]
    below := all_tail clean'
    served := not_handler clean' }

end Pool.Matches

/-- What can happen to a storage over a pool, rule by rule, where the table and the storage
agree. -/
inductive Happening (rule : Rule) (h : History) (s : Storage) (p : Pool) :
    Traffic → Storage → Pool → Prop
  /-- The storage goes on. -/
  | step {s' : Storage} (next : s.step = some s') (top : p.unsubmitted s = []) :
      Happening rule h s p { history := s.incidents, steps := 1 } s' p
  /-- A handler gives the workers the job of its request. -/
  | submit {handler : Handler} {id : RequestId} {rest : List Task}
      (top : s.stack = .client (.handler handler id) :: rest) (new : p.holds id = false)
      (kind : JobKind) {r : Request} (same : r.id = id) :
      Happening rule h s p { given := [(p.nextJob, id)], steps := 1 } s (p.submit kind r)
  /-- The handler whose job has been given returns. -/
  | leave {handler : Handler} {id : RequestId} {rest : List Task}
      (top : s.stack = .client (.handler handler id) :: rest) (held : p.holds id) :
      Happening rule h s p { steps := 1 } (s.act .leave) p
  /-- A worker carries out the oldest job. -/
  | work (job : p.jobs ≠ []) : Happening rule h s p { steps := 1 } s p.work
  /-- A client makes a move. -/
  | move (a : Action) (turn : s.isAtRest) (clean : s.stack.all (!·.isHandler))
      (allowed : rule h s a) :
      Happening rule h s p { history := s.incidentsOf a, steps := 1 } (s.act a) p
  /-- The owner receives the output of the oldest job. -/
  | receive {number : Nat} {id : RequestId} {rest : List (Nat × RequestId)}
      {output : Except Error JobOutput} (turn : s.isAtRest) (clean : s.stack.all (!·.isHandler))
      (split : p.outstanding = (number, id) :: rest)
      (next : p.next? = some (number, output)) :
      Happening rule h s p
        { history := s.incidentsOf (.complete id (Pool.verdict output))
          received := [(number, some id)]
          steps := 1 }
        (s.act (.complete id (Pool.verdict output)))
        { p.supplied with outputs := p.supplied.outputs.tail, outstanding := rest }

section Happening

variable {rule : Rule} {h : History} {s s' : Storage} {p p' : Pool} {t i : Traffic} {n' : Node}

/-- Where it is the clients' turn, no handler has control. -/
theorem Node.isAtRest_of_isTurn (m : p.Matches t s) (turn : Node.isTurn ⟨s, .pool p⟩) :
    s.isAtRest ∧ s.stack.all (!·.isHandler) := by
  unfold Node.isTurn Node.step at turn
  cases goes : s.step with
  | some s' => simp [goes] at turn
  | none =>
    refine ⟨by simp [Storage.isAtRest, goes], ?_⟩
    have below := m.below
    cases stack : s.stack with
    | nil => rfl
    | cons task rest =>
      rw [stack, List.tail_cons] at below
      rw [List.all_cons, below, Bool.and_true]
      cases task with
      | client code =>
        cases code with
        | handler h id => simp [goes, stack, Device.isClient] at turn
        | _ => rfl
      | _ => rfl

theorem unsubmitted_of_step (next : s.step = some s') : p.unsubmitted s = [] := by
  unfold Pool.unsubmitted
  split
  case h_1 top => simp [Storage.step, top] at next
  case h_2 => rfl

/-- As long as the table is not empty, there is an output to be received or waited for. -/
theorem Pool.Matches.exists_next (m : p.Matches t s) (waiting : p.outstanding ≠ []) :
    ∃ number output, p.next? = some (number, output) := by
  have table := m.table
  unfold Pool.next? Pool.supplied
  cases outputs : p.outputs with
  | cons output rest => exact ⟨output.1, output.2, by simp [outputs]⟩
  | nil =>
    cases jobs : p.jobs with
    | nil => simp [outputs, jobs, waiting] at table
    | cons job rest => exact ⟨job.number, _, by simp [Pool.work, outputs, jobs]; rfl⟩

/-- The owner receives the output of the oldest job, and finishes the request that the job was given
for. -/
theorem Pool.Matches.receives (m : p.Matches t s) (waiting : p.outstanding ≠ []) :
    ∃ number id rest output, p.outstanding = (number, id) :: rest ∧ (number, id) ∈ t.given ∧
      p.next? = some (number, output) ∧ p.receipt = [(number, some id)] ∧
      Node.reception ⟨s, .pool p⟩ = s.incidentsOf (.complete id (verdict output)) ∧
      Node.receive? ⟨s, .pool p⟩ = some ⟨s.act (.complete id (verdict output)), .pool
        { p.supplied with outputs := p.supplied.outputs.tail, outstanding := rest }⟩ := by
  obtain ⟨number, output, next⟩ := m.exists_next waiting
  obtain ⟨id, rest, split, given, receipt, received⟩ := m.known next
  have some : p.outstanding.isEmpty = false := by simp [waiting]
  refine ⟨number, id, rest, output, split, given, next, receipt, ?_, ?_⟩
  · simp only [Node.reception, received]
  · simp only [Node.receive?, some, received, Bool.false_eq_true, if_false]
    rfl

/-- Nothing else happens. -/
theorem happening_of_goes (m : p.Matches t s) (custody : s.Custody)
    (goes : Node.Goes rule h ⟨s, .pool p⟩ i n') :
    ∃ s' p', n' = ⟨s', .pool p'⟩ ∧ Happening rule h s p i s' p' := by
  cases goes with
  | step next =>
    obtain ⟨s', stepped, rfl, incidents, handed⟩ | ⟨h, id, rest, top, incidents,
      ⟨held, rfl, handed⟩ | ⟨new, r, kind, same, rfl, handed⟩⟩ := Node.step_cases m custody next
    · rw [incidents, handed]
      exact ⟨_, _, rfl, .step stepped (unsubmitted_of_step stepped)⟩
    · rw [incidents, handed]
      exact ⟨_, _, rfl, .leave top held⟩
    · rw [incidents, handed]
      exact ⟨_, _, rfl, .submit top new kind same⟩
  | work pool job =>
    obtain rfl := Device.pool.inj pool
    exact ⟨_, _, rfl, .work job⟩
  | move a turn allowed =>
    obtain ⟨rests, clean⟩ := Node.isAtRest_of_isTurn m turn
    exact ⟨_, _, rfl, .move a rests clean allowed⟩
  | receive turn pool next =>
    obtain ⟨rests, clean⟩ := Node.isAtRest_of_isTurn m turn
    obtain rfl := Device.pool.inj pool
    have waiting : p.outstanding ≠ [] := fun empty => by simp [Node.receive?, empty] at next
    obtain ⟨number, id, rest, output, split, -, first, receipt, reception, received⟩ :=
      m.receives waiting
    obtain rfl := Option.some.inj (next.symm.trans received)
    rw [reception, receipt]
    exact ⟨_, _, rfl, .receive rests clean split first⟩

variable {limits : Limits} {allocator : Allocator}

/-- To the storage, what happens is a part of a run like any other. -/
theorem Happening.run (goes : Happening rule h s p i s' p')
    (run : Run Rule.steadfast (Storage.create .readWrite limits allocator) t.history s)
    (entrusts : ∀ a, rule h s a → Rule.entrusting t.history s a) :
    Run Rule.steadfast (Storage.create .readWrite limits allocator) (t.and i).history s' := by
  have alive : s.isAlive := by simp [Storage.isAlive, run.owned rfl]
  have own (a : Action) (push : ∀ id, a ≠ .push id) (shift : a ≠ .shift) (disown : a ≠ .disown)
      (call : ∀ op receiver observer, a ≠ .call op receiver observer) :
      Rule.steadfast t.history s a :=
    ⟨⟨alive, fun id r pushed => absurd pushed (push id)⟩, shift, disown,
      fun op receiver observer called => absurd called (call op receiver observer)⟩
  have still : Run Rule.steadfast (Storage.create .readWrite limits allocator)
      (t.history ++ []) s := by rwa [List.append_nil]
  cases goes with
  | step next => exact run.step next
  | submit | work => exact still
  | leave top held =>
    have rests : s.isAtRest := by simp [Storage.isAtRest, Storage.step, top]
    exact run.move .leave rests (own _ (by simp) (by simp) (by simp) (by simp))
  | move a turn clean allowed => exact run.move a turn (entrusts a allowed).1
  | receive turn =>
    exact run.move (.complete _ _) turn (own _ (by simp) (by simp) (by simp) (by simp))

/-- Whatever happens, the table and the storage still agree. -/
theorem Happening.matches (goes : Happening rule h s p i s' p') (m : p.Matches t s)
    (run : Run Rule.steadfast (Storage.create .readWrite limits allocator) t.history s)
    (entrusts : ∀ a, rule h s a → Rule.entrusting t.history s a) :
    p'.Matches (t.and i) s' := by
  have custody := run.custody (Storage.custody_create ..)
  have alive : s.isAlive := by simp [Storage.isAlive, run.owned rfl]
  have plain : s.capabilities.openReadOnly = false := by rw [run.capabilities_eq]; rfl
  cases goes with
  | step next top =>
    exact (m.turn custody plain (turn_of_step next) top).noted (List.append_nil _)
      (List.append_nil _)
  | submit top new kind same => exact (m.submit top new kind same).noted rfl (List.append_nil _)
  | leave top held => exact (m.leave top held).noted (List.append_nil _) (List.append_nil _)
  | work => exact m.work.noted (List.append_nil _) (List.append_nil _)
  | move a turn clean allowed =>
    obtain ⟨steadfast, apart⟩ := entrusts a allowed
    obtain ⟨entrusted, clean'⟩ := (move_of_act s a).handlers custody alive
      (fun id r found running => ⟨fun pushed => steadfast.1.2 id r pushed found running,
        apart id r found running⟩) clean
    have same := m.entrusted
    rw [Pool.Matches.unsubmitted_eq_nil clean, List.append_nil] at same
    exact (m.congr (entrusted.trans same) clean').noted (List.append_nil _) (List.append_nil _)
  | receive turn clean split next =>
    exact (m.receive custody alive clean split next).noted (List.append_nil _) rfl

/-- A pool that has just been started agrees with a new storage. -/
theorem Pool.matches_start (workers capacity : Nat) :
    (Pool.start workers capacity).Matches {} (Storage.create .readWrite limits allocator) where
  table := rfl
  traffic := rfl
  numbers := .nil
  fresh := nofun
  entrusted := rfl
  below := rfl
  served := nofun

end Happening

/-- What a run of a new storage over a pool has come to. -/
structure Reached (limits : Limits) (allocator : Allocator) (t : Traffic) (n : Node) (p : Pool) :
    Prop where
  pool : n.device = .pool p
  agrees : p.Matches t n.storage
  run : Run Rule.steadfast (Storage.create .readWrite limits allocator) t.history n.storage

section Reached

variable {rule : Rule} {limits : Limits} {allocator : Allocator} {t i : Traffic} {n n' : Node}
  {p : Pool} {h : History}

theorem Reached.next (reached : Reached limits allocator t n p) (goes : n.Goes rule h i n')
    (entrusts : ∀ a, rule h n.storage a → Rule.entrusting t.history n.storage a) :
    ∃ p', Happening rule h n.storage p i n'.storage p' ∧
      Reached limits allocator (t.and i) n' p' := by
  obtain ⟨s, device⟩ := n
  obtain ⟨pool, agrees, run⟩ := reached
  obtain rfl : device = .pool p := pool
  have custody := run.custody (Storage.custody_create ..)
  obtain ⟨s', p', rfl, happening⟩ := happening_of_goes agrees custody goes
  exact ⟨p', happening, rfl, happening.matches agrees run entrusts, happening.run run entrusts⟩

/-- Along every run the table and the storage agree. -/
theorem PoolRun.reached {workers capacity : Nat} (run : PoolRun Rule.entrusting
      (.create (.pool (.start workers capacity)) .readWrite limits allocator) t n) :
    ∃ p, Reached limits allocator t n p := by
  induction run with
  | start => exact ⟨_, rfl, Pool.matches_start workers capacity, .start⟩
  | next _ goes ih =>
    obtain ⟨p, reached⟩ := ih
    obtain ⟨p', -, reached⟩ := reached.next goes fun _ allowed => allowed
    exact ⟨p', reached⟩

end Reached

end StorageEngine
