import StorageEngine.Proofs.ExactlyOnce
import StorageEngine.Proofs.PoolRun

/-!
# Waiting for a pool

The owner of a pool waits until no job is under way.  Meanwhile the storage and its device go on,
workers carry out jobs, and client code gives control back and may wait itself, but orders nothing.
Whoever does something takes some of what is left to be done (`Happening.effort_lt`), so waiting
comes to an end whatever the order; every output that is received takes one from what can still
reach the device, so there are no more of them than requests that were inside it or waited.
-/

namespace StorageEngine

/-- What is left to be done where nothing is ordered. -/
def Pool.effort (listeners : Nat) (p : Pool) (s : Storage) : Nat :=
  s.effort listeners + p.jobs.length + 2 * (p.unsubmitted s).length

section Quiet

variable {h : History} {s s' : Storage} {p p' : Pool} {t i : Traffic} {listeners : Nat}

theorem Pool.length_jobs_supplied (p : Pool) : p.supplied.jobs.length ≤ p.jobs.length := by
  unfold supplied work
  split
  · split <;> simp_all
  · exact Nat.le_refl _

theorem Pool.unsubmitted_work (p : Pool) (s : Storage) :
    p.work.unsubmitted s = p.unsubmitted s := by
  have same (id : RequestId) : p.work.holds id = p.holds id := by
    unfold work
    split <;> rfl
  simp only [unsubmitted, same]

/-- Whoever does something takes some of what is left to be done. -/
theorem Happening.effort_lt (goes : Happening Rule.quiet h s p i s' p') (m : p.Matches t s)
    (custody : s.Custody) (owned : s.owned = true) (few : s.emitter.size ≤ listeners) :
    p'.effort listeners s' + i.steps ≤ p.effort listeners s ∧ s'.emitter.size ≤ listeners ∧
      s'.demand + i.received.length ≤ s.demand := by
  have alive : s.isAlive := by simp [Storage.isAlive, owned]
  cases goes with
  | step next top =>
    have turn := turn_of_step next
    obtain ⟨less, few⟩ := Storage.effort_lt_of_step next owned few
    refine ⟨?_, few, turn.demand_le⟩
    obtain ⟨r, q, rest, h, n, -, stack, -, -, -, -, exact⟩ | ⟨-, clean⟩ :=
      turn.handlers m.below listeners
    · have one : (p.unsubmitted s').length ≤ 1 := by
        unfold Pool.unsubmitted
        split <;> [split; skip] <;> simp
      simp only [Pool.effort, top, List.length_nil]
      omega
    · simp only [Pool.effort, top, Pool.Matches.unsubmitted_eq_nil clean, List.length_nil]
      omega
  | @submit _ id _ top new kind r same =>
    have held : (p.submit kind r).holds id = true := by simp [Pool.holds, Pool.submit, same]
    refine ⟨?_, few, Nat.le_refl _⟩
    have jobs : (p.submit kind r).jobs.length = p.jobs.length + 1 := by
      simp only [Pool.submit, List.length_append, List.length_cons, List.length_nil]
    simp only [Pool.effort, Pool.unsubmitted, top, new, held, jobs, Bool.false_eq_true, if_true,
      if_false, List.length_cons, List.length_nil]
    omega
  | leave top held =>
    have left := Storage.act_leave top
    have clean : (s.act .leave).stack.all (!·.isHandler) := by simpa [left, top] using m.below
    have changes : s.act .leave ≠ s := fun same => by
      simpa [left, top] using congrArg (·.stack.length) same
    obtain ⟨less, emitter, demand⟩ := Storage.effort_lt_of_act (.inl rfl) changes listeners
    refine ⟨?_, emitter ▸ few, demand⟩
    simp only [Pool.effort, Pool.Matches.unsubmitted_eq_nil clean, List.length_nil]
    omega
  | work job =>
    refine ⟨?_, few, Nat.le_refl _⟩
    simp only [Pool.effort, Pool.unsubmitted_work]
    cases jobs : p.jobs with
    | nil => exact absurd jobs job
    | cons first rest =>
      simp only [Pool.work, jobs, List.length_cons]
      omega
  | move a turn clean allowed =>
    obtain ⟨quiet, changes⟩ := allowed
    obtain ⟨t, rest, top, -, -, acted⟩ := Storage.act_quiet quiet changes
    have clean' : (s.act a).stack.all (!·.isHandler) := by
      rw [acted]
      simp_all
    obtain ⟨less, emitter, demand⟩ := Storage.effort_lt_of_act quiet changes listeners
    refine ⟨?_, emitter ▸ few, demand⟩
    simp only [Pool.effort, Pool.Matches.unsubmitted_eq_nil clean', List.length_nil]
    omega
  | @receive number id rest output turn clean split next =>
    have held : id ∈ s.entrusted := by
      rw [m.entrusted, split]
      simp
    obtain ⟨-, less, emitter, demand, clean'⟩ :=
      Storage.act_complete (v := Pool.verdict output) custody alive held listeners
    have jobs := p.length_jobs_supplied
    refine ⟨?_, emitter ▸ few, demand⟩
    simp only [Pool.effort, Pool.Matches.unsubmitted_eq_nil (clean' clean), List.length_nil]
    omega

end Quiet

section Wait

variable {limits : Limits} {allocator : Allocator} {t t' : Traffic} {n n' : Node} {p : Pool}

/-- A storage that is held goes on being used as its owner expects. -/
theorem Rule.entrusting_of_quiet {h h' : History} {s : Storage} {a : Action}
    (owned : s.owned = true) (quiet : Rule.quiet h s a) : Rule.entrusting h' s a := by
  have alive : s.isAlive := by simp [Storage.isAlive, owned]
  obtain ⟨rfl | rfl, -⟩ := quiet <;>
    exact ⟨⟨⟨alive, by simp⟩, by simp, by simp, by simp⟩, by simp⟩

/-- While the owner waits, less and less is left to be done. -/
theorem Reached.wait (reached : Reached limits allocator t n p) {listeners : Nat}
    (few : n.storage.emitter.size ≤ listeners) (quiet : PoolRun Rule.quiet n t' n') :
    ∃ p', Reached limits allocator (t.and t') n' p' ∧
      p'.effort listeners n'.storage + t'.steps ≤ p.effort listeners n.storage ∧
      n'.storage.emitter.size ≤ listeners ∧
      n'.storage.demand + t'.received.length ≤ n.storage.demand := by
  induction quiet with
  | start => exact ⟨p, by simpa [Traffic.and] using reached, by simp, few, by simp⟩
  | @next t' i n' n'' _ goes ih =>
    obtain ⟨p', reached', effort, few', demand⟩ := ih
    have run := reached'.run
    obtain ⟨p'', happening, reached''⟩ := reached'.next goes
      fun _ quiet => Rule.entrusting_of_quiet (run.owned rfl) quiet
    obtain ⟨effort', few'', demand'⟩ := happening.effort_lt reached'.agrees
      (run.custody (Storage.custody_create ..)) (run.owned rfl) few'
    refine ⟨p'', by rwa [← Traffic.and_assoc], ?_, few'', ?_⟩
    · change _ + (t'.steps + i.steps) ≤ _
      omega
    · change _ + (t'.received ++ i.received).length ≤ _
      rw [List.length_append]
      omega

/-- Whoever waits can go on until no call is going on and no job is under way. -/
theorem Reached.goes_on (reached : Reached limits allocator t n p)
    (busy : ¬(n.storage.isIdle ∧ p.outstanding = [])) (h : History) :
    ∃ i n', n.Goes Rule.quiet h i n' := by
  obtain ⟨s, device⟩ := n
  obtain ⟨pool, agrees, run⟩ := reached
  obtain rfl : device = .pool p := pool
  cases goes : Node.step ⟨s, .pool p⟩ {} with
  | some next => exact ⟨_, _, .step goes⟩
  | none =>
    have turn : Node.isTurn ⟨s, .pool p⟩ := by simp [Node.isTurn, goes]
    obtain ⟨rests, clean⟩ := Node.isAtRest_of_isTurn agrees turn
    cases stack : s.stack with
    | nil =>
      have idle : s.isIdle := by simp [Storage.isIdle, stack]
      have waiting : p.outstanding ≠ [] := fun empty => busy ⟨idle, empty⟩
      obtain ⟨number, id, rest, output, -, -, -, -, -, received⟩ := agrees.receives waiting
      exact ⟨_, _, .receive turn rfl received⟩
    | cons task rest =>
      have top := (run.nested (Storage.nested_create ..)).top
      cases task with
      | client code =>
        have left := Storage.act_leave stack
        refine ⟨_, _, .move .leave turn ⟨.inl rfl, fun same => ?_⟩⟩
        simpa [left, stack] using congrArg (·.stack.length) same
      | answer reply =>
        have taken : s.act .collect = { s with stack := rest } := by
          change s.collect = _
          simp only [Storage.collect, stack]
        refine ⟨_, _, .move .collect turn ⟨.inr rfl, fun same => ?_⟩⟩
        simpa [taken, stack] using congrArg (·.stack.length) same
      | awaitOpening | awaitClosing | awaitCall => simp [stack, Task.awaits, Task.isAwait] at top
      | _ => simp [Storage.isAtRest, Storage.step, stack] at rests

/-- Where no call is going on, the stack holds answers only. -/
theorem Storage.exists_answer {s : Storage} {t : Task} (idle : s.isIdle) (member : t ∈ s.stack) :
    ∃ reply, t = .answer reply := by
  have answer := List.all_eq_true.mp idle t member
  cases t with
  | answer reply => exact ⟨reply, rfl⟩
  | _ => simp [Task.isAnswer] at answer

/-- Where no call is going on, what is inside the device is what the table holds. -/
theorem Reached.entrusted (reached : Reached limits allocator t n p) (idle : n.storage.isIdle) :
    n.storage.entrusted = p.outstanding.map Prod.snd ∧
      p.outstanding.length = n.storage.pending := by
  have clean : n.storage.stack.all (!·.isHandler) := by
    refine List.all_eq_true.mpr fun task member => ?_
    obtain ⟨reply, rfl⟩ := Storage.exists_answer idle member
    rfl
  have entrusted := reached.agrees.entrusted
  rw [Pool.Matches.unsubmitted_eq_nil clean, List.append_nil] at entrusted
  have books := (reached.run.mono fun _ _ _ steadfast => steadfast.1).accounts_of_create
  have pending := books.pending_of_isIdle idle
  have length := congrArg List.length entrusted
  rw [Storage.entrusted, List.length_map, List.length_map] at length
  exact ⟨entrusted, length.symm.trans pending.symm⟩

/-- **A pool and its storage.**  The table of a pool holds the jobs whose outputs have not been
received, each once, and where no call is going on they are as many as the storage counts inside the
device.  Every output is received for the request that its job was given for, and finishes it; an
output of an unknown job never comes.  An owner who waits with no call going on, and whose callbacks
order nothing, does so for a bounded time, whoever takes turns in whatever order; receives at most
as many outputs as there are jobs under way and requests in the queue; and can go on until no job is
under way.  Then the storage is idle, the queue is empty, and every accepted call has heard it
all. -/
theorem PoolRun.waiting_ends {capacity : Nat} (run : PoolRun Rule.entrusting
      (.create (.pool (.start 1 capacity)) .readWrite limits allocator) t n) :
    ∃ p, n.device = .pool p ∧ t.IsMatched ∧
    p.outstanding.map Prod.fst = p.outputs.map Prod.fst ++ p.jobs.map Job.number ∧
    (p.outstanding.map Prod.fst).Nodup ∧
    (n.storage.isIdle → p.outstanding.length = n.storage.pending) ∧
    (∀ n', n.receive? = some n' → ∃ number id r output, p.next? = some (number, output) ∧
      p.receipt = [(number, some id)] ∧ (number, id) ∈ t.given ∧
      n.storage.find? id = some r ∧ r.phase = .running ∧
      n'.storage = n.storage.act (.complete id (Pool.verdict output))) ∧
    (n.storage.isIdle → ∃ bound, ∀ t' n', PoolRun Rule.quiet n t' n' →
      t'.steps ≤ bound ∧ t'.received.length ≤ p.outstanding.length + n.storage.queue.length ∧
      ∃ p', n'.device = .pool p' ∧
        (¬(n'.storage.isIdle ∧ p'.outstanding = []) →
          ∃ i n'', n'.Goes Rule.quiet t'.history i n'') ∧
        (n'.storage.isIdle → p'.outstanding = [] →
          n'.storage.pending = 0 ∧ n'.storage.queue = [] ∧
          ∀ op code observer, (.call op (some (.call code)) observer, .done (.ok ())) ∈
              (t.and t').history.exchange.ended →
            ∃ result, Client.IsTold ⟨code, observer⟩ result
              ((t.and t').history.heard ⟨code, observer⟩))) := by
  obtain ⟨p, reached⟩ := run.reached
  have agrees := reached.agrees
  refine ⟨p, reached.pool, agrees.isMatched, agrees.table, agrees.nodup_outstanding,
    fun idle => (reached.entrusted idle).2, fun n' received => ?_, fun idle => ?_⟩
  · obtain ⟨s, device⟩ := n
    obtain rfl : device = .pool p := reached.pool
    have waiting : p.outstanding ≠ [] := fun empty => by simp [Node.receive?, empty] at received
    obtain ⟨number, id, rest, output, split, given, next, receipt, -, received'⟩ :=
      agrees.receives waiting
    obtain rfl := Option.some.inj (received.symm.trans received')
    have held : id ∈ s.entrusted := by
      have entrusted : s.entrusted = _ := agrees.entrusted
      simp [entrusted, split]
    obtain ⟨r, found, running⟩ :=
      (reached.run.custody (Storage.custody_create ..)).exists_of_entrusted held
    exact ⟨number, id, r, output, next, receipt, given, found, running, rfl⟩
  · refine ⟨p.effort n.storage.emitter.size n.storage, fun t' n' quiet => ?_⟩
    obtain ⟨entrusted, -⟩ := reached.entrusted idle
    have demand : n.storage.demand = n.storage.queue.length + p.outstanding.length := by
      have none : (n.storage.stack.map Task.demand).sum = 0 := by
        refine List.sum_eq_zero_iff_forall_eq_nat.mpr (List.forall_mem_map.mpr ?_)
        intro task member
        obtain ⟨reply, rfl⟩ := Storage.exists_answer idle member
        rfl
      rw [Storage.demand, none, entrusted, List.length_map, Nat.zero_add]
    obtain ⟨p', reached', effort, -, fewer⟩ := reached.wait (Nat.le_refl _) quiet
    refine ⟨by omega, by omega, p', reached'.pool, fun busy => reached'.goes_on busy _,
      fun idle' empty => ?_⟩
    have pending : n'.storage.pending = 0 := by
      rw [← (reached'.entrusted idle').2, empty]
      rfl
    have orderly := reached'.run.mono fun _ _ _ steadfast => steadfast.1
    refine ⟨pending, ?_, fun op code observer ended => ?_⟩
    · by_contra waits
      have occupied := orderly.wakeful_of_create.pending_pos orderly.accounts_of_create idle' waits
      omega
    · obtain ⟨σ, ledger⟩ := reached'.run.ledger_of_create
      obtain ⟨e, refused, -⟩ | ⟨-, result, telling, told, -, -, all⟩ := ledger.told ended
      · exact absurd refused (by simp)
      · exact ⟨result, all (reached'.run.due_eq_zero idle' pending) ▸ told⟩

/-- A call may be made with a callback that no call had before. -/
theorem Rule.entrusting_call {h : History} {s : Storage} (op : Operation) {code : Callback}
    (alive : s.isAlive) (new : ∀ c ∈ h.clients, c.code ≠ code) :
    Rule.entrusting h s (.call op (some (.call code)) none) := by
  refine ⟨⟨⟨alive, by simp⟩, by simp, by simp, ?_⟩, by simp⟩
  rintro _ _ _ ⟨⟩
  exact ⟨code, rfl, new, by simp⟩

/-- A read waits behind the opening whose job is under way: two outputs at most are waited for. -/
theorem PoolRun.waiting_ends_read : ∃ t n p,
    PoolRun Rule.entrusting (.create (.pool (.start 1 64)) .readWrite {} {}) t n ∧
    n.device = .pool p ∧ n.storage.isIdle ∧ p.outstanding.length = 1 ∧
    n.storage.queue.length = 1 ∧
    ∃ bound, ∀ t' n', PoolRun Rule.quiet n t' n' → t'.steps ≤ bound ∧ t'.received.length ≤ 2 := by
  have fresh : PoolRun Rule.entrusting (.create (.pool (.start 1 64)) .readWrite {} {}) {} _ :=
    .start
  have asked := fresh.next (.move (.call .opening (some (.call 1)) none) rfl
    (Rule.entrusting_call _ rfl nofun))
  have opening := (asked.goOn 9).next (.move .collect (by decide +kernel)
    (Rule.entrusting_of_quiet (h := []) (by decide +kernel) ⟨.inr rfl, by decide +kernel⟩))
  have ordered := opening.next (.move (.call (.read 0 4) (some (.call 2)) none) (by decide +kernel)
    (Rule.entrusting_call _ (by decide +kernel) (by decide +kernel)))
  have waits := (ordered.goOn 9).next (.move .collect (by decide +kernel)
    (Rule.entrusting_of_quiet (h := []) (by decide +kernel) ⟨.inr rfl, by decide +kernel⟩))
  obtain ⟨t, n, run, idle, inside, queue⟩ : ∃ t n,
      PoolRun Rule.entrusting (.create (.pool (.start 1 64)) .readWrite {} {}) t n ∧
      n.storage.isIdle ∧ n.storage.pending = 1 ∧ n.storage.queue.length = 1 :=
    ⟨_, _, waits, by decide +kernel, by decide +kernel, by decide +kernel⟩
  obtain ⟨p, pool, -, -, -, pending, -, wait⟩ := run.waiting_ends
  have outstanding : p.outstanding.length = 1 := (pending idle).trans inside
  obtain ⟨bound, wait⟩ := wait idle
  rw [outstanding, queue] at wait
  refine ⟨t, n, p, run, pool, idle, outstanding, queue, bound, fun t' n' quiet => ?_⟩
  obtain ⟨steps, received, -⟩ := wait t' n' quiet
  exact ⟨steps, received⟩

end Wait

end StorageEngine
