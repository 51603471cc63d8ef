import Mathlib.Tactic.MkIffOfInductiveProp
import StorageEngine.Proofs.Calls

/-!
# What a storage owes

An order or a request with a callback owes its client an answer, and then a telling.  `Task.duties`
and `Storage.duties` collect what is owed, from the queue, from outside and from the stack.

Calls nest.  A call that waits for an inner one, for an implicit opening or for the closing before
a destruction, stays on the stack right below it; `Task.roots` are the tasks that stand for the
calls of clients, innermost first, and `Task.Linked` says that an inner call owes nobody anything.

`Effect` sums up what a step does to the duties and the roots: it decides about a call, or it brings
the request of an accepted call one stage further, or it does neither.

* `Turn.nested`, `Move.nested` — only inner calls stand on a call that waits;
* `Turn.tells`, `Move.tells` — whatever is finished can tell observer and caller the same;
* `Turn.effect` — every step has one of the effects.
-/

namespace StorageEngine

/-- What is owed to a receiver that is a callback, and to the observer beside it. -/
def duty (receiver : Option Receiver) (observer : Option Observer) (standing : Standing) :
    List Duty :=
  match receiver with
  | some (.call code) => [⟨⟨code, observer⟩, standing⟩]
  | _ => []

/-- What a request owes. -/
def Request.duty (r : Request) (standing : Standing) : List Duty :=
  StorageEngine.duty r.receiver r.observer standing

namespace Task

/-- What a task owes. -/
def duties : Task → List Duty
  | .submit o | .awaitClosing o => duty o.receiver o.observer .asking
  | .awaitOpening r | .enter r => r.duty .asking
  | .run r => r.duty .waiting
  | .pipeline r (.record result) => r.duty (.finished (r.recorded result).error)
  | .pipeline r (.settle _) | .pipeline r (.observe _) => r.duty (.finished r.error)
  | .pipeline r (.conclude _) => duty r.receiver none (.heralded r.result)
  | .teardown orphans => orphans.flatMap (·.duty .waiting)
  | _ => []

/-- A call that has not ended, or its answer. -/
def isCall : Task → Bool
  | .submit _ | .answer _ | .enter _ | .awaitOpening _ | .awaitClosing _ | .awaitCall _ => true
  | _ => false

/-- A call that waits for an inner one. -/
def isAwait : Task → Bool
  | .awaitOpening _ | .awaitClosing _ | .awaitCall _ => true
  | _ => false

/-- The topmost task waits for an inner call. -/
def awaits : List Task → Bool
  | [] => false
  | t :: _ => t.isAwait

/-- The tasks that stand for the calls of clients, innermost first. -/
def roots : List Task → List Task
  | [] => []
  | t :: rest => if t.isCall && !awaits rest then t :: roots rest else roots rest

/-- An inner call owes nobody anything, and its answer tells success or failure. -/
@[mk_iff]
structure IsInner (t : Task) : Prop where
  call : t.isCall
  plain : ∀ number, t ≠ .awaitCall number
  free : t.duties = []
  answer : ∀ reply, t = .answer reply → ∃ result, reply = .done result

/-- Only an inner call stands on a call that waits. -/
def Linked : List Task → Prop
  | [] => True
  | t :: rest => (awaits rest → t.IsInner) ∧ Linked rest

end Task

/-- Only the shared form has an observer, and it has a callback too. -/
def IsClaimed (receiver : Option Receiver) (observer : Option Observer) : Prop :=
  (∀ code, receiver ≠ some (.call code)) → observer = none

/-- A request that somebody waits for and that asks for a stat has its record. -/
def Request.HasRecord (r : Request) : Prop :=
  r.receiver ≠ none → r.kind = .stat → r.stats.isSome

/-- A request that is outside.  Nobody waits for one in the hands of a client. -/
@[mk_iff]
structure Request.Tells (r : Request) : Prop where
  claimed : IsClaimed r.receiver r.observer
  record : r.HasRecord
  alone : r.phase ≠ .running → r.receiver = none

/-- What a task needs to tell everybody the same. -/
def Task.Tells : Task → Prop
  | .submit o | .awaitClosing o => IsClaimed o.receiver o.observer
  | .awaitOpening r | .enter r | .run r => IsClaimed r.receiver r.observer
  | .pipeline r (.record result) =>
    IsClaimed r.receiver r.observer ∧ ((r.recorded result).error = none → r.HasRecord)
  | .pipeline r (.settle _) | .pipeline r (.observe _) =>
    IsClaimed r.receiver r.observer ∧ (r.error = none → r.HasRecord)
  | .teardown orphans => ∀ r ∈ orphans, IsClaimed r.receiver r.observer
  | _ => True

namespace Storage

/-- Everything that is owed. -/
def duties (s : Storage) : List Duty :=
  s.queue.flatMap (·.duty .waiting) ++ s.outside.flatMap (·.duty .waiting) ++
    s.stack.flatMap (·.duties)

/-- How much is owed of what has a property. -/
def due (s : Storage) (p : Duty → Bool) : Nat :=
  s.duties.countP p

/-- Calls wait for inner calls only, and the innermost one goes on. -/
@[mk_iff]
structure Nested (s : Storage) : Prop where
  linked : Task.Linked s.stack
  top : Task.awaits s.stack = false

/-- Whatever is finished can tell everybody the same. -/
@[mk_iff]
structure Tells (s : Storage) : Prop where
  queue : ∀ r ∈ s.queue, IsClaimed r.receiver r.observer
  outside : ∀ r ∈ s.outside, r.Tells
  stack : ∀ t ∈ s.stack, t.Tells

end Storage

@[simp] theorem duty_none (observer : Option Observer) (standing : Standing) :
    duty none observer standing = [] :=
  rfl

@[simp] theorem duty_promise (number : Nat) (observer : Option Observer) (standing : Standing) :
    duty (some (.promise number)) observer standing = [] :=
  rfl

@[simp] theorem duty_call (code : Callback) (observer : Option Observer) (standing : Standing) :
    duty (some (.call code)) observer standing = [⟨⟨code, observer⟩, standing⟩] :=
  rfl

theorem duty_cases (receiver : Option Receiver) :
    (∃ code, receiver = some (.call code)) ∨
      (∀ code, receiver ≠ some (.call code)) ∧
        ∀ observer standing, duty receiver observer standing = [] := by
  match receiver with
  | some (.call code) => exact .inl ⟨code, rfl⟩
  | some (.promise number) => exact .inr ⟨nofun, fun _ _ => rfl⟩
  | none => exact .inr ⟨nofun, fun _ _ => rfl⟩

/-- A call that has not ended owes at most its answer. -/
theorem Task.duties_of_isCall {t : Task} (call : t.isCall)
    (unanswered : ∀ reply, t ≠ .answer reply) :
    t.duties = [] ∨ ∃ c, t.duties = [⟨c, .asking⟩] := by
  have cases (receiver : Option Receiver) (observer : Option Observer) :
      duty receiver observer .asking = [] ∨
        ∃ c, duty receiver observer .asking = [⟨c, .asking⟩] := by
    obtain ⟨code, rfl⟩ | ⟨-, free⟩ := duty_cases receiver
    · exact .inr ⟨_, rfl⟩
    · exact .inl (free _ _)
  cases t with
  | submit o | awaitClosing o => exact cases o.receiver o.observer
  | enter r | awaitOpening r => exact cases r.receiver r.observer
  | awaitCall number => exact .inl rfl
  | answer reply => exact absurd rfl (unanswered reply)
  | _ => simp [isCall] at call

@[simp] theorem Task.awaits_nil : awaits [] = false :=
  rfl

@[simp] theorem Task.awaits_cons (t : Task) (rest : List Task) : awaits (t :: rest) = t.isAwait :=
  rfl

theorem Task.roots_inner {t : Task} {rest : List Task} (inner : awaits rest = true) :
    roots (t :: rest) = roots rest := by
  simp [roots, inner]

theorem Task.roots_outer {t : Task} {rest : List Task} (call : t.isCall)
    (outer : awaits rest = false) : roots (t :: rest) = t :: roots rest := by
  simp [roots, call, outer]

section Nested

attribute [local simp] Task.Linked Task.isAwait Task.isInner_iff Task.isCall Task.duties
  Request.duty

theorem Turn.nested {s s' : Storage} {i : History} (t : Turn s i s') (inv : s.Nested) :
    s'.Nested := by
  obtain ⟨linked, top⟩ := inv
  rw [Storage.nested_iff]
  cases t with
  | recorded top emitter announced =>
    cases announced <;> simp_all
  | @freed r idle rest top a =>
    cases idle <;> simp_all
  | openingAdmitted top marked =>
    obtain rfl | ⟨e, rfl⟩ := marked <;> simp_all
  | _ => simp_all

/-- When it is the client's turn to take an answer, no call waits for it. -/
theorem Storage.Nested.awaits_eq_false {s : Storage} (inv : s.Nested) (turn : s.isAtRest)
    {reply : Reply} {rest : List Task} (top : s.stack = .answer reply :: rest) :
    Task.awaits rest = false := by
  have linked := inv.linked
  rw [top] at linked
  by_contra waits
  obtain ⟨result, rfl⟩ := (linked.1 (by simpa using waits)).answer reply rfl
  cases rest with
  | nil => simp at waits
  | cons task rest =>
    cases task <;> cases result <;>
      simp_all [Storage.isAtRest, Storage.step, Storage.resume?]

theorem Move.nested {s s' : Storage} {a : Action} {i : History} (m : Move s a i s')
    (inv : s.Nested) (turn : s.isAtRest) : s'.Nested := by
  rw [Storage.nested_iff]
  cases m with
  | @collected reply rest top =>
    have linked := inv.linked
    rw [top] at linked
    exact ⟨linked.2, inv.awaits_eq_false turn top⟩
  | _ =>
    obtain ⟨linked, top⟩ := inv
    simp_all

end Nested

@[simp] theorem isClaimed_none (receiver : Option Receiver) : IsClaimed receiver none :=
  fun _ => rfl

@[simp] theorem isClaimed_call (code : Callback) (observer : Option Observer) :
    IsClaimed (some (.call code)) observer :=
  fun nobody => absurd rfl (nobody code)

@[simp] theorem recorded_hasRecord {r : Request} {result : Except Error Nat} :
    (r.recorded result).HasRecord ↔ r.HasRecord := by
  simp [Request.HasRecord]

/-- Observer and caller of a request are told the same. -/
theorem Request.outcome_agrees {r : Request} (waits : r.receiver ≠ none)
    (record : r.error = none → r.HasRecord) (shared : String) :
    (r.outcome shared).Agrees r.result := by
  unfold outcome result
  cases error : r.error with
  | some e => simp [Outcome.Agrees]
  | none =>
    cases kind : r.kind with
    | read => simp [Outcome.Agrees]
    | stat =>
      obtain ⟨stats, hasStats⟩ := Option.isSome_iff_exists.mp (record error waits kind)
      simp [Outcome.Agrees, hasStats]
    | _ => simp [Outcome.Agrees]

section Tells

attribute [local simp] Task.Tells

theorem Turn.tells {s s' : Storage} {i : History} (t : Turn s i s') (inv : s.Tells) :
    s'.Tells := by
  obtain ⟨queue, outside, stack⟩ := inv
  rw [Storage.tells_iff]
  cases t with
  | recorded top emitter announced =>
    cases announced <;> simp_all
  | @freed r idle rest top a =>
    cases idle <;> simp_all
  | openingAdmitted top marked =>
    obtain rfl | ⟨e, rfl⟩ := marked <;> simp_all
  | queued | waiting =>
    simp_all [or_imp, forall_and]
  | finished top r' result _ _ _ follows _ stat =>
    have failed : r'.HasRecord ∨ (r'.recorded result).error ≠ none := by
      cases result with
      | error e => exact .inr (by simp)
      | ok n => exact .inl fun _ isStat => absurd rfl (stat (follows.kind ▸ isStat) n)
    simp_all [follows.receiver, follows.observer]
    tauto
  | @dispatched r rest top r' _ _ _ _ follows phase stat =>
    have held : r'.Tells := by
      refine ⟨?_, fun _ isStat => stat isStat, fun idle => absurd phase idle⟩
      rw [follows.receiver, follows.observer]
      exact stack (.run r) (by simp [top])
    simp_all [or_imp, forall_and]
  | _ => simp_all

theorem Move.tells {s s' : Storage} {a : Action} {h i : History} (m : Move s a i s')
    (inv : s.Tells) (steadfast : Rule.steadfast h s a) : s'.Tells := by
  obtain ⟨queue, outside, stack⟩ := inv
  obtain ⟨-, noShift, -, fresh⟩ := steadfast
  rw [Storage.tells_iff]
  have taken (id : RequestId) : ∀ r ∈ (s.take id).outside, r.Tells :=
    fun r held => outside r (List.mem_filter.mp held).1
  have told {id : RequestId} {r : Request} (found : s.find? id = some r) : r.Tells :=
    outside r (List.mem_of_find?_eq_some found)
  cases m with
  | calledBack | answeredAtOnce | promisedAtOnce | aside | announced =>
    exact ⟨queue, outside, by simpa using stack⟩
  | ordered op receiver observer | orderedDestruction receiver observer =>
    obtain ⟨code, rfl, -⟩ := fresh _ _ _ rfl
    exact ⟨queue, outside, by simpa using stack⟩
  | promised | promisedDestruction =>
    exact ⟨queue, outside, by simpa using stack⟩
  | made =>
    refine ⟨queue, ?_, by simpa using stack⟩
    exact List.forall_mem_append.mpr ⟨outside, by simp [Request.tells_iff, Request.HasRecord]⟩
  | pushed found =>
    refine ⟨?_, taken _, by simpa using stack⟩
    exact List.forall_mem_append.mpr ⟨queue, by simpa using (told found).claimed⟩
  | pushAbandoned found | abandoned found =>
    exact ⟨queue, taken _, by simpa [(told found).claimed] using stack⟩
  | shifted => simp at noShift
  | @completed id r found v =>
    have record : (r.fill v).HasRecord := by
      simpa [Request.HasRecord, Request.fill] using (told found).record
    exact ⟨queue, taken _, by simpa [(told found).claimed, record] using stack⟩
  | discarded _ found =>
    exact ⟨queue, taken _, by simpa using stack⟩
  | edited id e =>
    refine ⟨queue, ?_, by simpa using stack⟩
    simp only [List.forall_mem_map]
    intro r held
    split
    · simpa [Request.tells_iff, Request.HasRecord] using outside r held
    · exact outside r held
  | left top | collected top =>
    exact ⟨queue, outside, fun t below => stack t (by simp [top, below])⟩
  | idle => exact ⟨queue, outside, stack⟩

end Tells

section Run

variable {start : Storage} {h : History} {s : Storage}

theorem Run.nested (initial : start.Nested) {rule : Rule} (run : Run rule start h s) : s.Nested :=
  run.invariant (motive := fun _ s => s.Nested) initial (fun _ inv t => t.nested inv)
    (fun _ inv turn _ m => m.nested inv turn)

theorem Run.tells (initial : start.Tells) (run : Run Rule.steadfast start h s) : s.Tells :=
  run.invariant (motive := fun _ s => s.Tells) initial (fun _ inv t => t.tells inv)
    (fun _ inv _ steadfast m => m.tells inv steadfast)

end Run

section Create

variable (capabilities : Capabilities) (limits : Limits) (allocator : Allocator)

theorem Storage.nested_create : (create capabilities limits allocator).Nested := by
  constructor <;> simp [Task.Linked]

theorem Storage.tells_create : (create capabilities limits allocator).Tells := by
  constructor <;> simp

end Create

/-- An incident that no call hears of. -/
def Incident.isSilent : Incident → Bool
  | .asked _ | .answered _ | .abandoned _ => false
  | .invoked (.done _ _) | .invoked (.hook _ _) => false
  | _ => true

/-- No call hears of what happens. -/
def History.IsSilent (i : History) : Prop :=
  ∀ x ∈ i, x.isSilent

/-- A step goes on with a call, at the top of the stack or right below an inner call that has just
ended. -/
structure CallStep (s s' : Storage) (t t' : Task) (rest : List Task) : Prop where
  before : Task.roots s.stack = Task.roots (t :: rest)
  after : Task.roots s'.stack = Task.roots (t' :: rest)
  call : t.isCall
  call' : t'.isCall
  unanswered : ∀ reply, t ≠ .answer reply
  inner : Task.awaits rest → t.duties = []

section CallStep

variable {s s' : Storage} {t t' : Task} {rest : List Task} {reply : Reply}

/-- The call at the top goes on. -/
theorem CallStep.top (linked : Task.Linked s.stack) (top : s.stack = t :: rest)
    (after : Task.roots s'.stack = Task.roots (t' :: rest)) (call : t.isCall) (call' : t'.isCall)
    (unanswered : ∀ reply, t ≠ .answer reply) : CallStep s s' t t' rest := by
  rw [top] at linked
  exact ⟨by rw [top], after, call, call', unanswered, fun inner => (linked.1 inner).free⟩

/-- A call that awaits the answer of an inner one goes on when it is there. -/
theorem CallStep.below (linked : Task.Linked s.stack) (top : s.stack = .answer reply :: t :: rest)
    (after : Task.roots s'.stack = Task.roots (t' :: rest)) (awaits : t.isAwait)
    (call' : t'.isCall) : CallStep s s' t t' rest := by
  rw [top] at linked
  have inner : Task.awaits (t :: rest) = true := awaits
  refine ⟨by rw [top, Task.roots_inner inner], after, ?_, call', ?_,
    fun deeper => (linked.2.1 deeper).free⟩
  · cases t <;> first | rfl | cases awaits
  · rintro reply rfl
    cases awaits

end CallStep

/-- What a step does to what is owed, and to the calls of clients. -/
inductive Effect (s : Storage) (i : History) (s' : Storage) : Prop
  /-- Nobody is concerned. -/
  | nothing (silent : i.IsSilent) (due : ∀ p, s'.due p = s.due p)
      (roots : Task.roots s'.stack = Task.roots s.stack)
  /-- A call goes on. -/
  | goesOn (silent : i.IsSilent) (due : ∀ p, s'.due p = s.due p) {t t' : Task} {rest : List Task}
      (call : CallStep s s' t t' rest) (same : t'.duties = t.duties)
  /-- A call is accepted. -/
  | accepted (silent : i.IsSilent) {t : Task} {rest : List Task}
      (call : CallStep s s' t (.answer (.done (.ok ()))) rest)
      (due : ∀ p, s'.due p + t.duties.countP p =
        s.due p + (t.duties.map fun d => { d with standing := .waiting }).countP p)
  /-- A call is refused. -/
  | refused (silent : i.IsSilent) {t : Task} {rest : List Task} {e : Error}
      (call : CallStep s s' t (.answer (.done (.error e))) rest)
      (due : ∀ p, s'.due p + t.duties.countP p = s.due p)
  /-- A request is finished. -/
  | finished (silent : i.IsSilent) (r : Request) (error : Option Error)
      (due : ∀ p, s'.due p + (r.duty .waiting).countP p =
        s.due p + (r.duty (.finished error)).countP p)
      (roots : Task.roots s'.stack = Task.roots s.stack)
  /-- An observer hears, if there is one. -/
  | heralded (r : Request)
      (heard : i = (r.observer.map fun o =>
        Incident.invoked (.hook o.code (r.outcome o.shared))).toList)
      (due : ∀ p, s'.due p + (r.duty (.finished r.error)).countP p =
        s.due p + (duty r.receiver none (.heralded r.result)).countP p)
      (roots : Task.roots s'.stack = Task.roots s.stack)
      (claimed : IsClaimed r.receiver r.observer) (record : r.error = none → r.HasRecord)
  /-- A caller hears. -/
  | told (r : Request) (code : Callback) (receiver : r.receiver = some (.call code))
      (heard : i = [.invoked (.done code r.result)])
      (due : ∀ p, s'.due p + (duty r.receiver none (.heralded r.result)).countP p = s.due p)
      (roots : Task.roots s'.stack = Task.roots s.stack)

section Effect

attribute [local simp] Task.roots Task.isCall Task.isAwait Task.duties Request.duty Storage.due
  Storage.duties History.IsSilent Incident.isSilent List.flatMap_map

@[simp] theorem map_duty (receiver : Option Receiver) (observer : Option Observer)
    (standing standing' : Standing) :
    (duty receiver observer standing).map (fun d => { d with standing := standing' }) =
      duty receiver observer standing' := by
  unfold duty
  split <;> rfl

theorem Turn.effect {s s' : Storage} {i : History} (t : Turn s i s') (owned : s.owned = true)
    (nested : s.Nested) (tells : s.Tells) : Effect s i s' := by
  have linked := nested.linked
  cases t with
  | lost top unowned => simp [owned] at unowned
  | refused top | turnedAway top =>
    refine .refused (by simp) (.top linked top rfl rfl rfl nofun) fun p => ?_
    simp [top]
    omega
  | openingRefused top | closingRefused top =>
    refine .refused (by simp) (.below linked top rfl rfl rfl) fun p => ?_
    simp [top]
    omega
  | queued top | waiting top | entered top =>
    refine .accepted (by simp) (.top linked top (by simp) rfl rfl nofun) fun p => ?_
    simp [top]
    omega
  | @deferred o rest top a data buffer =>
    refine .goesOn (by simp) (by simp [top]) (?_ : CallStep _ _ (.submit o)
      (.awaitOpening (o.request s.nextId data buffer)) rest) (by simp)
    exact .top linked top (by simp) rfl rfl nofun
  | offered top =>
    exact .goesOn (by simp) (by simp [top]) (.top linked top rfl rfl rfl nofun) (by simp)
  | @openingAdmitted r r' rest top marked =>
    have same : r'.receiver = r.receiver ∧ r'.observer = r.observer := by
      obtain rfl | ⟨e, rfl⟩ := marked <;> simp
    refine .goesOn (by simp) (by simp [top, same]) (?_ : CallStep _ _ (.awaitOpening r)
      (.enter r') rest) (by simp [same])
    exact .below linked top rfl rfl rfl
  | closingAdmitted top | promised top =>
    exact .goesOn (by simp) (by simp [top]) (.below linked top rfl rfl rfl) (by simp)
  | @finished r rest top r' result _ _ _ follows =>
    refine .finished (by simp) r (r'.recorded result).error ?_ (by simp [top])
    intro p
    simp [top, follows.receiver, follows.observer]
    omega
  | recorded top emitter announced =>
    cases announced <;> exact .nothing (by simp) (by simp [top]) (by simp [top])
  | @observed r idle rest o top observer =>
    have told : (Task.pipeline r (.observe idle)).Tells := tells.stack _ (by simp [top])
    refine .heralded r (by simp [observer]) ?_ (by simp [top]) told.1 told.2
    have same : ({ r with observer := none } : Request).result = r.result := rfl
    intro p
    simp [top, same]
    omega
  | @unobserved r idle rest top observer =>
    have told : (Task.pipeline r (.observe idle)).Tells := tells.stack _ (by simp [top])
    refine .heralded r (by simp [observer]) ?_ (by simp [top]) told.1 told.2
    intro p
    simp [top]
    omega
  | @told r idle rest code top receiver =>
    refine .told r code receiver rfl ?_ (by simp [top])
    intro p
    simp [top]
    omega
  | @freed r idle rest top a =>
    cases idle <;> exact .nothing (by simp) (by simp [top]) (by simp [top])
  | dispatched top r' _ _ _ _ follows =>
    exact .nothing (by simp) (by simp [top, follows.receiver, follows.observer]) (by simp [top])
  | drained top head =>
    refine .nothing (by simp) (fun p => ?_) (by simp [top])
    simp [top, head]
    omega
  | @orphaned r orphans rest top =>
    refine .finished (by simp) r (some .fault) ?_ (by simp [top])
    intro p
    simp [top]
    omega
  | cleared top =>
    refine .nothing (by simp) (fun p => ?_) (by simp [top])
    simp [top]
    omega
  | _ => exact .nothing (by simp) (by simp [*]) (by simp [*])

end Effect

end StorageEngine
