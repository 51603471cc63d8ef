import Mathlib.Data.List.Flatten
import StorageEngine.Proofs.Announcements
import StorageEngine.Proofs.Passage
import StorageEngine.Proofs.Regular

/-!
# The events of a life

A storage announces an event whenever a request to open, close or destroy it is completed.  Such
requests come to their ends in many ways: inside a call that has nothing to do, when the device
finishes them or lets go of them, behind a barrier that has failed, and all at once with the
storage; and whoever hears of one may ask for the next before the state has moved on for it.

The chronicle of a run (`Chronicle.IsOf`) keeps two records of it that know nothing of each other:
which results its requests were given, with the listeners that were in the table then
(`Storage.completion`), and which announcements have appeared on the stack of the storage without a
client's doing, with the listeners that they are going to call (`Storage.emission`,
`Storage.emissionOf`).  The second is what the first calls for (`Chronicle.IsOf.told_of_done`):

* `Storage.emission_eq`, `Storage.emissionOf_eq_nil` — what is announced in one step;
* `Chronicle.IsOf.requests_perm` — the state moves on for exactly the requests that are completed;
* `Chronicle.IsOf.nodup` — and only once for each, as it does in every run (`Run.settlesOnce`).

That each of these announcements then calls the listeners that it begins with, whatever they do
meanwhile, is told by `Relay.Course.announcement`: every run of a storage is a course of deeds for
its listeners (`Run.relayed`).
-/

namespace StorageEngine

/-- The announcement that a task goes on with. -/
def Task.delivery? : Task → Option Delivery
  | .deliver d => some d
  | _ => none

namespace Storage

/-- The listeners of a storage, with the announcements under way on its stack, innermost first. -/
def relay (s : Storage) : Relay where
  emitter := s.emitter
  deliveries := s.stack.filterMap Task.delivery?

/-- The announcements that are under way in `s'` and are not in `s`, which it comes of, each with
the listeners that it is going to call. -/
def newlyTold (s s' : Storage) : List Delivery :=
  let old := s.relay.deliveries.length
  let new := s'.relay.deliveries
  new.take (new.length - old)

/-- What the storage itself announces in its next step. -/
def emission (s : Storage) : List Delivery :=
  match s.step with
  | none => []
  | some s' => s.newlyTold s'

/-- What the storage itself announces when a client makes a move; what the client announces is not
of its own. -/
def emissionOf (s : Storage) (a : Action) : List Delivery :=
  match a with
  | .announce _ => []
  | _ => s.newlyTold (s.act a)

/-- Where no more announcements are under way than before, none is new. -/
theorem newlyTold_eq_nil {s s' : Storage}
    (fewer : s'.relay.deliveries.length ≤ s.relay.deliveries.length) : s.newlyTold s' = [] := by
  simp [newlyTold, Nat.sub_eq_zero_of_le fewer]

end Storage

section Relayed

variable {s s' : Storage} {h i : History} {a : Action} {rest : List Task} {r : Request}
  {result : Except Error Nat}

attribute [local simp] Storage.relay Task.delivery? List.filterMap_cons

/-- A step that records no result leaves the listeners alone, goes on with the innermost
announcement, or lets go of all listeners.  It announces nothing. -/
theorem Turn.relayed (t : Turn s i s')
    (unrecorded : ∀ r result rest, s.stack ≠ .pipeline r (.record result) :: rest) :
    (s'.relay = s.relay ∨ ∃ deed, Relay.Step s.relay deed s'.relay) ∧
      s'.relay.deliveries.length ≤ s.relay.deliveries.length := by
  cases t with
  | recorded top => exact absurd top (unrecorded _ _ _)
  | @freed r idle rest top a => cases idle <;> simp [top]
  | @delivered d l waiting rest top next =>
    have front : s.relay.deliveries = d :: rest.filterMap Task.delivery? := by simp [top]
    refine ⟨.inr ⟨.called l d.notice, .call ?_⟩, by simp [top]⟩
    obtain ⟨notice, _, called⟩ := d
    obtain rfl := next
    simp only [Relay.next?, front]
    rfl
  | @announced d rest top last =>
    have front : s.relay.deliveries = d :: rest.filterMap Task.delivery? := by simp [top]
    refine ⟨.inr ⟨.ended s.relay.finish.1, ?_⟩, by simp [top]⟩
    obtain ⟨notice, _, called⟩ := d
    obtain rfl := last
    have drained : s.relay.next? = none := by simp only [Relay.next?, front]
    have ended : s.relay.finish.2 = { emitter := s.emitter.purge
                                      deliveries := rest.filterMap Task.delivery? } := by
      simp only [Relay.finish, front]
      rfl
    have busy : s.relay.deliveries ≠ [] := by
      rw [front]
      exact List.cons_ne_nil _ _
    have step : Relay.Step s.relay _ s.relay.finish.2 := .finish busy drained
    rwa [ended] at step
  | @detached rest top =>
    have step : Relay.Step s.relay _ _ := .withdraw .everyone
    have under : s.relay.deliveries = rest.filterMap Task.delivery? := by simp [top]
    rw [under] at step
    exact ⟨.inr ⟨_, step⟩, by simp [top]⟩
  | _ => simp_all

/-- A step that records a result announces it, if there is something to announce. -/
theorem Storage.step_recorded (top : s.stack = .pipeline r (.record result) :: rest) :
    s.step = some ({ s with stack := rest }.recordResult r result) := by
  simp only [step, top, perform, advance]

theorem Storage.relay_recorded (top : s.stack = .pipeline r (.record result) :: rest) :
    ({ s with stack := rest }.recordResult r result).relay =
      match s.announcement (r.recorded result) with
      | none => s.relay
      | some notice => s.relay.announce notice := by
  have same : ({ s with stack := rest } : Storage).announcement (r.recorded result) =
      s.announcement (r.recorded result) := rfl
  rw [recordResult_eq, same]
  cases s.announcement (r.recorded result) with
  | none => simp [top, push]
  | some notice => simp [top, push, Relay.announce]

/-- A step of a storage is at most one deed for its listeners. -/
theorem Storage.relayed_step (next : s.step = some s') :
    s'.relay = s.relay ∨ ∃ deed, Relay.Step s.relay deed s'.relay := by
  by_cases recorded : ∃ r result rest, s.stack = .pipeline r (.record result) :: rest
  · obtain ⟨r, result, rest, top⟩ := recorded
    obtain rfl := Option.some.inj ((step_recorded top).symm.trans next)
    rw [relay_recorded top]
    cases s.announcement (r.recorded result) with
    | none => exact .inl rfl
    | some notice => exact .inr ⟨_, .announce notice⟩
  · refine ((turn_of_step next).relayed fun r result rest top => ?_).1
    exact recorded ⟨r, result, rest, top⟩

theorem Storage.relayed_register (s : Storage) (event : Event) (ttl : Ttl) (callback : Callback) :
    ∃ deed, Relay.Step s.relay deed (s.register event ttl callback).relay := by
  unfold register
  cases registered : s.emitter.register event ttl callback with
  | ok listener => exact ⟨_, .register registered⟩
  | error e => exact ⟨_, .refuse registered⟩

theorem Storage.relay_call (s : Storage) (op : Operation) (receiver : Option Receiver)
    (observer : Option Observer) : (s.call op receiver observer).relay = s.relay := by
  unfold call
  cases op with
  | opening =>
    dsimp only
    split
    case isTrue =>
      cases receiver with
      | none => rfl
      | some receiver => cases receiver <;> rfl
    case isFalse => rfl
  | _ => rfl

/-- Letting go of a request tells the listeners nothing yet. -/
theorem Storage.relay_letGo (s : Storage) (r : Request) : (s.letGo r).relay = s.relay := by
  unfold letGo
  split <;> rfl

theorem Storage.relay_makeRequest (s : Storage) (kind : Kind) (offset size : Nat) :
    (s.makeRequest kind offset size).relay = s.relay := by
  unfold makeRequest
  split
  case isTrue => rfl
  case isFalse =>
    obtain ⟨a, refused⟩ | ⟨a, data, buffer, made, -⟩ := s.make_cases
      { kind, offset, size, payload := if kind = .write then some (Bytes.zeros size) else none }
    · simp only [refused]
      rfl
    · simp only [made]
      rfl

theorem Storage.relay_pushRequest (s : Storage) (id : RequestId) :
    (s.pushRequest id).relay = s.relay := by
  unfold pushRequest
  cases s.find? id with
  | none => rfl
  | some r =>
    dsimp only
    cases queued : (s.take id).enqueue r with
    | ok s' =>
      obtain ⟨-, rfl⟩ := enqueue_eq_ok_iff.mp queued
      rfl
    | error e => exact relay_letGo _ r

/-- A move of a client is at most one deed for the listeners. -/
theorem Storage.relayed_act (s : Storage) (a : Action) :
    (s.act a).relay = s.relay ∨ ∃ deed, Relay.Step s.relay deed (s.act a).relay := by
  cases a with
  | register event ttl callback => exact .inr (s.relayed_register event ttl callback)
  | listen event ttl callback =>
    simp only [act, listen]
    split
    · exact .inl rfl
    · exact .inr (s.relayed_register event ttl callback)
  | off id => exact .inr ⟨_, .withdraw (.byNumber id)⟩
  | offCallback callback => exact .inr ⟨_, .withdraw (.byCallback callback)⟩
  | offEvent event => exact .inr ⟨_, .withdraw (.byEvent event)⟩
  | clearListeners => exact .inr ⟨_, .withdraw .everyone⟩
  | announce notice => exact .inr ⟨_, .announce notice⟩
  | poll | forget | pushForeign | edit | disown => exact .inl rfl
  | call op receiver observer => exact .inl (s.relay_call op receiver observer)
  | promise op => exact .inl (Storage.relay_call _ op _ _)
  | makeRequest kind offset size => exact .inl (s.relay_makeRequest kind offset size)
  | push id => exact .inl (s.relay_pushRequest id)
  | shift =>
    simp only [act, shift]
    cases s.queue <;> exact .inl rfl
  | complete id v =>
    simp only [act, complete]
    cases s.find? id with
    | none => exact .inl rfl
    | some r => dsimp only; split <;> exact .inl rfl
  | abandon id =>
    simp only [act, abandon]
    cases s.find? id with
    | none => exact .inl rfl
    | some r => dsimp only; split <;> [exact .inl (relay_letGo _ r); exact .inl rfl]
  | leave =>
    simp only [act, leave]
    split
    case h_1 code rest top => exact .inl (by simp [top])
    case h_2 => exact .inl rfl
  | collect =>
    simp only [act, collect]
    split
    case h_1 reply rest top => exact .inl (by simp [top])
    case h_2 => exact .inl rfl

/-- What happens in a run of a storage is a course of deeds for its listeners, so every announcement
in it delivers exactly its snapshot. -/
theorem Run.relayed {rule : Rule} {start : Storage} (run : Run rule start h s) :
    ∃ log, Relay.Course start.relay log s.relay := by
  have goes {log : List Relay.Entry} {r r' : Relay} (course : Relay.Course start.relay log r)
      (next : r' = r ∨ ∃ deed, Relay.Step r deed r') :
      ∃ log, Relay.Course start.relay log r' := by
    obtain rfl | ⟨deed, step⟩ := next
    · exact ⟨log, course⟩
    · exact ⟨_, course.step step⟩
  induction run with
  | start => exact ⟨[], .start⟩
  | step run next ih =>
    obtain ⟨log, course⟩ := ih
    exact goes course (Storage.relayed_step next)
  | @move h s a run turn allowed ih =>
    obtain ⟨log, course⟩ := ih
    exact goes course (s.relayed_act a)

/-- So listeners stand in the order of their registration, and no number is given twice. -/
theorem Run.isNumbered {rule : Rule} {capabilities : Capabilities} {limits : Limits}
    {allocator : Allocator} (run : Run rule (.create capabilities limits allocator) h s) :
    s.emitter.IsNumbered := by
  obtain ⟨log, course⟩ := run.relayed
  exact (course.numbered (Emitter.isNumbered_fresh limits.listenerCapacity)).1

end Relayed

/-- A request whose result has just been recorded, and what it was recorded in: the point of life of
the storage and the listeners in its table. -/
structure Completion where
  request : Request
  ready : Ready
  listeners : List Listener
  deriving DecidableEq

namespace Completion

/-- The event that a completion calls for: none in a storage that is destroyed. -/
def notice? (c : Completion) : Option Notice :=
  match c.ready, c.request.kind, c.request.error with
  | .destroyed, _, _ => none
  | _, .opening, none => some { event := .opened }
  | _, .closing, none => some { event := .closed }
  | _, .destroying, none => some { event := .destroyed }
  | _, .opening, some e | _, .closing, some e | _, .destroying, some e =>
    some { event := .failed, error := some e }
  | _, _, _ => none

/-- The listeners that are to hear of an event: those who wait for it and have life left, in the
order of their registration. -/
def audience (c : Completion) (event : Event) : List Listener :=
  c.listeners.filter fun l => l.event = event && !l.ttl.isSpent

/-- The announcement that a completion calls for. -/
def delivery? (c : Completion) : Option Delivery :=
  c.notice?.map fun notice =>
    { notice, waiting := c.audience notice.event, called := (c.audience notice.event).length }

@[simp] theorem map_notice_delivery? (c : Completion) : c.delivery?.map (·.notice) = c.notice? := by
  simp only [delivery?, Option.map_map, Function.comp_def, Option.map_id']

/-- An announcement begins with its audience. -/
theorem delivery?_eq (c : Completion) (e : Emitter) (same : c.listeners = e.listeners) :
    c.delivery? = c.notice?.map fun notice => (e.begin notice).1 := by
  simp only [delivery?, audience, same, Emitter.begin]
  rfl

end Completion

namespace Incident

/-- The request for which the state moves on in an incident. -/
def settlement? : Incident → Option Request
  | .settled r _ => some r
  | _ => none

end Incident

namespace History

/-- The requests for which the state has moved on, in order. -/
def settlements (h : History) : List Request :=
  h.filterMap Incident.settlement?

theorem settlements_append (h i : History) :
    settlements (h ++ i) = h.settlements ++ i.settlements :=
  List.filterMap_append

end History

namespace Task

/-- The request whose result a task has recorded, if the state has not moved on for it. -/
def recorded : Task → List Request
  | .pipeline r (.settle _) => [r]
  | _ => []

/-- The requests of a task for which the state has not moved on. -/
def unsettled : Task → List Request
  | .awaitOpening r | .enter r | .run r | .pipeline r (.record _) | .pipeline r (.settle _) => [r]
  | .teardown orphans => orphans
  | _ => []

end Task

namespace Storage

/-- The request whose result the next step records. -/
def completion (s : Storage) : List Completion :=
  match s.stack with
  | .pipeline r (.record result) :: _ => [⟨r.recorded result, s.ready, s.emitter.listeners⟩]
  | _ => []

/-- The requests whose results have been recorded and for which the state has not moved on. -/
def recorded (s : Storage) : List Request :=
  s.stack.flatMap (·.recorded)

/-- The requests for which the state has not moved on. -/
def unsettled (s : Storage) : List Request :=
  s.queue ++ s.outside ++ s.stack.flatMap (·.unsettled)

end Storage

/-- What a run leaves behind: its history, the requests that were completed in it, what the storage
itself has announced and to whom, each in order, and the storage. -/
structure Chronicle where
  history : History := []
  done : List Completion := []
  told : List Delivery := []
  storage : Storage

namespace Chronicle

/-- The storage does its next step. -/
def next (c : Chronicle) (s' : Storage) : Chronicle where
  history := c.history ++ c.storage.incidents
  done := c.done ++ c.storage.completion
  told := c.told ++ c.storage.emission
  storage := s'

/-- A client makes a move. -/
def move (c : Chronicle) (a : Action) : Chronicle where
  history := c.history ++ c.storage.incidentsOf a
  done := c.done
  told := c.told ++ c.storage.emissionOf a
  storage := c.storage.act a

/-- This is the chronicle of a run. -/
inductive IsOf (rule : Rule) (start : Storage) : Chronicle → Prop
  | start : IsOf rule start { storage := start }
  | step {c : Chronicle} {s' : Storage} (before : IsOf rule start c)
      (next : c.storage.step = some s') : IsOf rule start (c.next s')
  | move {c : Chronicle} (a : Action) (before : IsOf rule start c) (turn : c.storage.isAtRest)
      (allowed : rule c.history c.storage a) : IsOf rule start (c.move a)

/-- The storage goes on by its own steps, at most so many, until it is the client's turn. -/
def goOn (c : Chronicle) : Nat → Chronicle
  | 0 => c
  | n + 1 =>
    match c.storage.step with
    | none => c
    | some s' => (c.next s').goOn n

/-- Clients make these moves, one after the other; the storage goes on after each by at most so many
steps. -/
def play (c : Chronicle) : List (Action × Nat) → Chronicle
  | [] => c
  | (a, n) :: moves => ((c.move a).goOn n).play moves

theorem goOn_eq (c : Chronicle) (n : Nat) :
    Storage.goOn (c.history, c.storage) n = ((c.goOn n).history, (c.goOn n).storage) := by
  induction n generalizing c with
  | zero => rfl
  | succ n ih =>
    unfold Storage.goOn Chronicle.goOn
    cases c.storage.step with
    | none => rfl
    | some s' => exact ih (c.next s')

end Chronicle

instance (h : History) (s : Storage) (a : Action) : Decidable (Rule.free h s a) :=
  .isTrue trivial

section Chronicle

variable {rule : Rule} {start s s' : Storage} {h i : History} {c : Chronicle} {r : Request}
  {result : Except Error Nat} {rest : List Task}

/-- Every run has a chronicle. -/
theorem Run.chronicle (run : Run rule start h s) :
    ∃ c : Chronicle, c.IsOf rule start ∧ c.history = h ∧ c.storage = s := by
  induction run with
  | start => exact ⟨_, .start, rfl, rfl⟩
  | step _ next ih =>
    obtain ⟨c, before, rfl, rfl⟩ := ih
    exact ⟨_, .step before next, rfl, rfl⟩
  | move a _ turn allowed ih =>
    obtain ⟨c, before, rfl, rfl⟩ := ih
    exact ⟨_, .move a before turn allowed, rfl, rfl⟩

theorem Chronicle.IsOf.run (chronicle : c.IsOf rule start) :
    Run rule start c.history c.storage := by
  induction chronicle with
  | start => exact .start
  | step _ next ih => exact ih.step next
  | move a _ turn allowed ih => exact ih.move a turn allowed

theorem Chronicle.IsOf.goOn (chronicle : c.IsOf rule start) (n : Nat) :
    (c.goOn n).IsOf rule start := by
  induction n generalizing c with
  | zero => exact chronicle
  | succ n ih =>
    unfold Chronicle.goOn
    split
    case h_1 => exact chronicle
    case h_2 s' next => exact ih (chronicle.step next)

/-- A chronicle goes on by moves that are permitted. -/
theorem Chronicle.IsOf.play (chronicle : c.IsOf rule start) (moves : List (Action × Nat))
    (permitted : Storage.Permits rule (c.history, c.storage) moves) :
    (c.play moves).IsOf rule start := by
  induction moves generalizing c with
  | nil => exact chronicle
  | cons move moves ih =>
    obtain ⟨⟨turn, allowed⟩, others⟩ := permitted
    refine ih ((chronicle.move move.1 turn allowed).goOn move.2) ?_
    rw [← Chronicle.goOn_eq]
    exact others

section Told

theorem announcement_eq (s : Storage) (r : Request) (listeners : List Listener) :
    s.announcement r = Completion.notice? ⟨r, s.ready, listeners⟩ := by
  unfold Storage.announcement Storage.isDestroyed Request.notice? Request.event?
  cases s.ready <;> cases kind : r.kind <;> cases error : r.error <;>
    simp [Completion.notice?, kind, error]

theorem completion_of_recorded (top : s.stack = .pipeline r (.record result) :: rest) :
    s.completion = [⟨r.recorded result, s.ready, s.emitter.listeners⟩] := by
  simp only [Storage.completion, top]

theorem completion_of_unrecorded
    (unrecorded : ∀ r result rest, s.stack ≠ .pipeline r (.record result) :: rest) :
    s.completion = [] := by
  unfold Storage.completion
  split
  case h_1 r result rest top => exact absurd top (unrecorded r result rest)
  case h_2 => rfl

/-- What a storage announces in a step is the event of the request that it completes in it, to
whoever listens then. -/
theorem Storage.emission_eq (s : Storage) :
    s.emission = s.completion.filterMap Completion.delivery? := by
  by_cases recorded : ∃ r result rest, s.stack = .pipeline r (.record result) :: rest
  · obtain ⟨r, result, rest, top⟩ := recorded
    have relay := relay_recorded top
    rw [announcement_eq s _ s.emitter.listeners] at relay
    have calls := Completion.delivery?_eq ⟨r.recorded result, s.ready, s.emitter.listeners⟩
      s.emitter rfl
    rw [completion_of_recorded top]
    unfold emission newlyTold
    rw [step_recorded top]
    dsimp only
    rw [relay]
    cases called : Completion.notice? ⟨r.recorded result, s.ready, s.emitter.listeners⟩ with
    | none => simp [calls, called]
    | some notice => simp [calls, called, Relay.announce, Storage.relay]
  · have unrecorded : ∀ r result rest, s.stack ≠ .pipeline r (.record result) :: rest :=
      fun r result rest top => recorded ⟨r, result, rest, top⟩
    rw [completion_of_unrecorded unrecorded]
    unfold emission
    cases next : s.step with
    | none => rfl
    | some s' => exact newlyTold_eq_nil ((turn_of_step next).relayed unrecorded).2

/-- A storage announces nothing by itself when a client makes a move. -/
theorem Storage.emissionOf_eq_nil (s : Storage) (a : Action) : s.emissionOf a = [] := by
  have moved := move_of_act s a
  unfold emissionOf
  split
  case h_1 => rfl
  case h_2 own =>
    refine newlyTold_eq_nil ?_
    generalize s.incidentsOf a = i at moved
    generalize s.act a = s' at moved
    cases moved with
    | announced notice => exact absurd rfl (own notice)
    | left top | collected top => simp [relay, top, Task.delivery?, List.filterMap_cons]
    | _ => simp [relay, Task.delivery?, List.filterMap_cons]

theorem Chronicle.IsOf.told_eq (chronicle : c.IsOf rule start) :
    c.told = c.done.filterMap Completion.delivery? := by
  induction chronicle with
  | start => rfl
  | @step c s' _ _ ih =>
    rw [Chronicle.next, List.filterMap_append, ← ih, c.storage.emission_eq]
  | @move c a _ _ _ ih =>
    rw [Chronicle.move, c.storage.emissionOf_eq_nil, List.append_nil]
    exact ih

end Told

section Settlements

attribute [local simp] Storage.recorded Storage.unsettled Task.recorded Task.unsettled
  History.settlements Incident.settlement? Request.queued Order.request List.filterMap_cons
  List.countP_cons

/-- A request is completed, and then the state moves on for it. -/
theorem Turn.recorded_eq (t : Turn s i s') :
    s.completion.map (·.request) ++ s.recorded = i.settlements ++ s'.recorded := by
  cases t with
  | @recorded r result rest top emitter announced =>
    cases announced <;> simp [Storage.completion, top]
  | @freed r idle rest top a => cases idle <;> simp [Storage.completion, top]
  | lost | cleared =>
    simp [Storage.completion, List.filterMap_map, Function.comp_def, *]
  | _ => simp [Storage.completion, *]

theorem Move.recorded_eq {a : Action} (m : Move s a i s') :
    s.recorded = i.settlements ++ s'.recorded := by
  cases m <;> simp [*]

/-- The requests that have been completed are those for which the state has moved on or is about to:
each as it was completed. -/
theorem Chronicle.IsOf.requests_perm (chronicle : c.IsOf rule start)
    (fresh : start.recorded = []) :
    (c.done.map (·.request)).Perm (c.history.settlements ++ c.storage.recorded) := by
  induction chronicle with
  | start => simp only [List.map_nil, fresh]; rfl
  | @step c s' _ next ih =>
    have moved := (turn_of_step next).recorded_eq
    have last (rs : List Request) : (c.history.settlements ++ c.storage.recorded ++ rs).Perm
        (c.history.settlements ++ (rs ++ c.storage.recorded)) := by
      rw [List.append_assoc]
      exact List.perm_append_comm.append_left _
    simp only [Chronicle.next]
    rw [History.settlements_append, List.append_assoc, ← moved, List.map_append]
    exact (ih.append_right _).trans (last _)
  | @move c a _ _ _ ih =>
    have moved := (move_of_act c.storage a).recorded_eq
    simp only [Chronicle.move]
    rw [History.settlements_append, List.append_assoc, ← moved]
    exact ih

/-- At most one request with a new number joins those for which the state has not moved on. -/
theorem Turn.unsettled (t : Turn s i s') (id : RequestId) :
    i.settlements.countP (·.id = id) + s'.unsettled.countP (·.id = id) ≤
      s.unsettled.countP (·.id = id) + if s.nextId ≤ id ∧ id < s'.nextId then 1 else 0 := by
  cases t with
  | queued | deferred | offered =>
    simp [*]
    grind
  | openingAdmitted top marked =>
    obtain rfl | ⟨e, rfl⟩ := marked <;> simp [top, Request.poison]
  | recorded top emitter announced =>
    cases announced <;> simp [top]
  | @freed r idle rest top a =>
    cases idle <;> simp [top]
  | settled top =>
    simp [top, List.countP_map, Function.comp_def]
    omega
  | finished top r' _ _ _ _ follows | dispatched top r' _ _ _ _ follows =>
    simp [top, follows.id]
  | lost | cleared =>
    simp [List.filterMap_map, Function.comp_def, *]
    omega
  | _ =>
    simp [*] <;> omega

theorem Move.unsettled {a : Action} (m : Move s a i s') (custody : s.Custody) (id : RequestId) :
    i.settlements.countP (·.id = id) + s'.unsettled.countP (·.id = id) ≤
      s.unsettled.countP (·.id = id) + if s.nextId ≤ id ∧ id < s'.nextId then 1 else 0 := by
  have outside := Storage.countP_outside_le custody.unique
  cases m with
  | made =>
    simp
    grind
  | edited =>
    simp [List.countP_map, Function.comp_def, apply_ite]
  | pushed found | pushAbandoned found | completed found | abandoned found | discarded _ found =>
    obtain ⟨before, after, split, taken, -⟩ := Storage.outside_eq_of_find? (outside _) found
    simp [split, taken, Request.fill]
    omega
  | shifted head =>
    simp [head]
    omega
  | _ =>
    simp [*]

end Settlements

theorem Storage.Custody.unsettled (custody : s.Custody) {id : RequestId} (later : s.nextId ≤ id) :
    s.unsettled.countP (·.id = id) = 0 := by
  rw [List.countP_eq_zero]
  intro r held
  have known : r ∈ s.requests := by
    simp only [Storage.unsettled, Storage.requests, List.mem_append, List.mem_flatMap] at held ⊢
    obtain waits | ⟨t, onStack, held⟩ := held
    · exact .inl waits
    · refine .inr ⟨t, onStack, ?_⟩
      cases t with
      | pipeline _ stage => cases stage <;> simp_all [Task.unsettled, Task.requests]
      | _ => simp_all [Task.unsettled, Task.requests]
  have given : r.id ≠ id := Nat.ne_of_lt (Nat.lt_of_lt_of_le (custody.id_lt known) later)
  simpa using given

/-- The state moves on for no request twice, and for none that it has moved on for it will again. -/
structure SettlesOnce (id : RequestId) (h : History) (s : Storage) : Prop where
  once : h.settlements.countP (·.id = id) + s.unsettled.countP (·.id = id) ≤ 1
  issued : s.nextId ≤ id → h.settlements.countP (·.id = id) = 0

theorem SettlesOnce.next {id : RequestId} (inv : SettlesOnce id h s) (custody : s.Custody)
    (later : s.nextId ≤ s'.nextId)
    (moved : i.settlements.countP (·.id = id) + s'.unsettled.countP (·.id = id) ≤
      s.unsettled.countP (·.id = id) + if s.nextId ≤ id ∧ id < s'.nextId then 1 else 0) :
    SettlesOnce id (h ++ i) s' := by
  have before := inv.once
  have joined : (h ++ i : History).settlements.countP (·.id = id) =
      h.settlements.countP (·.id = id) + i.settlements.countP (·.id = id) := by
    rw [History.settlements_append, List.countP_append]
  -- A number that has not been given can only be given now, and once; any other is not given again.
  by_cases new : s.nextId ≤ id
  · have none := inv.issued new
    rw [custody.unsettled new] at moved
    constructor
    · split at moved <;> omega
    · intro still
      rw [if_neg fun given => Nat.not_lt.mpr still given.2] at moved
      omega
  · rw [if_neg fun given => new given.1] at moved
    constructor
    · omega
    · exact fun still => absurd (Nat.le_trans later still) new

theorem Run.settlesOnce (custody : start.Custody) {id : RequestId}
    (initial : SettlesOnce id [] start) (run : Run rule start h s) : SettlesOnce id h s := by
  refine run.invariant initial ?_ ?_
  · intro h s i s' run inv t
    exact inv.next (run.custody custody) t.copies.1 (t.unsettled id)
  · intro h s a i s' run inv _ _ m
    have custody := run.custody custody
    exact inv.next custody (m.copies custody.unique).1 (m.unsettled custody id)

/-- What has been recorded counts as unsettled. -/
theorem Storage.recorded_sublist (s : Storage) : s.recorded.Sublist s.unsettled := by
  have part : s.recorded.Sublist (s.stack.flatMap (·.unsettled)) := by
    refine List.Sublist.flatMap_right _ fun t _ => ?_
    cases t with
    | pipeline r stage => cases stage <;> simp [Task.recorded, Task.unsettled]
    | _ => exact List.nil_sublist _
  exact part.trans (List.sublist_append_right _ _)

/-- No request is completed twice. -/
theorem Chronicle.IsOf.nodup (chronicle : c.IsOf rule start) (custody : start.Custody)
    (fresh : start.recorded = []) (initial : ∀ id, SettlesOnce id [] start) :
    (c.done.map (·.request.id)).Nodup := by
  -- What is completed counts once among the settlements and what is still to be settled.
  have same := (chronicle.requests_perm fresh).map (·.id)
  rw [List.map_map] at same
  refine same.nodup_iff.mpr (List.nodup_iff_count_le_one.mpr fun id => ?_)
  have once := (chronicle.run.settlesOnce custody (initial id)).once
  have recorded : c.storage.recorded.countP (·.id = id) ≤ c.storage.unsettled.countP (·.id = id) :=
    c.storage.recorded_sublist.countP_le
  have counted (rs : List Request) : (rs.map (·.id)).count id = rs.countP (·.id = id) := by
    rw [List.count_eq_countP, List.countP_map]
    exact List.countP_congr fun r _ => by simp
  rw [counted, List.countP_append]
  omega

/-- Once a request is completed in a storage that is destroyed, all others are too. -/
theorem Chronicle.IsOf.destroyed (chronicle : c.IsOf rule start) :
    (∀ e ∈ c.done, e.ready = .destroyed → c.storage.ready = .destroyed) ∧
      c.done.Pairwise fun e later => e.ready = .destroyed → later.ready = .destroyed := by
  induction chronicle with
  | start => exact ⟨by simp, .nil⟩
  | @step c s' _ next ih =>
    obtain ⟨known, ordered⟩ := ih
    have now : ∀ e ∈ c.storage.completion, e.ready = c.storage.ready := by
      unfold Storage.completion
      split <;> simp
    have after {p : Prop} (dead : p → c.storage.ready = .destroyed) : p → s'.ready = .destroyed :=
      fun so => (turn_of_step next).ready_of_destroyed (dead so)
    simp only [Chronicle.next, List.pairwise_append, List.forall_mem_append]
    refine ⟨⟨fun e old => after (known e old), fun e new => after fun dead => (now e new) ▸ dead⟩,
      ordered, ?_, fun e old later new dead => (now later new).trans (known e old dead)⟩
    unfold Storage.completion
    split <;> simp
  | @move c a _ _ _ ih =>
    have same := (move_of_act c.storage a).ready_eq
    exact ⟨fun e old dead => same.trans (ih.1 e old dead), ih.2⟩

theorem Storage.settlesOnce_create (capabilities : Capabilities) (limits : Limits)
    (allocator : Allocator) (id : RequestId) :
    SettlesOnce id [] (create capabilities limits allocator) := by
  constructor <;> simp [create, unsettled, History.settlements]

/-- **The events of a life mirror its completions.**  In whatever order clients call a storage, push
and take requests, complete and drop them and call again from inside their callbacks and listeners:
what the storage itself announces is, in order, what the requests that are completed call for.  An
opening, a closing or a destruction that succeeds calls for the event of its kind, one that fails
for a failure with its error, every other request for nothing, and nothing is called for once the
storage is destroyed.  Each of these announcements begins with all that wait for its event and have
life left when the request is completed, in the order of their registration, and with nobody else.
The requests that are completed are, each as it was completed, those for which the state has moved
on or is about to; none is completed twice, and once one is completed in a destroyed storage all
later ones are. -/
theorem Chronicle.IsOf.told_of_done {capabilities : Capabilities} {limits : Limits}
    {allocator : Allocator} (chronicle : c.IsOf rule (.create capabilities limits allocator)) :
    c.told.map (·.notice) = c.done.filterMap Completion.notice? ∧
      c.told = c.done.filterMap Completion.delivery? ∧
      (c.done.map (·.request)).Perm (c.history.settlements ++ c.storage.recorded) ∧
      (c.done.map (·.request.id)).Nodup ∧
      c.done.Pairwise fun e later => e.ready = .destroyed → later.ready = .destroyed := by
  have fresh : (Storage.create capabilities limits allocator).recorded = [] := rfl
  refine ⟨?_, chronicle.told_eq, chronicle.requests_perm fresh, ?_, chronicle.destroyed.2⟩
  · simp only [chronicle.told_eq, List.map_filterMap, Completion.map_notice_delivery?]
  · exact chronicle.nodup (Storage.custody_create ..) fresh fun id =>
      Storage.settlesOnce_create _ _ _ id

/-- An opening fails and another succeeds; while a destruction closes the device, an opening waits
behind it and is lost with the storage.  The closing is one event and the destruction another; for
the opening that was lost there is none.  Somebody listens to the closing alone. -/
theorem Chronicle.IsOf.told_of_done_lost :
    ∃ c : Chronicle, c.IsOf Rule.free (.create .readWrite) ∧
      c.done.map (fun e => (e.request.kind, e.ready, e.notice?)) =
        [(.opening, .unopened, some { event := .failed, error := some (.backend 5) }),
          (.opening, .unopened, some { event := .opened }),
          (.closing, .opened, some { event := .closed }),
          (.destroying, .closed, some { event := .destroyed }), (.opening, .destroyed, none)] ∧
      c.told.map (fun d => (d.notice, d.waiting.map (·.callback))) =
        [({ event := .failed, error := some (.backend 5) }, []), ({ event := .opened }, []),
          ({ event := .closed }, [6]), ({ event := .destroyed }, [])] ∧
      (c.done.map (·.request.id)).Nodup := by
  have fresh : Chronicle.IsOf Rule.free (.create .readWrite) _ := .start
  have run := fresh.play
    [(.listen .closed .forever 6, 9), (.collect, 9),
      (.call .opening none none, 9), (.leave, 9), (.collect, 9),
      (.complete 1 { result := .error (.backend 5) }, 19), (.collect, 9),
      (.call .opening none none, 9), (.leave, 9), (.collect, 9),
      (.complete 2 { result := .ok none }, 19), (.collect, 9),
      (.call .destroying none none, 9), (.leave, 9), (.collect, 9),
      (.call .opening none none, 9), (.collect, 9), (.complete 3 { result := .ok none }, 19),
      (.leave, 19), (.leave, 9), (.collect, 9), (.complete 4 { result := .ok none }, 29)]
    (by decide +kernel)
  obtain ⟨-, told, -, once, -⟩ := Chronicle.IsOf.told_of_done run
  refine ⟨_, run, by decide +kernel, ?_, once⟩
  rw [told]
  decide +kernel

end Chronicle

end StorageEngine
