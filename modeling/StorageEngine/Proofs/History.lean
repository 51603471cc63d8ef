import Mathlib.Data.List.Count
import StorageEngine.Storage.Action

/-!
# Runs and their histories

A run of a storage is any interleaving of its own steps with moves of its clients, made whenever it
is their turn: from outside, or from inside a callback, an observer, a listener or a handler of the
device.  A `Rule` says which moves a client may make; what a client does is otherwise arbitrary.

A run leaves a history, the list of its `Incident`s.  `Storage.incidents` reads off a state what its
next step brings about and `Storage.incidentsOf` what a move brings about, so that the main
statements can speak about the order of things:

* which requests were admitted, and in which order they left the queue or began;
* which requests have begun and have not settled (`History.inside`);
* which client code was called, with what, read off the stack (`Storage.newcomers`);
* which moves have been answered, and how (`History.exchange`): moves nest, so an answer belongs to
  the innermost move that has none.
-/

namespace StorageEngine

/-- What never changes about a request. -/
structure Tag where
  id : RequestId
  kind : Kind
  deriving DecidableEq, Inhabited

/-- The number and the kind of a request. -/
def Request.tag (r : Request) : Tag where
  id := r.id
  kind := r.kind

/-- Something that happens in a run. -/
inductive Incident
  /-- A client makes a move that will be answered. -/
  | asked (a : Action)
  /-- A client takes the answer of its innermost move without one. -/
  | answered (reply : Reply)
  /-- A request is accepted: it joins the queue, or is handed over at once. -/
  | admitted (r : Request)
  /-- A request is handed over to be run. -/
  | begun (r : Request)
  /-- A client takes a request out of the queue. -/
  | shifted (r : Request)
  /-- The end of a destruction takes a request out of the queue. -/
  | cleared (r : Request)
  /-- A queued request goes with the storage that nobody holds any more. -/
  | lost (r : Request)
  /-- The state moves on for a finished request. -/
  | settled (r : Request) (dispatched : Bool)
  /-- The device lets go of a request that it has not finished. -/
  | abandoned (r : Request)
  /-- Client code gets control. -/
  | invoked (code : Invocation)
  deriving DecidableEq

/-- What has happened, oldest first. -/
abbrev History := List Incident

namespace Incident

/-- The request that an incident admits. -/
def admitted? : Incident → Option Tag
  | .admitted r => some r.tag
  | _ => none

/-- The request that an incident takes from those admitted and still waiting. -/
def departed? : Incident → Option Tag
  | .begun r | .shifted r | .cleared r | .lost r => some r.tag
  | _ => none

/-- The request that an incident hands over to be run. -/
def begun? : Incident → Option Tag
  | .begun r => some r.tag
  | _ => none

/-- The request that leaves the device in an incident. -/
def settled? : Incident → Option Tag
  | .settled r true => some r.tag
  | _ => none

/-- The request that a client takes out of the queue. -/
def shifted? : Incident → Option Tag
  | .shifted r => some r.tag
  | _ => none

/-- The request that goes with its storage. -/
def lost? : Incident → Option Tag
  | .lost r => some r.tag
  | _ => none

/-- The request that reaches a handler of the device. -/
def handled? : Incident → Option RequestId
  | .invoked (.handler _ id) => some id
  | _ => none

end Incident

/-- The moves of a history with their answers. -/
structure Exchange where
  /-- Moves without an answer, innermost first. -/
  waiting : List Action := []
  /-- Moves with their answers, in the order of the answers. -/
  ended : List (Action × Reply) := []
  deriving DecidableEq

/-- Moves nest: an answer ends the innermost move that waits for one. -/
def Exchange.record (x : Exchange) : Incident → Exchange
  | .asked a => { x with waiting := a :: x.waiting }
  | .answered reply =>
    match x.waiting with
    | a :: outer => { waiting := outer, ended := x.ended ++ [(a, reply)] }
    | [] => x
  | _ => x

namespace History

/-- The moves that were made, with the answers that were taken. -/
def exchange (h : History) : Exchange :=
  h.foldl Exchange.record {}

/-- The requests that were admitted, in order. -/
def admitted (h : History) : List Tag :=
  h.filterMap Incident.admitted?

/-- The requests that began or were taken out of the queue, in order. -/
def departed (h : History) : List Tag :=
  h.filterMap Incident.departed?

/-- The requests that began, in order. -/
def begun (h : History) : List Tag :=
  h.filterMap Incident.begun?

/-- The requests that settled after they had begun, in order. -/
def settled (h : History) : List Tag :=
  h.filterMap Incident.settled?

/-- The requests that clients took out of the queue. -/
def shifted (h : History) : List Tag :=
  h.filterMap Incident.shifted?

/-- The requests that went with their storage. -/
def lost (h : History) : List Tag :=
  h.filterMap Incident.lost?

/-- The requests that reached a handler, in order. -/
def handled (h : History) : List RequestId :=
  h.filterMap Incident.handled?

/-- The requests that have begun and have not settled. -/
def inside (h : History) : List Tag :=
  h.begun.diff h.settled

section Append

variable (h i : History)

@[simp] theorem exchange_append : exchange (h ++ i) = i.foldl Exchange.record h.exchange :=
  List.foldl_append

@[simp] theorem admitted_append : admitted (h ++ i) = h.admitted ++ i.admitted :=
  List.filterMap_append

@[simp] theorem departed_append : departed (h ++ i) = h.departed ++ i.departed :=
  List.filterMap_append

@[simp] theorem begun_append : begun (h ++ i) = h.begun ++ i.begun :=
  List.filterMap_append

@[simp] theorem settled_append : settled (h ++ i) = h.settled ++ i.settled :=
  List.filterMap_append

@[simp] theorem shifted_append : shifted (h ++ i) = h.shifted ++ i.shifted :=
  List.filterMap_append

@[simp] theorem lost_append : lost (h ++ i) = h.lost ++ i.lost :=
  List.filterMap_append

@[simp] theorem handled_append : handled (h ++ i) = h.handled ++ i.handled :=
  List.filterMap_append

end Append

end History

/-- The client code that a task names. -/
def Task.code? : Task → Option Invocation
  | .client code => some code
  | _ => none

namespace Storage

/-- The client code that has control and has not given it back, innermost first. -/
def codes (s : Storage) : List Invocation :=
  s.stack.filterMap Task.code?

/-- The client code that has control in `s'` and has not in `s`, which it comes of. -/
def newcomers (s s' : Storage) : History :=
  (s'.codes.take (s'.codes.length - s.codes.length)).map .invoked

/-- Whoever is on top of those that had control before has just been called. -/
theorem newcomers_of_called {s s' : Storage} {code : Invocation}
    (called : s'.codes = code :: s.codes) : s.newcomers s' = [.invoked code] := by
  simp [newcomers, called]

theorem newcomers_of_same {s s' : Storage} (same : s'.codes = s.codes) : s.newcomers s' = [] := by
  simp [newcomers, same]

/-- What an attempt to queue a request brings about. -/
def admission (s : Storage) (r : Request) : History :=
  match s.enqueue r with
  | .ok _ => [.admitted r]
  | .error _ => []

/-- What the submission of an order brings about: a barrier is admitted on the spot. -/
def submission (s : Storage) (o : Order) : History :=
  if s.isDestroyed then []
  else if o.kind.isData && !s.capabilities.supports o.kind then []
  else
    match s.make o with
    | (none, _) => []
    | (some r, s) => if o.kind.isBarrier then s.admission r else []

/-- What a stage of the completion pipeline brings about. -/
def progress (s : Storage) (r : Request) : Stage → History
  | .settle dispatched => [.settled r dispatched]
  | .observe idle => s.newcomers (s.observe r idle)
  | .conclude idle => s.newcomers (s.conclude r idle)
  | .release _ =>
    if r.kind = .destroying ∧ r.error = none ∧ s.isDestroyed then s.queue.map .cleared else []
  | .record _ | .free _ => []

/-- What doing a task that was just taken from the stack brings about. -/
def performance (s : Storage) : Task → History
  | .submit order => s.submission order
  | .enter r => if s.barrier ∨ s.queue ≠ [] then s.admission r else [.admitted r, .begun r]
  | .drainNext =>
    match s.startable? with
    | some (r, _) => [.begun r]
    | none => []
  | .run r => s.newcomers (s.run r)
  | .pipeline r stage => s.progress r stage
  | .deliver d => s.newcomers (s.deliver d)
  | _ => []

/-- What the next step brings about. -/
def incidents (s : Storage) : History :=
  match s.stack with
  | [] => s.queue.map .lost
  | task :: rest => { s with stack := rest }.performance task

/-- The code that a call calls back at once: an opening of a storage that is settled open. -/
def answeredAtOnce (s : Storage) (op : Operation) (receiver : Option Receiver)
    (observer : Option Observer) : History :=
  s.newcomers (s.call op receiver observer)

/-- What pushing a request that is outside brings about.  A refused request is let go of. -/
def pushing (s : Storage) (id : RequestId) : History :=
  match s.find? id with
  | none => []
  | some r =>
    match (s.take id).enqueue r with
    | .ok _ => [.admitted r]
    | .error _ => if r.phase = .running then [.abandoned r] else []

/-- What dropping a request that is outside brings about. -/
def dropping (s : Storage) (id : RequestId) : History :=
  match s.find? id with
  | none => []
  | some r => if s.isAlive ∧ r.phase = .running then [.abandoned r] else []

/-- What a move brings about. -/
def incidentsOf (s : Storage) (a : Action) : History :=
  match a with
  | .leave => []
  | .collect =>
    match s.stack with
    | .answer reply :: _ => [.answered reply]
    | _ => []
  | .call op receiver observer => .asked a :: s.answeredAtOnce op receiver observer
  | .push id => .asked a :: s.pushing id
  | .shift => .asked a :: (s.queue.head?.map Incident.shifted).toList
  | .abandon id => .asked a :: s.dropping id
  | _ => [.asked a]

end Storage

/-- Which moves clients may make, after what has happened and in which state. -/
abbrev Rule := History → Storage → Action → Prop

namespace Rule

/-- Anything goes. -/
def free : Rule :=
  fun _ _ _ => True

/-- No request that is inside the device is pushed, and somebody holds the storage: nobody can call
one that is gone. -/
def orderly : Rule :=
  fun _ s a => s.isAlive ∧ ∀ id r, a = .push id → s.find? id = some r → r.phase ≠ .running

/-- On top of that, no request is taken out of the queue, and only what is inside the device is
finished. -/
def regular : Rule :=
  fun h s a => orderly h s a ∧ a ≠ .shift ∧
    ∀ id v r, a = .complete id v → s.find? id = some r → r.phase = .running

end Rule

/-- Whether a move leaves what is inside the device out of the queue. -/
def Action.spares (s : Storage) : Action → Bool
  | .push id => (s.find? id).all (·.phase ≠ .running)
  | _ => true

theorem Rule.orderly_iff {h : History} {s : Storage} {a : Action} :
    Rule.orderly h s a ↔ s.isAlive ∧ a.spares s := by
  refine and_congr_right fun _ => ?_
  cases a with
  | push id =>
    simp only [Action.spares, Option.all_eq_true, decide_eq_true_eq]
    exact ⟨fun spared r found => spared id r rfl found,
      fun spared _ r same found => spared r (by cases same; exact found)⟩
  | _ => simp [Action.spares]

instance (h : History) (s : Storage) (a : Action) : Decidable (Rule.orderly h s a) :=
  decidable_of_iff _ Rule.orderly_iff.symm

/-- What is inside the device may be finished. -/
theorem Rule.regular_complete {h : History} {s : Storage} {id : RequestId} {v : Verdict}
    (alive : s.isAlive) (inside : (s.find? id).all (·.phase = .running)) :
    Rule.regular h s (.complete id v) := by
  refine ⟨⟨alive, by simp⟩, by simp, ?_⟩
  rintro _ _ r ⟨⟩ found
  simpa [found] using inside

/-- The runs of a storage under a rule, with their histories. -/
inductive Run (rule : Rule) (start : Storage) : History → Storage → Prop
  | start : Run rule start [] start
  | step {h : History} {s s' : Storage} (run : Run rule start h s) (next : s.step = some s') :
      Run rule start (h ++ s.incidents) s'
  | move {h : History} {s : Storage} (a : Action) (run : Run rule start h s)
      (turn : s.isAtRest) (allowed : rule h s a) :
      Run rule start (h ++ s.incidentsOf a) (s.act a)

/-- A run under a strict rule is a run under a laxer one. -/
theorem Run.mono {rule rule' : Rule} {start : Storage} (weaker : ∀ h s a, rule h s a → rule' h s a)
    {h : History} {s : Storage} (run : Run rule start h s) : Run rule' start h s := by
  induction run with
  | start => exact .start
  | step _ next ih => exact .step ih next
  | move a _ turn allowed ih => exact .move a ih turn (weaker _ _ _ allowed)

/-- A storage with what has happened to it goes on by its own steps, at most so many, until it is
the client's turn. -/
def Storage.goOn (x : History × Storage) : Nat → History × Storage
  | 0 => x
  | n + 1 =>
    match x.2.step with
    | none => x
    | some s' => Storage.goOn (x.1 ++ x.2.incidents, s') n

/-- Clients make these moves, one after the other; the storage goes on after each by at most so many
steps. -/
def Storage.play (x : History × Storage) : List (Action × Nat) → History × Storage
  | [] => x
  | (a, n) :: moves => Storage.play (Storage.goOn (x.1 ++ x.2.incidentsOf a, x.2.act a) n) moves

/-- It is the clients' turn for each of these moves, and the rule allows it. -/
def Storage.Permits (rule : Rule) (x : History × Storage) : List (Action × Nat) → Prop
  | [] => True
  | (a, n) :: moves =>
    (x.2.isAtRest ∧ rule x.1 x.2 a) ∧
      Storage.Permits rule (Storage.goOn (x.1 ++ x.2.incidentsOf a, x.2.act a) n) moves

instance Storage.decidablePermits (rule : Rule) [∀ h s a, Decidable (rule h s a)]
    (x : History × Storage) :
    (moves : List (Action × Nat)) → Decidable (Storage.Permits rule x moves)
  | [] => inferInstanceAs (Decidable True)
  | (a, n) :: moves =>
    have := decidablePermits rule (Storage.goOn (x.1 ++ x.2.incidentsOf a, x.2.act a) n) moves
    inferInstanceAs (Decidable ((x.2.isAtRest ∧ rule x.1 x.2 a) ∧ Storage.Permits rule _ moves))

/-- A run goes on by the steps of its storage. -/
theorem Run.goOn {rule : Rule} {start : Storage} {h : History} {s : Storage}
    (run : Run rule start h s) (n : Nat) :
    Run rule start (Storage.goOn (h, s) n).1 (Storage.goOn (h, s) n).2 := by
  induction n generalizing h s with
  | zero => exact run
  | succ n ih =>
    unfold Storage.goOn
    split
    case h_1 => exact run
    case h_2 s' next => exact ih (run.step next)

/-- A run goes on by moves that are permitted. -/
theorem Run.play {rule : Rule} {start : Storage} {h : History} {s : Storage}
    (run : Run rule start h s) (moves : List (Action × Nat))
    (permitted : Storage.Permits rule (h, s) moves) :
    Run rule start (Storage.play (h, s) moves).1 (Storage.play (h, s) moves).2 := by
  induction moves generalizing h s with
  | nil => exact run
  | cons move moves ih =>
    obtain ⟨⟨turn, allowed⟩, others⟩ := permitted
    exact ih ((run.move move.1 turn allowed).goOn move.2) others

end StorageEngine
