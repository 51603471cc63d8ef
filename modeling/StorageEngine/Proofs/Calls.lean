import Mathlib.Data.List.Nodup
import Mathlib.Tactic.MkIffOfInductiveProp
import StorageEngine.Proofs.WakeUp

/-!
# Calls and what becomes of them

A call brings a callback and, in its shared form, an observer with a hook.  The history tells what a
call has *heard*: the invocations of its hook and of its callback, in order.  A call that was
accepted is to hear a complete telling (`Client.IsTold`): the hook first, if there is one, and then
the callback, once each, and both about the same outcome.  `Storage.codes_follow` says that the
history tells of exactly the client code that comes onto the stack.

A callback is consumed by the call that it was given to, and so is a hook.  `Rule.steadfast` says
so: every call brings a callback and a hook of its own.  It also keeps the storage held, and leaves
the queue to the storage.

`Standing` names how far a call has come.  While it is under way, exactly one order or request of
the storage owes it something: its `Duty`.
-/

namespace StorageEngine

/-- Who makes a call: a callback, and the observer of the shared form. -/
structure Client where
  code : Callback
  observer : Option Observer
  deriving DecidableEq

/-- Who makes a call. -/
def Action.client? : Action → Option Client
  | .call _ (some (.call code)) observer => some ⟨code, observer⟩
  | _ => none

namespace Incident

/-- The call that is made. -/
def client? : Incident → Option Client
  | .asked a => a.client?
  | _ => none

/-- What a client hears. -/
def heard? (client : Client) : Incident → Option Invocation
  | .invoked (.done code result) => if code = client.code then some (.done code result) else none
  | .invoked (.hook code outcome) =>
    if client.observer.any (·.code = code) then some (.hook code outcome) else none
  | _ => none

/-- The callback of a request that the device lets go of. -/
def dropped? : Incident → Option Callback
  | .abandoned r =>
    match r.receiver with
    | some (.call code) => some code
    | _ => none
  | _ => none

end Incident

namespace History

/-- Who has made calls so far. -/
def clients (h : History) : List Client :=
  h.filterMap Incident.client?

/-- What a client has heard, in order. -/
def heard (h : History) (client : Client) : List Invocation :=
  h.filterMap (Incident.heard? client)

/-- The callbacks of the requests that the device has let go of. -/
def dropped (h : History) : List Callback :=
  h.filterMap Incident.dropped?

/-- No earlier call had this callback or this hook. -/
@[mk_iff]
structure IsNew (h : History) (client : Client) : Prop where
  callback : ∀ earlier ∈ h.clients, earlier.code ≠ client.code
  hook : ∀ earlier ∈ h.clients, ∀ o' ∈ earlier.observer, ∀ o ∈ client.observer, o'.code ≠ o.code

section Append

variable (h i : History)

@[simp] theorem clients_append : clients (h ++ i) = h.clients ++ i.clients :=
  List.filterMap_append

@[simp] theorem heard_append (client : Client) :
    heard (h ++ i) client = h.heard client ++ i.heard client :=
  List.filterMap_append

@[simp] theorem dropped_append : dropped (h ++ i) = h.dropped ++ i.dropped :=
  List.filterMap_append

end Append

theorem heard_hook (c : Client) (code : Callback) (outcome : Outcome) :
    heard [.invoked (.hook code outcome)] c =
      if c.observer.any (·.code = code) then [.hook code outcome] else [] := by
  unfold heard
  rw [List.filterMap_cons, List.filterMap_nil]
  cases hears : c.observer.any (·.code = code) <;> simp [Incident.heard?, hears]

theorem heard_done (c : Client) (code : Callback) (result : Except Error Payload) :
    heard [.invoked (.done code result)] c = if code = c.code then [.done code result] else [] := by
  unfold heard
  rw [List.filterMap_cons, List.filterMap_nil]
  by_cases hears : code = c.code <;> simp [Incident.heard?, hears]

end History

/-- The client code that gets control. -/
def Incident.invoked? : Incident → Option Invocation
  | .invoked code => some code
  | _ => none

/-- The client code that got control, in order. -/
def History.invoked (h : History) : List Invocation :=
  h.filterMap Incident.invoked?

section Codes

attribute [local simp] Storage.codes Task.code? History.invoked Incident.invoked?
  List.filterMap_cons

/-- A step calls the client code that its history names, and no other. -/
theorem Turn.codes {s s' : Storage} {i : History} (t : Turn s i s') :
    s'.codes = i.invoked.reverse ++ s.codes := by
  cases t with
  | recorded top emitter announced =>
    cases announced <;> simp [top]
  | @freed r idle rest top a =>
    cases idle <;> simp [top]
  | lost | cleared => simp [*, List.filterMap_map, Function.comp_def]
  | _ => simp [*]

/-- So does a move, unless it gives control back. -/
theorem Move.codes {s s' : Storage} {a : Action} {i : History} (m : Move s a i s')
    (stays : a ≠ .leave) : s'.codes = i.invoked.reverse ++ s.codes := by
  cases m with
  | left => exact absurd rfl stays
  | _ => simp [*]

/-- **The history tells who is called.**  Every step and every move calls exactly the client code
that it puts on the stack.  Only leaving takes client code off the stack, and only what is on
top. -/
theorem Storage.codes_follow (s : Storage) :
    (∀ s', s.step = some s' → s'.codes = s.incidents.invoked.reverse ++ s.codes) ∧
      (∀ a, a ≠ .leave → (s.act a).codes = (s.incidentsOf a).invoked.reverse ++ s.codes) ∧
      ∃ left, s.codes = left ++ (s.act .leave).codes ∧ left.length ≤ 1 := by
  refine ⟨fun s' next => (turn_of_step next).codes,
    fun a stays => (move_of_act s a).codes stays, ?_⟩
  cases top : s.stack with
  | nil => exact ⟨[], by simp [act, leave, top], by simp⟩
  | cons task rest =>
    cases task with
    | client code => exact ⟨[code], by simp [act, leave, top], by simp⟩
    | _ => exact ⟨[], by simp [act, leave, top], by simp⟩

end Codes

/-- The storage stays held, nobody takes anything out of the queue or pushes what is inside the
device, and every call brings a callback and a hook of its own. -/
def Rule.steadfast : Rule :=
  fun h s a => Rule.orderly h s a ∧ a ≠ .shift ∧ a ≠ .disown ∧
    ∀ op receiver observer, a = .call op receiver observer →
      ∃ code, receiver = some (.call code) ∧ h.IsNew ⟨code, observer⟩

theorem Action.eq_of_client? {a : Action} {c : Client} (client : a.client? = some c) :
    ∃ op, a = .call op (some (.call c.code)) c.observer := by
  unfold client? at client
  split at client
  case h_1 op code observer =>
    obtain rfl := Option.some.inj client
    exact ⟨op, rfl⟩
  case h_2 => simp at client

theorem Action.client?_eq_none {a : Action}
    (noCall : ∀ op receiver observer, a ≠ .call op receiver observer) : a.client? = none := by
  cases a <;> first | rfl | exact absurd rfl (noCall _ _ _)

theorem Rule.steadfast.isNew {h : History} {s : Storage} {a : Action}
    (steadfast : Rule.steadfast h s a) {c : Client} (client : a.client? = some c) : h.IsNew c := by
  obtain ⟨op, rfl⟩ := Action.eq_of_client? client
  obtain ⟨code, same, new⟩ := steadfast.2.2.2 _ _ _ rfl
  obtain rfl := Receiver.call.inj (Option.some.inj same)
  exact new

/-- No two calls share a callback or a hook. -/
structure History.IsDistinct (h : History) : Prop where
  codes : (h.clients.map (·.code)).Nodup
  hooks : ∀ c ∈ h.clients, ∀ c' ∈ h.clients, ∀ o ∈ c.observer, ∀ o' ∈ c'.observer,
    o.code = o'.code → c = c'

theorem History.IsNew.of_append {h i : History} {c : Client} (new : (h ++ i).IsNew c) :
    h.IsNew c where
  callback earlier mem := new.callback earlier (by simp [mem])
  hook earlier mem := new.hook earlier (by simp [mem])

theorem History.IsDistinct.eq_of_code {h : History} (distinct : h.IsDistinct) {c c' : Client}
    (mem : c ∈ h.clients) (mem' : c' ∈ h.clients) (same : c.code = c'.code) : c = c' :=
  List.inj_on_of_nodup_map distinct.codes mem mem' same

section Distinct

variable {h i : History} {s s' : Storage} {a : Action}

theorem Turn.clients_eq_nil (t : Turn s i s') : i.clients = [] := by
  cases t with
  | lost | cleared =>
    simp [History.clients, List.filterMap_map, Function.comp_def, Incident.client?]
  | _ => rfl

theorem Move.clients (m : Move s a i s') :
    i.clients = [] ∨ ∃ c, a.client? = some c ∧ i.clients = [c] := by
  have asked (i : History) (silent : i.clients = []) :
      History.clients (.asked a :: i) = [] ∨
        ∃ c, a.client? = some c ∧ History.clients (.asked a :: i) = [c] := by
    unfold History.clients at *
    cases client : a.client? with
    | none => simp [Incident.client?, client, silent]
    | some c => simp [Incident.client?, client, silent]
  cases m with
  | left | collected | idle => exact .inl rfl
  | _ => exact asked _ rfl

theorem History.IsDistinct.append (distinct : h.IsDistinct) (clients : i.clients = []) :
    (h ++ i).IsDistinct := by
  constructor <;> rw [History.clients_append, clients, List.append_nil]
  · exact distinct.codes
  · exact distinct.hooks

theorem History.IsDistinct.call (distinct : h.IsDistinct) {c : Client} (new : h.IsNew c)
    (clients : i.clients = [c]) : (h ++ i).IsDistinct := by
  constructor <;> rw [History.clients_append, clients]
  · rw [List.map_append, List.nodup_append]
    refine ⟨distinct.codes, by simp, ?_⟩
    simpa using fun d mem => new.callback d mem
  · intro d mem d' mem' o ho o' ho' same
    rcases List.mem_append.mp mem with old | now <;> rcases List.mem_append.mp mem' with old' | now'
    · exact distinct.hooks d old d' old' o ho o' ho' same
    · obtain rfl := List.mem_singleton.mp now'
      exact absurd same (new.hook d old o ho o' ho')
    · obtain rfl := List.mem_singleton.mp now
      exact absurd same.symm (new.hook d' old' o' ho' o ho)
    · rw [List.mem_singleton.mp now, List.mem_singleton.mp now']

theorem Run.distinct {start s : Storage} (run : Run Rule.steadfast start h s) :
    h.IsDistinct := by
  refine run.invariant (motive := fun h _ => h.IsDistinct) ⟨.nil, nofun⟩ ?_ ?_
  · intro h s i s' _ distinct t
    exact distinct.append t.clients_eq_nil
  · intro h s a i s' _ distinct _ steadfast m
    obtain clients | ⟨c, client, clients⟩ := m.clients
    · exact distinct.append clients
    · exact distinct.call (steadfast.isNew client) clients

end Distinct

theorem Run.owned {start s : Storage} {h : History} (initial : start.owned = true)
    (run : Run Rule.steadfast start h s) : s.owned = true := by
  refine run.invariant (motive := fun _ s => s.owned = true) initial ?_ ?_
  · intro h s i s' _ inv t
    exact t.owned_eq.trans inv
  · intro h s a i s' _ inv _ steadfast m
    exact (m.owned_eq steadfast.2.2.1).trans inv

/-- An observer and a caller are told the same: success, with the same bytes if there are any, or
the same error. -/
def Outcome.Agrees (outcome : Outcome) : Except Error Payload → Prop
  | .error e => outcome.error = some e ∧ outcome.value = none
  | .ok (.bytes b) => outcome.error = none ∧ outcome.value = some b
  | .ok _ => outcome.error = none ∧ outcome.value = none

/-- What the hook of a client hears before its callback hears a result. -/
def Client.IsHeralded (client : Client) (result : Except Error Payload) (l : List Invocation) :
    Prop :=
  match client.observer with
  | none => l = []
  | some o =>
    ∃ outcome, l = [.hook o.code outcome] ∧ outcome.shared = o.shared ∧ outcome.Agrees result

/-- A client hears a complete telling: its hook, if there is one, and then its callback. -/
def Client.IsTold (client : Client) (result : Except Error Payload) (l : List Invocation) : Prop :=
  ∃ heralds, client.IsHeralded result heralds ∧ l = heralds ++ [.done client.code result]

/-- How far a call has come. -/
inductive Standing
  /-- Its request has not been admitted. -/
  | asking
  /-- It was refused. -/
  | refused
  /-- It was accepted, and its request is not finished. -/
  | waiting
  /-- Its request has succeeded or failed. -/
  | finished (error : Option Error)
  /-- Its observer has heard; its caller has not. -/
  | heralded (result : Except Error Payload)
  /-- Its caller has heard. -/
  | told (result : Except Error Payload)
  deriving DecidableEq

/-- What an order or a request owes. -/
structure Duty where
  client : Client
  standing : Standing
  deriving DecidableEq

namespace Standing

/-- What is owed to a client.  Once the observer has heard, it is owed nothing more. -/
def duties (client : Client) : Standing → List Duty
  | .refused | .told _ => []
  | .heralded result => [⟨⟨client.code, none⟩, .heralded result⟩]
  | standing => [⟨client, standing⟩]

/-- What a client has heard so far. -/
def Heard (client : Client) : Standing → List Invocation → Prop
  | .heralded result, l => client.IsHeralded result l
  | .told result, l => client.IsTold result l
  | _, l => l = []

/-- The answer that a call has got, or will get. -/
def Answered : Standing → Reply → Prop
  | .asking, _ => False
  | .refused, reply => ∃ e, reply = .done (.error e)
  | _, reply => reply = .done (.ok ())

/-- What becomes of a request that the device lets go of. -/
def Forsaken : Standing → Prop
  | .finished error => error = some .abandoned
  | .heralded result | .told result => result = .error .abandoned
  | _ => False

end Standing

/-- Whoever has heard nothing can still hear that the device has let go. -/
theorem Client.exists_isTold (c : Client) (e : Error) :
    ∃ telling, c.IsTold (.error e) telling := by
  cases observer : c.observer with
  | none => exact ⟨_, [], by simp [IsHeralded, observer], rfl⟩
  | some o =>
    let outcome : Outcome :=
      { id := 0, kind := .nothing, error := some e, value := none, size := 0, shared := o.shared }
    refine ⟨_, [.hook o.code outcome], ?_, rfl⟩
    simp only [IsHeralded, observer]
    exact ⟨outcome, rfl, rfl, rfl, rfl⟩

/-- A call that was refused has heard nothing.  One that was accepted has heard the beginning of a
complete telling, and all of it if it is owed nothing more. -/
theorem Standing.told_or_refused {standing : Standing} {client : Client} {reply : Reply}
    {l : List Invocation} (answered : standing.Answered reply) (heard : standing.Heard client l) :
    (∃ e, reply = .done (.error e) ∧ l = []) ∨
    (reply = .done (.ok ()) ∧ ∃ result telling, client.IsTold result telling ∧ l <+: telling ∧
      (standing.Forsaken → result = .error .abandoned) ∧
      (standing.duties client = [] → l = telling)) := by
  cases standing with
  | asking => exact absurd answered id
  | refused =>
    obtain ⟨e, refusal⟩ := answered
    exact .inl ⟨e, refusal, heard⟩
  | waiting | finished error =>
    obtain rfl : l = [] := heard
    obtain ⟨telling, told⟩ := client.exists_isTold .abandoned
    refine .inr ⟨answered, .error .abandoned, telling, told, List.nil_prefix, fun _ => rfl, ?_⟩
    exact fun paid => absurd paid (List.cons_ne_nil _ _)
  | heralded result =>
    refine .inr ⟨answered, result, _, ⟨l, heard, rfl⟩, List.prefix_append _ _, id, ?_⟩
    exact fun paid => absurd paid (List.cons_ne_nil _ _)
  | told result =>
    exact .inr ⟨answered, result, l, heard, List.prefix_rfl, id, fun _ => rfl⟩

end StorageEngine
