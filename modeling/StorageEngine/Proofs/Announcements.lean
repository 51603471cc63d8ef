import Mathlib.Data.List.Basic
import Mathlib.Data.List.Induction
import StorageEngine.Emitter

/-!
# What an announcement does, whatever its listeners do

A listener may do anything to the table that it stands in while it is called: register others,
withdraw itself or others, announce again.  What happens to an emitter is therefore told as a flat
list of deeds, each with the number of announcements that were under way before it (`Relay.Course`);
whatever is done from inside an announcement has a greater depth than the announcement itself.

However the deeds inside it are nested, an announcement calls exactly the listeners that heard its
event when it began, in the order of their registration, and what is left in the table after it is
told by the deeds alone (`Relay.Course.announcement`):

* `Listener.after` — a listener stays until a deed withdraws it or its life is spent;
* `Relay.Course.live` — so the table holds who was there and who has joined, each after the deeds
  that came later;
* `Relay.Course.framed` — the snapshot is called from the front, and all the deeds inside leave it
  alone.
-/

namespace StorageEngine

/-- The life that is left after so many calls. -/
def Ttl.left : Ttl → Nat → Ttl
  | .forever, _ => .forever
  | .times n, k => .times (n - k)

/-- Whom a withdrawal is about. -/
inductive Withdrawal
  | byNumber (id : ListenerId)
  | byCallback (code : Callback)
  | byEvent (event : Event)
  | everyone
  deriving DecidableEq

namespace Withdrawal

/-- The withdrawal is about this listener. -/
def hits : Withdrawal → Listener → Bool
  | .byNumber id, l => l.id = id
  | .byCallback code, l => l.callback = code
  | .byEvent event, l => l.event = event
  | .everyone, _ => true

/-- The table after a withdrawal. -/
def apply (e : Emitter) : Withdrawal → Emitter
  | .byNumber id => e.off id
  | .byCallback code => e.offCallback code
  | .byEvent event => e.offEvent event
  | .everyone => e.clear

end Withdrawal

namespace Relay

/-- Something that happens to an emitter. -/
inductive Deed
  /-- A listener is registered. -/
  | joined (l : Listener)
  /-- A registration is refused. -/
  | refused
  | withdrawn (w : Withdrawal)
  /-- An announcement begins. -/
  | announced (notice : Notice)
  /-- The innermost announcement calls a listener. -/
  | called (l : Listener) (notice : Notice)
  /-- The innermost announcement ends, after so many calls. -/
  | ended (calls : Nat)
  deriving DecidableEq

/-- A deed, and how many announcements were under way before it. -/
structure Entry where
  depth : Nat
  deed : Deed
  deriving DecidableEq

/-- What can be done to an emitter.  An announcement ends when nobody is left to be called. -/
inductive Step : Relay → Deed → Relay → Prop
  | register {r : Relay} {event : Event} {ttl : Ttl} {callback : Callback} {id : ListenerId}
      {e : Emitter} (registered : r.emitter.register event ttl callback = .ok (id, e)) :
      Step r (.joined { id, event, ttl, callback }) { r with emitter := e }
  | refuse {r : Relay} {event : Event} {ttl : Ttl} {callback : Callback} {e : Error}
      (refused : r.emitter.register event ttl callback = .error e) : Step r .refused r
  | withdraw {r : Relay} (w : Withdrawal) :
      Step r (.withdrawn w) { r with emitter := w.apply r.emitter }
  | announce {r : Relay} (notice : Notice) : Step r (.announced notice) (r.announce notice)
  | call {r r' : Relay} {l : Listener} {notice : Notice} (next : r.next? = some (l, notice, r')) :
      Step r (.called l notice) r'
  | finish {r : Relay} (under : r.deliveries ≠ []) (drained : r.next? = none) :
      Step r (.ended r.finish.1) r.finish.2

/-- What has happened to an emitter, oldest first. -/
inductive Course (start : Relay) : List Entry → Relay → Prop
  | start : Course start [] start
  | step {log : List Entry} {r r' : Relay} {deed : Deed} (course : Course start log r)
      (next : Step r deed r') : Course start (log ++ [⟨r.deliveries.length, deed⟩]) r'

namespace Deed

/-- The listener that a deed brings in. -/
def joins : Deed → List Listener
  | .joined l => [l]
  | _ => []

/-- A deed withdraws this listener. -/
def removes : Deed → Listener → Bool
  | .withdrawn w, l => w.hits l
  | _, _ => false

/-- A deed takes a call from the life of those who wait for this event. -/
def announces : Deed → Event → Bool
  | .announced notice, event => notice.event = event
  | _, _ => false

end Deed

/-- The listener that an announcement at this depth calls, and what it is told. -/
def Entry.call? (depth : Nat) (entry : Entry) : Option (Listener × Notice) :=
  match entry.deed with
  | .called l notice => if entry.depth = depth then some (l, notice) else none
  | _ => none

end Relay

open Relay

namespace Listener

/-- What is left of a listener after these deeds: nothing if it was withdrawn or its life is
spent. -/
def after (l : Listener) (log : List Entry) : Option Listener :=
  let left := { l with ttl := l.ttl.left (log.countP (·.deed.announces l.event)) }
  if log.any (·.deed.removes l) || left.ttl.isSpent then none else some left

/-- What is left of a listener that has life left after one more deed. -/
def undergo (l : Listener) (deed : Deed) : Option Listener :=
  let left := { l with ttl := l.ttl.left (if deed.announces l.event then 1 else 0) }
  if deed.removes l || left.ttl.isSpent then none else some left

end Listener

namespace Relay

/-- Those who have joined, as they are after the deeds that came later. -/
def newcomers : List Entry → List Listener
  | [] => []
  | entry :: log => entry.deed.joins.filterMap (·.after log) ++ newcomers log

end Relay

/-- The listeners that have life left. -/
def Emitter.live (e : Emitter) : List Listener :=
  e.listeners.filter fun l => !l.ttl.isSpent

/-- The numbers of the listeners. -/
def Emitter.ids (e : Emitter) : List ListenerId :=
  e.listeners.map (·.id)

/-- Listeners stand in the order of their registration, and the next number is new. -/
structure Emitter.IsNumbered (e : Emitter) : Prop where
  ordered : e.ids.Pairwise (· < ·)
  below : ∀ id ∈ e.ids, id < e.nextId

section Deeds

variable {l : Listener} {log : List Entry} {entry : Entry} {deed : Deed} {e : Emitter}

@[simp] theorem Ttl.left_zero (t : Ttl) : t.left 0 = t := by
  cases t <;> rfl

theorem Ttl.left_add (t : Ttl) (j k : Nat) : t.left (j + k) = (t.left j).left k := by
  cases t with
  | forever => rfl
  | times n => exact congrArg Ttl.times (by omega)

theorem Ttl.consume_eq (t : Ttl) : t.consume = t.left 1 := by
  cases t <;> rfl

/-- A spent life stays spent. -/
theorem Ttl.isSpent_left {t : Ttl} (spent : t.isSpent) (k : Nat) : (t.left k).isSpent := by
  cases t with
  | forever => exact spent
  | times n =>
    have none : n = 0 := by simpa [Ttl.isSpent] using spent
    simp [Ttl.isSpent, Ttl.left, none]

/-- A withdrawal does not ask for the life of a listener. -/
@[simp] theorem Relay.Deed.removes_ttl (deed : Deed) (l : Listener) (t : Ttl) :
    deed.removes { l with ttl := t } = deed.removes l := by
  cases deed with
  | withdrawn w => cases w <;> rfl
  | _ => rfl

theorem Withdrawal.listeners_apply (w : Withdrawal) (e : Emitter) :
    (w.apply e).listeners = e.listeners.filter fun l => !w.hits l := by
  cases w with
  | everyone => simp [Withdrawal.apply, Emitter.clear, Withdrawal.hits]
  | byNumber | byCallback | byEvent =>
    refine List.filter_congr fun l _ => ?_
    simp [Withdrawal.hits]

theorem Withdrawal.nextId_apply (w : Withdrawal) (e : Emitter) : (w.apply e).nextId = e.nextId := by
  cases w <;> rfl

namespace Listener

theorem after_nil (l : Listener) : l.after [] = if l.ttl.isSpent then none else some l := by
  simp [after]

/-- One more deed. -/
theorem after_concat : l.after (log ++ [entry]) = (l.after log).bind (·.undergo entry.deed) := by
  have count : (log ++ [entry]).countP (·.deed.announces l.event) =
      log.countP (·.deed.announces l.event) + if entry.deed.announces l.event then 1 else 0 := by
    rw [List.countP_append, List.countP_singleton]
  unfold after
  dsimp only
  rw [count, Ttl.left_add, List.any_append]
  by_cases spent : (l.ttl.left (log.countP (·.deed.announces l.event))).isSpent
  · simp [spent, Ttl.isSpent_left spent]
  · by_cases removed : log.any (·.deed.removes l)
    · simp [removed]
    · simp [spent, removed, undergo]

end Listener

end Deeds

namespace Emitter

variable {e e' : Emitter} {event : Event} {ttl : Ttl} {callback : Callback} {id : ListenerId}

/-- A registration that is not refused. -/
theorem register_eq_ok (registered : e.register event ttl callback = .ok (id, e')) :
    ttl.isSpent = false ∧ id = e.nextId ∧ e' = { e with
      listeners := e.listeners ++ [{ id, event, ttl, callback }], nextId := id + 1 } := by
  unfold register at registered
  split at registered
  case isTrue => simp at registered
  case isFalse living =>
    split at registered
    case isTrue => simp at registered
    case isFalse room =>
      obtain ⟨rfl, rfl⟩ := Prod.mk.inj (Except.ok.inj registered)
      exact ⟨by simpa using living, rfl, rfl⟩

section Life

theorem live_eq (e : Emitter) : e.live = e.listeners.filterMap (·.after []) := by
  unfold live
  rw [← List.filterMap_eq_filter]
  refine List.filterMap_congr fun l _ => ?_
  cases spent : l.ttl.isSpent <;> simp [Listener.after_nil, Option.guard, spent]

/-- An announcement takes a call from the life of everyone who waits for its event. -/
theorem live_begin (e : Emitter) (notice : Notice) :
    (e.begin notice).2.live = e.live.filterMap (·.undergo (.announced notice)) := by
  unfold live begin
  dsimp only
  rw [List.filter_map, List.filterMap_filter, ← List.filterMap_eq_map, List.filterMap_filter]
  refine List.filterMap_congr fun l _ => ?_
  by_cases spent : l.ttl.isSpent
  · simp [Listener.hears, spent]
  · by_cases waits : l.event = notice.event
    · have hears : l.hears notice.event := by simp [Listener.hears, waits, spent]
      simp only [Function.comp_apply, hears, if_true, spent, Listener.undergo, Deed.announces,
        Deed.removes, waits, decide_true, Ttl.consume_eq, Bool.false_or]
      cases (l.ttl.left 1).isSpent <;> rfl
    · have deaf : ¬ l.hears notice.event := by simp [Listener.hears, waits]
      have other : notice.event ≠ l.event := fun same => waits same.symm
      simp [deaf, spent, Listener.undergo, Deed.announces, Deed.removes, other]

theorem isSpent_of_mem_live (e : Emitter) : ∀ l ∈ e.live, l.ttl.isSpent = false := by
  intro l member
  simpa using (List.mem_filter.mp member).2

end Life

section Numbers

theorem isNumbered_fresh (capacity : Nat) : IsNumbered { capacity } where
  ordered := .nil
  below := by simp [ids]

theorem ids_begin (e : Emitter) (notice : Notice) : (e.begin notice).2.ids = e.ids := by
  unfold ids begin
  rw [List.map_map]
  refine List.map_congr_left fun l _ => ?_
  simp only [Function.comp_apply]
  split <;> rfl

/-- Fewer listeners, or the same ones. -/
theorem IsNumbered.of_sublist (numbered : e.IsNumbered) (fewer : e'.ids.Sublist e.ids)
    (next : e'.nextId = e.nextId) : e'.IsNumbered where
  ordered := numbered.ordered.sublist fewer
  below id member := next.symm ▸ numbered.below id (fewer.mem member)

/-- Whoever joins has a new number, and stands last. -/
theorem IsNumbered.register (numbered : e.IsNumbered)
    (registered : e.register event ttl callback = .ok (id, e')) : e'.IsNumbered := by
  obtain ⟨-, rfl, rfl⟩ := register_eq_ok registered
  constructor
  · simp only [ids, List.map_append, List.pairwise_append]
    refine ⟨numbered.ordered, List.pairwise_singleton .., fun id member new last => ?_⟩
    rw [List.mem_singleton.mp last]
    exact numbered.below id member
  · intro id member
    rw [ids, List.map_append, List.mem_append] at member
    rcases member with old | new
    · exact Nat.lt_succ_of_lt (numbered.below id old)
    · rw [List.mem_singleton.mp new]
      exact Nat.lt_succ_self _

end Numbers

end Emitter

namespace Relay

variable {r r' start : Relay} {deed : Deed} {log : List Entry} {notice : Notice}

section Deliveries

/-- The innermost announcement calls the listener at the front. -/
theorem next?_eq_some {l : Listener} (next : r.next? = some (l, notice, r')) :
    ∃ waiting called outer, r.deliveries = ⟨notice, l :: waiting, called⟩ :: outer ∧
      r' = { r with deliveries := ⟨notice, waiting, called⟩ :: outer } := by
  unfold next? at next
  split at next
  case h_1 told l' waiting called outer under =>
    simp only [Option.some.injEq, Prod.mk.injEq] at next
    obtain ⟨rfl, rfl, rfl⟩ := next
    exact ⟨waiting, called, outer, under, rfl⟩
  case h_2 => simp at next

/-- An announcement with nobody left to be called ends. -/
theorem finish_of_drained (under : r.deliveries ≠ []) (drained : r.next? = none) :
    ∃ told called outer, r.deliveries = ⟨told, [], called⟩ :: outer ∧
      r.finish = (called, { emitter := r.emitter.purge, deliveries := outer }) := by
  cases deliveries : r.deliveries with
  | nil => exact absurd deliveries under
  | cons delivery outer =>
    obtain ⟨told, waiting, called⟩ := delivery
    cases waiting with
    | nil => exact ⟨told, called, outer, rfl, by simp only [finish, deliveries]⟩
    | cons l waiting => simp [next?, deliveries] at drained

end Deliveries

section Table

/-- Nobody joins without any life. -/
theorem Step.joins_live (step : Step r deed r') : ∀ l ∈ deed.joins, l.ttl.isSpent = false := by
  cases step with
  | register registered =>
    obtain ⟨living, -, -⟩ := Emitter.register_eq_ok registered
    simpa [Deed.joins] using living
  | _ => simp [Deed.joins]

/-- Whoever joins stands last, has life, and has a new number. -/
theorem Step.of_joined {l : Listener} (joined : Step r (.joined l) r') :
    l.ttl.isSpent = false ∧ l.id = r.emitter.nextId ∧ r' = { r with emitter := { r.emitter with
      listeners := r.emitter.listeners ++ [l], nextId := l.id + 1 } } := by
  cases joined with
  | register registered =>
    obtain ⟨living, rfl, rfl⟩ := Emitter.register_eq_ok registered
    exact ⟨living, rfl, rfl⟩

/-- A deed that neither withdraws anyone nor takes a call from anyone's life. -/
theorem filterMap_undergo_of_idle {listeners : List Listener}
    (living : ∀ l ∈ listeners, l.ttl.isSpent = false)
    (idle : ∀ l, deed.removes l = false ∧ deed.announces l.event = false) :
    listeners.filterMap (·.undergo deed) = listeners := by
  have kept : listeners.filterMap (·.undergo deed) = listeners.filterMap some :=
    List.filterMap_congr fun l member => by simp [Listener.undergo, idle l, living l member]
  rw [kept, List.filterMap_some]

/-- What a deed does to the listeners that have life left. -/
theorem Step.live (step : Step r deed r') :
    r'.emitter.live = r.emitter.live.filterMap (·.undergo deed) ++ deed.joins := by
  have idle (quiet : ∀ l, deed.removes l = false ∧ deed.announces l.event = false) :
      r.emitter.live.filterMap (·.undergo deed) = r.emitter.live :=
    filterMap_undergo_of_idle r.emitter.isSpent_of_mem_live quiet
  cases step with
  | register registered =>
    obtain ⟨living, rfl, rfl⟩ := Emitter.register_eq_ok registered
    rw [idle fun _ => ⟨rfl, rfl⟩]
    simp [Emitter.live, Deed.joins, living]
  | refuse refused => exact ((List.append_nil _).trans (idle fun _ => ⟨rfl, rfl⟩)).symm
  | withdraw w =>
    refine Eq.trans ?_ (List.append_nil _).symm
    rw [Emitter.live, Emitter.live, Withdrawal.listeners_apply, List.filterMap_filter,
      List.filter_filter, ← List.filterMap_eq_filter]
    refine List.filterMap_congr fun l _ => ?_
    by_cases spent : l.ttl.isSpent <;> by_cases hit : w.hits l <;>
      simp [Option.guard, Listener.undergo, Deed.removes, Deed.announces, spent, hit]
  | announce notice => exact (r.emitter.live_begin notice).trans (List.append_nil _).symm
  | call next =>
    obtain ⟨waiting, called, outer, -, rfl⟩ := next?_eq_some next
    exact ((List.append_nil _).trans (idle fun _ => ⟨rfl, rfl⟩)).symm
  | finish under drained =>
    obtain ⟨told, called, outer, -, ended⟩ := finish_of_drained under drained
    have purged : r.finish.2.emitter.live = r.emitter.live := by
      rw [ended]
      simp [Emitter.live, Emitter.purge, Emitter.retain, List.filter_filter]
    exact purged.trans ((List.append_nil _).trans (idle fun _ => ⟨rfl, rfl⟩)).symm

/-- Those who have joined, after one more deed. -/
theorem newcomers_concat {entry : Entry} (living : ∀ l ∈ entry.deed.joins, l.ttl.isSpent = false) :
    newcomers (log ++ [entry]) =
      (newcomers log).filterMap (·.undergo entry.deed) ++ entry.deed.joins := by
  induction log with
  | nil =>
    have kept : entry.deed.joins.filterMap (·.after []) = entry.deed.joins.filterMap some :=
      List.filterMap_congr fun l member => by simp [Listener.after_nil, living l member]
    simp [newcomers, kept]
  | cons first log ih =>
    have later (l : Listener) : l.after (log ++ [entry]) = (l.after log).bind _ :=
      Listener.after_concat
    simp only [List.cons_append, newcomers, ih, List.filterMap_append, List.filterMap_filterMap,
      later, List.append_assoc]

/-- The table holds who was there and who has joined, as they are after the deeds since. -/
theorem Course.live (course : Course start log r) : r.emitter.live =
    start.emitter.listeners.filterMap (·.after log) ++ newcomers log := by
  induction course with
  | start =>
    rw [Emitter.live_eq, newcomers, List.append_nil]
  | @step log r r' deed course next ih =>
    have later (l : Listener) : l.after (log ++ [⟨r.deliveries.length, deed⟩]) =
      (l.after log).bind _ := Listener.after_concat
    rw [next.live, newcomers_concat next.joins_live, ih]
    simp only [List.filterMap_append, List.filterMap_filterMap, later, List.append_assoc]

end Table

section Calls

/-- The listeners that an announcement calls, with what it tells them. -/
def calls (depth : Nat) (log : List Entry) : List (Listener × Notice) :=
  log.filterMap (·.call? depth)

theorem calls_concat (depth : Nat) (log : List Entry) (entry : Entry) :
    calls depth (log ++ [entry]) = calls depth log ++ (entry.call? depth).toList := by
  cases call : entry.call? depth <;> simp [calls, call]

/-- An announcement of this notice is under way inside `outer`, perhaps with others inside it: it
has made these calls, and calls the rest of the snapshot next. -/
def Frames (outer : List Delivery) (notice : Notice) (snapshot : List Listener)
    (made : List (Listener × Notice)) (now : Relay) : Prop :=
  ∃ inner waiting, now.deliveries = inner ++ ⟨notice, waiting, snapshot.length⟩ :: outer ∧
    made ++ waiting.map (·, notice) = snapshot.map (·, notice)

variable {outer : List Delivery} {snapshot : List Listener} {made : List (Listener × Notice)}

/-- A deed inside an announcement is a call that the announcement makes, or leaves it alone. -/
theorem Step.frames (step : Step r deed r') (framed : Frames outer notice snapshot made r)
    (deeper : outer.length < r'.deliveries.length) :
    Frames outer notice snapshot
      (made ++ (Entry.call? (outer.length + 1) ⟨r.deliveries.length, deed⟩).toList) r' := by
  obtain ⟨inner, waiting, under, split⟩ := framed
  cases step with
  | register | refuse | withdraw => exact ⟨inner, waiting, under, by simpa [Entry.call?] using split⟩
  | announce told =>
    refine ⟨(r.emitter.begin told).1 :: inner, waiting, ?_, by simpa [Entry.call?] using split⟩
    exact congrArg (_ :: ·) under
  | call next =>
    obtain ⟨later, called, around, front, rfl⟩ := next?_eq_some next
    -- The call is this announcement's own if none is under way inside it.
    cases inner with
    | nil =>
      rw [front, List.nil_append] at under
      obtain ⟨first, rfl⟩ := List.cons.inj under
      obtain ⟨rfl, rfl, rfl⟩ := Delivery.mk.inj first
      refine ⟨[], later, rfl, ?_⟩
      simpa [Entry.call?, front] using split
    | cons delivery inner =>
      rw [front, List.cons_append] at under
      obtain ⟨-, rfl⟩ := List.cons.inj under
      refine ⟨⟨_, later, called⟩ :: inner, waiting, rfl, ?_⟩
      have nested : r.deliveries.length ≠ outer.length + 1 := by
        simp only [front, List.length_cons, List.length_append]
        omega
      simpa [Entry.call?, nested] using split
  | finish busy drained =>
    obtain ⟨told, called, around, front, ended⟩ := finish_of_drained busy drained
    rw [ended] at deeper
    -- It is not this announcement that ends: it is still under way in `r'`.
    cases inner with
    | nil =>
      rw [front, List.nil_append] at under
      obtain ⟨-, rfl⟩ := List.cons.inj under
      exact absurd deeper (Nat.lt_irrefl _)
    | cons delivery inner =>
      rw [front, List.cons_append] at under
      obtain ⟨-, rfl⟩ := List.cons.inj under
      refine ⟨inner, waiting, ?_, by simpa [Entry.call?] using split⟩
      rw [ended]

/-- Whatever happens inside an announcement, it calls its snapshot from the front. -/
theorem Course.framed {during : Relay} (course : Course (r.announce notice) log during)
    (inside : ∀ entry ∈ log, r.deliveries.length < entry.depth)
    (deeper : r.deliveries.length < during.deliveries.length) :
    Frames r.deliveries notice (r.emitter.listeners.filter (·.hears notice.event))
      (calls (r.deliveries.length + 1) log) during := by
  induction course with
  | start => exact ⟨[], _, rfl, List.nil_append _⟩
  | @step log r₁ r₂ deed course next ih =>
    obtain ⟨before, now⟩ := List.forall_mem_append.mp inside
    have framed := ih before (now _ (List.mem_singleton_self _))
    rw [calls_concat]
    exact next.frames framed deeper

end Calls

section Numbers

/-- Deeds keep the order of registration, and never give a number again. -/
theorem Step.numbered (step : Step r deed r') (numbered : r.emitter.IsNumbered) :
    r'.emitter.IsNumbered ∧ r.emitter.nextId ≤ r'.emitter.nextId ∧
      ∀ l ∈ deed.joins, r.emitter.nextId ≤ l.id := by
  cases step with
  | register registered =>
    refine ⟨numbered.register registered, ?_⟩
    obtain ⟨-, rfl, rfl⟩ := Emitter.register_eq_ok registered
    refine ⟨Nat.le_succ _, fun l member => ?_⟩
    exact Nat.le_of_eq (congrArg Listener.id (List.mem_singleton.mp member)).symm
  | refuse => exact ⟨numbered, Nat.le_refl _, nofun⟩
  | withdraw w =>
    have fewer : (w.apply r.emitter).ids.Sublist r.emitter.ids := by
      rw [Emitter.ids, w.listeners_apply]
      exact List.filter_sublist.map _
    have next := w.nextId_apply r.emitter
    exact ⟨numbered.of_sublist fewer next, Nat.le_of_eq next.symm, nofun⟩
  | announce notice =>
    have same := r.emitter.ids_begin notice
    exact ⟨numbered.of_sublist (same ▸ .refl _) rfl, Nat.le_refl _, nofun⟩
  | call next =>
    obtain ⟨waiting, called, outer, -, rfl⟩ := next?_eq_some next
    exact ⟨numbered, Nat.le_refl _, nofun⟩
  | finish under drained =>
    obtain ⟨told, called, outer, -, ended⟩ := finish_of_drained under drained
    rw [ended]
    exact ⟨numbered.of_sublist (List.filter_sublist.map _) rfl, Nat.le_refl _, nofun⟩

theorem Course.numbered (course : Course start log r) (numbered : start.emitter.IsNumbered) :
    r.emitter.IsNumbered ∧ start.emitter.nextId ≤ r.emitter.nextId ∧
      ∀ entry ∈ log, ∀ l ∈ entry.deed.joins, start.emitter.nextId ≤ l.id := by
  induction course with
  | start => exact ⟨numbered, Nat.le_refl _, nofun⟩
  | step course next ih =>
    obtain ⟨before, le, joined⟩ := ih
    obtain ⟨now, le', joins⟩ := next.numbered before
    refine ⟨now, Nat.le_trans le le', fun entry member l new => ?_⟩
    rcases List.mem_append.mp member with old | last
    · exact joined entry old l new
    · rw [List.mem_singleton.mp last] at new
      exact Nat.le_trans le (joins l new)

end Numbers

/-- A deed before all others. -/
theorem Course.cons (first : Step start deed r) (course : Course r log r') :
    Course start (⟨start.deliveries.length, deed⟩ :: log) r' := by
  induction course with
  | start => exact .step .start first
  | step _ next ih => exact .step ih next

/-- Nothing has happened. -/
theorem Course.of_nil (course : Course start [] r) : r = start := by
  generalize whole : ([] : List Entry) = log at course
  cases course with
  | start => rfl
  | step => simp at whole

/-- One course after another. -/
theorem Course.append {before after : List Entry} (first : Course start before r)
    (second : Course r after r') : Course start (before ++ after) r' := by
  induction second with
  | start => exact (List.append_nil before).symm ▸ first
  | @step after r₁ r₂ deed _ next ih =>
    exact List.append_assoc before after _ ▸ ih.step next

/-- The last deed of a course. -/
theorem Course.of_concat {entry : Entry} (course : Course start (log ++ [entry]) r') :
    ∃ r deed, Course start log r ∧ Step r deed r' ∧ entry = ⟨r.deliveries.length, deed⟩ := by
  generalize whole : log ++ [entry] = all at course
  cases course with
  | start => simp at whole
  | step course next =>
    obtain ⟨rfl, last⟩ := List.append_inj' whole rfl
    exact ⟨_, _, course, next, List.singleton_inj.mp last⟩

/-- A course stops in between. -/
theorem Course.split {before after : List Entry} (course : Course start (before ++ after) r') :
    ∃ r, Course start before r ∧ Course r after r' := by
  induction after using List.reverseRecOn generalizing r' with
  | nil => exact ⟨r', by simpa using course, .start⟩
  | append_singleton after entry ih =>
    rw [← List.append_assoc] at course
    obtain ⟨r, deed, earlier, next, rfl⟩ := course.of_concat
    obtain ⟨between, first, second⟩ := ih earlier
    exact ⟨between, first, second.step next⟩

/-- The first deed of a course. -/
theorem Course.of_cons {entry : Entry} (course : Course start (entry :: log) r') :
    ∃ r deed, entry = ⟨start.deliveries.length, deed⟩ ∧ Step start deed r ∧ Course r log r' := by
  have course : Course start ([entry] ++ log) r' := course
  obtain ⟨r, first, rest⟩ := course.split
  have first : Course start ([] ++ [entry]) r := first
  obtain ⟨r₀, deed, none, next, rfl⟩ := first.of_concat
  obtain rfl := none.of_nil
  exact ⟨r, deed, rfl, next, rest⟩

/-- **An announcement delivers exactly its snapshot.**  However its listeners go on while they are
called, registering, withdrawing and announcing again to any depth: once it is the innermost
announcement again and nobody is left to be called, it has called exactly the listeners that heard
its event when it began, each once, in the order of registration, with this notice, and their number
is its answer.  Nobody who has joined meanwhile is among them.  When it has ended, the announcements
around it are as they were, and the table holds, in the order of registration, who was there and who
has joined meanwhile, except those who have been withdrawn and those whose life is spent. -/
theorem Course.announcement {during : Relay} (numbered : r.emitter.IsNumbered)
    (course : Course (r.announce notice) log during)
    (inside : ∀ entry ∈ log, r.deliveries.length < entry.depth)
    (innermost : during.deliveries.length = r.deliveries.length + 1)
    (drained : during.next? = none) :
    let snapshot := r.emitter.listeners.filter (·.hears notice.event)
    let made := calls (r.deliveries.length + 1) log
    let all : List Entry := ⟨r.deliveries.length, .announced notice⟩ :: log
    let ended := during.finish
    made = snapshot.map (·, notice) ∧ (snapshot.map (·.id)).Pairwise (· < ·) ∧
      (∀ entry ∈ log, ∀ l ∈ entry.deed.joins, ∀ call ∈ made, call.1.id ≠ l.id) ∧
      ended.1 = snapshot.length ∧ ended.2.deliveries = r.deliveries ∧
      ended.2.emitter.listeners = r.emitter.listeners.filterMap (·.after all) ++ newcomers log ∧
      ended.2.emitter.IsNumbered := by
  intro snapshot made all ended
  have whole : Course r all during := course.cons (.announce notice)
  obtain ⟨inner, waiting, under, split⟩ := course.framed inside (by omega)
  obtain rfl : inner = [] := by
    rw [under, List.length_append, List.length_cons] at innermost
    exact List.eq_nil_of_length_eq_zero (by omega)
  have busy : during.deliveries ≠ [] := by simp [under]
  obtain ⟨told, called, around, front, finished⟩ := finish_of_drained busy drained
  rw [under, List.nil_append] at front
  obtain ⟨first, rfl⟩ := List.cons.inj front
  obtain ⟨-, rfl, rfl⟩ := Delivery.mk.inj first
  have made_eq : made = snapshot.map (·, notice) := by simpa using split
  have ordered : (snapshot.map (·.id)).Pairwise (· < ·) :=
    numbered.ordered.sublist (List.filter_sublist.map _)
  obtain ⟨-, -, joined⟩ := whole.numbered numbered
  refine ⟨made_eq, ordered, ?_, ?_, ?_, ?_, ?_⟩
  · intro entry member l new call done same
    rw [made_eq] at done
    obtain ⟨old, there, rfl⟩ := List.mem_map.mp done
    have below := numbered.below old.id (List.mem_map_of_mem (List.mem_of_mem_filter there))
    have above := joined entry (List.mem_cons_of_mem _ member) l new
    exact Nat.ne_of_lt (Nat.lt_of_lt_of_le below above) same
  · exact congrArg Prod.fst finished
  · exact congrArg (·.2.deliveries) finished
  · calc ended.2.emitter.listeners
        = during.emitter.live := congrArg (·.2.emitter.listeners) finished
      _ = r.emitter.listeners.filterMap (·.after all) ++ newcomers log := whole.live
  · have kept := (Step.finish busy drained).numbered (whole.numbered numbered).1
    exact kept.1

/-- The first of two listeners registers a third, withdraws the second and announces the same event
again; the third hears only this, and the second is called all the same. -/
theorem Course.announcement_nested :
    let first : Listener := ⟨1, .opened, .times 1, 5⟩
    let second : Listener := ⟨2, .opened, .forever, 6⟩
    let third : Listener := ⟨3, .opened, .forever, 7⟩
    let r : Relay := { emitter := { listeners := [first, second], nextId := 3 } }
    let notice : Notice := { event := .opened }
    let log : List Entry := [⟨1, .called first notice⟩, ⟨1, .joined third⟩,
      ⟨1, .withdrawn (.byNumber 2)⟩, ⟨1, .announced notice⟩, ⟨2, .called third notice⟩, ⟨2, .ended 1⟩,
      ⟨1, .called second notice⟩]
    ∃ during, r.emitter.IsNumbered ∧ Course (r.announce notice) log during ∧
      (∀ entry ∈ log, r.deliveries.length < entry.depth) ∧ during.deliveries.length = 1 ∧
      during.next? = none ∧ calls 1 log = [(first, notice), (second, notice)] ∧
      during.finish.1 = 2 ∧ during.finish.2.emitter.listeners = [third] := by
  intro first second third r notice log
  have numbered : r.emitter.IsNumbered := ⟨by decide, by decide⟩
  have begun : Course (r.announce notice) [] (r.announce notice) := .start
  have called : Course (r.announce notice) [⟨1, .called first notice⟩] _ := begun.step (.call rfl)
  have joined : Course _ [_, ⟨1, .joined third⟩] _ := called.step (.register rfl)
  have withdrawn := joined.step (.withdraw (.byNumber 2))
  have nested := withdrawn.step (.announce notice)
  have inner : Course _ [_, _, _, _, ⟨2, .called third notice⟩] _ := nested.step (.call rfl)
  have ended := inner.step (.finish (by decide) rfl)
  have course : Course (r.announce notice) log _ := ended.step (.call rfl)
  have inside : ∀ entry ∈ log, r.deliveries.length < entry.depth := by decide
  obtain ⟨made, -, -, count, -, left, -⟩ := course.announcement numbered inside rfl rfl
  exact ⟨_, numbered, course, inside, rfl, rfl, made, count, left⟩

end Relay

end StorageEngine
