import Mathlib.Algebra.GroupWithZero.Nat
import StorageEngine.Proofs.Announcements

/-!
# The life of a listener

A listener is registered for a number of calls, and its own callback may announce its event again
before it has returned.  A call is taken from its life when an announcement begins, and not when the
call is made, so that no announcement counts on a call that another one is still to make.

From an emitter that starts empty, a listener that is registered for `n` calls is called by exactly
the first `n` announcements of its event that begin after it has joined (`Relay.Course.lifetimes`):

* `Relay.Course.told` — an announcement calls its snapshot from the front, and all of it once it has
  ended;
* `Relay.Course.expects_eq` — the snapshot has the listener exactly if it is not withdrawn and fewer
  than `n` announcements of its event have begun;
* `Relay.Course.calls_le` — so the calls that are made and the calls to come are at most `n`;
* `Relay.Course.living` — between announcements, nobody in the table is without life.
-/

namespace StorageEngine

open Relay

namespace Relay

/-- A deed calls the listener with this number. -/
def Deed.summons : Deed → ListenerId → Bool
  | .called l _, id => l.id = id
  | _, _ => false

/-- A deed begins an announcement. -/
def Deed.begins : Deed → Bool
  | .announced _ => true
  | _ => false

/-- A deed ends an announcement. -/
def Deed.ends : Deed → Bool
  | .ended _ => true
  | _ => false

/-- What happens inside an announcement that began at this depth, its end among it. -/
def inside (depth : Nat) (log : List Entry) : List Entry :=
  log.takeWhile (depth < ·.depth)

/-- How often an announcement that began at this depth calls the listener with this number. -/
def callsTo (id : ListenerId) (depth : Nat) (log : List Entry) : Nat :=
  (calls (depth + 1) (inside depth log)).countP (·.1.id = id)

/-- An announcement that began at this depth ends. -/
def hasEnded (depth : Nat) (log : List Entry) : Bool :=
  (inside depth log).any fun entry => entry.depth = depth + 1 && entry.deed.ends

/-- The calls to the listener with this number that announcements under way are still to make. -/
def awaiting (r : Relay) (id : ListenerId) : Nat :=
  (r.deliveries.flatMap (·.waiting)).countP (·.id = id)

end Relay

/-- How often an announcement of this event calls a listener that is registered for `n` calls, when
it begins after these deeds. -/
def Listener.due (l : Listener) (n : Nat) (log : List Entry) (event : Event) : Nat :=
  if l.event = event ∧ log.countP (·.deed.announces event) < n ∧ ¬ log.any (·.deed.removes l)
  then 1 else 0

/-- How often an announcement of this event would call the listener with this number. -/
def Emitter.expects (e : Emitter) (event : Event) (id : ListenerId) : Nat :=
  (e.listeners.filter (·.hears event)).countP (·.id = id)

/-- The calls to the listener with this number that are to come because of a deed. -/
def Relay.Deed.adds (deed : Deed) (e : Emitter) (id : ListenerId) : Nat :=
  match deed with
  | .announced notice => e.expects notice.event id
  | _ => 0

section Listeners

variable {l left : Listener} {log : List Entry} {e : Emitter} {event : Event} {id : ListenerId}

/-- Whoever is left of a listener is the same one, with less life. -/
theorem Listener.after_eq_some (stays : l.after log = some left) :
    left = { l with ttl := l.ttl.left (log.countP (·.deed.announces l.event)) } := by
  unfold Listener.after at stays
  dsimp only at stays
  split at stays
  case isTrue => simp at stays
  case isFalse => exact (Option.some.inj stays).symm

/-- A listener that is registered for `n` calls stays while it is not withdrawn and fewer than `n`
announcements of its event have begun. -/
theorem Listener.isSome_after {n : Nat} (life : l.ttl = .times n) : (l.after log).isSome ↔
    log.countP (·.deed.announces l.event) < n ∧ log.any (·.deed.removes l) = false := by
  unfold Listener.after
  by_cases removed : log.any (·.deed.removes l)
  · simp [removed]
  · simp only [Bool.not_eq_true] at removed
    simp [life, removed, Ttl.left, Ttl.isSpent, Nat.sub_eq_zero_iff_le]

/-- Someone who has joined is the listener that a deed has brought in. -/
theorem Relay.exists_of_mem_newcomers (new : left ∈ newcomers log) :
    ∃ entry ∈ log, ∃ l ∈ entry.deed.joins, left.id = l.id := by
  induction log with
  | nil => simp [newcomers] at new
  | cons entry log ih =>
    rcases List.mem_append.mp new with first | later
    · obtain ⟨l, joins, stays⟩ := List.mem_filterMap.mp first
      exact ⟨entry, List.mem_cons_self, l, joins, by rw [Listener.after_eq_some stays]⟩
    · obtain ⟨entry, member, found⟩ := ih later
      exact ⟨entry, List.mem_cons_of_mem _ member, found⟩

namespace Emitter

theorem expects_eq (e : Emitter) (event : Event) (id : ListenerId) :
    e.expects event id = e.live.countP fun l => l.id = id && l.event = event := by
  simp only [expects, live, List.countP_filter]
  refine List.countP_congr fun l _ => ?_
  simp [Listener.hears, and_assoc]

/-- Nobody calls a number that has not been given. -/
theorem IsNumbered.expects_fresh (numbered : e.IsNumbered) (event : Event) (fresh : e.nextId ≤ id) :
    e.expects event id = 0 := by
  refine List.countP_eq_zero.mpr fun l member => ?_
  have below := numbered.below l.id (List.mem_map_of_mem (List.mem_of_mem_filter member))
  simpa using Nat.ne_of_lt (Nat.lt_of_lt_of_le below fresh)

/-- Every living listener waits for one of the events. -/
theorem sum_count (e : Emitter) : (Event.all.map e.count).sum = e.live.length := by
  unfold count live
  induction e.listeners with
  | nil => rfl
  | cons l listeners ih =>
    simp only [Event.all, List.map_cons, List.map_nil, List.sum_cons, List.sum_nil,
      List.countP_cons, List.filter_cons, Listener.hears] at ih ⊢
    cases spent : l.ttl.isSpent <;> cases event : l.event <;> simp <;> omega

end Emitter

end Listeners

namespace Relay

variable {start r r₁ r' during : Relay} {deed : Deed} {log mid rest : List Entry} {notice : Notice}
  {l : Listener} {id : ListenerId} {n capacity : Nat}

section Snapshot

/-- An announcement adds one to those under way, and its end takes one away. -/
theorem Step.depth (step : Step r deed r') :
    r'.deliveries.length + (if deed.ends then 1 else 0) =
      r.deliveries.length + if deed.begins then 1 else 0 := by
  cases step with
  | register | refuse | withdraw | announce => rfl
  | call next =>
    obtain ⟨waiting, called, outer, front, rfl⟩ := next?_eq_some next
    simp [front, Deed.ends, Deed.begins]
  | finish under drained =>
    obtain ⟨told, called, outer, front, ended⟩ := finish_of_drained under drained
    simp [front, ended, Deed.ends, Deed.begins]

/-- The innermost announcement has called its snapshot when nobody is left to be called. -/
theorem Frames.complete {outer : List Delivery} {snapshot : List Listener}
    {made : List (Listener × Notice)} (framed : Frames outer notice snapshot made r)
    (innermost : r.deliveries.length = outer.length + 1) (drained : r.next? = none) :
    made = snapshot.map (·, notice) := by
  obtain ⟨inner, waiting, under, split⟩ := framed
  obtain rfl : inner = [] := by
    rw [under, List.length_append, List.length_cons] at innermost
    exact List.eq_nil_of_length_eq_zero (by omega)
  cases waiting with
  | nil => simpa using split
  | cons l waiting => simp [next?, under] at drained

/-- An announcement calls its snapshot from the front, and all of it once it has ended. -/
theorem Course.told (course : Course (r.announce notice) log during)
    (deeper : ∀ entry ∈ log, r.deliveries.length < entry.depth) :
    let snapshot := r.emitter.listeners.filter (·.hears notice.event)
    let made := calls (r.deliveries.length + 1) log
    let ended := log.any fun entry => entry.depth = r.deliveries.length + 1 && entry.deed.ends
    made <+: snapshot.map (·, notice) ∧
      if ended then during.deliveries.length = r.deliveries.length ∧ made = snapshot.map (·, notice)
      else r.deliveries.length < during.deliveries.length := by
  intro snapshot made ended
  induction course with
  | start => exact ⟨List.nil_prefix, Nat.lt_succ_self _⟩
  | @step log r₁ r₂ deed course next ih =>
    obtain ⟨before, now⟩ := List.forall_mem_append.mp deeper
    have below : r.deliveries.length < r₁.deliveries.length := now _ (List.mem_singleton_self _)
    obtain ⟨-, standing⟩ := ih before
    -- It has not ended before: whatever comes after its end is not inside it.
    have running : (log.any fun entry =>
        entry.depth = r.deliveries.length + 1 && entry.deed.ends) = false := by
      by_contra ended
      rw [if_pos (by simpa using ended)] at standing
      omega
    have framed := course.framed before below
    have depth := next.depth
    by_cases last : r₁.deliveries.length = r.deliveries.length + 1 ∧ deed.ends
    · obtain ⟨innermost, ends⟩ := last
      cases next with
      | finish busy drained =>
        have made_eq : made = snapshot.map (·, notice) := by
          simpa [made, calls_concat, Entry.call?] using framed.complete innermost drained
        have gone : r₁.finish.2.deliveries.length = r.deliveries.length := by
          simpa [Deed.ends, Deed.begins, innermost] using depth
        have ended_eq : ended = true := by simp [ended, innermost, ends]
        rw [ended_eq, made_eq]
        exact ⟨List.prefix_refl _, gone, rfl⟩
      | _ => simp [Deed.ends] at ends
    · have still : r.deliveries.length < r₂.deliveries.length := by
        cases ends : deed.ends <;> simp [ends] at depth last <;> omega
      obtain ⟨inner, waiting, -, split⟩ := next.frames framed still
      have ended_eq : ended = false := by simpa [ended, running] using last
      rw [ended_eq]
      refine ⟨⟨waiting.map (·, notice), ?_⟩, by simpa using still⟩
      simpa only [made, calls_concat] using split

/-- An announcement makes the calls that were expected when it began, and all of them once it has
ended. -/
theorem Course.callsTo_le (course : Course (r.announce notice) rest during) (id : ListenerId) :
    callsTo id r.deliveries.length rest ≤ r.emitter.expects notice.event id ∧
      (hasEnded r.deliveries.length rest →
        callsTo id r.deliveries.length rest = r.emitter.expects notice.event id) := by
  have deeper : ∀ entry ∈ inside r.deliveries.length rest, r.deliveries.length < entry.depth :=
    fun entry member => by simpa using List.all_eq_true.mp List.all_takeWhile entry member
  have parts : inside r.deliveries.length rest ++
      rest.dropWhile (r.deliveries.length < ·.depth) = rest := List.takeWhile_append_dropWhile
  rw [← parts] at course
  obtain ⟨stop, first, -⟩ := course.split
  obtain ⟨front, complete⟩ := first.told deeper
  have whole : ((r.emitter.listeners.filter (·.hears notice.event)).map (·, notice)).countP
      (·.1.id = id) = r.emitter.expects notice.event id := by
    rw [List.countP_map]; rfl
  refine ⟨whole ▸ front.sublist.countP_le, fun ended => ?_⟩
  unfold hasEnded at ended
  rw [if_pos ended] at complete
  rw [← whole, ← complete.2]
  rfl

end Snapshot

section Life

/-- What an announcement expects of a listener that is registered for `n` calls. -/
theorem Course.expects_eq (numbered : r.emitter.IsNumbered) (joined : Step r (.joined l) r₁)
    (course : Course r₁ mid r') (life : l.ttl = .times n) (event : Event) :
    r'.emitter.expects event l.id = l.due n mid event := by
  have ⟨_, _, later⟩ := course.numbered (joined.numbered numbered).1
  obtain ⟨-, given, rfl⟩ := joined.of_joined
  have older : (r.emitter.listeners.filterMap (·.after mid)).countP
      (fun x => x.id = l.id && x.event = event) = 0 := by
    refine List.countP_eq_zero.mpr fun x member => ?_
    obtain ⟨before, there, stays⟩ := List.mem_filterMap.mp member
    have below := numbered.below before.id (List.mem_map_of_mem there)
    have same : x.id = before.id := by rw [Listener.after_eq_some stays]
    simp [same, given, Nat.ne_of_lt below]
  have newer : (newcomers mid).countP (fun x => x.id = l.id && x.event = event) = 0 := by
    refine List.countP_eq_zero.mpr fun x member => ?_
    obtain ⟨entry, there, joins, new, same⟩ := exists_of_mem_newcomers member
    have above := later entry there joins new
    simp [same, (Nat.ne_of_lt above).symm]
  have due : l.due n mid event = if l.event = event ∧ (l.after mid).isSome then 1 else 0 := by
    by_cases waits : l.event = event <;> simp [Listener.due, Listener.isSome_after life, waits]
  rw [due, Emitter.expects_eq, course.live, List.filterMap_append, List.countP_append,
    List.countP_append, older, newer, Nat.zero_add, Nat.add_zero]
  cases stays : l.after mid with
  | none => simp [stays]
  | some left =>
    have same : left.id = l.id ∧ left.event = l.event := by simp [Listener.after_eq_some stays]
    simp [stays, same]

/-- One deed makes a call that was still to be made, or adds calls that are to come. -/
theorem Step.awaiting_eq (step : Step r deed r') (id : ListenerId) :
    (if deed.summons id then 1 else 0) + r'.awaiting id =
      r.awaiting id + deed.adds r.emitter id := by
  cases step with
  | register | refuse | withdraw => simp [Deed.summons, Deed.adds, Relay.awaiting]
  | announce notice =>
    have snapshot : (r.announce notice).awaiting id =
        r.emitter.expects notice.event id + r.awaiting id := List.countP_append
    simp [Deed.summons, Deed.adds, snapshot, Nat.add_comm]
  | call next =>
    obtain ⟨waiting, called, outer, front, rfl⟩ := next?_eq_some next
    simp [Deed.summons, Deed.adds, Relay.awaiting, front, List.countP_cons]
    omega
  | finish under drained =>
    obtain ⟨told, called, outer, front, ended⟩ := finish_of_drained under drained
    simp [Deed.summons, Deed.adds, Relay.awaiting, front, ended]

/-- A number that has not been given is not called. -/
theorem Course.calls_fresh (course : Course { emitter := { capacity } } log r) (id : ListenerId)
    (fresh : r.emitter.nextId ≤ id) :
    log.countP (·.deed.summons id) + r.awaiting id = 0 := by
  induction course with
  | start => rfl
  | @step log r r' deed course next ih =>
    obtain ⟨numbered, -, -⟩ := course.numbered (Emitter.isNumbered_fresh _)
    obtain ⟨-, grows, -⟩ := next.numbered numbered
    have before := ih (Nat.le_trans grows fresh)
    have awaiting := next.awaiting_eq id
    have adds : deed.adds r.emitter id = 0 := by
      cases deed with
      | announced notice => exact numbered.expects_fresh notice.event (Nat.le_trans grows fresh)
      | _ => rfl
    rw [List.countP_append, List.countP_singleton]
    dsimp only
    omega

/-- The calls to a listener that is registered for `n` calls, those to come among them, are no more
than `n`, and no more than the announcements of its event. -/
theorem Course.calls_le (numbered : r.emitter.IsNumbered) (joined : Step r (.joined l) r₁)
    (unheard : r.awaiting l.id = 0) (life : l.ttl = .times n) (course : Course r₁ mid r') :
    mid.countP (·.deed.summons l.id) + r'.awaiting l.id ≤
      min n (mid.countP (·.deed.announces l.event)) := by
  induction course with
  | start =>
    have same := joined.awaiting_eq l.id
    simp_all [Deed.summons, Deed.adds]
  | @step mid r₂ r₃ deed course next ih =>
    have awaiting := next.awaiting_eq l.id
    have adds : deed.adds r₂.emitter l.id ≤
        if deed.announces l.event ∧ mid.countP (·.deed.announces l.event) < n then 1 else 0 := by
      cases deed with
      | announced notice =>
        rw [Deed.adds, course.expects_eq numbered joined life, Listener.due]
        by_cases waits : l.event = notice.event
        · rw [waits]
          split <;> simp_all [Deed.announces]
        · simp [waits]
      | _ => exact Nat.zero_le _
    rw [List.countP_append, List.countP_append, List.countP_singleton, List.countP_singleton]
    cases announces : deed.announces l.event with
    | false =>
      simp only [announces, Bool.false_eq_true, false_and, if_false] at adds ⊢
      omega
    | true =>
      simp only [announces, true_and, if_true] at adds ⊢
      split at adds <;> omega

end Life

section Callers

/-- Every announcement under way has begun, and everything since then is inside it. -/
theorem Course.begun {outer : List Delivery} {waiting : List Listener} {called : Nat}
    (course : Course { emitter := { capacity } } log r) (inner : List Delivery)
    (under : r.deliveries = inner ++ ⟨notice, waiting, called⟩ :: outer) :
    ∃ before rest, log = before ++ ⟨outer.length, .announced notice⟩ :: rest ∧
      ∀ entry ∈ rest, outer.length < entry.depth := by
  induction course generalizing inner waiting with
  | start => simp at under
  | @step log r r' deed course next ih =>
    -- Either this deed begins it, or it has been under way.
    have older (inner : List Delivery) {waiting : List Listener}
        (still : r.deliveries = inner ++ ⟨notice, waiting, called⟩ :: outer) :
        ∃ before rest, log ++ [⟨r.deliveries.length, deed⟩] =
            before ++ ⟨outer.length, .announced notice⟩ :: rest ∧
          ∀ entry ∈ rest, outer.length < entry.depth := by
      obtain ⟨before, rest, split, deeper⟩ := ih _ still
      refine ⟨before, rest ++ [⟨r.deliveries.length, deed⟩], by simp [split],
        List.forall_mem_append.mpr ⟨deeper, ?_⟩⟩
      simp only [List.mem_singleton, forall_eq, still, List.length_append, List.length_cons]
      omega
    cases next with
    | register | refuse | withdraw => exact older inner under
    | announce told =>
      cases inner with
      | nil =>
        obtain ⟨first, rfl⟩ := List.cons.inj under
        obtain rfl : told = notice := congrArg Delivery.notice first
        exact ⟨log, [], rfl, nofun⟩
      | cons delivery inner =>
        obtain ⟨-, still⟩ : _ ∧ r.deliveries = _ := List.cons.inj under
        exact older inner still
    | call next =>
      obtain ⟨later, count, around, front, rfl⟩ := next?_eq_some next
      cases inner with
      | nil =>
        obtain ⟨first, rfl⟩ := List.cons.inj under
        obtain ⟨rfl, rfl, rfl⟩ := Delivery.mk.inj first
        exact older [] front
      | cons delivery inner =>
        obtain ⟨-, rfl⟩ := List.cons.inj under
        exact older (_ :: inner) front
    | finish busy drained =>
      obtain ⟨told, count, around, front, ended⟩ := finish_of_drained busy drained
      rw [ended] at under
      exact older (⟨told, [], count⟩ :: inner) (front.trans (congrArg (_ :: ·) under))

/-- Every call is made by an announcement that has begun and not ended. -/
theorem Course.caller {depth : Nat} {before rest : List Entry}
    (course : Course { emitter := { capacity } } log r)
    (split : log = before ++ ⟨depth, .called l notice⟩ :: rest) :
    ∃ outer earlier since, depth = outer + 1 ∧
      before = earlier ++ ⟨outer, .announced notice⟩ :: since ∧
      ∀ entry ∈ since, outer < entry.depth := by
  subst split
  obtain ⟨between, first, rest⟩ := course.split
  obtain ⟨next, deed, same, step, -⟩ := rest.of_cons
  obtain ⟨rfl, rfl⟩ := Entry.mk.inj same
  cases step with
  | call step =>
    obtain ⟨waiting, called, outer, front, -⟩ := next?_eq_some step
    obtain ⟨earlier, since, split, deeper⟩ := first.begun [] front
    exact ⟨outer.length, earlier, since, by simp [front], split, deeper⟩

/-- Between announcements, nobody in the table is without life. -/
theorem Course.living (course : Course { emitter := { capacity } } log r)
    (idle : r.deliveries = []) : ∀ l ∈ r.emitter.listeners, l.ttl.isSpent = false := by
  induction course with
  | start => simp
  | step course next ih =>
    cases next with
    | register registered =>
      obtain ⟨living, rfl, rfl⟩ := Emitter.register_eq_ok registered
      simpa [or_imp, forall_and, living] using ih idle
    | refuse => exact ih idle
    | withdraw w =>
      intro l member
      rw [w.listeners_apply] at member
      exact ih idle l (List.mem_of_mem_filter member)
    | announce => simp [announce] at idle
    | call next =>
      obtain ⟨waiting, called, outer, front, rfl⟩ := next?_eq_some next
      simp at idle
    | finish busy drained =>
      obtain ⟨told, called, outer, front, ended⟩ := finish_of_drained busy drained
      rw [ended]
      intro l member
      simpa using (List.mem_filter.mp member).2

end Callers

/-- **A listener is called as often as it is registered for.**  Whatever is registered, withdrawn
and announced from an empty table on, inside one another to any depth, the listener's own callback
not excepted: a listener that joins for `n` calls is called at most `n` times, withdrawn or not.  An
announcement that has begun before it joined does not call it.  One that begins later calls it
exactly once if it announces its event, fewer than `n` announcements of this event have begun since
it joined, and nobody has withdrawn it; no other announcement calls it, and one that is still under
way has at most not called it yet.  Every call is made by an announcement.  Whenever none is under
way, nobody in the table is without life, so that the counts for the four events add up to its
size. -/
theorem Course.lifetimes (course : Course { emitter := { capacity } } log r) :
    (∀ before depth l n after, log = before ++ ⟨depth, .joined l⟩ :: after → l.ttl = .times n →
      0 < n ∧ log.countP (·.deed.summons l.id) ≤ n ∧
      (∀ earlier outer notice rest, before = earlier ++ ⟨outer, .announced notice⟩ :: rest →
        callsTo l.id outer (rest ++ ⟨depth, .joined l⟩ :: after) = 0) ∧
      ∀ since outer notice rest, after = since ++ ⟨outer, .announced notice⟩ :: rest →
        callsTo l.id outer rest ≤ l.due n since notice.event ∧
        (hasEnded outer rest → callsTo l.id outer rest = l.due n since notice.event)) ∧
    (∀ before depth l notice rest, log = before ++ ⟨depth, .called l notice⟩ :: rest →
      ∃ outer earlier since, depth = outer + 1 ∧
        before = earlier ++ ⟨outer, .announced notice⟩ :: since ∧
        ∀ entry ∈ since, outer < entry.depth) ∧
    (r.deliveries = [] → (∀ l ∈ r.emitter.listeners, l.ttl.isSpent = false) ∧
      (Event.all.map r.emitter.count).sum = r.emitter.size) := by
  refine ⟨fun before depth l n after whole life => ?_,
    fun before depth l notice rest whole => course.caller whole, fun idle => ?_⟩
  · subst whole
    obtain ⟨r₀, first, second⟩ := course.split
    obtain ⟨r₁, deed, same, joined, last⟩ := second.of_cons
    obtain ⟨rfl, rfl⟩ := Entry.mk.inj same
    obtain ⟨numbered, -, -⟩ := first.numbered (Emitter.isNumbered_fresh _)
    obtain ⟨living, given, -⟩ := joined.of_joined
    have unheard := first.calls_fresh l.id (Nat.le_of_eq given.symm)
    refine ⟨?_, ?_, fun earlier outer notice rest split => ?_,
      fun since outer notice rest split => ?_⟩
    · refine Nat.pos_of_ne_zero fun none => ?_
      simp [life, none, Ttl.isSpent] at living
    · have later := last.calls_le numbered joined (by omega) life
      rw [List.countP_append, List.countP_cons_of_neg (by simp [Deed.summons])]
      omega
    · subst split
      obtain ⟨r₂, since, rest⟩ := first.split
      obtain ⟨fresh, -, -⟩ := since.numbered (Emitter.isNumbered_fresh _)
      obtain ⟨-, grows, -⟩ := rest.numbered fresh
      obtain ⟨r₃, deed, same, step, rest⟩ := rest.of_cons
      obtain ⟨rfl, rfl⟩ := Entry.mk.inj same
      cases step with
      | announce notice =>
        have none := fresh.expects_fresh notice.event (given ▸ grows)
        exact Nat.le_zero.mp (none ▸ ((rest.append second).callsTo_le l.id).1)
    · subst split
      obtain ⟨r₂, since, rest⟩ := last.split
      obtain ⟨r₃, deed, same, step, rest⟩ := rest.of_cons
      obtain ⟨rfl, rfl⟩ := Entry.mk.inj same
      cases step with
      | announce notice =>
        rw [← since.expects_eq numbered joined life notice.event]
        exact rest.callsTo_le l.id
  · have living := course.living idle
    refine ⟨living, ?_⟩
    rw [Emitter.sum_count, Emitter.live, Emitter.size, List.filter_eq_self.mpr]
    simpa using living

/-- A listener that is registered for two calls announces its event again whenever it is called: the
outer two announcements call it, and the third does not. -/
theorem Course.lifetimes_own_event :
    let l : Listener := ⟨1, .opened, .times 2, 5⟩
    let notice : Notice := { event := .opened }
    let third : List Entry := [⟨3, .ended 0⟩, ⟨2, .ended 1⟩, ⟨1, .ended 1⟩]
    let second : List Entry :=
      ⟨2, .called { l with ttl := .times 1 } notice⟩ :: ⟨2, .announced notice⟩ :: third
    let first : List Entry := ⟨1, .called l notice⟩ :: ⟨1, .announced notice⟩ :: second
    let log : List Entry := ⟨0, .joined l⟩ :: ⟨0, .announced notice⟩ :: first
    ∃ r, Course { emitter := { capacity := 4 } } log r ∧ log.countP (·.deed.summons 1) ≤ 2 ∧
      callsTo 1 0 first = 1 ∧ callsTo 1 1 second = 1 ∧ callsTo 1 2 third = 0 ∧
      (Event.all.map r.emitter.count).sum = r.emitter.size := by
  intro l notice third second first log
  have fresh : Course { emitter := { capacity := 4 } } [] { emitter := { capacity := 4 } } := .start
  have joined : Course _ [⟨0, .joined l⟩] _ := fresh.step (.register rfl)
  have outer := joined.step (.announce notice)
  have called : Course _ [_, _, ⟨1, .called l notice⟩] _ := outer.step (.call rfl)
  have nested := called.step (.announce notice)
  have again : Course _ [_, _, _, _, ⟨2, .called { l with ttl := .times 1 } notice⟩] _ :=
    nested.step (.call rfl)
  have inner := again.step (.announce notice)
  have ended := inner.step (.finish (by decide) rfl)
  have ended := ended.step (.finish (by decide) rfl)
  have course : Course _ log _ := ended.step (.finish (by decide) rfl)
  obtain ⟨life, -, idle⟩ := course.lifetimes
  obtain ⟨-, total, -, later⟩ := life [] 0 l 2 _ rfl rfl
  exact ⟨_, course, total, (later [] 0 notice first rfl).2 rfl,
    (later [_, _] 1 notice second rfl).2 rfl, (later [_, _, _, _] 2 notice third rfl).2 rfl,
    (idle rfl).2⟩

end Relay

end StorageEngine
