import StorageEngine.Proofs.Announcements
import StorageEngine.Storage.Action

/-!
# The table of listeners

A table is changed by registrations, withdrawals and announcements, and an announcement purges it
when it ends, even when it has begun inside another one.  What all of them keep is told by one
invariant (`Emitter.IsTable`): the table is bounded, it stands in the order of registration, numbers
are given from one on without a gap, and everybody in it is a listener that has joined.

* `Relay.Step.table` — each deed keeps the invariant, and `Relay.Course.table` — so do all;
* `Relay.Course.gone` — a number that has left the table never comes back;
* `Withdrawal.apply_eq`, `Withdrawal.size_apply` — a withdrawal takes exactly those out that it is
  about;
* `Relay.Course.listener_table` — the table and the answers of a storage about it.
-/

namespace StorageEngine

open Relay

/-- A table of so many listeners at most, after these listeners have been registered. -/
structure Emitter.IsTable (e : Emitter) (capacity : Nat) (joined : List Listener) : Prop where
  capacity_eq : e.capacity = capacity
  bounded : e.size ≤ capacity
  ordered : e.ids.Pairwise (· < ·)
  /-- Numbers are given in turn. -/
  given : joined.map (·.id) = List.range' 1 joined.length
  next : e.nextId = joined.length + 1
  /-- Everybody in the table has joined, and is the same but for the calls since. -/
  origin : ∀ l ∈ e.listeners, ∃ first ∈ joined, ∃ k, l = { first with ttl := first.ttl.left k }

section Withdrawals

variable {e : Emitter} {id : ListenerId} {event : Event} {ttl : Ttl} {callback : Callback}

/-- A withdrawal keeps whoever it is not about, with the life that is left, in order. -/
theorem Withdrawal.apply_eq (w : Withdrawal) (e : Emitter) :
    w.apply e = { e with listeners := e.listeners.filter fun l => !w.hits l } := by
  rw [← w.listeners_apply e]
  cases w <;> rfl

/-- Those who stay and those who leave are all. -/
theorem Withdrawal.size_apply (w : Withdrawal) (e : Emitter) :
    (w.apply e).size + e.listeners.countP w.hits = e.size := by
  rw [Emitter.size, w.listeners_apply, ← List.countP_eq_length_filter, Emitter.size,
    List.length_eq_countP_add_countP w.hits, Nat.add_comm]
  simp

namespace Emitter

theorem mem_ids : id ∈ e.ids ↔ ∃ l ∈ e.listeners, l.id = id :=
  List.mem_map

/-- A number is withdrawn exactly if a listener in the table has it. -/
theorem size_off_lt : (e.off id).size < e.size ↔ id ∈ e.ids := by
  have all := (Withdrawal.byNumber id).size_apply e
  have some : 0 < e.listeners.countP (Withdrawal.byNumber id).hits ↔ id ∈ e.ids := by
    rw [List.countP_pos_iff, mem_ids]
    simp [Withdrawal.hits]
  rw [Withdrawal.apply] at all
  rw [← some]
  omega

theorem off_eq_self (absent : id ∉ e.ids) : e.off id = e := by
  have others : e.listeners.filter (fun l => l.id ≠ id) = e.listeners :=
    List.filter_eq_self.mpr fun l member => by
      simpa using fun same : l.id = id => absent (mem_ids.mpr ⟨l, member, same⟩)
  rw [off, retain, others]

/-- Exactly one listener leaves the table with a number that is in it. -/
theorem off_of_mem (ordered : e.ids.Pairwise (· < ·)) (present : id ∈ e.ids) :
    ∃ front l back, e.listeners = front ++ l :: back ∧ l.id = id ∧
      e.off id = { e with listeners := front ++ back } := by
  obtain ⟨l, member, rfl⟩ := mem_ids.mp present
  obtain ⟨front, back, split⟩ := List.append_of_mem member
  refine ⟨front, l, back, split, rfl, ?_⟩
  rw [ids, split, List.map_append, List.map_cons, List.pairwise_append, List.pairwise_cons]
    at ordered
  obtain ⟨-, ⟨after, -⟩, before⟩ := ordered
  have first : front.filter (fun x => x.id ≠ l.id) = front :=
    List.filter_eq_self.mpr fun x member => by
      simpa using Nat.ne_of_lt (before x.id (List.mem_map_of_mem member) l.id List.mem_cons_self)
  have last : back.filter (fun x => x.id ≠ l.id) = back :=
    List.filter_eq_self.mpr fun x member => by
      simpa using Nat.ne_of_gt (after x.id (List.mem_map_of_mem member))
  rw [off, retain, split, List.filter_append, first, List.filter_cons_of_neg (by simp), last]

/-- A registration needs room. -/
theorem size_lt_of_register {e' : Emitter}
    (registered : e.register event ttl callback = .ok (id, e')) : e.size < e.capacity := by
  obtain ⟨living, -, -⟩ := register_eq_ok registered
  by_contra full
  have full : e.capacity ≤ e.listeners.length := Nat.le_of_not_lt full
  simp [register, living, full] at registered

end Emitter

end Withdrawals

namespace Emitter

variable {e e' : Emitter} {capacity : Nat} {joined : List Listener} {id : ListenerId}
  {event : Event} {ttl : Ttl} {callback : Callback}

theorem isTable_fresh (capacity : Nat) : IsTable { capacity } capacity [] where
  capacity_eq := rfl
  bounded := Nat.zero_le _
  ordered := .nil
  given := rfl
  next := rfl
  origin := nofun

namespace IsTable

/-- Numbers in the table have been given. -/
theorem below (table : e.IsTable capacity joined) : ∀ id ∈ e.ids, 0 < id ∧ id < e.nextId := by
  intro id member
  obtain ⟨l, there, rfl⟩ := mem_ids.mp member
  obtain ⟨first, joins, k, rfl⟩ := table.origin l there
  have given : first.id ∈ joined.map (·.id) := List.mem_map_of_mem joins
  rw [table.given, List.mem_range'_1, Nat.add_comm 1, ← table.next] at given
  exact given

/-- A table with fewer listeners. -/
theorem of_sublist (table : e.IsTable capacity joined)
    (fewer : e'.listeners.Sublist e.listeners) (same : e'.capacity = e.capacity)
    (next : e'.nextId = e.nextId) : e'.IsTable capacity joined where
  capacity_eq := same.trans table.capacity_eq
  bounded := Nat.le_trans fewer.length_le table.bounded
  ordered := table.ordered.sublist (fewer.map _)
  given := table.given
  next := next.trans table.next
  origin l member := table.origin l (fewer.mem member)

/-- A table with one more listener. -/
theorem register (table : e.IsTable capacity joined)
    (registered : e.register event ttl callback = .ok (id, e')) :
    e'.IsTable capacity (joined ++ [⟨id, event, ttl, callback⟩]) := by
  have room := size_lt_of_register registered
  have numbered : e.IsNumbered := ⟨table.ordered, fun id member => (table.below id member).2⟩
  have ordered := (numbered.register registered).ordered
  obtain ⟨-, rfl, rfl⟩ := register_eq_ok registered
  have given := table.given
  have next := table.next
  refine ⟨table.capacity_eq, ?_, ordered, ?_, ?_, fun l member => ?_⟩
  · rw [table.capacity_eq] at room
    simpa [size, Nat.succ_le_iff] using room
  · rw [List.map_append, given, List.length_append, List.length_singleton, List.range'_1_concat,
      Nat.add_comm 1, ← next]
    rfl
  · rw [List.length_append, next]
    rfl
  · rcases List.mem_append.mp member with old | new
    · obtain ⟨first, joins, k, same⟩ := table.origin l old
      exact ⟨first, List.mem_append_left _ joins, k, same⟩
    · rw [List.mem_singleton.mp new]
      exact ⟨_, List.mem_append_right _ (List.mem_singleton_self _), 0, by simp⟩

/-- A table when an announcement begins. -/
theorem begin (table : e.IsTable capacity joined) (notice : Notice) :
    (e.begin notice).2.IsTable capacity joined where
  capacity_eq := table.capacity_eq
  bounded := (e.size_begin notice).symm ▸ table.bounded
  ordered := (e.ids_begin notice).symm ▸ table.ordered
  given := table.given
  next := table.next
  origin l member := by
    obtain ⟨l, there, rfl⟩ := List.mem_map.mp member
    obtain ⟨first, joins, k, rfl⟩ := table.origin l there
    split
    · exact ⟨first, joins, k + 1, by rw [Ttl.consume_eq, Ttl.left_add]⟩
    · exact ⟨first, joins, k, rfl⟩

end IsTable

end Emitter

/-- A storage answers a withdrawal with how many listeners it was about. -/
theorem Storage.withdraw_apply (s : Storage) (w : Withdrawal) : s.withdraw (w.apply s.emitter) =
    { s with emitter := w.apply s.emitter }.reply (.count (s.emitter.listeners.countP w.hits)) := by
  rw [Storage.withdraw, ← w.size_apply s.emitter, Nat.add_sub_cancel_left]

namespace Relay

variable {start r r' : Relay} {deed : Deed} {log : List Entry} {joined : List Listener}
  {id : ListenerId} {capacity : Nat}

/-- Each deed keeps a table. -/
theorem Step.table (step : Step r deed r') (table : r.emitter.IsTable capacity joined) :
    r'.emitter.IsTable capacity (joined ++ deed.joins) := by
  cases step with
  | register registered => exact table.register registered
  | refuse => exact (List.append_nil joined).symm ▸ table
  | withdraw w =>
    rw [w.apply_eq]
    exact (List.append_nil joined).symm ▸ table.of_sublist List.filter_sublist rfl rfl
  | announce notice => exact (List.append_nil joined).symm ▸ table.begin notice
  | call next =>
    obtain ⟨waiting, called, outer, -, rfl⟩ := next?_eq_some next
    exact (List.append_nil joined).symm ▸ table
  | finish under drained =>
    obtain ⟨told, called, outer, -, ended⟩ := finish_of_drained under drained
    rw [ended]
    exact (List.append_nil joined).symm ▸ table.of_sublist List.filter_sublist rfl rfl

/-- Whatever has happened, there is a table of whoever has joined. -/
theorem Course.table (course : Course start log r)
    (table : start.emitter.IsTable capacity joined) :
    r.emitter.IsTable capacity (joined ++ log.flatMap (·.deed.joins)) := by
  induction course with
  | start => simpa using table
  | step course next ih => simpa using next.table ih

/-- Only a new number comes into the table. -/
theorem Step.gone (step : Step r deed r') (given : id < r.emitter.nextId)
    (absent : id ∉ r.emitter.ids) : id < r'.emitter.nextId ∧ id ∉ r'.emitter.ids := by
  have fewer {e : Emitter} (fewer : e.listeners.Sublist r.emitter.listeners)
      (next : e.nextId = r.emitter.nextId) : id < e.nextId ∧ id ∉ e.ids :=
    ⟨next.symm ▸ given, fun back => absent ((fewer.map _).mem back)⟩
  cases step with
  | register registered =>
    obtain ⟨-, rfl, rfl⟩ := Emitter.register_eq_ok registered
    refine ⟨Nat.lt_succ_of_lt given, ?_⟩
    rw [Emitter.ids, List.map_append, List.mem_append]
    rintro (old | new)
    · exact absent old
    · exact Nat.ne_of_lt given (List.mem_singleton.mp new)
  | refuse => exact ⟨given, absent⟩
  | withdraw w =>
    rw [w.apply_eq]
    exact fewer List.filter_sublist rfl
  | announce notice =>
    exact ⟨given, (r.emitter.ids_begin notice).symm ▸ absent⟩
  | call next =>
    obtain ⟨waiting, called, outer, -, rfl⟩ := next?_eq_some next
    exact ⟨given, absent⟩
  | finish under drained =>
    obtain ⟨told, called, outer, -, ended⟩ := finish_of_drained under drained
    rw [ended]
    exact fewer List.filter_sublist rfl

/-- A number that has been given does not come back once it has left the table. -/
theorem Course.gone (course : Course r log r') (given : id < r.emitter.nextId)
    (absent : id ∉ r.emitter.ids) : id ∉ r'.emitter.ids := by
  suffices gone : id < r'.emitter.nextId ∧ id ∉ r'.emitter.ids from gone.2
  induction course with
  | start => exact ⟨given, absent⟩
  | step course next ih =>
    obtain ⟨given, absent⟩ := ih
    exact next.gone given absent

/-- **The table of listeners.**  Whatever has been registered, withdrawn and announced from an empty
table on, inside one another to any depth: the table never holds more listeners than its capacity.
It stands in the order of the numbers, which are given in turn from one on and so never twice; and
everybody in it has joined under this number, and is the same but for the calls since.  A withdrawal
takes out exactly the listeners that it is about and keeps the others with their life, in order; the
withdrawal of a number takes one listener out exactly if the number is in the table, and a number
that has been given and is no longer there never comes back, whatever happens later.  A storage with
this table answers a withdrawal with whether, or how many, listeners have left, and a registration
that it refuses, for want of life or of room, leaves it alone. -/
theorem Course.listener_table (course : Course { emitter := { capacity } } log r) :
    let e := r.emitter
    let joined := log.flatMap (·.deed.joins)
    (e.capacity = capacity ∧ e.size ≤ capacity) ∧
    (e.ids.Pairwise (· < ·) ∧ joined.map (·.id) = List.range' 1 joined.length ∧
      e.nextId = joined.length + 1) ∧
    (∀ l ∈ e.listeners, ∃ first ∈ joined, ∃ k, l = { first with ttl := first.ttl.left k }) ∧
    (∀ w : Withdrawal, w.apply e = { e with listeners := e.listeners.filter fun l => !w.hits l } ∧
      (w.apply e).size + e.listeners.countP w.hits = e.size) ∧
    (∀ id, ((e.off id).size < e.size ↔ id ∈ e.ids) ∧
      (id ∈ e.ids → ∃ front l back, e.listeners = front ++ l :: back ∧ l.id = id ∧
        e.off id = { e with listeners := front ++ back }) ∧
      (id < e.nextId → id ∉ e.ids → ∀ later r', Course r later r' →
        id ∉ r'.emitter.ids ∧ r'.emitter.off id = r'.emitter)) ∧
    ∀ s : Storage, s.emitter = e →
      (∀ id, s.act (.off id) = { s with emitter := e.off id }.reply (.flag (id ∈ e.ids))) ∧
      (∀ callback, s.act (.offCallback callback) =
        { s with emitter := e.offCallback callback }.reply
          (.count (e.listeners.countP fun l : Listener => l.callback = callback))) ∧
      (∀ event, s.act (.offEvent event) = { s with emitter := e.offEvent event }.reply
        (.count (e.listeners.countP fun l : Listener => l.event = event))) ∧
      ∀ event ttl callback, s.act (.register event ttl callback) =
        if ttl = .times 0 then s.reply (.registered (.error .invalidArgument))
        else if e.size = capacity then
          s.reply (.registered (.error (.capacityExceeded "listener table" capacity)))
        else
          let l : Listener := { id := e.nextId, event, ttl, callback }
          let e' : Emitter := { e with listeners := e.listeners ++ [l], nextId := e.nextId + 1 }
          { s with emitter := e' }.reply (.registered (.ok l.id)) := by
  intro e joined
  have table : e.IsTable capacity joined := course.table (Emitter.isTable_fresh capacity)
  refine ⟨⟨table.capacity_eq, table.bounded⟩, ⟨table.ordered, table.given, table.next⟩,
    table.origin, fun w => ⟨w.apply_eq e, w.size_apply e⟩, fun id => ⟨Emitter.size_off_lt,
      Emitter.off_of_mem table.ordered, fun given absent later r' course => ?_⟩,
    fun s same => ⟨fun id => ?_, fun callback => ?_, fun event => ?_, fun event ttl callback => ?_⟩⟩
  · have gone := course.gone given absent
    exact ⟨gone, Emitter.off_eq_self gone⟩
  · have flag : decide ((s.emitter.off id).size < s.emitter.size) = decide (id ∈ e.ids) := by
      rw [same]
      exact decide_eq_decide.mpr Emitter.size_off_lt
    rw [Storage.act, flag, same]
  · rw [← same]
    exact s.withdraw_apply (.byCallback callback)
  · rw [← same]
    exact s.withdraw_apply (.byEvent event)
  · have full : e.capacity ≤ e.listeners.length ↔ e.size = capacity := by
      rw [table.capacity_eq]
      exact ⟨Nat.le_antisymm table.bounded, Nat.le_of_eq ∘ Eq.symm⟩
    rw [Storage.act, Storage.register, Emitter.register, same]
    by_cases spent : ttl = .times 0
    · rw [if_pos spent, if_pos (by simpa [Ttl.isSpent] using spent)]
    · rw [if_neg spent, if_neg (by simpa [Ttl.isSpent] using spent)]
      by_cases none : e.size = capacity
      · rw [if_pos none, if_pos (full.mpr none), table.capacity_eq]
      · rw [if_neg none, if_neg fun more => none (full.mp more)]

/-- One listener withdraws another when it is called for the last time, and leaves the table at the
end of the announcement: neither number comes back, and a storage finds neither. -/
theorem Course.listener_table_purged :
    let first : Listener := ⟨1, .opened, .times 1, 5⟩
    let second : Listener := ⟨2, .closed, .forever, 6⟩
    let notice : Notice := { event := .opened }
    let log : List Entry := [⟨0, .joined first⟩, ⟨0, .joined second⟩, ⟨0, .announced notice⟩,
      ⟨1, .called first notice⟩, ⟨1, .withdrawn (.byNumber 2)⟩, ⟨1, .ended 1⟩]
    let r : Relay := { emitter := { capacity := 2, nextId := 3 } }
    Course { emitter := { capacity := 2 } } log r ∧
      (∀ later r', Course r later r' → 1 ∉ r'.emitter.ids ∧ 2 ∉ r'.emitter.ids) ∧
      ∀ s : Storage, s.emitter = r.emitter → s.act (.off 2) = s.reply (.flag false) := by
  intro first second notice log r
  have fresh : Course { emitter := { capacity := 2 } } [] { emitter := { capacity := 2 } } := .start
  have joined : Course _ [⟨0, .joined first⟩] _ := fresh.step (.register rfl)
  have joined : Course _ [_, ⟨0, .joined second⟩] _ := joined.step (.register rfl)
  have begun := joined.step (.announce notice)
  have called : Course _ [_, _, _, ⟨1, .called first notice⟩] _ := begun.step (.call rfl)
  have withdrawn := called.step (.withdraw (.byNumber 2))
  have course : Course _ log r := withdrawn.step (.finish (by decide) rfl)
  obtain ⟨-, -, -, -, numbers, answers⟩ := course.listener_table
  refine ⟨course, fun later r' after => ?_, fun s same => ?_⟩
  · exact ⟨((numbers 1).2.2 (by decide) (by decide) later r' after).1,
      ((numbers 2).2.2 (by decide) (by decide) later r' after).1⟩
  · obtain ⟨off, -⟩ := answers s same
    have absent : 2 ∉ r.emitter.ids := by decide
    rw [off 2, Emitter.off_eq_self absent, decide_eq_false absent, ← same]

end Relay

end StorageEngine
