import StorageEngine.Proofs.Refusal
import StorageEngine.Proofs.Stead

/-!
# The call behind a promise

A call behind a promise is made on top of a task that waits for its end (`Storage.Awaits`).  When it
has come to its end, the promise is the answer, and it keeps the error of a call that was refused:
the call returns by one step more than a call with a callback (`Storage.step_of_returning`), and in
the place of that callback nothing changes in that step (`Storage.recast_returned`).

* `Run.unused` — nothing has to do with a promise that has not been given out;
* `Awaits.unanswered_iff` — the call behind the promise returns where the call with the callback
  does;
* `RunWhile.awaited` — how far a call behind a promise has come;
* `Run.not_returning` — once it has returned, it does not return again.
-/

namespace StorageEngine

section Reach

variable {s s' : Storage} {h i : History} {a : Action} {m : Nat}

/-- A call behind a promise is made by a move. -/
theorem Turn.count_awaitCall (t : Turn s i s') (m : Nat) :
    s'.stack.count (.awaitCall m) ≤ s.stack.count (.awaitCall m) := by
  cases t with
  | recorded top emitter announced =>
    cases announced <;> simp [top]
  | @freed r idle rest top =>
    cases idle <;> simp [top]
  | promised top =>
    rw [top, List.count_cons_of_ne (by simp), List.count_cons_of_ne (by simp)]
    exact List.count_le_count_cons
  | _ => simp [*]

theorem Move.count_awaitCall (move : Move s a i s') (other : .promise m ∉ s.joins a) :
    s'.stack.count (.awaitCall m) ≤ s.stack.count (.awaitCall m) := by
  cases move with
  | promised | promisedDestruction | promisedAtOnce =>
    have other : s.nextPromise ≠ m := fun same => other (by simp [Storage.joins, same])
    simp [other]
  | _ => simp [*]

theorem Turn.unused (t : Turn s i s') (unused : s.Unused m) : s'.Unused m := by
  obtain ⟨receivers, awaits, answers, kept⟩ := unused
  have waits := t.receivers (.promise m)
  have calls := t.count_awaitCall m
  rw [List.count_eq_zero_of_not_mem receivers] at waits
  rw [List.count_eq_zero_of_not_mem awaits] at calls
  refine ⟨List.count_eq_zero.mp (by omega), List.count_eq_zero.mp (by omega), ?_, ?_⟩
  · cases t with
    | recorded top emitter announced =>
      cases announced <;> simp_all
    | @freed r idle rest top =>
      cases idle <;> simp_all
    | _ => simp_all
  · obtain same | ⟨n, v, addressed, added⟩ := Storage.kept_of_turn t
    · rwa [same]
    · have other : n ≠ m := by
        rintro rfl
        obtain ⟨r, idle, rest, top, told⟩ | ⟨reply, rest, top⟩ := Storage.addressed_cases addressed
        · exact receivers (by simp [Storage.receivers, top, Task.receivers, told])
        · exact awaits (by simp [top])
      rw [added]
      exact List.forall_mem_append.mpr ⟨kept, by simpa using other⟩

theorem Move.unused (move : Move s a i s') (other : .promise m ∉ s.joins a)
    (unused : s.Unused m) : s'.Unused m := by
  obtain ⟨receivers, awaits, answers, kept⟩ := unused
  have waits := move.receivers (.promise m)
  have calls := move.count_awaitCall other
  rw [List.count_eq_zero_of_not_mem receivers, List.count_eq_zero_of_not_mem other] at waits
  rw [List.count_eq_zero_of_not_mem awaits] at calls
  refine ⟨List.count_eq_zero.mp (by omega), List.count_eq_zero.mp (by omega), ?_, ?_⟩
  · cases move with
    | aside _ reply _ _ _ _ _ _ _ plain | discarded _ _ reply _ _ _ plain =>
      simpa [eq_comm] using ⟨plain m, answers⟩
    | _ => simp_all
  · obtain same | ⟨n, v, joins, added⟩ | ⟨n, -, dropped⟩ := Storage.kept_of_move move
    · rwa [same]
    · have other : n ≠ m := fun same => other (same ▸ joins)
      rw [added]
      exact List.forall_mem_append.mpr ⟨kept, by simpa using other⟩
    · rw [dropped]
      exact fun e held => kept e (List.mem_filter.mp held).1

theorem Turn.nextPromise_eq (t : Turn s i s') : s'.nextPromise = s.nextPromise := by
  cases t <;> rfl

theorem Storage.nextPromise_call (s : Storage) (op : Operation) (receiver : Option Receiver)
    (observer : Option Observer) : (s.call op receiver observer).nextPromise = s.nextPromise := by
  cases op with
  | opening =>
    simp only [call]
    split
    · rcases receiver with _ | _ | _ <;> rfl
    · rfl
  | _ => rfl

theorem Move.nextPromise_le (move : Move s a i s') : s.nextPromise ≤ s'.nextPromise := by
  cases move with
  | promised | promisedDestruction | promisedAtOnce => exact Nat.le_succ _
  | _ => exact Nat.le_refl _

/-- Nothing has to do with a promise that has not been given out. -/
theorem Run.unused {start : Storage} (initial : ∀ m, start.nextPromise ≤ m → start.Unused m)
    (run : Run Rule.genuine start h s) (later : s.nextPromise ≤ m) : s.Unused m := by
  induction run with
  | start => exact initial m later
  | step _ next ih =>
    have turn := turn_of_step next
    exact turn.unused (ih (turn.nextPromise_eq ▸ later))
  | @move h s a _ _ genuine ih =>
    have move := move_of_act s a
    refine move.unused (fun joins => ?_) (ih (Nat.le_trans move.nextPromise_le later))
    obtain rfl := Storage.joins_of_genuine genuine joins
    cases a with
    | promise op =>
      have given : (s.act (.promise op)).nextPromise = s.nextPromise + 1 :=
        Storage.nextPromise_call ..
      omega
    | call op receiver observer =>
      obtain rfl : receiver = some (.promise s.nextPromise) := by
        simpa [Storage.joins] using joins
      exact genuine _ _ _ rfl
    | _ => simp [Storage.joins] at joins

theorem Storage.unused_create (capabilities : Capabilities) (limits : Limits)
    (allocator : Allocator) : (create capabilities limits allocator).Unused m := by
  constructor <;> simp [create, receivers]

end Reach

/-- The storage when a number has been taken for a promise. -/
def Storage.numbered (s : Storage) : Storage :=
  { s with nextPromise := s.nextPromise + 1 }

/-- A call that is made on top of this stack waits for the end of the call behind a promise. -/
structure Storage.Awaits (s : Storage) (number : Nat) (below : List Task) : Prop where
  held : .awaitCall number :: below <:+ s.stack
  once : s.stack.count (.awaitCall number) ≤ 1

section Awaits

variable {number : Nat} {below : List Task} {s s' : Storage} {i : History} {a : Action}

theorem Turn.keeps_awaitCall (t : Turn s i s') (stays : ¬ s.Returning number)
    (held : .awaitCall number :: below <:+ s.stack) :
    .awaitCall number :: below <:+ s'.stack := by
  cases t with
  | recorded top emitter announced =>
    cases announced <;> simp_all [List.suffix_cons_iff]
  | @freed r idle rest top =>
    cases idle <;> simp_all [List.suffix_cons_iff]
  | @promised n result rest top kept keeps =>
    rw [top, List.suffix_cons_iff, List.suffix_cons_iff] at held
    obtain same | same | held := held
    · simp at same
    · obtain ⟨rfl, -⟩ : number = n ∧ below = rest := by simpa using same
      exact absurd ⟨_, _, top⟩ stays
    · exact held.trans (List.suffix_cons _ _)
  | _ => simp_all [List.suffix_cons_iff]

theorem Move.keeps_awaitCall (m : Move s a i s')
    (held : .awaitCall number :: below <:+ s.stack) :
    .awaitCall number :: below <:+ s'.stack := by
  cases m <;> simp_all [List.suffix_cons_iff]

/-- Only an answer becomes an answer. -/
theorem Task.answer_of_recast {c : Recast} {t : Task} {reply : Reply}
    (shown : t.recast c = some (.answer reply)) : ∃ reply', t = .answer reply' := by
  cases t with
  | answer reply' => exact ⟨reply', rfl⟩
  | _ => simp [recast] at shown

/-- No task is left out but the one that waits for the call behind the promise. -/
theorem Task.eq_singleton_of_recast_stead {code : Callback} {result : Except Error Unit}
    {tasks : List Task} {t' : Task} (others : .awaitCall number ∉ tasks)
    (shown : tasks.filterMap (·.recast (.stead number code result)) = [t']) :
    ∃ t, tasks = [t] ∧ t.recast (.stead number code result) = some t' := by
  have visible : ∀ t ∈ tasks, (t.recast (.stead number code result)).isSome := by
    intro t onStack
    cases t with
    | awaitCall m =>
      have other : m ≠ number := fun same => others (same ▸ onStack)
      simp [recast, Recast.stead, other]
    | _ => rfl
  have one : tasks.length = 1 := by
    rw [← List.countP_eq_length.mpr visible, ← List.length_filterMap_eq_countP, shown]
    rfl
  obtain ⟨t, rfl⟩ := List.length_eq_one_iff.mp one
  refine ⟨t, rfl, ?_⟩
  obtain ⟨u, visible⟩ := Option.isSome_iff_exists.mp (visible t (List.mem_singleton_self t))
  rw [List.filterMap_cons_some visible] at shown
  rw [visible, (List.cons_eq_cons.mp shown).1]

/-- With the callback in the place of the promise, nobody waits for the call that returns. -/
theorem Storage.stack_recast_of_returning {code : Callback} {result : Except Error Unit}
    (shown : below.filterMap (·.recast (.stead number code result)) = below) {reply : Reply}
    (top : s.stack = .answer reply :: .awaitCall number :: below) :
    (s.recast (.stead number code result)).stack =
      .answer (reply.recast (.stead number code result)) :: below := by
  have hidden : (Task.awaitCall number).recast (.stead number code result) = none := by
    simp [Task.recast, Recast.stead]
  rw [stack_recast, top, List.filterMap_cons_some (by rfl), List.filterMap_cons_none hidden, shown]

namespace Storage.Awaits

theorem turn (awaits : s.Awaits number below) (stays : ¬ s.Returning number) (t : Turn s i s') :
    s'.Awaits number below where
  held := t.keeps_awaitCall stays awaits.held
  once := Nat.le_trans (t.count_awaitCall number) awaits.once

theorem move (awaits : s.Awaits number below) (other : .promise number ∉ s.joins a)
    (m : Move s a i s') : s'.Awaits number below where
  held := m.keeps_awaitCall awaits.held
  once := Nat.le_trans (m.count_awaitCall other) awaits.once

/-- What has been called on top of the call. -/
theorem split (awaits : s.Awaits number below) : ∃ above,
    s.stack = above ++ .awaitCall number :: below ∧ .awaitCall number ∉ above ∧
      .awaitCall number ∉ below := by
  obtain ⟨⟨above, stack⟩, once⟩ := awaits
  rw [← stack, List.count_append, List.count_cons_self] at once
  exact ⟨above, stack.symm, List.count_eq_zero.mp (by omega), List.count_eq_zero.mp (by omega)⟩

/-- When the call behind the promise returns, nothing else is on top of the call. -/
theorem returning (awaits : s.Awaits number below) {reply : Reply} {rest : List Task}
    (top : s.stack = .answer reply :: .awaitCall number :: rest) : rest = below := by
  obtain ⟨above, stack, fresh, -⟩ := awaits.split
  rw [top] at stack
  cases above with
  | nil => simp at stack
  | cons t above =>
    cases above with
    | nil => exact (by simpa using stack : _ ∧ rest = below).2
    | cons t' above =>
      obtain ⟨-, rfl, -⟩ : _ ∧ .awaitCall number = t' ∧ _ := by simpa using stack
      exact absurd (by simp) fresh

/-- As long as the call behind the promise has not returned, the call has no answer. -/
theorem unanswered (awaits : s.Awaits number below) : s.Unanswered below := by
  intro reply top
  have held := awaits.held
  rw [top] at held
  simpa using held.eq_of_length rfl

/-- The call with the callback returns where the call behind the promise does. -/
theorem unanswered_iff (awaits : s.Awaits number below) {code : Callback}
    {result : Except Error Unit}
    (shown : below.filterMap (·.recast (.stead number code result)) = below) :
    (s.recast (.stead number code result)).Unanswered below ↔ ¬ s.Returning number := by
  obtain ⟨above, stack, fresh, -⟩ := awaits.split
  have hidden : (Task.awaitCall number).recast (.stead number code result) = none := by
    simp [Task.recast, Recast.stead]
  have stack' : (s.recast (.stead number code result)).stack =
      above.filterMap (·.recast (.stead number code result)) ++ below := by
    rw [stack_recast, stack, List.filterMap_append, List.filterMap_cons_none hidden, shown]
  constructor
  · rintro unanswered ⟨reply, rest, top⟩
    obtain rfl := awaits.returning top
    exact unanswered _ (stack_recast_of_returning shown top)
  · intro stays reply top
    rw [stack', ← List.singleton_append, List.append_cancel_right_eq] at top
    obtain ⟨t, rfl, shown⟩ := Task.eq_singleton_of_recast_stead fresh top
    obtain ⟨reply', rfl⟩ := Task.answer_of_recast shown
    exact stays ⟨reply', below, stack⟩

end Storage.Awaits

end Awaits

/-- What a promise keeps for a call that was refused. -/
def refusal : Except Error Unit → List (Except Error Payload)
  | .ok () => []
  | .error e => [.error e]

/-- The storage when the call behind a promise has returned with this result. -/
def Storage.returned (s : Storage) (number : Nat) (result : Except Error Unit)
    (below : List Task) : Storage :=
  { s with
    kept := s.kept ++ (refusal result).map (number, ·)
    stack := .answer (.promise number) :: below }

section Returned

variable {number : Nat} {code : Callback} {result : Except Error Unit} {below : List Task}
  {s s' : Storage} {h : History}

/-- The call behind a promise returns without anything else. -/
theorem Storage.step_of_returning
    (top : s.stack = .answer (.done result) :: .awaitCall number :: below) :
    s.incidents = [] ∧ s.step = some (s.returned number result below) := by
  constructor
  · rw [incidents, top]
    rfl
  · rw [step, top]
    cases result <;> simp [resume?, returned, refusal, reply, push, keep]

theorem Storage.told_returned (s : Storage) (number : Nat) (result : Except Error Unit)
    (below : List Task) :
    (s.returned number result below).told number = s.told number ++ refusal result := by
  cases result <;> simp [told, returned, refusal]

/-- With the callback in the place of the promise, nothing changes. -/
theorem Storage.recast_returned
    (top : s.stack = .answer (.done result) :: .awaitCall number :: below) :
    (s.returned number result below).recast (.stead number code result) =
      s.recast (.stead number code result) := by
  have kept : (Recast.stead number code result).kept (s.returned number result below).kept =
      (Recast.stead number code result).kept s.kept := by
    cases result <;> simp [Recast.stead, returned, refusal]
  have stack : (s.returned number result below).stack.filterMap
        (·.recast (.stead number code result)) =
      s.stack.filterMap (·.recast (.stead number code result)) := by
    rw [top]
    simp [returned, Task.recast, Reply.recast, Recast.stead]
  rw [recast, recast, kept, stack]
  rfl

end Returned

section Phases

variable {number : Nat} {code : Callback} {below : List Task} {s s' u : Storage} {h : History}
  {holds : Storage → Prop}

/-- The call waits as long as the call behind the promise has not returned. -/
theorem RunWhile.awaits (run : RunWhile (¬ ·.Returning number) (Rule.recording number code) u h s)
    (hosts : u.Hosts number code) (awaits : u.Awaits number below) :
    s.Hosts number code ∧ s.Awaits number below := by
  induction run with
  | start => exact ⟨hosts, awaits⟩
  | step _ stays next ih =>
    have turn := turn_of_step next
    exact ⟨turn.hosts ih.1, ih.2.turn stays turn⟩
  | @move h s a _ stays turn allowed ih =>
    have move := move_of_act s a
    refine ⟨move.hosts ih.1 turn allowed, ih.2.move (fun joins => ?_) move⟩
    have same := Storage.joins_of_genuine allowed.1 joins
    have given := ih.1.given
    omega

/-- A call behind a promise that is under way has not returned, or it has just returned. -/
theorem RunWhile.awaited
    (run : RunWhile (Storage.Unanswered below) (Rule.recording number code) u h s)
    (hosts : u.Hosts number code) (awaits : u.Awaits number below) :
    ∃ t, RunWhile (¬ ·.Returning number) (Rule.recording number code) u h t ∧
      (s = t ∨ ∃ result, t.stack = .answer (.done result) :: .awaitCall number :: below ∧
        s = t.returned number result below) := by
  induction run with
  | start => exact ⟨u, .start, .inl rfl⟩
  | @step h s s' _ still next ih =>
    obtain ⟨t, run, rfl | ⟨result, -, rfl⟩⟩ := ih
    · by_cases returning : s.Returning number
      · obtain ⟨hosts, awaits⟩ := run.awaits hosts awaits
        obtain ⟨reply, rest, top⟩ := returning
        obtain rfl := awaits.returning top
        have linked := hosts.nested.linked
        rw [top] at linked
        obtain ⟨result, rfl⟩ := (linked.1 rfl).answer reply rfl
        obtain ⟨quiet, returns⟩ := Storage.step_of_returning top
        rw [quiet, List.append_nil]
        exact ⟨s, run, .inr ⟨result, top, Option.some.inj (next.symm.trans returns)⟩⟩
      · exact ⟨s', run.step returning next, .inl rfl⟩
    · exact absurd rfl (still _)
  | @move h s a _ still turn allowed ih =>
    obtain ⟨t, run, rfl | ⟨result, -, rfl⟩⟩ := ih
    · refine ⟨_, run.move a ?_ turn allowed, .inl rfl⟩
      rintro ⟨reply, rest, top⟩
      obtain ⟨hosts, -⟩ := run.awaits hosts awaits
      have inner := hosts.nested.awaits_eq_false turn top
      simp [Task.isAwait] at inner
    · exact absurd rfl (still _)

/-- A callback that only takes note gives control back, and there the run ends. -/
theorem RunWhile.of_calling {v : Except Error Payload}
    (run : RunWhile holds (Rule.recording number code) (u.push [.client (.done code v)]) h s)
    (waits : u.isCalling code = false) (ended : ¬ holds u) : h = [] ∧ s.yield code = u := by
  have calling : (u.push [.client (.done code v)]).isCalling code := by simp [Storage.isCalling]
  obtain ⟨rfl, rfl | rfl⟩ : h = [] ∧ (s = u.push [.client (.done code v)] ∨ s = u) := by
    induction run with
    | start => exact ⟨rfl, .inl rfl⟩
    | step _ still next ih =>
      obtain ⟨rfl, rfl | rfl⟩ := ih
      · rw [Storage.isAtRest_of_calling calling] at next
        simp at next
      · exact absurd still ended
    | move a _ still _ allowed ih =>
      obtain ⟨rfl, rfl | rfl⟩ := ih
      · obtain rfl := allowed.2.2.2.2 calling
        exact ⟨rfl, .inr rfl⟩
      · exact absurd still ended
  · rw [Storage.yield, if_pos calling]
    exact ⟨rfl, rfl⟩
  · rw [Storage.yield, waits]
    exact ⟨rfl, rfl⟩

/-- A call that nobody waits for any more does not return. -/
theorem Run.not_returning (run : Run (Rule.recording number code) u h s)
    (given : number < u.nextPromise) (gone : .awaitCall number ∉ u.stack) :
    ¬ s.Returning number := by
  obtain ⟨-, gone⟩ : number < s.nextPromise ∧ s.stack.count (.awaitCall number) = 0 := by
    induction run with
    | start => exact ⟨given, List.count_eq_zero_of_not_mem gone⟩
    | step _ next ih =>
      have turn := turn_of_step next
      have fewer := turn.count_awaitCall number
      exact ⟨turn.nextPromise_eq ▸ ih.1, by omega⟩
    | @move h s a _ _ allowed ih =>
      have move := move_of_act s a
      have later := move.nextPromise_le
      have other : .promise number ∉ s.joins a := by
        intro joins
        have same := Storage.joins_of_genuine allowed.1 joins
        omega
      have fewer := move.count_awaitCall other
      exact ⟨by omega, by omega⟩
  rintro ⟨reply, rest, top⟩
  exact absurd gone (by simp [top])

end Phases

end StorageEngine
