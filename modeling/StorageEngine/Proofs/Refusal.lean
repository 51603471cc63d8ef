import StorageEngine.Proofs.Interleaving
import StorageEngine.Proofs.Leases

/-!
# What a refused call leaves behind

A call is under way until its answer is on top of what the stack held before it
(`Storage.Unanswered`).  Most calls make one request, which is refused or admitted by a single step:
either nothing has changed, or an answer of success waits on the stack until the call returns
(`Storage.Decides`).

A destruction makes two requests, and so does a data operation that sends an opening ahead.  The
first one is a call of its own, inside of the second one's: it has a task to return to
(`Task.IsFrame`), and what it brings about is done when it returns.  If the second request is
refused then, only the second one leaves nothing behind (`RunWhile.framed`).

* `RunWhile.decided` — a call that makes one request;
* `RunWhile.split` — a call inside of a call;
* `Storage.Alike.givesBack` — what a refused request has leased has been given back;
* `Storage.refused_call` — a refused call.
-/

namespace StorageEngine

namespace Storage

/-- The same storage, apart from the numbers that were given out, the counters of the allocator and
the stack. -/
def Alike (s s' : Storage) : Prop :=
  ∃ n a stack, s.nextId ≤ n ∧ s' = { s with nextId := n, allocator := a, stack := stack }

/-- The call that was made on top of this stack has not been answered. -/
def Unanswered (below : List Task) (s : Storage) : Prop :=
  ∀ reply, s.stack ≠ .answer reply :: below

instance (below : List Task) (s : Storage) : Decidable (s.Unanswered below) :=
  decidable_of_iff (s.stack.tail = below → s.answer? = none) <| by
    unfold Unanswered answer?
    split
    case h_1 reply rest top => simp [top]
    case h_2 other =>
      refine ⟨fun _ reply top => other reply below top, fun _ _ => rfl⟩

/-- The next step refuses a request, and nothing has changed, or the call will be answered with
success. -/
def Decides (below : List Task) (s : Storage) : Prop :=
  ∃ s', s.step = some s' ∧
    ((s.incidents = [] ∧ s.Alike s' ∧ ∃ e, s'.stack = .answer (.done (.error e)) :: below) ∨
      .answer (.done (.ok ())) :: below <:+ s'.stack)

/-- If both are balanced, what the allocator has got back on the way from one state to the other are
the blocks of these requests. -/
def GivesBack (s s' : Storage) (rs : List Request) : Prop :=
  s.Balanced [] → s'.Balanced [] → ∃ blocks bytes,
    s.allocator.Holds (blocks + Request.blocks rs) (bytes + Request.bytes rs) ∧
      s'.allocator.Holds blocks bytes

variable {s s' s'' : Storage}

/-- The allocator and the stack may differ. -/
theorem alike_with (s : Storage) (a : Allocator) (stack : List Task) :
    s.Alike { s with allocator := a, stack := stack } :=
  ⟨s.nextId, a, stack, Nat.le_refl _, rfl⟩

theorem Alike.refl (s : Storage) : s.Alike s :=
  s.alike_with _ _

theorem Alike.trans (first : s.Alike s') (second : s'.Alike s'') : s.Alike s'' := by
  obtain ⟨n, a, stack, later, rfl⟩ := first
  obtain ⟨n', a', stack', later', rfl⟩ := second
  exact ⟨n', a', stack', Nat.le_trans later later', rfl⟩

/-- What a call has leased has been given back if it holds no more requests than before. -/
theorem Alike.givesBack (alike : s.Alike s') {rs : List Request}
    (held : s.stack.flatMap (·.requests) = rs ++ s'.stack.flatMap (·.requests)) :
    s.GivesBack s' rs := by
  obtain ⟨n, a, stack, -, rfl⟩ := alike
  intro balanced balanced'
  refine ⟨_, _, ?_, balanced'⟩
  obtain ⟨count, sum⟩ := balanced
  constructor <;> simp [requests, held] at count sum ⊢ <;> omega

/-- It is the storage's turn as long as there is a step. -/
theorem isAtRest_of_step (next : s.step = some s') : s.isAtRest = false := by
  rw [isAtRest, next]
  rfl

theorem step_of_submit {o : Order} {below : List Task} (top : s.stack = .submit o :: below) :
    s.step = some ({ s with stack := below }.submit o) := by
  rw [step, top]
  rfl

theorem alike_push (s : Storage) (tasks : List Task) : s.Alike (s.push tasks) :=
  s.alike_with _ _

end Storage

section Answers

variable {s s' : Storage} {i : History} {below : List Task} {reply : Reply}

/-- As long as the call has not been answered, its answer is not the topmost task. -/
theorem Storage.Unanswered.deeper (unanswered : s.Unanswered below) {task : Task}
    {rest : List Task} (top : s.stack = task :: rest)
    (held : .answer reply :: below <:+ s.stack) : .answer reply :: below <:+ rest := by
  rw [top, List.suffix_cons_iff] at held
  rcases held with same | deeper
  · exact (unanswered reply (top.trans same.symm)).elim
  · exact deeper

/-- The answer of a call waits below what is still to be done. -/
theorem Turn.keeps_answer (t : Turn s i s') (unanswered : s.Unanswered below)
    (held : .answer reply :: below <:+ s.stack) : .answer reply :: below <:+ s'.stack := by
  cases t with
  | lost top => exact held
  | recorded top emitter announced =>
    have deeper := unanswered.deeper top held
    cases announced <;> simp_all [List.suffix_cons_iff]
  | @freed r idle rest top =>
    have deeper := unanswered.deeper top held
    cases idle <;> simp_all [List.suffix_cons_iff]
  | _ top =>
    have deeper := unanswered.deeper top held
    simp_all [List.suffix_cons_iff]

/-- Clients take no answer of a call that has not been answered. -/
theorem Move.keeps_answer {a : Action} (m : Move s a i s') (unanswered : s.Unanswered below)
    (held : .answer reply :: below <:+ s.stack) : .answer reply :: below <:+ s'.stack := by
  cases m with
  | left top | collected top => exact unanswered.deeper top held
  | _ => simp_all [List.suffix_cons_iff]

end Answers

section Segments

variable {holds : Storage → Prop} {u u' t : Storage} {h : History} {below : List Task}
  {reply : Reply} {frame : Task}

/-- A run does not go on from where it may not. -/
theorem RunWhile.eq_start {rule : Rule} (run : RunWhile holds rule u h t) (ended : ¬ holds u) :
    h = [] ∧ t = u := by
  induction run with
  | start => exact ⟨rfl, rfl⟩
  | step _ still _ ih | move _ _ still _ _ ih => exact (ended (ih.2 ▸ still)).elim

/-- A run begins with the step that there is. -/
theorem RunWhile.first_step (run : RunWhile holds Rule.free u h t) (next : u.step = some u') :
    (h = [] ∧ t = u) ∨ ∃ h', h = u.incidents ++ h' ∧ RunWhile holds Rule.free u' h' t := by
  induction run with
  | start => exact .inl ⟨rfl, rfl⟩
  | @step h s s' _ still goes ih =>
    obtain ⟨rfl, rfl⟩ | ⟨h', rfl, later⟩ := ih
    · obtain rfl := Option.some.inj (next.symm.trans goes)
      exact .inr ⟨[], by simp, .start⟩
    · exact .inr ⟨h' ++ s.incidents, by simp, later.step still goes⟩
  | @move h s a _ still turn allowed ih =>
    obtain ⟨rfl, rfl⟩ | ⟨h', rfl, later⟩ := ih
    · rw [Storage.isAtRest_of_step next] at turn
      exact absurd turn Bool.false_ne_true
    · exact .inr ⟨h' ++ s.incidentsOf a, by simp, later.move a still turn trivial⟩

/-- The answer of a call waits until the call is answered. -/
theorem RunWhile.keeps_answer {rule : Rule}
    (run : RunWhile (Storage.Unanswered below) rule u h t)
    (held : .answer reply :: below <:+ u.stack) : .answer reply :: below <:+ t.stack := by
  induction run with
  | start => exact held
  | step _ still next ih => exact (turn_of_step next).keeps_answer still ih
  | move a _ still _ _ ih => exact (move_of_act _ a).keeps_answer still ih

/-- A call that makes one request: it has not begun yet, or the request was refused and nothing has
changed, or the call will be answered with success. -/
theorem RunWhile.decided (run : RunWhile (Storage.Unanswered below) Rule.free u h t)
    (decides : u.Decides below) :
    (h = [] ∧ t = u) ∨
      (h = [] ∧ u.Alike t ∧ ∃ e, t.stack = .answer (.done (.error e)) :: below) ∨
      .answer (.done (.ok ())) :: below <:+ t.stack := by
  obtain ⟨u', next, outcome⟩ := decides
  obtain unbegun | ⟨h', rfl, later⟩ := run.first_step next
  · exact .inl unbegun
  · obtain ⟨quiet, alike, e, answered⟩ | held := outcome
    · obtain ⟨rfl, rfl⟩ := later.eq_start fun unanswered => unanswered _ answered
      exact .inr (.inl ⟨by simp [quiet], alike, e, answered⟩)
    · exact .inr (.inr (later.keeps_answer held))

/-- How a call that makes one request returns. -/
theorem RunWhile.returned (run : RunWhile (Storage.Unanswered below) Rule.free u h t)
    (decides : u.Decides below) (begun : u.Unanswered below) (returned : ¬ t.Unanswered below) :
    (h = [] ∧ u.Alike t ∧ ∃ e, t.stack = .answer (.done (.error e)) :: below) ∨
      t.stack = .answer (.done (.ok ())) :: below := by
  obtain ⟨-, rfl⟩ | refused | held := run.decided decides
  · exact (returned begun).elim
  · exact .inl refused
  · unfold Storage.Unanswered at returned
    push Not at returned
    obtain ⟨reply, answered⟩ := returned
    rw [answered] at held
    rw [answered, held.eq_of_length rfl]
    exact .inr rfl

/-- A call that makes one request and is answered with an error has changed nothing. -/
theorem RunWhile.refused (run : RunWhile (Storage.Unanswered below) Rule.free u h t)
    (decides : u.Decides below) {e : Error}
    (answered : t.stack = .answer (.done (.error e)) :: below) : h = [] ∧ u.Alike t := by
  obtain ⟨rfl, rfl⟩ | ⟨quiet, alike, -⟩ | held := run.decided decides
  · exact ⟨rfl, .refl t⟩
  · exact ⟨quiet, alike⟩
  · rw [answered] at held
    simpa using held.eq_of_length rfl

/-- A call inside of a call: either the inner one is under way, or it has returned and the outer one
has gone on. -/
theorem RunWhile.split (run : RunWhile (Storage.Unanswered below) Rule.free u h t)
    (resumes : ∀ h s, RunWhile (Storage.Unanswered (frame :: below)) Rule.free u h s →
      ¬ s.Unanswered (frame :: below) → s.isAtRest = false) :
    RunWhile (Storage.Unanswered (frame :: below)) Rule.free u h t ∨
      ∃ h₁ mid mid' h₂, RunWhile (Storage.Unanswered (frame :: below)) Rule.free u h₁ mid ∧
        ¬ mid.Unanswered (frame :: below) ∧ mid.step = some mid' ∧
        RunWhile (Storage.Unanswered below) Rule.free mid' h₂ t ∧
        h = h₁ ++ mid.incidents ++ h₂ := by
  induction run with
  | start => exact .inl .start
  | @step h s s' _ still next ih =>
    obtain inner | ⟨h₁, mid, mid', h₂, inner, returned, goes, outer, rfl⟩ := ih
    · by_cases unanswered : s.Unanswered (frame :: below)
      · exact .inl (inner.step unanswered next)
      · exact .inr ⟨h, s, s', [], inner, unanswered, next, .start, by simp⟩
    · exact .inr ⟨h₁, mid, mid', h₂ ++ s.incidents, inner, returned, goes, outer.step still next,
        by simp⟩
  | @move h s a _ still turn allowed ih =>
    obtain inner | ⟨h₁, mid, mid', h₂, inner, returned, goes, outer, rfl⟩ := ih
    · by_cases unanswered : s.Unanswered (frame :: below)
      · exact .inl (inner.move a unanswered turn trivial)
      · rw [resumes h s inner unanswered] at turn
        exact absurd turn Bool.false_ne_true
    · exact .inr ⟨h₁, mid, mid', h₂ ++ s.incidentsOf a, inner, returned, goes,
        outer.move a still turn trivial, by simp⟩

end Segments

section Frames

/-- A call waits in this task for a call of its own: it fails with it, and goes on with a request of
its own otherwise. -/
structure Task.IsFrame (frame : Task) : Prop where
  fails : ∀ (s : Storage) (below : List Task) (e : Error),
    s.stack = .answer (.done (.error e)) :: frame :: below → ∃ s', s.step = some s' ∧
      s.incidents = [] ∧ s.Alike s' ∧ s'.stack = .answer (.done (.error e)) :: below
  goesOn : ∀ (s : Storage) (below : List Task),
    s.stack = .answer (.done (.ok ())) :: frame :: below → ∃ s', s.step = some s' ∧
      s.incidents = [] ∧ s.Alike s' ∧ s'.Decides below

variable {u t : Storage} {h : History} {below : List Task} {frame : Task} {e : Error}

/-- A call that makes two requests and is refused: nothing has changed, or the first one has come to
its end and nothing has changed since. -/
theorem RunWhile.framed (run : RunWhile (Storage.Unanswered below) Rule.free u h t)
    (isFrame : frame.IsFrame) {o : Order} (started : u.stack = .submit o :: frame :: below)
    (first : u.Decides (frame :: below))
    (answered : t.stack = .answer (.done (.error e)) :: below) :
    (h = [] ∧ u.Alike t) ∨
      ∃ mid, RunWhile (Storage.Unanswered (frame :: below)) Rule.free u h mid ∧
        mid.stack = .answer (.done (.ok ())) :: frame :: below ∧ mid.Alike t ∧
        mid.GivesBack t frame.requests := by
  have begun : u.Unanswered (frame :: below) := by
    intro reply same
    simp [started] at same
  have resumes (h : History) (s : Storage)
      (inner : RunWhile (Storage.Unanswered (frame :: below)) Rule.free u h s)
      (returned : ¬ s.Unanswered (frame :: below)) : s.isAtRest = false := by
    obtain ⟨-, -, e, top⟩ | top := inner.returned first begun returned
    · obtain ⟨s', next, -⟩ := isFrame.fails s below e top
      exact Storage.isAtRest_of_step next
    · obtain ⟨s', next, -⟩ := isFrame.goesOn s below top
      exact Storage.isAtRest_of_step next
  obtain inner | ⟨h₁, mid, mid', h₂, inner, returned, next, outer, rfl⟩ := run.split resumes
  · -- The stack is too short for the inner call to be under way.
    have short : t.stack.length = below.length + 1 := by rw [answered, List.length_cons]
    obtain ⟨-, rfl⟩ | ⟨-, -, e, top⟩ | held := inner.decided first
    · simp [started] at short
    · simp [top] at short
    · have long := held.length_le
      simp only [List.length_cons] at long
      omega
  obtain ⟨rfl, alike, e', top⟩ | top := inner.returned first begun returned
  · obtain ⟨failed, goes, quiet, same, top'⟩ := isFrame.fails mid below e' top
    obtain rfl := Option.some.inj (next.symm.trans goes)
    obtain ⟨rfl, rfl⟩ := outer.eq_start fun unanswered => unanswered _ top'
    exact .inl ⟨by simp [quiet], alike.trans same⟩
  · obtain ⟨going, goes, quiet, same, decides⟩ := isFrame.goesOn mid below top
    obtain rfl := Option.some.inj (next.symm.trans goes)
    obtain ⟨rfl, later⟩ := outer.refused decides answered
    have alike := same.trans later
    refine .inr ⟨mid, ?_, top, alike, alike.givesBack (by simp [top, answered])⟩
    rwa [quiet, List.append_nil, List.append_nil]

end Frames

section Requests

variable {s : Storage} {o : Order} {r : Request} {below : List Task}

/-- The submission of a barrier refuses or admits it. -/
theorem decides_submit (top : s.stack = .submit o :: below) (barrier : o.kind.isBarrier) :
    s.Decides below := by
  have next := Storage.step_of_submit top
  refine ⟨_, next, ?_⟩
  have turn := turn_of_step next
  generalize { s with stack := below }.submit o = s' at turn ⊢
  generalize s.incidents = i at turn ⊢
  cases turn with
  | refused top' e a n later =>
    obtain ⟨-, rfl⟩ : _ ∧ _ = below := by simpa using top'.symm.trans top
    exact .inl ⟨rfl, ⟨n, a, _, later, rfl⟩, e, rfl⟩
  | queued top' =>
    obtain ⟨-, rfl⟩ : _ ∧ _ = below := by simpa using top'.symm.trans top
    exact .inr (List.suffix_cons _ _)
  | deferred top' _ _ _ noBarrier | offered top' _ _ _ noBarrier =>
    obtain ⟨rfl, -⟩ : _ = o ∧ _ := by simpa using top'.symm.trans top
    exact absurd barrier noBarrier
  | _ => simp_all

/-- So does the admission of a data request. -/
theorem decides_enter (top : s.stack = .enter r :: below) : s.Decides below := by
  have next : s.step = some ({ s with stack := below }.enter r) := by
    rw [Storage.step, top]
    rfl
  refine ⟨_, next, ?_⟩
  have turn := turn_of_step next
  generalize { s with stack := below }.enter r = s' at turn ⊢
  generalize s.incidents = i at turn ⊢
  cases turn with
  | turnedAway top' e a =>
    obtain ⟨-, rfl⟩ : _ ∧ _ = below := by simpa using top'.symm.trans top
    exact .inl ⟨rfl, s.alike_with _ _, e, rfl⟩
  | waiting top' =>
    obtain ⟨-, rfl⟩ : _ ∧ _ = below := by simpa using top'.symm.trans top
    exact .inr List.suffix_rfl
  | entered top' =>
    obtain ⟨-, rfl⟩ : _ ∧ _ = below := by simpa using top'.symm.trans top
    exact .inr (List.suffix_cons _ _)
  | _ => simp_all

/-- A destruction waits for its closing, and then submits its own request. -/
theorem isFrame_awaitClosing (barrier : o.kind.isBarrier) : (Task.awaitClosing o).IsFrame where
  fails s below e top := by
    refine ⟨{ s with stack := below }.reply (.done (.error e)), ?_, ?_, ?_, rfl⟩
    · rw [Storage.step, top]
      rfl
    · rw [Storage.incidents, top]
      rfl
    · exact s.alike_with _ _
  goesOn s below top := by
    refine ⟨{ s with stack := below }.push [.submit o], ?_, ?_, ?_, decides_submit rfl barrier⟩
    · rw [Storage.step, top]
      rfl
    · rw [Storage.incidents, top]
      rfl
    · exact s.alike_with _ _

/-- A data request waits for its opening, and then runs or waits. -/
theorem isFrame_awaitOpening (r : Request) : (Task.awaitOpening r).IsFrame where
  fails s below e top := by
    refine ⟨{ s with stack := below }.afterOpening r (.error e), ?_, ?_, ?_, rfl⟩
    · rw [Storage.step, top]
      rfl
    · rw [Storage.incidents, top]
      rfl
    · exact s.alike_with _ _
  goesOn s below top := by
    have next : s.step = some ({ s with stack := below }.afterOpening r (.ok ())) := by
      rw [Storage.step, top]
      rfl
    have quiet : s.incidents = [] := by
      rw [Storage.incidents, top]
      rfl
    have entering : ∃ r', { s with stack := below }.afterOpening r (.ok ()) =
        { s with stack := below }.push [.enter r'] := by
      unfold Storage.afterOpening
      dsimp only
      split
      · split
        · exact ⟨_, rfl⟩
        · exact ⟨_, rfl⟩
      · exact ⟨_, rfl⟩
    obtain ⟨r', entering⟩ := entering
    rw [entering] at next
    exact ⟨_, next, quiet, s.alike_with _ _, decides_enter rfl⟩

end Requests

section Calls

/-- What is left of a call that was refused is a call of its own: it was made with a task waiting
for it, it has come to its end, and nothing has changed since. -/
def Storage.LeavesOnly (s : Storage) (first : Operation) (h : History) (s' : Storage) : Prop :=
  ∃ base frame mid, s.Alike base ∧ base.stack = frame :: s.stack ∧
    RunWhile (Storage.Unanswered (frame :: s.stack)) Rule.free
      (base.act (.call first none none)) h mid ∧
    mid.stack = .answer (.done (.ok ())) :: frame :: s.stack ∧ mid.Alike s' ∧
    mid.GivesBack s' frame.requests

variable {s s' : Storage} {h : History} {op : Operation} {receiver : Option Receiver}
  {observer : Option Observer} {e : Error}

/-- A data operation is refused at once, or sends an opening ahead, or is admitted. -/
theorem step_submit_data {o : Order} {below : List Task} (top : s.stack = .submit o :: below)
    (data : o.kind.isData) : ∃ u, s.step = some u ∧ s.incidents = [] ∧ s.Alike u ∧
      ((∃ e, u.stack = .answer (.done (.error e)) :: below) ∨
        (∃ r, u.stack = .submit { kind := .opening } :: .awaitOpening r :: below ∧
          s.needsOpen = true ∧ s.ready ≠ .opened) ∨
        ∃ r, u.stack = .enter r :: below) := by
  have noBarrier : o.kind.isBarrier = false := by
    cases kind : o.kind <;> simp_all [Kind.isData, Kind.isBarrier]
  have next := Storage.step_of_submit top
  have quiet : s.incidents = [] := by
    rw [Storage.incidents, top]
    simp only [Storage.performance, Storage.submission, noBarrier, Bool.false_eq_true, if_false]
    repeat' split
    all_goals rfl
  refine ⟨_, next, quiet, ?_⟩
  unfold Storage.submit
  split
  · exact ⟨s.alike_with _ _, .inl ⟨_, rfl⟩⟩
  split
  · exact ⟨s.alike_with _ _, .inl ⟨_, rfl⟩⟩
  obtain ⟨a, made⟩ | ⟨a, bytes, buffer, made, -⟩ :=
    ({ s with stack := below } : Storage).make_cases o
  · rw [made]
    exact ⟨s.alike_with _ _, .inl ⟨_, rfl⟩⟩
  rw [made]
  simp only [noBarrier, Bool.false_eq_true, if_false]
  unfold Storage.admitData
  split
  case isTrue opens =>
    refine ⟨⟨s.nextId + 1, a, _, Nat.le_succ _, rfl⟩, .inr (.inl ⟨_, rfl, opens⟩)⟩
  case isFalse =>
    exact ⟨⟨s.nextId + 1, a, _, Nat.le_succ _, rfl⟩, .inr (.inr ⟨_, rfl⟩)⟩

/-- A data operation that is refused. -/
theorem RunWhile.refused_data {o : Order}
    (run : RunWhile (Storage.Unanswered s.stack) Rule.free (s.push [.submit o]) h s')
    (data : o.kind.isData) (answered : s'.stack = .answer (.done (.error e)) :: s.stack) :
    (h = [] ∧ s.Alike s') ∨ (s.needsOpen = true ∧ s.ready ≠ .opened) ∧
      s.LeavesOnly .opening h s' := by
  have top : (s.push [.submit o]).stack = .submit o :: s.stack := rfl
  obtain ⟨u, next, quiet, alike, outcome⟩ := step_submit_data top data
  have alike := (s.alike_push _).trans alike
  obtain ⟨rfl, rfl⟩ | ⟨h', rfl, later⟩ := run.first_step next
  · exact .inl ⟨rfl, s.alike_push _⟩
  rw [quiet, List.nil_append]
  obtain ⟨e', failed⟩ | ⟨r, deferred, opens⟩ | ⟨r, entering⟩ := outcome
  · obtain ⟨rfl, rfl⟩ := later.eq_start fun unanswered => unanswered _ failed
    exact .inl ⟨rfl, alike⟩
  · obtain ⟨quiet, same⟩ | ⟨mid, inner, succeeded, same⟩ :=
      later.framed (isFrame_awaitOpening r) deferred (decides_submit deferred rfl) answered
    · exact .inl ⟨quiet, alike.trans same⟩
    · let base : Storage := { u with stack := .awaitOpening r :: s.stack }
      have shut : base.isOpenSettled = false := by
        obtain ⟨n, a, stack, -, rfl⟩ := alike
        have shut : s.ready ≠ .opened := opens.2
        simp [Storage.isOpenSettled, base, shut]
      have called : base.act (.call .opening none none) = u := by
        simp only [Storage.act, Storage.call, shut, Bool.false_eq_true, and_false, if_false]
        change { u with stack := .submit { kind := .opening } :: .awaitOpening r :: s.stack } = u
        rw [← deferred]
      refine .inr ⟨opens, base, .awaitOpening r, mid, ?_, rfl, called ▸ inner, succeeded, same⟩
      exact alike.trans (u.alike_with _ _)
  · obtain ⟨rfl, same⟩ := later.refused (decides_enter entering) answered
    exact .inl ⟨rfl, alike.trans same⟩

/-- An opening is answered at once, or makes one request. -/
theorem RunWhile.refused_opening
    (run : RunWhile (Storage.Unanswered s.stack) Rule.free
      (s.act (.call .opening receiver observer)) h s')
    (answered : s'.stack = .answer (.done (.error e)) :: s.stack) : h = [] ∧ s.Alike s' := by
  by_cases settled : observer = none ∧ s.isOpenSettled
  · have held : .answer (.done (.ok ())) :: s.stack <:+
        (s.act (.call .opening receiver observer)).stack := by
      simp only [Storage.act, Storage.call, settled, and_self, if_true]
      rcases receiver with _ | _ | _
      · exact List.suffix_rfl
      · exact List.suffix_cons _ _
      · exact List.suffix_rfl
    have waits := run.keeps_answer held
    rw [answered] at waits
    simpa using waits.eq_of_length rfl
  · have submits : s.act (.call .opening receiver observer) =
        s.push [.submit { kind := .opening, receiver, observer }] := by
      simp [Storage.act, Storage.call, settled, Operation.order]
    rw [submits] at run
    obtain ⟨quiet, alike⟩ := run.refused (decides_submit rfl rfl) answered
    exact ⟨quiet, (s.alike_push _).trans alike⟩

/-- A destruction that is refused. -/
theorem RunWhile.refused_destroying
    (run : RunWhile (Storage.Unanswered s.stack) Rule.free
      (s.act (.call .destroying receiver observer)) h s')
    (answered : s'.stack = .answer (.done (.error e)) :: s.stack) :
    (h = [] ∧ s.Alike s') ∨ s.LeavesOnly .closing h s' := by
  let frame : Task := .awaitClosing (Operation.destroying.order receiver observer)
  have isFrame : frame.IsFrame := isFrame_awaitClosing rfl
  obtain ⟨quiet, alike⟩ | ⟨mid, inner, succeeded, same⟩ :=
    run.framed isFrame rfl (decides_submit rfl rfl) answered
  · exact .inl ⟨quiet, (s.alike_push _).trans alike⟩
  · exact .inr ⟨s.push [frame], frame, mid, s.alike_push _, rfl, inner, succeeded, same⟩

end Calls

end StorageEngine
