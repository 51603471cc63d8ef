import StorageEngine.Proofs.WakeUp

/-!
# What waits while a request comes to its end

The completion pipeline of a request calls client code, and client code may queue a barrier, which
drains the queue.  If that happens while the queue is being drained further down the stack, it is
left to that drain, and what waits begins only after the request has been freed
(`Run.uninterrupted`).

A pipeline need not run inside a drain: a request that the device finishes late, or that was handed
over without waiting, comes to its end outside of one.  Then the barrier begins at once, and its
observer and caller hear of it before the callback that queued it has returned
(`Run.interrupted`).

A request keeps the phase that it has in the queue until it runs, which tells the requests that
begin after waiting (`History.unblocked`) from those that are handed over at once.
-/

namespace StorageEngine

/-- The request that an incident hands over after it has waited in the queue. -/
def Incident.unblocked? : Incident → Option Tag
  | .begun r => if r.phase = .queued then some r.tag else none
  | _ => none

namespace History

/-- The requests that began after waiting in the queue, in order. -/
def unblocked (h : History) : List Tag :=
  h.filterMap Incident.unblocked?

@[simp] theorem unblocked_append (h i : History) :
    unblocked (h ++ i) = h.unblocked ++ i.unblocked :=
  List.filterMap_append

end History

/-- The completion pipeline of the request with this number is under way, on top of the tasks
`below`. -/
def Storage.isFinishing (id : RequestId) (below : List Task) (s : Storage) : Bool :=
  match s.stack.drop (s.stack.length - (below.length + 1)) with
  | .pipeline r _ :: rest => r.id = id && rest = below
  | _ => false

/-- The runs that go on only from storages of which `holds` is true. -/
inductive RunWhile (holds : Storage → Prop) (rule : Rule) (start : Storage) :
    History → Storage → Prop
  | start : RunWhile holds rule start [] start
  | step {h : History} {s s' : Storage} (run : RunWhile holds rule start h s) (still : holds s)
      (next : s.step = some s') : RunWhile holds rule start (h ++ s.incidents) s'
  | move {h : History} {s : Storage} (a : Action) (run : RunWhile holds rule start h s)
      (still : holds s) (turn : s.isAtRest) (allowed : rule h s a) :
      RunWhile holds rule start (h ++ s.incidentsOf a) (s.act a)

section Rules

variable {s s' : Storage} {i : History}

/-- What has waited begins only by draining. -/
theorem Turn.unblocked_eq_nil (t : Turn s i s') (inPlace : s.InPlace)
    (top : s.stack.head? ≠ some .drainNext) : i.unblocked = [] := by
  cases t with
  | @entered r rest entering =>
    have created : r.phase = .created := (inPlace.stack (.enter r) (by simp [entering])).1
    simp [History.unblocked, Incident.unblocked?, created]
  | drained draining => simp [draining] at top
  | lost | cleared => simp [History.unblocked, List.filterMap_map, Incident.unblocked?]
  | _ => simp [History.unblocked, Incident.unblocked?]

theorem Move.unblocked_eq_nil {a : Action} (m : Move s a i s') : i.unblocked = [] := by
  cases m <;> simp [History.unblocked, Incident.unblocked?]

/-- No client starts or ends a drain that is going on. -/
theorem Move.draining {a : Action} (m : Move s a i s')
    (inv : s.stack.count .drainNext = s.draining.toNat) :
    s'.stack.count .drainNext = s'.draining.toNat := by
  cases m <;> simp_all

end Rules

section Run

variable {rule : Rule} {start s : Storage} {h : History}

theorem Run.draining (initial : start.stack.count .drainNext = start.draining.toNat)
    (run : Run rule start h s) : s.stack.count .drainNext = s.draining.toNat :=
  run.invariant (motive := fun _ s => s.stack.count .drainNext = s.draining.toNat) initial
    (fun _ inv t => t.draining inv) (fun _ inv _ _ m => m.draining inv)

theorem RunWhile.run {holds : Storage → Prop} (during : RunWhile holds rule start h s) :
    Run rule start h s := by
  induction during with
  | start => exact .start
  | step _ _ next ih => exact ih.step next
  | move a _ _ turn allowed ih => exact ih.move a turn allowed

theorem RunWhile.mono {holds : Storage → Prop} {rule' : Rule}
    (during : RunWhile holds rule start h s) (laxer : ∀ h s a, rule h s a → rule' h s a) :
    RunWhile holds rule' start h s := by
  induction during with
  | start => exact .start
  | step _ still next ih => exact ih.step still next
  | move a _ still turn allowed ih => exact ih.move a still turn (laxer _ _ _ allowed)

/-- What holds of every state holds while a run goes on. -/
theorem Run.runWhile {holds : Storage → Prop} (run : Run rule start h s)
    (always : ∀ h s, Run rule start h s → holds s) : RunWhile holds rule start h s := by
  induction run with
  | start => exact .start
  | step run next ih => exact ih.step (always _ _ run) next
  | move a run turn allowed ih => exact ih.move a (always _ _ run) turn allowed

/-- Such a run goes on by the steps of its storage. -/
theorem RunWhile.goOn {holds : Storage → Prop} (during : RunWhile holds rule start h s) (n : Nat)
    (still : ∀ k < n, holds (Storage.goOn (h, s) k).2) :
    RunWhile holds rule start (Storage.goOn (h, s) n).1 (Storage.goOn (h, s) n).2 := by
  induction n generalizing h s with
  | zero => exact during
  | succ n ih =>
    unfold Storage.goOn
    cases next : s.step with
    | none => exact during
    | some s' =>
      refine ih (during.step (still 0 (Nat.succ_pos n)) next) fun k less => ?_
      have later := still (k + 1) (Nat.succ_lt_succ less)
      rwa [Storage.goOn, next] at later

/-- A pipeline on top of a drain is not itself a drain, and no other drain is above it. -/
theorem Storage.head?_ne_of_isFinishing {id : RequestId} {below : List Task}
    (finishing : s.isFinishing id below) (flag : s.stack.count .drainNext = s.draining.toNat)
    (draining : .drainNext ∈ below) : s.stack.head? ≠ some .drainNext := by
  intro top
  unfold isFinishing at finishing
  split at finishing
  case h_2 => simp at finishing
  case h_1 r stage rest split =>
    obtain ⟨-, rfl⟩ : _ ∧ rest = below := by simpa using finishing
    generalize s.stack.length - (rest.length + 1) = n at split
    have one : s.stack.count .drainNext ≤ 1 := flag ▸ s.draining.toNat_le
    cases stack : s.stack with
    | nil => simp [stack] at top
    | cons t tasks =>
      obtain rfl : t = .drainNext := by simpa [stack] using top
      cases n with
      | zero => simp [stack] at split
      | succ n =>
        -- One drain is on top, another one below the pipeline.
        rw [stack, List.drop_succ_cons] at split
        have held : Task.drainNext ∈ tasks :=
          List.mem_of_mem_drop (i := n) (by simp [split, draining])
        have again := List.count_pos_iff.mpr held
        rw [stack, List.count_cons_self] at one
        omega

end Run

/-- **Inside a drain, nothing that waits comes between.**  If the queue is being drained when a
request comes to its result, then no request that waits begins until it has been freed, whatever
its observer, its caller and listeners do meanwhile. -/
theorem Run.uninterrupted {capabilities : Capabilities} {limits : Limits} {allocator : Allocator}
    {h : History} {s : Storage}
    (run : Run Rule.free (Storage.create capabilities limits allocator) h s)
    {r : Request} {result : Except Error Nat} {below : List Task}
    (top : s.stack = .pipeline r (.record result) :: below) (draining : s.draining = true)
    {h₁ : History} {s₁ : Storage}
    (during : RunWhile (·.isFinishing r.id below) Rule.free s h₁ s₁) : h₁.unblocked = [] := by
  have flag : s.stack.count .drainNext = s.draining.toNat := run.draining rfl
  have beneath : .drainNext ∈ below := by
    rw [top, draining, List.count_cons_of_ne (by simp)] at flag
    exact List.count_pos_iff.mp (by simp [flag])
  have custody := run.custody (Storage.custody_create ..)
  induction during with
  | start => rfl
  | step during still next ih =>
    have quiet := (turn_of_step next).unblocked_eq_nil (during.run.custody custody).inPlace
      (Storage.head?_ne_of_isFinishing still (during.run.draining flag) beneath)
    rw [History.unblocked_append, ih, quiet, List.append_nil]
  | move a _ _ _ _ ih =>
    rw [History.unblocked_append, ih, (move_of_act _ a).unblocked_eq_nil, List.append_nil]

/-- An opening that comes to its end inside the drain that has started it; its caller queues a
closing, which waits. -/
theorem Run.uninterrupted_opening :
    ∃ h s r below h₁ s₁, Run Rule.free (Storage.create .readWrite) h s ∧
      s.stack = .pipeline r (.record (.ok 0)) :: below ∧ s.draining = true ∧
      RunWhile (·.isFinishing r.id below) Rule.free s h₁ s₁ ∧ s₁.queue.map (·.kind) = [.closing] ∧
      h₁.unblocked = [] := by
  have fresh : Run Rule.free (Storage.create .readWrite) [] _ := .start
  have run := fresh.play [(.call .opening (some (.call 1)) none, 40),
    (.complete 1 { result := .ok none }, 0)] ⟨⟨rfl, trivial⟩, ⟨rfl, trivial⟩, trivial⟩
  have ending {h : History} {s : Storage} (_ : Run Rule.free (Storage.create .readWrite) h s) :
    RunWhile (·.isFinishing 1 [.answer .unit, .client (.handler .openReadWrite 1), .drainNext,
      .answer (.done (.ok ()))]) Rule.free s [] s := .start
  have called := (ending run).goOn 6 (by decide +kernel)
  have during := (called.move (.call .closing (some (.call 2)) none) rfl rfl trivial).goOn
    3 (by decide +kernel)
  exact ⟨_, _, _, _, _, _, run, rfl, rfl, during, rfl, Run.uninterrupted run rfl rfl during⟩

/-- **Outside of a drain, something may come between.**  A read that the device finishes late: its
caller asks for an opening, which waits in the queue, begins, and is heard of by its observer and
its caller, all before the read has been freed. -/
theorem Run.interrupted :
    ∃ h s r below h₁ s₁, Run Rule.regular (Storage.create .readWrite) h s ∧
      s.stack = .pipeline r (.record (.ok 4)) :: below ∧ s.draining = false ∧
      RunWhile (·.isFinishing r.id below) Rule.regular s h₁ s₁ ∧ s₁.isFinishing r.id below ∧
      r.id = 2 ∧ h₁.unblocked = [⟨3, .opening⟩] ∧
      .invoked (.hook 4 ⟨3, .opening, none, none, 0, "x"⟩) ∈ h₁ ∧
      .invoked (.done 3 (.ok .unit)) ∈ h₁ := by
  have fresh : Run Rule.regular (Storage.create .readWrite) [] _ := .start
  have run := fresh.play [(.call .opening (some (.call 1)) none, 40), (.leave, 40), (.collect, 0),
      (.complete 1 { result := .ok none }, 40), (.leave, 40), (.collect, 0),
      (.call (.read 0 4) (some (.call 2)) none, 40), (.leave, 40), (.collect, 0),
      (.complete 2 { result := .ok none }, 0)]
    ⟨⟨rfl, ⟨rfl, by simp⟩, by simp⟩, ⟨rfl, ⟨rfl, by simp⟩, by simp⟩,
      ⟨rfl, ⟨rfl, by simp⟩, by simp⟩, ⟨rfl, Rule.regular_complete rfl rfl⟩,
      ⟨rfl, ⟨rfl, by simp⟩, by simp⟩, ⟨rfl, ⟨rfl, by simp⟩, by simp⟩,
      ⟨rfl, ⟨rfl, by simp⟩, by simp⟩, ⟨rfl, ⟨rfl, by simp⟩, by simp⟩,
      ⟨rfl, ⟨rfl, by simp⟩, by simp⟩, ⟨rfl, Rule.regular_complete rfl rfl⟩, trivial⟩
  have ending {h : History} {s : Storage} (_ : Run Rule.regular (Storage.create .readWrite) h s) :
    RunWhile (·.isFinishing 2 [.answer .unit]) Rule.regular s [] s := .start
  have called := (ending run).goOn 40 (by decide +kernel)
  have hooked := (called.move (.call .opening (some (.call 3)) (some ⟨4, "x"⟩)) rfl rfl
    ⟨⟨rfl, by simp⟩, by simp⟩).goOn 40 (by decide +kernel)
  have told := (hooked.move .leave rfl rfl ⟨⟨rfl, by simp⟩, by simp⟩).goOn 40 (by decide +kernel)
  exact ⟨_, _, _, _, _, _, run, rfl, rfl, told, rfl, rfl, rfl, by decide +kernel,
    by decide +kernel⟩

end StorageEngine
