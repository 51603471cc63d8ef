import StorageEngine.Proofs.Marks

/-!
# An opening that fails

An opening that fails inside the device takes everything with it that waits in the queue at that
moment: each of these requests fails with the error of the opening, in the order of the queue, and
none of them reaches a handler.  The storage is where it was before the opening began, and asks for
another opening.

That the requests are `Fated` needs three facts about their queue: they bear the mark of that error
and no other, nothing clears them away, and they leave it one at a time.  The last one holds because
only draining takes requests from the queue in regular runs, and it waits until the one that it has
handed over has come to its end (`Task.Sheltered`).

* `Turn.doomed`, `Move.doomed` — what waits stays doomed;
* `Doomed.line` — nobody breaks into its line;
* `Run.ready_of_inside` — while an opening is inside, the state does not move on;
* `Run.opening_failure` — what waits behind an opening that fails shares its fate.
-/

namespace StorageEngine

/-- Draining goes on below every task that brings one of a group to its end. -/
def Task.Sheltered (group : List RequestId) : List Task → Prop
  | [] => True
  | t :: rest => ((∃ r ∈ t.due, r.id ∈ group) → .drainNext ∈ rest) ∧ Sheltered group rest

/-- A group that waits bears the mark of an opening that failed, and draining takes it from the
queue one by one.  Meanwhile the state does not move on. -/
structure Doomed (e : Error) (group : List RequestId) (ready : Ready) (s : Storage) : Prop where
  marked : ∀ r ∈ s.queue, r.id ∈ group → r.error = some e
  sheltered : Task.Sheltered group s.stack
  still : (∃ r ∈ s.queue, r.id ∈ group) → s.ready = ready

section Doomed

variable {s s' : Storage} {e : Error} {group : List RequestId} {ready : Ready} {h i : History}

theorem Task.Sheltered.draining {stack : List Task} (sheltered : Sheltered group stack) {t : Task}
    (onStack : t ∈ stack) {r : Request} (due : r ∈ t.due) (member : r.id ∈ group) :
    .drainNext ∈ stack := by
  induction stack with
  | nil => simp at onStack
  | cons task rest ih =>
    obtain rfl | below := List.mem_cons.mp onStack
    · exact List.mem_cons_of_mem _ (sheltered.1 ⟨r, due, member⟩)
    · exact List.mem_cons_of_mem _ (ih sheltered.2 below)

/-- As long as one of the group waits, the mark is on the queue. -/
theorem Doomed.tainted (inv : Doomed e group ready s) (marks : Marks s)
    (waits : ∃ r ∈ s.queue, r.id ∈ group) : Tainted e s := by
  obtain ⟨r, held, member⟩ := waits
  have error := inv.marked r held member
  obtain unmarked | ⟨e', tainted⟩ := marks
  · simp [unmarked r held] at error
  · rwa [tainted.queue.error_eq held error]

/-- Where no call is going on, none of the group waits. -/
theorem Doomed.not_waits (inv : Doomed e group ready s) (regular : Regular h s) (idle : s.isIdle) :
    ∀ r ∈ s.queue, r.id ∉ group := by
  intro r held member
  have pending := regular.wakeful.pending_pos regular.books idle (List.ne_nil_of_mem held)
  have outside := (inv.tainted regular.marks ⟨r, held, member⟩).outside
  rw [regular.books.pending_of_isIdle idle,
    List.filter_eq_nil_iff.mpr (by simpa using outside)] at pending
  exact absurd pending (Nat.lt_irrefl 0)

/-- Nobody breaks into the line of the group. -/
theorem Doomed.line (inv : Doomed e group ready s) (regular : Regular h s) :
    Line e group s := by
  have tainted := inv.tainted regular.marks
  refine ⟨?_, fun dead => .inl fun r held member => ?_,
    fun top => inv.not_waits regular (by simp [Storage.isIdle, top])⟩
  · intro r q rest top head member
    refine ⟨inv.marked r (by simp [head]) member, fun t below r due member => ?_⟩
    -- Draining is on the stack only once.
    have sheltered := inv.sheltered
    rw [top] at sheltered
    have again := List.count_pos_iff.mpr (sheltered.2.draining below due member)
    have once := regular.wakeful.draining
    rw [top, List.count_cons_self] at once
    have flag := s.draining.toNat_le
    omega
  · exact (tainted ⟨r, held, member⟩).living dead
section Rules

attribute [local simp] Order.request Request.queued

/-- None of the group joins the queue again. -/
theorem Turn.waits (t : Turn s i s') (fated : Fated e group h s)
    (waits : ∃ r ∈ s'.queue, r.id ∈ group) : ∃ r ∈ s.queue, r.id ∈ group := by
  have fresh : s.nextId ∉ group := fun old => absurd (fated.issued _ old) (Nat.lt_irrefl _)
  have fate := fated.fate
  cases t with
  | @drained r q rest top head =>
    obtain ⟨r', held, member⟩ := waits
    exact ⟨r', by simp [head, held], member⟩
  | settled => simpa using waits
  | _ => simp_all

/-- The mark stays the one that it is. -/
theorem Turn.marked_of_doomed (t : Turn s i s') (fated : Fated e group h s) (marks : Marks s)
    (inv : Doomed e group ready s) : ∀ r ∈ s'.queue, r.id ∈ group → r.error = some e := by
  have fresh : s.nextId ∉ group := fun old => absurd (fated.issued _ old) (Nat.lt_irrefl _)
  have fate := fated.fate
  have marked := inv.marked
  cases t with
  | @settled r dispatched rest top =>
    simp only [List.forall_mem_map, Request.fallout_id]
    intro q held member
    have error := marked q held member
    have same := (inv.tainted marks ⟨q, held, member⟩).error_eq top
    unfold Request.fallout
    split <;> simp_all [Request.poison]
  | drained top head => simp_all
  | queued | waiting => simp_all [or_imp, forall_and]
  | _ => simp_all

/-- What draining hands over comes to its end before draining goes on. -/
theorem Turn.sheltered (t : Turn s i s') (fated : Fated e group h s) (marks : Marks s)
    (inv : Doomed e group ready s) : Task.Sheltered group s'.stack := by
  have fate := fated.fate
  have sheltered := inv.sheltered
  cases t with
  | recorded top emitter announced => cases announced <;> simp_all [Task.Sheltered]
  | @freed r idle rest top => cases idle <;> simp_all [Task.Sheltered]
  | finished top r' _ _ _ _ follows => simp_all [Task.Sheltered, follows.id]
  | cleared top _ _ dead =>
    have none : ¬ ∃ r ∈ s.queue, r.id ∈ group :=
      fun waits => (inv.tainted marks waits).living dead
    simp_all [Task.Sheltered]
  | _ => simp_all [Task.Sheltered]

theorem Turn.doomed (t : Turn s i s') (fated : Fated e group h s) (marks : Marks s)
    (inv : Doomed e group ready s) : Doomed e group ready s' := by
  refine ⟨t.marked_of_doomed fated marks inv, t.sheltered fated marks inv, fun waits => ?_⟩
  have waited := t.waits fated waits
  rw [(t.standstill (inv.tainted marks waited)).1, inv.still waited]

theorem Move.doomed {a : Action} (m : Move s a i s') (fated : Fated e group h s)
    (allowed : a ≠ .shift) (inv : Doomed e group ready s) : Doomed e group ready s' := by
  obtain ⟨marked, sheltered, still⟩ := inv
  have stranger {id : RequestId} {r : Request} (found : s.find? id = some r) : r.id ∉ group :=
    fated.held r (List.mem_of_find?_eq_some found)
  cases m with
  | pushed found room =>
    have stranger := stranger found
    refine ⟨?_, by simpa [Task.Sheltered] using sheltered, fun waits => still ?_⟩
    · simpa [or_imp, forall_and, stranger] using marked
    · simpa [or_and_right, exists_or, stranger] using waits
  | shifted => exact absurd rfl allowed
  | pushAbandoned found | completed found | abandoned found =>
    have stranger := stranger found
    exact ⟨marked, by simp_all [Task.Sheltered, Request.fill], still⟩
  | left top | collected top => exact ⟨marked, by simp_all [Task.Sheltered], still⟩
  | _ => exact ⟨marked, by simpa [Task.Sheltered] using sheltered, still⟩

end Rules

end Doomed

section Inside

variable {s s' : Storage} {h i : History}

/-- A barrier that has begun and has not settled is alone inside. -/
theorem Accounts.counted_of_inside (books : Accounts h s) {o : Tag} (barrier : o.kind.isBarrier)
    (begun : o ∈ h.begun) (inside : o ∉ h.settled) (given : s.launched = []) :
    s.counted.map Request.tag = [o] := by
  have held : o ∈ s.counted.map Request.tag :=
    (books.inside_perm given).mem_iff.mp (List.mem_diff_of_mem begun inside)
  obtain ⟨r, counted, rfl⟩ := List.mem_map.mp held
  rw [(books.counted_of_barrier counted barrier).2, List.map_singleton]

/-- While a barrier is inside the device, the state does not move on. -/
theorem Turn.ready_of_inside (t : Turn s i s') (regular : Regular h s) {o : Tag}
    (barrier : o.kind.isBarrier) (begun : o ∈ h.begun) (inside : o ∉ (h ++ i).settled) :
    s'.ready = s.ready := by
  cases t with
  | @settled r dispatched rest top =>
    cases dispatched with
    | false =>
      have belongs := regular.tidy.orphans (.pipeline r (.settle false)) (by simp [top])
      exact Storage.transition_ready_of_error ((Task.belongs_settle ..).mp belongs rfl).2
    | true =>
      rw [History.settled_append, List.mem_append, not_or] at inside
      have given := regular.onTop.launched_of_top top rfl
      have counted := regular.books.counted_of_inside barrier begun inside.1 given
      have held : r.tag ∈ s.counted.map Request.tag :=
        List.mem_map_of_mem (by simp [s.counted_of_settle top])
      rw [counted, List.mem_singleton] at held
      exact absurd (by simp [History.settled, Incident.settled?, held]) inside.2
  | _ => rfl

/-- What counts as inside has begun and has not settled. -/
theorem Regular.inside_of_counted (regular : Regular h s) {r : Request} (held : r ∈ s.counted) :
    r.tag ∈ h.begun ∧ r.tag ∉ h.settled := by
  have inside : 0 < s.tally (· = r.tag) := List.countP_pos_iff.mpr ⟨r, held, by simp⟩
  have balance := regular.books.balance (· = r.tag)
  have once := (regular.once r.id).once
  have same : h.begun.countP (· = r.tag) ≤ h.begun.countP (·.id = r.id) :=
    List.countP_mono_left fun t _ is => by
      obtain rfl : t = r.tag := by simpa using is
      simp [Request.tag]
  refine ⟨?_, fun settled => ?_⟩
  · obtain ⟨t, begun, is⟩ := List.countP_pos_iff.mp
      (show 0 < h.begun.countP (· = r.tag) by omega)
    obtain rfl : t = r.tag := by simpa using is
    exact begun
  · have before : 0 < h.settled.countP (· = r.tag) :=
      List.countP_pos_iff.mpr ⟨r.tag, settled, by simp⟩
    omega

end Inside

section Run

variable {capabilities : Capabilities} {limits : Limits} {allocator : Allocator} {h : History}
  {s : Storage} (run : Run Rule.regular (Storage.create capabilities limits allocator) h s)

theorem Rule.regular_timeless : Rule.regular.Timeless :=
  fun _ _ _ _ => id

include run

theorem Run.ready_of_inside {o : Tag} (barrier : o.kind.isBarrier) (begun : o ∈ h.begun)
    {h₁ : History} {s₁ : Storage} (later : Run Rule.regular s h₁ s₁)
    (inside : o ∉ (h ++ h₁).settled) : s₁.ready = s.ready := by
  refine later.invariant (motive := fun h₁ s₁ => o ∉ (h ++ h₁).settled → s₁.ready = s.ready)
    (fun _ => rfl) ?_ ?_ inside
  · intro h₁ s₁ i s₂ later same t inside
    have before : o ∉ (h ++ h₁).settled := fun settled => inside (by simp_all)
    have regular := (run.append Rule.regular_timeless later).regular_of_create
    rw [t.ready_of_inside regular barrier (by simp [begun]) (by simpa using inside), same before]
  · intro h₁ s₁ a i s₂ _ same _ _ m inside
    have before : o ∉ (h ++ h₁).settled := fun settled => inside (by simp_all)
    rw [m.ready_eq, same before]

/-- A group that is doomed when a call goes on stays so, and none of it reaches the device. -/
theorem Run.doomed {e : Error} {group : List RequestId} {ready : Ready}
    (fated : Fated e group [] s) (doomed : Doomed e group ready s) {h₁ : History} {s₁ : Storage}
    (later : Run Rule.regular s h₁ s₁) :
    Fated e group h₁ s₁ ∧ Doomed e group ready s₁ ∧ ∀ id ∈ h₁.handled, id ∉ group := by
  refine later.invariant (motive := fun h₁ s₁ =>
    Fated e group h₁ s₁ ∧ Doomed e group ready s₁ ∧ ∀ id ∈ h₁.handled, id ∉ group)
    ⟨fated, doomed, by simp [History.handled]⟩ ?_ ?_
  · intro h₁ s₁ i s₂ later ⟨fated, doomed, unhandled⟩ t
    have regular := (run.append Rule.regular_timeless later).regular_of_create
    refine ⟨t.fated fated (doomed.line regular), t.doomed fated regular.marks doomed, ?_⟩
    simpa [or_imp, forall_and] using ⟨unhandled, t.handled_not_mem fated⟩
  · intro h₁ s₁ a i s₂ later ⟨fated, doomed, unhandled⟩ _ allowed m
    have regular := (run.append Rule.regular_timeless later).regular_of_create
    refine ⟨m.fated fated regular.custody fun shift => absurd shift allowed.2.1,
      m.doomed fated allowed.2.1 doomed, ?_⟩
    simpa [m.handled_eq_nil] using unhandled

end Run

/-- What follows an opening that failed with `e` when these requests waited; the storage was at
this point of its life. -/
structure Fanout (e : Error) (waited : List RequestId) (ready : Ready) (h : History) (s : Storage) :
    Prop where
  once : waited.Nodup
  /-- They fail with the error of the opening, in order, and each only once. -/
  fails : h.endingsOf waited <+: waited.map (·, some e)
  /-- None of them reaches a handler. -/
  unhandled : ∀ id ∈ h.handled, id ∉ waited
  /-- Their observers and callers are told that error. -/
  observed : ∀ r idle rest, s.stack = .pipeline r (.observe idle) :: rest → r.id ∈ waited →
    ∀ shared, (r.outcome shared).error = some e
  told : ∀ r idle rest, s.stack = .pipeline r (.conclude idle) :: rest → r.id ∈ waited →
    r.result = .error e
  /-- As long as one of them waits, the storage stays where it was and asks for an opening. -/
  still : (∃ r ∈ s.queue, r.id ∈ waited) → s.ready = ready ∧ s.needsOpen = true
  /-- Where no call is going on, all of them have failed, and they are no more. -/
  settled : s.isIdle →
    h.endingsOf waited = waited.map (·, some e) ∧ ∀ r ∈ s.requests, r.id ∉ waited

theorem Task.sheltered_of_not_due {group : List RequestId} {stack : List Task}
    (notDue : ∀ t ∈ stack, ∀ r ∈ t.due, r.id ∉ group) : Sheltered group stack := by
  induction stack with
  | nil => trivial
  | cons t rest ih =>
    obtain ⟨first, others⟩ := List.forall_mem_cons.mp notDue
    exact ⟨fun ⟨r, due, member⟩ => absurd member (first r due), ih others⟩

/-- **An opening that fails takes what waits with it.**  When an opening inside the device settles
with an error, everything in the queue fails with that error, in order and without reaching a
handler.  The storage is where it has been since the opening began, and asks for another one. -/
theorem Run.opening_failure {capabilities : Capabilities} {limits : Limits}
    {allocator : Allocator} {h : History} {s : Storage}
    (run : Run Rule.regular (Storage.create capabilities limits allocator) h s)
    {o : Request} {e : Error} {rest : List Task}
    (top : s.stack = .pipeline o (.settle true) :: rest) (opening : o.kind = .opening)
    (failed : o.error = some e) {s₁ : Storage} (next : s.step = some s₁) :
    s₁.needsOpen = true ∧
    (∀ h₀ s₀ h₁, Run Rule.regular (Storage.create capabilities limits allocator) h₀ s₀ →
      o.tag ∈ h₀.begun → Run Rule.regular s₀ h₁ s → s₁.ready = s₀.ready) ∧
    ∀ h₂ s₂, Run Rule.regular s₁ h₂ s₂ →
      Fanout e (s.queue.map (·.id)) s₁.ready h₂ s₂ := by
  obtain ⟨ready, asks, queue, -⟩ := (turn_of_step next).failed top opening failed
  have barrier : o.tag.kind.isBarrier := by
    rw [show o.tag.kind = .opening from opening]
    rfl
  refine ⟨asks, fun h₀ s₀ h₁ before begun later => ?_, fun h₂ s₂ later => ?_⟩
  · have regular := (before.append Rule.regular_timeless later).regular_of_create
    have inside := (regular.inside_of_counted (r := o) (by simp [s.counted_of_settle top])).2
    rw [ready, before.ready_of_inside barrier begun later inside]
  · have custody := (run.step next).custody (Storage.custody_create ..)
    have same : s.queue.map (·.id) = s₁.queue.map (·.id) := by
      rw [queue, List.map_map]
      rfl
    have marked : ∀ r ∈ s₁.queue, r.error = some e := by
      simp [queue, Request.poison]
    have start : Doomed e (s₁.queue.map (·.id)) s₁.ready s₁ :=
      ⟨fun r held _ => marked r held,
        Task.sheltered_of_not_due fun t onStack r => custody.not_due onStack, fun _ => rfl⟩
    rw [same]
    obtain ⟨fated, doomed, unhandled⟩ :=
      (run.step next).doomed (custody.fated e (h := []) (by simp [History.endings])) start later
    have regular := ((run.step next).append Rule.regular_timeless later).regular_of_create
    exact {
      once := custody.nodup_queue
      fails := fated.endings_prefix
      unhandled := unhandled
      observed := fun r idle rest top member shared => by
        have doomed := fated.fate (.pipeline r (.observe idle)) (by simp [top])
        simpa [Request.outcome, member] using doomed
      told := fun r idle rest => fated.result_eq
      still := fun waits => ⟨doomed.still waits, (doomed.tainted regular.marks waits).asks⟩
      settled := fun idle => by
        have none := doomed.not_waits regular idle
        refine ⟨fated.endings_eq idle none, ?_⟩
        have empty := flatMap_stack_eq_nil (f := Task.requests) idle fun reply => rfl
        simp only [Storage.requests, empty, List.append_nil, List.mem_append]
        rintro r (waits | outside)
        · exact none r waits
        · exact fated.held r outside }

/-- A read, a closing and a destruction that wait behind an opening that is not ready. -/
theorem Run.opening_failure_three :
    ∃ h s o rest s₁ h₂ s₂, Run Rule.regular (Storage.create .readWrite) h s ∧
      s.stack = .pipeline o (.settle true) :: rest ∧ o.kind = .opening ∧
      o.error = some .notReady ∧ s.step = some s₁ ∧ Run Rule.regular s₁ h₂ s₂ ∧ s₂.isIdle ∧
      s₁.needsOpen = true ∧ Fanout .notReady [2, 3, 4] s₁.ready h₂ s₂ := by
  have fresh : Run Rule.regular (Storage.create .readWrite) [] _ := .start
  have failed := fresh.play [
    (.call .opening (some (.call 1)) none, 40), (.leave, 40), (.collect, 0),
    (.call (.read 0 4) (some (.call 2)) none, 40), (.collect, 0),
    (.call .destroying (some (.call 3)) none, 40), (.collect, 0),
    (.complete 1 { result := .error .notReady }, 2)]
    ⟨⟨rfl, ⟨rfl, by simp⟩, by simp⟩, ⟨rfl, ⟨rfl, by simp⟩, by simp⟩,
      ⟨rfl, ⟨rfl, by simp⟩, by simp⟩, ⟨rfl, ⟨rfl, by simp⟩, by simp⟩,
      ⟨rfl, ⟨rfl, by simp⟩, by simp⟩, ⟨rfl, ⟨rfl, by simp⟩, by simp⟩,
      ⟨rfl, ⟨rfl, by simp⟩, by simp⟩, ⟨rfl, Rule.regular_complete rfl rfl⟩, trivial⟩
  obtain ⟨asks, -, fanout⟩ := Run.opening_failure failed rfl rfl rfl rfl
  refine ⟨_, _, _, _, _, _, _, failed, rfl, rfl, rfl, rfl, (Run.start.goOn 40).play
    [(.leave, 40), (.leave, 40), (.leave, 40), (.collect, 0)] ?_, rfl, asks, fanout _ _ ?_⟩
  · exact ⟨⟨rfl, ⟨rfl, by simp⟩, by simp⟩, ⟨rfl, ⟨rfl, by simp⟩, by simp⟩,
      ⟨rfl, ⟨rfl, by simp⟩, by simp⟩, ⟨rfl, ⟨rfl, by simp⟩, by simp⟩, trivial⟩
  · exact (Run.start.goOn 40).play
      [(.leave, 40), (.leave, 40), (.leave, 40), (.collect, 0)]
      ⟨⟨rfl, ⟨rfl, by simp⟩, by simp⟩, ⟨rfl, ⟨rfl, by simp⟩, by simp⟩,
        ⟨rfl, ⟨rfl, by simp⟩, by simp⟩, ⟨rfl, ⟨rfl, by simp⟩, by simp⟩, trivial⟩

end StorageEngine
