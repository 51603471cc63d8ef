import StorageEngine.Proofs.WakeUp

/-!
# Requests that the device gives back

Whoever holds a request may put it into the queue, and a request that is inside the device is no
exception.  If the queue refuses it, it is let go of and finished as abandoned, as any request that
the device drops.  If the queue takes it, it waits and begins again like a new one, but nothing
takes it out of the count of what is inside: it has become a stray (`History.strays`).

To follow the books past that, the proof looks at the storage as though its strays had never left
the device (`Storage.haunted`).  There a request that is given back changes nothing that counts, so
the books stay right (`Run.books`).  What they say about the storage itself:

* without strays nothing differs from a device that gives nothing back;
* each stray is counted for ever, so that no barrier begins any more.
-/

namespace StorageEngine

/-- The request that the queue takes although it is inside the device. -/
def Incident.stray? : Incident → Option Request
  | .admitted r => if r.phase = .running then some r else none
  | _ => none

/-- The requests that were queued while they were inside the device, in order. -/
def History.strays (h : History) : List Request :=
  h.filterMap Incident.stray?

@[simp] theorem History.strays_append (h i : History) : strays (h ++ i) = h.strays ++ i.strays :=
  List.filterMap_append

theorem History.mem_strays {h : History} {r : Request} :
    r ∈ h.strays ↔ .admitted r ∈ h ∧ r.phase = .running := by
  unfold strays
  rw [List.mem_filterMap]
  constructor
  · rintro ⟨incident, happened, stray⟩
    cases incident with
    | admitted q =>
      obtain ⟨running, rfl⟩ : q.phase = .running ∧ q = r := by simpa [Incident.stray?] using stray
      exact ⟨happened, running⟩
    | _ => simp [Incident.stray?] at stray
  · rintro ⟨happened, running⟩
    exact ⟨.admitted r, happened, if_pos running⟩

/-- Somebody holds the storage; clients may do anything else. -/
def Rule.alive : Rule :=
  fun _ s _ => s.isAlive

instance (h : History) (s : Storage) (a : Action) : Decidable (Rule.alive h s a) :=
  inferInstanceAs (Decidable (s.isAlive = true))

/-- The storage as though these requests were inside the device. -/
def Storage.haunted (s : Storage) (ghosts : List Request) : Storage :=
  { s with outside := s.outside ++ ghosts }

section Haunted

variable {s s' : Storage} {ghosts : List Request} {h i : History}

theorem Storage.tally_haunted (running : ∀ r ∈ ghosts, r.phase = .running) (p : Tag → Bool) :
    (s.haunted ghosts).tally p = s.tally p + ghosts.countP fun r => p r.tag := by
  have inside : ghosts.filter (·.phase = .running) = ghosts :=
    List.filter_eq_self.mpr (by simpa using running)
  simp only [tally, counted, haunted, List.filter_append, inside, List.countP_append]
  omega

theorem Storage.LaunchOnTop.haunted (onTop : s.LaunchOnTop) (ghosts : List Request) :
    (s.haunted ghosts).LaunchOnTop :=
  onTop

/-- What is posted is posted whether the storage is haunted or not. -/
theorem Posting.haunted (e : Posting s i s') (running : ∀ r ∈ ghosts, r.phase = .running) :
    Posting (s.haunted ghosts) i (s'.haunted ghosts) := by
  have before := Storage.tally_haunted (s := s) running
  have after := Storage.tally_haunted (s := s') running
  cases e with
  | nothing begun settled tally launched pending barrier =>
    refine .nothing begun settled (fun p => ?_) launched pending barrier
    rw [after, before, tally]
  | handedOver r begun settled tally launched pending barrier free alone =>
    refine .handedOver r begun settled (fun p => ?_) launched pending barrier free alone
    rw [after, before, tally]
  | counted r begun settled tally launched pending barrier =>
    refine .counted r begun settled (fun p => ?_) launched pending barrier
    rw [after, before, tally, Nat.add_right_comm]
  | settled r begun settled tally launched pending barrier =>
    refine .settled r begun settled (fun p => ?_) launched pending barrier
    rw [after, before, tally, Nat.add_right_comm]

/-- Nothing strays in a step: what it admits has never run. -/
theorem Turn.strays_eq_nil (t : Turn s i s') (inPlace : s.InPlace) : i.strays = [] := by
  have created (r : Request) (rest : List Task) (top : s.stack = .enter r :: rest) :
      r.phase = .created := (inPlace.stack (.enter r) (by simp [top])).1
  cases t with
  | waiting top | entered top =>
    simp [History.strays, Incident.stray?, created _ _ top]
  | lost | cleared => simp [History.strays, List.filterMap_map, Incident.stray?]
  | _ => simp [History.strays, Incident.stray?]

/-- A request that is queued while it is inside the device leaves it, but not the books. -/
theorem Move.posting_haunted {a : Action} (m : Move s a i s') (custody : s.Custody)
    (alive : s.isAlive) (running : ∀ r ∈ ghosts, r.phase = .running) :
    Posting (s.haunted ghosts) i (s'.haunted (ghosts ++ i.strays)) := by
  by_cases kept : ∀ r, Incident.admitted r ∈ i → r.phase ≠ .running
  · have none : i.strays = [] := by
      refine List.eq_nil_iff_forall_not_mem.mpr fun r stray => ?_
      obtain ⟨admitted, inside⟩ := History.mem_strays.mp stray
      exact kept r admitted inside
    rw [none, List.append_nil]
    exact (m.posting_of_kept custody alive kept).haunted running
  · push Not at kept
    obtain ⟨r, admitted, inside⟩ := kept
    cases m with
    | @pushed id _ found room =>
      obtain rfl : r = _ := by simpa using admitted
      obtain ⟨before, after, split, taken, -⟩ :=
        Storage.outside_eq_of_find? (Storage.countP_outside_le custody.unique _) found
      have stray : History.strays [.asked (.push id), .admitted r] = [r] := by
        simp [History.strays, Incident.stray?, List.filterMap_cons, inside]
      rw [stray]
      refine .nothing rfl rfl (fun p => ?_) rfl rfl rfl
      simp only [Storage.haunted, Storage.tally, Storage.counted, split, taken,
        List.flatMap_cons, Task.counted, List.nil_append, List.filter_append, List.filter_cons,
        List.filter_nil, inside, decide_true, if_true, List.countP_append, List.countP_cons,
        List.countP_nil]
      omega
    | _ => simp at admitted

end Haunted

section Begin

variable {s : Storage} {h : History} {o : Order} {r : Request} {rest : List Task}

/-- The storage that has queued a barrier of this order, and will drain. -/
def Storage.awaiting (s : Storage) (o : Order) (rest : List Task) : Storage :=
  { s with
    allocator := (s.allocator.allocate Request.recordSize).2
    nextId := s.nextId + 1
    queue := s.queue ++ [(o.request s.nextId [] none).queued]
    stack := .drain :: .answer (.done (.ok ())) :: rest }

/-- A barrier that is ordered joins the queue. -/
theorem Storage.step_submit (top : s.stack = .submit o :: rest) (barrier : o.kind.isBarrier)
    (plain : o.payload = none) (room : s.HasRoom)
    (granted : (s.allocator.allocate Request.recordSize).1 = true) :
    s.step = some (s.awaiting o rest) ∧ s.incidents = [.admitted (o.request s.nextId [] none)] := by
  have living : s.isDestroyed = false := by simpa [isDestroyed] using room.living
  have lease : s.allocator.allocate Request.recordSize =
      (true, (s.allocator.allocate Request.recordSize).2) := Prod.ext granted rfl
  have made : { s with stack := rest }.make o = (some (o.request s.nextId [] none), { s with
      stack := rest
      allocator := (s.allocator.allocate Request.recordSize).2
      nextId := s.nextId + 1 }) := by
    unfold make
    dsimp only
    rw [lease, plain]
    rfl
  have queued : ({ s with
      stack := rest
      allocator := (s.allocator.allocate Request.recordSize).2
      nextId := s.nextId + 1 } : Storage).enqueue (o.request s.nextId [] none) = .ok { s with
        stack := rest
        allocator := (s.allocator.allocate Request.recordSize).2
        nextId := s.nextId + 1
        queue := s.queue ++ [(o.request s.nextId [] none).queued] } :=
    enqueue_eq_ok_iff.mpr ⟨⟨room.living, room.room⟩, rfl⟩
  have living' : ({ s with stack := rest } : Storage).isDestroyed = false := living
  constructor
  · unfold step
    rw [top]
    simp only [perform, submit, living', Kind.not_isData_of_isBarrier barrier, made, barrier,
      admitBarrier, queued, Bool.false_and, Bool.false_eq_true, if_false, if_true]
    rfl
  · unfold incidents
    rw [top]
    simp only [performance, submission, living', Kind.not_isData_of_isBarrier barrier, made,
      barrier, admission, queued, Bool.false_and, Bool.false_eq_true, if_false, if_true]

/-- With nothing inside the device, draining starts the head of the queue. -/
theorem Storage.goOn_drain (top : s.stack = .drain :: rest) (living : s.ready ≠ .destroyed)
    (waits : s.queue = [r]) (free : s.barrier = false) (none : s.pending = 0)
    (idle : s.draining = false) : (goOn (h, s) 2).1 = h ++ [.begun r] := by
  have first : s.step = some { s with draining := true, stack := .drainNext :: rest } := by
    unfold step
    rw [top]
    simp [perform, drain, idle, push]
  have quiet : s.incidents = [] := by simp [incidents, top, performance]
  have startable (stack : List Task) :
      ({ s with draining := true, stack } : Storage).startable? = some (r, []) := by
    simp [startable?, isDestroyed, living, free, none, waits]
  have begun : ({ s with draining := true, stack := .drainNext :: rest } : Storage).incidents =
      [.begun r] := by
    simp only [incidents, performance, startable]
  rw [goOn, first]
  dsimp only
  rw [quiet, List.append_nil, goOn]
  have goes : ∃ s', ({ s with draining := true, stack := .drainNext :: rest } : Storage).step =
      some s' := ⟨_, rfl⟩
  obtain ⟨s', goes⟩ := goes
  rw [goes]
  dsimp only
  rw [begun, goOn]

/-- With nothing inside the device and nothing waiting, a barrier that is ordered begins. -/
theorem Storage.begins (top : s.stack = .submit o :: rest) (barrier : o.kind.isBarrier)
    (plain : o.payload = none) (room : s.HasRoom)
    (granted : (s.allocator.allocate Request.recordSize).1 = true) (empty : s.queue = [])
    (free : s.barrier = false) (none : s.pending = 0) (idle : s.draining = false) :
    (goOn (h, s) 3).1.begun = h.begun ++ [⟨s.nextId, o.kind⟩] := by
  obtain ⟨next, admitted⟩ := step_submit top barrier plain room granted
  have waits : (s.awaiting o rest).queue = [(o.request s.nextId [] .none).queued] := by
    simp [awaiting, empty]
  have started := goOn_drain (s := s.awaiting o rest) (h := h ++ s.incidents) rfl room.living waits
    free none idle
  rw [goOn, next]
  dsimp only
  rw [started, admitted]
  simp [History.begun, Incident.begun?, List.filterMap_append, List.filterMap_cons,
    Request.tag, Order.request, Request.queued]

/-- The first request that a call of this operation makes. -/
def Operation.firstKind : Operation → Kind
  | .destroying => .closing
  | op => (op.order none none).kind

/-- With nothing inside the device and nothing waiting, a call that opens, closes or destroys the
storage has its first request begin. -/
theorem Storage.call_begins {op : Operation} {receiver : Option Receiver}
    {observer : Option Observer} (barrier : op.firstKind.isBarrier)
    (waits : ¬(op = .opening ∧ observer = none ∧ s.isOpenSettled = true)) (room : s.HasRoom)
    (granted : (s.allocator.allocate Request.recordSize).1 = true) (empty : s.queue = [])
    (free : s.barrier = false) (none : s.pending = 0) (idle : s.draining = false) :
    let a := Action.call op receiver observer
    (goOn (h ++ s.incidentsOf a, s.act a) 3).1.begun = h.begun ++ [⟨s.nextId, op.firstKind⟩] := by
  intro a
  have asked : s.incidentsOf a = [.asked a] := by
    change Incident.asked a :: s.answeredAtOnce op receiver observer = _
    rw [answeredAtOnce_of_not waits]
  have none' : (h ++ s.incidentsOf a).begun = h.begun := by
    rw [asked, History.begun_append]
    exact List.append_nil _
  obtain ⟨o, rest, ordered, kind, plain⟩ : ∃ o rest, s.act a = s.push (.submit o :: rest) ∧
      o.kind = op.firstKind ∧ o.payload = .none := by
    cases op with
    | destroying => exact ⟨_, _, rfl, rfl, rfl⟩
    | closing => exact ⟨_, [], rfl, rfl, rfl⟩
    | opening =>
      have waits : ¬(observer = .none ∧ s.isOpenSettled = true) := by simpa using waits
      have ordered : s.act a = s.push [.submit (Operation.opening.order receiver observer)] := by
        simp only [a, act, call, if_neg waits]
      exact ⟨_, [], ordered, rfl, rfl⟩
    | _ => exact absurd barrier Bool.false_ne_true
  rw [ordered, begins (s := s.push (.submit o :: rest)) rfl (kind ▸ barrier) plain
    ⟨room.living, room.room⟩ granted empty free none idle, none', kind]
  rfl

end Begin

section Books

variable {capabilities : Capabilities} {limits : Limits} {allocator : Allocator} {h i : History}
  {s s' : Storage} {ghosts : List Request}

theorem Storage.haunted_nil (s : Storage) : s.haunted [] = s := by
  rw [haunted, List.append_nil]

/-- The books are right, as though nothing had left the device that was given back. -/
theorem Run.books
    (run : Run Rule.alive (Storage.create capabilities limits allocator) h s) :
    Accounts h (s.haunted h.strays) := by
  have running (h : History) : ∀ r ∈ h.strays, r.phase = .running :=
    fun r stray => (History.mem_strays.mp stray).2
  refine run.invariant (motive := fun h s => Accounts h (s.haunted h.strays)) ?_ ?_ ?_
  · exact accounts_create capabilities limits allocator
  · intro h s i s' run inv t
    have custody := run.custody (Storage.custody_create ..)
    have onTop := run.launchOnTop (Storage.launchOnTop_create ..)
    rw [History.strays_append, t.strays_eq_nil custody.inPlace, List.append_nil]
    exact ((t.posting custody.inPlace).haunted (running h)).accounts inv (onTop.haunted _)
  · intro h s a i s' run inv _ alive m
    have custody := run.custody (Storage.custody_create ..)
    have onTop := run.launchOnTop (Storage.launchOnTop_create ..)
    rw [History.strays_append]
    exact (m.posting_haunted custody alive (running h)).accounts inv (onTop.haunted _)

/-- As long as nothing strays, nothing waits without a reason. -/
theorem Run.wakeful_of_none
    (run : Run Rule.alive (Storage.create capabilities limits allocator) h s) :
    h.strays = [] → Wakeful h s := by
  have earlier {h i : History} (none : (h ++ i).strays = []) : h.strays = [] := by
    rw [History.strays_append] at none
    exact (List.append_eq_nil_iff.mp none).1
  refine run.invariant (motive := fun h s => h.strays = [] → Wakeful h s) ?_ ?_ ?_
  · exact fun _ => Storage.wakeful_create ..
  · intro h s i s' run inv t none
    have books := run.books
    rw [earlier none, Storage.haunted_nil] at books
    exact t.wakeful (inv (earlier none)) books
  · intro h s a i s' _ inv _ _ m none
    exact m.wakeful (inv (earlier none))

/-- The counter counts what is inside the device, and the ghosts. -/
theorem Accounts.pending_haunted (books : Accounts h (s.haunted ghosts))
    (running : ∀ r ∈ ghosts, r.phase = .running) :
    s.pending = s.counted.length + ghosts.length := by
  have pending := books.pending
  rw [Storage.tally_haunted running, Storage.tally, List.countP_true] at pending
  exact pending

/-- The flag is up if a barrier is inside the device or among the ghosts. -/
theorem Accounts.barrier_haunted (books : Accounts h (s.haunted ghosts))
    (running : ∀ r ∈ ghosts, r.phase = .running) :
    s.barrier = true ↔ ∃ r ∈ s.counted ++ ghosts, r.kind.isBarrier := by
  have flag := books.barrier
  rw [Storage.tally_haunted running, Storage.tally, ← List.countP_append] at flag
  have up : s.barrier = true ↔ 0 < s.barrier.toNat := by cases s.barrier <;> simp
  rw [up, ← show _ = s.barrier.toNat from flag, List.countP_pos_iff]
  rfl

/-- No barrier begins beside a ghost. -/
theorem Turn.not_isBarrier (t : Turn s i s') (inPlace : s.InPlace) (occupied : 0 < s.pending)
    {r : Request} (begun : .begun r ∈ i) : ¬ r.kind.isBarrier := by
  intro barrier
  have tag : r.tag ∈ i.begun := List.mem_filterMap.mpr ⟨.begun r, begun, rfl⟩
  cases t.posting inPlace with
  | nothing none | counted _ none | settled _ none =>
    rw [none] at tag
    exact absurd tag List.not_mem_nil
  | handedOver q one _ _ _ _ _ _ alone =>
    rw [one, List.mem_singleton] at tag
    have kind : r.kind = q.kind := congrArg Tag.kind tag
    have free := alone (kind ▸ barrier)
    omega

end Books

section PushBack

variable {capabilities : Capabilities} {limits : Limits} {allocator : Allocator} {h : History}
  {s : Storage}

/-- A request that is pushed strays if it is inside the device and the queue takes it. -/
theorem Storage.strays_push {id : RequestId} {r : Request} (found : s.find? id = some r)
    (inside : r.phase = .running) :
    (s.HasRoom → (s.incidentsOf (.push id)).strays = [r]) ∧
      (¬ s.HasRoom → (s.incidentsOf (.push id)).strays = [] ∧
        (s.act (.push id)).stack.head? = some (.pipeline r (.record (.error .abandoned)))) := by
  have asked : s.incidentsOf (.push id) = .asked (.push id) :: s.pushing id := rfl
  have acted : s.act (.push id) = s.pushRequest id := rfl
  rw [asked, acted, Storage.pushing, pushRequest, found]
  dsimp only
  constructor
  · intro room
    have queued : (s.take id).enqueue r = .ok _ :=
      enqueue_eq_ok_iff.mpr ⟨⟨room.living, room.room⟩, rfl⟩
    rw [queued]
    simp [History.strays, Incident.stray?, List.filterMap_cons, inside]
  · intro full
    cases queued : (s.take id).enqueue r with
    | ok s' =>
      obtain ⟨room, -⟩ := enqueue_eq_ok_iff.mp queued
      exact (full ⟨room.living, room.room⟩).elim
    | error e =>
      simp [History.strays, Incident.stray?, letGo, inside]

/-- **What the device gives back.**  The counter is the number of requests inside the device, and of
those that the queue took while they were inside, and the flag is up exactly if one of them is a
barrier.  A request that the queue refuses is finished as abandoned and leaves no trace: if there
are no strays, then the storage is idle once the device has finished what it was given, and a call
that opens, closes or destroys it begins at once.  A single stray keeps barriers from beginning for
ever. -/
theorem Run.push_back (run : Run Rule.alive (Storage.create capabilities limits allocator) h s) :
    s.pending = s.counted.length + h.strays.length ∧
    (s.barrier = true ↔ ∃ r ∈ s.counted ++ h.strays, r.kind.isBarrier) ∧
    (∀ id r, s.find? id = some r → r.phase = .running →
      (s.HasRoom → (s.incidentsOf (.push id)).strays = [r]) ∧
      (¬ s.HasRoom → (s.incidentsOf (.push id)).strays = [] ∧
        (s.act (.push id)).stack.head? = some (.pipeline r (.record (.error .abandoned))))) ∧
    (h.strays = [] → s.isIdle → (∀ r ∈ s.outside, r.phase ≠ .running) →
      s.pending = 0 ∧ s.barrier = false ∧ s.queue = [] ∧ s.draining = false ∧
      ∀ op receiver observer, op.firstKind.isBarrier →
        ¬(op = .opening ∧ observer = none ∧ s.isOpenSettled = true) → s.HasRoom →
        (s.allocator.allocate Request.recordSize).1 = true →
        let a := Action.call op receiver observer
        (Storage.goOn (h ++ s.incidentsOf a, s.act a) 3).1.begun =
          h.begun ++ [⟨s.nextId, op.firstKind⟩]) ∧
    (h.strays ≠ [] → 0 < s.pending ∧ ∀ s', s.step = some s' →
      ∀ r, .begun r ∈ s.incidents → ¬ r.kind.isBarrier) := by
  have running : ∀ r ∈ h.strays, r.phase = .running :=
    fun r stray => (History.mem_strays.mp stray).2
  have books := run.books
  have pending := books.pending_haunted running
  have flag := books.barrier_haunted running
  refine ⟨pending, flag, fun id r => Storage.strays_push, fun none idle finished => ?_,
    fun some => ?_⟩
  · have inside : s.counted = [] := by
      rw [counted_of_isIdle idle, List.filter_eq_nil_iff]
      simpa using finished
    rw [inside, none] at pending flag
    have pending : s.pending = 0 := pending
    have free : s.barrier = false := by simpa using flag
    have wakeful := run.wakeful_of_none none
    rw [none, Storage.haunted_nil] at books
    have empty : s.queue = [] := by
      by_contra waits
      have occupied := wakeful.pending_pos books idle waits
      omega
    have still := wakeful.still idle
    refine ⟨pending, free, empty, still, fun op receiver observer barrier waits room granted => ?_⟩
    exact Storage.call_begins barrier waits room granted empty free pending still
  · have occupied : 0 < s.pending := by
      have := List.length_pos_iff.mpr some
      omega
    have inPlace := (run.custody (Storage.custody_create ..)).inPlace
    refine ⟨occupied, fun s' next r begun => ?_⟩
    exact (turn_of_step next).not_isBarrier inPlace occupied begun

/-- A read that the device gives back is refused, because a closing fills the queue; then the device
finishes the closing. -/
theorem Run.push_back_refused :
    ∃ h s, Run Rule.alive (Storage.create .readWrite { queueCapacity := 1 }) h s ∧
      h.strays = [] ∧ s.pending = 0 ∧ s.queue = [] ∧
      (Storage.goOn (h ++ s.incidentsOf (.call .opening none none),
        s.act (.call .opening none none)) 3).1.begun = h.begun ++ [⟨4, .opening⟩] := by
  have fresh : Run Rule.alive (Storage.create .readWrite { queueCapacity := 1 }) [] _ := .start
  have run := fresh.play
    [(.call .opening none none, 9), (.leave, 9), (.collect, 9),
      (.complete 1 { result := .ok none }, 9), (.collect, 9),
      (.call (.read 0 4) none none, 9), (.leave, 9), (.collect, 9),
      (.call .closing none none, 9), (.collect, 9), (.push 2, 9), (.leave, 9), (.collect, 9),
      (.complete 3 { result := .ok none }, 9), (.collect, 9)]
    (by decide +kernel)
  obtain ⟨-, -, -, sound, -⟩ := Run.push_back run
  obtain ⟨pending, -, empty, -, begins⟩ :=
    sound (by decide +kernel) (by decide +kernel) (by decide +kernel)
  exact ⟨_, _, run, by decide +kernel, pending, empty, begins .opening none none (by decide)
    (by decide +kernel) ⟨by decide +kernel, by decide +kernel⟩ (by decide +kernel)⟩

/-- A read that the device gives back is taken, and begins again.  When the device has finished it,
one request is still counted, and a closing waits for ever. -/
theorem Run.pushed_back_stuck :
    ∃ h s, Run Rule.alive (Storage.create .readWrite) h s ∧ s.isIdle ∧ s.outside = [] ∧
      s.pending = 1 ∧ s.queue.map Request.tag = [⟨3, .closing⟩] := by
  have fresh : Run Rule.alive (Storage.create .readWrite) [] _ := .start
  have run := fresh.play
    [(.call .opening none none, 9), (.leave, 9), (.collect, 9),
      (.complete 1 { result := .ok none }, 9), (.collect, 9),
      (.call (.read 0 4) none none, 9), (.leave, 9), (.collect, 9),
      (.push 2, 9), (.leave, 9), (.collect, 9), (.complete 2 { result := .ok none }, 9), (.collect, 9),
      (.call .closing none none, 9), (.collect, 9)]
    (by decide +kernel)
  exact ⟨_, _, run, by decide +kernel, by decide +kernel, by decide +kernel, by decide +kernel⟩

end PushBack

end StorageEngine
