import StorageEngine.Proofs.Destroyed

/-!
# What a destruction leaves behind

When a destruction has succeeded, requests may still wait in the queue.  Its observer and its caller
are told first, and they may take requests out (`Attended`: nobody else gets control meanwhile).
Then the queue is cleared, and the requests in it fail one after the other.

Observer and caller are client code.  If they finish another destruction by hand, the end of that
one clears the queue already.  So what fails does so after the caller of *some* destruction has been
told (`History.Heralded`): of the first one, or of one that has succeeded since.

`Aftermath` holds from the moment on at which a destruction has succeeded.  The argument looks at
the topmost task that will clear the queue: it comes from a destruction of that kind, and by the
time it clears the queue its caller has been told.

* `Turn.heralds` — the topmost task that clears the queue is known;
* `Turn.attended`, `Move.attended` — who has control as long as something waits;
* `Turn.aftermath`, `Move.aftermath` — what a rule does to an aftermath;
* `Run.destruction_terminal` — nothing follows a destruction but the end of what waited.
-/

namespace StorageEngine

/-- A destruction that has succeeded. -/
def Request.Ends (d : Request) : Prop :=
  d.kind = .destroying ∧ d.error = none

namespace History

/-- The caller of a destruction that has succeeded was called back. -/
def Told (h : History) (d : Request) : Prop :=
  ∀ code, d.receiver = some (.call code) → .invoked (.done code (.ok .unit)) ∈ h

/-- A destruction that has succeeded: `d` itself, or another one since. -/
def Succeeded (h : History) (d d' : Request) : Prop :=
  d'.Ends ∧ (d' = d ∨ ∃ dispatched, .settled d' dispatched ∈ h)

/-- The caller of a destruction was told: of `d`, or of one that has succeeded since. -/
def Heralded (h : History) (d : Request) : Prop :=
  ∃ d', h.Succeeded d d' ∧ h.Told d'

end History

/-- A task that clears the queue comes from `d`, or from a destruction that has succeeded since. -/
def Task.Stems (h : History) (d : Request) : Task → Prop
  | .pipeline r (.observe _) | .pipeline r (.conclude _) =>
    ∃ d', h.Succeeded d d' ∧ r.receiver = d'.receiver
  | .pipeline _ (.release _) => h.Heralded d
  | _ => True

/-- The topmost task that clears the queue comes from `d`, or from a destruction that has succeeded
since, unless the caller of one has been told already. -/
def Heralds (h : History) (d : Request) (s : Storage) : Prop :=
  h.Heralded d ∨ ∀ t, s.stack.find? (·.clears) = some t → t.Stems h d

/-- A task tells the observer or the caller of `d` that it has succeeded. -/
def Task.Concludes (d : Request) : Task → Prop
  | .pipeline r (.observe _) => r.Ends ∧ r.observer = d.observer ∧ r.receiver = d.receiver
  | .pipeline r (.conclude _) => r.Ends ∧ r.receiver = d.receiver
  | .pipeline r (.release _) => r.Ends
  | _ => False

/-- The code of the observer or of the caller of `d`. -/
def Request.Hears (d : Request) : Invocation → Prop
  | .hook code _ => ∃ o, d.observer = some o ∧ o.code = code
  | .done code _ => d.receiver = some (.call code)
  | _ => False

/-- As long as something waits, `d` is being concluded on top of `below`: the storage is about to go
on with that, or the observer or the caller of `d` has control. -/
def Attended (d : Request) (below : List Task) (s : Storage) : Prop :=
  s.queue = [] ∨ ∃ t : Task, t.Concludes d ∧
    (s.stack = t :: below ∨ ∃ code, d.Hears code ∧ .client code :: t :: below <:+ s.stack)

theorem Task.Concludes.exists_pipeline {d : Request} {t : Task} (concludes : t.Concludes d) :
    ∃ r stage, t = .pipeline r stage := by
  cases t with
  | pipeline r stage => exact ⟨r, stage, rfl⟩
  | _ => exact concludes.elim

/-- The storage itself goes on with that. -/
theorem Task.Concludes.not_atRest {d : Request} {t : Task} {below : List Task} {s : Storage}
    (concludes : t.Concludes d) (next : s.stack = t :: below) : s.isAtRest = false := by
  obtain ⟨r, stage, rfl⟩ := concludes.exists_pipeline
  simp [Storage.isAtRest, Storage.step, next]

/-- What follows a destruction `d` that has succeeded, on top of `below`, when these requests
waited. -/
structure Aftermath (d : Request) (below : List Task) (waited : List RequestId) (h : History)
    (s : Storage) : Prop where
  shut : s.Shut
  handled : h.handled = []
  queue : waited = h.shifted.map (·.id) ++ h.cleared ++ s.queue.map (·.id)
  emptied : h.cleared ≠ [] → s.queue = []
  attended : Attended d below s
  apart : ∀ id ∈ s.queue.map (·.id), ∀ x ∈ h.endings, x.1 ≠ id
  heralds : Heralds h d s
  heralded : h.cleared ≠ [] → h.Heralded d
  fated : Fated .fault h.cleared h s
  late : ∀ n r dispatched, h[n]? = some (.settled r dispatched) → r.id ∈ h.cleared →
    History.Heralded (h.take n) d

section Heralds

variable {h i : History} {d : Request} {s s' : Storage}

theorem History.Succeeded.append {d' : Request} (success : h.Succeeded d d') (i : History) :
    (h ++ i).Succeeded d d' :=
  ⟨success.1, success.2.imp_right fun ⟨b, ended⟩ => ⟨b, List.mem_append_left i ended⟩⟩

theorem History.Told.append (told : h.Told d) (i : History) : (h ++ i).Told d :=
  fun code receiver => List.mem_append_left i (told code receiver)

theorem History.Heralded.append (heralded : h.Heralded d) (i : History) :
    (h ++ i).Heralded d := by
  obtain ⟨d', success, told⟩ := heralded
  exact ⟨d', success.append i, told.append i⟩

theorem Task.Stems.append {t : Task} (stems : t.Stems h d) (i : History) :
    t.Stems (h ++ i) d := by
  unfold Task.Stems at *
  split
  case h_1 | h_2 =>
    obtain ⟨d', success, receiver⟩ := stems
    exact ⟨d', success.append i, receiver⟩
  case h_3 => exact History.Heralded.append stems i
  case h_4 => trivial

theorem Request.Ends.result_eq (ends : d.Ends) : d.result = .ok .unit := by
  simp [Request.result, ends.1, ends.2]

/-- Where one clearing task takes the place of another, it comes from the same destruction. -/
theorem Task.stems_of_find? {task : Task} {rest : List Task} (task' : Task)
    (next : ∀ t, (task :: rest).find? (·.clears) = some t → t.Stems h d)
    (same : task'.clears = task.clears)
    (stems : task.clears → task.Stems h d → task'.Stems (h ++ i) d) :
    ∀ t, (task' :: rest).find? (·.clears) = some t → t.Stems (h ++ i) d := by
  intro t first
  cases clears : task.clears with
  | true =>
    rw [List.find?_cons_of_pos (same.trans clears)] at first
    obtain rfl := Option.some.inj first
    exact stems clears (next task (List.find?_cons_of_pos clears))
  | false =>
    rw [List.find?_cons_of_neg (by simp [same, clears])] at first
    exact (next t (by rw [List.find?_cons_of_neg (by simp [clears]), first])).append i

attribute [local simp] Task.clears List.find?_cons

/-- Before the queue is cleared, the caller of the destruction is told. -/
theorem Turn.heralds (t : Turn s i s') (shut : s.Shut) (inv : Heralds h d s) :
    Heralds (h ++ i) d s' := by
  obtain heralded | next := inv
  · exact .inl (heralded.append i)
  cases t with
  | @settled r dispatched rest top =>
    rw [top] at next
    refine .inr fun t first => ?_
    by_cases ends : r.Ends
    · obtain rfl : _ = t := by simpa [ends.1, ends.2] using first
      exact ⟨r, ⟨ends, .inr ⟨dispatched, by simp⟩⟩, rfl⟩
    · have passed : (decide (r.kind = .destroying) && decide (r.error = none)) = false := by
        simpa [Request.Ends] using ends
      exact (next t (by simpa [passed] using first)).append _
  | unobserved top =>
    rw [top] at next
    exact .inr (Task.stems_of_find? _ next rfl fun _ stems => stems.append _)
  | @observed r idle rest o top =>
    rw [top] at next
    exact .inr (Task.stems_of_find? (.pipeline { r with observer := none } (.conclude idle)) next
      rfl fun _ stems => stems.append _)
  | unheard top receiver | kept top receiver =>
    rw [top] at next
    refine .inr (Task.stems_of_find? _ next rfl ?_)
    rintro _ ⟨d', success, same⟩
    refine History.Heralded.append ⟨d', success, fun code told => ?_⟩ _
    simp [← same, receiver] at told
  | @told r idle rest code top receiver =>
    rw [top] at next
    refine .inr (Task.stems_of_find? (.pipeline { r with receiver := none } (.release idle)) next
      rfl ?_)
    rintro clears ⟨d', success, same⟩
    have ends : r.Ends := by simpa [Request.Ends] using clears
    refine ⟨d', success.append _, fun code' told => ?_⟩
    obtain rfl : code = code' := by simpa [← same, receiver] using told
    rw [← ends.result_eq]
    simp
  | @released r idle rest top r' a follows phase ordinary =>
    have unfinished : (decide (r.kind = .destroying) && decide (r.error = none)) = false := by
      simpa [shut.ready] using ordinary
    refine .inr fun t first => Task.Stems.append (next t ?_) _
    simpa [top, unfinished] using first
  | @cleared r idle rest top destroying success =>
    have heralded := next (.pipeline r (.release idle)) (by simp [top, destroying, success])
    exact .inl (History.Heralded.append heralded _)
  | recorded top emitter announced =>
    refine .inr fun t first => Task.Stems.append (next t ?_) _
    cases announced <;> simpa [top] using first
  | @freed r idle rest top =>
    refine .inr fun t first => Task.Stems.append (next t ?_) _
    cases idle <;> simpa [top] using first
  | _ =>
    refine .inr fun t first => Task.Stems.append (next t ?_) _
    simp_all

theorem Move.heralds {a : Action} (m : Move s a i s') (inv : Heralds h d s) :
    Heralds (h ++ i) d s' := by
  obtain heralded | next := inv
  · exact .inl (heralded.append i)
  refine .inr fun t first => Task.Stems.append (next t ?_) _
  cases m <;> simp_all

end Heralds

section Attended

variable {d : Request} {below : List Task} {i : History} {s s' : Storage}

/-- Client code that has control, or waits for what it has called, is left alone by a step. -/
theorem Turn.keeps_client (t : Turn s i s') {code : Invocation}
    (held : .client code :: below <:+ s.stack) : .client code :: below <:+ s'.stack := by
  cases t with
  | recorded top emitter announced => cases announced <;> simp_all [List.suffix_cons_iff]
  | @freed r idle rest top => cases idle <;> simp_all [List.suffix_cons_iff]
  | _ => simp_all [List.suffix_cons_iff]

/-- Client code leaves by itself. -/
theorem Move.keeps_client {a : Action} (m : Move s a i s') {code : Invocation}
    (held : .client code :: below <:+ s.stack) :
    .client code :: below <:+ s'.stack ∨ s'.stack = below := by
  cases m with
  | left top =>
    rw [top, List.suffix_cons_iff] at held
    obtain same | held := held
    · exact .inr (List.cons.inj same).2.symm
    · exact .inl held
  | collected top => simp_all [List.suffix_cons_iff]
  | _ => simp_all [List.suffix_cons_iff]

/-- Hook and callback of `d` come before the queue is cleared. -/
theorem Turn.attended_of_concludes (t : Turn s i s') (shut : s.Shut) {r : Request} {stage : Stage}
    (concludes : (Task.pipeline r stage).Concludes d)
    (next : s.stack = .pipeline r stage :: below) : Attended d below s' := by
  cases t with
  | unobserved top =>
    obtain ⟨⟨rfl, rfl⟩, rfl⟩ : (_ ∧ _) ∧ _ := by simpa using top.symm.trans next
    refine .inr ⟨_, ?_, .inl rfl⟩
    exact ⟨concludes.1, concludes.2.2⟩
  | @observed r idle rest o top observer =>
    obtain ⟨⟨rfl, rfl⟩, rfl⟩ : (_ ∧ _) ∧ _ := by simpa using top.symm.trans next
    have hears : d.Hears (.hook o.code (r.outcome o.shared)) :=
      ⟨o, concludes.2.1.symm.trans observer, rfl⟩
    refine .inr ⟨_, ?_, .inr ⟨_, hears, List.suffix_rfl⟩⟩
    exact ⟨concludes.1, concludes.2.2⟩
  | unheard top | kept top =>
    obtain ⟨⟨rfl, rfl⟩, rfl⟩ : (_ ∧ _) ∧ _ := by simpa using top.symm.trans next
    refine .inr ⟨_, ?_, .inl rfl⟩
    exact concludes.1
  | @told r idle rest code top receiver =>
    obtain ⟨⟨rfl, rfl⟩, rfl⟩ : (_ ∧ _) ∧ _ := by simpa using top.symm.trans next
    have hears : d.Hears (.done code r.result) := concludes.2.symm.trans receiver
    refine .inr ⟨_, ?_, .inr ⟨_, hears, List.suffix_rfl⟩⟩
    exact concludes.1
  | released top _ _ _ _ ordinary =>
    obtain ⟨⟨rfl, rfl⟩, rfl⟩ : (_ ∧ _) ∧ _ := by simpa using top.symm.trans next
    exact absurd ⟨concludes.1, concludes.2, shut.ready⟩ ordinary
  | cleared => exact .inl rfl
  | recorded top | settled top | freed top =>
    obtain ⟨⟨rfl, rfl⟩, rfl⟩ : (_ ∧ _) ∧ _ := by simpa using top.symm.trans next
    exact concludes.elim
  | _ => simp_all

theorem Turn.attended (t : Turn s i s') (shut : s.Shut) (inv : Attended d below s) :
    Attended d below s' := by
  obtain empty | ⟨task, concludes, next | ⟨code, hears, held⟩⟩ := inv
  · have same := t.queue_of_shut shut
    rw [empty] at same
    exact .inl (by simpa using (List.append_eq_nil_iff.mp same.symm).2)
  · obtain ⟨r, stage, rfl⟩ := concludes.exists_pipeline
    exact t.attended_of_concludes shut concludes next
  · exact .inr ⟨task, concludes, .inr ⟨code, hears, t.keeps_client held⟩⟩

theorem Move.attended {a : Action} (m : Move s a i s') (shut : s.Shut) (turn : s.isAtRest)
    (inv : Attended d below s) : Attended d below s' := by
  obtain empty | ⟨task, concludes, next | ⟨code, hears, held⟩⟩ := inv
  · have same := m.queue_of_shut shut
    rw [empty] at same
    exact .inl (by simpa using (List.append_eq_nil_iff.mp same.symm).2)
  · exact absurd turn (by simp [concludes.not_atRest next])
  · obtain held | left := m.keeps_client held
    · exact .inr ⟨task, concludes, .inr ⟨code, hears, held⟩⟩
    · exact .inr ⟨task, concludes, .inl left⟩

end Attended

section Incidents

variable {i : History} {s s' : Storage}

/-- A request ends when the state moves on for it, and nothing else happens at that moment. -/
theorem Turn.endings_cases (t : Turn s i s') :
    i.endings = [] ∨ ∃ r dispatched rest,
      s.stack = .pipeline r (.settle dispatched) :: rest ∧ i = [.settled r dispatched] := by
  cases t with
  | settled top => exact .inr ⟨_, _, _, top, rfl⟩
  | _ => simp [History.endings, Incident.ending?, List.filterMap_cons]

theorem Turn.shifted_eq_nil (t : Turn s i s') : i.shifted = [] := by
  cases t <;> simp [History.shifted, Incident.shifted?, List.filterMap_cons]

/-- The queue is cleared away as a whole. -/
theorem Turn.cleared_cases (t : Turn s i s') :
    i.cleared = [] ∨ ∃ r idle rest, s.stack = .pipeline r (.release idle) :: rest ∧ r.Ends ∧
      i = s.queue.map .cleared ∧ s' = { s with
        queue := [], stack := .teardown s.queue :: .pipeline r (.free idle) :: rest } := by
  cases t with
  | cleared top destroying success => exact .inr ⟨_, _, _, top, ⟨destroying, success⟩, rfl, rfl⟩
  | _ => simp [History.cleared, Incident.cleared?, List.filterMap_cons]

end Incidents

/-- A request has ended before, or it ends now. -/
theorem History.ended_cases {h i : History} {n : Nat} {r : Request} {dispatched : Bool}
    (ended : (h ++ i)[n]? = some (.settled r dispatched)) :
    (h[n]? = some (.settled r dispatched) ∧ (h ++ i).take n = h.take n) ∨
      h.length ≤ n ∧ .settled r dispatched ∈ i := by
  by_cases before : n < h.length
  · rw [List.getElem?_append_left before] at ended
    exact .inl ⟨ended, List.take_append_of_le_length (Nat.le_of_lt before)⟩
  · rw [List.getElem?_append_right (Nat.le_of_not_lt before)] at ended
    exact .inr ⟨Nat.le_of_not_lt before, List.mem_of_getElem? ended⟩

section Aftermath

variable {d : Request} {below : List Task} {waited : List RequestId} {h i : History}
  {s s' : Storage}

theorem Turn.apart (t : Turn s i s') (custody : s.Custody) (inv : Aftermath d below waited h s) :
    ∀ id ∈ s'.queue.map (·.id), ∀ x ∈ (h ++ i).endings, x.1 ≠ id := by
  intro id waits x ended
  have waited : id ∈ s.queue.map (·.id) := by
    rw [t.queue_of_shut inv.shut]
    exact List.mem_append_right _ waits
  rw [History.endings_append, List.mem_append] at ended
  obtain before | now := ended
  · exact inv.apart id waited x before
  obtain none | ⟨r, dispatched, rest, top, rfl⟩ := t.endings_cases
  · simp [none] at now
  · obtain rfl : x = (r.id, r.error) := by simpa [History.endings, Incident.ending?] using now
    exact (custody.apart waited).2 (.pipeline r (.settle dispatched)) (by simp [top]) r (by simp)

/-- What has been cleared away fails, whatever happens next. -/
theorem Turn.fated_of_shut (t : Turn s i s') (custody : s.Custody)
    (inv : Aftermath d below waited h s) : Fated .fault (h ++ i).cleared (h ++ i) s' := by
  rw [History.cleared_append]
  by_cases none : i.cleared = []
  · have away : ∀ r ∈ s.queue, r.id ∉ h.cleared := by
      intro r waits member
      simp [inv.emptied (List.ne_nil_of_mem member)] at waits
    rw [none, List.append_nil]
    exact t.fated inv.fated
      ⟨fun r q rest _ head member => absurd member (away r (by simp [head])),
        fun _ => .inl away, fun _ => away⟩
  · -- What waits becomes the group, and is cleared away as the first in line.
    obtain ⟨r, idle, rest, top, -, rfl, -⟩ := t.cleared_cases.resolve_left none
    have unspoilt : h.cleared = [] := by
      by_contra before
      exact none (by simp [inv.emptied before, History.cleared])
    rw [unspoilt, List.nil_append, History.cleared_map_cleared]
    refine t.fated (custody.fated .fault inv.apart) ⟨?_, ?_, ?_⟩
    · intro _ _ _ draining
      simp [top] at draining
    · exact fun _ => .inr ⟨rfl, fun task onStack q due => custody.not_due onStack due⟩
    · simp [top]

/-- Nothing that was cleared away has ended before the caller of a destruction was told. -/
theorem Turn.late (t : Turn s i s') (inv : Aftermath d below waited h s) (n : Nat) (r : Request)
    (dispatched : Bool) (ended : (h ++ i)[n]? = some (.settled r dispatched))
    (member : r.id ∈ (h ++ i).cleared) : History.Heralded ((h ++ i).take n) d := by
  rw [History.cleared_append, List.mem_append] at member
  obtain ⟨before, same⟩ | ⟨past, now⟩ := History.ended_cases ended
  · rw [same]
    obtain earlier | now := member
    · exact inv.late n r dispatched before earlier
    · -- What is cleared away now has waited, and nothing that waits has ended.
      have waits : r.id ∈ s.queue.map (·.id) := by
        rw [t.queue_of_shut inv.shut]
        exact List.mem_append_left _ now
      have ending : (r.id, r.error) ∈ h.endings :=
        List.mem_filterMap.mpr ⟨_, List.mem_of_getElem? before, rfl⟩
      exact absurd rfl (inv.apart r.id waits _ ending)
  · have ending : (r.id, r.error) ∈ i.endings := List.mem_filterMap.mpr ⟨_, now, rfl⟩
    obtain none | ⟨r', dispatched', rest, top, rfl⟩ := t.endings_cases
    · simp [none] at ending
    have earlier : r.id ∈ h.cleared := by
      simpa [History.cleared, Incident.cleared?] using member
    have bound := (List.getElem?_eq_some_iff.mp ended).1
    have last : n = h.length := by
      rw [List.length_append, List.length_singleton] at bound
      omega
    rw [last, List.take_left]
    exact inv.heralded (List.ne_nil_of_mem earlier)

theorem Turn.aftermath (t : Turn s i s') (custody : s.Custody)
    (inv : Aftermath d below waited h s) : Aftermath d below waited (h ++ i) s' := by
  have queue := t.queue_of_shut inv.shut
  constructor
  · exact t.shut inv.shut custody.inPlace
  · rw [History.handled_append, inv.handled, t.handled_of_shut inv.shut, List.append_nil]
  · rw [inv.queue, queue]
    simp [t.shifted_eq_nil]
  · rw [History.cleared_append]
    intro some
    by_cases none : i.cleared = []
    · have empty := inv.emptied (by simpa [none] using some)
      simpa [empty, none] using queue
    · obtain ⟨r, idle, rest, top, -, -, rfl⟩ := t.cleared_cases.resolve_left none
      rfl
  · exact t.attended inv.shut inv.attended
  · exact t.apart custody inv
  · exact t.heralds inv.shut inv.heralds
  · rw [History.cleared_append]
    intro some
    by_cases none : i.cleared = []
    · exact (inv.heralded (by simpa [none] using some)).append i
    · obtain ⟨r, idle, rest, top, ends, -, -⟩ := t.cleared_cases.resolve_left none
      obtain heralded | next := inv.heralds
      · exact heralded.append i
      · have heralded := next (.pipeline r (.release idle))
          (by simp [top, Task.clears, ends.1, ends.2])
        exact History.Heralded.append heralded i
  · exact t.fated_of_shut custody inv
  · exact t.late inv

theorem Move.aftermath {a : Action} (m : Move s a i s') (custody : s.Custody) (turn : s.isAtRest)
    (inv : Aftermath d below waited h s) : Aftermath d below waited (h ++ i) s' := by
  have queue := m.queue_of_shut inv.shut
  have uncleared : i.cleared = [] := by
    cases m <;> simp [History.cleared, Incident.cleared?, List.filterMap_cons]
  have unended : i.endings = [] := by
    cases m <;> simp [History.endings, Incident.ending?, List.filterMap_cons]
  have waits : ∀ id ∈ s'.queue.map (·.id), id ∈ s.queue.map (·.id) := by
    rw [queue]
    exact fun id waits => List.mem_append_right _ waits
  have cleared : (h ++ i).cleared = h.cleared := by simp [uncleared]
  constructor
  · exact m.shut inv.shut
  · rw [History.handled_append, inv.handled, m.handled_eq_nil, List.append_nil]
  · by_cases before : h.cleared = []
    · rw [inv.queue, queue]
      simp [cleared, before]
    · rw [inv.emptied before] at queue
      obtain ⟨taken, left⟩ := List.append_eq_nil_iff.mp queue.symm
      have same : (h ++ i).shifted.map (·.id) = h.shifted.map (·.id) := by
        rw [History.shifted_append, List.map_append, taken, List.append_nil]
      rw [inv.queue, inv.emptied before, same, cleared, left, List.map_nil]
  · rw [cleared]
    intro before
    rw [inv.emptied before] at queue
    simpa using (List.append_eq_nil_iff.mp queue.symm).2
  · exact m.attended inv.shut turn inv.attended
  · rw [History.endings_append, unended, List.append_nil]
    exact fun id left => inv.apart id (waits id left)
  · exact m.heralds inv.heralds
  · rw [cleared]
    exact fun some => (inv.heralded some).append i
  · rw [cleared]
    refine m.fated inv.fated custody fun _ r waits member => ?_
    simp [inv.emptied (List.ne_nil_of_mem member)] at waits
  · rw [cleared]
    intro n r dispatched ended member
    obtain ⟨before, same⟩ | ⟨-, now⟩ := History.ended_cases ended
    · rw [same]
      exact inv.late n r dispatched before member
    · have ending : (r.id, r.error) ∈ i.endings := List.mem_filterMap.mpr ⟨_, now, rfl⟩
      simp [unended] at ending

end Aftermath

section Start

theorem Fated.nil (e : Error) (h : History) (s : Storage) : Fated e [] h s := by
  constructor <;> simp [History.endingsOf, Storage.awaited, Task.Dooms]

/-- A destruction that succeeds leaves an aftermath behind. -/
theorem Turn.aftermath_of_settled {s s' : Storage} {i : History} (t : Turn s i s')
    (onTop : s.LaunchOnTop) {d : Request} {dispatched : Bool} {rest : List Task}
    (top : s.stack = .pipeline d (.settle dispatched) :: rest) (ends : d.Ends) :
    Aftermath d rest (s.queue.map (·.id)) [] s' := by
  have quiet := onTop.not_runsBarrier top
  cases t with
  | @settled r b rest' top' =>
    obtain ⟨⟨rfl, ⟨⟩⟩, rfl⟩ : (r = d ∧ Stage.settle b = .settle dispatched) ∧ rest' = rest := by
      simpa [top'] using top
    constructor
    · constructor
      · exact (s.transition_ready r).mpr (.inr ends)
      · simpa using quiet
      · exact fun _ => by simp [Task.clearing, Task.clears, ends.1, ends.2]
    · rfl
    · simp [History.shifted, History.cleared, Function.comp_def]
    · simp [History.cleared]
    · refine .inr ⟨_, ?_, .inl rfl⟩
      exact ⟨ends, rfl, rfl⟩
    · simp [History.endings]
    · refine .inr fun t first => ?_
      obtain rfl : _ = t := by simpa [List.find?_cons, Task.clears, ends.1, ends.2] using first
      exact ⟨r, ⟨ends, .inl rfl⟩, rfl⟩
    · simp [History.cleared]
    · exact .nil _ _ _
    · simp
  | _ => simp_all

end Start

theorem Run.aftermath {start : Storage} (custody : start.Custody) {d : Request}
    {below : List Task} {waited : List RequestId} (initial : Aftermath d below waited [] start)
    {rule : Rule} {h : History} {s : Storage} (run : Run rule start h s) :
    Aftermath d below waited h s :=
  run.invariant initial (fun run inv t => t.aftermath (run.custody custody) inv)
    (fun run inv turn _ m => m.aftermath (run.custody custody) turn inv)

/-- What holds at every moment after a destruction `d` has succeeded, on top of the tasks `below`,
while some requests `waited`, and `h` has happened since. -/
structure Terminal (d : Request) (below : List Task) (waited : List RequestId) (h : History)
    (s : Storage) : Prop where
  /-- The storage stays destroyed. -/
  destroyed : s.ready = .destroyed
  /-- No handler is called any more. -/
  unhandled : h.handled = []
  /-- What waited was taken out of the queue by clients, or cleared away after that, or it still
  waits; nothing else does. -/
  left : waited = h.shifted.map (·.id) ++ h.cleared ++ s.queue.map (·.id)
  once : waited.Nodup
  /-- As long as something waits, the client that has control has it from the observer or from the
  caller of `d`. -/
  attended : s.isAtRest → s.queue ≠ [] →
    ∃ code t, d.Hears code ∧ .client code :: t :: below <:+ s.stack
  /-- From then on the queue is empty. -/
  emptied : h.cleared ≠ [] → s.queue = []
  /-- What was cleared away fails in order, and each only once. -/
  fails : h.endingsOf h.cleared <+: h.cleared.map (·, some .fault)
  /-- The callers of these requests are told so. -/
  told : ∀ r idle rest, s.stack = .pipeline r (.conclude idle) :: rest → r.id ∈ h.cleared →
    r.result = .error .fault
  /-- It fails after the caller of `d`, or of another destruction that has succeeded since, was
  told. -/
  heralded : ∀ n r dispatched, h[n]? = some (.settled r dispatched) → r.id ∈ h.cleared →
    History.Heralded (h.take n) d
  /-- Where no call is going on, nothing waits, and all that was cleared away has failed. -/
  settled : s.isIdle →
    s.queue = [] ∧ h.endingsOf h.cleared = h.cleared.map (·, some .fault)
  /-- Every call is refused. -/
  call : ∀ op receiver observer, s.Refuses (.call op receiver observer) (.done (.error .fault)) s
  promise : ∀ op, s.Refuses (.promise op) (.promise s.nextPromise) { s with
    nextPromise := s.nextPromise + 1
    kept := s.kept ++ [(s.nextPromise, .error .fault)] }
  makeRequest : ∀ kind offset size,
    s.Refuses (.makeRequest kind offset size) (.made (.error .fault)) s
  listen : ∀ event ttl callback,
    s.Refuses (.listen event ttl callback) (.registered (.error .fault)) s
  push : ∀ id r, s.find? id = some r → r.phase ≠ .running →
    s.Refuses (.push id) (.length (.error .fault)) ((s.take id).discard r)

/-- **A destruction is terminal.**  Once a destruction has succeeded, the storage stays destroyed,
no handler is called any more, every call is refused, and what waited in the queue fails in order,
unless clients take it out first. -/
theorem Run.destruction_terminal {capabilities : Capabilities} {limits : Limits}
    {allocator : Allocator} {h : History} {s : Storage}
    (run : Run Rule.free (Storage.create capabilities limits allocator) h s)
    {d : Request} {dispatched : Bool} {rest : List Task}
    (top : s.stack = .pipeline d (.settle dispatched) :: rest) (ends : d.Ends) {s₁ : Storage}
    (next : s.step = some s₁) {h₂ : History} {s₂ : Storage} (later : Run Rule.free s₁ h₂ s₂) :
    Terminal d rest (s.queue.map (·.id)) h₂ s₂ := by
  have custody := run.custody (Storage.custody_create ..)
  have onTop := run.launchOnTop (Storage.launchOnTop_create ..)
  have inv := later.aftermath ((run.step next).custody (Storage.custody_create ..))
    ((turn_of_step next).aftermath_of_settled onTop top ends)
  have dead := inv.shut.ready
  have emptied : s₂.isIdle → s₂.queue = [] := by
    intro idle
    by_contra waits
    simpa [waking_of_isIdle idle] using Task.waking_of_clearing (inv.shut.clearing waits)
  exact {
    destroyed := dead
    unhandled := inv.handled
    left := inv.queue
    once := custody.nodup_queue
    attended := fun turn waits => by
      obtain ⟨t, concludes, next | ⟨code, hears, held⟩⟩ := inv.attended.resolve_left waits
      · simp [concludes.not_atRest next] at turn
      · exact ⟨code, t, hears, held⟩
    emptied := inv.emptied
    fails := inv.fated.endings_prefix
    told := fun r idle rest => inv.fated.result_eq
    heralded := inv.late
    settled := fun idle => ⟨emptied idle, inv.fated.endings_eq idle (by simp [emptied idle])⟩
    call := Storage.refuses_call dead
    promise := Storage.refuses_promise dead
    makeRequest := Storage.refuses_makeRequest dead
    listen := Storage.refuses_listen dead
    push := fun id r => Storage.refuses_push dead }

/-- Two requests that wait behind a destruction inside the device: a read, and the opening that
goes ahead of it. -/
theorem Run.destruction_terminal_read :
    ∃ h s d dispatched rest s₁ h₂ s₂, Run Rule.free (Storage.create .readWrite) h s ∧
      s.stack = .pipeline d (.settle dispatched) :: rest ∧ d.Ends ∧ s.step = some s₁ ∧
      Run Rule.free s₁ h₂ s₂ ∧ s₂.isIdle ∧ h₂.cleared = [4, 3] ∧ Terminal d rest [4, 3] h₂ s₂ := by
  have fresh : Run Rule.free (Storage.create .readWrite) [] _ := .start
  have finished := fresh.play [
    (.call .destroying (some (.call 1)) none, 40), (.leave, 40), (.collect, 0),
    (.call (.read 0 4) (some (.call 2)) none, 40), (.collect, 0),
    (.complete 2 { result := .ok none }, 2)]
    ⟨⟨rfl, trivial⟩, ⟨rfl, trivial⟩, ⟨rfl, trivial⟩, ⟨rfl, trivial⟩, ⟨rfl, trivial⟩,
      ⟨rfl, trivial⟩, trivial⟩
  refine ⟨_, _, _, _, _, _, _, _, finished, rfl, ⟨rfl, rfl⟩, rfl,
    (Run.start.goOn 40).play [(.leave, 40), (.leave, 40)]
      ⟨⟨rfl, trivial⟩, ⟨rfl, trivial⟩, trivial⟩, rfl, rfl, ?_⟩
  exact Run.destruction_terminal finished rfl ⟨rfl, rfl⟩ rfl ((Run.start.goOn 40).play
    [(.leave, 40), (.leave, 40)] ⟨⟨rfl, trivial⟩, ⟨rfl, trivial⟩, trivial⟩)

/-- The caller of a destruction may be told last: its observer finishes another destruction by hand,
and that one clears the queue. -/
theorem Run.destruction_overtaken :
    ∃ h s d dispatched rest s₁ h₂ s₂, Run Rule.free (Storage.create .readWrite) h s ∧
      s.stack = .pipeline d (.settle dispatched) :: rest ∧ d.Ends ∧
      d.receiver = some (.call 1) ∧ s.step = some s₁ ∧ Run Rule.free s₁ h₂ s₂ ∧
      s.queue.map (·.id) = [5, 4] ∧ h₂.shifted = [] ∧
      h₂.endingsOf [5, 4] = [(5, some .fault), (4, some .fault)] ∧ ¬ h₂.Told d := by
  have fresh : Run Rule.free (Storage.create .readWrite) [] _ := .start
  have finished := fresh.play [
    (.makeRequest .destroying 0 0, 0), (.collect, 0),
    (.call .destroying (some (.call 1)) (some ⟨9, "x"⟩), 40), (.leave, 40), (.collect, 0),
    (.call (.read 0 4) (some (.call 2)) none, 40), (.collect, 0),
    (.complete 3 { result := .ok none }, 2)]
    ⟨⟨rfl, trivial⟩, ⟨rfl, trivial⟩, ⟨rfl, trivial⟩, ⟨rfl, trivial⟩, ⟨rfl, trivial⟩,
      ⟨rfl, trivial⟩, ⟨rfl, trivial⟩, ⟨rfl, trivial⟩, trivial⟩
  refine ⟨_, _, _, _, _, _, _, _, finished, rfl, ⟨rfl, rfl⟩, rfl, rfl,
    (Run.start.goOn 40).play [(.complete 1 { result := .ok none }, 40)] ⟨⟨rfl, trivial⟩, trivial⟩,
    rfl, rfl, rfl, fun told => ?_⟩
  exact absurd (told 1 rfl) (by decide)

end StorageEngine
