import StorageEngine.Proofs.Custody

/-!
# First in, first out

A request is admitted when it joins the queue, or when it is handed over at once because nothing
stands in its way.  It leaves those waiting when it is handed over, when a client takes it out of
the queue, when the end of a destruction clears the queue, or when the queue goes with a storage
that nobody holds.

Every rule moves requests from the front of the queue to those that have left, and from those
admitted to its back.  So those that have left, followed by the queue, are those that were admitted,
in order: none is lost, none appears twice, and none overtakes another, whatever their kinds.

* `Turn.fifo`, `Move.fifo` — what one rule admits and lets go;
* `Run.fifo` — those that have left, followed by the queue, are those that were admitted;
* `Run.lost_eq_nil` — nothing is lost with a storage that its owner still holds;
* `Run.handled_sublist_begun` — requests reach the device in the order in which they began.
-/

namespace StorageEngine

section Rules

attribute [local simp] History.admitted History.departed History.begun History.lost
  History.handled Incident.admitted? Incident.departed? Incident.begun? Incident.lost?
  Incident.handled? List.filterMap_cons

/-- What a step admits joins the back of the queue; what leaves, leaves it in front. -/
theorem Turn.fifo {s s' : Storage} {i : History} (t : Turn s i s') :
    s.queue.map Request.tag ++ i.admitted = i.departed ++ s'.queue.map Request.tag := by
  cases t with
  | lost | cleared =>
    simp [List.filterMap_map, Function.comp_def]
  | _ => simp [*]

/-- What a move admits joins the back of the queue; what leaves, leaves it in front. -/
theorem Move.fifo {s s' : Storage} {a : Action} {i : History} (m : Move s a i s') :
    s.queue.map Request.tag ++ i.admitted = i.departed ++ s'.queue.map Request.tag := by
  cases m <;> simp [*]

/-- Nothing goes with a storage that its owner still holds. -/
theorem Turn.lost_eq_nil {s s' : Storage} {i : History} (t : Turn s i s')
    (owned : s.owned = true) : i.lost = [] := by
  cases t with
  | lost top unowned => simp [owned] at unowned
  | cleared => simp [List.filterMap_map, Function.comp_def]
  | _ => rfl

theorem Move.lost_eq_nil {s s' : Storage} {a : Action} {i : History} (m : Move s a i s') :
    i.lost = [] := by
  cases m <;> rfl

theorem Move.owned_of_owned {s s' : Storage} {a : Action} {i : History} (m : Move s a i s')
    (owned : s'.owned = true) : s.owned = true := by
  cases m with
  | aside _ _ _ _ _ _ _ owner => simp_all
  | _ => exact owned

/-- A request reaches its handler, if at all, in the step after it was handed over. -/
theorem Turn.handled_sublist {s s' : Storage} {i : History} (t : Turn s i s')
    (onTop : s.LaunchOnTop) :
    (i.handled ++ s'.launched.map (·.id)).Sublist
      (s.launched.map (·.id) ++ i.begun.map Tag.id) := by
  unfold Storage.launched
  cases t with
  | lost | cleared =>
    have nobody : s.queue.filterMap (fun _ => (none : Option RequestId)) = [] :=
      List.filterMap_eq_nil_iff.mpr fun _ _ => rfl
    simp [List.filterMap_map, Function.comp_def, Task.launched, *]
  | @entered r rest top | @drained r q rest top =>
    simp only [Storage.LaunchOnTop, top, List.tail_cons, Task.launched] at onTop
    simp [top, onTop, Task.launched, Request.tag]
  | recorded top emitter announced =>
    cases announced <;> simp [top, Task.launched]
  | @freed r idle rest top a =>
    cases idle <;> simp [top, Task.launched]
  | _ => simp [*, Task.launched]

theorem Move.handled_sublist {s s' : Storage} {a : Action} {i : History} (m : Move s a i s') :
    (i.handled ++ s'.launched.map (·.id)).Sublist
      (s.launched.map (·.id) ++ i.begun.map Tag.id) := by
  unfold Storage.launched
  cases m <;> simp [*, Task.launched]

end Rules

/-- What has begun is among what has left, in the same order. -/
theorem History.begun_sublist_departed (h : History) : h.begun.Sublist h.departed := by
  induction h with
  | nil => exact .refl _
  | cons incident h ih =>
    unfold History.begun History.departed at *
    cases incident <;> simp [List.filterMap_cons, Incident.begun?, Incident.departed?, ih]

/-- What has left, followed by the queue, is what was admitted. -/
theorem Run.fifo {rule : Rule} {start : Storage} (empty : start.queue = []) {h : History}
    {s : Storage} (run : Run rule start h s) :
    h.admitted = h.departed ++ s.queue.map Request.tag := by
  have next {h i : History} {q q' : List Tag} (before : h.admitted = h.departed ++ q)
      (moved : q ++ i.admitted = i.departed ++ q') :
      (h ++ i).admitted = (h ++ i).departed ++ q' := by
    rw [History.admitted_append, History.departed_append, before, List.append_assoc, moved,
      List.append_assoc]
  refine run.invariant (motive := fun h s => h.admitted = h.departed ++ s.queue.map Request.tag)
    (by rw [empty]; rfl) ?_ ?_
  · intro h s i s' _ inv t
    exact next inv t.fifo
  · intro h s a i s' _ inv _ _ m
    exact next inv m.fifo

theorem Run.lost_eq_nil {rule : Rule} {start : Storage} {h : History} {s : Storage}
    (run : Run rule start h s) (owned : s.owned = true) : h.lost = [] := by
  refine run.invariant (motive := fun h s => s.owned = true → h.lost = []) ?_ ?_ ?_ owned
  · exact fun _ => rfl
  · intro h s i s' _ inv t owned
    rw [t.owned_eq] at owned
    rw [History.lost_append, inv owned, t.lost_eq_nil owned, List.append_nil]
  · intro h s a i s' _ inv _ _ m owned
    rw [History.lost_append, inv (m.owned_of_owned owned), m.lost_eq_nil, List.append_nil]

/-- What has reached a handler has begun, in the same order, and so has what is about to be given to
the device. -/
theorem Run.handled_launched_sublist_begun {rule : Rule} {start : Storage}
    (onTop : start.LaunchOnTop) (none : start.launched = []) {h : History} {s : Storage}
    (run : Run rule start h s) :
    (h.handled ++ s.launched.map (·.id)).Sublist (h.begun.map Tag.id) := by
  have next {h i : History} {l l' : List RequestId}
      (before : (h.handled ++ l).Sublist (h.begun.map Tag.id))
      (moved : (i.handled ++ l').Sublist (l ++ i.begun.map Tag.id)) :
      ((h ++ i).handled ++ l').Sublist ((h ++ i).begun.map Tag.id) := by
    rw [History.handled_append, History.begun_append, List.map_append, List.append_assoc]
    have step :
        (h.handled ++ (i.handled ++ l')).Sublist (h.handled ++ l ++ i.begun.map Tag.id) := by
      rw [List.append_assoc]
      exact moved.append_left _
    exact step.trans (before.append_right _)
  refine run.invariant (motive := fun h s =>
    (h.handled ++ s.launched.map (·.id)).Sublist (h.begun.map Tag.id)) ?_ ?_ ?_
  · rw [none]
    exact .refl _
  · intro h s i s' run inv t
    exact next inv (t.handled_sublist (run.launchOnTop onTop))
  · intro h s a i s' run inv _ _ m
    exact next inv m.handled_sublist

theorem Run.handled_sublist_begun {rule : Rule} {start : Storage} (onTop : start.LaunchOnTop)
    (none : start.launched = []) {h : History} {s : Storage} (run : Run rule start h s) :
    h.handled.Sublist (h.begun.map Tag.id) :=
  (List.sublist_append_left _ _).trans (run.handled_launched_sublist_begun onTop none)

/-- **First in, first out.**  At every moment, the requests that have begun, were taken out of the
queue or cleared away with it, followed by the queue, are the requests that were admitted, in order.
No request is in two places.  Those that have begun, and those that have reached a handler of the
device, did so in the order of their admission, and nothing leaves before what was admitted
earlier. -/
theorem Run.admission_order {capabilities : Capabilities} {limits : Limits} {allocator : Allocator}
    {h : History} {s : Storage}
    (run : Run Rule.free (Storage.create capabilities limits allocator) h s) :
    h.admitted = h.departed ++ s.queue.map Request.tag ∧
    (s.owned = true → h.lost = []) ∧
    (∀ id, s.copies id ≤ 1) ∧
    h.departed <+: h.admitted ∧
    h.begun.Sublist h.admitted ∧
    h.handled.Sublist (h.begun.map Tag.id) := by
  have order := run.fifo rfl
  have leaves : h.departed <+: h.admitted := ⟨s.queue.map Request.tag, order.symm⟩
  refine ⟨order, run.lost_eq_nil, ?_, leaves, ?_, ?_⟩
  · exact (run.custody (Storage.custody_create ..)).unique
  · exact h.begun_sublist_departed.trans leaves.sublist
  · exact run.handled_sublist_begun (Storage.launchOnTop_create ..) rfl

/-- A read that waits behind an opening. -/
theorem Run.admission_order_read :
    ∃ h s, Run Rule.free (Storage.create .readWrite) h s ∧
      h.departed = [⟨1, .opening⟩] ∧ s.queue.map Request.tag = [⟨2, .read⟩] ∧
      h.admitted = h.departed ++ s.queue.map Request.tag := by
  have fresh : Run Rule.free (Storage.create .readWrite) [] _ := .start
  have asked := fresh.move (.call .opening (some (.call 1)) none) rfl trivial
  have inside := (((asked.step rfl).step rfl).step rfl).step rfl
  have read := inside.move (.call (.read 0 4) (some (.call 2)) none) rfl trivial
  have waiting := (read.step rfl).step rfl
  exact ⟨_, _, waiting, by decide, by decide, (Run.admission_order waiting).1⟩

end StorageEngine
