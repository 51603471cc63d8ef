import StorageEngine.Proofs.Endings

/-!
# A storage that is destroyed

Once a destruction has succeeded, the storage never comes back: no later end of a request moves its
state on, nothing joins its queue, and nothing that runs reaches the device.  What still waited may
be taken out by clients, until the end of the destruction clears the queue (`Storage.Shut`).

Whatever a client asks for then is refused without any client code being called
(`Storage.Refuses`), and the storage is left as it was.

* `Turn.shut`, `Move.shut` — a storage that is shut stays so;
* `Turn.handled_of_shut` — nothing reaches the device;
* `Turn.queue_of_shut`, `Move.queue_of_shut` — the queue only shrinks, from its head or as a whole;
* `Storage.refuses_call` and the lemmas that follow it — every call is refused.
-/

namespace StorageEngine

namespace Task

/-- A task that is about to give a barrier to the device. -/
def runsBarrier : Task → Bool
  | .run r => r.kind.isBarrier
  | _ => false

section RunsBarrier

variable (r : Request)

@[simp] theorem runsBarrier_of_due_eq_nil {t : Task} (nothing : t.due = []) :
    t.runsBarrier = false := by
  cases t <;> simp_all [runsBarrier]

@[simp] theorem runsBarrier_run : (run r).runsBarrier = r.kind.isBarrier := rfl
@[simp] theorem runsBarrier_pipeline (stage : Stage) : (pipeline r stage).runsBarrier = false := rfl
@[simp] theorem runsBarrier_teardown (rs : List Request) : (teardown rs).runsBarrier = false := rfl

end RunsBarrier

end Task

namespace Storage

/-- A storage that is destroyed.  Only data requests are about to run, and what waits will be
cleared away. -/
structure Shut (s : Storage) : Prop where
  ready : s.ready = .destroyed
  launched : ∀ t ∈ s.stack, ¬ t.runsBarrier
  clearing : s.queue ≠ [] → Task.clearing s.stack

/-- The storage gets from one state to another by its own steps, and nothing happens on the way. -/
inductive Proceeds (s : Storage) : Storage → Prop
  | here : Proceeds s s
  | step {s' s'' : Storage} (before : Proceeds s s') (next : s'.step = some s'')
      (silent : s'.incidents = []) : Proceeds s s''

/-- A move is refused with this answer: no client code is called, and the storage is left as
`s'`. -/
structure Refuses (s : Storage) (a : Action) (reply : Reply) (s' : Storage) : Prop where
  silent : s.incidentsOf a = [.asked a]
  answered : (s.act a).Proceeds (s'.reply reply)

/-- Data requests of a destroyed storage reach no handler. -/
theorem destination_of_destroyed {s : Storage} (dead : s.ready = .destroyed) {kind : Kind}
    (data : ¬ kind.isBarrier) (h : Handler) (needsOpen : Bool) :
    s.destination kind ≠ (.handler h, needsOpen) := by
  cases kind <;> simp_all [destination, route, Kind.isBarrier]

end Storage

/-- Below the topmost task, nothing is about to be given to the device. -/
theorem Storage.LaunchOnTop.not_runsBarrier {s : Storage} (onTop : s.LaunchOnTop) {task : Task}
    {rest : List Task} (top : s.stack = task :: rest) : ∀ t ∈ rest, ¬ t.runsBarrier := by
  intro t below
  have none := onTop.launched_below top t below
  cases t <;> simp_all [Task.launched]

section Rules

variable {s s' : Storage} {i : History}

attribute [local simp] Task.clearing Task.clears

/-- No step brings a destroyed storage back. -/
theorem Turn.ready_of_destroyed (t : Turn s i s') (dead : s.ready = .destroyed) :
    s'.ready = .destroyed := by
  cases t with
  | settled => exact (s.transition_ready _).mpr (.inl dead)
  | _ => exact dead

/-- No move changes the point of life. -/
theorem Move.ready_eq {a : Action} (m : Move s a i s') : s'.ready = s.ready := by
  cases m <;> rfl

theorem Turn.shut (t : Turn s i s') (shut : s.Shut) (inPlace : s.InPlace) : s'.Shut := by
  have dead := shut.ready
  refine ⟨t.ready_of_destroyed dead, ?_,
    t.clearing (fun _ => dead) (fun _ => shut.clearing) (t.ready_of_destroyed dead)⟩
  have launched := shut.launched
  cases t with
  | @entered r rest top =>
    have data := (inPlace.stack (.enter r) (by simp [top])).2
    simp_all
  | drained _ _ _ _ living => exact absurd dead living
  | recorded top emitter announced => cases announced <;> simp_all
  | @freed r idle rest top => cases idle <;> simp_all
  | _ => simp_all

theorem Move.shut {a : Action} (m : Move s a i s') (shut : s.Shut) : s'.Shut := by
  refine ⟨m.ready_eq.trans shut.ready, ?_, ?_⟩
  · have launched := shut.launched
    cases m <;> simp_all
  · have clearing := shut.clearing
    cases m with
    | pushed _ room => exact absurd shut.ready room.living
    | _ => simp_all

/-- Nothing reaches the device of a destroyed storage. -/
theorem Turn.handled_of_shut (t : Turn s i s') (shut : s.Shut) : i.handled = [] := by
  have launched := shut.launched
  cases t with
  | @dispatched r rest top _ handler _ _ n _ _ _ _ _ serves =>
    have data : ¬ r.kind.isBarrier := launched (.run r) (by simp [top])
    exact absurd serves.routed (Storage.destination_of_destroyed shut.ready data handler n)
  | _ => simp [History.handled, Incident.handled?, List.filterMap_map, Function.comp_def]

theorem Move.handled_eq_nil {a : Action} (m : Move s a i s') : i.handled = [] := by
  cases m <;> rfl

/-- Whatever leaves the queue in a step is cleared away. -/
theorem Turn.queue_of_shut (t : Turn s i s') (shut : s.Shut) :
    s.queue.map (·.id) = i.cleared ++ s'.queue.map (·.id) := by
  have dead := shut.ready
  cases t with
  | lost top =>
    have empty : s.queue = [] := by
      by_contra waits
      simpa [top] using shut.clearing waits
    simp [empty, History.cleared]
  | queued _ _ _ _ _ room | waiting _ _ room => exact absurd dead room.living
  | drained _ _ _ _ living => exact absurd dead living
  | settled => simp [Function.comp_def, History.cleared, Incident.cleared?, List.filterMap_cons]
  | cleared =>
    simp [History.cleared, List.filterMap_map, Function.comp_def, Incident.cleared?]
  | _ => simp [History.cleared, Incident.cleared?, List.filterMap_cons]

/-- Clients take requests from the head of the queue. -/
theorem Move.queue_of_shut {a : Action} (m : Move s a i s') (shut : s.Shut) :
    s.queue.map (·.id) = i.shifted.map (·.id) ++ s'.queue.map (·.id) := by
  cases m with
  | pushed _ room => exact absurd shut.ready room.living
  | shifted head =>
    simp [head, History.shifted, Incident.shifted?, List.filterMap_cons, Request.tag]
  | _ => simp [History.shifted, Incident.shifted?, List.filterMap_cons]

end Rules

namespace Storage

section Calls

variable {s : Storage}

theorem proceeds_submit (dead : s.ready = .destroyed) (o : Order) :
    (s.push [.submit o]).Proceeds (s.reply (.done (.error .fault))) := by
  refine .step .here ?_ ?_
  · simp [step, push, perform, submit, isDestroyed, dead, reply]
  · simp [incidents, push, performance, submission, isDestroyed, dead]

/-- Every operation is refused; a destruction already at the closing that precedes it. -/
theorem proceeds_call (dead : s.ready = .destroyed) (op : Operation) (receiver : Option Receiver)
    (observer : Option Observer) :
    (s.call op receiver observer).Proceeds (s.reply (.done (.error .fault))) := by
  cases op with
  | opening =>
    have unsettled : s.isOpenSettled = false := by simp [isOpenSettled, dead]
    simpa [call, unsettled] using proceeds_submit dead _
  | destroying =>
    have closing : (s.call .destroying receiver observer).Proceeds
        ((s.push [.awaitClosing (Operation.destroying.order receiver observer)]).reply
          (.done (.error .fault))) :=
      proceeds_submit (s := s.push [.awaitClosing (Operation.destroying.order receiver observer)])
        dead { kind := .closing }
    exact .step closing rfl rfl
  | _ => exact proceeds_submit dead _

theorem refuses_call (dead : s.ready = .destroyed) (op : Operation) (receiver : Option Receiver)
    (observer : Option Observer) :
    s.Refuses (.call op receiver observer) (.done (.error .fault)) s where
  silent := by
    have unsettled : ¬ (op = .opening ∧ observer = none ∧ s.isOpenSettled = true) := by
      simp [isOpenSettled, dead]
    simp [incidentsOf, answeredAtOnce_of_not unsettled]
  answered := proceeds_call dead op receiver observer

/-- A promise keeps the refusal. -/
theorem refuses_promise (dead : s.ready = .destroyed) (op : Operation) :
    s.Refuses (.promise op) (.promise s.nextPromise)
      { s with
        nextPromise := s.nextPromise + 1
        kept := s.kept ++ [(s.nextPromise, .error .fault)] } where
  silent := rfl
  answered := by
    have refused := proceeds_call (s := ({ s with nextPromise := s.nextPromise + 1 } : Storage).push
      [.awaitCall s.nextPromise]) dead op (some (.promise s.nextPromise)) none
    exact .step refused rfl rfl

theorem refuses_makeRequest (dead : s.ready = .destroyed) (kind : Kind) (offset size : Nat) :
    s.Refuses (.makeRequest kind offset size) (.made (.error .fault)) s where
  silent := rfl
  answered := by
    simpa [act, makeRequest, isDestroyed, dead] using .here

theorem refuses_listen (dead : s.ready = .destroyed) (event : Event) (ttl : Ttl)
    (callback : Callback) :
    s.Refuses (.listen event ttl callback) (.registered (.error .fault)) s where
  silent := rfl
  answered := by
    simpa [act, listen, isDestroyed, dead] using .here

/-- A request that is pushed without ever having been inside the device is refused and is no
more. -/
theorem refuses_push (dead : s.ready = .destroyed) {id : RequestId} {r : Request}
    (found : s.find? id = some r) (fresh : r.phase ≠ .running) :
    s.Refuses (.push id) (.length (.error .fault)) ((s.take id).discard r) := by
  have refused : (s.take id).enqueue r = .error .fault := by
    simp [enqueue, isDestroyed, take, dead]
  constructor
  · simp [incidentsOf, pushing, found, refused, fresh]
  · simpa [act, pushRequest, found, refused, letGo, fresh] using .here

end Calls

end Storage

end StorageEngine
