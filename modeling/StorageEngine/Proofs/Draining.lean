import StorageEngine.Proofs.Session

/-!
# Draining comes to an end

A device that parks what it is given cannot keep a storage with quiet clients busy: the end of a
request, and the draining that follows it, take finitely many steps.  Every turn of draining takes a
request from the queue and nothing joins the queue meanwhile, so what is parked on the way and what
still waits in the end are together no more than what waited at first.

* `returns_pipeline` — a request with a result is wrapped up; a destruction fails what was queued
  behind it first;
* `returns_run` — a request that runs is parked, or it is wrapped up;
* `returns_drain` — draining ends, by induction on the length of the queue.
-/

namespace StorageEngine.Session

open StateTransition

variable {σ : Type} {w : Worker σ}

/-- The session comes to where these tasks are still to be done. -/
def Returns (w : Worker σ) (x : Session σ) (rest : List Task) (draining : Bool)
    (outside queue : List Request) : Prop :=
  ∃ y : Session σ, Reaches (tick w) x (y.staged rest draining outside queue)

section Pipeline

variable (x : Session σ) (r : Request) (rest : List Task) (draining : Bool)
  (outside queue : List Request)

theorem Returns.head {x y : Session σ} {rest : List Task} {draining : Bool}
    {outside queue : List Request} (first : Reaches (tick w) x y)
    (ends : Returns w y rest draining outside queue) : Returns w x rest draining outside queue := by
  obtain ⟨z, later⟩ := ends
  exact ⟨z, reaches_trans first later⟩

/-- What was queued behind a destruction is failed, one after the other. -/
theorem returns_teardown (orphans : List Request) :
    Returns w (x.staged (.teardown orphans :: rest) draining outside []) rest draining outside
      [] := by
  induction orphans generalizing x with
  | nil =>
    have cleared : Reaches (tick w) (x.staged (.teardown [] :: rest) draining outside [])
        ((x.onto { x.storage with emitter := x.storage.emitter.clear, attached := false }).staged
          rest draining outside []) := reaches_step rfl
    exact ⟨_, cleared⟩
  | cons r orphans ih =>
    have first : Reaches (tick w) (x.staged (.teardown (r :: orphans) :: rest) draining outside [])
        (x.staged (.pipeline r (.record (.error .fault)) :: .teardown orphans :: rest) draining
          outside []) := reaches_step (s := x.storage) rfl
    exact (ih _).head (reaches_trans first (reaches_wrapUp ..))

/-- The request is freed. -/
theorem returns_free (idle : Bool) :
    Returns w (x.staged (.pipeline r (.free idle) :: rest) draining outside queue)
      ((if idle then [.drain] else []) ++ rest) draining outside queue := by
  have freed : Reaches (tick w) (x.staged (.pipeline r (.free idle) :: rest) draining outside queue)
      ((x.onto (x.storage.discard r)).staged ((if idle then [.drain] else []) ++ rest) draining
        outside queue) := by
    refine reaches_step ?_
    cases idle <;> rfl
  exact ⟨_, freed⟩

/-- Buffers are given back; after a destruction, what was queued behind it is failed. -/
theorem returns_release (idle : Bool) : ∃ queue', queue'.length ≤ queue.length ∧
    Returns w (x.staged (.pipeline r (.release idle) :: rest) draining outside queue)
      ((if idle then [.drain] else []) ++ rest) draining outside queue' := by
  by_cases ended : r.kind = .destroying ∧ r.error = none ∧ x.storage.ready = .destroyed
  · refine ⟨[], Nat.zero_le _, ?_⟩
    have released := Storage.release_of_ended (s := x.storage.staged rest draining outside queue)
      (r := r) idle ended
    have first : Reaches (tick w)
        (x.staged (.pipeline r (.release idle) :: rest) draining outside queue)
        (x.staged (.teardown queue :: .pipeline r (.free idle) :: rest) draining outside []) :=
      reaches_step (s := x.storage) (congrArg some released)
    obtain ⟨y, torn⟩ := returns_teardown (w := w) x (.pipeline r (.free idle) :: rest) draining
      outside queue
    exact (returns_free y r rest draining outside [] idle).head (reaches_trans first torn)
  · refine ⟨queue, Nat.le_refl _, ?_⟩
    obtain ⟨r', a, released, -⟩ := Storage.release_of_ordinary
      (s := x.storage.staged rest draining outside queue) (r := r) idle ended
    have first : Reaches (tick w)
        (x.staged (.pipeline r (.release idle) :: rest) draining outside queue)
        ((x.onto { x.storage with allocator := a }).staged (.pipeline r' (.free idle) :: rest)
          draining outside queue) := reaches_step (congrArg some released)
    exact (returns_free _ r' rest draining outside queue idle).head first

/-- A request with a result is wrapped up, and the queue is drained if nothing was left inside. -/
theorem returns_pipeline (result : Except Error Nat) : ∃ (queue' : List Request) (idle : Bool),
    queue'.length ≤ queue.length ∧
      Returns w (x.staged (.pipeline r (.record result) :: rest) draining outside queue)
        ((if idle then [.drain] else []) ++ rest) draining outside queue' := by
  have recorded := reaches_record (w := w) x r rest draining outside queue result
  generalize (x.onto { x.storage with emitter := x.storage.informed (r.recorded result) }).sees
    ((x.storage.hearers (r.recorded result)).map .called) = y at recorded
  generalize r.recorded result = r' at recorded
  have settled := reaches_settle (w := w) y r' rest draining outside queue (r.phase = .running)
  generalize y.onto ((y.storage.transition r').uncount r' (r.phase = .running)) = z at settled
  generalize decide (((y.storage.transition r').uncount r' (r.phase = .running)).pending = 0) = idle
    at settled
  have observed := reaches_observe (w := w) z r' rest draining outside (queue.map r'.fallout) idle
  have concluded := reaches_conclude (w := w) (z.sees (r'.observation.map .called))
    { r' with observer := none } rest draining outside (queue.map r'.fallout) idle
  obtain ⟨queue', shorter, ends⟩ := returns_release (w := w) _ _ rest draining outside
    (queue.map r'.fallout) idle
  refine ⟨queue', idle, by simpa using shorter, ends.head ?_⟩
  exact reaches_trans recorded (reaches_trans settled (reaches_trans observed concluded))

end Pipeline

section Drain

variable (x : Session σ) (rest : List Task) (draining : Bool) (outside queue : List Request)

/-- A handler gives control back at once. -/
theorem returns_handler (parking : w.pace = .parking) (h : Handler) (id : RequestId) :
    Returns w (x.staged (.client (.handler h id) :: rest) draining outside queue) rest draining
      outside queue := by
  let handed := x.staged (.client (.handler h id) :: rest) draining outside queue
  have waits : handed.storage.step = none := rfl
  have top : handed.storage.stack = .client (.handler h id) :: rest := rfl
  cases found : handed.storage.find? id with
  | none =>
    refine ⟨x, .single ?_⟩
    change tick w handed = _
    simp only [tick, waits, top, found]
    rfl
  | some r =>
    refine ⟨x.park w.respond h r, .single ?_⟩
    change tick w handed = _
    simp only [tick, waits, top, found, serve, parking]
    rfl

/-- A request that runs while the queue is drained is parked, or it is wrapped up. -/
theorem returns_run (parking : w.pace = .parking) (r : Request) : ∃ parked queue',
    parked.length ≤ 1 ∧ queue'.length ≤ queue.length ∧
      Returns w (x.staged (.run r :: rest) true outside queue) rest true (outside ++ parked)
        queue' := by
  cases routed : (x.storage.launch r).route with
  | finished result =>
    have ran := reaches_run_of_finished (w := w) x r rest true outside queue routed
    obtain ⟨queue', idle, shorter, y, ends⟩ := returns_pipeline (w := w)
      (x.onto (x.storage.launch r).storage) (x.storage.launch r).request rest true outside queue
      result
    refine ⟨[], queue', Nat.zero_le _, shorter, ?_⟩
    rw [List.append_nil]
    refine Returns.head (reaches_trans ran ends) ⟨y, ?_⟩
    cases idle with
    | true => exact reaches_drain y rest outside queue' true (.inl rfl)
    | false => exact .refl
  | handler h =>
    have ran := reaches_run_of_handler (w := w) x r rest true outside queue routed
    refine ⟨[(x.storage.launch r).request], queue, Nat.le_refl _, Nat.le_refl _, ?_⟩
    exact (returns_handler _ rest true _ queue parking h _).head ran

/-- Draining ends. -/
theorem returns_drainNext (parking : w.pace = .parking) : ∃ parked queue',
    parked.length + queue'.length ≤ queue.length ∧
      Returns w (x.staged (.drainNext :: rest) true outside queue) rest false (outside ++ parked)
        queue' := by
  -- Each turn takes one request from the queue.
  induction waiting : queue.length using Nat.strong_induction_on generalizing x outside queue with
  | _ n ih =>
    have turn : (x.staged (.drainNext :: rest) true outside queue).storage.step =
      some (x.storage.staged rest true outside queue).drainNext := rfl
    unfold Storage.drainNext at turn
    obtain ⟨nothing, -⟩ | ⟨r, behind, starts, head, -⟩ :=
      (x.storage.staged rest true outside queue).startable?_cases
    · rw [nothing] at turn
      refine ⟨[], queue, by simp [waiting], x, ?_⟩
      rw [List.append_nil]
      exact reaches_step (s := x.storage) turn
    · obtain rfl : queue = r :: behind := head
      rw [starts] at turn
      have started : Reaches (tick w) (x.staged (.drainNext :: rest) true outside (r :: behind))
          (x.staged (.run r :: .drainNext :: rest) true outside behind) :=
        reaches_step (s := x.storage) turn
      obtain ⟨first, queue', few, shorter, y, ran⟩ :=
        returns_run x (.drainNext :: rest) outside behind parking r
      have waiting : behind.length + 1 = n := waiting
      obtain ⟨others, queue'', fewer, ends⟩ :=
        ih queue'.length (by omega) y (outside ++ first) queue' rfl
      refine ⟨first ++ others, queue'', ?_, ?_⟩
      · rw [List.length_append]
        omega
      · rw [← List.append_assoc]
        exact ends.head (reaches_trans started ran)

/-- So does draining that has not begun, or that is going on already. -/
theorem returns_drain (parking : w.pace = .parking) : ∃ parked queue',
    parked.length + queue'.length ≤ queue.length ∧
      Returns w (x.staged (.drain :: rest) draining outside queue) rest draining (outside ++ parked)
        queue' := by
  cases draining with
  | true =>
    refine ⟨[], queue, by simp, x, ?_⟩
    rw [List.append_nil]
    exact reaches_drain x rest outside queue true (.inl rfl)
  | false =>
    have begun : Reaches (tick w) (x.staged (.drain :: rest) false outside queue)
        (x.staged (.drainNext :: rest) true outside queue) := reaches_step (s := x.storage) rfl
    obtain ⟨parked, queue', few, ends⟩ := returns_drainNext x rest outside queue parking
    exact ⟨parked, queue', few, ends.head begun⟩

end Drain

end StorageEngine.Session
