import StorageEngine.Proofs.Deferral
import StorageEngine.Proofs.Draining
import StorageEngine.Proofs.PushBack
import StorageEngine.Proofs.Recast

/-!
# The order of completions

Data requests that are inside the device at the same time may come to their ends in any order.  Each
end takes its request out of the count and gives its blocks back, and that is all that it does to
the storage, so the order of these ends can be told from nothing but the order in which hooks,
callbacks and promises are told.  Only the last end, whichever it is, finds nothing left inside and
drains the queue; what has been told by then plays no part in that (`Storage.step_recast`).

* `relieved_concat` — the ends of several requests, one more at a time;
* `relieved_perm` — in another order;
* `comesTo_relieved` — an end that leaves something inside;
* `finishAll_perm` — all of them, and the draining.
-/

namespace StorageEngine

open StateTransition

/-- The results that promises keep when a request has come to its end. -/
def Request.kept (r : Request) : List (Nat × Except Error Payload) :=
  match r.receiver with
  | some (.promise number) => [(number, r.result)]
  | _ => []

/-- What is seen of the end of a data request: its observer is told, then its caller. -/
def Request.told (r : Request) : List Sight :=
  (r.observation ++ r.notification).map .called

namespace Storage

variable (s : Storage)

/-- A data request with this number is inside the device. -/
def Inside (id : RequestId) : Prop :=
  ∃ r, s.find? id = some r ∧ r.phase = .running ∧ r.kind.isData

/-- The request that comes to this end, with its result. -/
def ending? (e : RequestId × Response) : Option Request :=
  (s.find? e.1).map fun r => (e.2.apply r).1.recorded (e.2.apply r).2

/-- The requests that come to these ends. -/
def endings (ends : List (RequestId × Response)) : List Request :=
  ends.filterMap s.ending?

/-- The storage when data requests have come to these ends, one after the other. -/
def relieved (ends : List (RequestId × Response)) : Storage :=
  { s with
    pending := s.pending - ends.length
    outside := s.outside.filter (·.id ∉ ends.map Prod.fst)
    kept := s.kept ++ (s.endings ends).flatMap Request.kept
    allocator := s.allocator.releaseAll ((s.endings ends).flatMap Request.returned) }

variable {s}

section Relieved

theorem find?_filter {id : RequestId} {ids : List RequestId} (other : id ∉ ids) :
    (s.outside.filter (·.id ∉ ids)).find? (·.id = id) = s.find? id := by
  unfold find?
  rw [List.find?_filter]
  congr 1
  funext r
  by_cases same : r.id = id <;> simp [same, other]

theorem ending?_relieved {ends : List (RequestId × Response)} {e : RequestId × Response}
    (other : e.1 ∉ ends.map Prod.fst) : (s.relieved ends).ending? e = s.ending? e := by
  have found : (s.relieved ends).find? e.1 = s.find? e.1 := find?_filter other
  rw [ending?, ending?, found]

theorem relieved_nil : s.relieved [] = s := by
  simp [relieved, endings, Allocator.releaseAll]

/-- One more end. -/
theorem relieved_concat {ends : List (RequestId × Response)} {e : RequestId × Response}
    (other : e.1 ∉ ends.map Prod.fst) :
    (s.relieved ends).relieved [e] = s.relieved (ends ++ [e]) := by
  have ending : (s.relieved ends).endings [e] = s.endings [e] := by
    simp only [endings, List.filterMap_cons, List.filterMap_nil, ending?_relieved other]
  have all : s.endings (ends ++ [e]) = s.endings ends ++ s.endings [e] := List.filterMap_append
  have fewer : (s.outside.filter (·.id ∉ ends.map Prod.fst)).filter (·.id ∉ [e].map Prod.fst) =
      s.outside.filter (·.id ∉ (ends ++ [e]).map Prod.fst) := by
    rw [List.filter_filter]
    refine List.filter_congr fun r _ => ?_
    simp only [List.map_append, List.map_cons, List.map_nil, List.mem_append, List.mem_singleton,
      not_or, Bool.decide_and]
    exact Bool.and_comm ..
  simp only [relieved] at ending ⊢
  simp only [ending, all, fewer, List.flatMap_append, Allocator.releaseAll_append, Nat.sub_sub,
    List.length_append, List.append_assoc]

/-- In another order: other results are kept first. -/
theorem relieved_perm {ends others : List (RequestId × Response)} (same : others.Perm ends) :
    s.relieved others =
      { s.relieved ends with kept := s.kept ++ (s.endings others).flatMap Request.kept } := by
  have endings : (s.endings others).Perm (s.endings ends) := same.filterMap _
  have outside : s.outside.filter (·.id ∉ others.map Prod.fst) =
      s.outside.filter (·.id ∉ ends.map Prod.fst) := by
    refine List.filter_congr fun r _ => ?_
    simp only [(same.map Prod.fst).mem_iff]
  simp only [relieved, same.length_eq, outside,
    s.allocator.releaseAll_perm (endings.flatMap_right Request.returned)]

end Relieved

section Ending

variable {r : Request}

/-- The end of a data request announces nothing and moves no state on. -/
theorem wrapUp_data (result : Except Error Nat) (data : r.kind.isData)
    (running : r.phase = .running) :
    s.wrapUp r result = { s with
      pending := s.pending - 1
      kept := s.kept ++ (r.recorded result).kept
      allocator := s.allocator.releaseAll (r.recorded result).returned } ∧
    (s.audience (r.recorded result)).map .called = (r.recorded result).told ∧
    ¬ (r.recorded result).Razes ∧
    ∀ queue : List Request, queue.map (r.recorded result).fallout = queue := by
  generalize ended : r.recorded result = q
  have kind : r.kind = q.kind := by
    rw [← ended]
    cases result <;> rfl
  rw [kind] at data
  have sort : q.kind = .read ∨ q.kind = .write ∨ q.kind = .delete ∨ q.kind = .stat := by
    cases same : q.kind <;> simp_all [Kind.isData]
  have noBarrier : r.kind.isBarrier = false := by
    rw [kind]
    obtain same | same | same | same := sort <;> rw [same] <;> rfl
  have silent : s.announcement q = none := by
    obtain same | same | same | same := sort <;>
      simp [announcement, Request.notice?, Request.event?, same]
  have stays : s.transition q = s := by
    unfold transition
    obtain same | same | same | same := sort <;> cases q.error <;> simp [same]
  have untouched (queue : List Request) : queue.map q.fallout = queue := by
    have spared (other : Request) : q.fallout other = other := by
      unfold Request.fallout
      obtain same | same | same | same := sort <;> cases q.error <;> simp [same]
    simp [funext spared]
  have survives : ¬ q.Razes := fun razes => by simp [razes.1, Kind.isData] at data
  have kept : s.keptAfter q = s.kept ++ q.kept := by
    unfold keptAfter Request.kept
    cases q.receiver with
    | none => simp
    | some receiver => cases receiver <;> simp
  refine ⟨?_, ?_, survives, untouched⟩
  · rw [wrapUp_eq, ended, stays, untouched, kept]
    simp [running, noBarrier, survives, informed, silent]
  · simp [audience, hearers, silent, Request.told]

end Ending

end Storage

namespace Session

variable {σ : Type}

/-- The device ends these requests, one after the other, and takes the answer of each end. -/
def finishAll (w : Worker σ) (fuel : Nat) (x : Session σ) (ends : List (RequestId × Response)) :
    Session σ :=
  ends.foldl (fun x e => ((x.act (e.2.move e.1)).goOn w fuel).act .collect) x

/-- The session, with these results kept and this seen before. -/
def after (x : Session σ) (kept : List (Nat × Except Error Payload)) (seen : List Sight) :
    Session σ :=
  { x with
    storage := { x.storage with kept := kept ++ x.storage.kept }
    seen := seen ++ x.seen }

/-- The session when data requests have come to these ends, one after the other. -/
def relieved (x : Session σ) (ends : List (RequestId × Response)) : Session σ :=
  (x.onto (x.storage.relieved ends)).sees ((x.storage.endings ends).flatMap Request.told)

section Ending

variable {w : Worker σ} {x : Session σ} {e : RequestId × Response}

/-- The device ends a request that it has parked. -/
theorem act_move_inside {r : Request} (alive : x.storage.isAlive)
    (found : x.storage.find? e.1 = some r) (running : r.phase = .running) :
    x.act (e.2.move e.1) =
      x.staged (.pipeline (e.2.apply r).1 (.record (e.2.apply r).2) ::
        .answer .unit :: x.storage.stack) x.storage.draining (x.storage.take e.1).outside
        x.storage.queue := by
  obtain ⟨id, response⟩ := e
  have found : x.storage.find? id = some r := found
  refine congrArg x.onto ?_
  cases response with
  | verdict v =>
    simp only [Response.move, Storage.act, Storage.complete, found, alive, if_true]
    rfl
  | dropped =>
    simp only [Response.move, Storage.act, Storage.abandon, found, alive, if_true, Storage.letGo,
      running]
    rfl

/-- The device ends a data request. -/
theorem reaches_relieved (alive : x.storage.isAlive) (inside : x.storage.Inside e.1) :
    Reaches (tick w) (x.act (e.2.move e.1))
      ((x.relieved [e]).staged
        ((if x.storage.pending - 1 = 0 then [.drain] else []) ++ .answer .unit :: x.storage.stack)
        x.storage.draining (x.relieved [e]).storage.outside x.storage.queue) := by
  obtain ⟨r, found, running, data⟩ := inside
  have acted := act_move_inside alive found running
  have kind : (e.2.apply r).1.kind = r.kind := by
    cases e.2 <;> rfl
  have phase : (e.2.apply r).1.phase = r.phase := by
    cases e.2 <;> rfl
  have ending : x.storage.endings [e] = [(e.2.apply r).1.recorded (e.2.apply r).2] := by
    simp [Storage.endings, Storage.ending?, found]
  have taken : (x.storage.take e.1).outside =
      x.storage.outside.filter (·.id ∉ [e].map Prod.fst) := by
    refine List.filter_congr fun r _ => ?_
    simp
  generalize e.2.apply r = filled at acted kind phase ending
  obtain ⟨q, result⟩ := filled
  obtain ⟨wrapped, told, survives, untouched⟩ := x.storage.wrapUp_data (r := q) result
    (kind ▸ data) (phase.trans running)
  have ends := reaches_pipeline (w := w) x q (.answer .unit :: x.storage.stack)
    x.storage.draining (x.storage.take e.1).outside x.storage.queue result
    fun razes => absurd razes survives
  unfold wrapUp at ends
  rw [untouched, told, wrapped, taken] at ends
  rw [acted, taken]
  unfold relieved Storage.relieved
  rw [ending, List.flatMap_singleton, List.flatMap_singleton, List.flatMap_singleton]
  exact ends

/-- Where only answers are left, it is the clients' turn. -/
theorem halts_of_answers (x : Session σ) {stack : List Task} (idle : stack.all (·.isAnswer))
    (reply : Reply) (draining : Bool) (outside queue : List Request) :
    tick w (x.staged (.answer reply :: stack) draining outside queue) = none := by
  cases stack with
  | nil => rfl
  | cons task rest =>
    have answer : task.isAnswer = true := by simpa using List.all_eq_true.mp idle task (by simp)
    cases task with
    | answer => rfl
    | _ => exact nomatch answer

end Ending

section Relieved

variable {w : Worker σ} {x : Session σ} {ends : List (RequestId × Response)}
  {e : RequestId × Response}

theorem relieved_nil : x.relieved [] = x := by
  simp [relieved, Storage.relieved_nil, Storage.endings, onto]

/-- One more end. -/
theorem relieved_concat (other : e.1 ∉ ends.map Prod.fst) :
    (x.relieved ends).relieved [e] = x.relieved (ends ++ [e]) := by
  have ending : (x.storage.relieved ends).endings [e] = x.storage.endings [e] := by
    simp only [Storage.endings, List.filterMap_cons, List.filterMap_nil,
      Storage.ending?_relieved other]
  have all : x.storage.endings (ends ++ [e]) = x.storage.endings ends ++ x.storage.endings [e] :=
    List.filterMap_append
  unfold relieved
  simp only [storage_sees, storage_onto, ending, all, List.flatMap_append,
    Storage.relieved_concat other, onto_sees, onto_onto, sees_sees]

theorem inside_relieved (other : e.1 ∉ ends.map Prod.fst) (inside : x.storage.Inside e.1) :
    (x.relieved ends).storage.Inside e.1 := by
  obtain ⟨r, found, rest⟩ := inside
  exact ⟨r, (Storage.find?_filter other).trans found, rest⟩

/-- As long as something is left inside, requests that end do nothing else. -/
theorem finishAll_relieved (idle : x.storage.isIdle) (alive : x.storage.isAlive)
    (distinct : (ends.map Prod.fst).Nodup) (inside : ∀ e ∈ ends, x.storage.Inside e.1)
    (more : ends.length < x.storage.pending) :
    ∃ n, ∀ fuel ≥ n, x.finishAll w fuel ends = x.relieved ends := by
  induction ends using List.reverseRecOn with
  | nil => exact ⟨0, fun fuel _ => relieved_nil.symm⟩
  | append_singleton ends e ih =>
    rw [List.map_append, List.nodup_append] at distinct
    obtain ⟨distinct, -, apart⟩ := distinct
    have other : e.1 ∉ ends.map Prod.fst := fun member =>
      apart _ member _ (List.mem_singleton_self _) rfl
    rw [List.length_append, List.length_singleton] at more
    obtain ⟨n, earlier⟩ := ih distinct (fun e' member => inside e' (by simp [member])) (by omega)
    have ended := reaches_relieved (w := w) (x := x.relieved ends) (e := e) alive
      (inside_relieved other (inside e (by simp)))
    have left : (x.relieved ends).storage.pending - 1 ≠ 0 := by
      change x.storage.pending - ends.length - 1 ≠ 0
      omega
    rw [if_neg left, relieved_concat other] at ended
    obtain ⟨m, ended⟩ := goOn_of_reaches ended (halts_of_answers _ idle ..)
    refine ⟨max n m, fun fuel enough => ?_⟩
    have first := earlier fuel (by omega)
    unfold finishAll at first ⊢
    rw [List.foldl_append, first]
    change (((x.relieved ends).act (e.2.move e.1)).goOn w fuel).act .collect = _
    rw [ended fuel (by omega)]
    rfl

/-- The end that leaves nothing inside drains the queue. -/
theorem finishAll_concat (idle : x.storage.isIdle) (alive : x.storage.isAlive)
    (distinct : ((ends ++ [e]).map Prod.fst).Nodup)
    (inside : ∀ e' ∈ ends ++ [e], x.storage.Inside e'.1)
    (last : ends.length + 1 = x.storage.pending)
    {z : Session σ} {draining : Bool} {outside queue : List Request}
    (drains : Reaches (tick w)
      ((x.relieved (ends ++ [e])).staged (.drain :: .answer .unit :: x.storage.stack)
        x.storage.draining (x.storage.relieved (ends ++ [e])).outside x.storage.queue)
      (z.staged (.answer .unit :: x.storage.stack) draining outside queue)) :
    ∃ n, ∀ fuel ≥ n,
      x.finishAll w fuel (ends ++ [e]) = z.staged x.storage.stack draining outside queue := by
  rw [List.map_append, List.nodup_append] at distinct
  obtain ⟨distinct, -, apart⟩ := distinct
  have other : e.1 ∉ ends.map Prod.fst := fun member =>
    apart _ member _ (List.mem_singleton_self _) rfl
  obtain ⟨n, earlier⟩ := finishAll_relieved (w := w) idle alive distinct
    (fun e' member => inside e' (by simp [member])) (by omega)
  have ended := reaches_relieved (w := w) (x := x.relieved ends) (e := e) alive
    (inside_relieved other (inside e (by simp)))
  have nothing : (x.relieved ends).storage.pending - 1 = 0 := by
    change x.storage.pending - ends.length - 1 = 0
    omega
  rw [if_pos nothing, relieved_concat other] at ended
  obtain ⟨m, ended⟩ := goOn_of_reaches (reaches_trans ended drains) (halts_of_answers z idle ..)
  refine ⟨max n m, fun fuel enough => ?_⟩
  have first := earlier fuel (by omega)
  unfold finishAll at first ⊢
  rw [List.foldl_append, first]
  change (((x.relieved ends).act (e.2.move e.1)).goOn w fuel).act .collect = _
  rw [ended fuel (by omega)]
  rfl

end Relieved

section After

variable {w : Worker σ} {x y : Session σ} (kept : List (Nat × Except Error Payload))
  (seen : List Sight)

theorem nested_tick (next : tick w x = some y) (nested : x.storage.Nested) : y.storage.Nested := by
  obtain stepped | ⟨rest, a, moved⟩ := tick_storage next
  · exact (turn_of_step stepped).nested nested
  · rw [moved]
    exact (move_of_act x.storage a).nested nested (by simp [Storage.isAtRest, rest])

/-- What has been kept and seen before plays no part in how a session goes on. -/
theorem tick_after (parking : w.pace = .parking) (nested : x.storage.Nested) :
    tick w (x.after kept seen) = (tick w x).map (·.after kept seen) := by
  have stepped : (x.after kept seen).storage.step = _ := Storage.step_before kept nested
  have stack : (x.after kept seen).storage.stack = x.storage.stack := rfl
  have found (id : RequestId) : (x.after kept seen).storage.find? id = x.storage.find? id := rfl
  have left (y : Session σ) : (y.after kept seen).act .leave = (y.act .leave).after kept seen := by
    change (y.after kept seen).onto (y.after kept seen).storage.leave =
      (y.onto y.storage.leave).after kept seen
    unfold Storage.leave
    have stack : (y.after kept seen).storage.stack = y.storage.stack := rfl
    rw [stack]
    split <;> rfl
  have collected (y : Session σ) :
      (y.after kept seen).act .collect = (y.act .collect).after kept seen := by
    change (y.after kept seen).onto (y.after kept seen).storage.collect =
      (y.onto y.storage.collect).after kept seen
    unfold Storage.collect
    have stack : (y.after kept seen).storage.stack = y.storage.stack := rfl
    rw [stack]
    split <;> rfl
  have saw (y : Session σ) (sights : List Sight) :
      (y.after kept seen).sees sights = (y.sees sights).after kept seen := by
    simp [after, sees]
  have parked (h : Handler) (r : Request) :
      (x.after kept seen).park w.respond h r = (x.park w.respond h r).after kept seen := by
    simp [park, ask, after, sees]
  unfold tick
  rw [stepped, stack]
  cases next : x.storage.step with
  | some s => rfl
  | none =>
    dsimp only [Option.map_none]
    split
    case h_1 h id _ _ =>
      rw [found]
      cases x.storage.find? id with
      | some r =>
        dsimp only [serve]
        rw [parking, parked]
        exact congrArg some (left _)
      | none => exact congrArg some (left _)
    case h_2 => exact congrArg some ((congrArg (act · .leave) (saw x _)).trans (left _))
    case h_3 => exact congrArg some (collected _)
    case h_4 => rfl

theorem reaches_after (parking : w.pace = .parking) (nested : x.storage.Nested)
    (goes : Reaches (tick w) x y) : Reaches (tick w) (x.after kept seen) (y.after kept seen) := by
  induction goes using Relation.ReflTransGen.head_induction_on with
  | refl => exact .refl
  | head first _ ih =>
    have next : tick w _ = some _ := first
    have next' := tick_after kept seen parking nested
    rw [next, Option.map_some] at next'
    exact .head next' (ih (nested_tick next nested))

end After

section Order

variable {w : Worker σ} {x : Session σ} {ends order : List (RequestId × Response)}

/-- The session when data requests have come to these ends, without what was kept and seen. -/
def unheard (x : Session σ) (ends : List (RequestId × Response)) : Session σ :=
  { x with storage := { x.storage.relieved ends with kept := [] }, seen := [] }

/-- What is kept and seen after these ends. -/
def telling (x y : Session σ) (order : List (RequestId × Response)) : Session σ :=
  y.after (x.storage.kept ++ (x.storage.endings order).flatMap Request.kept)
    (x.seen ++ (x.storage.endings order).flatMap Request.told)

theorem relieved_eq_telling (same : order.Perm ends) :
    x.relieved order = x.telling (x.unheard ends) order := by
  simp [relieved, telling, unheard, after, sees, onto, Storage.relieved_perm same]

/-- What is inside the device is counted. -/
theorem length_le_pending {capabilities : Capabilities} {limits : Limits} {allocator : Allocator}
    {h : History}
    (run : Run Rule.alive (Storage.create capabilities limits allocator) h x.storage)
    (idle : x.storage.isIdle) (distinct : (ends.map Prod.fst).Nodup)
    (inside : ∀ e ∈ ends, x.storage.Inside e.1) : ends.length ≤ x.storage.pending := by
  have pending := run.books.pending_haunted fun r stray => (History.mem_strays.mp stray).2
  have counted := counted_of_isIdle idle
  have all : ends.map Prod.fst ⊆ x.storage.counted.map (·.id) := by
    intro id member
    obtain ⟨e, mem, rfl⟩ := List.mem_map.mp member
    obtain ⟨r, found, running, -⟩ := inside e mem
    have held := List.mem_of_find?_eq_some found
    have same : r.id = e.1 := by simpa using List.find?_some found
    rw [counted, List.mem_map]
    exact ⟨r, List.mem_filter.mpr ⟨held, by simpa using running⟩, same⟩
  have fewer := (List.subperm_of_subset distinct all).length_le
  rw [List.length_map, List.length_map] at fewer
  omega

theorem nested_drain (x : Session σ) {stack : List Task} (idle : stack.all (·.isAnswer))
    (draining : Bool) (outside queue : List Request) :
    (x.staged (.drain :: .answer .unit :: stack) draining outside queue).storage.Nested := by
  have waits (stack : List Task) (idle : stack.all (·.isAnswer)) :
      Task.awaits stack = false ∧ Task.Linked stack := by
    induction stack with
    | nil => exact ⟨rfl, trivial⟩
    | cons t rest ih =>
      rw [List.all_cons, Bool.and_eq_true] at idle
      obtain ⟨outer, linked⟩ := ih idle.2
      refine ⟨?_, fun inner => absurd inner (by simp [outer]), linked⟩
      cases t with
      | answer => rfl
      | _ => exact nomatch idle.1
  obtain ⟨outer, linked⟩ := waits stack idle
  exact {
    linked := ⟨nofun, fun inner => absurd inner (by simp [outer]), linked⟩
    top := rfl }

/-- **Completions commute.**  Data requests that are inside a device that parks what it is given may
come to their ends in any order.  Whatever the order, the storage and the device come to the same
state, and what is seen after the last end, handlers that are given other requests included, is the
same; before that, every request's hook, callback or promise has got the outcome of its own end. -/
theorem finishAll_perm {capabilities : Capabilities} {limits : Limits} {allocator : Allocator}
    {h : History}
    (run : Run Rule.alive (Storage.create capabilities limits allocator) h x.storage)
    (idle : x.storage.isIdle) (alive : x.storage.isAlive) (parking : w.pace = .parking)
    (distinct : (ends.map Prod.fst).Nodup) (inside : ∀ e ∈ ends, x.storage.Inside e.1) :
    ∃ y : Session σ, y.storage.stack = x.storage.stack ∧
      ∀ order : List (RequestId × Response), order.Perm ends →
        ∃ n, ∀ fuel ≥ n, x.finishAll w fuel order = x.telling y order := by
  have few := length_le_pending run idle distinct inside
  have apart {order : List (RequestId × Response)} (same : order.Perm ends) :
      (order.map Prod.fst).Nodup ∧ ∀ e ∈ order, x.storage.Inside e.1 :=
    ⟨(same.map _).nodup_iff.mpr distinct, fun e member => inside e (same.mem_iff.mp member)⟩
  by_cases none : ends = []
  · subst none
    refine ⟨x.unheard [], rfl, fun order same => ⟨0, fun fuel _ => ?_⟩⟩
    obtain rfl := same.eq_nil
    rw [← relieved_eq_telling .nil, relieved_nil]
    rfl
  by_cases more : ends.length < x.storage.pending
  · refine ⟨x.unheard ends, rfl, fun order same => ?_⟩
    rw [← relieved_eq_telling same]
    exact finishAll_relieved idle alive (apart same).1 (apart same).2 (same.length_eq ▸ more)
  -- Only the last end of any order finds nothing left inside.
  obtain ⟨parked, queue, -, z, drains⟩ := returns_drain (w := w) (x.unheard ends)
    (.answer .unit :: x.storage.stack) x.storage.draining (x.storage.relieved ends).outside
    x.storage.queue parking
  refine ⟨z.staged x.storage.stack x.storage.draining ((x.storage.relieved ends).outside ++ parked)
    queue, rfl, fun order same => ?_⟩
  cases order using List.reverseRecOn with
  | nil => exact absurd same.symm.eq_nil none
  | append_singleton done e =>
    obtain ⟨distinct, inside⟩ := apart same
    have length := same.length_eq
    rw [List.length_append, List.length_singleton] at length
    have drained := reaches_after (x.storage.kept ++ (x.storage.endings (done ++ [e])).flatMap
      Request.kept) (x.seen ++ (x.storage.endings (done ++ [e])).flatMap Request.told) parking
      (nested_drain _ idle _ _ _) drains
    have outside :
        (x.storage.relieved (done ++ [e])).outside = (x.storage.relieved ends).outside := by
      rw [Storage.relieved_perm same]
    refine finishAll_concat (z := z.after _ _) idle alive distinct inside (by omega) ?_
    rw [relieved_eq_telling same, outside]
    exact drained

/-- A read and a write are inside, and a closing waits for them.  Either may end first, and the
closing goes to the device after both. -/
theorem finishAll_perm_closing :
    let w : Worker Unit := ⟨.parking, fun _ _ _ => (.dropped, ())⟩
    let read : RequestId × Response := (2, .verdict { data := some [7, 7], result := .ok none })
    let write : RequestId × Response := (3, .dropped)
    ∃ (h : History) (x y : Session Unit),
      Run Rule.alive (Storage.create .readWrite) h x.storage ∧ x.storage.pending = 2 ∧
      (∃ n, ∀ fuel ≥ n, x.finishAll w fuel [read, write] = x.telling y [read, write]) ∧
      (∃ n, ∀ fuel ≥ n, x.finishAll w fuel [write, read] = x.telling y [write, read]) ∧
      (x.finishAll w 40 [read, write]).parked = [(4, .dropped)] ∧
      (x.finishAll w 40 [write, read]).parked = [(4, .dropped)] := by
  intro w read write
  have fresh : Run Rule.alive (Storage.create .readWrite) [] _ := .start
  have run := fresh.play
    [(.call .opening none none, 9), (.leave, 9), (.collect, 9),
      (.complete 1 { result := .ok none }, 9), (.collect, 9),
      (.call (.read 0 2) (some (.call 1)) none, 9), (.leave, 9), (.collect, 9),
      (.call (.write 0 [8]) (some (.call 2)) none, 9), (.leave, 9), (.collect, 9),
      (.call .closing none none, 9), (.collect, 9)]
    (by decide +kernel)
  obtain ⟨s, run, pending, idle, alive, held, first, second⟩ : ∃ s,
      Run Rule.alive (Storage.create .readWrite) _ s ∧ s.pending = 2 ∧ s.isIdle ∧ s.isAlive ∧
      (∀ e ∈ [read, write], (s.find? e.1).any fun r => r.phase = .running ∧ r.kind.isData) ∧
      (finishAll w 40 ⟨s, (), [], []⟩ [read, write]).parked = [(4, .dropped)] ∧
      (finishAll w 40 ⟨s, (), [], []⟩ [write, read]).parked = [(4, .dropped)] :=
    ⟨_, run, by decide +kernel, by decide +kernel, by decide +kernel, by decide +kernel,
      by decide +kernel, by decide +kernel⟩
  have inside (e : RequestId × Response) (member : e ∈ [read, write]) : s.Inside e.1 := by
    obtain ⟨r, found, rest⟩ := (Option.any_eq_true _ _).mp (held e member)
    exact ⟨r, found, of_decide_eq_true rest⟩
  obtain ⟨y, -, orders⟩ := finishAll_perm (w := w) (x := ⟨s, (), [], []⟩) run idle alive rfl
    (by decide) inside
  exact ⟨_, ⟨s, (), [], []⟩, y, run, pending, orders _ (.refl _), orders _ (.swap ..), first,
    second⟩

end Order

end Session

end StorageEngine
