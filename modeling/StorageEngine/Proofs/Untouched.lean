import StorageEngine.Proofs.Refusal

/-!
# What a refused call leaves alone

An opening, a closing, a data operation that sends no opening ahead, a registration, and the making
and the pushing of a request make one request or none.  Each of them can be refused at several
points: before anything was leased, after the record was leased and before its buffer was, or with
all leases taken and no room in the queue.

* `Allocator.Regains` — whatever was leased up to a refusal has been given back;
* `Storage.submit_cases`, `Storage.enter_cases` — the points at which a call is refused;
* `RunWhile.refused_submit` — a refused call has done nothing on its way;
* `Storage.refused_single` — every one of these calls leaves everything alone.
-/

namespace StorageEngine

/-- The reasons for which calls are refused. -/
def Error.isRefusal : Error → Bool
  | .fault | .invalidArgument | .unsupported _ | .capacityExceeded _ _ => true
  | _ => false

/-- The error that an answer refuses a call with. -/
def Reply.refusal? : Reply → Option Error
  | .done (.error e) | .length (.error e) | .made (.error e) | .registered (.error e) => some e
  | _ => none

namespace Allocator

/-- These blocks were asked for, up to the first refusal, and what was handed out came back. -/
structure Regains (a a' : Allocator) (sizes : List Nat) : Prop where
  policy : a'.policy = a.policy
  /-- As many blocks are handed out as before. -/
  blocks : a'.allocCount + a.freeCount = a.allocCount + a'.freeCount
  bytes : a.Affords sizes → a'.bytesInUse = a.bytesInUse ∧ a'.overflowed = a.overflowed

variable {a a' a'' : Allocator} {size : Nat} {sizes : List Nat}

theorem Regains.refl (a : Allocator) (sizes : List Nat) : a.Regains a sizes :=
  ⟨rfl, rfl, fun _ => ⟨rfl, rfl⟩⟩

/-- Nothing comes back from a refusal. -/
theorem Regains.of_refused (refused : a.allocate size = (false, a')) :
    a.Regains a' (size :: sizes) := by
  have refusal : a.grants size = false := by rw [← allocate_fst, refused]
  rw [allocate_of_refused (ruling_of_refused refusal)] at refused
  obtain ⟨-, rfl⟩ := Prod.mk.inj refused
  exact ⟨rfl, rfl, fun _ => ⟨rfl, rfl⟩⟩

/-- A block that was handed out comes back after the others. -/
theorem Regains.of_granted (granted : a.allocate size = (true, a')) (later : a'.Regains a'' sizes) :
    a.Regains (a''.release size) (size :: sizes) := by
  have grants : a.grants size := by rw [← allocate_fst, granted]
  obtain ⟨_, asked, -, counted⟩ := allocate_counted grants
  obtain ⟨-, rfl⟩ := Prod.mk.inj (asked.symm.trans granted)
  obtain ⟨policy, blocks, bytes⟩ := later
  refine ⟨?_, ?_, fun affords => ?_⟩
  · rw [release_policy, policy]
  · simp only [release] at blocks ⊢
    omega
  · obtain ⟨fits, affords⟩ := affords grants
    have stays := overflows_eq_false_iff.mpr fits
    obtain rfl := counted stays
    rw [granted] at affords
    obtain ⟨sum, flag⟩ := bytes affords
    exact ⟨by simp only [release, sum, Nat.add_sub_cancel], by simpa [release, stays] using flag⟩

end Allocator

namespace Storage

/-- A data operation that is not refused before sends an opening ahead. -/
def opensFirst (s : Storage) (o : Order) : Bool :=
  o.kind.isData && s.needsOpen && s.ready ≠ .opened && !s.isDestroyed &&
    s.capabilities.supports o.kind && (s.make o).1.isSome

/-- All that is left of a refused call are the counters. -/
structure LeavesAlone (s s' : Storage) (sizes : List Nat) (e : Error) : Prop where
  alike : s.Alike s'
  regains : s.allocator.Regains s'.allocator sizes
  reason : e.isRefusal

variable {s s' : Storage} {o : Order} {r : Request} {e : Error}

theorem reason_of_enqueue (refused : s.enqueue r = .error e) : e.isRefusal := by
  unfold enqueue at refused
  split at refused
  · obtain rfl := Except.error.inj refused
    rfl
  · split at refused
    · obtain rfl := Except.error.inj refused
      rfl
    · simp at refused

/-- Making a request: it is refused, or it holds the blocks that were asked for. -/
theorem make_regains (s : Storage) (o : Order) :
    (∃ a, s.make o = (none, { s with allocator := a }) ∧ s.allocator.Regains a o.blocks) ∨
    ∃ r a, s.make o = (some r, { s with allocator := a, nextId := s.nextId + 1 }) ∧
      s.allocator.Regains (a.releaseAll r.leases) o.blocks := by
  unfold make Order.blocks
  cases record : s.allocator.allocate Request.recordSize with
  | mk granted a =>
  cases granted with
  | false => exact .inl ⟨a, rfl, .of_refused record⟩
  | true =>
  cases o.payload with
  | none => exact .inr ⟨_, a, rfl, .of_granted record (.refl a [])⟩
  | some bytes =>
  cases buffer : a.allocate bytes.length with
  | mk granted a' =>
  cases granted with
  | false => exact .inl ⟨_, by simp [buffer], .of_granted record (.of_refused buffer)⟩
  | true =>
    refine .inr ⟨o.request s.nextId bytes (some bytes.length), a', by simp only [buffer]; rfl, ?_⟩
    have swapped : a'.releaseAll [Request.recordSize, bytes.length] =
        (a'.release bytes.length).release Request.recordSize := a'.releaseAll_perm (.swap ..)
    exact swapped ▸ .of_granted record (.of_granted buffer (.refl a' []))

/-- The request of an order is refused at once, or runs or waits, or an opening goes first, or it is
to be seen whether it runs or waits. -/
theorem submit_cases (s : Storage) (known : o.kind ≠ .nothing) :
    (∃ e, (s.submit o).stack = .answer (.done (.error e)) :: s.stack ∧ s.submission o = [] ∧
      s.LeavesAlone (s.submit o) o.blocks e) ∨
    .answer (.done (.ok ())) :: s.stack <:+ (s.submit o).stack ∨ s.opensFirst o ∨
    ∃ r a, s.submit o = { s with allocator := a, nextId := s.nextId + 1 }.push [.enter r] ∧
      s.submission o = [] ∧ s.allocator.Regains (a.releaseAll r.leases) o.blocks := by
  have atOnce {e : Error} (submitted : s.submit o = s.reply (.done (.error e)))
      (quiet : s.submission o = []) (reason : e.isRefusal) :
      ∃ e, (s.submit o).stack = .answer (.done (.error e)) :: s.stack ∧ s.submission o = [] ∧
        s.LeavesAlone (s.submit o) o.blocks e :=
    ⟨e, by rw [submitted]; rfl, quiet, submitted ▸ ⟨s.alike_push _, .refl _ _, reason⟩⟩
  by_cases dead : s.isDestroyed
  · exact .inl (atOnce (e := .fault) (by simp [submit, dead]) (by simp [submission, dead]) rfl)
  by_cases unsupported : o.kind.isData && !s.capabilities.supports o.kind
  · exact .inl (atOnce (e := .unsupported o.kind) (by simp [submit, dead, unsupported])
      (by simp [submission, dead, unsupported]) rfl)
  obtain ⟨a, refused, regains⟩ | ⟨r, a, made, regains⟩ := s.make_regains o
  · have submitted : s.submit o = { s with allocator := a }.reply (.done (.error .fault)) := by
      simp [submit, dead, unsupported, refused]
    have quiet : s.submission o = [] := by simp [submission, dead, unsupported, refused]
    refine .inl ⟨.fault, by rw [submitted]; rfl, quiet, ?_⟩
    exact submitted ▸ ⟨s.alike_with a _, regains, rfl⟩
  by_cases barrier : o.kind.isBarrier
  · have submitted : s.submit o =
        ({ s with allocator := a, nextId := s.nextId + 1 } : Storage).admitBarrier r := by
      simp [submit, dead, unsupported, made, barrier]
    have admission : s.submission o =
        ({ s with allocator := a, nextId := s.nextId + 1 } : Storage).admission r := by
      simp [submission, dead, unsupported, made, barrier]
    rw [submitted, admission, admitBarrier, Storage.admission]
    cases queued : ({ s with allocator := a, nextId := s.nextId + 1 } : Storage).enqueue r with
    | ok s' =>
      obtain ⟨-, rfl⟩ := enqueue_eq_ok_iff.mp queued
      exact .inr (.inl (List.suffix_cons _ _))
    | error e =>
      exact .inl ⟨e, rfl, rfl, ⟨s.nextId + 1, _, _, Nat.le_succ _, rfl⟩, regains,
        reason_of_enqueue queued⟩
  · have data : o.kind.isData := by
      cases kind : o.kind <;> simp_all [Kind.isData, Kind.isBarrier]
    have submitted : s.submit o =
        ({ s with allocator := a, nextId := s.nextId + 1 } : Storage).admitData r := by
      simp [submit, dead, unsupported, made, barrier]
    have quiet : s.submission o = [] := by
      simp [submission, dead, unsupported, made, barrier]
    by_cases opens : s.needsOpen ∧ s.ready ≠ .opened
    · refine .inr (.inr (.inl ?_))
      simp_all [opensFirst]
    · rw [admitData, if_neg opens] at submitted
      exact .inr (.inr (.inr ⟨r, a, submitted, quiet, regains⟩))

/-- A data request runs or waits, or there is no room. -/
theorem enter_cases (s : Storage) (r : Request) :
    (∃ e, s.enter r = (s.discard r).reply (.done (.error e)) ∧ s.performance (.enter r) = [] ∧
      e.isRefusal) ∨ .answer (.done (.ok ())) :: s.stack <:+ (s.enter r).stack := by
  by_cases blocked : s.barrier ∨ s.queue ≠ []
  · simp only [enter, performance, if_pos blocked, Storage.admission]
    cases queued : s.enqueue r with
    | ok s' =>
      obtain ⟨-, rfl⟩ := enqueue_eq_ok_iff.mp queued
      exact .inr List.suffix_rfl
    | error e => exact .inl ⟨e, rfl, rfl, reason_of_enqueue queued⟩
  · rw [enter, if_neg blocked]
    exact .inr (List.suffix_cons _ _)

end Storage

section Calls

variable {s s' : Storage} {h : History} {o : Order} {below : List Task} {reply reply' : Reply}
  {e : Error}

/-- The answer that waits is the one that the call returns with. -/
theorem RunWhile.answer_eq {rule : Rule} (run : RunWhile (Storage.Unanswered below) rule s h s')
    (held : .answer reply' :: below <:+ s.stack) (answered : s'.stack = .answer reply :: below) :
    reply = reply' := by
  have waits := run.keeps_answer held
  rw [answered] at waits
  simpa using (waits.eq_of_length rfl).symm

/-- An answer that is there ends the call. -/
theorem RunWhile.answered_at_once (run : RunWhile (Storage.Unanswered below) Rule.free s h s')
    (top : s.stack = .answer reply' :: below) (answered : s'.stack = .answer reply :: below) :
    h = [] ∧ s' = s ∧ reply = reply' := by
  obtain ⟨rfl, rfl⟩ := run.eq_start fun unanswered => unanswered _ top
  exact ⟨rfl, rfl, run.answer_eq (top ▸ List.suffix_rfl) answered⟩

/-- A data request that finds no room gives its blocks back. -/
theorem RunWhile.refused_enter {r : Request}
    (run : RunWhile (Storage.Unanswered s.stack) Rule.free (s.push [.enter r]) h s')
    (answered : s'.stack = .answer reply :: s.stack) (refused : reply.refusal? = some e) :
    h = [] ∧ s' = (s.discard r).reply (.done (.error e)) ∧ e.isRefusal := by
  have next : (s.push [.enter r]).step = some (s.enter r) := rfl
  have quiet : (s.push [.enter r]).incidents = s.performance (.enter r) := rfl
  obtain ⟨-, rfl⟩ | ⟨h', rfl, later⟩ := run.first_step next
  · simp at answered
  obtain ⟨e', turned, nothing, reason⟩ | held := s.enter_cases r
  · rw [turned] at later
    obtain ⟨rfl, rfl, rfl⟩ := later.answered_at_once rfl answered
    obtain rfl : e' = e := Option.some.inj refused
    exact ⟨by rw [quiet, nothing]; rfl, rfl, reason⟩
  · rw [later.answer_eq held answered] at refused
    cases refused

/-- A refused call that makes one request has done nothing on its way. -/
theorem RunWhile.refused_submit
    (run : RunWhile (Storage.Unanswered s.stack) Rule.free (s.push [.submit o]) h s')
    (known : o.kind ≠ .nothing) (alone : s.opensFirst o = false)
    (answered : s'.stack = .answer reply :: s.stack) (refused : reply.refusal? = some e) :
    h = [] ∧ s.LeavesAlone s' o.blocks e := by
  have next : (s.push [.submit o]).step = some (s.submit o) := Storage.step_of_submit rfl
  have quiet : (s.push [.submit o]).incidents = s.submission o := rfl
  obtain ⟨-, rfl⟩ | ⟨h', rfl, later⟩ := run.first_step next
  · simp at answered
  rw [quiet]
  obtain ⟨e', top, none, left⟩ | held | opens | ⟨r, a, entering, none, regains⟩ :=
    s.submit_cases known
  · obtain ⟨rfl, rfl, rfl⟩ := later.answered_at_once top answered
    obtain rfl : e' = e := Option.some.inj refused
    exact ⟨by rw [none]; rfl, left⟩
  · rw [later.answer_eq held answered] at refused
    cases refused
  · simp [alone] at opens
  · rw [entering] at later
    obtain ⟨rfl, rfl, reason⟩ := RunWhile.refused_enter
      (s := { s with allocator := a, nextId := s.nextId + 1 }) later answered refused
    exact ⟨by rw [none]; rfl, ⟨s.nextId + 1, _, _, Nat.le_succ _, rfl⟩, regains, reason⟩

end Calls

section Single

/-- The blocks that a move asks for. -/
def Action.blocks : Action → List Nat
  | .call op receiver observer => (op.order receiver observer).blocks
  | .makeRequest kind offset size =>
    let payload := if kind = .write then some (Bytes.zeros size) else none
    Order.blocks { kind, offset, size, payload }
  | _ => []

namespace Storage

/-- A call that makes one request at most, or pushes one that is not inside the device. -/
def isSingle (s : Storage) : Action → Bool
  | .call .destroying _ _ => false
  | .call op receiver observer => !s.opensFirst (op.order receiver observer)
  | .push id => (s.find? id).all (·.phase ≠ .running)
  | .makeRequest .. | .pushForeign | .listen .. | .register .. => true
  | _ => false

/-- The storage without the request that is pushed, whose blocks are given back. -/
def without (s : Storage) : Action → Storage
  | .push id =>
    match s.find? id with
    | some r => (s.take id).discard r
    | none => s
  | _ => s

end Storage

variable {s s' : Storage} {h : History} {reply : Reply} {e : Error} {op : Operation}
  {receiver : Option Receiver} {observer : Option Observer}

/-- An operation other than a destruction submits its order, or has already succeeded. -/
theorem Storage.call_cases (s : Storage) (receiver : Option Receiver) (observer : Option Observer)
    (single : op ≠ .destroying) :
    (s.act (.call op receiver observer) = s.push [.submit (op.order receiver observer)] ∧
      s.incidentsOf (.call op receiver observer) = [.asked (.call op receiver observer)]) ∨
    .answer (.done (.ok ())) :: s.stack <:+ (s.act (.call op receiver observer)).stack := by
  by_cases atOnce : op = .opening ∧ observer = none ∧ s.isOpenSettled
  · obtain ⟨rfl, rfl, settled⟩ := atOnce
    simp only [act, call, settled, and_self, if_true]
    rcases receiver with _ | _ | _
    · exact .inr List.suffix_rfl
    · exact .inr (List.suffix_cons _ _)
    · exact .inr List.suffix_rfl
  · refine .inl ⟨?_, ?_⟩
    · cases op with
      | destroying => exact absurd rfl single
      | opening => simp_all [act, call]
      | _ => rfl
    · rw [incidentsOf, answeredAtOnce_of_not atOnce]

/-- A refused call that makes a request. -/
theorem RunWhile.refused_single_call (single : s.isSingle (.call op receiver observer))
    (run : RunWhile (Storage.Unanswered s.stack) Rule.free
      (s.act (.call op receiver observer)) h s')
    (answered : s'.stack = .answer reply :: s.stack) (refused : reply.refusal? = some e) :
    h = [] ∧ s.incidentsOf (.call op receiver observer) = [.asked (.call op receiver observer)] ∧
      s.LeavesAlone s' (op.order receiver observer).blocks e := by
  have one : op ≠ .destroying := by
    rintro rfl
    simp [Storage.isSingle] at single
  have alone : s.opensFirst (op.order receiver observer) = false := by
    cases op <;> simp_all [Storage.isSingle]
  have known : (op.order receiver observer).kind ≠ .nothing := by
    cases op <;> simp [Operation.order]
  obtain ⟨submits, asked⟩ | held := s.call_cases receiver observer one
  · rw [submits] at run
    obtain ⟨quiet, left⟩ := run.refused_submit known alone answered refused
    exact ⟨quiet, asked, left⟩
  · rw [run.answer_eq held answered] at refused
    cases refused

/-- Making a request answers at once. -/
theorem Storage.makeRequest_cases (s : Storage) (kind : Kind) (offset size : Nat) :
    (∃ e, (s.makeRequest kind offset size).stack = .answer (.made (.error e)) :: s.stack ∧
      s.LeavesAlone (s.makeRequest kind offset size)
        (Action.makeRequest kind offset size).blocks e) ∨
    ∃ id, (s.makeRequest kind offset size).stack = .answer (.made (.ok id)) :: s.stack := by
  unfold makeRequest
  by_cases dead : s.isDestroyed
  · rw [if_pos dead]
    exact .inl ⟨.fault, rfl, s.alike_push _, .refl _ _, rfl⟩
  · rw [if_neg dead]
    dsimp only
    obtain ⟨a, refused, regains⟩ | ⟨r, a, made, -⟩ := s.make_regains
      { kind, offset, size, payload := if kind = .write then some (Bytes.zeros size) else none }
    · rw [refused]
      exact .inl ⟨.fault, rfl, s.alike_with a _, regains, rfl⟩
    · rw [made]
      exact .inr ⟨_, rfl⟩

/-- So does a registration. -/
theorem Storage.register_refused (s : Storage) (event : Event) (ttl : Ttl) (callback : Callback) :
    (∃ e, s.register event ttl callback = s.reply (.registered (.error e)) ∧ e.isRefusal) ∨
    ∃ id, (s.register event ttl callback).stack = .answer (.registered (.ok id)) :: s.stack := by
  unfold register Emitter.register
  split
  case h_1 => exact .inr ⟨_, rfl⟩
  case h_2 refused =>
    split at refused
    · obtain rfl := Except.error.inj refused
      exact .inl ⟨_, rfl, rfl⟩
    · split at refused
      · obtain rfl := Except.error.inj refused
        exact .inl ⟨_, rfl, rfl⟩
      · simp at refused

theorem Storage.without_of_some (s : Storage) {id : RequestId} {r : Request}
    (found : s.find? id = some r) : s.without (.push id) = (s.take id).discard r := by
  simp only [without, found]

theorem Storage.without_of_none (s : Storage) {id : RequestId} (found : s.find? id = none) :
    s.without (.push id) = s := by
  simp only [without, found]

@[simp] theorem Storage.stack_without (s : Storage) (a : Action) :
    (s.without a).stack = s.stack := by
  unfold without
  split
  · split <;> rfl
  · rfl

@[simp] theorem Storage.nextId_without (s : Storage) (a : Action) :
    (s.without a).nextId = s.nextId := by
  unfold without
  split
  · split <;> rfl
  · rfl

/-- What is inside the device stays there when another request is pushed. -/
theorem Storage.mem_outside_without {a : Action} {r : Request} (custody : s.Custody)
    (single : s.isSingle a) (member : r ∈ s.outside) (running : r.phase = .running) :
    r ∈ (s.without a).outside := by
  cases a with
  | push id =>
    cases found : s.find? id with
    | none => rwa [s.without_of_none found]
    | some pushed =>
      have idle : pushed.phase ≠ .running := by simpa [isSingle, found] using single
      obtain ⟨before, after, split, taken, -⟩ :=
        outside_eq_of_find? (countP_outside_le custody.unique id) found
      have other : r ≠ pushed := by
        rintro rfl
        exact idle running
      have stays : r ∈ (s.take id).outside := by
        rw [split, List.mem_append, List.mem_cons] at member
        rw [taken, List.mem_append]
        exact member.imp_right (·.resolve_left other)
      rwa [s.without_of_some found]
  | _ => exact member

/-- Pushing a request that is not inside the device: it is refused and is no more, or it waits. -/
theorem Storage.pushRequest_cases (s : Storage) {id : RequestId} (single : s.isSingle (.push id)) :
    (∃ e, s.pushRequest id = (s.without (.push id)).reply (.length (.error e)) ∧
      s.pushing id = [] ∧ e.isRefusal) ∨
    ∃ n, .answer (.length (.ok n)) :: s.stack <:+ (s.pushRequest id).stack := by
  unfold pushRequest pushing
  cases found : s.find? id with
  | none => exact .inl ⟨.invalidArgument, by rw [s.without_of_none found], rfl, rfl⟩
  | some r =>
    have idle : r.phase ≠ .running := by simpa [isSingle, found] using single
    rw [s.without_of_some found]
    dsimp only
    cases queued : (s.take id).enqueue r with
    | ok s' =>
      obtain ⟨-, rfl⟩ := enqueue_eq_ok_iff.mp queued
      exact .inr ⟨_, List.suffix_cons _ _⟩
    | error e =>
      exact .inl ⟨e, if_neg idle, if_neg idle, reason_of_enqueue queued⟩

/-- Every call that makes at most one request. -/
theorem RunWhile.refused_single {a : Action} (single : s.isSingle a)
    (run : RunWhile (Storage.Unanswered s.stack) Rule.free (s.act a) h s')
    (answered : s'.stack = .answer reply :: s.stack) (refused : reply.refusal? = some e) :
    h = [] ∧ s.incidentsOf a = [.asked a] ∧ (s.without a).LeavesAlone s' a.blocks e := by
  have refusal {reply' : Reply} {e' : Error} (turned : s.act a = s.reply reply')
      (reason : reply'.refusal? = some e') (known : e'.isRefusal) :
      h = [] ∧ s.LeavesAlone s' a.blocks e := by
    rw [turned] at run
    obtain ⟨rfl, rfl, rfl⟩ := run.answered_at_once rfl answered
    obtain rfl : e' = e := Option.some.inj (reason.symm.trans refused)
    exact ⟨rfl, s.alike_push _, .refl _ _, known⟩
  have registration {event : Event} {ttl : Ttl} {callback : Callback}
      (registers : s.act a = s.register event ttl callback) :
      h = [] ∧ s.LeavesAlone s' a.blocks e := by
    obtain ⟨e', turned, known⟩ | ⟨id, top⟩ := s.register_refused event ttl callback
    · exact refusal (registers.trans turned) rfl known
    · obtain ⟨-, -, rfl⟩ := run.answered_at_once (registers ▸ top) answered
      cases refused
  cases a with
  | call op receiver observer => exact run.refused_single_call single answered refused
  | makeRequest kind offset size =>
    obtain ⟨e', top, left⟩ | ⟨id, top⟩ := s.makeRequest_cases kind offset size
    · obtain ⟨rfl, rfl, rfl⟩ := run.answered_at_once top answered
      obtain rfl : e' = e := Option.some.inj refused
      exact ⟨rfl, rfl, left⟩
    · obtain ⟨-, -, rfl⟩ := run.answered_at_once top answered
      cases refused
  | push id =>
    obtain ⟨e', turned, quiet, reason⟩ | ⟨n, held⟩ := s.pushRequest_cases single
    · have turned : s.act (.push id) = (s.without (.push id)).reply (.length (.error e')) := turned
      have top : (s.act (.push id)).stack = .answer (.length (.error e')) :: s.stack := by
        rw [turned, Storage.stack_reply, Storage.stack_without]
      rw [turned] at run top
      obtain ⟨rfl, rfl, rfl⟩ := run.answered_at_once top answered
      obtain rfl : e' = e := Option.some.inj refused
      exact ⟨rfl, congrArg _ quiet, (s.without _).alike_push _, .refl _ _, reason⟩
    · rw [run.answer_eq held answered] at refused
      cases refused
  | pushForeign =>
    obtain ⟨quiet, left⟩ := refusal rfl rfl rfl
    exact ⟨quiet, rfl, left⟩
  | listen event ttl callback =>
    by_cases dead : s.isDestroyed
    · obtain ⟨quiet, left⟩ := refusal (if_pos dead) rfl rfl
      exact ⟨quiet, rfl, left⟩
    · obtain ⟨quiet, left⟩ := registration (if_neg dead)
      exact ⟨quiet, rfl, left⟩
  | register event ttl callback =>
    obtain ⟨quiet, left⟩ := registration rfl
    exact ⟨quiet, rfl, left⟩
  | _ => simp [Storage.isSingle] at single

/-- **A refused call leaves the storage alone.**  In every state that can be reached, whatever
clients do: when an opening, a closing, a data operation that sends no opening ahead, the making of
a request, a registration, or the pushing of a request that is not inside the device is answered
with an error, then nothing has happened meanwhile, and no client code has run.  The error is one of
the four reasons for which calls are refused.  The storage is as it was, apart from the numbers that
were given out: its point of life, its counts, its queue, its listeners and what is inside the
device are the same, as many blocks are handed out as before, and as many bytes are in use if the
counter of bytes does not overflow.  Only a request that was pushed is no more, and its blocks have
been given back; a storage lets go in the same way of a request of its own that was pushed
elsewhere. -/
theorem Storage.refused_leaves_alone {capabilities : Capabilities} {limits : Limits}
    {allocator : Allocator} {past : History} {a : Action}
    (history : Run Rule.free (Storage.create capabilities limits allocator) past s)
    (single : s.isSingle a)
    (run : RunWhile (Storage.Unanswered s.stack) Rule.free (s.act a) h s')
    (answered : s'.stack = .answer reply :: s.stack) (refused : reply.refusal? = some e) :
    h = [] ∧ s.incidentsOf a = [.asked a] ∧ e.isRefusal ∧
      (∃ n al, s.nextId ≤ n ∧ (s.without a).allocator.Regains al a.blocks ∧
        s' = { s.without a with nextId := n, allocator := al, stack := .answer reply :: s.stack }) ∧
      (∀ r ∈ s.outside, r.phase = .running → r ∈ s'.outside) ∧
      ∀ (t : Storage) id r, t.find? id = some r → r.phase ≠ .running →
        t.incidentsOf (.abandon id) = [.asked (.abandon id)] ∧
        t.act (.abandon id) = (t.without (.push id)).reply .unit := by
  obtain ⟨quiet, asked, alike, regains, reason⟩ := run.refused_single single answered refused
  obtain ⟨n, al, stack, later, rfl⟩ := alike
  refine ⟨quiet, asked, reason, ⟨n, al, ?_, regains, ?_⟩, fun r member running => ?_,
    fun t id r found idle => ⟨?_, ?_⟩⟩
  · rwa [nextId_without] at later
  · rw [← answered]
  · exact mem_outside_without (history.custody (custody_create ..)) single member running
  · simp [incidentsOf, dropping, found, idle]
  · rw [t.without_of_some found, act, abandon, found]
    dsimp only
    split
    · exact if_neg idle
    · rfl

/-- While an opening is inside the device, a write is refused its buffer after its record has been
leased: the record is given back. -/
theorem Storage.refused_leaves_alone_write :
    ∃ past s h s', Run Rule.free (Storage.create .readWrite {} { policy := .budget 515 }) past s ∧
      RunWhile (Storage.Unanswered s.stack) Rule.free
        (s.act (.call (.write 0 [1, 2, 3, 4]) none none)) h s' ∧
      s'.stack = .answer (.done (.error .fault)) :: s.stack ∧ h = [] ∧ s'.pending = s.pending ∧
      s'.outside = s.outside ∧ s'.allocator.bytesInUse = s.allocator.bytesInUse ∧
      s.outside.map Request.tag = [⟨1, .opening⟩] ∧ s'.allocator.calls = s.allocator.calls + 2 := by
  have fresh : Run Rule.free (Storage.create .readWrite {} { policy := .budget 515 }) [] _ := .start
  have run := fresh.play [(.call .opening none none, 9), (.leave, 9), (.collect, 9)]
    ⟨⟨by decide +kernel, trivial⟩, ⟨by decide +kernel, trivial⟩, ⟨by decide +kernel, trivial⟩,
      trivial⟩
  have begun {h : History} {s : Storage} (_ : Run Rule.free
      (Storage.create .readWrite {} { policy := .budget 515 }) h s) :
    RunWhile (Storage.Unanswered s.stack) Rule.free _ []
      (s.act (.call (.write 0 [1, 2, 3, 4]) none none)) := .start
  have call := (begun run).goOn 1 (by decide +kernel)
  obtain ⟨quiet, -, -, ⟨n, al, -, regains, same⟩, -⟩ :=
    Storage.refused_leaves_alone run (by decide +kernel) call rfl rfl
  refine ⟨_, _, _, _, run, call, rfl, quiet, ?_, ?_, ?_, by decide +kernel, by decide +kernel⟩
  · rw [same]
    rfl
  · rw [same]
    rfl
  · rw [same]
    exact (regains.bytes fun _ =>
      ⟨by decide +kernel, fun granted => absurd granted (by decide +kernel)⟩).1

end Single

end StorageEngine
