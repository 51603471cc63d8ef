import StorageEngine.Proofs.Awaiting

/-!
# Promises

An operation can be asked for with a callback, or so that its result is kept for a promise.  The
second way is the first one with a callback of its own that only takes note of what it hears
(`Run.promise_agrees`).  Whoever makes a call that is refused hears nothing, so that the error that
the promise keeps for it comes first (`RunWhile.untold_of_refused`).

* `Storage.start_cases` — both calls begin alike;
* `Welcomes.forth`, `Welcomes.back` — and go on alike until they return;
* `Hosts.promised_eq_future` — what the promise answers then is what the callback says;
* `Welcomes.call_of_promise`, `Welcomes.promise_of_call` — the two ways, all in all.
-/

namespace StorageEngine

section Start

variable {s s' : Storage} {code : Callback} {op : Operation} {result : Except Error Unit}
  {h k : History}

/-- A call goes on top of the stack. -/
theorem Storage.stack_call (s : Storage) (op : Operation) (receiver : Option Receiver)
    (observer : Option Observer) : ∃ above, (s.call op receiver observer).stack =
      above ++ s.stack ∧ ∀ m, .awaitCall m ∉ above := by
  cases op with
  | destroying => exact ⟨[_, _], rfl, by simp⟩
  | opening =>
    simp only [call]
    split
    · rcases receiver with _ | _ | _
      · exact ⟨[_], rfl, by simp⟩
      · exact ⟨[_, _], rfl, by simp⟩
      · exact ⟨[_], rfl, by simp⟩
    · exact ⟨[_], rfl, by simp⟩
  | _ => exact ⟨[_], rfl, by simp⟩

/-- An opening of a storage that is settled open is answered at once. -/
theorem Storage.call_of_isOpenSettled (settled : s.isOpenSettled) (receiver : Receiver) :
    s.call .opening (some receiver) none =
      (s.reply (.done (.ok ()))).tell receiver (.ok .unit) :=
  if_pos ⟨rfl, settled⟩

/-- Any other call tells nobody anything yet. -/
theorem Storage.kept_call (waits : ¬ (op = .opening ∧ s.isOpenSettled)) (receiver : Receiver) :
    (s.call op (some receiver) none).kept = s.kept := by
  cases op with
  | opening =>
    have submits : s.call .opening (some receiver) none =
        s.push [.submit (Operation.opening.order (some receiver) none)] :=
      if_neg fun now => waits ⟨rfl, now.2⟩
    rw [submits]
    rfl
  | _ => rfl

/-- Nobody waits for the call behind the promise with the callback in its place. -/
theorem Storage.recast_awaitCall (s : Storage) (number : Nat) (code : Callback)
    (result : Except Error Unit) :
    (s.push [.awaitCall number]).recast (.stead number code result) =
      s.recast (.stead number code result) := by
  have hidden : (Task.awaitCall number).recast (.stead number code result) = none := by
    simp [Task.recast, Recast.stead]
  have stack : (s.push [.awaitCall number]).stack.filterMap
        (·.recast (.stead number code result)) =
      s.stack.filterMap (·.recast (.stead number code result)) := List.filterMap_cons_none hidden
  rw [recast, stack]
  rfl

/-- A call with a callback begins as the one behind a promise does, with the callback in the place
of the promise; if it is answered at once, the callback has just been called. -/
theorem Storage.start_cases (unused : s.Unused s.nextPromise) (code : Callback)
    (result : Except Error Unit) (op : Operation) :
    (s.numbered.act (.call op (some (.call code)) none) =
        (s.act (.promise op)).recast (.stead s.nextPromise code result) ∧
      s.numbered.answeredAtOnce op (some (.call code)) none = [] ∧
      (s.act (.promise op)).kept = s.kept) ∨
    (s.numbered.act (.call op (some (.call code)) none) =
        ((s.act (.promise op)).recast (.stead s.nextPromise code result)).push
          [.client (.done code (.ok .unit))] ∧
      s.numbered.answeredAtOnce op (some (.call code)) none = [.invoked (.done code (.ok .unit))] ∧
      (s.act (.promise op)).kept = s.kept ++ [(s.nextPromise, .ok .unit)] ∧
      (s.act (.promise op)).Returning s.nextPromise) := by
  let base : Storage := s.numbered.push [.awaitCall s.nextPromise]
  have plain : base.recast (.stead s.nextPromise code result) = s.numbered := by
    rw [recast_awaitCall]
    exact recast_of_unused ⟨unused.receivers, unused.awaits, unused.answers, unused.kept⟩
  have receiver : (some (.promise s.nextPromise) : Option Receiver).map
      (·.recast (.stead s.nextPromise code result)) = some (.call code) := by
    simp [Receiver.recast, Recast.stead]
  by_cases atOnce : op = .opening ∧ s.isOpenSettled
  · obtain ⟨rfl, settled⟩ := atOnce
    have settled' : base.isOpenSettled := settled
    have asked : s.act (.promise .opening) =
        (base.reply (.done (.ok ()))).keep s.nextPromise (.ok .unit) :=
      call_of_isOpenSettled settled' _
    have called : s.numbered.act (.call .opening (some (.call code)) none) =
        (s.numbered.reply (.done (.ok ()))).push [.client (.done code (.ok .unit))] :=
      call_of_isOpenSettled (s := s.numbered) settled _
    refine .inr ⟨?_, answeredAtOnce_of_settled (s := s.numbered) settled _, ?_, ?_⟩
    · have dropped : (Recast.stead s.nextPromise code result).kept
            (s.kept ++ [(s.nextPromise, .ok .unit)]) =
          (Recast.stead s.nextPromise code result).kept s.kept := by
        simp [Recast.stead]
      rw [called, asked, ← plain]
      simp only [keep, reply, recast, base, numbered, push, dropped]
      rfl
    · rw [asked]
      rfl
    · rw [asked]
      exact ⟨_, _, rfl⟩
  · have called : (base.recast (.stead s.nextPromise code result)).call op
        ((some (.promise s.nextPromise) : Option Receiver).map
          (·.recast (.stead s.nextPromise code result))) none =
        (s.act (.promise op)).recast (.stead s.nextPromise code result) :=
      call_recast fun opening _ settled => absurd ⟨opening, settled⟩ atOnce
    rw [plain, receiver] at called
    exact .inl ⟨called, answeredAtOnce_of_not fun now => atOnce ⟨now.1, now.2.2⟩,
      kept_call (s := base) atOnce _⟩

/-- Nobody has to do with the callback, or with the promise that will be given out next. -/
structure Storage.Welcomes (s : Storage) (code : Callback) : Prop where
  nested : s.Nested
  turn : s.isAtRest
  absent : .call code ∉ s.receivers
  silent : ∀ v, .done code v ∉ s.codes
  unused : s.Unused s.nextPromise

namespace Storage.Welcomes

variable {a b : Storage}

theorem hosts (welcomes : s.Welcomes code) (op : Operation) :
    (s.act (.promise op)).Hosts s.nextPromise code := by
  have move := move_of_act s (.promise op)
  have waits := move.receivers (.call code)
  have other : .call code ∉ s.joins (.promise op) := by simp [joins]
  rw [List.count_eq_zero_of_not_mem welcomes.absent,
    List.count_eq_zero_of_not_mem other] at waits
  refine ⟨move.nested welcomes.nested welcomes.turn, ?_, List.count_eq_zero.mp (by omega),
    fun v => ?_⟩
  · have given : (s.act (.promise op)).nextPromise = s.nextPromise + 1 := nextPromise_call ..
    omega
  · rw [move.codes (by simp)]
    simpa [incidentsOf, History.invoked, Incident.invoked?] using welcomes.silent v

theorem awaits (welcomes : s.Welcomes code) (op : Operation) :
    (s.act (.promise op)).Awaits s.nextPromise s.stack := by
  obtain ⟨above, stack, plain⟩ := (s.numbered.push [.awaitCall s.nextPromise]).stack_call op
    (some (.promise s.nextPromise)) none
  have stack : (s.act (.promise op)).stack =
    above ++ .awaitCall s.nextPromise :: s.stack := stack
  constructor
  · exact ⟨above, stack.symm⟩
  · have one : (s.act (.promise op)).stack.count (.awaitCall s.nextPromise) = 0 + (0 + 1) := by
      rw [stack, List.count_append, List.count_cons_self,
        List.count_eq_zero_of_not_mem (plain _),
        List.count_eq_zero_of_not_mem welcomes.unused.awaits]
    exact Nat.le_of_eq one

/-- The tasks that were there before are there with the callback too. -/
theorem shown (welcomes : s.Welcomes code) (result : Except Error Unit) :
    s.stack.filterMap (·.recast (.stead s.nextPromise code result)) = s.stack :=
  congrArg Storage.stack (recast_of_unused welcomes.unused)

/-- What can happen while the call behind the promise is under way can happen to the call with the
callback. -/
theorem forth (welcomes : s.Welcomes code) (result : Except Error Unit)
    (run : RunWhile (¬ ·.Returning s.nextPromise) (Rule.recording s.nextPromise code)
      (s.act (.promise op)) h a) :
    ∃ k, RunWhile (Unanswered s.stack) (Rule.recording s.nextPromise code)
        (s.numbered.act (.call op (some (.call code)) none)) k
        (a.recast (.stead s.nextPromise code result)) ∧
      Alongside s.nextPromise code (.stead s.nextPromise code result) s a h
        (s.numbered.answeredAtOnce op (some (.call code)) none ++ k) := by
  have hosts := welcomes.hosts op
  obtain ⟨started, quiet, kept⟩ | ⟨started, called, kept, returning⟩ :=
    start_cases welcomes.unused code result op
  · have goesOn (h : History) (a : Storage) (run : RunWhile (¬ ·.Returning s.nextPromise)
        (Rule.recording s.nextPromise code) (s.act (.promise op)) h a)
        (stays : ¬ a.Returning s.nextPromise) :
        (a.recast (.stead s.nextPromise code result)).Unanswered s.stack :=
      ((run.awaits hosts (welcomes.awaits op)).2.unanswered_iff (welcomes.shown result)).mpr stays
    obtain ⟨-, k, run, along⟩ := RunWhile.forth (by simp [Unanswered]) hosts goesOn run
    rw [started, quiet]
    refine ⟨k, run, ?_⟩
    exact ((Alongside.refl s).alike (i := []) rfl (by rw [kept])).trans along
  · obtain ⟨rfl, rfl⟩ := run.eq_start (not_not.mpr returning)
    rw [started, called]
    refine ⟨[], ?_, (Alongside.refl s).told kept⟩
    exact RunWhile.start.move .leave (by simp [Unanswered]) rfl
      ⟨by simp [Rule.genuine], by simp⟩

/-- And the other way round. -/
theorem back (welcomes : s.Welcomes code) (result : Except Error Unit)
    (run : RunWhile (Unanswered s.stack) (Rule.recording s.nextPromise code)
      (s.numbered.act (.call op (some (.call code)) none)) k b) :
    ∃ h a, RunWhile (¬ ·.Returning s.nextPromise) (Rule.recording s.nextPromise code)
        (s.act (.promise op)) h a ∧
      b.yield code = a.recast (.stead s.nextPromise code result) ∧
      Alongside s.nextPromise code (.stead s.nextPromise code result) s a h
        (s.numbered.answeredAtOnce op (some (.call code)) none ++ k) := by
  have hosts := welcomes.hosts op
  obtain ⟨started, quiet, kept⟩ | ⟨started, called, kept, returning⟩ :=
    start_cases welcomes.unused code result op
  · have stays (h : History) (a : Storage) (run : RunWhile (¬ ·.Returning s.nextPromise)
        (Rule.recording s.nextPromise code) (s.act (.promise op)) h a)
        (still : (a.recast (.stead s.nextPromise code result)).Unanswered s.stack) :
        ¬ a.Returning s.nextPromise :=
      ((run.awaits hosts (welcomes.awaits op)).2.unanswered_iff (welcomes.shown result)).mp still
    rw [started] at run
    obtain ⟨h, a, run, -, same, along⟩ := RunWhile.back hosts stays run
    rw [quiet]
    refine ⟨h, a, run, same, ?_⟩
    exact ((Alongside.refl s).alike (i := []) rfl (by rw [kept])).trans along
  · have ended : ¬ ((s.act (.promise op)).recast
        (.stead s.nextPromise code result)).Unanswered s.stack := by
      rw [(welcomes.awaits op).unanswered_iff (welcomes.shown result)]
      exact not_not.mpr returning
    rw [started] at run
    obtain ⟨rfl, same⟩ := run.of_calling hosts.not_calling ended
    rw [called]
    exact ⟨[], _, .start, same, (Alongside.refl s).told kept⟩

end Storage.Welcomes

theorem Run.welcomes {capabilities : Capabilities} {limits : Limits} {allocator : Allocator}
    (run : Run Rule.genuine (Storage.create capabilities limits allocator) h s)
    (turn : s.isAtRest) (new : ∀ client ∈ h.clients, client.code ≠ code) : s.Welcomes code := by
  have waits := run.receivers new
  have nobody : (Storage.create capabilities limits allocator).receivers = [] := rfl
  rw [nobody, List.count_nil] at waits
  have untold : h.countP (·.tells (.call code)) = 0 := by omega
  refine ⟨run.nested (Storage.nested_create ..), turn, List.count_eq_zero.mp (by omega), ?_, ?_⟩
  · intro v called
    obtain before | called := run.mem_codes called
    · exact absurd before (by simp [Storage.create, Storage.codes])
    · exact History.not_invoked untold v called
  · exact run.unused (fun _ _ => Storage.unused_create ..) (Nat.le_refl _)

end Start

section Refused

variable {s s' u : Storage} {code : Callback} {number : Nat} {op : Operation} {h : History}
  {rule : Rule} {e : Error}

/-- Nobody else brings the callback. -/
theorem Run.clients_ne (run : Run (Rule.recording number code) u h s) :
    ∀ client ∈ h.clients, client.code ≠ code := by
  refine run.invariant (motive := fun h _ => ∀ client ∈ h.clients, client.code ≠ code)
    (by simp [History.clients]) ?_ ?_
  · intro h s i s' _ inv t
    rwa [History.clients_append, t.clients_eq_nil, List.append_nil]
  · intro h s a i s' _ inv _ allowed m
    rw [History.clients_append]
    refine List.forall_mem_append.mpr ⟨inv, ?_⟩
    obtain none | ⟨c, client, one⟩ := m.clients
    · simp [none]
    · obtain ⟨op, rfl⟩ := Action.eq_of_client? client
      rw [one, List.forall_mem_singleton]
      exact fun same => allowed.2.1 op c.observer (by rw [same])

/-- What is left of a call that was refused tells nobody what only the refused request waits for. -/
theorem Storage.LeavesOnly.untold {first : Operation} (only : s.LeavesOnly first h s')
    (absent : .call code ∉ s.receivers) (new : ∀ client ∈ h.clients, client.code ≠ code) :
    h.countP (·.tells (.call code)) = 0 := by
  obtain ⟨base, frame, mid, ⟨n, a, stack, -, rfl⟩, framed, inner, top, -⟩ := only
  obtain rfl : stack = frame :: s.stack := framed
  have later := inner.run.receivers new
  have asked := (move_of_act { s with
    nextId := n, allocator := a, stack := frame :: s.stack } (.call first none none)).receivers
      (.call code)
  have absent := List.count_eq_zero_of_not_mem absent
  simp only [receivers, joins, top, List.flatMap_cons, List.count_append, Option.toList_none,
    List.count_nil] at later asked absent
  omega

/-- Whoever makes a call that is refused is told nothing. -/
theorem RunWhile.untold_of_refused
    (run : RunWhile (Storage.Unanswered s.stack) rule
      (s.act (.call op (some (.call code)) none)) h s')
    (absent : .call code ∉ s.receivers) (new : ∀ client ∈ h.clients, client.code ≠ code)
    (answered : s'.stack = .answer (.done (.error e)) :: s.stack) :
    (s.answeredAtOnce op (some (.call code)) none ++ h).countP (·.tells (.call code)) = 0 := by
  have quiet : s.answeredAtOnce op (some (.call code)) none = [] := by
    refine answeredAtOnce_of_not fun ⟨opening, _, settled⟩ => ?_
    subst opening
    have called : s.act (.call .opening (some (.call code)) none) =
        (s.reply (.done (.ok ()))).push [.client (.done code (.ok .unit))] :=
      Storage.call_of_isOpenSettled settled _
    rw [called] at run
    have held := run.keeps_answer (List.suffix_cons _ _)
    rw [answered] at held
    simpa using held.eq_of_length rfl
  have free : RunWhile (Storage.Unanswered s.stack) Rule.free _ h s' :=
    run.mono fun _ _ _ _ => trivial
  rw [quiet, List.nil_append]
  cases op with
  | opening => simp [free.refused_opening answered]
  | closing => simp [RunWhile.refused free (decides_submit rfl rfl) answered]
  | destroying =>
    obtain ⟨rfl, -⟩ | only := free.refused_destroying answered
    · rfl
    · exact only.untold absent new
  | read | write | delete | stat =>
    obtain ⟨rfl, -⟩ | ⟨-, only⟩ := RunWhile.refused_data free rfl answered
    · rfl
    · exact only.untold absent new

end Refused

/-- A call and all that happens from then on, with its answer if that has been taken. -/
inductive Storage.CallRun (rule : Rule) (s : Storage) (a : Action) :
    History → Option Reply → Storage → Prop
  /-- The call is under way. -/
  | underWay {h : History} {s' : Storage}
      (run : RunWhile (Unanswered s.stack) rule (s.act a) h s') :
      CallRun rule s a (s.incidentsOf a ++ h) none s'
  /-- The call has returned, and more has happened since. -/
  | returned {h h' : History} {mid s' : Storage} {reply : Reply}
      (run : RunWhile (Unanswered s.stack) rule (s.act a) h mid)
      (answered : mid.stack = .answer reply :: s.stack) (later : Run rule mid.collect h' s') :
      CallRun rule s a (s.incidentsOf a ++ h ++ .answered reply :: h') (some reply) s'

/-- What a promise has to answer in the place of a callback: the error of the call if it was
refused; what the callback has heard; nothing yet as long as somebody still holds the callback, and
that it has been abandoned otherwise. -/
def Storage.future (s : Storage) (code : Callback) (result : Except Error Unit) (h : History) :
    Promised :=
  match result, h.heard ⟨code, none⟩ with
  | .error e, _ => .settled (.error e)
  | .ok (), .done _ v :: _ => .settled v
  | .ok (), _ => if .call code ∈ s.receivers then .pending else .settled (.error .abandoned)

/-- The storage with the promise and the one with the callback are the same but for who waits, and
what has happened since the call is the same but for the call of the callback, which is called once
at most. -/
structure Resembles (number : Nat) (code : Callback) (result : Except Error Unit) (h : History)
    (s : Storage) (k : History) (s' : Storage) : Prop where
  state : s'.yield code = s.recast (.stead number code result)
  happens : k.tail.filter (!·.tells (.call code)) =
    h.tail.map (·.recast (.stead number code result))
  once : (k.heard ⟨code, none⟩).length ≤ 1

/-- A call behind a promise and a call with a callback have come equally far.  Once they have
returned, a poll answers what the callback says, and changes nothing as long as that is nothing. -/
inductive Parallel (number : Nat) (code : Callback) :
    History → Option Reply → Storage → History → Option Reply → Storage → Prop
  | underWay {h k : History} {s s' : Storage} (result : Except Error Unit)
      (same : Resembles number code result h s k s') : Parallel number code h none s k none s'
  | returned {h k : History} {s s' : Storage} (result : Except Error Unit)
      (same : Resembles number code result h s k s')
      (poll : (s.act (.poll number)).answer? = some (.promised (s'.future code result k)))
      (pending : s'.future code result k = .pending → (s.act (.poll number)).collect = s) :
      Parallel number code h (some (.promise number)) s k (some (.done result)) s'

section Agreement

variable {s s' t : Storage} {code : Callback} {number : Nat} {op : Operation}
  {result : Except Error Unit} {h h' k k' : History}

/-- What a promise answers is the first result that it keeps. -/
theorem Storage.promised_eq (s : Storage) (number : Nat) : s.promised number =
    match s.told number with
    | v :: _ => .settled v
    | [] => if .promise number ∈ s.receivers then .pending else .settled (.error .abandoned) := by
  have first : (s.kept.filter (·.1 = number)).head? = s.kept.find? (·.1 = number) :=
    List.head?_filter
  unfold told
  cases kept : s.kept.filter (·.1 = number) with
  | nil =>
    rw [kept] at first
    rw [promised_of_unkept _ _ first.symm]
    rfl
  | cons e others =>
    rw [kept] at first
    rw [promised_of_kept first.symm]
    rfl

theorem Storage.receivers_yield (s : Storage) (code : Callback) :
    (s.yield code).receivers = s.receivers := by
  unfold yield
  split
  · unfold leave
    split
    case h_1 top => simp [receivers, top, Task.receivers]
    case h_2 => rfl
  · rfl

/-- Somebody holds the callback as long as somebody holds the promise. -/
theorem Storage.Hosts.mem_receivers_iff (hosts : s.Hosts number code)
    (same : s'.yield code = s.recast (.stead number code result)) :
    .call code ∈ s'.receivers ↔ .promise number ∈ s.receivers := by
  rw [← receivers_yield s' code, same, receivers_recast, List.mem_map]
  constructor
  · rintro ⟨x, waits, called⟩
    by_cases other : x = .promise number
    · exact other ▸ waits
    · rw [Receiver.recast_stead other] at called
      exact absurd (called ▸ waits) hosts.apart
  · exact fun waits => ⟨_, waits, if_pos rfl⟩

/-- What the promise answers is what the callback says. -/
theorem Storage.Hosts.promised_eq_future (hosts : s.Hosts number code)
    (same : s'.yield code = s.recast (.stead number code result))
    (early : ∀ e, result = .error e → k.heard ⟨code, none⟩ = [])
    (told : (s.told number).map (.done code) = k.heard ⟨code, none⟩ ++
      (refusal result).map (.done code) ++ k'.heard ⟨code, none⟩) :
    s.promised number = s'.future code result (k ++ k') := by
  have waits := hosts.mem_receivers_iff same
  rw [promised_eq]
  unfold future
  cases result with
  | error e =>
    rw [early e rfl] at told
    cases kept : s.told number with
    | nil => simp [kept, refusal] at told
    | cons v others =>
      obtain ⟨rfl, -⟩ : v = .error e ∧ _ := by simpa [kept, refusal] using told
      rfl
  | ok =>
    rw [History.heard_append]
    simp only [refusal, List.map_nil, List.append_nil] at told
    rw [← told]
    cases s.told number with
    | nil => simp only [List.map_nil, waits]
    | cons v others => rfl

/-- A poll that is pending changes nothing. -/
theorem Storage.poll_pending (pending : s.promised number = .pending) :
    (s.act (.poll number)).collect = s := by
  have unkept : ∀ e ∈ s.kept, e.1 ≠ number := by
    rw [promised] at pending
    cases found : s.kept.find? (·.1 = number) with
    | none => simpa using found
    | some e => simp [found] at pending
  have kept : s.kept.filter (·.1 ≠ number) = s.kept :=
    List.filter_eq_self.mpr fun e held => by simpa using unkept e held
  change { s with kept := s.kept.filter (·.1 ≠ number) } = s
  rw [kept]

/-- A callback that nobody else brings is called once at most. -/
theorem Storage.CallRun.once {reply : Option Reply}
    (call : CallRun (Rule.recording number code) s (.call op (some (.call code)) none) h reply s')
    (absent : .call code ∉ s.receivers) : (h.heard ⟨code, none⟩).length ≤ 1 := by
  have asked := (move_of_act s (.call op (some (.call code)) none)).receivers (.call code)
  have joins : (s.joins (.call op (some (.call code)) none)).count (.call code) = 1 := by
    simp [Storage.joins]
  rw [List.count_eq_zero_of_not_mem absent, joins] at asked
  rw [History.length_heard]
  cases call with
  | underWay run =>
    have during := run.run.receivers run.run.clients_ne
    rw [List.countP_append]
    omega
  | @returned h h' mid _ reply run answered later =>
    have during := run.run.receivers run.run.clients_ne
    have collected : mid.collect.receivers.count (.call code) + _ ≤ mid.receivers.count _ + 0 :=
      (move_of_act mid .collect).receivers (.call code)
    have after := later.receivers later.clients_ne
    have untold : Incident.tells (.call code) (.answered reply) = false := rfl
    rw [List.countP_append, List.countP_append, List.countP_cons_of_neg (by simp [untold])]
    omega

end Agreement

section Directions

variable {s s' t : Storage} {code : Callback} {op : Operation} {result : Except Error Unit}
  {h h' k k' : History} {reply : Option Reply}

/-- As long as the call behind the promise has not returned, the call has no answer. -/
theorem RunWhile.unanswered {number : Nat} {below : List Task} {u : Storage}
    (run : RunWhile (¬ ·.Returning number) (Rule.recording number code) u h s)
    (hosts : u.Hosts number code) (awaits : u.Awaits number below) :
    RunWhile (Storage.Unanswered below) (Rule.recording number code) u h s := by
  induction run with
  | start => exact .start
  | step before _ next ih => exact ih.step (before.awaits hosts awaits).2.unanswered next
  | move a before _ turn allowed ih =>
    exact ih.move a (before.awaits hosts awaits).2.unanswered turn allowed

/-- The storage when the client has taken the promise. -/
theorem Storage.Hosts.handed {number : Nat} {below : List Task} (hosts : t.Hosts number code)
    (top : t.stack = .answer (.done result) :: .awaitCall number :: below) :
    (t.returned number result below).collect.Hosts number code ∧
      (t.recast (.stead number code result)).collect =
        (t.returned number result below).collect.recast (.stead number code result) := by
  have hosts := (turn_of_step (step_of_returning top).2).hosts hosts
  have turn : (t.returned number result below).isAtRest := by
    cases below with
    | nil => rfl
    | cons task rest => cases task <;> rfl
  have allowed : Rule.recording number code [] (t.returned number result below) .collect :=
    ⟨by simp [Rule.genuine], by simp, by simp, by simp, by simp [isCalling, returned]⟩
  refine ⟨(move_of_act _ .collect).hosts hosts turn allowed, ?_⟩
  rw [← recast_returned top]
  exact collect_recast rfl

/-- What is the same while the call is under way. -/
theorem Storage.Welcomes.underWay (welcomes : s.Welcomes code) {b : Storage}
    (along : Alongside s.nextPromise code (.stead s.nextPromise code result) s t h
      (s.numbered.answeredAtOnce op (some (.call code)) none ++ k))
    (same : b.yield code = t.recast (.stead s.nextPromise code result))
    (call : s.numbered.CallRun (Rule.recording s.nextPromise code)
      (.call op (some (.call code)) none)
      (s.numbered.incidentsOf (.call op (some (.call code)) none) ++ k) none b) :
    Resembles s.nextPromise code result (s.incidentsOf (.promise op) ++ h) t
      (s.numbered.incidentsOf (.call op (some (.call code)) none) ++ k) b where
  state := same
  happens := along.happens
  once := call.once welcomes.absent

/-- Where the callback has come as far as the promise after the call, it says the same. -/
theorem Storage.Welcomes.parallel (welcomes : s.Welcomes code) {b : Storage}
    (along : Alongside s.nextPromise code (.stead s.nextPromise code result) s t h
      (s.numbered.answeredAtOnce op (some (.call code)) none ++ k))
    (early : ∀ e, result = .error e →
      (s.numbered.answeredAtOnce op (some (.call code)) none ++ k).countP
        (·.tells (.call code)) = 0)
    (along' : Alongside s.nextPromise code (.stead s.nextPromise code result)
      (t.returned s.nextPromise result s.stack).collect s' h' k')
    (hosts : s'.Hosts s.nextPromise code)
    (same : b.yield code = s'.recast (.stead s.nextPromise code result))
    (call : s.numbered.CallRun (Rule.recording s.nextPromise code)
      (.call op (some (.call code)) none)
      (s.numbered.incidentsOf (.call op (some (.call code)) none) ++ k ++
        .answered (.done result) :: k') (some (.done result)) b) :
    Parallel s.nextPromise code
      (s.incidentsOf (.promise op) ++ h ++ .answered (.promise s.nextPromise) :: h')
      (some (.promise s.nextPromise)) s'
      (s.numbered.incidentsOf (.call op (some (.call code)) none) ++ k ++
        .answered (.done result) :: k')
      (some (.done result)) b := by
  let before : History := s.numbered.incidentsOf (.call op (some (.call code)) none) ++ k
  have fresh : s.told s.nextPromise = [] := by
    have none : s.kept.filter (·.1 = s.nextPromise) = [] :=
      List.filter_eq_nil_iff.mpr fun e held => by simpa using welcomes.unused.kept e held
    rw [told, none, List.map_nil]
  have asked : before.heard ⟨code, none⟩ =
      (s.numbered.answeredAtOnce op (some (.call code)) none ++ k).heard ⟨code, none⟩ := rfl
  have answered : History.heard (.answered (.done result) :: k') ⟨code, none⟩ =
      k'.heard ⟨code, none⟩ := rfl
  have heard : (s'.told s.nextPromise).map (.done code) = before.heard ⟨code, none⟩ ++
      (refusal result).map (.done code) ++
        History.heard (.answered (.done result) :: k') ⟨code, none⟩ := by
    have first := along.heard
    have later := along'.heard
    have handed : (t.returned s.nextPromise result s.stack).collect.told s.nextPromise =
        t.told s.nextPromise ++ refusal result := told_returned _ _ _ s.stack
    rw [fresh, List.map_nil, List.nil_append] at first
    rw [later, handed, List.map_append, first, asked, answered]
  have agree : s'.promised s.nextPromise = b.future code result
      (before ++ .answered (.done result) :: k') := by
    refine hosts.promised_eq_future same (fun e refused => ?_) heard
    rw [asked]
    exact History.heard_eq_nil (early e refused)
  refine .returned result ⟨same, ?_, call.once welcomes.absent⟩ ?_ ?_
  · change ((s.numbered.answeredAtOnce op (some (.call code)) none ++ k) ++
      .answered (.done result) :: k').filter (!·.tells (.call code)) =
        (h ++ .answered (.promise s.nextPromise) :: h').map _
    have answer : (Incident.answered (.promise s.nextPromise)).recast
        (.stead s.nextPromise code result) = .answered (.done result) := by
      simp [Incident.recast, Reply.recast, Recast.stead]
    rw [List.filter_append, List.map_append, along.happens, List.map_cons, answer,
      List.filter_cons_of_pos rfl, along'.happens]
  · exact congrArg (some ∘ Reply.promised) agree
  · exact fun pending => poll_pending (agree.trans pending)

/-- Until the call with the callback returns an error, the callback hears nothing. -/
theorem Storage.Welcomes.untold_early (welcomes : s.Welcomes code) {mid : Storage}
    (run : RunWhile (Unanswered s.stack) (Rule.recording s.nextPromise code)
      (s.numbered.act (.call op (some (.call code)) none)) k mid)
    (answered : mid.stack = .answer (.done result) :: s.stack) (e : Error)
    (refused : result = .error e) :
    (s.numbered.answeredAtOnce op (some (.call code)) none ++ k).countP
      (·.tells (.call code)) = 0 :=
  run.untold_of_refused welcomes.absent run.run.clients_ne (refused ▸ answered)

/-- The call behind the promise has come to its end where the call with the callback returns, and
with the same result. -/
theorem Storage.Welcomes.returning_of_answered (welcomes : s.Welcomes code)
    (hosts : t.Hosts s.nextPromise code) (awaits : t.Awaits s.nextPromise s.stack)
    {mid : Storage} (same : mid.yield code = t.recast (.stead s.nextPromise code result))
    {reply : Reply} (answered : mid.stack = .answer reply :: s.stack) :
    mid = t.recast (.stead s.nextPromise code result) ∧ ∃ ended, reply = .done ended ∧
      t.stack = .answer (.done ended) :: .awaitCall s.nextPromise :: s.stack := by
  have answering : mid.isCalling code = false := by
    unfold isCalling
    rw [answered]
  obtain rfl : mid = t.recast (.stead s.nextPromise code result) := by
    rwa [yield, answering] at same
  obtain ⟨reply', rest, top⟩ : t.Returning s.nextPromise := by
    by_contra stays
    exact (awaits.unanswered_iff (welcomes.shown result)).mpr stays _ answered
  obtain rfl := awaits.returning top
  have linked := hosts.nested.linked
  rw [top] at linked
  obtain ⟨ended, rfl⟩ := (linked.1 rfl).answer reply' rfl
  refine ⟨rfl, ended, ?_, top⟩
  rw [stack_recast_of_returning (welcomes.shown result) top] at answered
  exact (Task.answer.inj (List.cons_eq_cons.mp answered).1).symm

/-- What happens after a call behind a promise can happen after the call with the callback. -/
theorem Storage.Welcomes.call_of_promise (welcomes : s.Welcomes code)
    (run : s.CallRun (Rule.recording s.nextPromise code) (.promise op) h reply s') :
    ∃ k reply' b, s.numbered.CallRun (Rule.recording s.nextPromise code)
      (.call op (some (.call code)) none) k reply' b ∧
        Parallel s.nextPromise code h reply s' k reply' b := by
  have hosts := welcomes.hosts op
  have awaits := welcomes.awaits op
  cases run with
  | underWay run =>
    obtain ⟨t, before, ended⟩ := run.awaited hosts awaits
    obtain ⟨hosts, -⟩ := before.awaits hosts awaits
    obtain ⟨result, same⟩ : ∃ result, t.recast (.stead s.nextPromise code result) =
        s'.recast (.stead s.nextPromise code result) := by
      obtain rfl | ⟨result, top, rfl⟩ := ended
      · exact ⟨.ok (), rfl⟩
      · exact ⟨result, (recast_returned top).symm⟩
    obtain ⟨k, run', along⟩ := welcomes.forth result before
    refine ⟨_, _, _, .underWay run', .underWay result ?_⟩
    have begun := welcomes.underWay along hosts.yield_recast (.underWay run')
    exact ⟨begun.state.trans same, begun.happens, begun.once⟩
  | @returned h h' mid _ reply run answered later =>
    obtain ⟨t, before, ended⟩ := run.awaited hosts awaits
    obtain ⟨hosts, awaits⟩ := before.awaits hosts awaits
    obtain rfl | ⟨result, top, rfl⟩ := ended
    · exact absurd answered (awaits.unanswered _)
    obtain rfl : .promise s.nextPromise = reply := by simpa [Storage.returned] using answered
    obtain ⟨handed, collected⟩ := hosts.handed top
    obtain ⟨k, run', along⟩ := welcomes.forth result before
    have answered' : (t.recast (.stead s.nextPromise code result)).stack =
        .answer (.done result) :: s.stack :=
      stack_recast_of_returning (welcomes.shown result) top
    have stays := later.runWhile fun _ _ run =>
      run.not_returning handed.given welcomes.unused.awaits
    obtain ⟨hosts', k', later', along'⟩ := RunWhile.forth (P := fun _ => True)
      (fun _ _ => trivial) handed (fun _ _ _ _ => trivial) stays
    have call := Storage.CallRun.returned (s := s.numbered) run' answered' (collected ▸ later'.run)
    exact ⟨_, _, _, call, welcomes.parallel along
      (welcomes.untold_early run' answered') along' hosts' hosts'.yield_recast call⟩

/-- What happens after the call with the callback can happen after the call behind the promise. -/
theorem Storage.Welcomes.promise_of_call (welcomes : s.Welcomes code) {b : Storage}
    (run : s.numbered.CallRun (Rule.recording s.nextPromise code)
      (.call op (some (.call code)) none) k reply b) :
    ∃ h reply' a, s.CallRun (Rule.recording s.nextPromise code) (.promise op) h reply' a ∧
      Parallel s.nextPromise code h reply' a k reply b := by
  have hosts := welcomes.hosts op
  have awaits := welcomes.awaits op
  cases run with
  | underWay run =>
    obtain ⟨h, a, run', same, along⟩ := welcomes.back (.ok ()) run
    refine ⟨_, _, _, .underWay (run'.unanswered hosts awaits), .underWay (.ok ()) ?_⟩
    exact welcomes.underWay along same (.underWay run)
  | @returned k k' mid _ reply run answered later =>
    -- The result that stands in for the callback has to be chosen before the run is followed.
    obtain ⟨result, known⟩ : ∃ result, ∀ result', reply = .done result' → result' = result := by
      cases reply with
      | done result => exact ⟨result, fun _ same => (Reply.done.inj same).symm⟩
      | _ => exact ⟨.ok (), fun _ same => by simp at same⟩
    obtain ⟨h, t, before, same, along⟩ := welcomes.back result run
    obtain ⟨hosts, awaits⟩ := before.awaits hosts awaits
    obtain ⟨rfl, ended, rfl, top⟩ := welcomes.returning_of_answered hosts awaits same answered
    obtain rfl := known ended rfl
    obtain ⟨handed, collected⟩ := hosts.handed top
    have stays (h : History) (a : Storage) (run : RunWhile (¬ ·.Returning s.nextPromise)
        (Rule.recording s.nextPromise code) (t.returned s.nextPromise ended s.stack).collect h a)
        (_ : True) : ¬ a.Returning s.nextPromise :=
      run.run.not_returning handed.given welcomes.unused.awaits
    rw [collected] at later
    obtain ⟨h', a, before', hosts', same', along'⟩ := RunWhile.back (P := fun _ => True) handed
      stays (later.runWhile fun _ _ _ => trivial)
    have call := Storage.CallRun.returned (s := s.numbered) run answered (collected ▸ later)
    have returned := (before.unanswered (welcomes.hosts op) (welcomes.awaits op)).step
      awaits.unanswered (step_of_returning top).2
    rw [(step_of_returning top).1, List.append_nil] at returned
    exact ⟨_, _, a, .returned returned rfl before'.run, welcomes.parallel along
      (welcomes.untold_early run answered) along' hosts' same' call⟩

end Directions

/-- Most moves are allowed while the callback does not have control. -/
theorem Rule.recording.of_silent {number : Nat} {code : Callback} {h : History} {s : Storage}
    {a : Action} (noCall : ∀ op receiver observer, a ≠ .call op receiver observer)
    (noPoll : a ≠ .poll number) (noForget : a ≠ .forget number)
    (silent : s.isCalling code = false) : Rule.recording number code h s a :=
  ⟨fun _ _ _ => noCall _ _ _, fun _ _ => noCall _ _ _, noPoll, noForget, by simp [silent]⟩

section Main

variable {capabilities : Capabilities} {limits : Limits} {allocator : Allocator}

/-- **A promise is a callback that takes note.**  From every state that a client can find, an
operation whose result is kept takes the storage through the same states as the operation with a
callback of its own that only takes note of what it hears, and one goes on wherever the other can.
Once the two calls have returned, the promise answers what the callback says: the error of the call
if it was refused, what the callback has heard, that it has been abandoned if nobody holds the
callback any more, and that it is pending otherwise.  A poll of a pending promise changes nothing.

If clients take nothing out of the queue and push nothing that is inside the device, then no promise
is pending where no call is going on and nothing is inside the device. -/
theorem Run.promise_agrees {h₀ : History} {s : Storage}
    (run : Run Rule.genuine (Storage.create capabilities limits allocator) h₀ s)
    (turn : s.isAtRest) (op : Operation) {code : Callback}
    (new : ∀ client ∈ h₀.clients, client.code ≠ code) :
    (∀ h reply a, s.CallRun (Rule.recording s.nextPromise code) (.promise op) h reply a →
      ∃ k reply' b, s.numbered.CallRun (Rule.recording s.nextPromise code)
          (.call op (some (.call code)) none) k reply' b ∧
        Parallel s.nextPromise code h reply a k reply' b) ∧
    (∀ k reply' b, s.numbered.CallRun (Rule.recording s.nextPromise code)
        (.call op (some (.call code)) none) k reply' b →
      ∃ h reply a, s.CallRun (Rule.recording s.nextPromise code) (.promise op) h reply a ∧
        Parallel s.nextPromise code h reply a k reply' b) ∧
    (∀ h t, Run Rule.undisturbed (Storage.create capabilities limits allocator) h t →
      t.isIdle → t.pending = 0 →
        ∀ m, (t.act (.poll m)).answer? ≠ some (.promised .pending)) := by
  have welcomes := run.welcomes turn new
  refine ⟨fun h reply a call => welcomes.call_of_promise call,
    fun k reply' b call => welcomes.promise_of_call call, fun h t run idle finished m answer => ?_⟩
  have pending : t.promised m = .pending := by
    simpa [Storage.act, Storage.answer?] using answer
  have nobody := run.nobody_waits idle finished
  rw [Storage.promised_eq] at pending
  split at pending
  case h_1 => simp at pending
  case h_2 => simp [nobody] at pending

/-- A promise of a read on a fresh storage sends an opening ahead.  The device finishes both, and
the promise answers the bytes. -/
theorem Run.promise_agrees_read : ∃ s h a k reply b h' t,
    Run Rule.genuine (Storage.create .readWrite) [] s ∧
    s.CallRun (Rule.recording s.nextPromise 7) (.promise (.read 0 2)) h (some (.promise 0)) a ∧
    (a.act (.poll 0)).answer? = some (.promised (.settled (.ok (.bytes [1, 2])))) ∧
    s.numbered.CallRun (Rule.recording s.nextPromise 7) (.call (.read 0 2) (some (.call 7)) none)
      k reply b ∧
    Parallel s.nextPromise 7 h (some (.promise 0)) a k reply b ∧
    Run Rule.undisturbed (Storage.create .readWrite) h' t ∧ t.isIdle ∧ t.pending = 0 ∧
    t.nextPromise = 1 ∧ ∀ m, (t.act (.poll m)).answer? ≠ some (.promised .pending) := by
  have run : Run Rule.genuine (Storage.create .readWrite) [] (Storage.create .readWrite) := .start
  have new (code : Callback) : ∀ client ∈ History.clients [], client.code ≠ code := by
    simp [History.clients]
  have begun : RunWhile (Storage.Unanswered []) (Rule.recording 0 7)
    ((Storage.create .readWrite).act (.promise (.read 0 2))) [] _ := .start
  have opening := begun.goOn 9 (by decide +kernel)
  have during := (opening.move .leave (by decide +kernel) rfl
    (.of_silent (by simp) (by simp) (by simp) rfl)).goOn 4 (by decide +kernel)
  have handed {h : History} {s : Storage} (_ : RunWhile (Storage.Unanswered [])
    (Rule.recording 0 7) ((Storage.create .readWrite).act (.promise (.read 0 2))) h s) :
    Run (Rule.recording 0 7) s.collect [] s.collect := .start
  have later := (handed during).play [(.complete 2 { result := .ok none }, 40), (.leave, 40),
      (.collect, 0), (.complete 1 { data := some [1, 2], result := .ok (some 2) }, 40),
      (.collect, 0)]
    ⟨⟨rfl, .of_silent (by simp) (by simp) (by simp) rfl⟩,
      ⟨rfl, .of_silent (by simp) (by simp) (by simp) rfl⟩,
      ⟨rfl, .of_silent (by simp) (by simp) (by simp) rfl⟩,
      ⟨rfl, .of_silent (by simp) (by simp) (by simp) rfl⟩,
      ⟨rfl, .of_silent (by simp) (by simp) (by simp) rfl⟩, trivial⟩
  have call := Storage.CallRun.returned (s := Storage.create .readWrite) during rfl later
  have calm : Run Rule.undisturbed (Storage.create .readWrite) [] _ := .start
  have finished := calm.play [(.promise (.read 0 2), 9), (.leave, 9), (.collect, 0),
    (.complete 2 { result := .ok none }, 40), (.leave, 40), (.collect, 0),
    (.complete 1 { data := some [1, 2], result := .ok (some 2) }, 40), (.collect, 0)]
    ⟨⟨rfl, ⟨rfl, by simp⟩, by simp⟩, ⟨rfl, ⟨rfl, by simp⟩, by simp⟩, ⟨rfl, ⟨rfl, by simp⟩, by simp⟩,
      ⟨rfl, ⟨rfl, by simp⟩, by simp⟩, ⟨rfl, ⟨rfl, by simp⟩, by simp⟩,
      ⟨rfl, ⟨rfl, by simp⟩, by simp⟩, ⟨rfl, ⟨rfl, by simp⟩, by simp⟩,
      ⟨rfl, ⟨rfl, by simp⟩, by simp⟩, trivial⟩
  obtain ⟨there, -, settled⟩ := Run.promise_agrees run rfl (.read 0 2) (new 7)
  obtain ⟨k, reply, b, call', parallel⟩ := there _ _ _ call
  exact ⟨_, _, _, k, reply, b, _, _, run, call, by decide +kernel, call', parallel, finished,
    by decide +kernel, by decide +kernel, by decide +kernel,
    settled _ _ finished (by decide +kernel) (by decide +kernel)⟩

end Main

end StorageEngine
