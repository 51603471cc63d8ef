import StorageEngine.Proofs.Interleaving
import StorageEngine.Proofs.RecastMoves

/-!
# A callback in the place of a promise

`Recast.stead` puts a callback in the place of one promise: the callback hears what the promise is
told, and nobody waits for the call behind the promise, whose answer the client takes itself.  As
long as that call does not return, the storage goes on alike with either (`Storage.Stride`), except
that the callback has control for a moment where the promise is told.  If it only takes note of what
it hears and gives control back at once (`Rule.recording`), then whatever can happen with the
promise can happen with the callback (`RunWhile.forth`), and the other way round (`RunWhile.back`).

* `recast_of_unused` — a promise that nothing has to do with can be replaced;
* `Hosts.stride`, `Hosts.act` — one step, and one move;
* `Alongside` — what has happened, and what the promise has been told and the callback has heard.
-/

namespace StorageEngine

/-- This callback stands in for this promise, and the call behind it comes to this result. -/
def Recast.stead (number : Nat) (code : Callback) (result : Except Error Unit) : Recast where
  receiver m := if m = number then .call code else .promise m
  answer m := if m = number then .done result else .promise m
  hides m := m = number
  kept := (·.filter (·.1 ≠ number))

section Stead

variable {number : Nat} {code : Callback} {result : Except Error Unit}

/-- Nobody stands in for any other promise. -/
theorem Recast.fixes_stead {m : Nat} (other : m ≠ number) :
    (Recast.stead number code result).Fixes m where
  receiver := if_neg other
  answer := if_neg other
  hides := decide_eq_false other
  kept l v := by simp [stead, other]

/-- Nothing has to do with the promise yet. -/
structure Storage.Unused (s : Storage) (number : Nat) : Prop where
  receivers : .promise number ∉ s.receivers
  awaits : .awaitCall number ∉ s.stack
  answers : .answer (.promise number) ∉ s.stack
  kept : ∀ e ∈ s.kept, e.1 ≠ number

theorem Receiver.recast_stead {x : Receiver} (other : x ≠ .promise number) :
    x.recast (.stead number code result) = x :=
  recast_eq fun _ same => (Recast.fixes_stead fun stands => other (by rw [same, stands])).receiver

namespace Storage

/-- Where nothing has to do with the promise, nothing changes. -/
theorem recast_of_unused {s : Storage} (unused : s.Unused number) :
    s.recast (.stead number code result) = s := by
  have others : (Recast.stead number code result).kept s.kept = s.kept :=
    List.filter_eq_self.mpr fun e held => by simpa using unused.kept e held
  have fixes {m : Nat} (other : m ≠ number) : (Recast.stead number code result).Fixes m :=
    Recast.fixes_stead other
  rw [recast_eq
    (fun m waits => (fixes fun same => unused.receivers (same ▸ waits)).receiver)
    (fun m calls => (fixes fun same => unused.awaits (same ▸ calls)).hides)
    (fun m answers => (fixes fun same => unused.answers (same ▸ answers)).answer), others]

/-- A step keeps a result only for the promise that it is about. -/
theorem kept_of_turn {s s' : Storage} {i : History} (t : Turn s i s') :
    s'.kept = s.kept ∨
      ∃ m v, s.addressed? = some m ∧ s'.kept = s.kept ++ [(m, v)] := by
  cases t with
  | @kept r idle rest m top receiver =>
    exact .inr ⟨m, r.result, by simp [addressed?, top, receiver], rfl⟩
  | @promised m result rest top kept keeps =>
    obtain same | ⟨e, added⟩ := keeps
    · exact .inl same
    · exact .inr ⟨m, .error e, by simp [addressed?, top], added⟩
  | _ => exact .inl rfl

/-- A move keeps a result only for a promise that it brings in, and drops only what is asked for. -/
theorem kept_of_move {s s' : Storage} {a : Action} {i : History} (m : Move s a i s') :
    s'.kept = s.kept ∨
    (∃ n v, .promise n ∈ s.joins a ∧ s'.kept = s.kept ++ [(n, v)]) ∨
    ∃ n, (a = .poll n ∨ a = .forget n) ∧ s'.kept = s.kept.filter (·.1 ≠ n) := by
  cases m with
  | answeredAtOnce receiver kept _ keeps =>
    obtain same | ⟨n, rfl, added⟩ := keeps
    · exact .inl same
    · exact .inr (.inl ⟨n, _, by simp [joins], added⟩)
  | promisedAtOnce => exact .inr (.inl ⟨s.nextPromise, _, by simp [joins], rfl⟩)
  | aside a _ _ _ kept _ _ _ keeps =>
    obtain same | asked := keeps
    · exact .inl same
    · exact .inr (.inr asked)
  | _ => exact .inl rfl

section Asks

variable {s : Storage} {m : Nat}

theorem promised_of_kept {e : Nat × Except Error Payload}
    (found : s.kept.find? (·.1 = m) = some e) : s.promised m = .settled e.2 := by
  simp only [promised, found]

theorem forget_stead : (s.recast (.stead number code result)).forget m =
    (s.forget m).recast (.stead number code result) := by
  have swapped : (s.kept.filter (·.1 ≠ number)).filter (·.1 ≠ m) =
      (s.kept.filter (·.1 ≠ m)).filter (·.1 ≠ number) := by
    simp only [List.filter_filter, Bool.and_comm]
  simp only [forget, recast]
  exact congrArg (fun kept => { s.recast (.stead number code result) with kept }) swapped

/-- The others wait as before, and the callback waits in the place of the promise. -/
theorem mem_receivers_stead {x : Receiver} (code' : x ≠ .call code) (other : x ≠ .promise number) :
    x ∈ (s.recast (.stead number code result)).receivers ↔ x ∈ s.receivers := by
  rw [receivers_recast, List.mem_map]
  constructor
  · rintro ⟨y, waits, rfl⟩
    by_cases same : y = .promise number
    · subst same
      exact absurd (if_pos rfl) code'
    · rwa [Receiver.recast_stead same]
  · exact fun waits => ⟨x, waits, Receiver.recast_stead other⟩

theorem promised_stead (other : m ≠ number) :
    (s.recast (.stead number code result)).promised m = s.promised m := by
  have kept : (s.recast (.stead number code result)).kept.find? (·.1 = m) =
      s.kept.find? (·.1 = m) := by
    change (s.kept.filter (·.1 ≠ number)).find? (·.1 = m) = _
    rw [List.find?_filter]
    congr 1
    funext e
    by_cases same : e.1 = m <;> simp [same, other]
  cases found : s.kept.find? (·.1 = m) with
  | some e => rw [promised_of_kept found, promised_of_kept (kept.trans found)]
  | none =>
    rw [promised_of_unkept _ _ found, promised_of_unkept _ _ (kept.trans found)]
    refine if_congr (mem_receivers_stead (by simp) (by simpa using other)) rfl rfl

end Asks

end Storage

end Stead

/-- Nobody makes a call for a promise by hand. -/
def Rule.genuine : Rule :=
  fun _ _ a => ∀ op number observer, a ≠ .call op (some (.promise number)) observer

/-- The callback has control. -/
def Storage.isCalling (s : Storage) (code : Callback) : Bool :=
  match s.stack with
  | .client (.done other _) :: _ => other = code
  | _ => false

/-- Nobody else brings this callback, which only takes note of what it hears, and nobody asks the
promise with this number. -/
def Rule.recording (number : Nat) (code : Callback) : Rule :=
  fun h s a => Rule.genuine h s a ∧ (∀ op observer, a ≠ .call op (some (.call code)) observer) ∧
    a ≠ .poll number ∧ a ≠ .forget number ∧ (s.isCalling code → a = .leave)

/-- A promise has been given out, and nobody has to do with the callback that could stand in for
it. -/
structure Storage.Hosts (s : Storage) (number : Nat) (code : Callback) : Prop where
  nested : s.Nested
  given : number < s.nextPromise
  apart : .call code ∉ s.receivers
  silent : ∀ v, .done code v ∉ s.codes

section Hosts

variable {number : Nat} {code : Callback} {s s' : Storage} {h i : History} {a : Action}

/-- No step tells who does not wait. -/
theorem Storage.Hosts.untold_step (hosts : s.Hosts number code) (t : Turn s i s') :
    i.countP (·.tells (.call code)) = 0 := by
  have waits := t.receivers (.call code)
  rw [List.count_eq_zero_of_not_mem hosts.apart] at waits
  omega

theorem Turn.hosts (t : Turn s i s') (hosts : s.Hosts number code) : s'.Hosts number code := by
  have waits := t.receivers (.call code)
  rw [List.count_eq_zero_of_not_mem hosts.apart] at waits
  refine ⟨t.nested hosts.nested, ?_, List.count_eq_zero.mp (by omega), fun v => ?_⟩
  · cases t <;> exact hosts.given
  · rw [t.codes, List.mem_append, List.mem_reverse]
    exact not_or.mpr ⟨History.not_invoked (hosts.untold_step t) v, hosts.silent v⟩

theorem Storage.joins_of_genuine (genuine : Rule.genuine h s a) {m : Nat}
    (joins : .promise m ∈ s.joins a) : m = s.nextPromise := by
  cases a with
  | call op receiver observer =>
    obtain rfl : receiver = some (.promise m) := by simpa [Storage.joins] using joins
    exact absurd rfl (genuine op m observer)
  | promise op => simpa [Storage.joins] using joins
  | _ => simp [Storage.joins] at joins

theorem Rule.recording.joins (allowed : Rule.recording number code h s a) :
    .call code ∉ s.joins a := by
  intro joins
  cases a with
  | call op receiver observer =>
    obtain rfl : receiver = some (.call code) := by simpa [Storage.joins] using joins
    exact allowed.2.1 op observer rfl
  | _ => simp [Storage.joins] at joins

/-- Nor does a move. -/
theorem Storage.Hosts.untold_move (hosts : s.Hosts number code) (m : Move s a i s')
    (allowed : Rule.recording number code h s a) : i.countP (·.tells (.call code)) = 0 := by
  have waits := m.receivers (.call code)
  rw [List.count_eq_zero_of_not_mem hosts.apart,
    List.count_eq_zero_of_not_mem allowed.joins] at waits
  omega

theorem Move.hosts (m : Move s a i s') (hosts : s.Hosts number code) (turn : s.isAtRest)
    (allowed : Rule.recording number code h s a) : s'.Hosts number code := by
  have waits := m.receivers (.call code)
  rw [List.count_eq_zero_of_not_mem hosts.apart,
    List.count_eq_zero_of_not_mem allowed.joins] at waits
  refine ⟨m.nested hosts.nested turn, ?_, List.count_eq_zero.mp (by omega), fun v => ?_⟩
  · cases m <;> first | exact hosts.given | exact Nat.lt_succ_of_lt hosts.given
  · by_cases stays : a = .leave
    · have silent := hosts.silent v
      subst stays
      cases m with
      | left top => simp_all [Storage.codes, Task.code?]
      | _ => simpa [Storage.codes, Task.code?] using silent
    · rw [m.codes stays, List.mem_append, List.mem_reverse]
      exact not_or.mpr ⟨History.not_invoked (hosts.untold_move m allowed) v, hosts.silent v⟩

end Hosts

/-- The call behind the promise is about to come to its end. -/
def Storage.Returning (number : Nat) (s : Storage) : Prop :=
  ∃ reply rest, s.stack = .answer reply :: .awaitCall number :: rest

/-- How a storage and the one with the callback go on: alike, unless the promise is told. -/
inductive Storage.Stride (number : Nat) (code : Callback) (c : Recast) (s s' : Storage) : Prop
  | alike (next : (s.recast c).step = some (s'.recast c))
      (happens : (s.recast c).incidents = s.incidents.map (·.recast c))
      (kept : s'.kept.filter (·.1 = number) = s.kept.filter (·.1 = number))
  | told (v : Except Error Payload)
      (next : (s.recast c).step = some ((s'.recast c).push [.client (.done code v)]))
      (happens : (s.recast c).incidents = [.invoked (.done code v)]) (silent : s.incidents = [])
      (kept : s'.kept = s.kept ++ [(number, v)])

section Strides

variable {number : Nat} {code : Callback} {result : Except Error Unit} {s s' : Storage}

theorem Storage.addressed_cases {m : Nat} (addressed : s.addressed? = some m) :
    (∃ r idle rest, s.stack = .pipeline r (.conclude idle) :: rest ∧
      r.receiver = some (.promise m)) ∨ s.Returning m := by
  unfold addressed? at addressed
  split at addressed
  case h_1 r idle rest top =>
    split at addressed
    case h_1 m' told =>
      obtain rfl := Option.some.inj addressed
      exact .inl ⟨r, idle, rest, top, told⟩
    case h_2 => simp at addressed
  case h_2 reply m' rest top =>
    obtain rfl := Option.some.inj addressed
    exact .inr ⟨reply, rest, top⟩
  case h_3 => simp at addressed

/-- As long as the call does not return, the storage and the one with the callback go on alike,
and the callback hears what the promise is told. -/
theorem Storage.Hosts.stride (hosts : s.Hosts number code) (stays : ¬ s.Returning number)
    (next : s.step = some s') : s.Stride number code (.stead number code result) s' := by
  by_cases addressed : s.addressed? = some number
  · obtain ⟨r, idle, rest, top, told⟩ | returning := addressed_cases addressed
    · have concluded : s' = { s with
          kept := s.kept ++ [(number, r.result)]
          stack := .pipeline { r with receiver := none } (.release idle) :: rest } := by
        rw [step, top] at next
        rw [← Option.some.inj next]
        simp [perform, advance, conclude, told, tell, keep, push]
      have stack : (s.recast (.stead number code result)).stack =
          .pipeline (r.recast (.stead number code result)) (.conclude idle) ::
            rest.filterMap (·.recast (.stead number code result)) := by
        rw [stack_recast, top]
        rfl
      have receiver : (r.recast (.stead number code result)).receiver = some (.call code) := by
        simp [Request.recast, told, Receiver.recast, Recast.stead]
      have same : (r.recast (.stead number code result)).result = r.result := rfl
      refine .told r.result ?_ ?_ ?_ ?_
      · have dropped : (Recast.stead number code result).kept (s.kept ++ [(number, r.result)]) =
            (Recast.stead number code result).kept s.kept := by
          simp [Recast.stead]
        rw [step, stack, concluded]
        refine congrArg some ?_
        change conclude { s.recast (.stead number code result) with stack := _ } _ idle = _
        rw [conclude, receiver]
        simp only [recast, dropped]
        rfl
      · rw [incidents, stack]
        refine newcomers_of_called ?_
        simp only [conclude, receiver, same]
        rfl
      · rw [incidents, top]
        refine newcomers_of_same ?_
        simp only [conclude, told]
        rfl
      · rw [concluded]
    · exact absurd returning stays
  · have fixes (m : Nat) (same : s.addressed? = some m) :
        (Recast.stead number code result).Fixes m :=
      Recast.fixes_stead fun other => addressed (other ▸ same)
    refine .alike ?_ (incidents_recast hosts.nested.top fixes) ?_
    · rw [step_recast hosts.nested fixes, next]
      rfl
    · obtain same | ⟨m, v, about, kept⟩ := kept_of_turn (turn_of_step next)
      · rw [same]
      · have other : m ≠ number := fun same => addressed (same ▸ about)
        simp [kept, other]

/-- And they rest alike. -/
theorem Storage.Hosts.rests (hosts : s.Hosts number code) (stays : ¬ s.Returning number)
    (rests : s.step = none) : (s.recast (.stead number code result)).step = none := by
  have fixes (m : Nat) (same : s.addressed? = some m) :
      (Recast.stead number code result).Fixes m := by
    refine Recast.fixes_stead fun other => ?_
    obtain ⟨r, idle, rest, top, -⟩ | returning := addressed_cases (other ▸ same)
    · simp [step, top] at rests
    · exact stays returning
  rw [step_recast hosts.nested fixes, rests]
  rfl

/-- Clients may make the same moves. -/
theorem Storage.Hosts.act {h : History} {a : Action} (hosts : s.Hosts number code)
    (allowed : Rule.recording number code h s a) :
    (s.recast (.stead number code result)).act a =
      (s.act a).recast (.stead number code result) := by
  obtain ⟨genuine, -, noPoll, noForget, -⟩ := allowed
  refine act_recast hosts.nested.top (fun m joins => ?_) fun m asks => ?_
  · have same := joins_of_genuine genuine joins
    have given := hosts.given
    exact Recast.fixes_stead (by omega)
  · have other : m ≠ number := by
      rintro rfl
      obtain rfl | rfl := asks
      · exact noPoll rfl
      · exact noForget rfl
    exact ⟨forget_stead, promised_stead other⟩

/-- No move keeps or drops a result of the promise. -/
theorem Storage.Hosts.kept_act {h : History} {a : Action} (hosts : s.Hosts number code)
    (allowed : Rule.recording number code h s a) :
    (s.act a).kept.filter (·.1 = number) = s.kept.filter (·.1 = number) := by
  obtain ⟨genuine, -, noPoll, noForget, -⟩ := allowed
  obtain same | ⟨m, v, joins, kept⟩ | ⟨m, asks, kept⟩ := kept_of_move (move_of_act s a)
  · rw [same]
  · have same := joins_of_genuine genuine joins
    have given := hosts.given
    have other : m ≠ number := by omega
    simp [kept, other]
  · have other : m ≠ number := by
      rintro rfl
      obtain rfl | rfl := asks
      · exact noPoll rfl
      · exact noForget rfl
    rw [kept, List.filter_filter]
    refine List.filter_congr fun e _ => ?_
    by_cases same : e.1 = number <;> simp [same, other.symm]

/-- What is not called has no control. -/
theorem Storage.not_calling (silent : ∀ v, .done code v ∉ s.codes) : s.isCalling code = false := by
  unfold isCalling
  split
  case h_1 other v rest top =>
    have called : .done other v ∈ s.codes := by simp [codes, top, Task.code?]
    exact decide_eq_false fun same => silent v (same ▸ called)
  case h_2 => rfl

theorem Storage.Hosts.not_calling (hosts : s.Hosts number code) :
    (s.recast (.stead number code result)).isCalling code = false :=
  Storage.not_calling (by simpa only [codes_recast] using hosts.silent)

/-- The rule allows the same moves where the callback stands in. -/
theorem Storage.Hosts.recording_iff (hosts : s.Hosts number code) (h k : History) (a : Action) :
    Rule.recording number code k (s.recast (.stead number code result)) a ↔
      Rule.recording number code h s a := by
  simp only [Rule.recording, Rule.genuine, hosts.not_calling, Storage.not_calling hosts.silent]

end Strides

/-- The storage once the callback has given control back, if it has it. -/
def Storage.yield (s : Storage) (code : Callback) : Storage :=
  if s.isCalling code then s.leave else s

/-- The results that a promise keeps. -/
def Storage.told (s : Storage) (number : Nat) : List (Except Error Payload) :=
  (s.kept.filter (·.1 = number)).map (·.2)

/-- What happens on the way from one state to another, and what happens with the callback in the
place of the promise: the same, and the callback hears what the promise is told. -/
structure Alongside (number : Nat) (code : Callback) (c : Recast) (s s' : Storage)
    (h k : History) : Prop where
  happens : k.filter (!·.tells (.call code)) = h.map (·.recast c)
  heard : (s'.told number).map (.done code) =
    (s.told number).map (.done code) ++ k.heard ⟨code, none⟩

section Runs

variable {number : Nat} {code : Callback} {result : Except Error Unit} {s s' s'' : Storage}
  {h k i : History} {a : Action}

/-- The callback does not have control where nobody has called it. -/
theorem Storage.Hosts.yield_recast (hosts : s.Hosts number code) :
    (s.recast (.stead number code result)).yield code = s.recast (.stead number code result) := by
  rw [yield, hosts.not_calling]
  rfl

theorem Incident.tells_recast (c : Recast) (x : Receiver) (i : Incident) :
    (i.recast c).tells x = i.tells x := by
  cases i <;> rfl

namespace Alongside

variable {c : Recast}

theorem refl (s : Storage) : Alongside number code c s s [] [] where
  happens := rfl
  heard := by simp [History.heard]

theorem trans {h' k' : History} (l : Alongside number code c s s' h k)
    (l' : Alongside number code c s' s'' h' k') :
    Alongside number code c s s'' (h ++ h') (k ++ k') where
  happens := by rw [List.filter_append, List.map_append, l.happens, l'.happens]
  heard := by rw [l'.heard, l.heard, History.heard_append, List.append_assoc]

/-- The same happens. -/
theorem alike (l : Alongside number code c s s' h k)
    (untold : i.countP (·.tells (.call code)) = 0)
    (kept : s''.kept.filter (·.1 = number) = s'.kept.filter (·.1 = number)) :
    Alongside number code c s s'' (h ++ i) (k ++ i.map (·.recast c)) := by
  have untold' : (i.map (·.recast c)).countP (·.tells (.call code)) = 0 := by
    rw [List.countP_map]
    simpa only [Function.comp_def, Incident.tells_recast] using untold
  constructor
  · have all : (i.map (·.recast c)).filter (!·.tells (.call code)) = i.map (·.recast c) :=
      List.filter_eq_self.mpr fun x held => by simpa using List.countP_eq_zero.mp untold' x held
    rw [List.filter_append, List.map_append, l.happens, all]
  · rw [Storage.told, kept, History.heard_append, History.heard_eq_nil untold', List.append_nil]
    exact l.heard

/-- The promise is told, and the callback hears it. -/
theorem told (l : Alongside number code c s s' h k) {v : Except Error Payload}
    (kept : s''.kept = s'.kept ++ [(number, v)]) :
    Alongside number code c s s'' h (k ++ [.invoked (.done code v)]) := by
  constructor
  · have tells : Incident.tells (.call code) (.invoked (.done code v)) := by simp [Incident.tells]
    rw [List.filter_append, l.happens]
    simp [tells]
  · have heard := l.heard
    simp only [Storage.told] at heard
    simp [Storage.told, kept, heard, History.heard_done]

end Alongside

theorem Storage.isAtRest_of_calling (calling : s.isCalling code) : s.step = none := by
  unfold isCalling at calling
  split at calling
  case h_1 top => rw [step, top]
  case h_2 => simp at calling

variable {P : Storage → Prop}

/-- **There.**  What can happen with the promise can happen with the callback. -/
theorem RunWhile.forth (called : ∀ (b : Storage) v, P (b.push [.client (.done code v)]))
    (hosts : s.Hosts number code)
    (goesOn : ∀ h a, RunWhile (¬ ·.Returning number) (Rule.recording number code) s h a →
      ¬ a.Returning number → P (a.recast (.stead number code result)))
    (run : RunWhile (¬ ·.Returning number) (Rule.recording number code) s h s') :
    s'.Hosts number code ∧ ∃ k, RunWhile P (Rule.recording number code)
      (s.recast (.stead number code result)) k (s'.recast (.stead number code result)) ∧
      Alongside number code (.stead number code result) s s' h k := by
  induction run with
  | start => exact ⟨hosts, [], .start, .refl s⟩
  | @step h t t' before stays next ih =>
    obtain ⟨hosts, k, run, along⟩ := ih
    have turn := turn_of_step next
    have still := goesOn h t before stays
    refine ⟨turn.hosts hosts, ?_⟩
    cases hosts.stride stays next with
    | alike next' happens kept =>
      refine ⟨_, run.step still next', ?_⟩
      rw [happens]
      exact along.alike (hosts.untold_step turn) kept
    | told v next' happens silent kept =>
      have calling := run.step still next'
      have left := calling.move .leave (called _ v) rfl ⟨by simp [Rule.genuine], by simp⟩
      refine ⟨_, left, ?_⟩
      rw [happens, silent, List.append_nil]
      simpa [Storage.incidentsOf] using along.told kept
  | @move h t a before stays turn allowed ih =>
    obtain ⟨hosts, k, run, along⟩ := ih
    have move := move_of_act t a
    have rests : (t.recast (.stead number code result)).isAtRest := by
      rw [Storage.isAtRest, hosts.rests stays (Option.isNone_iff_eq_none.mp turn)]
      rfl
    refine ⟨move.hosts hosts turn allowed, _, ?_,
      along.alike (hosts.untold_move move allowed) (hosts.kept_act allowed)⟩
    rw [← hosts.act allowed, ← Storage.incidentsOf_recast hosts.nested.top]
    exact run.move a (goesOn h t before stays) rests ((hosts.recording_iff h k a).mpr allowed)

/-- **And back.**  What can happen with the callback can happen with the promise. -/
theorem RunWhile.back (hosts : s.Hosts number code)
    (stays : ∀ h a, RunWhile (¬ ·.Returning number) (Rule.recording number code) s h a →
      P (a.recast (.stead number code result)) → ¬ a.Returning number)
    (run : RunWhile P (Rule.recording number code) (s.recast (.stead number code result)) k s') :
    ∃ h a, RunWhile (¬ ·.Returning number) (Rule.recording number code) s h a ∧
      a.Hosts number code ∧
      s'.yield code = a.recast (.stead number code result) ∧
      Alongside number code (.stead number code result) s a h k := by
  induction run with
  | start => exact ⟨[], s, .start, hosts, hosts.yield_recast, .refl s⟩
  | @step k b b' _ still next ih =>
    obtain ⟨h, a, run, hosts, same, along⟩ := ih
    have waits : b.isCalling code = false := by
      by_contra calling
      rw [Storage.isAtRest_of_calling (by simpa using calling)] at next
      simp at next
    obtain rfl : b = a.recast (.stead number code result) := by
      simpa [Storage.yield, waits] using same
    have stays := stays h a run still
    cases goes : a.step with
    | none =>
      rw [hosts.rests stays goes] at next
      simp at next
    | some a' =>
      have turn := turn_of_step goes
      have run := run.step stays goes
      have hosts' := turn.hosts hosts
      refine ⟨_, a', run, hosts', ?_⟩
      cases hosts.stride stays goes with
      | alike next' happens kept =>
        obtain rfl := Option.some.inj (next.symm.trans next')
        rw [happens]
        exact ⟨hosts'.yield_recast, along.alike (hosts.untold_step turn) kept⟩
      | told v next' happens silent kept =>
        obtain rfl := Option.some.inj (next.symm.trans next')
        rw [happens, silent, List.append_nil]
        refine ⟨?_, along.told kept⟩
        have calling : ((a'.recast (.stead number code result)).push
            [.client (.done code v)]).isCalling code := by
          simp [Storage.isCalling]
        rw [Storage.yield, if_pos calling]
        rfl
  | @move k b m _ still turn allowed ih =>
    obtain ⟨h, a, run, hosts, same, along⟩ := ih
    cases calling : b.isCalling code with
    | true =>
      obtain rfl := allowed.2.2.2.2 calling
      have left : b.leave = a.recast (.stead number code result) := by
        simpa [Storage.yield, calling] using same
      change ∃ h a', _ ∧ _ ∧ b.leave.yield code = _ ∧ _
      rw [left]
      refine ⟨h, a, run, hosts, hosts.yield_recast, ?_⟩
      simpa [Storage.incidentsOf] using along
    | false =>
      obtain rfl : b = a.recast (.stead number code result) := by
        simpa [Storage.yield, calling] using same
      have stays := stays h a run still
      have rests : a.isAtRest := by
        rw [Storage.isAtRest, Option.isNone_iff_eq_none]
        by_contra moves
        obtain ⟨a', goes⟩ := Option.ne_none_iff_exists'.mp moves
        have rests := Option.isNone_iff_eq_none.mp turn
        cases hosts.stride stays goes with
        | alike next | told _ next => exact absurd (next.symm.trans rests) (by simp)
      have allowed := (hosts.recording_iff h k m).mp allowed
      have move := move_of_act a m
      have hosts' := move.hosts hosts rests allowed
      refine ⟨_, a.act m, run.move m stays rests allowed, hosts', ?_, ?_⟩
      · rw [hosts.act allowed, hosts'.yield_recast]
      · rw [Storage.incidentsOf_recast hosts.nested.top]
        exact along.alike (hosts.untold_move move allowed) (hosts.kept_act allowed)

end Runs

end StorageEngine
