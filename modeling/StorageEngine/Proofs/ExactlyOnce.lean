import StorageEngine.Proofs.Ledger

/-!
# Exactly once

Every effect of a step and every move of a client keeps the ledger of calls.  What the storage owes
is then read off the places where requests are: where no call is going on and nothing is inside the
device, the queue is empty, so nothing is owed, and every call that was accepted has been told.

* `Debts.decide`, `Debts.finish`, `Debts.herald`, `Debts.tell` — the four ways forward of a call;
* `Effect.ledger`, `Move.ledger` — steps and moves keep the ledger;
* `Run.ledger` — so does every run;
* `due_of_isIdle` — where everything has come to an end, nothing is owed.
-/

namespace StorageEngine

/-- The calls of a run, with what is owed to them and with their answers. -/
structure Ledger (σ : Standings) (h : History) (s : Storage) : Prop where
  debts : Debts σ h s.due
  answers : Answers σ h.exchange (Task.roots s.stack)

section Moves

variable {σ : Standings} {h i : History} {due due' : (Duty → Bool) → Nat}

/-- What turns into something else is owed. -/
theorem owes_of_change {d : Duty} {rest : List Duty} (other : d ∉ rest)
    (changes : ∀ p, due' p + [d].countP p = due p + rest.countP p) : 0 < due fun q => q = d := by
  have change := changes fun q => q = d
  have none : rest.countP (fun q => q = d) = 0 := by
    rw [List.countP_eq_zero]
    intro q hq same
    exact other (by simpa using (of_decide_eq_true same) ▸ hq)
  rw [none, List.countP_singleton] at change
  simp at change
  omega

theorem Debts.standing_of_owed (debts : Debts σ h due) {d : Duty}
    (owes : 0 < due fun q => q = d) (unheralded : ∀ result, d.standing ≠ .heralded result) :
    d.client ∈ h.clients ∧ σ d.client.code = d.standing := by
  obtain ⟨c, mem, owed⟩ := debts.exists_client owes
  obtain ⟨standing, code, client⟩ := Standing.of_mem_duties owed
  rw [← standing] at client
  rw [client unheralded]
  exact ⟨mem, standing.symm⟩

/-- A request is finished: its caller will be told. -/
theorem Debts.finish (debts : Debts σ h due) (distinct : h.IsDistinct) (r : Request)
    (error : Option Error)
    (changes : ∀ p, due' p + (r.duty .waiting).countP p =
      due p + (r.duty (.finished error)).countP p)
    (clients : i.clients = []) (heard : ∀ c, i.heard c = [])
    (dropped : ∀ code ∈ i.dropped, r.receiver = some (.call code) ∧ error = some .abandoned) :
    ∃ σ', Debts σ' (h ++ i) due' ∧ Keeps σ σ' := by
  unfold Request.duty at changes
  obtain ⟨code, receiver⟩ | ⟨nobody, free⟩ := duty_cases r.receiver
  · simp only [receiver, duty_call] at changes
    obtain ⟨mem, waiting⟩ := debts.standing_of_owed (owes_of_change (by simp) changes) nofun
    have unheard : h.heard ⟨code, r.observer⟩ = [] := by
      simpa [waiting, Standing.Heard] using debts.heard _ mem
    have kept : code ∉ h.dropped := fun lost => by
      simpa [waiting, Standing.Forsaken] using debts.forsaken _ mem lost
    refine ⟨_, debts.move distinct mem (.finished error) ?_ clients ?_ (fun c _ _ => heard c) ?_ ?_,
      fun _ _ answers => answers.move (by simp [waiting]) (by simp [waiting, Standing.Answered])⟩
    · simpa [waiting, Standing.duties] using changes
    · rw [unheard, heard]
      rfl
    · intro lost
      rcases List.mem_append.mp lost with lost | lost
      · exact absurd lost kept
      · exact (dropped code lost).2
    · intro other lost
      simpa [receiver, eq_comm] using (dropped other lost).1
  · have none : i.dropped = [] := List.eq_nil_iff_forall_not_mem.mpr fun code mem =>
      nobody code (dropped code mem).1
    refine ⟨σ, (debts.append clients heard none).congr fun p => ?_, fun _ _ answers => answers⟩
    simpa [free] using changes p

/-- The observer of a finished request hears, if there is one. -/
theorem Debts.herald (debts : Debts σ h due) (distinct : h.IsDistinct) (r : Request)
    (changes : ∀ p, due' p + (r.duty (.finished r.error)).countP p =
      due p + (duty r.receiver none (.heralded r.result)).countP p)
    (claimed : IsClaimed r.receiver r.observer) (record : r.error = none → r.HasRecord)
    (happens : i = (r.observer.map fun o =>
      Incident.invoked (.hook o.code (r.outcome o.shared))).toList) :
    ∃ σ', Debts σ' (h ++ i) due' ∧ Keeps σ σ' := by
  have clients : i.clients = [] := by
    rw [happens]
    cases r.observer <;> rfl
  have dropped : i.dropped = [] := by
    rw [happens]
    cases r.observer <;> rfl
  unfold Request.duty at changes
  obtain ⟨code, receiver⟩ | ⟨nobody, free⟩ := duty_cases r.receiver
  · simp only [receiver, duty_call] at changes
    obtain ⟨mem, finished⟩ := debts.standing_of_owed (owes_of_change (by simp) changes) nofun
    have unheard : h.heard ⟨code, r.observer⟩ = [] := by
      simpa [finished, Standing.Heard] using debts.heard _ mem
    have agrees := Request.outcome_agrees (r := r) (by simp [receiver]) record
    refine ⟨_, debts.move distinct mem (.heralded r.result) ?_ clients ?_ ?_ ?_ (by simp [dropped]),
      fun _ _ answers => answers.move (by simp [finished])
        (by simp [finished, Standing.Answered])⟩
    · simpa [finished, Standing.duties] using changes
    · rw [unheard, happens]
      cases observer : r.observer with
      | none => rfl
      | some o =>
        rw [Option.map_some, Option.toList_some, History.heard_hook, List.nil_append]
        exact ⟨r.outcome o.shared, by simp, rfl, agrees o.shared⟩
    · intro c _ hooks
      rw [happens]
      cases observer : r.observer with
      | none => rfl
      | some o =>
        rw [Option.map_some, Option.toList_some, History.heard_hook, if_neg]
        intro same
        obtain ⟨o', ho', same⟩ := (Option.any_eq_true _ _).mp same
        exact hooks o' ho' o observer (of_decide_eq_true same).symm
    · rw [dropped, List.append_nil]
      intro lost
      have forsaken := debts.forsaken _ mem lost
      rw [finished] at forsaken
      simp only [Standing.Forsaken] at forsaken ⊢
      simp [Request.result, forsaken]
  · have none : r.observer = none := claimed nobody
    rw [none] at happens
    have silent : i = [] := happens
    rw [silent, List.append_nil]
    refine ⟨σ, debts.congr fun p => ?_, fun _ _ answers => answers⟩
    simpa [free] using changes p

/-- The caller of a finished request hears. -/
theorem Debts.tell (debts : Debts σ h due) (distinct : h.IsDistinct) (code : Callback)
    (result : Except Error Payload)
    (changes : ∀ p, due' p + [⟨⟨code, none⟩, .heralded result⟩].countP p = due p) :
    ∃ σ', Debts σ' (h ++ [.invoked (.done code result)]) due' ∧ Keeps σ σ' := by
  have owes : 0 < due fun q => q = ⟨⟨code, none⟩, .heralded result⟩ :=
    owes_of_change List.not_mem_nil (by simpa using changes)
  obtain ⟨c, mem, owed⟩ := debts.exists_client owes
  obtain ⟨heralded, code', -⟩ := Standing.of_mem_duties owed
  obtain rfl : code = c.code := code'
  have before := debts.heard c mem
  rw [← heralded] at before
  refine ⟨_, debts.move distinct mem (.told result) ?_ rfl ?_ ?_ ?_
    (by simp [History.dropped, Incident.dropped?]),
    fun _ _ answers => answers.move (by simp [← heralded])
      (by simp [← heralded, Standing.Answered])⟩
  · simpa [← heralded, Standing.duties] using changes
  · rw [History.heard_done, if_pos rfl]
    exact ⟨_, before, rfl⟩
  · intro c' other _
    rw [History.heard_done, if_neg (Ne.symm other)]
  · intro lost
    have kept : c.code ∈ h.dropped := by simpa [History.dropped, Incident.dropped?] using lost
    have forsaken := debts.forsaken c mem kept
    rw [← heralded] at forsaken
    exact forsaken

/-- A call is decided about. -/
theorem Debts.decide (debts : Debts σ h due) (distinct : h.IsDistinct) {c : Client}
    (standing : Standing) (owes : 0 < due fun q => q = ⟨c, .asking⟩)
    (heard : ∀ l, standing.Heard c l ↔ l = [])
    (changes : ∀ p, due' p + [⟨c, .asking⟩].countP p = due p + (standing.duties c).countP p) :
    Debts (Function.update σ c.code standing) h due' := by
  obtain ⟨mem, asking⟩ := debts.standing_of_owed owes nofun
  have unheard : h.heard c = [] := by
    simpa [asking, Standing.Heard] using debts.heard c mem
  have kept : c.code ∉ h.dropped := fun lost => by
    simpa [asking, Standing.Forsaken] using debts.forsaken c mem lost
  have moved := debts.move (i := []) distinct mem standing
    (by simpa only [asking, Standing.duties] using changes) rfl
    (by rw [unheard]; exact (heard _).mpr rfl) (fun _ _ _ => rfl)
    (fun lost => absurd (by simpa [History.dropped] using lost) kept) (by simp [History.dropped])
  rwa [List.append_nil] at moved

end Moves

/-- What no call hears of keeps the ledger. -/
theorem Ledger.append {σ : Standings} {h i : History} {s : Storage} (ledger : Ledger σ h s)
    (silent : i.IsSilent) : Ledger σ (h ++ i) s where
  debts := ledger.debts.append silent.clients silent.heard silent.dropped
  answers := silent.exchange h ▸ ledger.answers

section Calls

variable {σ : Standings} {h i : History} {s s' : Storage} {t t' : Task} {rest : List Task}

/-- A call that goes on keeps the ledger. -/
theorem CallStep.goOn (call : CallStep s s' t t' rest) (ledger : Ledger σ h s)
    (silent : i.IsSilent) (due : ∀ p, s'.due p = s.due p) (same : t'.duties = t.duties) :
    Ledger σ (h ++ i) s' := by
  obtain ⟨debts, answers⟩ := ledger
  refine ⟨(debts.append silent.clients silent.heard silent.dropped).congr due, ?_⟩
  rw [call.before] at answers
  rw [silent.exchange, call.after]
  cases inner : Task.awaits rest with
  | true =>
    rw [Task.roots_inner inner] at answers ⊢
    exact answers
  | false =>
    rw [Task.roots_outer call.call inner] at answers
    rw [Task.roots_outer call.call' inner]
    exact answers.goOn call.unanswered same

/-- A call that is decided about keeps the ledger. -/
theorem CallStep.decide {reply : Reply} (call : CallStep s s' t (.answer reply) rest)
    (ledger : Ledger σ h s) (distinct : h.IsDistinct) (silent : i.IsSilent) (standing : Standing)
    (answered : standing.Answered reply) (heard : ∀ c l, standing.Heard c l ↔ l = [])
    (due : ∀ p, s'.due p + t.duties.countP p =
      s.due p + (t.duties.flatMap fun d => standing.duties d.client).countP p) :
    ∃ σ', Ledger σ' (h ++ i) s' := by
  obtain free | ⟨c, asks⟩ := Task.duties_of_isCall call.call call.unanswered
  · exact ⟨σ, call.goOn ledger silent (fun p => by simpa [free] using due p) free.symm⟩
  · obtain ⟨debts, answers⟩ := ledger
    have outer : Task.awaits rest = false := by
      by_contra inner
      simpa [asks] using call.inner (by simpa using inner)
    rw [call.before, Task.roots_outer call.call outer] at answers
    have changes : ∀ p, s'.due p + [⟨c, .asking⟩].countP p =
        s.due p + (standing.duties c).countP p := by
      simpa [asks] using due
    have settles : (⟨c, .asking⟩ : Duty) ∉ standing.duties c := by
      cases standing <;> simp_all [Standing.duties, Standing.Answered]
    have moved := debts.decide distinct standing (owes_of_change settles changes) (heard c) changes
    refine ⟨_, moved.append silent.clients silent.heard silent.dropped, ?_⟩
    rw [silent.exchange, call.after, Task.roots_outer rfl outer]
    exact answers.answer distinct.exchange call.unanswered asks answered

end Calls

/-- An effect of a step keeps the ledger. -/
theorem Effect.ledger {σ : Standings} {h i : History} {s s' : Storage} (e : Effect s i s')
    (ledger : Ledger σ h s) (distinct : h.IsDistinct) : ∃ σ', Ledger σ' (h ++ i) s' := by
  cases e with
  | goesOn silent due call same => exact ⟨σ, call.goOn ledger silent due same⟩
  | accepted silent call due =>
    refine call.decide ledger distinct silent .waiting rfl (fun _ _ => Iff.rfl) fun p => ?_
    rw [due p, List.map_eq_flatMap]
    rfl
  | @refused silent t rest e call due =>
    have nothing : t.duties.flatMap (fun d => Standing.refused.duties d.client) = [] :=
      List.flatMap_eq_nil_iff.mpr fun _ _ => rfl
    refine call.decide ledger distinct silent .refused ⟨_, rfl⟩ (fun _ _ => Iff.rfl) fun p => ?_
    rw [due p, nothing]
    rfl
  | nothing silent due roots =>
    obtain ⟨debts, answers⟩ := ledger
    refine ⟨σ, (debts.append silent.clients silent.heard silent.dropped).congr due, ?_⟩
    rw [silent.exchange, roots]
    exact answers
  | finished silent r error due roots =>
    obtain ⟨debts, answers⟩ := ledger
    obtain ⟨σ', debts', keeps⟩ := debts.finish distinct r error due silent.clients silent.heard
      (by simp [silent.dropped])
    refine ⟨σ', debts', ?_⟩
    rw [silent.exchange, roots]
    exact keeps _ _ answers
  | heralded r heard due roots claimed record =>
    obtain ⟨debts, answers⟩ := ledger
    obtain ⟨σ', debts', keeps⟩ := debts.herald distinct r due claimed record heard
    refine ⟨σ', debts', ?_⟩
    rw [roots]
    have same : (h ++ i).exchange = h.exchange := by
      rw [heard, History.exchange_append]
      cases r.observer <;> rfl
    rw [same]
    exact keeps _ _ answers
  | told r code receiver heard due roots =>
    obtain ⟨debts, answers⟩ := ledger
    rw [receiver] at due
    obtain ⟨σ', debts', keeps⟩ := debts.tell distinct code r.result due
    rw [heard]
    refine ⟨σ', debts', ?_⟩
    rw [roots, History.exchange_append]
    exact keeps _ _ answers

section Moves

variable {σ : Standings} {h i : History} {s s' : Storage} {a : Action}

/-- A call is made. -/
theorem Debts.call {due due' : (Duty → Bool) → Nat} (debts : Debts σ h due) {c : Client}
    (new : h.IsNew c) (standing : Standing) (clients : i.clients = [c])
    (heard : standing.Heard c (i.heard c))
    (others : ∀ c', c'.code ≠ c.code → i.heard c' = [])
    (dropped : i.dropped = [])
    (owes : ∀ p, due' p = due p + (standing.duties c).countP p) :
    Debts (Function.update σ c.code standing) (h ++ i) due' := by
  obtain ⟨unheard, kept⟩ := debts.unknown c new
  have earlier (c' : Client) (mem : c' ∈ h.clients) :
      Function.update σ c.code standing c'.code = σ c'.code :=
    Function.update_of_ne (new.callback c' mem) _ _
  constructor
  · intro p
    have same : (h.clients.flatMap fun d => (Function.update σ c.code standing d.code).duties d) =
        h.clients.flatMap fun d => (σ d.code).duties d :=
      List.flatMap_congr fun d mem => by rw [earlier d mem]
    rw [History.clients_append, clients, List.flatMap_append, same, List.countP_append, owes,
      debts.owed]
    simp
  · rw [History.clients_append, clients]
    refine List.forall_mem_append.mpr ⟨fun c' mem => ?_, ?_⟩
    · rw [earlier c' mem, History.heard_append, others c' (new.callback c' mem), List.append_nil]
      exact debts.heard c' mem
    · simpa [unheard] using heard
  · rw [History.clients_append, clients, History.dropped_append, dropped, List.append_nil]
    refine List.forall_mem_append.mpr ⟨fun c' mem lost => ?_, ?_⟩
    · rw [earlier c' mem]
      exact debts.forsaken c' mem lost
    · simpa using fun lost => absurd lost kept
  · intro c' new'
    obtain ⟨unheard', kept'⟩ := debts.unknown c' new'.of_append
    have other : c'.code ≠ c.code := (new'.callback c (by simp [clients])).symm
    rw [History.heard_append, unheard', others c' other, History.dropped_append, dropped,
      List.append_nil, List.append_nil]
    exact ⟨rfl, kept'⟩

/-- A move that is no call waits for its answer. -/
theorem Ledger.ask (ledger : Ledger σ h s) (noCall : a.client? = none) {t : Task}
    (free : t.duties = []) (due : ∀ p, s'.due p = s.due p)
    (roots : Task.roots s'.stack = t :: Task.roots s.stack) : Ledger σ (h ++ [.asked a]) s' := by
  have clients : History.clients [.asked a] = [] := by
    simp [History.clients, Incident.client?, noCall]
  refine ⟨(ledger.debts.append clients (fun _ => rfl) rfl).congr due, ?_⟩
  rw [roots, History.exchange_append]
  exact ledger.answers.ask (by simpa [Stands, noCall] using free)

/-- A move that finishes a request waits for its answer. -/
theorem Ledger.finish (ledger : Ledger σ h s) (distinct : h.IsDistinct) (noCall : a.client? = none)
    (lost : History) (r : Request) (error : Option Error)
    (lets : lost = [] ∨ lost = [.abandoned r] ∧ error = some .abandoned) {t : Task}
    (free : t.duties = [])
    (due : ∀ p, s'.due p + (r.duty .waiting).countP p =
      s.due p + (r.duty (.finished error)).countP p)
    (roots : Task.roots s'.stack = t :: Task.roots s.stack) :
    ∃ σ', Ledger σ' (h ++ .asked a :: lost) s' := by
  have clients : History.clients (.asked a :: lost) = [] := by
    obtain rfl | ⟨rfl, -⟩ := lets <;> simp [History.clients, Incident.client?, noCall]
  have heard (c : Client) : History.heard (.asked a :: lost) c = [] := by
    obtain rfl | ⟨rfl, -⟩ := lets <;> rfl
  have dropped : ∀ code ∈ History.dropped (.asked a :: lost),
      r.receiver = some (.call code) ∧ error = some .abandoned := by
    obtain rfl | ⟨rfl, rfl⟩ := lets
    · simp [History.dropped, Incident.dropped?]
    · intro code mem
      cases receiver : r.receiver with
      | none => simp [History.dropped, Incident.dropped?, receiver] at mem
      | some receiver' =>
        cases receiver' <;> simp_all [History.dropped, Incident.dropped?]
  obtain ⟨σ', debts, keeps⟩ := ledger.debts.finish distinct r error due clients heard dropped
  have exchange : (h ++ .asked a :: lost).exchange = h.exchange.record (.asked a) := by
    rw [History.exchange_append]
    obtain rfl | ⟨rfl, -⟩ := lets <;> rfl
  refine ⟨σ', debts, ?_⟩
  rw [roots, exchange]
  exact (keeps _ _ ledger.answers).ask (by simpa [Stands, noCall] using free)

/-- A call waits for its answer. -/
theorem Ledger.call (ledger : Ledger σ h s) {c : Client} (call : a.client? = some c)
    (new : h.IsNew c) {t : Task} (asks : t.duties = [⟨c, .asking⟩])
    (due : ∀ p, s'.due p = s.due p + [⟨c, .asking⟩].countP p)
    (roots : Task.roots s'.stack = t :: Task.roots s.stack) :
    Ledger (Function.update σ c.code .asking) (h ++ [.asked a]) s' := by
  have clients : History.clients [.asked a] = [c] := by
    simp [History.clients, Incident.client?, call]
  refine ⟨ledger.debts.call new .asking clients rfl (fun _ _ => rfl) rfl due, ?_⟩
  rw [roots, History.exchange_append]
  refine (ledger.answers.update fun d mem => ?_).ask ?_
  · exact new.callback d (h.exchange_perm.mem_iff.mp mem)
  · simp [Stands, call, asks]

/-- An opening that is not needed has called back when it is answered. -/
theorem Ledger.callBack {code : Callback} (ledger : Ledger σ h s) (new : h.IsNew ⟨code, none⟩)
    (due : ∀ p, s'.due p = s.due p)
    (roots : Task.roots s'.stack = .answer (.done (.ok ())) :: Task.roots s.stack) :
    Ledger (Function.update σ code (.told (.ok .unit)))
      (h ++ [.asked (.call .opening (some (.call code)) none), .invoked (.done code (.ok .unit))])
      s' := by
  have heard (c : Client) :
      History.heard [.asked (.call .opening (some (.call code)) none),
        .invoked (.done code (.ok .unit))] c =
      History.heard [.invoked (.done code (.ok .unit))] c :=
    rfl
  refine ⟨?_, ?_⟩
  · refine ledger.debts.call (c := ⟨code, none⟩) new (.told (.ok .unit)) rfl ?_ ?_ rfl due
    · rw [heard, History.heard_done, if_pos rfl]
      exact ⟨[], rfl, rfl⟩
    · intro c other
      rw [heard, History.heard_done, if_neg (Ne.symm other)]
  · rw [roots, History.exchange_append]
    refine (ledger.answers.update (c := ⟨code, none⟩) fun d mem => ?_).ask ?_
    · exact new.callback d (h.exchange_perm.mem_iff.mp mem)
    · simp [Stands, Action.client?, Standing.Answered]

attribute [local simp] Task.roots Task.isCall Task.isAwait Task.duties Request.duty Storage.due
  Storage.duties List.countP_cons

theorem Move.ledger (m : Move s a i s') (ledger : Ledger σ h s) (distinct : h.IsDistinct)
    (custody : s.Custody) (nested : s.Nested) (tells : s.Tells) (turn : s.isAtRest)
    (steadfast : Rule.steadfast h s a) : ∃ σ', Ledger σ' (h ++ i) s' := by
  obtain ⟨orderly, noShift, -, fresh⟩ := steadfast
  have unique := Storage.countP_outside_le custody.unique
  have top := nested.top
  cases m with
  | calledBack code =>
    obtain ⟨_, same, new⟩ := fresh _ _ _ rfl
    obtain rfl := Receiver.call.inj (Option.some.inj same)
    exact ⟨_, ledger.callBack new (fun _ => rfl) (by simp [top])⟩
  | answeredAtOnce receiver kept nobody =>
    obtain ⟨code, rfl, -⟩ := fresh _ _ _ rfl
    exact absurd rfl (nobody code)
  | ordered op receiver observer =>
    obtain ⟨code, rfl, new⟩ := fresh _ _ _ rfl
    exact ⟨_, ledger.call (t := .submit (op.order (some (.call code)) observer)) rfl new (by simp)
      (fun p => by simp [Nat.add_assoc]) (by simp [top])⟩
  | orderedDestruction receiver observer =>
    obtain ⟨code, rfl, new⟩ := fresh _ _ _ rfl
    exact ⟨_, ledger.call
      (t := .awaitClosing (Operation.destroying.order (some (.call code)) observer)) rfl new
      (by simp) (fun p => by simp [Nat.add_assoc]) (by simp [top])⟩
  | promisedAtOnce | promised | promisedDestruction =>
    exact ⟨σ, ledger.ask (t := .awaitCall s.nextPromise) rfl rfl (by simp) (by simp [top])⟩
  | aside a reply emitter allocator kept owned noCall =>
    exact ⟨σ, ledger.ask (Action.client?_eq_none noCall) (t := .answer reply) rfl (by simp)
      (by simp [top])⟩
  | @discarded a id r found reply _ letGo noCall =>
    have nobody : r.receiver = none := by
      refine (tells.outside r (List.mem_of_find?_eq_some found)).alone ?_
      rcases letGo with notRunning | dead
      · exact notRunning
      · simp [orderly.1] at dead
    obtain ⟨before, after, split, taken, -⟩ := Storage.outside_eq_of_find? (unique _) found
    exact ⟨σ, ledger.ask (Action.client?_eq_none noCall) (t := .answer reply) rfl
      (by simp [split, taken, nobody]) (by simp [top])⟩
  | made =>
    exact ⟨σ, ledger.ask rfl (t := .answer (.made (.ok s.nextId))) rfl (by simp) (by simp [top])⟩
  | @pushed id r found room =>
    obtain ⟨before, after, split, taken, -⟩ := Storage.outside_eq_of_find? (unique _) found
    have asked : Ledger σ (h ++ [.asked (.push id)]) { s with
        outside := (s.take id).outside
        queue := s.queue ++ [r.queued]
        stack := .drain :: .answer (.length (.ok (s.queue.length + 1))) :: s.stack } := by
      refine ledger.ask rfl (t := .answer (.length (.ok (s.queue.length + 1)))) rfl
        (fun p => ?_) (by simp [top])
      simp [split, taken]
      omega
    refine ⟨σ, ?_⟩
    simpa using asked.append (i := [.admitted r]) (by simp [History.IsSilent, Incident.isSilent])
  | edited id e =>
    have same (q : Request) : (if q.id = id then e.apply q else q).receiver = q.receiver ∧
        (if q.id = id then e.apply q else q).observer = q.observer := by
      split <;> simp
    exact ⟨σ, ledger.ask rfl (t := .answer .unit) rfl (by simp [List.flatMap_map, same])
      (by simp [top])⟩
  | announced notice emitter d n =>
    exact ⟨σ, ledger.ask rfl (t := .answer (.count n)) rfl (by simp) (by simp [top])⟩
  | @completed id r found v =>
    obtain ⟨before, after, split, taken, -⟩ := Storage.outside_eq_of_find? (unique _) found
    refine ledger.finish distinct rfl [] r ((r.fill v).recorded ((r.fill v).resultOf v)).error
      (.inl rfl) (t := .answer .unit) rfl (fun p => ?_) (by simp [top])
    simp [split, taken]
    omega
  | @abandoned id r found inside =>
    obtain ⟨before, after, split, taken, -⟩ := Storage.outside_eq_of_find? (unique _) found
    refine ledger.finish distinct rfl [.abandoned r] r (some .abandoned)
      (.inr ⟨rfl, rfl⟩) (t := .answer .unit) rfl (fun p => ?_) (by simp [top])
    simp [split, taken]
    omega
  | @left code rest stack =>
    refine ⟨σ, ?_⟩
    rw [List.append_nil]
    exact ⟨ledger.debts.congr (by simp [stack]), by simpa [stack] using ledger.answers⟩
  | @collected reply rest stack =>
    refine ⟨σ, (ledger.debts.append rfl (fun _ => rfl) rfl).congr (by simp [stack]), ?_⟩
    have answers := ledger.answers
    rw [stack, Task.roots_outer rfl (nested.awaits_eq_false turn stack)] at answers
    rw [History.exchange_append]
    exact answers.collect
  | idle =>
    refine ⟨σ, ?_⟩
    rwa [List.append_nil]
  | shifted => simp at noShift
  | pushAbandoned found e inside => exact absurd inside (orderly.2 _ _ rfl found)

end Moves

section Run

variable {start : Storage} {h : History} {s : Storage}

/-- Every run keeps the ledger of its calls. -/
theorem Run.ledger (custody : start.Custody) (nested : start.Nested) (tells : start.Tells)
    (owned : start.owned = true) {σ : Standings} (initial : Ledger σ [] start)
    (run : Run Rule.steadfast start h s) : ∃ σ, Ledger σ h s := by
  refine run.invariant (motive := fun h s => ∃ σ, Ledger σ h s) ⟨σ, initial⟩ ?_ ?_
  · intro h s i s' run inv t
    obtain ⟨σ, ledger⟩ := inv
    exact (t.effect (run.owned owned) (run.nested nested) (run.tells tells)).ledger ledger
      run.distinct
  · intro h s a i s' run inv turn steadfast m
    obtain ⟨σ, ledger⟩ := inv
    exact m.ledger ledger run.distinct (run.custody custody) (run.nested nested) (run.tells tells)
      turn steadfast

end Run

section Create

variable (capabilities : Capabilities) (limits : Limits) (allocator : Allocator)

theorem ledger_create :
    Ledger (fun _ => .refused) [] (Storage.create capabilities limits allocator) where
  debts := by
    constructor <;>
      simp [Storage.due, Storage.duties, History.clients, History.heard, History.dropped]
  answers := by
    constructor <;> simp [History.exchange, Task.roots]

end Create

theorem Run.ledger_of_create {capabilities : Capabilities} {limits : Limits}
    {allocator : Allocator} {h : History} {s : Storage}
    (run : Run Rule.steadfast (Storage.create capabilities limits allocator) h s) :
    ∃ σ, Ledger σ h s :=
  run.ledger (Storage.custody_create ..) (Storage.nested_create ..) (Storage.tells_create ..) rfl
    (ledger_create ..)

/-- Where no call is going on and nothing is inside the device, nothing is owed. -/
theorem due_of_isIdle {h : History} {s : Storage} (books : Accounts h s) (wakeful : Wakeful h s)
    (tells : s.Tells) (idle : s.isIdle) (finished : s.pending = 0) (p : Duty → Bool) :
    s.due p = 0 := by
  have queue : s.queue = [] := by
    by_contra nonempty
    exact absurd (wakeful.pending_pos books idle nonempty) (by omega)
  have outside : s.outside.flatMap (·.duty .waiting) = [] := by
    have none := books.pending_of_isIdle idle
    rw [finished, eq_comm, List.length_eq_zero_iff, List.filter_eq_nil_iff] at none
    rw [List.flatMap_eq_nil_iff]
    intro r held
    have alone := (tells.outside r held).alone (by simpa using none r held)
    simp [Request.duty, alone]
  have stack : s.stack.flatMap (·.duties) = [] := flatMap_stack_eq_nil idle fun _ => rfl
  simp [Storage.due, Storage.duties, queue, outside, stack]

/-- What a call that has returned has heard, and that it has heard it all once nothing is due. -/
theorem Ledger.told {σ : Standings} {h : History} {s : Storage} (ledger : Ledger σ h s)
    {op : Operation} {code : Callback} {observer : Option Observer} {reply : Reply}
    (ended : (.call op (some (.call code)) observer, reply) ∈ h.exchange.ended) :
    (∃ e, reply = .done (.error e) ∧ h.heard ⟨code, observer⟩ = []) ∨
    (reply = .done (.ok ()) ∧ ∃ result telling,
      Client.IsTold ⟨code, observer⟩ result telling ∧
      h.heard ⟨code, observer⟩ <+: telling ∧
      (code ∈ h.dropped → result = .error .abandoned) ∧
      ((∀ p, s.due p = 0) → h.heard ⟨code, observer⟩ = telling)) := by
  obtain ⟨debts, answers⟩ := ledger
  have mem : ⟨code, observer⟩ ∈ h.clients := by
    rw [← h.exchange_perm.mem_iff]
    exact List.mem_append_right _ (List.mem_filterMap.mpr ⟨_, ended, rfl⟩)
  have answered : (σ code).Answered reply := answers.ended _ ended _ rfl
  have heard := debts.heard _ mem
  have forsaken := debts.forsaken _ mem
  -- Where nothing is due, no call is under way.
  have paid (nothing : ∀ p, s.due p = 0) : (σ code).duties ⟨code, observer⟩ = [] := by
    have owed := debts.owed fun _ => true
    rw [nothing, List.countP_true, eq_comm, List.length_eq_zero_iff, List.flatMap_eq_nil_iff]
      at owed
    exact owed _ mem
  obtain refused | ⟨accepted, result, telling, told, soFar, dropped, all⟩ :=
    Standing.told_or_refused answered heard
  · exact .inl refused
  · exact .inr ⟨accepted, result, telling, told, soFar, fun lost => dropped (forsaken lost),
      fun nothing => all (paid nothing)⟩

theorem Run.due_eq_zero {capabilities : Capabilities} {limits : Limits} {allocator : Allocator}
    {h : History} {s : Storage}
    (run : Run Rule.steadfast (Storage.create capabilities limits allocator) h s)
    (idle : s.isIdle) (finished : s.pending = 0) (p : Duty → Bool) : s.due p = 0 := by
  have orderly := run.mono fun _ _ _ steadfast => steadfast.1
  exact due_of_isIdle orderly.accounts_of_create orderly.wakeful_of_create
    (run.tells (Storage.tells_create ..)) idle finished p

/-- **Exactly once.**  A call that was refused never hears anything.  A call that was accepted hears
its hook, if it has one, and then its callback, once each and about the same outcome; if the device
lets go of its request, that it was abandoned.  Where no call is going on and nothing is inside the
device, it has heard it all. -/
theorem Run.exactly_once {capabilities : Capabilities} {limits : Limits} {allocator : Allocator}
    {h : History} {s : Storage}
    (run : Run Rule.steadfast (Storage.create capabilities limits allocator) h s)
    {op : Operation} {code : Callback} {observer : Option Observer} {reply : Reply}
    (ended : (.call op (some (.call code)) observer, reply) ∈ h.exchange.ended) :
    (∃ e, reply = .done (.error e) ∧ h.heard ⟨code, observer⟩ = []) ∨
    (reply = .done (.ok ()) ∧ ∃ result telling,
      Client.IsTold ⟨code, observer⟩ result telling ∧
      h.heard ⟨code, observer⟩ <+: telling ∧
      (code ∈ h.dropped → result = .error .abandoned) ∧
      (s.isIdle → s.pending = 0 → h.heard ⟨code, observer⟩ = telling)) := by
  obtain ⟨σ, ledger⟩ := run.ledger_of_create
  obtain refused | ⟨accepted, result, telling, told, soFar, dropped, all⟩ := ledger.told ended
  · exact .inl refused
  · exact .inr ⟨accepted, result, telling, told, soFar, dropped,
      fun idle finished => all (run.due_eq_zero idle finished)⟩

/-- An opening that the device finishes: its hook and its callback have heard. -/
theorem Run.exactly_once_opening :
    ∃ h s, Run Rule.steadfast (Storage.create .readWrite) h s ∧ s.isIdle ∧ s.pending = 0 ∧
      ∃ result telling, Client.IsTold ⟨1, some ⟨2, ""⟩⟩ result telling ∧
        h.heard ⟨1, some ⟨2, ""⟩⟩ = telling := by
  have fresh : Run Rule.steadfast (Storage.create .readWrite) [] _ := .start
  have asked := fresh.move (.call .opening (some (.call 1)) (some ⟨2, ""⟩)) rfl
    ⟨⟨rfl, by simp⟩, by simp, by simp, by simp [History.clients, History.isNew_iff]⟩
  have inside := (((asked.step rfl).step rfl).step rfl).step rfl
  have left := (inside.move .leave rfl ⟨⟨rfl, by simp⟩, by simp⟩).step rfl
  have returned := left.move .collect rfl ⟨⟨rfl, by simp⟩, by simp⟩
  have completed := returned.move (.complete 1 { result := .ok none }) rfl
    ⟨⟨rfl, by simp⟩, by simp⟩
  have hooked := (((completed.step rfl).step rfl).step rfl).step rfl
  have called := (hooked.move .leave rfl ⟨⟨rfl, by simp⟩, by simp⟩).step rfl
  have released := called.move .leave rfl ⟨⟨rfl, by simp⟩, by simp⟩
  have finished := (((released.step rfl).step rfl).step rfl).step rfl
  have run := finished.move .collect rfl ⟨⟨rfl, by simp⟩, by simp⟩
  have ended := Run.exactly_once run (by decide :
    (.call .opening (some (.call 1)) (some ⟨2, ""⟩), .done (.ok ())) ∈ (History.exchange _).ended)
  refine ⟨_, _, run, by decide, by decide, ?_⟩
  obtain ⟨e, refused, -⟩ | ⟨-, result, telling, told, -, -, all⟩ := ended
  · exact absurd refused (by simp)
  · exact ⟨result, telling, told, all (by decide) (by decide)⟩

end StorageEngine
