import Mathlib.Logic.Function.Basic
import StorageEngine.Proofs.Duties

/-!
# The ledger of calls

The ledger gives every call its standing.  `Debts` says that the storage owes what the standings
say, no more and no less, and that every client has heard what its standing says.  `Answers` says
that the calls without an answer are those that the stack stands for, and that every answer fits the
standing of its call.

Every effect of a step moves at most one standing, and always forwards: from asking to refused, or
from asking through waiting, finished and heralded to told.

* `countP_duties_update`, `Debts.move` — moving one standing changes what is owed to one client;
* `Answers.answer`, `Answers.ask`, `Answers.collect` — a move is made, decided about, and ends;
* `History.exchange_perm` — the calls that were made are those with and those without an answer.
-/

namespace StorageEngine

/-- The standings of the calls, by their callbacks. -/
abbrev Standings := Callback → Standing

/-- What is owed, and what was heard. -/
structure Debts (σ : Standings) (h : History) (due : (Duty → Bool) → Nat) : Prop where
  owed : ∀ p, due p = (h.clients.flatMap fun c => (σ c.code).duties c).countP p
  heard : ∀ c ∈ h.clients, (σ c.code).Heard c (h.heard c)
  forsaken : ∀ c ∈ h.clients, c.code ∈ h.dropped → (σ c.code).Forsaken
  unknown : ∀ c, h.IsNew c → h.heard c = [] ∧ c.code ∉ h.dropped

/-- The task that stands for a move: it owes what the move asks for, or it is its answer. -/
def Stands (σ : Standings) (a : Action) (t : Task) : Prop :=
  match a.client? with
  | none => t.duties = []
  | some c =>
    σ c.code = .asking ∧ t.duties = [⟨c, .asking⟩] ∨
      ∃ reply, t = .answer reply ∧ (σ c.code).Answered reply

/-- The moves without an answer, and those with one. -/
structure Answers (σ : Standings) (x : Exchange) (roots : List Task) : Prop where
  waiting : List.Forall₂ (Stands σ) x.waiting roots
  ended : ∀ e ∈ x.ended, ∀ c ∈ e.1.client?, (σ c.code).Answered e.2

/-- Answers that fitted the standings before fit those after. -/
def Keeps (σ σ' : Standings) : Prop :=
  ∀ x roots, Answers σ x roots → Answers σ' x roots

/-- The calls among the moves of an exchange. -/
def Exchange.clients (x : Exchange) : List Client :=
  x.waiting.filterMap Action.client? ++ x.ended.filterMap fun e => e.1.client?

namespace History

/-- What no call hears of leaves every reading of the history alone that listens to calls only. -/
theorem IsSilent.filterMap_eq_nil {α : Type} {i : History} (silent : i.IsSilent)
    {read : Incident → Option α} (deaf : ∀ x : Incident, x.isSilent → read x = none) :
    i.filterMap read = [] :=
  List.filterMap_eq_nil_iff.mpr fun x hx => deaf x (silent x hx)

theorem IsSilent.clients {i : History} (silent : i.IsSilent) : i.clients = [] :=
  silent.filterMap_eq_nil fun x hx => by
    cases x <;> first | rfl | simp [Incident.isSilent] at hx

theorem IsSilent.dropped {i : History} (silent : i.IsSilent) : i.dropped = [] :=
  silent.filterMap_eq_nil fun x hx => by
    cases x <;> first | rfl | simp [Incident.isSilent] at hx

theorem IsSilent.heard {i : History} (silent : i.IsSilent) (c : Client) : i.heard c = [] :=
  silent.filterMap_eq_nil fun x hx => by
    cases x with
    | invoked code => cases code <;> first | rfl | simp [Incident.isSilent] at hx
    | _ => rfl

theorem IsSilent.foldl_record {i : History} (silent : i.IsSilent) (x : Exchange) :
    i.foldl Exchange.record x = x := by
  induction i generalizing x with
  | nil => rfl
  | cons incident i ih =>
    obtain ⟨now, later⟩ := List.forall_mem_cons.mp silent
    rw [List.foldl_cons, ih later]
    cases incident <;> first | rfl | simp [Incident.isSilent] at now

theorem IsSilent.exchange {i : History} (silent : i.IsSilent) (h : History) :
    (h ++ i).exchange = h.exchange := by
  rw [exchange_append, silent.foldl_record]

theorem foldl_record_perm (h : History) (x : Exchange) :
    (h.foldl Exchange.record x).clients.Perm (x.clients ++ h.clients) := by
  induction h generalizing x with
  | nil => simp [clients]
  | cons incident h ih =>
    refine (ih (x.record incident)).trans ?_
    cases incident with
    | asked a =>
      cases client : a.client? with
      | none => simp [Exchange.record, Exchange.clients, clients, Incident.client?, client]
      | some c =>
        simp only [Exchange.record, Exchange.clients, clients, Incident.client?, client,
          List.filterMap_cons, List.cons_append]
        exact List.perm_middle.symm
    | answered reply =>
      cases waiting : x.waiting with
      | nil =>
        have same : x.record (.answered reply) = x := by simp [Exchange.record, waiting]
        rw [same]
        exact .refl _
      | cons a outer =>
        simp only [Exchange.record, Exchange.clients, clients, Incident.client?, waiting,
          List.filterMap_append, List.filterMap_cons, List.filterMap_nil]
        refine List.Perm.append_right _ ?_
        cases a.client? with
        | none => simp
        | some c =>
          rw [← List.append_assoc]
          exact List.perm_append_singleton c _
    | _ => exact .refl _

/-- The calls of a history, with and without answers. -/
theorem exchange_perm (h : History) : h.exchange.clients.Perm h.clients :=
  foldl_record_perm h {}

end History

theorem History.IsDistinct.exchange {h : History} (distinct : h.IsDistinct) :
    (h.exchange.clients.map (·.code)).Nodup :=
  (h.exchange_perm.map _).nodup_iff.mpr distinct.codes

/-- Moving one standing changes what is owed to its client only. -/
theorem countP_duties_update {clients : List Client} (codes : (clients.map (·.code)).Nodup)
    {c : Client} (mem : c ∈ clients) (σ : Standings) (standing : Standing) (p : Duty → Bool) :
    (clients.flatMap fun d => (Function.update σ c.code standing d.code).duties d).countP p +
        ((σ c.code).duties c).countP p =
      (clients.flatMap fun d => (σ d.code).duties d).countP p + (standing.duties c).countP p := by
  induction clients with
  | nil => simp at mem
  | cons d rest ih =>
    obtain ⟨fresh, codes⟩ := List.nodup_cons.mp codes
    simp only [List.flatMap_cons, List.countP_append]
    rcases List.mem_cons.mp mem with rfl | mem
    · -- The others have other callbacks.
      have others : (rest.flatMap fun d => (Function.update σ c.code standing d.code).duties d) =
          rest.flatMap fun d => (σ d.code).duties d := by
        refine List.flatMap_congr fun d hd => ?_
        have other : d.code ≠ c.code := fun same =>
          fresh (List.mem_map.mpr ⟨d, hd, same⟩)
        rw [Function.update_of_ne other]
      rw [others, Function.update_self]
      omega
    · have other : d.code ≠ c.code := fun same =>
        fresh (List.mem_map.mpr ⟨c, mem, same.symm⟩)
      have := ih codes mem
      rw [Function.update_of_ne other]
      omega

theorem Standing.of_mem_duties {standing : Standing} {c : Client} {d : Duty}
    (owed : d ∈ standing.duties c) :
    d.standing = standing ∧ d.client.code = c.code ∧
      ((∀ result, standing ≠ .heralded result) → d.client = c) := by
  cases standing <;> simp_all [Standing.duties]

section Debts

variable {σ : Standings} {h i : History} {due due' : (Duty → Bool) → Nat}

theorem Debts.congr (debts : Debts σ h due) (same : ∀ p, due' p = due p) : Debts σ h due' :=
  (funext same : due' = due) ▸ debts

/-- Whatever is owed, is owed to a call. -/
theorem Debts.exists_client (debts : Debts σ h due) {d : Duty} (owes : 0 < due fun q => q = d) :
    ∃ c ∈ h.clients, d ∈ (σ c.code).duties c := by
  rw [debts.owed, List.countP_pos_iff] at owes
  obtain ⟨q, owed, same⟩ := owes
  obtain rfl : q = d := by simpa using same
  simpa using owed

/-- Incidents that are nothing to the calls leave the debts alone. -/
theorem Debts.append (debts : Debts σ h due) (clients : i.clients = [])
    (heard : ∀ c, i.heard c = []) (dropped : i.dropped = []) : Debts σ (h ++ i) due where
  owed := by simpa [clients] using debts.owed
  heard := by simpa [clients, heard] using debts.heard
  forsaken := by simpa [clients, dropped] using debts.forsaken
  unknown c new := by simpa [heard, dropped] using debts.unknown c new.of_append

/-- One call moves on. -/
theorem Debts.move (debts : Debts σ h due) (distinct : h.IsDistinct) {c : Client}
    (mem : c ∈ h.clients) (standing : Standing)
    (changes : ∀ p, due' p + ((σ c.code).duties c).countP p = due p + (standing.duties c).countP p)
    (clients : i.clients = []) (heard : standing.Heard c (h.heard c ++ i.heard c))
    (others : ∀ c', c'.code ≠ c.code → (∀ o' ∈ c'.observer, ∀ o ∈ c.observer, o.code ≠ o'.code) →
      i.heard c' = [])
    (forsaken : c.code ∈ h.dropped ++ i.dropped → standing.Forsaken)
    (dropped : ∀ code ∈ i.dropped, code = c.code) :
    Debts (Function.update σ c.code standing) (h ++ i) due' := by
  have apart : ∀ c' ∈ h.clients, c' ≠ c → c'.code ≠ c.code ∧ i.heard c' = [] := by
    intro c' mem' other
    have code : c'.code ≠ c.code := fun same => other (distinct.eq_of_code mem' mem same)
    exact ⟨code, others c' code fun o' ho' o ho same =>
      other (distinct.hooks c mem c' mem' o ho o' ho' same).symm⟩
  constructor
  · intro p
    have moved := countP_duties_update distinct.codes mem σ standing p
    have before := debts.owed p
    have change := changes p
    rw [History.clients_append, clients, List.append_nil]
    omega
  · rw [History.clients_append, clients, List.append_nil]
    intro c' mem'
    rw [History.heard_append]
    by_cases same : c' = c
    · rw [same, Function.update_self]
      exact heard
    · obtain ⟨code, silent⟩ := apart c' mem' same
      rw [Function.update_of_ne code, silent, List.append_nil]
      exact debts.heard c' mem'
  · rw [History.clients_append, clients, List.append_nil, History.dropped_append]
    intro c' mem' lost
    by_cases same : c' = c
    · rw [same, Function.update_self]
      exact forsaken (same ▸ lost)
    · obtain ⟨code, -⟩ := apart c' mem' same
      rw [Function.update_of_ne code]
      rcases List.mem_append.mp lost with lost | lost
      · exact debts.forsaken c' mem' lost
      · exact absurd (dropped _ lost) code
  · intro c' new
    obtain ⟨nothing, kept⟩ := debts.unknown c' new.of_append
    have code : c'.code ≠ c.code := (new.of_append.callback c mem).symm
    rw [History.heard_append, History.dropped_append, nothing,
      others c' code fun o' ho' o ho => new.of_append.hook c mem o ho o' ho']
    refine ⟨rfl, fun lost => ?_⟩
    rcases List.mem_append.mp lost with lost | lost
    · exact kept lost
    · exact code (dropped _ lost)

end Debts

section Answers

variable {σ : Standings} {x : Exchange} {roots : List Task} {c : Client} {standing : Standing}

theorem Stands.update {a : Action} {t : Task} (stands : Stands σ a t)
    (other : ∀ d ∈ a.client?, d.code ≠ c.code) :
    Stands (Function.update σ c.code standing) a t := by
  unfold Stands at *
  cases client : a.client? with
  | none => simpa [client] using stands
  | some d =>
    have code : d.code ≠ c.code := other d client
    simpa [client, Function.update_of_ne code] using stands

/-- The other calls do not notice. -/
theorem forall₂_stands_update {moves : List Action} (waiting : List.Forall₂ (Stands σ) moves roots)
    (others : ∀ d ∈ moves.filterMap Action.client?, d.code ≠ c.code) :
    List.Forall₂ (Stands (Function.update σ c.code standing)) moves roots := by
  induction waiting with
  | nil => exact .nil
  | @cons a t moves roots stands _ ih =>
    refine .cons (stands.update fun d hd => others d ?_) (ih fun d hd => others d ?_)
    · exact List.mem_filterMap.mpr ⟨a, List.mem_cons_self, hd⟩
    · obtain ⟨b, hb, client⟩ := List.mem_filterMap.mp hd
      exact List.mem_filterMap.mpr ⟨b, List.mem_cons_of_mem _ hb, client⟩

/-- A call that has its answer moves on. -/
theorem Answers.move (answers : Answers σ x roots) (decided : σ c.code ≠ .asking)
    (same : ∀ reply, (σ c.code).Answered reply → standing.Answered reply) :
    Answers (Function.update σ c.code standing) x roots := by
  have keeps (d : Client) (reply : Reply) (answered : (σ d.code).Answered reply) :
      (Function.update σ c.code standing d.code).Answered reply := by
    by_cases code : d.code = c.code
    · rw [code, Function.update_self]
      exact same reply (code ▸ answered)
    · rwa [Function.update_of_ne code]
  refine ⟨List.Forall₂.imp (fun a t stands => ?_) answers.waiting,
    fun e he d hd => keeps d _ (answers.ended e he d hd)⟩
  unfold Stands at *
  cases client : a.client? with
  | none => simpa [client] using stands
  | some d =>
    simp only [client] at stands ⊢
    obtain ⟨asking, owes⟩ | ⟨reply, rfl, answered⟩ := stands
    · have code : d.code ≠ c.code := fun code => decided (code ▸ asking)
      exact .inl ⟨by rw [Function.update_of_ne code, asking], owes⟩
    · exact .inr ⟨reply, rfl, keeps d reply answered⟩

/-- A call goes on: another task stands for it. -/
theorem Answers.goOn {t t' : Task} (answers : Answers σ x (t :: roots))
    (unanswered : ∀ reply, t ≠ .answer reply) (same : t'.duties = t.duties) :
    Answers σ x (t' :: roots) := by
  obtain ⟨a, outer, stands, below, moves⟩ := List.forall₂_cons_right_iff.mp answers.waiting
  refine ⟨?_, answers.ended⟩
  rw [moves]
  refine .cons ?_ below
  unfold Stands at *
  cases client : a.client? with
  | none => simpa [client, same] using stands
  | some d =>
    simp only [client] at stands ⊢
    obtain ⟨asking, owes⟩ | ⟨reply, answer, -⟩ := stands
    · exact .inl ⟨asking, same.trans owes⟩
    · exact absurd answer (unanswered reply)

/-- A call gets its answer. -/
theorem Answers.answer {t : Task} {reply : Reply} (answers : Answers σ x (t :: roots))
    (distinct : (x.clients.map (·.code)).Nodup) (unanswered : ∀ reply, t ≠ .answer reply)
    (asks : t.duties = [⟨c, .asking⟩]) (answered : standing.Answered reply) :
    Answers (Function.update σ c.code standing) x (.answer reply :: roots) := by
  obtain ⟨a, outer, stands, below, moves⟩ := List.forall₂_cons_right_iff.mp answers.waiting
  have client : a.client? = some c := by
    unfold Stands at stands
    cases client : a.client? with
    | none => simp [client, asks] at stands
    | some d =>
      simp only [client] at stands
      obtain ⟨-, owes⟩ | ⟨reply, answer, -⟩ := stands
      · simp_all
      · exact absurd answer (unanswered reply)
  have others : ∀ d ∈ outer.filterMap Action.client? ++ x.ended.filterMap (fun e => e.1.client?),
      d.code ≠ c.code := by
    rw [Exchange.clients, moves, List.filterMap_cons, client, List.cons_append, List.map_cons,
      List.nodup_cons] at distinct
    exact fun d hd same => distinct.1 (List.mem_map.mpr ⟨d, hd, same⟩)
  constructor
  · rw [moves]
    refine .cons ?_ (forall₂_stands_update below fun d hd => others d (List.mem_append_left _ hd))
    simp only [Stands, client, Function.update_self]
    exact .inr ⟨reply, rfl, answered⟩
  · intro e he d hd
    have code : d.code ≠ c.code :=
      others d (List.mem_append_right _ (List.mem_filterMap.mpr ⟨e, he, hd⟩))
    rw [Function.update_of_ne code]
    exact answers.ended e he d hd

/-- A client makes a move. -/
theorem Answers.ask {a : Action} {t : Task} (answers : Answers σ x roots)
    (stands : Stands σ a t) : Answers σ (x.record (.asked a)) (t :: roots) :=
  ⟨.cons stands answers.waiting, answers.ended⟩

/-- A client makes a call with a callback of its own. -/
theorem Answers.update (answers : Answers σ x roots)
    (new : ∀ d ∈ x.clients, d.code ≠ c.code) :
    Answers (Function.update σ c.code standing) x roots := by
  refine ⟨forall₂_stands_update answers.waiting fun d hd => new d (List.mem_append_left _ hd), ?_⟩
  intro e he d hd
  have code : d.code ≠ c.code :=
    new d (List.mem_append_right _ (List.mem_filterMap.mpr ⟨e, he, hd⟩))
  rw [Function.update_of_ne code]
  exact answers.ended e he d hd

/-- A client takes an answer. -/
theorem Answers.collect {reply : Reply} (answers : Answers σ x (.answer reply :: roots)) :
    Answers σ (x.record (.answered reply)) roots := by
  obtain ⟨a, outer, stands, below, moves⟩ := List.forall₂_cons_right_iff.mp answers.waiting
  simp only [Exchange.record, moves]
  refine ⟨below, fun e he d hd => ?_⟩
  rcases List.mem_append.mp he with he | he
  · exact answers.ended e he d hd
  · obtain rfl : e = (a, reply) := by simpa using he
    have client : a.client? = some d := hd
    simpa [Stands, client, Task.duties] using stands

end Answers

end StorageEngine
