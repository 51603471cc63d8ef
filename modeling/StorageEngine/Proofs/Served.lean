import StorageEngine.Request

/-!
# A device served alone

The handlers of a device called one after the other, with whatever requests, without any storage in
between.
-/

namespace StorageEngine

/-- Serves these requests, one after the other: how they end, and what is left after them. -/
def serveAll {σ : Type} (serve : σ → Handler → Request → Verdict × σ) (s : σ) :
    List (Handler × Request) → List Verdict × σ
  | [] => ([], s)
  | (h, r) :: calls =>
    ((serve s h r).1 :: (serveAll serve (serve s h r).2 calls).1,
      (serveAll serve (serve s h r).2 calls).2)

section Served

variable {σ : Type} (serve : σ → Handler → Request → Verdict × σ) (s : σ)
  (calls : List (Handler × Request)) (h : Handler) (r : Request)

/-- What is left after one more request. -/
theorem serveAll_concat :
    (serveAll serve s (calls ++ [(h, r)])).2 = (serve (serveAll serve s calls).2 h r).2 := by
  induction calls generalizing s with
  | nil => rfl
  | cons call calls ih => exact ih (serve s call.1 call.2).2

/-- The first requests are served as they are without the others. -/
theorem serveAll_append (later : List (Handler × Request)) :
    serveAll serve s (calls ++ later) =
      ((serveAll serve s calls).1 ++ (serveAll serve (serveAll serve s calls).2 later).1,
        (serveAll serve (serveAll serve s calls).2 later).2) := by
  induction calls generalizing s with
  | nil => rfl
  | cons call calls ih =>
    have rest := ih (serve s call.1 call.2).2
    simp only [List.cons_append, serveAll, rest]

theorem length_serveAll : (serveAll serve s calls).1.length = calls.length := by
  induction calls generalizing s with
  | nil => rfl
  | cons call calls ih => exact congrArg (· + 1) (ih (serve s call.1 call.2).2)

variable {serve s calls h r}

/-- A request that leaves everything as it is can be left out: nothing else comes out otherwise. -/
theorem serveAll_leave_out (later : List (Handler × Request))
    (idle : (serve (serveAll serve s calls).2 h r).2 = (serveAll serve s calls).2) :
    (serveAll serve s (calls ++ (h, r) :: later)).1.eraseIdx calls.length =
        (serveAll serve s (calls ++ later)).1 ∧
      (serveAll serve s (calls ++ (h, r) :: later)).2 = (serveAll serve s (calls ++ later)).2 := by
  have length := length_serveAll serve s calls
  rw [serveAll_append, serveAll_append]
  constructor
  · rw [List.eraseIdx_append_of_length_le (Nat.le_of_eq length), length, Nat.sub_self, serveAll,
      List.eraseIdx_zero, List.tail_cons, idle]
  · rw [serveAll, idle]

/-- What every request preserves holds after all of them. -/
theorem serveAll_invariant (Inv : σ → Prop) (start : Inv s)
    (keeps : ∀ s h r, (h, r) ∈ calls → Inv s → Inv (serve s h r).2) :
    Inv (serveAll serve s calls).2 := by
  induction calls generalizing s with
  | nil => exact start
  | cons call calls ih =>
    obtain ⟨h, r⟩ := call
    refine ih (keeps s h r (List.mem_cons_self ..) start) fun s' h' r' member => ?_
    exact keeps s' h' r' (List.mem_cons_of_mem _ member)

end Served

end StorageEngine
