/-!
# Machine-sized numbers

Offsets, sizes and counters are natural numbers that fit in 64 bits.  Sums that leave this range
are met in three ways: some are clamped to the largest word, some are refused, and the sum in the
byte counter of an allocator stops the program.
-/

namespace StorageEngine.Word

/-- The largest 64-bit number. -/
def top : Nat := 18446744073709551615

/-- The sum, clamped to the largest word. -/
def clampedAdd (a b : Nat) : Nat :=
  min (a + b) top

/-- The sum, if it is a word. -/
def checkedAdd? (a b : Nat) : Option Nat :=
  if a + b ≤ top then some (a + b) else none

/-- What is reported when the program stops at a sum that is no word. -/
def overflowText : String := "attempt to add with overflow"

theorem clampedAdd_eq {a b : Nat} (h : a + b ≤ top) : clampedAdd a b = a + b :=
  Nat.min_eq_left h

theorem clampedAdd_le_top (a b : Nat) : clampedAdd a b ≤ top :=
  Nat.min_le_right _ _

theorem checkedAdd?_eq_some_iff {a b c : Nat} :
    checkedAdd? a b = some c ↔ a + b ≤ top ∧ c = a + b := by
  unfold checkedAdd?
  split
  · simp_all [eq_comm]
  · simp only [reduceCtorEq, false_iff, not_and]
    omega

end StorageEngine.Word
