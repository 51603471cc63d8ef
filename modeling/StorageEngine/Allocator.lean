import StorageEngine.Text.Record
import StorageEngine.Word

/-!
# Accounting for memory

Every request record and every buffer is backed by a block that the storage asks its allocator for
and hands back later.  An allocator only counts: blocks handed out, blocks handed back, bytes in
use.  It may refuse a block, either because a budget of bytes would be exceeded or because this
particular call is to fail; a refusal leaves all three counters alone.

The byte counter is a 64-bit word.  The budget is checked with a clamped sum, the counter itself is
advanced with the exact one: where that is no word, the call does not come back, and the program
stops in it.  An allocator keeps that this has happened (`Allocator.overflowed`).  A storage whose
allocator says so goes on here as if the block had been handed out.  Nothing corresponds to that in
a program that has stopped; so what is said of all runs of a storage is said of those of the
program, and of some more.
-/

namespace StorageEngine

/-- When an allocator refuses. -/
inductive AllocatorPolicy
  /-- Never. -/
  | unlimited
  /-- When the bytes in use would exceed the budget. -/
  | budget (limit : Nat)
  /-- On the calls with these numbers, counted from one. -/
  | refusing (calls : List Nat)
  deriving DecidableEq, Inhabited

/-- What a call for a block comes to. -/
inductive AllocatorRuling
  /-- The block is handed out. -/
  | granted
  /-- The block is refused. -/
  | refused
  /-- The block is not refused, but more bytes would be in use than a word can tell: the program
  stops. -/
  | overflow
  deriving DecidableEq, Inhabited

/-- The counters of an allocator. -/
structure Allocator where
  policy : AllocatorPolicy := .unlimited
  /-- How often a block was asked for. -/
  calls : Nat := 0
  allocCount : Nat := 0
  freeCount : Nat := 0
  bytesInUse : Nat := 0
  /-- A call has overflowed: the program has stopped, and the counters stand for nothing more. -/
  overflowed : Bool := false
  deriving DecidableEq, Inhabited

namespace Allocator

/-- Whether the next call, for `size` bytes, is not refused. -/
def grants (a : Allocator) (size : Nat) : Bool :=
  match a.policy with
  | .unlimited => true
  | .budget limit => Word.clampedAdd a.bytesInUse size ≤ limit
  | .refusing calls => !calls.contains (a.calls + 1)

/-- Whether more bytes than a word can tell would be in use with `size` bytes more. -/
def overflows (a : Allocator) (size : Nat) : Bool :=
  Word.top < a.bytesInUse + size

/-- What the next call, for `size` bytes, comes to. -/
def ruling (a : Allocator) (size : Nat) : AllocatorRuling :=
  if !a.grants size then .refused
  else if a.overflows size then .overflow
  else .granted

/-- Asks for a block: whether it was not refused, and the allocator afterwards.  The block is
counted before its bytes are, so a call that overflows in the bytes has counted the block. -/
def allocate (a : Allocator) (size : Nat) : Bool × Allocator :=
  match a.ruling size with
  | .granted =>
    (true, { a with
      calls := a.calls + 1
      allocCount := a.allocCount + 1
      bytesInUse := a.bytesInUse + size })
  | .refused => (false, { a with calls := a.calls + 1 })
  | .overflow =>
    (true, { a with calls := a.calls + 1, allocCount := a.allocCount + 1, overflowed := true })

/-- Hands a block back. -/
def release (a : Allocator) (size : Nat) : Allocator :=
  { a with freeCount := a.freeCount + 1, bytesInUse := a.bytesInUse - size }

/-- Hands several blocks back, in order. -/
def releaseAll (a : Allocator) (sizes : List Nat) : Allocator :=
  sizes.foldl release a

/-- Every block handed out has come back. -/
def isBalanced (a : Allocator) : Bool :=
  a.allocCount = a.freeCount && a.bytesInUse = 0

/-- The diagnostic text of the counters. -/
def describe (a : Allocator) : String :=
  Text.record "AllocatorStats" [
    ("alloc_count", toString a.allocCount),
    ("free_count", toString a.freeCount),
    ("bytes_in_use", toString a.bytesInUse)]

section Rulings

variable {a : Allocator} {size : Nat}

theorem ruling_of_refused (refused : a.grants size = false) : a.ruling size = .refused := by
  simp [ruling, refused]

theorem overflows_eq_false_iff : a.overflows size = false ↔ a.bytesInUse + size ≤ Word.top := by
  simp [overflows]

theorem allocate_of_granted (granted : a.ruling size = .granted) :
    a.allocate size = (true, { a with
      calls := a.calls + 1
      allocCount := a.allocCount + 1
      bytesInUse := a.bytesInUse + size }) := by
  simp [allocate, granted]

theorem allocate_of_refused (refused : a.ruling size = .refused) :
    a.allocate size = (false, { a with calls := a.calls + 1 }) := by
  simp [allocate, refused]

/-- A call that is not refused counts the block, and its bytes if their sum is a word; otherwise it
overflows. -/
theorem allocate_counted (granted : a.grants size) : ∃ bytes,
    a.allocate size = (true, { a with
      calls := a.calls + 1
      allocCount := a.allocCount + 1
      bytesInUse := bytes
      overflowed := a.overflowed || a.overflows size }) ∧
    bytes ≤ a.bytesInUse + size ∧
    (a.overflows size = false → bytes = a.bytesInUse + size) := by
  cases large : a.overflows size with
  | false =>
    have yes : a.ruling size = .granted := by simp [ruling, granted, large]
    exact ⟨a.bytesInUse + size, by simp [allocate_of_granted yes], Nat.le_refl _, fun _ => rfl⟩
  | true =>
    refine ⟨a.bytesInUse, ?_, Nat.le_add_right _ _, by simp⟩
    simp [allocate, ruling, granted, large]

theorem allocate_fst (a : Allocator) (size : Nat) : (a.allocate size).1 = a.grants size := by
  cases answer : a.grants size with
  | false => rw [allocate_of_refused (ruling_of_refused answer)]
  | true =>
    obtain ⟨_, asked, -⟩ := allocate_counted answer
    rw [asked]

theorem allocate_policy (a : Allocator) (size : Nat) :
    (a.allocate size).2.policy = a.policy := by
  unfold allocate
  split <;> rfl

end Rulings

theorem release_policy (a : Allocator) (size : Nat) : (a.release size).policy = a.policy :=
  rfl

end Allocator

end StorageEngine
