import Std.Data.TreeMap
import StorageEngine.Bytes

/-!
# Cells

A stretch of memory of a fixed length, kept cell by cell.  A cell to which nothing was stored holds
zero and takes no room, so a stretch may be as long as an address can tell.

The byte at each position, `Cells.get`, is all that a client sees; `get_store`, `get_clear` and
`get_resize` say what the operations do to it, and `read` is `get` position by position.
-/

namespace StorageEngine

/-- A stretch of memory, and the bytes that were stored in it. -/
structure Cells where
  length : Nat
  stored : Std.TreeMap Nat UInt8 := {}
  deriving Inhabited

namespace Cells

/-- `n` cells to which nothing was stored. -/
def zeros (n : Nat) : Cells :=
  { length := n }

/-- The byte at a position; zero beyond the end. -/
def get (c : Cells) (i : Nat) : UInt8 :=
  if i < c.length then c.stored.getD i 0 else 0

/-- The `len` bytes from position `start` on. -/
def read (c : Cells) (start len : Nat) : Bytes :=
  (List.range' start len).map c.get

/-- All bytes. -/
def toBytes (c : Cells) : Bytes :=
  c.read 0 c.length

/-- Puts bytes at `start` and the positions after it. -/
def insertFrom (stored : Std.TreeMap Nat UInt8) (start : Nat) : Bytes → Std.TreeMap Nat UInt8
  | [] => stored
  | x :: rest => insertFrom (stored.insert start x) (start + 1) rest

/-- Stores bytes from position `start` on; what falls beyond the end is lost. -/
def store (c : Cells) (start : Nat) (src : Bytes) : Cells :=
  { c with stored := insertFrom c.stored start src }

/-- Cells that hold these bytes. -/
def ofBytes (b : Bytes) : Cells :=
  (zeros b.length).store 0 b

/-- Fills the positions from `start` up to `stop` with zeros. -/
def clear (c : Cells) (start stop : Nat) : Cells :=
  { c with stored := c.stored.filter fun i _ => i < start || stop ≤ i }

/-- The stretch cut, or continued with zeros, to exactly `n` cells. -/
def resize (c : Cells) (n : Nat) : Cells where
  length := n
  stored := c.stored.filter fun i _ => i < c.length && i < n

theorem get_of_length_le {c : Cells} {i : Nat} (h : c.length ≤ i) : c.get i = 0 :=
  if_neg (Nat.not_lt.mpr h)

theorem get_zeros (n i : Nat) : (zeros n).get i = 0 := by
  simp [get, zeros]

theorem length_read (c : Cells) (start len : Nat) : (c.read start len).length = len := by
  simp [read]

theorem getElem?_read (c : Cells) (start len i : Nat) :
    (c.read start len)[i]? = if i < len then some (c.get (start + i)) else none := by
  split
  · next h => simp [read, List.getElem?_range' h]
  · next h => exact List.getElem?_eq_none (by simpa [length_read] using h)

theorem getD_insertFrom (stored : Std.TreeMap Nat UInt8) (start : Nat) (src : Bytes) (i : Nat) :
    (insertFrom stored start src).getD i 0 =
      if start ≤ i then src.getD (i - start) (stored.getD i 0) else stored.getD i 0 := by
  induction src generalizing stored start with
  | nil => simp [insertFrom]
  | cons x rest ih =>
    rw [insertFrom, ih, Std.TreeMap.getD_insert]
    rcases Nat.lt_trichotomy i start with h | h | h
    · have : compare start i ≠ .eq := by
        simp only [ne_eq, Nat.compare_eq_eq]
        omega
      rw [if_neg (by omega), if_neg this, if_neg (by omega)]
    · subst h
      rw [if_neg (by omega), if_pos (by simp), if_pos (Nat.le_refl _)]
      simp
    · have : compare start i ≠ .eq := by
        simp only [ne_eq, Nat.compare_eq_eq]
        omega
      rw [if_pos (by omega), if_neg this, if_pos (by omega)]
      have hi : i - start = (i - (start + 1)) + 1 := by omega
      rw [hi, List.getD_cons_succ]

theorem get_store {c : Cells} {i : Nat} (start : Nat) (src : Bytes) (h : i < c.length) :
    (c.store start src).get i =
      if start ≤ i then src.getD (i - start) (c.get i) else c.get i := by
  simp only [get, store, if_pos h, getD_insertFrom]

theorem get_clear (c : Cells) (start stop i : Nat) :
    (c.clear start stop).get i = if start ≤ i ∧ i < stop then 0 else c.get i := by
  simp only [get, clear, Std.TreeMap.getD_eq_getD_getElem?, Std.TreeMap.getElem?_filter']
  by_cases hi : start ≤ i ∧ i < stop
  · have : (decide (i < start) || decide (stop ≤ i)) = false := by
      simp only [Bool.or_eq_false_iff, decide_eq_false_iff_not]
      omega
    cases c.stored[i]? <;> simp [hi, Option.filter, this]
  · have : (decide (i < start) || decide (stop ≤ i)) = true := by
      simp only [Bool.or_eq_true, decide_eq_true_eq]
      omega
    cases c.stored[i]? <;> simp [hi, Option.filter, this]

theorem get_resize (c : Cells) (n i : Nat) :
    (c.resize n).get i = if i < n then c.get i else 0 := by
  simp only [get, resize, Std.TreeMap.getD_eq_getD_getElem?, Std.TreeMap.getElem?_filter']
  by_cases hn : i < n <;> by_cases hc : i < c.length <;> cases c.stored[i]? <;>
    simp [hn, hc, Option.filter]

theorem toBytes_ofBytes (b : Bytes) : (ofBytes b).toBytes = b := by
  apply List.ext_getElem?
  intro i
  rw [toBytes, getElem?_read, Nat.zero_add]
  change (if i < b.length then some ((ofBytes b).get i) else none) = _
  split
  · next h =>
    have hl : i < (zeros b.length).length := h
    simp [ofBytes, get_store 0 b hl, h]
  · next h => exact (List.getElem?_eq_none (Nat.not_lt.mp h)).symm

end Cells

end StorageEngine
