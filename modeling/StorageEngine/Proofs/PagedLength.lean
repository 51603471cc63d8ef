import Mathlib.Data.List.DropRight
import Mathlib.Order.Lattice.Nat
import StorageEngine.Proofs.PagedMemory
import StorageEngine.Proofs.PagedReads

/-!
# How long paged memory is

The length of a paged store is told by the requests since it was last empty.  A write that is not
refused makes the length at least the end of its range.  If it has bytes, that is one past the last
byte that it stores (`Sparse.stored`).  A write without bytes stores nothing, but its range has an
end as well, which is its offset (`Sparse.marked`): nothing else takes the length beyond the bytes.

* `Sparse.IsPaged.length_serve` — what one request does to the length;
* `Sparse.length_eq_max` — how long the store is after requests;
* `Sparse.IsPaged.result_read` — whether a read succeeds is told by the length;
* `Sparse.serveAll_length` — the length, and what a request does to it that stores nothing.
-/

namespace StorageEngine.Sparse

/-- A write that is not refused. -/
def Accepts (call : Handler × Request) : Prop :=
  call.1 = .write ∧ call.2.offset + call.2.data.length ≤ Word.top

instance (call : Handler × Request) : Decidable (Accepts call) :=
  inferInstanceAs (Decidable (_ ∧ _))

/-- The addresses at which a request stores a byte. -/
def storedBy (call : Handler × Request) : Finset Nat :=
  if Accepts call then FlatMemory.target call.2 else ∅

/-- The offset of a write that is not refused and has no bytes. -/
def markedBy (call : Handler × Request) : Finset Nat :=
  if Accepts call ∧ call.2.data = [] then {call.2.offset} else ∅

/-- The requests since the last destruction. -/
def sinceDestroyed (calls : List (Handler × Request)) : List (Handler × Request) :=
  calls.rtakeWhile fun call => call.1 ≠ .destroy

/-- Addresses of the requests since the last destruction. -/
def gathered (addresses : Handler × Request → Finset Nat) (calls : List (Handler × Request)) :
    Finset Nat :=
  (sinceDestroyed calls).foldl (fun all call => all ∪ addresses call) ∅

/-- The addresses at which a byte was stored since the last destruction. -/
def stored (calls : List (Handler × Request)) : Finset Nat :=
  gathered storedBy calls

/-- The offsets of the writes without bytes since the last destruction. -/
def marked (calls : List (Handler × Request)) : Finset Nat :=
  gathered markedBy calls

section Gathered

variable {addresses : Handler × Request → Finset Nat} {calls : List (Handler × Request)}
  {call : Handler × Request}

/-- After a destruction there are none. -/
theorem gathered_destroyed (destroyed : call.1 = .destroy) :
    gathered addresses (calls ++ [call]) = ∅ := by
  unfold gathered sinceDestroyed
  rw [List.rtakeWhile_concat_neg _ _ _ (by simp [destroyed])]
  rfl

theorem gathered_concat (kept : call.1 ≠ .destroy) :
    gathered addresses (calls ++ [call]) = gathered addresses calls ∪ addresses call := by
  unfold gathered sinceDestroyed
  rw [List.rtakeWhile_concat_pos _ _ _ (by simp [kept]), List.foldl_concat]

end Gathered

/-- How long a request makes a store at least: up to one past the last byte that it stores, or up to
the offset of a write without bytes. -/
def asked (call : Handler × Request) : Nat :=
  max ((storedBy call).sup (· + 1)) ((markedBy call).sup id)

/-- The end of a range that has addresses is one past the last of them. -/
theorem sup_target (r : Request) (filled : r.data ≠ []) :
    (FlatMemory.target r).sup (· + 1) = r.offset + r.data.length := by
  have long : 0 < r.data.length := List.length_pos_of_ne_nil filled
  apply Nat.le_antisymm
  · refine Finset.sup_le fun i member => ?_
    exact (FlatMemory.mem_target.mp member).2
  · have last : r.offset + r.data.length - 1 ∈ FlatMemory.target r := by
      rw [FlatMemory.mem_target]
      omega
    have reached := Finset.le_sup (f := (· + 1)) last
    omega

/-- Either way that is the end of the range. -/
theorem asked_of_accepts {call : Handler × Request} (accepts : Accepts call) :
    asked call = call.2.offset + call.2.data.length := by
  unfold asked storedBy markedBy
  by_cases bare : call.2.data = []
  · have nowhere : FlatMemory.target call.2 = ∅ := by simp [FlatMemory.target, bare]
    simp [accepts, bare, nowhere]
  · simp [accepts, bare, sup_target call.2 bare]

theorem asked_of_not_accepts {call : Handler × Request} (refused : ¬ Accepts call) :
    asked call = 0 := by
  simp [asked, storedBy, markedBy, refused]

variable {s : Sparse} {pageSize : Nat} {calls : List (Handler × Request)} {h : Handler}
  {r : Request}

/-- What a request does to the length. -/
theorem IsPaged.length_serve (paged : s.IsPaged) (kept : h ≠ .destroy) :
    (s.serve h r).2.length = max s.length (asked (h, r)) := by
  by_cases accepts : Accepts (h, r)
  · obtain ⟨rfl, fits⟩ := accepts
    obtain ⟨s', written, -, -, length, -⟩ := write_of_fits paged fits
    rw [asked_of_accepts ⟨rfl, fits⟩, serve_of_written written, length]
  · rw [asked_of_not_accepts accepts, Nat.max_zero]
    cases h with
    | openReadOnly | openReadWrite | close | stat => rfl
    | destroy => exact absurd rfl kept
    | delete => exact (erase_eq paged r.offset r.size).2.2.1
    | read =>
      cases read : s.read r.offset r.data with
      | ok bytes => rw [serve_of_read read]
      | error e => rw [serve_of_unread read]
    | write =>
      have overflow : Word.top < r.offset + r.data.length :=
        Nat.lt_of_not_le fun fits => accepts ⟨rfl, fits⟩
      rw [serve_of_unwritten (write_of_overflow overflow)]

/-- How long a store is that was empty before these requests: since the last destruction, each of
them has made it as long as it asked. -/
theorem length_eq_max (positive : 0 < pageSize) :
    (serveAll Sparse.serve (.empty pageSize) calls).2.length =
      max ((stored calls).sup (· + 1)) ((marked calls).sup id) := by
  induction calls using List.reverseRecOn with
  | nil => rfl
  | append_singleton calls call ih =>
    obtain ⟨h, r⟩ := call
    have paged : (serveAll Sparse.serve (.empty pageSize) calls).2.IsPaged :=
      isPaged_serveAll positive
    rw [serveAll_concat]
    by_cases destroyed : h = .destroy
    · subst destroyed
      simp only [stored, marked, gathered_destroyed]
      rfl
    · have joined (addresses) : gathered addresses (calls ++ [(h, r)]) =
          gathered addresses calls ∪ addresses (h, r) := gathered_concat destroyed
      rw [paged.length_serve destroyed, ih]
      simp only [stored, marked, joined, Finset.sup_union, asked]
      exact sup_sup_sup_comm ..

/-- Whether a read succeeds is told by the length. -/
theorem IsPaged.result_read (paged : s.IsPaged) :
    (s.serve .read r).1.result =
      if s.length < Word.clampedAdd r.offset r.data.length then .error (.backend Code.outOfRange)
      else .ok (some r.data.length) := by
  have read := read_clamped paged r.offset r.data
  split
  case isTrue beyond => rw [serve_of_unread (read.trans (if_pos beyond))]
  case isFalse within =>
    have part : Word.clampedAdd r.offset r.data.length - r.offset ≤ r.data.length := by
      have clamped : Word.clampedAdd r.offset r.data.length ≤ r.offset + r.data.length :=
        Nat.min_le_left _ _
      omega
    rw [serve_of_read (read.trans (if_neg within))]
    simp [part]

/-- **How long paged memory is.**  Whatever the handlers were called with, the length, which a stat
reports as well, is one past the last address at which a byte was stored since the store was last
empty, zero if there is none, or the offset of a write without bytes if that lies behind.  So a
request that stores no byte leaves the length alone, and which reads succeed, unless it is a write
without bytes whose offset lies behind the length; the length is its offset then. -/
theorem serveAll_length (positive : 0 < pageSize)
    (reached : (serveAll Sparse.serve (.empty pageSize) calls).2 = s) :
    s.length = max ((stored calls).sup (· + 1)) ((marked calls).sup id) ∧
      (∀ q, (s.serve .stat q).1.stats.map (·.size) = some s.length) ∧
      ∀ h r, h ≠ .destroy → storedBy (h, r) = ∅ →
        let s' := (s.serve h r).2
        s'.length = max s.length ((markedBy (h, r)).sup id) ∧
          ((markedBy (h, r)).sup id ≤ s.length →
            ∀ q, (s'.serve .read q).1.result = (s.serve .read q).1.result) := by
  have paged : s.IsPaged := reached ▸ isPaged_serveAll positive
  refine ⟨reached ▸ length_eq_max positive, fun q => rfl, fun h r kept nothing => ?_⟩
  intro s'
  have length : s'.length = max s.length ((markedBy (h, r)).sup id) := by
    rw [paged.length_serve kept, asked, nothing, Finset.sup_empty, bot_sup_eq]
  refine ⟨length, fun near q => ?_⟩
  rw [paged.result_read, paged.serve.result_read, length, Nat.max_eq_left near]

/-- A byte that a destruction has taken away, three bytes, and a write without bytes behind them.
Erasing two of the three changes neither the length nor how a read of all nine addresses ends. -/
theorem serveAll_length_marked :
    let calls : List (Handler × Request) := [
      (.write, { id := 1, kind := .write, offset := 20, data := [7] }),
      (.destroy, { id := 2, kind := .destroying }),
      (.write, { id := 3, kind := .write, offset := 2, data := [1, 2, 3] }),
      (.write, { id := 4, kind := .write, offset := 9 })]
    let erasing : Request := { id := 5, kind := .delete, offset := 2, size := 2 }
    let all : Request := { id := 6, kind := .read, data := Bytes.zeros 9 }
    let s := (serveAll Sparse.serve (.empty 4) calls).2
    0 < 4 ∧ stored calls = {2, 3, 4} ∧ marked calls = {9} ∧ s.length = 9 ∧
      storedBy (.delete, erasing) = ∅ ∧ (s.serve .delete erasing).2.length = 9 ∧
      ((s.serve .delete erasing).2.serve .read all).1.result = .ok (some 9) := by
  intro calls erasing all s
  have positive : 0 < 4 := by decide
  have bytes : stored calls = {2, 3, 4} := by decide +kernel
  have offsets : marked calls = {9} := by decide +kernel
  have nothing : storedBy (.delete, erasing) = ∅ := by decide
  have near : (markedBy (.delete, erasing)).sup id ≤ s.length := by decide +kernel
  have now : (s.serve .read all).1.result = .ok (some 9) := by decide +kernel
  obtain ⟨length, -, idle⟩ := @serveAll_length s 4 calls positive rfl
  obtain ⟨kept, reads⟩ := idle .delete erasing (by decide) nothing
  rw [bytes, offsets] at length
  rw [Nat.max_eq_left near, length] at kept
  exact ⟨positive, bytes, offsets, length, nothing, kept, (reads near all).trans now⟩

/-- No byte was stored, and still there is a length, and a read that failed succeeds. -/
theorem length_of_bare_write :
    let calls : List (Handler × Request) := [(.write, { id := 1, kind := .write, offset := 10 })]
    let s := (serveAll Sparse.serve (.empty 4) calls).2
    let r : Request := { id := 2, kind := .read, data := Bytes.zeros 10 }
    stored calls = ∅ ∧ s.length = 10 ∧ s.length ≠ (stored calls).sup (· + 1) ∧
      ((Sparse.empty 4).serve .read r).1.result = .error (.backend Code.outOfRange) ∧
      (s.serve .read r).1.result = .ok (some 10) := by
  decide +kernel

end StorageEngine.Sparse
