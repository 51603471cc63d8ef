import StorageEngine.Proofs.FlatMemory
import StorageEngine.Proofs.Served

/-!
# Reads of paged memory

A read is refused if it ends past the length, and gives the bytes of its range otherwise.  Only at
the very top of the address space this is not so: there the end of the range is clamped to the
largest word before it is compared, and a store whose length is the largest word lets such a read
through.  It fills the buffer as far as there are addresses and says that it has filled all of it.

* `Sparse.isPaged_serveAll` — every store that can be reached keeps its pages in order;
* `Sparse.read_clamped` — what a read gives, wherever it ends;
* `Sparse.serveAll_read` — how reads of such stores end.
-/

namespace StorageEngine.Sparse

variable {s : Sparse} {pageSize : Nat} {calls : List (Handler × Request)} {h : Handler}
  {r : Request}

/-- A request leaves the pages in order. -/
theorem IsPaged.serve (paged : s.IsPaged) : (s.serve h r).2.IsPaged := by
  cases h with
  | openReadOnly | openReadWrite | close | stat => exact paged
  | destroy => exact isPaged_empty paged.pos
  | delete => exact (erase_eq paged r.offset r.size).1
  | read =>
    cases read : s.read r.offset r.data with
    | ok bytes => rwa [serve_of_read read]
    | error e => rwa [serve_of_unread read]
  | write =>
    by_cases fits : r.offset + r.data.length ≤ Word.top
    · obtain ⟨s', written, paged', -⟩ := write_of_fits paged fits
      rwa [serve_of_written written]
    · rwa [serve_of_unwritten (write_of_overflow (Nat.lt_of_not_le fits))]

/-- So do all requests, from an empty store on. -/
theorem isPaged_serveAll (positive : 0 < pageSize) :
    (serveAll Sparse.serve (.empty pageSize) calls).2.IsPaged :=
  serveAll_invariant IsPaged (isPaged_empty positive) fun _ _ _ _ paged => paged.serve

/-- A read gives the bytes of its range as far as there are addresses, if there is room for them
below the length; the rest of the buffer stays as it was. -/
theorem read_clamped (paged : s.IsPaged) (offset : Nat) (buffer : Bytes) :
    let stop := Word.clampedAdd offset buffer.length
    s.read offset buffer = if s.length < stop then .error (.backend Code.outOfRange)
      else .ok ((List.range' offset (stop - offset)).map s.get ++ buffer.drop (stop - offset)) := by
  simp only [read, Piece.ofRange, flatMap_cut paged]

section Ends

variable (paged : s.IsPaged)
include paged

/-- A read within the length fills the buffer. -/
theorem IsPaged.serve_read_within (within : r.offset + r.data.length ≤ s.length) :
    s.serve .read r =
      ({ data := some ((List.range' r.offset r.data.length).map s.get)
         result := .ok (some r.data.length) }, s) := by
  have bytes := read_eq paged (Nat.le_trans within paged.length)
  rw [if_neg (Nat.not_lt.mpr within)] at bytes
  rw [serve_of_read bytes, List.length_map, List.length_range']

/-- A read past a length that is less than the largest word is refused. -/
theorem IsPaged.serve_read_beyond (beyond : s.length < r.offset + r.data.length)
    (below : s.length < Word.top) :
    s.serve .read r = ({ result := .error (.backend Code.outOfRange) }, s) := by
  have clamped : s.length < Word.clampedAdd r.offset r.data.length := Nat.lt_min.mpr ⟨beyond, below⟩
  have refused := read_clamped paged r.offset r.data
  exact serve_of_unread (refused.trans (if_pos clamped))

/-- A read past the largest word is let through if the length is the largest word. -/
theorem IsPaged.serve_read_top (beyond : Word.top < r.offset + r.data.length)
    (full : s.length = Word.top) :
    s.serve .read r =
      ({ data := some ((List.range' r.offset (Word.top - r.offset)).map s.get ++
          r.data.drop (Word.top - r.offset))
         result := .ok (some r.data.length) }, s) := by
  have clamped : Word.clampedAdd r.offset r.data.length = Word.top :=
    Nat.min_eq_right (Nat.le_of_lt beyond)
  have bytes := read_clamped paged r.offset r.data
  simp only [clamped, full, Nat.lt_irrefl, if_false] at bytes
  have length : Word.top - r.offset + (r.data.length - (Word.top - r.offset)) = r.data.length := by
    omega
  rw [serve_of_read bytes, List.length_append, List.length_map, List.length_range',
    List.length_drop, length]

end Ends

/-- **How a read of paged memory ends.**  Whatever the handlers were called with before, a read
leaves the store as it is.  One that ends within the length succeeds and fills its whole buffer from
the store; one that does not is refused and leaves its buffer as it was, unless the length is the
largest word.  Then it succeeds too, and the bytes of the buffer for which there is no address stay
as they were. -/
theorem serveAll_read (positive : 0 < pageSize)
    (reached : (serveAll Sparse.serve (.empty pageSize) calls).2 = s) :
    let v := (s.serve .read r).1
    let stop := r.offset + r.data.length
    (s.serve .read r).2 = s ∧
      (stop ≤ s.length → v.result = .ok (some r.data.length) ∧
        (r.fill v).data = (List.range' r.offset r.data.length).map s.get) ∧
      (s.length < stop → s.length ≠ Word.top →
        v.result = .error (.backend Code.outOfRange) ∧ (r.fill v).data = r.data) ∧
      (s.length < stop → s.length = Word.top → v.result = .ok (some r.data.length) ∧
        (r.fill v).data = (List.range' r.offset (Word.top - r.offset)).map s.get ++
          r.data.drop (Word.top - r.offset)) := by
  intro v stop
  have paged : s.IsPaged := reached ▸ isPaged_serveAll positive
  have ends : stop ≤ s.length ∨ (s.length < stop ∧ s.length ≠ Word.top) ∨
      (s.length < stop ∧ s.length = Word.top) := by omega
  rcases ends with within | ⟨beyond, below⟩ | ⟨beyond, full⟩
  · have served := paged.serve_read_within within
    have verdict : v = _ := congrArg Prod.fst served
    refine ⟨congrArg Prod.snd served, fun _ => by simp [verdict, Request.fill], ?_, ?_⟩ <;> omega
  · have served := paged.serve_read_beyond beyond (Nat.lt_of_le_of_ne paged.length below)
    have verdict : v = _ := congrArg Prod.fst served
    refine ⟨congrArg Prod.snd served, ?_, fun _ _ => by simp [verdict, Request.fill], ?_⟩ <;> omega
  · have served := paged.serve_read_top (full ▸ beyond) full
    have verdict : v = _ := congrArg Prod.fst served
    refine ⟨congrArg Prod.snd served, ?_, ?_, fun _ _ => by simp [verdict, Request.fill]⟩ <;> omega

/-- A read of the last byte, and one that asks for a byte more than there is. -/
theorem serveAll_read_last :
    let calls : List (Handler × Request) :=
      [(.write, { id := 1, kind := .write, offset := Word.top - 1, data := [9] })]
    let within : Request := { id := 2, kind := .read, offset := Word.top - 1, data := [7] }
    let beyond : Request := { id := 3, kind := .read, offset := Word.top - 1, data := [7, 8] }
    let s := (serveAll Sparse.serve (.empty 4) calls).2
    0 < 4 ∧ (within.fill (s.serve .read within).1).data = [9] ∧
      (beyond.fill (s.serve .read beyond).1).data = [9, 8] := by
  intro calls within beyond s
  have positive : 0 < 4 := by decide
  have length : s.length = Word.top := by decide +kernel
  have last : s.get (Word.top - 1) = 9 := by decide +kernel
  obtain ⟨-, inside, -⟩ := @serveAll_read s 4 calls within positive rfl
  obtain ⟨-, -, -, past⟩ := @serveAll_read s 4 calls beyond positive rfl
  refine ⟨positive, (inside ?_).2.trans ?_, (past ?_ length).2.trans ?_⟩
  · exact Nat.le_of_eq length.symm
  · exact congrArg (fun x => [x]) last
  · exact length.symm ▸ (by decide)
  · exact congrArg (fun x => [x, 8]) last

/-- A read that ends past the length and still succeeds; the last byte of its buffer is none of the
store's. -/
theorem read_beyond_succeeds :
    let s := (serveAll Sparse.serve (.empty 4)
      [(.write, { id := 1, kind := .write, offset := Word.top - 1, data := [9] })]).2
    let r : Request := { id := 2, kind := .read, offset := Word.top - 1, data := [7, 8] }
    let v := (s.serve .read r).1
    ¬ r.offset + r.data.length ≤ s.length ∧ v.result = .ok (some 2) ∧
      v.data = some [9, 8] ∧ s.get Word.top = 0 := by
  decide +kernel

end StorageEngine.Sparse
