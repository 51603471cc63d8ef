import Mathlib.Data.List.GetD
import StorageEngine.Device.Sparse

/-!
# Paged memory is flat memory

A paged store holds one byte at every address (`Sparse.get`), zero where nothing was stored.  What
its operations do is told by these bytes alone: a read gives the bytes of its range, a write changes
the bytes of its range, and erasing makes those of its range zero that lie below the length.

A piece lies in one page, and the addresses of one page are consecutive (`place_add`); so each
operation is followed from piece to piece, by the recursion of `Piece.cut`.

* `read_eq`, `write_of_fits`, `get_erase` — what the operations do.
-/

namespace StorageEngine

namespace Sparse

/-- The byte at an address. -/
def get (s : Sparse) (i : Nat) : UInt8 :=
  (s.page (i / s.pageSize)).get (i % s.pageSize)

/-- Pages have room for something, each has the size of a page, and the length is a word. -/
structure IsPaged (s : Sparse) : Prop where
  pos : 0 < s.pageSize
  page : ∀ number, (s.page number).length = s.pageSize
  length : s.length ≤ Word.top

theorem isPaged_empty {pageSize : Nat} (pos : 0 < pageSize) : (empty pageSize).IsPaged where
  pos := pos
  page number := by simp [Sparse.page, empty, Cells.zeros]
  length := Nat.zero_le _

theorem get_empty (pageSize i : Nat) : (empty pageSize).get i = 0 := by
  simp [get, page, empty, Cells.get_zeros]

variable {s : Sparse}

/-- The addresses of one page are consecutive. -/
theorem place_add {size pos k : Nat} (inside : pos % size + k < size) :
    (pos + k) / size = pos / size ∧ (pos + k) % size = pos % size + k := by
  have whole : pos + k = size * (pos / size) + (pos % size + k) := by
    rw [← Nat.add_assoc, Nat.div_add_mod]
  have positive : 0 < size := by omega
  constructor
  · rw [whole, Nat.mul_add_div positive, Nat.div_eq_of_lt inside, Nat.add_zero]
  · rw [whole, Nat.mul_add_mod, Nat.mod_eq_of_lt inside]

theorem get_add {pos k : Nat} (inside : pos % s.pageSize + k < s.pageSize) :
    s.get (pos + k) = (s.page (pos / s.pageSize)).get (pos % s.pageSize + k) := by
  obtain ⟨page, place⟩ := place_add inside
  unfold get
  rw [page, place]

section Read

/-- The bytes of one piece. -/
theorem pieceBytes_eq {pos len : Nat} (inRange : Nat)
    (inside : pos % s.pageSize + len ≤ s.pageSize) :
    s.pieceBytes ⟨pos / s.pageSize, pos % s.pageSize, inRange, len⟩ =
      (List.range' pos len).map s.get := by
  refine List.ext_getElem? fun k => ?_
  unfold pieceBytes
  rw [Cells.getElem?_read]
  by_cases within : k < len
  · have same : s.get (pos + k) = _ := get_add (by omega)
    simp [within, same]
  · simp [within]

/-- The bytes of a range, piece by piece. -/
theorem flatMap_cut (paged : s.IsPaged) (start stop pos : Nat) :
    (Piece.cut s.pageSize start stop pos).flatMap s.pieceBytes =
      (List.range' pos (stop - pos)).map s.get := by
  induction pos using Piece.cut.induct s.pageSize stop with
  | case1 pos more length ih =>
    have small := Nat.mod_lt pos more.2
    have parts : stop - pos = length + (stop - (pos + length)) := by omega
    rw [Piece.cut, dif_pos more, List.flatMap_cons, ih, pieceBytes_eq _ (by omega), parts,
      ← List.map_append, ← List.range'_append, Nat.one_mul]
    congr 3
    omega
  | case2 pos ended =>
    have past : stop ≤ pos := Nat.not_lt.mp fun more => ended ⟨more, paged.pos⟩
    rw [Piece.cut, dif_neg ended]
    simp [Nat.sub_eq_zero_of_le past]

/-- A read gives the bytes of its range, if it ends within the length. -/
theorem read_eq (paged : s.IsPaged) {offset : Nat} {buffer : Bytes}
    (fits : offset + buffer.length ≤ Word.top) :
    s.read offset buffer =
      if s.length < offset + buffer.length then .error (.backend Code.outOfRange)
      else .ok ((List.range' offset buffer.length).map s.get) := by
  unfold read
  simp only [Word.clampedAdd_eq fits]
  split
  · rfl
  · simp [Piece.ofRange, flatMap_cut paged]

end Read

section Write

variable {data : Array UInt8}

theorem page_storePiece (data : Array UInt8) (s : Sparse) (p : Piece) (number : Nat) :
    (storePiece data s p).page number =
      if number = p.page then
        (s.page p.page).store p.inPage (data.extract p.inRange (p.inRange + p.length)).toList
      else s.page number := by
  unfold storePiece page
  dsimp only
  rw [Std.TreeMap.getElem?_insert]
  by_cases same : number = p.page
  · subst same
    simp
  · have different : p.page ≠ number := fun h => same h.symm
    simp [same, different]

theorem IsPaged.storePiece (paged : s.IsPaged) (data : Array UInt8) (p : Piece) :
    (s.storePiece data p).IsPaged where
  pos := paged.pos
  page number := by
    rw [page_storePiece]
    split
    · exact paged.page p.page
    · exact paged.page number
  length := paged.length

/-- Storing a piece changes its bytes. -/
theorem get_storePiece (paged : s.IsPaged) {start pos len : Nat}
    (inside : pos % s.pageSize + len ≤ s.pageSize) (after : start ≤ pos)
    (enough : pos + len - start ≤ data.size) (i : Nat) :
    (storePiece data s ⟨pos / s.pageSize, pos % s.pageSize, pos - start, len⟩).get i =
      if pos ≤ i ∧ i < pos + len then data.getD (i - start) 0 else s.get i := by
  have small : i % s.pageSize < (s.page (pos / s.pageSize)).length := by
    rw [paged.page]
    exact Nat.mod_lt i paged.pos
  have length : (data.extract (pos - start) (pos - start + len)).toList.length = len := by
    simp
    omega
  have stored := Cells.get_store (pos % s.pageSize)
    (data.extract (pos - start) (pos - start + len)).toList small
  change ((storePiece data s _).page (i / s.pageSize)).get (i % s.pageSize) = _
  rw [page_storePiece]
  by_cases within : pos ≤ i ∧ i < pos + len
  · obtain ⟨k, rfl⟩ := Nat.exists_eq_add_of_le within.1
    have inside : pos % s.pageSize + k < s.pageSize := by omega
    obtain ⟨page, place⟩ := place_add inside
    have moved : pos + k - start = pos - start + k := by omega
    rw [if_pos page, if_pos within, stored, place, if_pos (Nat.le_add_right ..),
      Nat.add_sub_cancel_left, moved, List.getD_eq_getElem _ _ (by omega), Array.getD,
      dif_pos (by omega)]
    simp
  · rw [if_neg within]
    split
    case isFalse => rfl
    case isTrue same =>
      -- The piece lies wholly before or behind this place of the page.
      have same : i / s.pageSize = pos / s.pageSize := same
      have here := Nat.div_add_mod i s.pageSize
      have there := Nat.div_add_mod pos s.pageSize
      rw [same] at here
      have old : s.get i = (s.page (pos / s.pageSize)).get (i % s.pageSize) := by rw [get, same]
      rw [stored, old]
      split
      · exact List.getD_eq_default _ _ (by omega)
      · rfl

/-- Storing the pieces of a range changes its bytes. -/
theorem foldl_cut (paged : s.IsPaged) {start stop pos : Nat} (after : start ≤ pos)
    (enough : stop - start ≤ data.size) :
    let stored := (Piece.cut s.pageSize start stop pos).foldl (storePiece data) s
    stored.IsPaged ∧ stored.pageSize = s.pageSize ∧ stored.length = s.length ∧
      ∀ i, stored.get i = if pos ≤ i ∧ i < stop then data.getD (i - start) 0 else s.get i := by
  generalize size : s.pageSize = pageSize
  induction pos using Piece.cut.induct pageSize stop generalizing s
  case case1 pos more length ih =>
    subst size
    have small := Nat.mod_lt pos more.2
    let p : Piece := ⟨pos / s.pageSize, pos % s.pageSize, pos - start, length⟩
    obtain ⟨paged', size, same, bytes⟩ := ih (paged.storePiece data p) (by omega) rfl
    rw [Piece.cut, dif_pos more, List.foldl_cons]
    refine ⟨paged', size, same, fun i => ?_⟩
    rw [bytes, get_storePiece paged (by omega) after (by omega)]
    by_cases first : pos ≤ i ∧ i < pos + length
    · rw [if_pos first, ite_self, if_pos (by omega)]
    · rw [if_neg first]
      exact if_congr (by omega) rfl rfl
  case case2 pos ended =>
    have past : stop ≤ pos := Nat.not_lt.mp fun more => ended ⟨more, size ▸ paged.pos⟩
    rw [Piece.cut, dif_neg ended]
    refine ⟨paged, size, rfl, fun i => ?_⟩
    rw [if_neg (by omega)]
    rfl

/-- A write whose end is no address is refused. -/
theorem write_of_overflow {offset : Nat} {bytes : Bytes}
    (overflow : Word.top < offset + bytes.length) :
    s.write offset bytes = .error (.backend Code.invalid) := by
  have none : Word.checkedAdd? offset bytes.length = none := if_neg (by omega)
  simp [write, none]

/-- Any other write changes the bytes of its range, and the length is at least its end. -/
theorem write_of_fits (paged : s.IsPaged) {offset : Nat} {bytes : Bytes}
    (fits : offset + bytes.length ≤ Word.top) : ∃ s', s.write offset bytes = .ok s' ∧ s'.IsPaged ∧
      s'.pageSize = s.pageSize ∧ s'.length = max s.length (offset + bytes.length) ∧
      ∀ i, s'.get i =
        if offset ≤ i ∧ i < offset + bytes.length then bytes.getD (i - offset) 0 else s.get i := by
  have some : Word.checkedAdd? offset bytes.length = some (offset + bytes.length) := if_pos fits
  have enough : offset + bytes.length - offset ≤ bytes.toArray.size := by simp
  obtain ⟨paged', size, same, stored⟩ := foldl_cut paged (Nat.le_refl offset) enough
  refine ⟨{ (Piece.ofRange s.pageSize offset (offset + bytes.length)).foldl
    (storePiece bytes.toArray) s with length := max s.length (offset + bytes.length) }, ?_, ?_,
    size, rfl, fun i => ?_⟩
  · simp only [write, some]
  · exact ⟨paged'.pos, paged'.page, Nat.max_le.mpr ⟨paged.length, fits⟩⟩
  · exact (stored i).trans (by simp)

end Write

section Erase

/-- The pages when the addresses from `start` up to `stop` have been erased. -/
def without (s : Sparse) (start stop : Nat) : Sparse :=
  { s with pages := s.pages.filterMap (erasePage s.pageSize start stop) }

theorem page_without (s : Sparse) (start stop number : Nat) :
    (s.without start stop).page number = match s.pages[number]? with
      | none => Cells.zeros s.pageSize
      | some cells =>
        (erasePage s.pageSize start stop number cells).getD (Cells.zeros s.pageSize) := by
  unfold without page
  rw [Std.TreeMap.getElem?_filterMap']
  cases s.pages[number]? <;> rfl

theorem page_of_some {number : Nat} {cells : Cells} (held : s.pages[number]? = some cells) :
    s.page number = cells := by
  simp [page, held]

theorem IsPaged.without (paged : s.IsPaged) (start stop : Nat) :
    (s.without start stop).IsPaged where
  pos := paged.pos
  page number := by
    rw [page_without]
    split
    case h_1 => rfl
    case h_2 cells held =>
      unfold erasePage
      dsimp only
      split
      · rfl
      · exact page_of_some held ▸ paged.page number
  length := paged.length

theorem get_without (paged : s.IsPaged) (start stop i : Nat) :
    (s.without start stop).get i = if start ≤ i ∧ i < stop then 0 else s.get i := by
  have place := Nat.div_add_mod' i s.pageSize
  have small := Nat.mod_lt i paged.pos
  change ((s.without start stop).page (i / s.pageSize)).get (i % s.pageSize) = _
  rw [page_without]
  split
  case h_1 absent =>
    have zero : s.get i = 0 := by simp [get, page, absent, Cells.get_zeros]
    rw [Cells.get_zeros, zero, ite_self]
  case h_2 cells held =>
    have old : s.get i = cells.get (i % s.pageSize) := by rw [get, page_of_some held]
    unfold erasePage
    dsimp only
    split
    case isTrue whole => rw [if_pos (by omega)]; exact Cells.get_zeros _ _
    case isFalse =>
      rw [old, Option.getD_some, Cells.get_clear]
      exact if_congr (by omega) rfl rfl

/-- Erasing makes those bytes of the range zero that lie below the length. -/
theorem erase_eq (paged : s.IsPaged) (offset size : Nat) :
    let erased := (s.erase offset size).2
    erased.IsPaged ∧ erased.pageSize = s.pageSize ∧ erased.length = s.length ∧
      ∀ i, erased.get i = if offset ≤ i ∧ i < offset + size ∧ i < s.length then 0 else s.get i := by
  have bound := paged.length
  have stop : min (Word.clampedAdd offset size) s.length = min (offset + size) s.length := by
    unfold Word.clampedAdd
    omega
  unfold erase
  simp only [stop]
  split
  case isTrue nothing =>
    refine ⟨paged, rfl, rfl, fun i => ?_⟩
    rw [if_neg (by omega)]
  case isFalse =>
    refine ⟨paged.without .., rfl, rfl, fun i => ?_⟩
    refine (get_without paged ..).trans (if_congr ?_ rfl rfl)
    omega

end Erase

section Serve

variable {r : Request} {bytes : Bytes} {s' : Sparse} {e : Error}

theorem serve_of_read (read : s.read r.offset r.data = .ok bytes) :
    s.serve .read r = ({ data := some bytes, result := .ok (some bytes.length) }, s) := by
  simp only [serve, read]

theorem serve_of_unread (unread : s.read r.offset r.data = .error e) :
    s.serve .read r = ({ result := .error e }, s) := by
  simp only [serve, unread]

theorem serve_of_written (written : s.write r.offset r.data = .ok s') :
    s.serve .write r = ({ result := .ok (some r.data.length) }, s') := by
  simp only [serve, written]

theorem serve_of_unwritten (unwritten : s.write r.offset r.data = .error e) :
    s.serve .write r = ({ result := .error e }, s) := by
  simp only [serve, unwritten]

end Serve

end Sparse

end StorageEngine
