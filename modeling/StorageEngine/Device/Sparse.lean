import StorageEngine.Device.Cells
import StorageEngine.Request
import StorageEngine.Word

/-!
# Sparse paged memory

Bytes at any 64-bit address, kept in pages of one size.  A page exists once something was stored in
it and until it is erased as a whole; the bytes of a page that does not exist are zero.  The store
also has a length, and reads have to end within it.

A range of addresses is cut at the page boundaries into `Piece`s; reading and storing go piece by
piece.  Erasing looks at the pages that there are: one that lies wholly in the range goes, and what
the range covers of another is filled with zeros.
-/

namespace StorageEngine

/-- The part of a range that lies in one page: `length` bytes, from `inPage` on in the page and from
`inRange` on in the range. -/
structure Piece where
  page : Nat
  inPage : Nat
  inRange : Nat
  length : Nat
  deriving DecidableEq, Inhabited

namespace Piece

/-- The pieces of the range from `start` to `stop` that lie at or after `pos`. -/
def cut (pageSize start stop pos : Nat) : List Piece :=
  if _h : pos < stop ∧ 0 < pageSize then
    let length := min (pageSize - pos % pageSize) (stop - pos)
    { page := pos / pageSize, inPage := pos % pageSize, inRange := pos - start, length } ::
      cut pageSize start stop (pos + length)
  else []
termination_by stop - pos
decreasing_by
  have := Nat.mod_lt pos _h.2
  omega

/-- The pieces of the range from `start` to `stop`. -/
def ofRange (pageSize start stop : Nat) : List Piece :=
  cut pageSize start stop start

example : ofRange 4 2 11 = [⟨0, 2, 0, 2⟩, ⟨1, 0, 2, 4⟩, ⟨2, 0, 6, 3⟩] := by
  decide +kernel

end Piece

/-- A paged store. -/
structure Sparse where
  pageSize : Nat
  pages : Std.TreeMap Nat Cells := {}
  length : Nat := 0

namespace Sparse

/-- The page size of a store for which none was asked. -/
def defaultPageSize : Nat := 65536

/-- An empty store. -/
def empty (pageSize : Nat) : Sparse :=
  { pageSize }

instance : Inhabited Sparse := ⟨empty defaultPageSize⟩

/-- The cells of a page. -/
def page (s : Sparse) (number : Nat) : Cells :=
  s.pages[number]?.getD (Cells.zeros s.pageSize)

/-- The bytes of one piece. -/
def pieceBytes (s : Sparse) (p : Piece) : Bytes :=
  (s.page p.page).read p.inPage p.length

/-- Fills `buffer` from the addresses that start at `offset`.  The end of the range is clamped to
the largest word before it is compared with the length; only the clamped range is filled. -/
def read (s : Sparse) (offset : Nat) (buffer : Bytes) : Except Error Bytes :=
  let stop := Word.clampedAdd offset buffer.length
  if s.length < stop then .error (.backend Code.outOfRange)
  else
    .ok ((Piece.ofRange s.pageSize offset stop).flatMap s.pieceBytes ++
      buffer.drop (stop - offset))

/-- Stores one piece of `data`. -/
def storePiece (data : Array UInt8) (s : Sparse) (p : Piece) : Sparse :=
  let bytes := (data.extract p.inRange (p.inRange + p.length)).toList
  { s with pages := s.pages.insert p.page ((s.page p.page).store p.inPage bytes) }

/-- Stores `data` at the addresses that start at `offset`.  The length becomes at least the end of
the range, also if there is nothing to store. -/
def write (s : Sparse) (offset : Nat) (data : Bytes) : Except Error Sparse :=
  match Word.checkedAdd? offset data.length with
  | none => .error (.backend Code.invalid)
  | some stop =>
    let stored := (Piece.ofRange s.pageSize offset stop).foldl (storePiece data.toArray) s
    .ok { stored with length := max s.length stop }

/-- What is left of a page when the addresses from `start` up to `stop` are erased. -/
def erasePage (pageSize start stop number : Nat) (cells : Cells) : Option Cells :=
  let first := number * pageSize
  if start ≤ first ∧ first + pageSize ≤ stop then none
  else some (cells.clear (start - first) (stop - first))

/-- Erases what of the range lies below the length, and says how many bytes that are. -/
def erase (s : Sparse) (offset size : Nat) : Nat × Sparse :=
  let stop := min (Word.clampedAdd offset size) s.length
  if stop ≤ offset then (0, s)
  else
    (stop - offset, { s with pages := s.pages.filterMap (erasePage s.pageSize offset stop) })

/-- The length, with the page size and the number of pages. -/
def stats (s : Sparse) : Stats where
  size := s.length
  extended := some (.pages s.pageSize s.pages.size)

/-- What each handler does to the store, and how it finishes the request. -/
def serve (s : Sparse) (h : Handler) (r : Request) : Verdict × Sparse :=
  match h with
  | .openReadOnly | .openReadWrite | .close => ({ result := .ok (some 0) }, s)
  | .read =>
    match s.read r.offset r.data with
    | .ok bytes => ({ data := some bytes, result := .ok (some bytes.length) }, s)
    | .error e => ({ result := .error e }, s)
  | .write =>
    match s.write r.offset r.data with
    | .ok s => ({ result := .ok (some r.data.length) }, s)
    | .error e => ({ result := .error e }, s)
  | .delete =>
    let (erased, s) := s.erase r.offset r.size
    ({ result := .ok (some erased) }, s)
  | .stat => ({ stats := some s.stats, result := .ok none }, s)
  | .destroy => ({ result := .ok (some 0) }, empty s.pageSize)

end Sparse

end StorageEngine
