import Mathlib.Data.List.Chain
import StorageEngine.Device.Sparse

/-!
# The pieces of a range tile it

Whatever paged memory does to a range of addresses, it does piece by piece.  The pieces come from a
walk through the range: at each position it looks at what is left of the page there and of the
range, takes the smaller of the two, and goes on behind it.  `Tiling.step?` is one step of that walk
with all its sums and differences made in 64 bits; it gives up where one of them is no word.

* `Tiling.step?_eq` — no sum and no difference of a step leaves the words;
* `Tiling.walk_cut` — the walk comes to its end, and has given the pieces of `Piece.cut`;
* `Piece.Fits.next`, `Piece.fits_cut` — where one piece lies, and where all pieces lie;
* `Tiling.walk_tiles` — the pieces tile the range.
-/

namespace StorageEngine

/-- The difference, if it is a word. -/
def Word.checkedSub? (a b : Nat) : Option Nat :=
  if b ≤ a then some (a - b) else none

theorem Word.checkedSub?_eq {a b : Nat} (h : b ≤ a) : checkedSub? a b = some (a - b) :=
  if_pos h

theorem Word.checkedAdd?_eq {a b : Nat} (h : a + b ≤ top) : checkedAdd? a b = some (a + b) :=
  if_pos h

/-- The numbers from `start` on that are less than `stop`. -/
structure Bounds where
  start : Nat
  stop : Nat
  deriving DecidableEq, Inhabited

namespace Bounds

/-- How many numbers these are. -/
def length (b : Bounds) : Nat :=
  b.stop - b.start

/-- The numbers themselves. -/
def toList (b : Bounds) : List Nat :=
  List.range' b.start b.length

end Bounds

/-- A piece as a walk gives it: its page, and its bounds in the page and in the range. -/
structure Tile where
  page : Nat
  inPage : Bounds
  inRange : Bounds
  deriving DecidableEq, Inhabited

/-- The bounds of a piece. -/
def Piece.tile (p : Piece) : Tile where
  page := p.page
  inPage := ⟨p.inPage, p.inPage + p.length⟩
  inRange := ⟨p.inRange, p.inRange + p.length⟩

namespace Tiling

/-- One step of the walk through the range from `start` to `stop`, at `pos`: the piece there and the
position behind it, or nothing more at the end of the range.  Gives up where a sum or a difference
is no word. -/
def step? (pageSize start stop pos : Nat) : Option (Option (Tile × Nat)) :=
  if stop ≤ pos then some none
  else do
    let inPage := pos % pageSize
    let room ← Word.checkedSub? pageSize inPage
    let rest ← Word.checkedSub? stop pos
    let length := min room rest
    let inRange ← Word.checkedSub? pos start
    let behind ← Word.checkedAdd? pos length
    let inPageStop ← Word.checkedAdd? inPage length
    let inRangeStop ← Word.checkedAdd? inRange length
    return some (⟨pos / pageSize, ⟨inPage, inPageStop⟩, ⟨inRange, inRangeStop⟩⟩, behind)

/-- The walk from `pos` on comes to its end, and gives these pieces before. -/
inductive Walk (pageSize start stop : Nat) : Nat → List Tile → Prop
  | ended {pos : Nat} (done : step? pageSize start stop pos = some none) :
      Walk pageSize start stop pos []
  | gone {pos behind : Nat} {t : Tile} {tiles : List Tile}
      (now : step? pageSize start stop pos = some (some (t, behind)))
      (later : Walk pageSize start stop behind tiles) : Walk pageSize start stop pos (t :: tiles)

end Tiling

namespace Piece

variable {pageSize start stop pos : Nat}

/-- The piece at `pos`. -/
def next (pageSize start stop pos : Nat) : Piece where
  page := pos / pageSize
  inPage := pos % pageSize
  inRange := pos - start
  length := min (pageSize - pos % pageSize) (stop - pos)

theorem cut_of_lt (positive : 0 < pageSize) (more : pos < stop) :
    cut pageSize start stop pos = next pageSize start stop pos ::
      cut pageSize start stop (pos + (next pageSize start stop pos).length) := by
  rw [cut, dif_pos ⟨more, positive⟩]
  rfl

theorem cut_of_le (past : stop ≤ pos) : cut pageSize start stop pos = [] := by
  rw [cut, dif_neg]
  rintro ⟨more, -⟩
  exact absurd more (Nat.not_lt.mpr past)

/-- Induction over a walk: at its end, and from the position behind a piece to that of the piece. -/
theorem cut_induction {motive : Nat → Prop} (positive : 0 < pageSize) (start stop : Nat)
    (ended : ∀ pos, stop ≤ pos → motive pos)
    (gone : ∀ pos, pos < stop → motive (pos + (next pageSize start stop pos).length) → motive pos)
    (pos : Nat) : motive pos := by
  induction pos using cut.induct pageSize stop with
  | case1 pos more length ih => exact gone pos more.1 ih
  | case2 pos past => exact ended pos (Nat.not_lt.mp fun more => past ⟨more, positive⟩)

/-- Where a piece of a range lies. -/
structure Fits (pageSize start stop : Nat) (p : Piece) : Prop where
  nonempty : 0 < p.length
  inside : p.inPage + p.length ≤ pageSize
  place : p.page * pageSize + p.inPage = start + p.inRange
  whole : p.length = pageSize ↔
    start ≤ p.page * pageSize ∧ p.page * pageSize + pageSize ≤ stop

/-- The next of two pieces lies behind the first one, on the page behind its page. -/
def Precedes (p q : Piece) : Prop :=
  q.page = p.page + 1 ∧ q.inRange = p.inRange + p.length

/-- The bounds of a piece that lies where it should. -/
theorem Fits.tile {p : Piece} (fits : Fits pageSize start stop p) :
    let t := p.tile
    t.inPage.start < t.inPage.stop ∧ t.inPage.stop ≤ pageSize ∧
      t.inRange.start < t.inRange.stop ∧ t.inPage.length = t.inRange.length ∧
      t.page * pageSize + t.inPage.start = start + t.inRange.start ∧
      (t.inPage = ⟨0, pageSize⟩ ↔
        start ≤ t.page * pageSize ∧ t.page * pageSize + pageSize ≤ stop) := by
  intro t
  obtain ⟨nonempty, inside, place, whole⟩ := fits
  have all : t.inPage = ⟨0, pageSize⟩ ↔ p.length = pageSize := by
    simp only [t, Piece.tile, Bounds.mk.injEq]
    omega
  have long (start : Nat) : Bounds.length ⟨start, start + p.length⟩ = p.length :=
    Nat.add_sub_cancel_left ..
  refine ⟨?_, inside, ?_, (long _).trans (long _).symm, place, all.trans whole⟩
  · exact Nat.lt_add_of_pos_right nonempty
  · exact Nat.lt_add_of_pos_right nonempty

section Next

variable (positive : 0 < pageSize) (more : pos < stop)
include positive more

/-- A piece lies where it should if it begins with the range or with a page. -/
theorem Fits.next (after : start ≤ pos) (begins : pos = start ∨ pos % pageSize = 0) :
    Fits pageSize start stop (next pageSize start stop pos) := by
  have small : pos % pageSize < pageSize := Nat.mod_lt pos positive
  have place : pos / pageSize * pageSize + pos % pageSize = pos := Nat.div_add_mod' pos pageSize
  constructor
  · exact Nat.lt_min.mpr ⟨Nat.sub_pos_of_lt small, Nat.sub_pos_of_lt more⟩
  · simp only [Piece.next]
    omega
  · simp only [Piece.next]
    omega
  · -- Only the first piece can begin inside its page, and that page begins before the range then.
    simp only [Piece.next]
    omega

/-- Behind a piece the range is at its end, or the next page begins. -/
theorem behind_next (start : Nat) :
    let behind := pos + (next pageSize start stop pos).length
    stop ≤ behind ∨ behind = (pos / pageSize + 1) * pageSize := by
  intro behind
  have small : pos % pageSize < pageSize := Nat.mod_lt pos positive
  have place : pos / pageSize * pageSize + pos % pageSize = pos := Nat.div_add_mod' pos pageSize
  have page : (pos / pageSize + 1) * pageSize = pos / pageSize * pageSize + pageSize :=
    Nat.succ_mul ..
  simp only [behind, next, page]
  omega

/-- A piece precedes the one behind it. -/
theorem precedes_next (after : start ≤ pos) :
    let behind := pos + (next pageSize start stop pos).length
    behind < stop → Precedes (next pageSize start stop pos) (next pageSize start stop behind) := by
  intro behind further
  have page : behind = (pos / pageSize + 1) * pageSize :=
    (behind_next positive more start).resolve_left (Nat.not_le.mpr further)
  constructor
  · change behind / pageSize = pos / pageSize + 1
    rw [page, Nat.mul_div_cancel _ positive]
  · exact Nat.sub_add_comm after

end Next

section Cut

variable (positive : 0 < pageSize)
include positive

/-- All pieces lie where they should: behind each of them the walk is at its end or at the start of a
page. -/
theorem fits_cut (after : start ≤ pos) (begins : stop ≤ pos ∨ pos = start ∨ pos % pageSize = 0) :
    ∀ p ∈ cut pageSize start stop pos, Fits pageSize start stop p := by
  induction pos using cut_induction positive start stop with
  | ended pos past => simp [cut_of_le past]
  | gone pos more ih =>
    rw [cut_of_lt positive more]
    refine List.forall_mem_cons.mpr ⟨?_, ih (Nat.le_add_right_of_le after) ?_⟩
    · exact Fits.next positive more after (begins.resolve_left (Nat.not_le.mpr more))
    · rcases behind_next positive more start with past | page
      · exact .inl past
      · exact .inr (.inr (page ▸ Nat.mul_mod_left ..))

/-- Every piece precedes the next one. -/
theorem isChain_cut (after : start ≤ pos) : (cut pageSize start stop pos).IsChain Precedes := by
  induction pos using cut_induction positive start stop with
  | ended pos past => simp [cut_of_le past]
  | gone pos more ih =>
    rw [cut_of_lt positive more]
    refine List.isChain_cons.mpr ⟨fun q first => ?_, ih (Nat.le_add_right_of_le after)⟩
    rcases Nat.lt_or_ge (pos + (next pageSize start stop pos).length) stop with further | past
    · rw [cut_of_lt positive further, List.head?_cons, Option.mem_some_iff] at first
      exact first ▸ precedes_next positive more after further
    · simp [cut_of_le past] at first

/-- The pieces have everything from the position on that lies in the range, in order. -/
theorem flatMap_inRange (after : start ≤ pos) :
    (cut pageSize start stop pos).flatMap (fun p => p.tile.inRange.toList) =
      List.range' (pos - start) (stop - pos) := by
  induction pos using cut_induction positive start stop with
  | ended pos past => simp [cut_of_le past, Nat.sub_eq_zero_of_le past]
  | gone pos more ih =>
    have within : (next pageSize start stop pos).length ≤ stop - pos := Nat.min_le_right _ _
    generalize same : next pageSize start stop pos = p at ih within
    have first : p.inRange = pos - start := same ▸ rfl
    have parts : stop - pos = p.length + (stop - (pos + p.length)) := by omega
    have behind : pos + p.length - start = pos - start + p.length := Nat.sub_add_comm after
    have here : p.tile.inRange.toList = List.range' (pos - start) p.length := by
      simp [tile, Bounds.toList, Bounds.length, first]
    calc (cut pageSize start stop pos).flatMap (fun p => p.tile.inRange.toList)
        = List.range' (pos - start) p.length ++
            List.range' (pos + p.length - start) (stop - (pos + p.length)) := by
          rw [cut_of_lt positive more, same, List.flatMap_cons, here,
            ih (Nat.le_add_right_of_le after)]
      _ = List.range' (pos - start) (stop - pos) := by
          rw [behind, parts, ← List.range'_append_1]

end Cut

end Piece

namespace Tiling

variable {pageSize start stop pos : Nat}

/-- A step gives the piece at its position: all its sums and differences are words. -/
theorem step?_eq (positive : 0 < pageSize) (word : stop ≤ Word.top) (after : start ≤ pos)
    (more : pos < stop) :
    let p := Piece.next pageSize start stop pos
    step? pageSize start stop pos = some (some (p.tile, pos + p.length)) := by
  intro p
  have small : pos % pageSize < pageSize := Nat.mod_lt pos positive
  have low : pos % pageSize ≤ pos := Nat.mod_le pos pageSize
  have length : min (pageSize - pos % pageSize) (stop - pos) = p.length := rfl
  have within : p.length ≤ stop - pos := Nat.min_le_right _ _
  have room := Word.checkedSub?_eq (Nat.le_of_lt small)
  have rest := Word.checkedSub?_eq (Nat.le_of_lt more)
  have inRange := Word.checkedSub?_eq after
  have behind : Word.checkedAdd? pos p.length = some (pos + p.length) :=
    Word.checkedAdd?_eq (by omega)
  have inPageStop : Word.checkedAdd? (pos % pageSize) p.length = some (pos % pageSize + p.length) :=
    Word.checkedAdd?_eq (by omega)
  have inRangeStop : Word.checkedAdd? (pos - start) p.length = some (pos - start + p.length) :=
    Word.checkedAdd?_eq (by omega)
  unfold step?
  simp only [Nat.not_le.mpr more, if_false, room, rest, inRange, Option.bind_eq_bind,
    Option.bind_some, length, behind, inPageStop, inRangeStop]
  rfl

/-- The walk ends, and gives the pieces. -/
theorem walk_cut (positive : 0 < pageSize) (word : stop ≤ Word.top) (after : start ≤ pos) :
    Walk pageSize start stop pos ((Piece.cut pageSize start stop pos).map Piece.tile) := by
  induction pos using Piece.cut_induction positive start stop with
  | ended pos past =>
    rw [Piece.cut_of_le past]
    exact .ended (if_pos past)
  | gone pos more ih =>
    rw [Piece.cut_of_lt positive more]
    exact .gone (step?_eq positive word after more) (ih (Nat.le_add_right_of_le after))

/-- **The pieces of a range tile it.**  Whatever the page size and wherever the range begins and
ends, the largest word included, the walk through it comes to its end without any sum or difference
that is no word, and gives these pieces: none is empty, each lies in one page at the addresses of
its part of the range, and has a whole page exactly if that page lies wholly in the range.  From one
piece to the next the page number goes up by one and the parts of the range are adjacent; together
they are the whole range. -/
theorem walk_tiles (positive : 0 < pageSize) (word : stop ≤ Word.top) :
    let tiles := (Piece.ofRange pageSize start stop).map Piece.tile
    Walk pageSize start stop start tiles ∧
      (∀ t ∈ tiles, t.inPage.start < t.inPage.stop ∧ t.inPage.stop ≤ pageSize ∧
        t.inRange.start < t.inRange.stop ∧ t.inPage.length = t.inRange.length ∧
        t.page * pageSize + t.inPage.start = start + t.inRange.start ∧
        (t.inPage = ⟨0, pageSize⟩ ↔
          start ≤ t.page * pageSize ∧ t.page * pageSize + pageSize ≤ stop)) ∧
      tiles.IsChain (fun t u => u.page = t.page + 1 ∧ u.inRange.start = t.inRange.stop) ∧
      tiles.flatMap (fun t => t.inRange.toList) = List.range (stop - start) ∧
      (stop ≤ start → tiles = []) := by
  intro tiles
  refine ⟨walk_cut positive word (Nat.le_refl start), ?_, ?_, ?_, fun past => ?_⟩
  · intro t member
    obtain ⟨p, piece, rfl⟩ := List.mem_map.mp member
    exact (Piece.fits_cut positive (Nat.le_refl start) (.inr (.inl rfl)) p piece).tile
  · exact (List.isChain_map Piece.tile).mpr (Piece.isChain_cut positive (Nat.le_refl start))
  · have all : _ = List.range' (start - start) (stop - start) :=
      Piece.flatMap_inRange positive (Nat.le_refl start)
    rw [Nat.sub_self, ← List.range_eq_range'] at all
    exact (List.flatMap_map ..).trans all
  · exact congrArg (List.map Piece.tile) (Piece.cut_of_le past)

/-- The last addresses that there are, in pages of four bytes. -/
theorem walk_tiles_top :
    0 < 4 ∧ Word.top ≤ Word.top ∧
      Walk 4 (Word.top - 9) Word.top (Word.top - 9) [
        ⟨4611686018427387901, ⟨2, 4⟩, ⟨0, 2⟩⟩,
        ⟨4611686018427387902, ⟨0, 4⟩, ⟨2, 6⟩⟩,
        ⟨4611686018427387903, ⟨0, 3⟩, ⟨6, 9⟩⟩] := by
  have positive : 0 < 4 := by decide
  have word : Word.top ≤ Word.top := Nat.le_refl _
  obtain ⟨walk, -⟩ := @walk_tiles 4 (Word.top - 9) Word.top positive word
  have pieces : (Piece.ofRange 4 (Word.top - 9) Word.top).map Piece.tile = [
      ⟨4611686018427387901, ⟨2, 4⟩, ⟨0, 2⟩⟩, ⟨4611686018427387902, ⟨0, 4⟩, ⟨2, 6⟩⟩,
      ⟨4611686018427387903, ⟨0, 3⟩, ⟨6, 9⟩⟩] := by
    decide +kernel
  exact ⟨positive, word, pieces ▸ walk⟩

end Tiling

end StorageEngine
