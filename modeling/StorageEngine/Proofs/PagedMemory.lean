import Mathlib.Data.Finset.Card
import Mathlib.Order.Interval.Finset.Nat
import StorageEngine.Proofs.FlatMemory
import StorageEngine.Proofs.Served

/-!
# Paged memory is a flat array with a set of pages

A memory device does what a flat array does: a byte at every address, a length, and a set of page
numbers (`FlatMemory`).  Whatever its handlers are called with, in whatever order, the requests end
alike on both (`Sparse.serveAll_eq_flat`).

The bytes are followed in `FlatMemory.lean`; here are the pages.  A page takes room exactly when a
write has stored something in it and nothing has let go of it since: no destruction, and no erasure
that reached every address of the page (`FlatMemory.Holds`).

* `Sparse.mem_pages_write`, `Sparse.mem_pages_erase` — what the operations do to the pages;
* `FlatMemory.Represents.serve` — one request ends alike on both and leaves them alike;
* `FlatMemory.mem_pages_iff` — which pages there are, told by the history alone.
-/

namespace StorageEngine

/-- A byte at every address, a length, and the pages that take room. -/
structure FlatMemory where
  bytes : Nat → UInt8 := fun _ => 0
  length : Nat := 0
  pages : Finset Nat := ∅

namespace FlatMemory

/-- The addresses that the bytes of a write go to. -/
def target (r : Request) : Finset Nat :=
  Finset.Ico r.offset (r.offset + r.data.length)

/-- The addresses that an erasure reaches: those of its range that lie below the length. -/
def reach (m : FlatMemory) (r : Request) : Finset Nat :=
  (Finset.Ico r.offset (r.offset + r.size)).filter (· < m.length)

/-- Every address of the page is among these. -/
def Covers (pageSize : Nat) (addresses : Finset Nat) (page : Nat) : Prop :=
  ∀ k < pageSize, page * pageSize + k ∈ addresses

instance (pageSize : Nat) (addresses : Finset Nat) (page : Nat) :
    Decidable (Covers pageSize addresses page) :=
  inferInstanceAs (Decidable (∀ k < pageSize, page * pageSize + k ∈ addresses))

/-- The bytes of a write are stored, and the pages that they lie in take room. -/
def store (pageSize : Nat) (m : FlatMemory) (r : Request) : FlatMemory where
  bytes i := if i ∈ target r then r.data.getD (i - r.offset) 0 else m.bytes i
  length := max m.length (r.offset + r.data.length)
  pages := m.pages ∪ (target r).image (· / pageSize)

/-- These addresses are erased, and the pages that lie wholly among them take no more room. -/
def clear (pageSize : Nat) (m : FlatMemory) (addresses : Finset Nat) : FlatMemory where
  bytes i := if i ∈ addresses then 0 else m.bytes i
  length := m.length
  pages := m.pages.filter fun page => ¬ Covers pageSize addresses page

/-- What each handler does, and how it finishes the request. -/
def serve (pageSize : Nat) (m : FlatMemory) (h : Handler) (r : Request) : Verdict × FlatMemory :=
  match h with
  | .openReadOnly | .openReadWrite | .close => ({ result := .ok (some 0) }, m)
  | .read =>
    if m.length < r.offset + r.data.length then
      ({ result := .error (.backend Code.outOfRange) }, m)
    else
      ({ data := some ((List.range' r.offset r.data.length).map m.bytes)
         result := .ok (some r.data.length) }, m)
  | .write =>
    if Word.top < r.offset + r.data.length then ({ result := .error (.backend Code.invalid) }, m)
    else ({ result := .ok (some r.data.length) }, m.store pageSize r)
  | .delete => ({ result := .ok (some (m.reach r).card) }, m.clear pageSize (m.reach r))
  | .stat =>
    ({ stats := some ⟨m.length, some (.pages pageSize m.pages.card)⟩, result := .ok none }, m)
  | .destroy => ({ result := .ok (some 0) }, {})

/-- A flat array after these requests. -/
def after (pageSize : Nat) (calls : List (Handler × Request)) : FlatMemory :=
  (serveAll (serve pageSize) {} calls).2

/-- A request stores something in a page: a write that is not refused, of a byte that lies there. -/
def Touches (pageSize page : Nat) (h : Handler) (r : Request) : Prop :=
  h = .write ∧ r.offset + r.data.length ≤ Word.top ∧ ∃ i ∈ target r, i / pageSize = page

/-- A request lets go of a page: a destruction, or an erasure that reaches the whole page. -/
def LetsGo (pageSize page : Nat) (m : FlatMemory) (h : Handler) (r : Request) : Prop :=
  h = .destroy ∨ h = .delete ∧ Covers pageSize (m.reach r) page

/-- Something was stored in the page, and nothing has let go of it since. -/
def Holds (pageSize : Nat) (calls : List (Handler × Request)) (page : Nat) : Prop :=
  ∃ before h r later, calls = before ++ (h, r) :: later ∧ Touches pageSize page h r ∧
    ∀ between h' r' rest, later = between ++ (h', r') :: rest →
      ¬ LetsGo pageSize page (after pageSize (before ++ (h, r) :: between)) h' r'

section Pages

variable {pageSize page : Nat} {m : FlatMemory} {h : Handler} {r : Request}
  {calls : List (Handler × Request)}

theorem mem_target {i : Nat} : i ∈ target r ↔ r.offset ≤ i ∧ i < r.offset + r.data.length :=
  Finset.mem_Ico

theorem mem_reach {i : Nat} :
    i ∈ m.reach r ↔ r.offset ≤ i ∧ i < r.offset + r.size ∧ i < m.length := by
  simp [reach]

/-- The addresses that an erasure reaches form one range. -/
theorem card_reach : (m.reach r).card = min (r.offset + r.size) m.length - r.offset := by
  have range : m.reach r = Finset.Ico r.offset (min (r.offset + r.size) m.length) := by
    ext i
    rw [mem_reach, Finset.mem_Ico]
    omega
  rw [range, Nat.card_Ico]

/-- A page lies wholly in a range if both its ends do. -/
theorem covers_reach_iff (pos : 0 < pageSize) : Covers pageSize (m.reach r) page ↔
    r.offset ≤ page * pageSize ∧ page * pageSize + pageSize ≤ min (r.offset + r.size) m.length := by
  simp only [Covers, mem_reach]
  constructor
  · intro all
    have first := all 0 pos
    have last := all (pageSize - 1) (by omega)
    omega
  · intro ends k small
    omega

/-- What a request does to the pages. -/
theorem mem_pages_serve : page ∈ (m.serve pageSize h r).2.pages ↔
    Touches pageSize page h r ∨ page ∈ m.pages ∧ ¬ LetsGo pageSize page m h r := by
  cases h with
  | write =>
    unfold serve
    dsimp only
    split
    case isTrue refused =>
      have untouched : ¬ r.offset + r.data.length ≤ Word.top := Nat.not_le.mpr refused
      simp [Touches, LetsGo, untouched]
    case isFalse stored =>
      have touched : r.offset + r.data.length ≤ Word.top := Nat.not_lt.mp stored
      simp [Touches, LetsGo, store, touched, or_comm]
  | read =>
    unfold serve
    dsimp only
    split <;> simp [Touches, LetsGo]
  | _ => simp [serve, Touches, LetsGo, clear]

/-- One more request: the page is held if this one stores something in it, or if it was held and
this one does not let go of it. -/
theorem holds_concat : Holds pageSize (calls ++ [(h, r)]) page ↔
    Touches pageSize page h r ∨
      Holds pageSize calls page ∧ ¬ LetsGo pageSize page (after pageSize calls) h r := by
  constructor
  · rintro ⟨before, h₀, r₀, later, split, touches, kept⟩
    obtain rfl | ⟨later, last, rfl⟩ := later.eq_nil_or_concat'
    · obtain ⟨-, ends⟩ := List.append_inj' split rfl
      obtain ⟨rfl, rfl⟩ : h = h₀ ∧ r = r₀ := by simpa using ends
      exact .inl touches
    · rw [← List.cons_append, ← List.append_assoc] at split
      obtain ⟨rfl, ends⟩ := List.append_inj' split rfl
      obtain rfl : (h, r) = last := by simpa using ends
      refine .inr ⟨⟨before, h₀, r₀, later, rfl, touches, ?_⟩, kept later h r [] rfl⟩
      rintro between h' r' rest rfl
      exact kept between h' r' (rest ++ [(h, r)]) (by simp)
  · rintro (touches | ⟨⟨before, h₀, r₀, later, rfl, touches, kept⟩, keeps⟩)
    · exact ⟨calls, h, r, [], rfl, touches, by simp⟩
    · refine ⟨before, h₀, r₀, later ++ [(h, r)], by simp, touches, ?_⟩
      intro between h' r' rest split
      obtain rfl | ⟨rest, last, rfl⟩ := rest.eq_nil_or_concat'
      · obtain ⟨rfl, ends⟩ := List.append_inj' split rfl
        obtain ⟨rfl, rfl⟩ : h = h' ∧ r = r' := by simpa using ends
        exact keeps
      · rw [← List.cons_append, ← List.append_assoc] at split
        exact kept between h' r' rest (List.append_inj' split rfl).1

/-- Which pages take room is told by the history. -/
theorem mem_pages_iff : page ∈ (after pageSize calls).pages ↔ Holds pageSize calls page := by
  induction calls using List.reverseRecOn with
  | nil => simp [after, serveAll, Holds]
  | append_singleton calls call ih =>
    obtain ⟨h, r⟩ := call
    rw [holds_concat, ← ih, after, serveAll_concat, mem_pages_serve]
    rfl

end Pages

end FlatMemory

namespace Sparse

variable {s : Sparse}

/-- The pieces of a range lie in the pages that its addresses lie in. -/
theorem mem_pages_foldl (positive : 0 < s.pageSize) (data : Array UInt8) (start stop pos : Nat)
    (page : Nat) :
    page ∈ ((Piece.cut s.pageSize start stop pos).foldl (storePiece data) s).pages ↔
      page ∈ s.pages ∨ ∃ i, pos ≤ i ∧ i < stop ∧ i / s.pageSize = page := by
  generalize size : s.pageSize = pageSize
  induction pos using Piece.cut.induct pageSize stop generalizing s
  case case1 pos more length ih =>
    have small := Nat.mod_lt pos more.2
    have first : ∀ i, pos ≤ i → i < pos + length → i / pageSize = pos / pageSize := by
      intro i after before
      obtain ⟨k, rfl⟩ := Nat.exists_eq_add_of_le after
      exact (place_add (by omega)).1
    rw [Piece.cut, dif_pos more, List.foldl_cons]
    refine (ih (s := storePiece data s _) positive size).trans ?_
    simp only [storePiece, Std.TreeMap.mem_insert, Nat.compare_eq_eq]
    constructor
    · rintro ((rfl | old) | ⟨i, after, before, rfl⟩)
      · exact .inr ⟨pos, Nat.le_refl _, more.1, rfl⟩
      · exact .inl old
      · exact .inr ⟨i, by omega, before, rfl⟩
    · rintro (old | ⟨i, after, before, rfl⟩)
      · exact .inl (.inr old)
      · by_cases here : i < pos + length
        · exact .inl (.inl (first i after here).symm)
        · exact .inr ⟨i, Nat.le_of_not_lt here, before, rfl⟩
  case case2 pos ended =>
    have past : stop ≤ pos := Nat.not_lt.mp fun more => ended ⟨more, size ▸ positive⟩
    rw [Piece.cut, dif_neg ended]
    simp only [List.foldl_nil, iff_self_or, forall_exists_index]
    omega

/-- What a write that is not refused does to the pages. -/
theorem mem_pages_write {s' : Sparse} {r : Request} {page : Nat} (positive : 0 < s.pageSize)
    (written : s.write r.offset r.data = .ok s') :
    page ∈ s'.pages ↔ page ∈ s.pages ∨ ∃ i ∈ FlatMemory.target r, i / s.pageSize = page := by
  unfold write at written
  split at written
  case h_1 => simp at written
  case h_2 stop fits =>
    obtain ⟨-, rfl⟩ := Word.checkedAdd?_eq_some_iff.mp fits
    obtain rfl := Except.ok.inj written
    simp only [Piece.ofRange, mem_pages_foldl positive, FlatMemory.mem_target, and_assoc]

/-- An erasure says how many addresses it has reached. -/
theorem fst_erase (paged : s.IsPaged) (offset size : Nat) :
    (s.erase offset size).1 = min (offset + size) s.length - offset := by
  have bound := paged.length
  unfold erase Word.clampedAdd
  dsimp only
  split <;> omega

/-- An erasure lets go of the pages that lie wholly in its range, below the length. -/
theorem mem_pages_erase (paged : s.IsPaged) {r : Request} {page : Nat} {m : FlatMemory}
    (length : s.length = m.length) :
    page ∈ (s.erase r.offset r.size).2.pages ↔
      page ∈ s.pages ∧ ¬ FlatMemory.Covers s.pageSize (m.reach r) page := by
  have positive := paged.pos
  rw [FlatMemory.covers_reach_iff positive, ← length]
  have stop : min (Word.clampedAdd r.offset r.size) s.length =
      min (r.offset + r.size) s.length := by
    have bound := paged.length
    unfold Word.clampedAdd
    omega
  unfold erase
  simp only [stop]
  split
  case isTrue nothing =>
    simp only [iff_self_and]
    omega
  case isFalse =>
    rw [← Std.TreeMap.isSome_getElem?_iff_mem, ← Std.TreeMap.isSome_getElem?_iff_mem,
      Std.TreeMap.getElem?_filterMap']
    cases held : s.pages[page]? with
    | none => simp
    | some cells =>
      simp only [Option.bind_some, Option.isSome_some, true_and, erasePage]
      split <;> simp_all

end Sparse

namespace FlatMemory

variable {m : FlatMemory} {s : Sparse}

/-- A paged store holds what a flat array holds, in the same pages; nothing lies past its length. -/
structure Represents (m : FlatMemory) (s : Sparse) : Prop where
  paged : s.IsPaged
  length : s.length = m.length
  bytes : ∀ i, s.get i = m.bytes i
  pages : ∀ page, page ∈ s.pages ↔ page ∈ m.pages
  past : ∀ i, m.length ≤ i → m.bytes i = 0

theorem represents_empty {pageSize : Nat} (positive : 0 < pageSize) :
    ({} : FlatMemory).Represents (.empty pageSize) where
  paged := Sparse.isPaged_empty positive
  length := rfl
  bytes := Sparse.get_empty pageSize
  pages page := by simp [Sparse.empty]
  past _ _ := rfl

/-- As many pages take room in both. -/
theorem Represents.size_pages (same : m.Represents s) : s.pages.size = m.pages.card := by
  have distinct : s.pages.keys.Nodup :=
    s.pages.distinct_keys.imp fun apart equal => apart (Nat.compare_eq_eq.mpr equal)
  have keys : s.pages.keys.toFinset = m.pages := by
    ext page
    rw [List.mem_toFinset, Std.TreeMap.mem_keys, same.pages]
  rw [← keys, List.toFinset_card_of_nodup distinct, Std.TreeMap.length_keys]

/-- Where nothing lies past the length of a store, it does not past that of a page either. -/
theorem Represents.get_eq_zero (same : m.Represents s) {page : Nat} {cells : Cells}
    (held : s.pages[page]? = some cells) {k : Nat} (small : k < s.pageSize)
    (past : s.length ≤ page * s.pageSize + k) : cells.get k = 0 := by
  have here : (page * s.pageSize + k) / s.pageSize = page := by
    rw [Nat.mul_comm, Nat.mul_add_div same.paged.pos, Nat.div_eq_of_lt small, Nat.add_zero]
  have place : (page * s.pageSize + k) % s.pageSize = k := by
    rw [Nat.mul_comm, Nat.mul_add_mod, Nat.mod_eq_of_lt small]
  have byte := same.bytes (page * s.pageSize + k)
  rw [Sparse.get, here, place, Sparse.page_of_some held] at byte
  rw [byte, same.past _ (same.length ▸ past)]

/-- A request ends alike on both, and leaves them alike. -/
theorem Represents.serve (same : m.Represents s) {h : Handler} {r : Request}
    (fits : h = .read → r.offset + r.data.length ≤ Word.top) :
    (s.serve h r).1 = (m.serve s.pageSize h r).1 ∧ (s.serve h r).2.pageSize = s.pageSize ∧
      (m.serve s.pageSize h r).2.Represents (s.serve h r).2 := by
  cases h with
  | openReadOnly | openReadWrite | close => exact ⟨rfl, rfl, same⟩
  | destroy => exact ⟨rfl, rfl, represents_empty same.paged.pos⟩
  | stat =>
    refine ⟨?_, rfl, same⟩
    simp only [Sparse.serve, FlatMemory.serve, Sparse.stats, same.length, same.size_pages]
  | read =>
    have bytes : s.get = m.bytes := funext same.bytes
    have read := Sparse.read_eq same.paged (fits rfl)
    rw [same.length, bytes] at read
    unfold FlatMemory.serve
    dsimp only
    split
    case isTrue beyond =>
      rw [Sparse.serve_of_unread (read.trans (if_pos beyond))]
      exact ⟨rfl, rfl, same⟩
    case isFalse within =>
      rw [Sparse.serve_of_read (read.trans (if_neg within)), List.length_map, List.length_range']
      exact ⟨rfl, rfl, same⟩
  | write =>
    unfold FlatMemory.serve
    dsimp only
    split
    case isTrue overflow =>
      rw [Sparse.serve_of_unwritten (Sparse.write_of_overflow overflow)]
      exact ⟨rfl, rfl, same⟩
    case isFalse fits =>
      obtain ⟨s', written, paged, size, length, bytes⟩ :=
        Sparse.write_of_fits same.paged (Nat.not_lt.mp fits)
      rw [Sparse.serve_of_written written]
      refine ⟨rfl, size, paged, ?_, fun i => ?_, fun page => ?_, fun i past => ?_⟩
      · rw [length, same.length]
        rfl
      · rw [bytes, same.bytes]
        exact if_congr mem_target.symm rfl rfl
      · simp [Sparse.mem_pages_write same.paged.pos written, same.pages, store]
      · have past : max m.length (r.offset + r.data.length) ≤ i := past
        have beside : i ∉ target r := by
          rw [mem_target]
          omega
        exact (if_neg beside).trans (same.past i (by omega))
  | delete =>
    obtain ⟨paged, size, length, bytes⟩ := Sparse.erase_eq same.paged r.offset r.size
    refine ⟨?_, size, paged, ?_, fun i => ?_, fun page => ?_, fun i past => ?_⟩
    · simp only [Sparse.serve, FlatMemory.serve, card_reach, ← same.length]
      rw [Sparse.fst_erase same.paged]
    · exact length.trans same.length
    · rw [Sparse.serve, bytes, same.bytes, same.length]
      exact if_congr mem_reach.symm rfl rfl
    · rw [Sparse.serve, Sparse.mem_pages_erase same.paged same.length, same.pages]
      simp [FlatMemory.serve, clear]
    · have past : m.length ≤ i := past
      have beside : i ∉ m.reach r := by
        rw [mem_reach]
        omega
      exact (if_neg beside).trans (same.past i past)

end FlatMemory

section Refinement

variable {pageSize : Nat} {calls : List (Handler × Request)}

/-- Requests end alike on both, and leave them alike. -/
theorem FlatMemory.Represents.serveAll {m : FlatMemory} {s : Sparse} (same : m.Represents s)
    (size : s.pageSize = pageSize)
    (fits : ∀ call ∈ calls, call.1 = .read → call.2.offset + call.2.data.length ≤ Word.top) :
    (serveAll Sparse.serve s calls).1 = (serveAll (FlatMemory.serve pageSize) m calls).1 ∧
      (serveAll Sparse.serve s calls).2.pageSize = pageSize ∧
      (serveAll (FlatMemory.serve pageSize) m calls).2.Represents
        (serveAll Sparse.serve s calls).2 := by
  induction calls generalizing m s with
  | nil => exact ⟨rfl, size, same⟩
  | cons call calls ih =>
    obtain ⟨h, r⟩ := call
    obtain ⟨now, later⟩ := List.forall_mem_cons.mp fits
    obtain ⟨verdict, kept, left⟩ := same.serve now
    rw [size] at verdict kept left
    obtain ⟨verdicts, rest⟩ := ih left kept later
    exact ⟨congrArg₂ List.cons verdict verdicts, rest⟩

/-- **Paged memory is flat.**  Whatever its handlers are called with, as long as every read asks for
addresses that there are: the requests end as on a flat array, and the bytes and the length are its
bytes and its length.  A page takes room exactly if a write has stored something in it and neither a
destruction nor an erasure of the whole page has come since; a stat reports how many such pages
there are, and nothing lies past the length in any of them. -/
theorem Sparse.serveAll_eq_flat (positive : 0 < pageSize)
    (fits : ∀ call ∈ calls, call.1 = .read → call.2.offset + call.2.data.length ≤ Word.top) :
    let paged := serveAll Sparse.serve (.empty pageSize) calls
    let flat := serveAll (FlatMemory.serve pageSize) {} calls
    paged.1 = flat.1 ∧ paged.2.length = flat.2.length ∧
      (∀ i, paged.2.get i = flat.2.bytes i) ∧
      (∀ page, page ∈ paged.2.pages ↔ FlatMemory.Holds pageSize calls page) ∧
      (∃ pages : Finset Nat, (∀ page, page ∈ pages ↔ FlatMemory.Holds pageSize calls page) ∧
        paged.2.stats = ⟨flat.2.length, some (.pages pageSize pages.card)⟩) ∧
      ∀ page cells, paged.2.pages[page]? = some cells → ∀ k < pageSize,
        paged.2.length ≤ page * pageSize + k → cells.get k = 0 := by
  intro paged flat
  obtain ⟨verdicts, size, same⟩ :=
    FlatMemory.Represents.serveAll (FlatMemory.represents_empty positive) rfl fits
  have held (page : Nat) : page ∈ flat.2.pages ↔ FlatMemory.Holds pageSize calls page :=
    FlatMemory.mem_pages_iff
  refine ⟨verdicts, same.length, same.bytes, fun page => ?_, ⟨flat.2.pages, held, ?_⟩, ?_⟩
  · exact (same.pages page).trans (held page)
  · change Stats.mk _ (some (.pages _ _)) = _
    rw [size, same.size_pages, same.length]
    rfl
  · intro page cells taken k small past
    exact same.get_eq_zero taken (size ▸ small) (size ▸ past)

/-- A write over three pages, an erasure that reaches the second one as a whole and ends within the
first, a write past all addresses, and what can be read and asked after that. -/
theorem Sparse.serveAll_eq_flat_pages :
    let calls : List (Handler × Request) := [
      (.write, { id := 1, kind := .write, offset := 2, data := [1, 2, 3, 4, 5, 6, 7] }),
      (.delete, { id := 2, kind := .delete, offset := 3, size := 5 }),
      (.write, { id := 3, kind := .write, offset := Word.top, data := [9] }),
      (.read, { id := 4, kind := .read, offset := 2, data := [0, 0, 0, 0, 0, 0, 0] }),
      (.stat, { id := 5, kind := .stat })]
    0 < 4 ∧ (∀ call ∈ calls, call.1 = .read →
      call.2.offset + call.2.data.length ≤ Word.top) ∧
      (serveAll Sparse.serve (.empty 4) calls).1 = [
        { result := .ok (some 7) }, { result := .ok (some 5) },
        { result := .error (.backend Code.invalid) },
        { data := some [1, 0, 0, 0, 0, 0, 7], result := .ok (some 7) },
        { stats := some ⟨9, some (.pages 4 2)⟩, result := .ok none }] ∧
      FlatMemory.Holds 4 calls 2 ∧ ¬ FlatMemory.Holds 4 calls 1 := by
  intro calls
  have fits : ∀ call ∈ calls, call.1 = .read →
      call.2.offset + call.2.data.length ≤ Word.top := by decide
  have positive : 0 < 4 := by decide
  obtain ⟨verdicts, -, -, held, -⟩ := Sparse.serveAll_eq_flat positive fits
  have flat (page : Nat) : FlatMemory.Holds 4 calls page ↔ page = 0 ∨ page = 2 := by
    have pages : (FlatMemory.after 4 calls).pages = {0, 2} := by decide +kernel
    rw [← FlatMemory.mem_pages_iff, pages]
    simp
  exact ⟨positive, fits, verdicts.trans (by decide +kernel), by simp [flat], by simp [flat]⟩

end Refinement

end StorageEngine
