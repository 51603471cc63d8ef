import Mathlib.Data.List.GetD
import StorageEngine.Device.Mapping
import StorageEngine.Proofs.Served

/-!
# Writes to a mapped file that fail

A write can fail in three ways: no file is open, its end is no address, or it would make the file
longer than a file can be.  The first two leave everything as it was, so that such a write could as
well have been left out (`MappedFile.failed_write`).

The third one is a growth that is refused, and by then the mapping is gone: `MappedFile.grow` lets
go of it before the length of the file is set.  The file is untouched, but nothing shows it any
more: it seems to be empty (`serve_hidden`), and since the next write seems to grow an empty file,
the file is cut to the end of that write (`Tracks.write_hidden`).

`MappedFile.Tracks` says what a device knows about its file, and whether that may have been lost.
As long as nothing was, the mapping shows the whole file, and a write neither makes the file shorter
nor changes a byte beside its own (`Tracks.keeps`).

* `Tracks.writing` — what a write can come to;
* `Tracks.serve` — every handler keeps track of the file.
-/

namespace StorageEngine

namespace Disk

variable {d d' : Disk} {name : String} {file : Nat}

/-- The contents of every file that has a name are there. -/
def IsSound (d : Disk) : Prop :=
  ∀ route number, (route, .file number) ∈ d.entries → number < d.contents.length

theorem cells_setCells (there : file < d.contents.length) (c : Cells) :
    (d.setCells file c).cells file = c := by
  simp [cells, setCells, there]

theorem length_contents_setCells (c : Cells) :
    (d.setCells file c).contents.length = d.contents.length :=
  List.length_set

theorem IsSound.setCells (sound : d.IsSound) (c : Cells) : (d.setCells file c).IsSound := by
  intro route number entry
  rw [length_contents_setCells]
  exact sound route number entry

/-- A file that a name leads to has its contents there. -/
theorem IsSound.lt_of_at (sound : d.IsSound) {route : Route}
    (found : d.at? route = some (.file file)) : file < d.contents.length := by
  unfold at? at found
  split at found
  case isTrue => simp at found
  case isFalse =>
    obtain ⟨before, later, split, -⟩ := List.lookup_eq_some_iff.mp found
    exact sound route file (by simp [split])

/-- A file that was opened for writing has its contents there. -/
theorem IsSound.openReadWrite (sound : d.IsSound) (opened : d.openReadWrite name = .ok (file, d')) :
    d'.IsSound ∧ file < d'.contents.length := by
  unfold Disk.openReadWrite at opened
  split at opened
  case h_4 route _ =>
    split at opened
    case h_1 found =>
      obtain ⟨rfl, rfl⟩ := Prod.mk.inj (Except.ok.inj opened)
      exact ⟨sound, sound.lt_of_at found⟩
    case h_2 => simp at opened
    case h_3 =>
      obtain ⟨rfl, rfl⟩ := Prod.mk.inj (Except.ok.inj opened)
      refine ⟨fun other number entry => ?_, ?_⟩
      · simp only [List.mem_append, List.mem_singleton, Prod.mk.injEq,
          DiskEntry.file.injEq, List.length_append, List.length_cons, List.length_nil] at entry ⊢
        rcases entry with old | ⟨-, rfl⟩
        · exact Nat.lt_succ_of_lt (sound other number old)
        · exact Nat.lt_succ_self _
      · simp
  all_goals simp at opened

theorem IsSound.remove (sound : d.IsSound) (removed : d.remove name = .ok d') : d'.IsSound := by
  have filtered : ∃ kept, d' = { d with entries := d.entries.filter kept } := by
    have all : d = { d with entries := d.entries.filter fun _ => true } := by
      rw [List.filter_eq_self.mpr fun _ _ => rfl]
    unfold Disk.remove at removed
    repeat' split at removed
    all_goals first
      | exact ⟨_, (Except.ok.inj removed).symm⟩
      | exact ⟨_, (Except.ok.inj removed).symm.trans all⟩
      | simp at removed
  obtain ⟨kept, rfl⟩ := filtered
  exact fun route number entry => sound route number (List.mem_filter.mp entry).1

/-- The disk when this file was made long enough for `length` bytes. -/
def extended (d : Disk) (file length : Nat) : Disk :=
  if (d.cells file).length < length then d.setLength file length else d

/-- The disk when bytes were stored in this file, made long enough for them. -/
def written (d : Disk) (file offset : Nat) (data : Bytes) : Disk :=
  (d.extended file (offset + data.length)).store file offset data

section Written

variable (there : file < d.contents.length)

theorem length_contents_extended (d : Disk) (file length : Nat) :
    (d.extended file length).contents.length = d.contents.length := by
  unfold extended
  split
  · exact length_contents_setCells _
  · rfl

include there in
theorem length_cells_extended (length : Nat) :
    ((d.extended file length).cells file).length = max (d.cells file).length length := by
  unfold extended
  split
  case isTrue longer =>
    rw [setLength, cells_setCells there]
    exact (Nat.max_eq_right (Nat.le_of_lt longer)).symm
  case isFalse enough => exact (Nat.max_eq_left (Nat.le_of_not_lt enough)).symm

include there in
/-- What a file is extended by is zero, as everything past its end. -/
theorem get_extended (length i : Nat) :
    ((d.extended file length).cells file).get i = (d.cells file).get i := by
  unfold extended
  split
  case isFalse => rfl
  case isTrue longer =>
    rw [setLength, cells_setCells there, Cells.get_resize]
    split
    · rfl
    · exact (Cells.get_of_length_le (by omega)).symm

include there in
theorem length_cells_written (offset : Nat) (data : Bytes) :
    ((d.written file offset data).cells file).length =
      max (d.cells file).length (offset + data.length) := by
  have there' := length_contents_extended d file (offset + data.length) ▸ there
  rw [written, store, cells_setCells there']
  exact length_cells_extended there _

include there in
/-- The bytes of the range are stored; the others stay. -/
theorem get_written (offset : Nat) (data : Bytes) (i : Nat) :
    ((d.written file offset data).cells file).get i =
      if offset ≤ i ∧ i < offset + data.length then data.getD (i - offset) 0
      else (d.cells file).get i := by
  have there' := length_contents_extended d file (offset + data.length) ▸ there
  have length := length_cells_extended there (offset + data.length)
  rw [written, store, cells_setCells there']
  by_cases within : i < ((d.extended file (offset + data.length)).cells file).length
  · rw [Cells.get_store _ _ within, get_extended there]
    by_cases here : offset ≤ i ∧ i < offset + data.length
    · rw [if_pos here.1, if_pos here, List.getD_eq_getElem _ _ (by omega),
        List.getD_eq_getElem _ _ (by omega)]
    · rw [if_neg here]
      split
      · exact List.getD_eq_default _ _ (by omega)
      · rfl
  · rw [if_neg (by omega), Cells.get_of_length_le, Cells.get_of_length_le]
    · omega
    · exact Nat.le_of_not_lt within

end Written

end Disk

namespace Request

/-- The range of a write ends here. -/
def stop (r : Request) : Nat :=
  r.offset + r.data.length

/-- No file is that long: this write cannot grow one, though its end is an address. -/
def Overgrows (r : Request) : Prop :=
  MappedFile.maxLength < r.stop ∧ r.stop ≤ Word.top

instance (r : Request) : Decidable r.Overgrows :=
  inferInstanceAs (Decidable (_ ∧ _))

end Request

namespace MappedFile

variable {lost : Prop} {m : MappedFile} {disk : Disk} {r : Request} {h : Handler}

theorem length_regionOf (disk : Disk) (file : Nat) (readOnly : Bool) :
    (regionOf disk file readOnly).length = (disk.cells file).length := by
  unfold regionOf
  split
  case h_1 none => exact none.symm
  case h_2 => cases readOnly <;> rfl

/-- A file that is open is open for writing, and its contents are there.  Its mapping shows the
whole of it, or nothing of it, which takes that it may have been `lost`. -/
structure Tracks (lost : Prop) (m : MappedFile) (disk : Disk) : Prop where
  sound : disk.IsSound
  writable : ∀ mapping, m.mapped = some mapping → mapping.writable = true
  there : ∀ mapping, m.mapped = some mapping → mapping.file < disk.contents.length
  region : ∀ mapping, m.mapped = some mapping →
    mapping.region = regionOf disk mapping.file false ∨ lost ∧ mapping.region = .empty

theorem Tracks.mono {lost' : Prop} (tracks : m.Tracks lost disk) (more : lost → lost') :
    m.Tracks lost' disk where
  sound := tracks.sound
  writable := tracks.writable
  there := tracks.there
  region mapping opened := (tracks.region mapping opened).imp_right (And.imp_left more)

/-- The mapping counts as empty. -/
def hide (m : MappedFile) : MappedFile :=
  { m with mapped := m.mapped.map fun mapping => { mapping with region := .empty } }

/-- The device when it has mapped its file anew. -/
def remapped (m : MappedFile) (mapping : Mapping) (disk : Disk) : MappedFile :=
  { m with mapped := some { mapping with region := regionOf disk mapping.file false } }

/-- The disk when a write has made a file longer than its mapping, if need be. -/
def grown (mapping : Mapping) (disk : Disk) (r : Request) : Disk :=
  if mapping.region.length < r.stop then disk.setLength mapping.file r.stop else disk

/-- The disk when a write has gone through. -/
def stored (mapping : Mapping) (disk : Disk) (r : Request) : Disk :=
  (grown mapping disk r).store mapping.file r.offset r.data

/-- What a write can come to. -/
inductive Writing (m : MappedFile) (disk : Disk) (r : Request) :
    Except Error Nat × MappedFile × Disk → Prop
  | closed (none : m.mapped = none) :
    Writing m disk r (.error (.backend Code.badDescriptor), m, disk)
  | empty (mapping : Mapping) (opened : m.mapped = some mapping) (nothing : r.data = []) :
    Writing m disk r (.ok 0, m, disk)
  | unaddressed (past : Word.top < r.stop) :
    Writing m disk r (.error (.backend Code.invalid), m, disk)
  | refused (mapping : Mapping) (opened : m.mapped = some mapping) (overgrows : r.Overgrows) :
    Writing m disk r (.error (.backend Code.io), m.hide, disk)
  | stored (mapping : Mapping) (opened : m.mapped = some mapping) (bytes : r.data ≠ []) :
    Writing m disk r (.ok r.data.length, m.remapped mapping (stored mapping disk r),
      stored mapping disk r)

section Writing

variable {mapping : Mapping} {file : Nat}

/-- What is mapped of a file is told by its length. -/
theorem regionOf_setCells (there : file < disk.contents.length) {c : Cells} {readOnly : Bool}
    (same : c.length = (disk.cells file).length) :
    regionOf (disk.setCells file c) file readOnly = regionOf disk file readOnly := by
  unfold regionOf
  rw [Disk.cells_setCells there, same]

theorem isSound_stored (sound : disk.IsSound) : (stored mapping disk r).IsSound := by
  unfold stored grown
  split
  · exact (sound.setCells _).setCells _
  · exact sound.setCells _

theorem length_contents_grown (mapping : Mapping) (disk : Disk) (r : Request) :
    (grown mapping disk r).contents.length = disk.contents.length := by
  unfold grown
  split
  · exact Disk.length_contents_setCells _
  · rfl

theorem length_contents_stored (mapping : Mapping) (disk : Disk) (r : Request) :
    (stored mapping disk r).contents.length = disk.contents.length :=
  (Disk.length_contents_setCells _).trans (length_contents_grown mapping disk r)

/-- After the bytes were stored, the file is mapped as before. -/
theorem regionOf_stored (there : mapping.file < disk.contents.length) :
    regionOf (stored mapping disk r) mapping.file false =
      regionOf (grown mapping disk r) mapping.file false :=
  regionOf_setCells (length_contents_grown mapping disk r ▸ there) rfl

theorem rangeEnd_eq (r : Request) : rangeEnd r.offset r.data.length =
    if r.stop ≤ Word.top then .ok r.stop else .error (.backend Code.invalid) := by
  by_cases address : r.offset + r.data.length ≤ Word.top
  · simp [rangeEnd, Word.checkedAdd?, Request.stop, address]
  · simp [rangeEnd, Word.checkedAdd?, Request.stop, address]

/-- What a file that holds something is mapped as. -/
theorem regionOf_eq (pos : 0 < (disk.cells file).length) :
    regionOf disk file false = .readWrite (disk.cells file).length := by
  unfold regionOf
  split
  case h_1 none => omega
  case h_2 => rfl

/-- A mapping that is not empty shows the whole file. -/
theorem Tracks.shown (tracks : m.Tracks lost disk) (opened : m.mapped = some mapping)
    (some : 0 < mapping.region.length) : mapping.region = regionOf disk mapping.file false := by
  rcases tracks.region mapping opened with shown | ⟨-, hidden⟩
  · exact shown
  · rw [hidden] at some
    exact (Nat.lt_irrefl 0 some).elim

/-- A write makes room for itself, unless no file is that long. -/
theorem Tracks.room (tracks : m.Tracks lost disk) (opened : m.mapped = some mapping)
    (bytes : 0 < r.stop) :
    (if mapping.region.length < r.stop then grow mapping disk r.stop else (.ok (), mapping, disk)) =
      if mapping.region.length < r.stop ∧ maxLength < r.stop then
        (.error (.backend Code.io), { mapping with region := .empty }, disk)
      else
        (.ok (), { mapping with region := regionOf (grown mapping disk r) mapping.file false },
          grown mapping disk r) := by
  have writable := tracks.writable mapping opened
  unfold grown
  by_cases longer : mapping.region.length < r.stop
  · simp [longer, grow, writable]
  · have shown := tracks.shown opened (by omega)
    simp [longer, ← shown]

theorem Tracks.stop_le_length_grown (tracks : m.Tracks lost disk)
    (opened : m.mapped = some mapping) (bytes : 0 < r.stop) :
    r.stop ≤ ((grown mapping disk r).cells mapping.file).length := by
  unfold grown
  split
  case isTrue =>
    rw [Disk.setLength, Disk.cells_setCells (tracks.there mapping opened)]
    exact Nat.le_refl _
  case isFalse enough =>
    rw [tracks.shown opened (by omega), length_regionOf] at enough
    exact Nat.le_of_not_lt enough

/-- Every write comes to one of these. -/
theorem Tracks.writing (tracks : m.Tracks lost disk) (r : Request) :
    Writing m disk r (m.writeAt disk r.offset r.data) := by
  cases opened : m.mapped with
  | none =>
    rw [writeAt, opened]
    exact .closed opened
  | some mapping =>
    have there := tracks.there mapping opened
    unfold writeAt
    rw [opened, rangeEnd_eq]
    dsimp only
    by_cases nothing : r.data = []
    · rw [if_pos (List.isEmpty_iff.mpr nothing)]
      exact .empty mapping opened nothing
    rw [if_neg (nothing ∘ List.isEmpty_iff.mp)]
    have bytes : 0 < r.stop := Nat.add_pos_right _ (List.length_pos_iff.mpr nothing)
    by_cases address : r.stop ≤ Word.top
    case neg =>
      rw [if_neg address]
      exact .unaddressed (Nat.lt_of_not_le address)
    rw [if_pos address]
    dsimp only
    rw [tracks.room opened bytes]
    by_cases overgrows : mapping.region.length < r.stop ∧ maxLength < r.stop
    · have hidden : m.hide = { m with mapped := some { mapping with region := .empty } } := by
        rw [hide, opened]
        rfl
      rw [if_pos overgrows]
      dsimp only
      rw [← hidden]
      exact .refused mapping opened ⟨overgrows.2, address⟩
    · have room := tracks.stop_le_length_grown opened bytes
      have region := regionOf_eq (Nat.lt_of_lt_of_le bytes room)
      have stored : Writing m disk r _ := .stored mapping opened nothing
      rw [remapped, regionOf_stored there] at stored
      rw [if_neg overgrows]
      dsimp only
      rw [region] at stored ⊢
      exact stored

end Writing

section Serving

variable {mapping : Mapping}

/-- A file that was mapped anew is shown. -/
theorem tracks_remapped (sound : disk.IsSound) (writable : mapping.writable = true)
    (there : mapping.file < disk.contents.length) : (m.remapped mapping disk).Tracks lost disk where
  sound := sound
  writable := by
    rintro _ ⟨⟩
    exact writable
  there := by
    rintro _ ⟨⟩
    exact there
  region := by
    rintro _ ⟨⟩
    exact .inl rfl

theorem tracks_unmap (sound : disk.IsSound) : m.unmap.Tracks lost disk where
  sound := sound
  writable := nofun
  there := nofun
  region := nofun

theorem Tracks.hide (tracks : m.Tracks lost disk) (may : lost) : m.hide.Tracks lost disk := by
  have hidden (mapping : Mapping) (opened : m.hide.mapped = some mapping) :
      ∃ shown, m.mapped = some shown ∧ mapping = { shown with region := .empty } := by
    obtain ⟨shown, before, same⟩ := Option.map_eq_some_iff.mp opened
    exact ⟨shown, before, same.symm⟩
  refine ⟨tracks.sound, fun mapping opened => ?_, fun mapping opened => ?_,
    fun mapping opened => ?_⟩
  · obtain ⟨shown, before, rfl⟩ := hidden mapping opened
    exact tracks.writable shown before
  · obtain ⟨shown, before, rfl⟩ := hidden mapping opened
    exact tracks.there shown before
  · obtain ⟨shown, -, rfl⟩ := hidden mapping opened
    exact .inr ⟨may, rfl⟩

/-- A file may change as long as its length stays. -/
theorem Tracks.setCells (tracks : m.Tracks lost disk) (opened : m.mapped = some mapping) {c : Cells}
    (same : c.length = (disk.cells mapping.file).length) :
    m.Tracks lost (disk.setCells mapping.file c) := by
  have there := tracks.there mapping opened
  refine ⟨tracks.sound.setCells c, tracks.writable, fun mapping' opened' => ?_,
    fun mapping' opened' => ?_⟩
  · rw [Disk.length_contents_setCells]
    exact tracks.there mapping' opened'
  · obtain rfl := Option.some.inj (opened.symm.trans opened')
    rw [regionOf_setCells there same]
    exact tracks.region mapping opened

/-- Opening the file maps it. -/
theorem openFile_of_ok {m' : MappedFile} {disk' : Disk}
    (opened : m.openFile disk false = .ok (m', disk')) :
    ∃ mapping, disk.openReadWrite m.path = .ok (mapping.file, disk') ∧ mapping.writable = true ∧
      m' = m.remapped mapping disk' := by
  unfold openFile at opened
  rw [if_neg Bool.false_ne_true] at opened
  cases found : disk.openReadWrite m.path with
  | error e => simp [found, Except.map] at opened
  | ok there =>
    obtain ⟨file, disk''⟩ := there
    rw [found] at opened
    obtain ⟨rfl, rfl⟩ := Prod.mk.inj (Except.ok.inj opened)
    exact ⟨⟨file, true, .empty⟩, rfl, rfl, rfl⟩

/-- An erasure changes no length. -/
theorem eraseAt_snd (m : MappedFile) (disk : Disk) (offset size : Nat) :
    (m.eraseAt disk offset size).2 = disk ∨ ∃ mapping start stop, m.mapped = some mapping ∧
      (m.eraseAt disk offset size).2 = disk.clear mapping.file start stop := by
  unfold eraseAt
  split
  case h_1 => exact .inl rfl
  case h_2 file writable length opened =>
    dsimp only
    split
    · exact .inl rfl
    · exact .inr ⟨_, _, _, opened, rfl⟩
  case h_3 => exact .inl rfl

/-- Every handler keeps track of the file; a growth that is refused may lose it. -/
theorem Tracks.serve (tracks : m.Tracks lost disk) (writing : h ≠ .openReadOnly)
    (fits : h = .write → r.Overgrows → lost) :
    (m.serve disk h r).2.1.Tracks lost (m.serve disk h r).2.2 := by
  cases h with
  | openReadOnly => exact (writing rfl).elim
  | openReadWrite =>
    unfold MappedFile.serve
    dsimp only
    split
    case h_1 opened =>
      obtain ⟨mapping, found, writable, rfl⟩ := openFile_of_ok opened
      obtain ⟨sound, there⟩ := tracks.sound.openReadWrite found
      exact tracks_remapped sound writable there
    case h_2 => exact tracks
  | read | stat =>
    unfold MappedFile.serve
    dsimp only
    split <;> exact tracks
  | write =>
    have outcome := tracks.writing r
    unfold MappedFile.serve
    dsimp only
    generalize m.writeAt disk r.offset r.data = out at outcome ⊢
    cases outcome with
    | closed | empty | unaddressed => exact tracks
    | refused mapping opened overgrows => exact tracks.hide (fits rfl overgrows)
    | stored mapping opened bytes =>
      refine tracks_remapped (isSound_stored tracks.sound) (tracks.writable mapping opened) ?_
      rw [length_contents_stored]
      exact tracks.there mapping opened
  | delete =>
    change m.Tracks lost (m.eraseAt disk r.offset r.size).2
    rcases eraseAt_snd m disk r.offset r.size with same | ⟨mapping, start, stop, opened, erased⟩
    · rw [same]
      exact tracks
    · rw [erased]
      exact tracks.setCells opened rfl
  | close => exact tracks_unmap tracks.sound
  | destroy =>
    unfold MappedFile.serve
    dsimp only
    split
    case isFalse => exact tracks_unmap tracks.sound
    case isTrue =>
      split
      case h_1 removed => exact tracks_unmap (tracks.sound.remove removed)
      case h_2 => exact tracks_unmap tracks.sound

end Serving

section Failing

/-- A file is no shorter than it was, and as it was beside the range of a write. -/
def Keeps (disk disk' : Disk) (file : Nat) (r : Request) : Prop :=
  (disk.cells file).length ≤ (disk'.cells file).length ∧
    ∀ i < (disk.cells file).length, ¬(r.offset ≤ i ∧ i < r.stop) →
      (disk'.cells file).get i = (disk.cells file).get i

/-- A device and its disk, served together. -/
def serveOn (s : MappedFile × Disk) (h : Handler) (r : Request) : Verdict × MappedFile × Disk :=
  s.1.serve s.2 h r

variable {mapping : Mapping} {e : Error}

theorem serve_write : m.serve disk .write r =
    (verdict (m.writeAt disk r.offset r.data).1, (m.writeAt disk r.offset r.data).2) :=
  rfl

/-- A write that fails leaves everything as it was, unless it is a growth that was refused. -/
theorem Tracks.failed (tracks : m.Tracks lost disk) 
    (failed : (m.serve disk .write r).1.result = .error e) :
    (m.serve disk .write r).2 = (m, disk) ∨
      r.Overgrows ∧ e = .backend Code.io ∧ (m.serve disk .write r).2 = (m.hide, disk) := by
  have outcome := tracks.writing r
  rw [serve_write] at failed ⊢
  generalize m.writeAt disk r.offset r.data = out at outcome failed ⊢
  cases outcome with
  | closed | unaddressed => exact .inl rfl
  | refused mapping opened overgrows => exact .inr ⟨overgrows, (Except.error.inj failed).symm, rfl⟩
  | empty | stored => exact nomatch failed

/-- The file that a mapping shows as a whole is extended by a write where need be. -/
theorem stored_eq_written (shown : mapping.region = regionOf disk mapping.file false) :
    stored mapping disk r = disk.written mapping.file r.offset r.data := by
  rw [stored, grown, Disk.written, Disk.extended, shown, length_regionOf]
  rfl

/-- As long as nothing was lost, a write cuts nothing off. -/
theorem Tracks.keeps (tracks : m.Tracks False disk) (opened : m.mapped = some mapping) 
    (fits : ¬ r.Overgrows) :
    ∃ mapping', (m.serve disk .write r).2.1.mapped = some mapping' ∧
      mapping'.file = mapping.file ∧ Keeps disk (m.serve disk .write r).2.2 mapping.file r := by
  have same : Keeps disk disk mapping.file r := ⟨Nat.le_refl _, fun _ _ _ => rfl⟩
  have outcome := tracks.writing r
  rw [serve_write]
  generalize m.writeAt disk r.offset r.data = out at outcome ⊢
  cases outcome with
  | closed | unaddressed | empty => exact ⟨mapping, opened, rfl, same⟩
  | refused mapping opened overgrows => exact (fits overgrows).elim
  | stored mapping' opened' bytes =>
    obtain rfl := Option.some.inj (opened.symm.trans opened')
    have there := tracks.there mapping opened
    have shown := (tracks.region mapping opened).resolve_right And.left
    refine ⟨_, rfl, rfl, ?_⟩
    dsimp only
    rw [stored_eq_written shown]
    refine ⟨?_, fun i _ beside => ?_⟩
    · rw [Disk.length_cells_written there]
      exact Nat.le_max_left ..
    · rw [Disk.get_written there]
      exact if_neg beside

/-- **A write that fails.**  On a device that is only ever opened for writing, whatever else its
handlers are called with: a write that fails could as well have been left out, for everything else
comes out the same, unless it was a growth that was refused.  That one leaves the file as it was but
lets go of what was mapped.  As long as no growth was refused, a write makes the file no shorter and
changes no byte beside its own. -/
theorem failed_write (tracks : m.Tracks False disk) {calls before after : List (Handler × Request)}
    (writing : ∀ call ∈ calls, call.1 ≠ .openReadOnly)
    (split : calls = before ++ (.write, r) :: after) :
    let s := (serveAll serveOn (m, disk) before).2
    let s' := (serveOn s .write r).2
    (∀ e, (serveOn s .write r).1.result = .error e →
      (serveAll serveOn (m, disk) calls).1.eraseIdx before.length =
          (serveAll serveOn (m, disk) (before ++ after)).1 ∧
        (serveAll serveOn (m, disk) calls).2 = (serveAll serveOn (m, disk) (before ++ after)).2 ∨
      r.Overgrows ∧ e = .backend Code.io ∧ s' = (s.1.hide, s.2)) ∧
    ((∀ call ∈ before ++ [(.write, r)], call.1 = .write → ¬ call.2.Overgrows) →
      ∀ mapping, s.1.mapped = some mapping → ∃ mapping', s'.1.mapped = some mapping' ∧
        mapping'.file = mapping.file ∧ Keeps s.2 s'.2 mapping.file r) := by
  intro s s'
  subst split
  have tracked (lost : Prop)
      (fits : ∀ call ∈ before, call.1 = .write → call.2.Overgrows → lost) :
      s.1.Tracks lost s.2 := by
    refine serveAll_invariant (fun s : MappedFile × Disk => s.1.Tracks lost s.2)
      (tracks.mono False.elim) fun s h r member tracks => ?_
    exact tracks.serve (writing _ (List.mem_append_left _ member)) (fits _ member)
  constructor
  · intro e failed
    rcases (tracked True fun _ _ _ _ => trivial).failed failed with same | refused
    · exact .inl (serveAll_leave_out after same)
    · exact .inr refused
  · intro fits mapping opened
    have shown := tracked False fun call member write overgrows =>
      fits call (List.mem_append_left _ member) write overgrows
    exact shown.keeps opened (fits (.write, r) (by simp) rfl)

/-- A file of four bytes, which is open for writing. -/
theorem failed_write_unaddressed :
    let disk : Disk := {
      entries := [(Disk.home ++ ["f"], .file 0)], contents := [Cells.ofBytes [1, 2, 3, 4]] }
    let m : MappedFile := { path := "f", mapped := some ⟨0, true, .readWrite 4⟩ }
    let r : Request := { id := 2, kind := .write, offset := Word.top, data := [9] }
    let before : List (Handler × Request) := [
      (.write, { id := 1, kind := .write, offset := 3, data := [8, 8] })]
    let after : List (Handler × Request) := [
      (.read, { id := 3, kind := .read, offset := 1, data := [0, 0, 0, 0] }),
      (.close, { id := 4, kind := .closing })]
    let calls := before ++ (.write, r) :: after
    m.Tracks False disk ∧ (∀ call ∈ calls, call.1 ≠ .openReadOnly) ∧
      (serveAll serveOn (m, disk) calls).1[1]? =
        some { result := .error (.backend Code.invalid) } ∧
      (serveAll serveOn (m, disk) calls).1.eraseIdx 1 =
        (serveAll serveOn (m, disk) (before ++ after)).1 ∧
      (serveAll serveOn (m, disk) (before ++ after)).1 = [
        { result := .ok (some 2) }, { data := some [2, 3, 8, 8], result := .ok (some 4) },
        { result := .ok (some 0) }] := by
  intro disk m r before after calls
  have tracks : m.Tracks False disk :=
    { sound := by
        intro route number entry
        obtain ⟨-, rfl⟩ : route = _ ∧ number = 0 := by simpa [disk] using entry
        exact Nat.zero_lt_one
      writable := by
        rintro _ ⟨⟩
        rfl
      there := by
        rintro _ ⟨⟩
        exact Nat.zero_lt_one
      region := by
        rintro _ ⟨⟩
        exact .inl rfl }
  have writing : ∀ call ∈ calls, call.1 ≠ .openReadOnly := by decide
  refine ⟨tracks, writing, by decide +kernel, ?_, by decide +kernel⟩
  obtain ⟨harmless, -⟩ := failed_write tracks writing rfl
  rcases harmless (.backend Code.invalid) (by decide +kernel) with ⟨same, -⟩ | ⟨-, other, -⟩
  · exact same
  · exact absurd other (by decide)

/-- A growth that was refused does harm.  The file still has its four bytes, but it is said to have
none, and the next write cuts it to one. -/
theorem refused_growth_cuts :
    let disk : Disk := {
      entries := [(Disk.home ++ ["f"], .file 0)], contents := [Cells.ofBytes [1, 2, 3, 4]] }
    let m : MappedFile := { path := "f", mapped := some ⟨0, true, .readWrite 4⟩ }
    let refused : Handler × Request :=
      (.write, { id := 1, kind := .write, offset := maxLength, data := [9] })
    let after : List (Handler × Request) := [
      (.stat, { id := 2, kind := .stat }), (.write, { id := 3, kind := .write, data := [9] })]
    let hurt := serveAll serveOn (m, disk) (refused :: after)
    let sound := serveAll serveOn (m, disk) after
    hurt.1 = [{ result := .error (.backend Code.io) },
        { stats := some { size := 0 }, result := .ok none }, { result := .ok (some 1) }] ∧
      sound.1 = [{ stats := some { size := 4 }, result := .ok none }, { result := .ok (some 1) }] ∧
      (hurt.2.2.cells 0).toBytes = [9] ∧ (sound.2.2.cells 0).toBytes = [9, 2, 3, 4] := by
  decide +kernel

end Failing

section Hidden

variable {mapping : Mapping}

/-- What a file seems to hold after a growth was refused: nothing. -/
theorem serve_hidden (opened : m.mapped = some mapping) (hidden : mapping.region = .empty) :
    m.serve disk .stat r = ({ stats := some { size := 0 }, result := .ok none }, m, disk) ∧
      m.serve disk .delete r = (verdict (.ok 0), m, disk) ∧
      (0 < r.stop → r.stop ≤ Word.top →
        m.serve disk .read r = (verdict (.error (.backend Code.outOfRange)), m, disk)) := by
  refine ⟨?_, ?_, fun some address => ?_⟩
  · simp [serve, length, opened, hidden, MappedRegion.length]
  · obtain ⟨file, writable, region⟩ := mapping
    obtain rfl : region = .empty := hidden
    simp [serve, eraseAt, opened]
  · have short : MappedRegion.length .empty < r.stop := some
    simp [serve, readAt, opened, hidden, rangeEnd_eq, address, short, bind, Except.bind]

/-- The next write that goes through after a growth was refused cuts the file to its own end, and
shows what is left of it. -/
theorem Tracks.write_hidden (tracks : m.Tracks lost disk) (opened : m.mapped = some mapping)
    (hidden : mapping.region = .empty) (bytes : r.data ≠ []) (fits : r.stop ≤ maxLength) :
    let after := (m.serve disk .write r).2
    after.1 = m.remapped mapping after.2 ∧ (after.2.cells mapping.file).length = r.stop ∧
      ∀ i < r.stop, (after.2.cells mapping.file).get i =
        if r.offset ≤ i then r.data.getD (i - r.offset) 0 else (disk.cells mapping.file).get i := by
  have there := tracks.there mapping opened
  have outcome := tracks.writing r
  rw [serve_write]
  generalize m.writeAt disk r.offset r.data = out at outcome ⊢
  cases outcome with
  | closed none => exact nomatch opened.symm.trans none
  | empty _ _ nothing => exact (bytes nothing).elim
  | unaddressed past =>
    unfold maxLength at fits
    unfold Word.top at past
    omega
  | refused _ _ overgrows => exact (Nat.not_lt.mpr fits overgrows.1).elim
  | stored mapping' opened' _ =>
    obtain rfl := Option.some.inj (opened.symm.trans opened')
    have pos : 0 < r.stop := Nat.add_pos_right _ (List.length_pos_iff.mpr bytes)
    have longer : mapping.region.length < r.stop := hidden ▸ pos
    have cut : (stored mapping disk r).cells mapping.file =
        ((disk.cells mapping.file).resize r.stop).store r.offset r.data := by
      have there' := length_contents_grown mapping disk r ▸ there
      rw [stored, Disk.store, Disk.cells_setCells there', grown, if_pos longer, Disk.setLength,
        Disk.cells_setCells there]
    refine ⟨rfl, congrArg Cells.length cut, fun i below => ?_⟩
    have within : i < ((disk.cells mapping.file).resize r.stop).length := below
    have stop : r.stop = r.offset + r.data.length := rfl
    dsimp only
    rw [cut, Cells.get_store _ _ within]
    by_cases reached : r.offset ≤ i
    · rw [if_pos reached, if_pos reached, List.getD_eq_getElem _ _ (by omega),
        List.getD_eq_getElem _ _ (by omega)]
    · rw [if_neg reached, if_neg reached, Cells.get_resize, if_pos below]

end Hidden

end MappedFile

end StorageEngine
