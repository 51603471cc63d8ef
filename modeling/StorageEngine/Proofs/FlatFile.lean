import Mathlib
import StorageEngine.Proofs.MappedWrites

/-!
# A mapped file is a flat array that lasts

A device over a file that nobody else uses does what a flat array does: an array of bytes, once the
file is there, that is open or not (`FlatFile`).  Whatever its handlers are called with, in whatever
order, the requests end alike on both, and the file on the disk holds the array all the time: while
it is open, when it has been closed, and when it is opened again (`MappedFile.serveAll_eq_array`).

What is mapped is followed in `MappedWrites.lean`; here are the name of the file and its bytes.

* `Disk.LeadsTo` — what a name leads to; neither making the file nor writing to it changes that;
* `Disk.toBytes_written`, `Disk.toBytes_clear` — the bytes of a file after a write or an erasure;
* `MappedFile.Shows.serve` — one request ends alike on both and leaves them alike.
-/

namespace StorageEngine

namespace Bytes

/-- These bytes with others stored from `offset` on; a gap before them is filled up with zeros. -/
def overwrite (b : Bytes) (offset : Nat) (data : Bytes) : Bytes :=
  b.take offset ++ zeros (offset - b.length) ++ data ++ b.drop (offset + data.length)

/-- How many of the `size` bytes from `offset` on there are. -/
def reach (b : Bytes) (offset size : Nat) : Nat :=
  min (offset + size) b.length - offset

/-- These bytes, and zeros in place of those among the `size` from `offset` on. -/
def wipe (b : Bytes) (offset size : Nat) : Bytes :=
  b.take offset ++ zeros (b.reach offset size) ++ b.drop (offset + size)

section Overwrite

variable (b : Bytes) (offset size : Nat) (data : Bytes) (i : Nat)

theorem length_overwrite :
    (b.overwrite offset data).length = max b.length (offset + data.length) := by
  simp only [overwrite, List.length_append, List.length_take, List.length_drop, length_zeros]
  omega

theorem length_wipe : (b.wipe offset size).length = b.length := by
  simp only [wipe, reach, List.length_append, List.length_take, List.length_drop, length_zeros]
  omega

theorem getElem?_zeros (n : Nat) : (zeros n)[i]? = if i < n then some 0 else none :=
  List.getElem?_replicate

/-- The bytes of the range are stored; the others stay. -/
theorem getD_overwrite : (b.overwrite offset data).getD i 0 =
    if offset ≤ i ∧ i < offset + data.length then data.getD (i - offset) 0 else b.getD i 0 := by
  simp only [overwrite, List.getD_eq_getElem?_getD, List.getElem?_append, List.length_append,
    List.length_take, length_zeros, List.getElem?_take, getElem?_zeros, List.getElem?_drop]
  grind

theorem getD_wipe : (b.wipe offset size).getD i 0 =
    if offset ≤ i ∧ i < offset + size then 0 else b.getD i 0 := by
  simp only [wipe, reach, List.getD_eq_getElem?_getD, List.getElem?_append, List.length_append,
    List.length_take, length_zeros, List.getElem?_take, getElem?_zeros, List.getElem?_drop]
  grind

end Overwrite

end Bytes

namespace Cells

variable {c : Cells} {b : Bytes}

theorem length_toBytes (c : Cells) : c.toBytes.length = c.length :=
  c.length_read 0 c.length

theorem getD_toBytes (c : Cells) (i : Nat) : c.toBytes.getD i 0 = c.get i := by
  rw [List.getD_eq_getElem?_getD, toBytes, getElem?_read, Nat.zero_add]
  split
  · rfl
  · next past => exact (get_of_length_le (Nat.le_of_not_lt past)).symm

/-- A stretch of memory holds bytes if it is as long as they are and has each of them. -/
theorem toBytes_eq (length : c.length = b.length) (bytes : ∀ i, c.get i = b.getD i 0) :
    c.toBytes = b := by
  refine List.ext_getElem (by rw [length_toBytes, length]) fun i within within' => ?_
  have same := (c.getD_toBytes i).trans (bytes i)
  rwa [List.getD_eq_getElem _ _ within, List.getD_eq_getElem _ _ within'] at same

/-- What is read within a stretch of memory is a part of its bytes. -/
theorem read_eq_drop_take {start len : Nat} (inside : start + len ≤ c.length) :
    c.read start len = (c.toBytes.drop start).take len := by
  refine List.ext_getElem? fun i => ?_
  rw [getElem?_read, List.getElem?_take, List.getElem?_drop, toBytes, getElem?_read, Nat.zero_add]
  split
  · rw [if_pos (by omega)]
  · rfl

end Cells

namespace Disk

variable {d d' : Disk} {name : String} {route : Route} {file : Nat}

/-- A name leads to this place, where this file is, or else one can be made. -/
structure LeadsTo (d : Disk) (name : String) (route : Route) (file : Option Nat) : Prop where
  located : d.locate name = .ok (.place route false)
  there : d.at? route = file.map .file

/-- The bytes of the file that was found, if one was. -/
def found (d : Disk) (file : Option Nat) : Option Bytes :=
  file.map fun number => (d.cells number).toBytes

section LeadsTo

/-- A name that opens for writing leads to a place. -/
theorem leadsTo_of_openReadWrite (opened : d.openReadWrite name = .ok (file, d')) :
    ∃ route old, d.LeadsTo name route old := by
  unfold openReadWrite at opened
  split at opened
  case h_4 route located =>
    split at opened
    case h_1 number there => exact ⟨route, some number, located, there⟩
    case h_2 => simp at opened
    case h_3 nothing => exact ⟨route, none, located, nothing⟩
  all_goals simp at opened

theorem LeadsTo.openReadWrite_some (leads : d.LeadsTo name route (some file)) :
    d.openReadWrite name = .ok (file, d) := by
  simp [openReadWrite, leads.located, leads.there]

theorem LeadsTo.openReadWrite_none (leads : d.LeadsTo name route none) :
    d.openReadWrite name = .ok (d.create route) := by
  simp [openReadWrite, leads.located, leads.there]

theorem LeadsTo.read?_eq {old : Option Nat} (leads : d.LeadsTo name route old) :
    d.read? name = d.found old := by
  cases old <;> simp [Disk.read?, entry?, found, leads.located, leads.there]

/-- Names lead where they do whatever the files hold. -/
theorem LeadsTo.congr {old : Option Nat} (leads : d.LeadsTo name route old)
    (names : d'.entries = d.entries) : d'.LeadsTo name route old := by
  obtain ⟨entries, contents⟩ := d'
  obtain rfl : entries = d.entries := names
  exact ⟨leads.located, leads.there⟩

/-- Making a file changes nothing at the other places. -/
theorem at?_create {other : Route} {entry : DiskEntry} (there : d.at? other = some entry) :
    (d.create route).2.at? other = some entry := by
  unfold at? create at *
  split at there
  case isTrue home => rw [if_pos home, there]
  case isFalse away =>
    rw [if_neg away]
    simp [List.lookup_append, there]

theorem at?_create_self (free : d.at? route = none) :
    (d.create route).2.at? route = some (.file d.contents.length) := by
  unfold at? create at *
  split at free
  case isTrue => simp at free
  case isFalse away =>
    rw [if_neg away]
    simp [List.lookup_append, free]

/-- Whoever could walk through some directories still can when a file has been made. -/
theorem enter_create {here there : Route} {part : String}
    (entered : d.enter here part = .ok there) :
    (d.create route).2.enter here part = .ok there := by
  unfold enter at entered ⊢
  cases turned : turn here (.ofPart part) with
  | error code => simp [turned, bind, Except.bind] at entered
  | ok next =>
    simp only [turned, bind, Except.bind] at entered ⊢
    split at entered
    case h_1 directory =>
      simp only [at?_create directory]
      exact entered
    case h_2 => simp [throw, throwThe, MonadExceptOf.throw] at entered
    case h_3 => simp [throw, throwThe, MonadExceptOf.throw] at entered

theorem foldlM_enter_create {parts : List String} {here there : Route}
    (walked : parts.foldlM d.enter here = .ok there) :
    parts.foldlM (d.create route).2.enter here = .ok there := by
  induction parts generalizing here with
  | nil => exact walked
  | cons part parts ih =>
    rw [List.foldlM_cons] at walked ⊢
    cases entered : d.enter here part with
    | error code => simp [entered, bind, Except.bind] at walked
    | ok next =>
      rw [entered] at walked
      rw [enter_create entered]
      exact ih walked

/-- A name leads where it did when a file has been made. -/
theorem locate_create {spot : Spot} (located : d.locate name = .ok spot) :
    (d.create route).2.locate name = .ok spot := by
  unfold locate at located ⊢
  cases named : Path.ofName name with
  | error code => simp [named, bind, Except.bind] at located
  | ok path =>
    cases walked : path.parts.dropLast.foldlM d.enter (start path) with
    | error code => simp [named, walked, bind, Except.bind] at located
    | ok here =>
      simp only [named, walked, foldlM_enter_create walked, bind, Except.bind] at located ⊢
      exact located

/-- A file that has been made is where the name leads. -/
theorem LeadsTo.create (leads : d.LeadsTo name route none) :
    (d.create route).2.LeadsTo name route (some d.contents.length) :=
  ⟨locate_create leads.located, at?_create_self leads.there⟩

/-- A file that is opened for writing is where the name leads, and has the bytes that were found. -/
theorem LeadsTo.opens {old : Option Nat} (leads : d.LeadsTo name route old) :
    ∃ file d', d.openReadWrite name = .ok (file, d') ∧ d'.LeadsTo name route (some file) ∧
      (d'.cells file).toBytes = (d.found old).getD [] := by
  cases old with
  | some file => exact ⟨file, d, leads.openReadWrite_some, leads, rfl⟩
  | none =>
    refine ⟨_, _, leads.openReadWrite_none, leads.create, ?_⟩
    simp [cells, found, Cells.toBytes, Cells.zeros, Cells.read]

end LeadsTo

section Contents

variable (there : file < d.contents.length)

include there in
theorem toBytes_written (offset : Nat) (data : Bytes) :
    ((d.written file offset data).cells file).toBytes =
      (d.cells file).toBytes.overwrite offset data := by
  refine Cells.toBytes_eq ?_ fun i => ?_
  · rw [length_cells_written there, Bytes.length_overwrite, Cells.length_toBytes]
  · rw [get_written there, Bytes.getD_overwrite, Cells.getD_toBytes]

include there in
theorem toBytes_clear {offset size stop : Nat}
    (reached : stop = min (offset + size) (d.cells file).length) :
    ((d.clear file offset stop).cells file).toBytes = (d.cells file).toBytes.wipe offset size := by
  rw [clear, cells_setCells there]
  refine Cells.toBytes_eq ?_ fun i => ?_
  · rw [Bytes.length_wipe, Cells.length_toBytes]
    rfl
  · rw [Cells.get_clear, Bytes.getD_wipe, Cells.getD_toBytes]
    by_cases within : i < (d.cells file).length
    · exact if_congr (by omega) rfl rfl
    · rw [Cells.get_of_length_le (Nat.le_of_not_lt within), ite_self, ite_self]

end Contents

end Disk

/-- The bytes of a file as a flat array, once it is there, and whether it is open. -/
structure FlatFile where
  contents : Option Bytes
  isOpen : Bool := false
  deriving DecidableEq

namespace FlatFile

/-- The bytes of a file; there are none where it is missing. -/
def bytes (f : FlatFile) : Bytes :=
  f.contents.getD []

/-- The file with other bytes. -/
def hold (f : FlatFile) (b : Bytes) : FlatFile :=
  { f with contents := some b }

/-- What each handler does, and how it finishes the request.  Opening makes a file that is missing;
without it nothing can be done. -/
def serve (f : FlatFile) (h : Handler) (r : Request) : Verdict × FlatFile :=
  match h, f.isOpen with
  | .openReadOnly, _ | .openReadWrite, _ =>
    ({ result := .ok (some 0) }, { contents := some f.bytes, isOpen := true })
  | .close, _ | .destroy, _ => ({ result := .ok (some 0) }, { f with isOpen := false })
  | _, false => ({ result := .error (.backend Code.badDescriptor) }, f)
  | .read, true =>
    if Word.top < r.stop then ({ result := .error (.backend Code.invalid) }, f)
    else if r.stop ≤ f.bytes.length then
      ({ data := some ((f.bytes.drop r.offset).take r.data.length)
         result := .ok (some r.data.length) }, f)
    else ({ result := .error (.backend Code.outOfRange) }, f)
  | .write, true =>
    if r.data = [] then ({ result := .ok (some 0) }, f)
    else ({ result := .ok (some r.data.length) }, f.hold (f.bytes.overwrite r.offset r.data))
  | .delete, true =>
    ({ result := .ok (some (f.bytes.reach r.offset r.size)) },
      f.hold (f.bytes.wipe r.offset r.size))
  | .stat, true => ({ stats := some { size := f.bytes.length }, result := .ok none }, f)

end FlatFile

theorem Bytes.wipe_of_reach {b : Bytes} {offset size : Nat} (none : b.reach offset size = 0) :
    b.wipe offset size = b := by
  unfold reach at none
  refine List.ext_getElem (b.length_wipe offset size) fun i within within' => ?_
  have same := b.getD_wipe offset size i
  rw [if_neg (by omega), List.getD_eq_getElem _ _ within, List.getD_eq_getElem _ _ within'] at same
  exact same

namespace MappedFile

variable {m : MappedFile} {disk : Disk} {f : FlatFile} {r : Request} {h : Handler}

/-- The device and its disk show this file: it lies where the name leads, and is mapped as a whole
while it is open. -/
structure Shows (m : MappedFile) (disk : Disk) (f : FlatFile) : Prop where
  tracks : m.Tracks False disk
  stands : ∃ route file, disk.LeadsTo m.path route file ∧ disk.found file = f.contents ∧
    ∀ mapping, m.mapped = some mapping → file = some mapping.file
  isOpen : m.mapped.isSome = f.isOpen
  fits : f.bytes.length ≤ maxLength

section Shows

variable {mapping : Mapping}

/-- What is mapped of a file that is shown is all of it. -/
structure Open (m : MappedFile) (disk : Disk) (f : FlatFile) (mapping : Mapping) : Prop where
  there : mapping.file < disk.contents.length
  region : mapping.region = regionOf disk mapping.file false
  bytes : (disk.cells mapping.file).toBytes = f.bytes
  length : (disk.cells mapping.file).length = f.bytes.length
  contents : f.contents = some f.bytes

theorem Shows.opened (shown : m.Shows disk f) (opened : m.mapped = some mapping) :
    m.Open disk f mapping := by
  obtain ⟨route, file, leads, found, mapped⟩ := shown.stands
  obtain rfl := mapped mapping opened
  have contents : f.contents = some (disk.cells mapping.file).toBytes := found.symm
  have bytes : (disk.cells mapping.file).toBytes = f.bytes := by simp [FlatFile.bytes, contents]
  exact {
    there := shown.tracks.there mapping opened
    region := (shown.tracks.region mapping opened).resolve_right And.left
    bytes := bytes
    length := by rw [← bytes, Cells.length_toBytes]
    contents := by rw [contents, bytes] }

/-- A request that ends alike on a device and on the file that it shows, and leaves them alike. -/
def Agrees (m : MappedFile) (disk : Disk) (f : FlatFile) (h : Handler) (r : Request) : Prop :=
  (m.serve disk h r).1 = (f.serve h r).1 ∧
    (m.serve disk h r).2.1.path = m.path ∧
    (m.serve disk h r).2.1.removeOnDestroy = m.removeOnDestroy ∧
    (m.serve disk h r).2.1.Shows (m.serve disk h r).2.2 (f.serve h r).2

/-- A request that leaves device and file as they were. -/
theorem Shows.agrees_of_idle (shown : m.Shows disk f) {v : Verdict}
    (served : m.serve disk h r = (v, m, disk)) (flat : f.serve h r = (v, f)) :
    m.Agrees disk f h r := by
  unfold Agrees
  rw [served, flat]
  exact ⟨rfl, rfl, rfl, shown⟩

/-- Where the file is not open, nothing can be done with it. -/
theorem Shows.closed (shown : m.Shows disk f) (none : m.mapped = none)
    (data : h = .read ∨ h = .write ∨ h = .delete ∨ h = .stat) : m.Agrees disk f h r := by
  have shut : f.isOpen = false := by rw [← shown.isOpen, none]; rfl
  refine shown.agrees_of_idle (v := { result := .error (.backend Code.badDescriptor) }) ?_ ?_
  · obtain rfl | rfl | rfl | rfl := data <;>
      simp [MappedFile.serve, readAt, writeAt, eraseAt, length, none, verdict, Except.map]
  · obtain rfl | rfl | rfl | rfl := data <;> simp [FlatFile.serve, shut]

theorem Shows.isOpen_of_some (shown : m.Shows disk f) (opened : m.mapped = some mapping) :
    f.isOpen = true := by
  rw [← shown.isOpen, opened]
  rfl

theorem Shows.opening (shown : m.Shows disk f) : m.Agrees disk f .openReadWrite r := by
  obtain ⟨route, file, leads, found, -⟩ := shown.stands
  obtain ⟨number, disk', opened, leads', bytes⟩ := leads.opens
  have served : m.serve disk .openReadWrite r =
      (verdict (.ok 0), m.remapped ⟨number, true, .empty⟩ disk', disk') := by
    simp [MappedFile.serve, openFile, opened, Except.map, remapped]
  have tracks := shown.tracks.serve (h := .openReadWrite) (r := r) (by simp) (by simp)
  have same : (disk'.cells number).toBytes = f.bytes := bytes.trans (by rw [found]; rfl)
  unfold Agrees
  rw [served] at tracks ⊢
  exact ⟨rfl, rfl, rfl, {
    tracks := tracks
    stands := ⟨route, some number, leads', congrArg some same, by rintro _ ⟨⟩; rfl⟩
    isOpen := rfl
    fits := shown.fits }⟩

/-- What a read of an open file comes to. -/
theorem Shows.readAt_eq (shown : m.Shows disk f) (opened : m.mapped = some mapping) :
    m.readAt disk r.offset r.data.length =
      if Word.top < r.stop then .error (.backend Code.invalid)
      else if r.stop ≤ f.bytes.length then .ok ((f.bytes.drop r.offset).take r.data.length)
      else .error (.backend Code.outOfRange) := by
  have file := shown.opened opened
  have length : mapping.region.length = f.bytes.length := by
    rw [file.region, length_regionOf, file.length]
  unfold readAt
  simp only [opened, rangeEnd_eq, length]
  by_cases address : r.stop ≤ Word.top
  · rw [if_pos address, if_neg (Nat.not_lt.mpr address)]
    by_cases inside : r.stop ≤ f.bytes.length
    · have bytes : (disk.cells mapping.file).read r.offset r.data.length =
          ((disk.cells mapping.file).toBytes.drop r.offset).take r.data.length :=
        Cells.read_eq_drop_take (file.length ▸ inside)
      rw [file.bytes] at bytes
      rw [if_pos inside, ← bytes]
      exact if_neg (Nat.not_lt.mpr inside)
    · rw [if_neg inside]
      exact if_pos (Nat.lt_of_not_le inside)
  · rw [if_neg address, if_pos (Nat.lt_of_not_le address)]
    rfl

theorem Shows.reading (shown : m.Shows disk f) : m.Agrees disk f .read r := by
  cases opened : m.mapped with
  | none => exact shown.closed opened (.inl rfl)
  | some mapping =>
    have open' := shown.isOpen_of_some opened
    have answer := shown.readAt_eq (r := r) opened
    by_cases address : Word.top < r.stop
    · refine shown.agrees_of_idle (v := { result := .error (.backend Code.invalid) }) ?_ ?_
      · simp [MappedFile.serve, answer, address, verdict, Except.map]
      · simp [FlatFile.serve, open', address]
    by_cases inside : r.stop ≤ f.bytes.length
    · have length : ((f.bytes.drop r.offset).take r.data.length).length = r.data.length := by
        have stop : r.stop = r.offset + r.data.length := rfl
        rw [List.length_take, List.length_drop]
        omega
      refine shown.agrees_of_idle (v := {
        data := some ((f.bytes.drop r.offset).take r.data.length)
        result := .ok (some r.data.length) }) ?_ ?_
      · simp only [MappedFile.serve, answer, if_neg address, if_pos inside, length]
      · simp [FlatFile.serve, open', address, inside]
    · refine shown.agrees_of_idle (v := { result := .error (.backend Code.outOfRange) }) ?_ ?_
      · simp [MappedFile.serve, answer, address, inside, verdict, Except.map]
      · simp [FlatFile.serve, open', address, inside]

/-- A file that is still open, with other bytes in it. -/
theorem Shows.held (shown : m.Shows disk f) (opened : m.mapped = some mapping) {m' : MappedFile}
    {mapping' : Mapping} {disk' : Disk} {b : Bytes} (tracks : m'.Tracks False disk')
    (opened' : m'.mapped = some mapping') (file : mapping'.file = mapping.file)
    (path : m'.path = m.path) (names : disk'.entries = disk.entries)
    (bytes : (disk'.cells mapping.file).toBytes = b) (fits : b.length ≤ maxLength) :
    m'.Shows disk' (f.hold b) := by
  obtain ⟨route, number, leads, -, same⟩ := shown.stands
  obtain rfl := same mapping opened
  exact {
    tracks := tracks
    stands := by
      refine ⟨route, some mapping.file, path ▸ leads.congr names, congrArg some bytes, ?_⟩
      intro other opened''
      rw [← Option.some.inj (opened'.symm.trans opened''), file]
    isOpen := by
      rw [opened']
      exact (shown.isOpen_of_some opened).symm
    fits := fits }

theorem entries_stored (mapping : Mapping) (disk : Disk) (r : Request) :
    (stored mapping disk r).entries = disk.entries := by
  unfold stored grown
  split <;> rfl

theorem Shows.writing (shown : m.Shows disk f) (fits : r.stop ≤ maxLength) :
    m.Agrees disk f .write r := by
  cases opened : m.mapped with
  | none => exact shown.closed opened (.inr (.inl rfl))
  | some mapping =>
    have file := shown.opened opened
    have open' := shown.isOpen_of_some opened
    have address : ¬ Word.top < r.stop := by
      unfold maxLength at fits
      unfold Word.top
      omega
    have tracks := shown.tracks.serve (h := .write) (r := r) (by simp)
      fun _ overgrows => Nat.not_lt.mpr fits overgrows.1
    have outcome := shown.tracks.writing r
    unfold Agrees
    rw [serve_write] at tracks ⊢
    generalize m.writeAt disk r.offset r.data = out at outcome tracks ⊢
    cases outcome with
    | closed none => exact nomatch opened.symm.trans none
    | unaddressed past => exact (address past).elim
    | refused _ _ overgrows => exact (Nat.not_lt.mpr fits overgrows.1).elim
    | empty _ _ nothing =>
      have flat : f.serve .write r = ({ result := .ok (some 0) }, f) := by
        simp [FlatFile.serve, open', nothing]
      rw [flat]
      exact ⟨rfl, rfl, rfl, shown⟩
    | stored mapping' opened' bytes =>
      obtain rfl := Option.some.inj (opened.symm.trans opened')
      have flat : f.serve .write r =
          ({ result := .ok (some r.data.length) },
            f.hold (f.bytes.overwrite r.offset r.data)) := by
        simp [FlatFile.serve, open', bytes]
      rw [flat]
      refine ⟨rfl, rfl, rfl, shown.held opened tracks rfl rfl rfl (entries_stored ..) ?_ ?_⟩
      · dsimp only
        rw [stored_eq_written file.region, Disk.toBytes_written file.there, file.bytes]
      · rw [Bytes.length_overwrite]
        exact Nat.max_le.mpr ⟨shown.fits, fits⟩

theorem eraseAt_of_empty (opened : m.mapped = some mapping) (region : mapping.region = .empty)
    (offset size : Nat) : m.eraseAt disk offset size = (.ok 0, disk) := by
  cases mapping
  dsimp only at region
  subst region
  simp [eraseAt, opened]

theorem eraseAt_of_readWrite {length : Nat} (opened : m.mapped = some mapping)
    (region : mapping.region = .readWrite length) (offset size : Nat) :
    let stop := min (Word.clampedAdd offset size) length
    m.eraseAt disk offset size =
      if stop ≤ offset then (.ok 0, disk)
      else (.ok (stop - offset), disk.clear mapping.file offset stop) := by
  cases mapping
  dsimp only at region
  subst region
  simp only [eraseAt, opened]

/-- What an erasure in an open file comes to. -/
theorem Shows.eraseAt_eq (shown : m.Shows disk f) (opened : m.mapped = some mapping)
    (offset size : Nat) : ∃ disk',
      m.eraseAt disk offset size = (.ok (f.bytes.reach offset size), disk') ∧
        disk'.entries = disk.entries ∧
        (disk'.cells mapping.file).toBytes = f.bytes.wipe offset size := by
  have file := shown.opened opened
  have fits := shown.fits
  have nothing (none : f.bytes.reach offset size = 0) :
      ((.ok 0, disk) : Except Error Nat × Disk) = (.ok (f.bytes.reach offset size), disk) ∧
        disk.entries = disk.entries ∧
        (disk.cells mapping.file).toBytes = f.bytes.wipe offset size :=
    ⟨by rw [none], rfl, by rw [Bytes.wipe_of_reach none, file.bytes]⟩
  by_cases empty : f.bytes.length = 0
  · have region : mapping.region = .empty := by
      simp [file.region, regionOf, file.length, empty]
    rw [eraseAt_of_empty opened region]
    exact ⟨disk, nothing (by simp [Bytes.reach, empty])⟩
  · have region : mapping.region = .readWrite f.bytes.length := by
      rw [file.region, regionOf_eq (by rw [file.length]; omega), file.length]
    -- No file reaches as far as the sums that are clamped.
    have stop : min (Word.clampedAdd offset size) f.bytes.length =
        min (offset + size) f.bytes.length := by
      unfold maxLength at fits
      unfold Word.clampedAdd Word.top
      omega
    rw [eraseAt_of_readWrite opened region, stop]
    split
    case isTrue past => exact ⟨disk, nothing (Nat.sub_eq_zero_of_le past)⟩
    case isFalse =>
      refine ⟨_, rfl, rfl, ?_⟩
      rw [Disk.toBytes_clear file.there (by rw [file.length]), file.bytes]

theorem Shows.erasing (shown : m.Shows disk f) : m.Agrees disk f .delete r := by
  cases opened : m.mapped with
  | none => exact shown.closed opened (.inr (.inr (.inl rfl)))
  | some mapping =>
    have open' := shown.isOpen_of_some opened
    obtain ⟨disk', erased, names, bytes⟩ := shown.eraseAt_eq opened r.offset r.size
    have tracks := shown.tracks.serve (h := .delete) (r := r) (by simp) (by simp)
    have served : m.serve disk .delete r =
        (verdict (.ok (f.bytes.reach r.offset r.size)), m, disk') := by
      simp only [MappedFile.serve, erased]
    have flat : f.serve .delete r =
        ({ result := .ok (some (f.bytes.reach r.offset r.size)) },
          f.hold (f.bytes.wipe r.offset r.size)) := by
      simp only [FlatFile.serve, open']
    unfold Agrees
    rw [served] at tracks ⊢
    rw [flat]
    refine ⟨rfl, rfl, rfl, shown.held opened tracks opened rfl rfl names bytes ?_⟩
    rw [Bytes.length_wipe]
    exact shown.fits

theorem Shows.stating (shown : m.Shows disk f) : m.Agrees disk f .stat r := by
  cases opened : m.mapped with
  | none => exact shown.closed opened (.inr (.inr (.inr rfl)))
  | some mapping =>
    have file := shown.opened opened
    have open' := shown.isOpen_of_some opened
    have length : mapping.region.length = f.bytes.length := by
      rw [file.region, length_regionOf, file.length]
    refine shown.agrees_of_idle
      (v := { stats := some { size := f.bytes.length }, result := .ok none }) ?_ ?_
    · simp [MappedFile.serve, MappedFile.length, opened, length]
    · simp [FlatFile.serve, open']

theorem Shows.closing (shown : m.Shows disk f) (ends : h = .close ∨ h = .destroy)
    (stays : h = .destroy → m.removeOnDestroy = false) : m.Agrees disk f h r := by
  have served : m.serve disk h r = (verdict (.ok 0), m.unmap, disk) := by
    obtain rfl | rfl := ends
    · rfl
    · simp [MappedFile.serve, stays rfl]
  have flat : f.serve h r = ({ result := .ok (some 0) }, { f with isOpen := false }) := by
    obtain rfl | rfl := ends <;> rfl
  obtain ⟨route, file, leads, found, -⟩ := shown.stands
  have nothing (mapping : Mapping) : m.unmap.mapped ≠ some mapping := by simp [unmap]
  unfold Agrees
  rw [served, flat]
  exact ⟨rfl, rfl, rfl, {
    tracks := tracks_unmap shown.tracks.sound
    stands := ⟨route, file, leads, found, fun mapping opened => absurd opened (nothing mapping)⟩
    isOpen := rfl
    fits := shown.fits }⟩

/-- Every handler does to the device and its disk what it does to the file that they show. -/
theorem Shows.serve (shown : m.Shows disk f) (writing : h ≠ .openReadOnly)
    (fits : h = .write → r.stop ≤ maxLength) (stays : h = .destroy → m.removeOnDestroy = false) :
    m.Agrees disk f h r := by
  cases h with
  | openReadOnly => exact (writing rfl).elim
  | openReadWrite => exact shown.opening
  | read => exact shown.reading
  | write => exact shown.writing (fits rfl)
  | delete => exact shown.erasing
  | stat => exact shown.stating
  | close => exact shown.closing (.inl rfl) (by simp)
  | destroy => exact shown.closing (.inr rfl) stays

/-- So do all requests, one after the other. -/
theorem Shows.serveAll (shown : m.Shows disk f) {calls : List (Handler × Request)}
    (writing : ∀ call ∈ calls, call.1 ≠ .openReadOnly)
    (fits : ∀ call ∈ calls, call.1 = .write → call.2.stop ≤ maxLength)
    (stays : ∀ call ∈ calls, call.1 = .destroy → m.removeOnDestroy = false) :
    let reached := StorageEngine.serveAll serveOn (m, disk) calls
    let flat := StorageEngine.serveAll FlatFile.serve f calls
    reached.1 = flat.1 ∧ reached.2.1.path = m.path ∧ reached.2.1.Shows reached.2.2 flat.2 := by
  induction calls generalizing m disk f with
  | nil => exact ⟨rfl, rfl, shown⟩
  | cons call calls ih =>
    obtain ⟨h, r⟩ := call
    obtain ⟨verdict, path, removal, shown'⟩ := shown.serve (writing _ (List.mem_cons_self ..))
      (fits (h, r) (List.mem_cons_self ..)) (stays (h, r) (List.mem_cons_self ..))
    obtain ⟨verdicts, path', shown''⟩ := ih shown'
      (fun call member => writing call (List.mem_cons_of_mem _ member))
      (fun call member => fits call (List.mem_cons_of_mem _ member))
      (fun call member => removal ▸ stays call (List.mem_cons_of_mem _ member))
    refine ⟨?_, path'.trans path, shown''⟩
    change (m.serve disk h r).1 :: _ = (f.serve h r).1 :: _
    rw [verdict]
    exact congrArg _ verdicts

end Shows

/-- A file that is there stays there, and gets no shorter. -/
theorem contents_serve {b : Bytes} (contents : f.contents = some b) (h : Handler) (r : Request) :
    ∃ b', (f.serve h r).2.contents = some b' ∧ b.length ≤ b'.length := by
  have bytes : f.bytes = b := by simp [FlatFile.bytes, contents]
  have same : ∃ b', f.contents = some b' ∧ b.length ≤ b'.length := ⟨b, contents, Nat.le_refl _⟩
  unfold FlatFile.serve
  split
  case h_1 | h_2 => exact ⟨f.bytes, rfl, Nat.le_of_eq (congrArg _ bytes.symm)⟩
  case h_6 => (repeat' split) <;> exact same
  case h_7 =>
    split
    · exact same
    · exact ⟨_, rfl, by rw [Bytes.length_overwrite, bytes]; exact Nat.le_max_left ..⟩
  case h_8 =>
    refine ⟨_, rfl, Nat.le_of_eq ?_⟩
    rw [Bytes.length_wipe, bytes]
  all_goals exact same

/-- What no request can take away from a file that is there. -/
theorem serveAll_contents {b : Bytes} (contents : f.contents = some b)
    (calls : List (Handler × Request)) :
    ∃ b', (StorageEngine.serveAll FlatFile.serve f calls).2.contents = some b' ∧
      b.length ≤ b'.length := by
  refine serveAll_invariant
    (fun f : FlatFile => ∃ b', f.contents = some b' ∧ b.length ≤ b'.length)
    ⟨b, contents, Nat.le_refl _⟩ ?_
  rintro f h r - ⟨b', contents', shorter⟩
  obtain ⟨b'', contents'', shorter'⟩ := contents_serve contents' h r
  exact ⟨b'', contents'', Nat.le_trans shorter shorter'⟩

/-- A file that nobody has opened yet is shown by the device over it. -/
theorem shows_of_closed (closed : m.mapped = none) (sound : disk.IsSound)
    (opens : ∃ file disk', disk.openReadWrite m.path = .ok (file, disk'))
    (short : ∀ b, disk.read? m.path = some b → b.length ≤ maxLength) :
    m.Shows disk { contents := disk.read? m.path } := by
  obtain ⟨file, disk', opened⟩ := opens
  obtain ⟨route, old, leads⟩ := Disk.leadsTo_of_openReadWrite opened
  have fits : ((disk.read? m.path).getD []).length ≤ maxLength := by
    cases found : disk.read? m.path with
    | none => exact Nat.zero_le _
    | some b => exact short b found
  exact {
    tracks := {
      sound := sound
      writable := by simp [closed]
      there := by simp [closed]
      region := by simp [closed] }
    stands := ⟨route, old, leads, leads.read?_eq.symm, by simp [closed]⟩
    isOpen := by rw [closed]; rfl
    fits := fits }

/-- A file that is shown is what can be read under the name. -/
theorem Shows.read?_eq (shown : m.Shows disk f) : disk.read? m.path = f.contents := by
  obtain ⟨route, file, leads, found, -⟩ := shown.stands
  rw [leads.read?_eq, found]

/-- **A mapped file is a flat array that lasts.**  On a device over a file that nobody else uses,
missing, empty or with anything in it, whatever its handlers are called with: every request ends as
on a flat array that starts as the file did, and afterwards the file holds that array, whether it is
open or not.  While it is open, the whole of it is mapped.  Once it is there it stays there, and
gets no shorter. -/
theorem serveAll_eq_array (closed : m.mapped = none) (sound : disk.IsSound)
    (opens : ∃ file disk', disk.openReadWrite m.path = .ok (file, disk'))
    (short : ∀ b, disk.read? m.path = some b → b.length ≤ maxLength)
    {calls : List (Handler × Request)} (writing : ∀ call ∈ calls, call.1 ≠ .openReadOnly)
    (fits : ∀ call ∈ calls, call.1 = .write → call.2.stop ≤ maxLength)
    (stays : ∀ call ∈ calls, call.1 = .destroy → m.removeOnDestroy = false) :
    let start : FlatFile := { contents := disk.read? m.path }
    let s := (serveAll serveOn (m, disk) calls).2
    let flat := (serveAll FlatFile.serve start calls).2
    (serveAll serveOn (m, disk) calls).1 = (serveAll FlatFile.serve start calls).1 ∧
    s.2.read? m.path = flat.contents ∧
    s.1.mapped.isSome = flat.isOpen ∧
    (∀ mapping, s.1.mapped = some mapping →
      flat.contents = some (s.2.cells mapping.file).toBytes ∧
      mapping.region.length = (s.2.cells mapping.file).length) ∧
    ∀ before later b, calls = before ++ later →
      (serveAll serveOn (m, disk) before).2.2.read? m.path = some b →
      ∃ b', s.2.read? m.path = some b' ∧ b.length ≤ b'.length := by
  intro start s flat
  have shown := shows_of_closed closed sound opens short
  obtain ⟨verdicts, path, shown'⟩ := shown.serveAll writing fits stays
  have held : s.2.read? m.path = flat.contents := path ▸ shown'.read?_eq
  refine ⟨verdicts, held, shown'.isOpen, fun mapping opened => ?_, ?_⟩
  · have file := shown'.opened opened
    exact ⟨by rw [file.bytes]; exact file.contents, by rw [file.region, length_regionOf]⟩
  · rintro before later b rfl there
    obtain ⟨-, path', shown''⟩ := shown.serveAll
      (fun call (member : call ∈ before) => writing call (List.mem_append_left _ member))
      (fun call member => fits call (List.mem_append_left _ member))
      (fun call member => stays call (List.mem_append_left _ member))
    have contents : (StorageEngine.serveAll FlatFile.serve start before).2.contents = some b :=
      (path' ▸ shown''.read?_eq).symm.trans there
    rw [held]
    change ∃ b', (StorageEngine.serveAll FlatFile.serve start (before ++ later)).2.contents = _ ∧ _
    rw [serveAll_append]
    exact serveAll_contents contents later

/-- A file that is missing at first, grows past its end, and is closed and opened again. -/
theorem serveAll_eq_array_missing :
    let m : MappedFile := { path := "f" }
    let calls : List (Handler × Request) := [
      (.openReadWrite, { id := 1, kind := .opening }),
      (.write, { id := 2, kind := .write, offset := 2, data := [7, 8, 9] }),
      (.delete, { id := 3, kind := .delete, offset := 4, size := Word.top }),
      (.read, { id := 4, kind := .read, offset := 3, data := [0, 0, 0] }),
      (.close, { id := 5, kind := .closing }),
      (.stat, { id := 6, kind := .stat }),
      (.openReadWrite, { id := 7, kind := .opening }),
      (.read, { id := 8, kind := .read, offset := 1, data := [0, 0, 0, 0] }),
      (.destroy, { id := 9, kind := .destroying })]
    (serveAll serveOn (m, {}) calls).1 = [
        { result := .ok (some 0) }, { result := .ok (some 3) }, { result := .ok (some 1) },
        { result := .error (.backend Code.outOfRange) }, { result := .ok (some 0) },
        { result := .error (.backend Code.badDescriptor) }, { result := .ok (some 0) },
        { data := some [0, 7, 8, 0], result := .ok (some 4) }, { result := .ok (some 0) }] ∧
      (serveAll serveOn (m, {}) calls).2.2.read? "f" = some [0, 0, 7, 8, 0] := by
  intro m calls
  have writing : ∀ call ∈ calls, call.1 ≠ .openReadOnly := by decide
  have opens : ∃ file disk', ({} : Disk).openReadWrite m.path = .ok (file, disk') :=
    ⟨0, (({} : Disk).create ["/", "/", "f"]).2, by cbv⟩
  have missing : ({} : Disk).read? m.path = none := by cbv
  have sound : ({} : Disk).IsSound := by simp [Disk.IsSound]
  obtain ⟨verdicts, held, -⟩ := serveAll_eq_array (m := m) rfl sound opens (by simp [missing])
    writing (by decide) (by decide)
  rw [missing] at verdicts held
  exact ⟨verdicts.trans (by decide +kernel), held.trans (by decide +kernel)⟩

end MappedFile

end StorageEngine
