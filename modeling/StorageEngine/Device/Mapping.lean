import StorageEngine.Capabilities
import StorageEngine.Device.Disk
import StorageEngine.Request
import StorageEngine.Word

/-!
# A mapped file

The whole file is mapped into memory while it is open, and reads, writes and erasures go to the
mapping, which shows the bytes of the file.  A mapping has the length that the file had when it was
made; an empty file has no mapping.  A write that ends beyond the mapping lets go of it, sets the
length of the file to exactly its own end, and maps the file anew.  If the length cannot be set,
the file stays as it is, but the mapping is gone and counts as empty from then on.
-/

namespace StorageEngine

/-- What of a file is mapped. -/
inductive MappedRegion
  | empty
  | readOnly (length : Nat)
  | readWrite (length : Nat)
  deriving DecidableEq, Inhabited

/-- The length of a region. -/
def MappedRegion.length : MappedRegion → Nat
  | .empty => 0
  | .readOnly n | .readWrite n => n

/-- An open file and its mapping. -/
structure Mapping where
  file : Nat
  /-- Whether the file was opened for writing too. -/
  writable : Bool
  region : MappedRegion
  deriving DecidableEq, Inhabited

/-- A device over one file. -/
structure MappedFile where
  path : String
  readOnly : Bool := false
  /-- Whether destroying removes the file. -/
  removeOnDestroy : Bool := false
  mapped : Option Mapping := none
  deriving DecidableEq, Inhabited

namespace MappedFile

/-- The largest length that a file can be given. -/
def maxLength : Nat := 9223372036854775807

/-- What the device offers. -/
def capabilities (m : MappedFile) : Capabilities :=
  if m.readOnly then
    { openReadOnly := true, read := true, stat := true, close := true, destroy := true }
  else .readWrite

/-- Maps a file as it is now. -/
def regionOf (disk : Disk) (file : Nat) (readOnly : Bool) : MappedRegion :=
  match (disk.cells file).length with
  | 0 => .empty
  | n => if readOnly then .readOnly n else .readWrite n

/-- Opens the file and maps it. -/
def openFile (m : MappedFile) (disk : Disk) (readOnly : Bool) :
    Except Error (MappedFile × Disk) :=
  if readOnly then
    (disk.openReadOnly m.path).map fun file =>
      ({ m with mapped := some ⟨file, false, regionOf disk file true⟩ }, disk)
  else
    (disk.openReadWrite m.path).map fun (file, disk) =>
      ({ m with mapped := some ⟨file, true, regionOf disk file false⟩ }, disk)

/-- The end of a range of addresses. -/
def rangeEnd (offset length : Nat) : Except Error Nat :=
  match Word.checkedAdd? offset length with
  | some stop => .ok stop
  | none => .error (.backend Code.invalid)

/-- Reads `length` bytes within the mapping.  If the file has become shorter than the mapping, what
it lost shows as zeros. -/
def readAt (m : MappedFile) (disk : Disk) (offset length : Nat) : Except Error Bytes :=
  match m.mapped with
  | none => .error (.backend Code.badDescriptor)
  | some mapping => do
    let stop ← rangeEnd offset length
    if mapping.region.length < stop then .error (.backend Code.outOfRange)
    else return (disk.cells mapping.file).read offset length

/-- Makes the mapping reach up to `stop`: the outcome, the mapping and the disk. -/
def grow (mapping : Mapping) (disk : Disk) (stop : Nat) : Except Error Unit × Mapping × Disk :=
  let emptied := { mapping with region := .empty }
  if maxLength < stop then (.error (.backend Code.io), emptied, disk)
  else if !mapping.writable then (.error (.backend Code.invalid), emptied, disk)
  else
    let disk := disk.setLength mapping.file stop
    (.ok (), { mapping with region := regionOf disk mapping.file false }, disk)

/-- Writes some bytes: the outcome, the device and the disk. -/
def writeAt (m : MappedFile) (disk : Disk) (offset : Nat) (data : Bytes) :
    Except Error Nat × MappedFile × Disk :=
  match m.mapped with
  | none => (.error (.backend Code.badDescriptor), m, disk)
  | some mapping =>
    if data.isEmpty then (.ok 0, m, disk)
    else
      match rangeEnd offset data.length with
      | .error e => (.error e, m, disk)
      | .ok stop =>
        let (grown, mapping, disk) :=
          if mapping.region.length < stop then grow mapping disk stop else (.ok (), mapping, disk)
        let m := { m with mapped := some mapping }
        match grown, mapping.region with
        | .error e, _ => (.error e, m, disk)
        | .ok (), .readWrite _ => (.ok data.length, m, disk.store mapping.file offset data)
        | .ok (), _ => (.error (.backend Code.badDescriptor), m, disk)

/-- Fills with zeros what of the range is mapped for writing, and says how many bytes that are. -/
def eraseAt (m : MappedFile) (disk : Disk) (offset size : Nat) : Except Error Nat × Disk :=
  match m.mapped with
  | none => (.error (.backend Code.badDescriptor), disk)
  | some { file, region := .readWrite length, .. } =>
    let stop := min (Word.clampedAdd offset size) length
    if stop ≤ offset then (.ok 0, disk)
    else (.ok (stop - offset), disk.clear file offset stop)
  | some _ => (.ok 0, disk)

/-- The length of what is mapped. -/
def length (m : MappedFile) : Except Error Nat :=
  match m.mapped with
  | none => .error (.backend Code.badDescriptor)
  | some mapping => .ok mapping.region.length

/-- Lets go of the file. -/
def unmap (m : MappedFile) : MappedFile :=
  { m with mapped := none }

/-- Finishes with nothing but a result. -/
def verdict (result : Except Error Nat) : Verdict :=
  { result := result.map some }

/-- What each handler does to the device and the disk, and how it finishes the request. -/
def serve (m : MappedFile) (disk : Disk) (h : Handler) (r : Request) :
    Verdict × MappedFile × Disk :=
  match h with
  | .openReadOnly | .openReadWrite =>
    match m.openFile disk (h = .openReadOnly) with
    | .ok (m, disk) => (verdict (.ok 0), m, disk)
    | .error e => (verdict (.error e), m, disk)
  | .read =>
    match m.readAt disk r.offset r.data.length with
    | .ok bytes => ({ data := some bytes, result := .ok (some bytes.length) }, m, disk)
    | .error e => (verdict (.error e), m, disk)
  | .write =>
    let (result, m, disk) := m.writeAt disk r.offset r.data
    (verdict result, m, disk)
  | .delete =>
    let (result, disk) := m.eraseAt disk r.offset r.size
    (verdict result, m, disk)
  | .stat =>
    match m.length with
    | .ok size => ({ stats := some { size }, result := .ok none }, m, disk)
    | .error e => (verdict (.error e), m, disk)
  | .close => (verdict (.ok 0), m.unmap, disk)
  | .destroy =>
    if m.removeOnDestroy then
      match disk.remove m.path with
      | .ok disk => (verdict (.ok 0), m.unmap, disk)
      | .error e => (verdict (.error e), m.unmap, disk)
    else (verdict (.ok 0), m.unmap, disk)

end MappedFile

end StorageEngine
