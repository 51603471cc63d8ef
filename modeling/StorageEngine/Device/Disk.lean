import StorageEngine.Device.Cells
import StorageEngine.Device.Path

/-!
# Files

A disk holds directories and files below one directory, its home, which is always there and stands
in the directories of a larger system.  The contents of a file belong to the file and not to its
name: whoever has the file open keeps it when the name is removed.

A name is looked up part by part, from home or from the root of the system.  Whatever has to be
walked through must be a directory; the last part may stand for nothing yet, and is then the place
where something can be made.
-/

namespace StorageEngine

/-- What a name stands for. -/
inductive DiskEntry
  | directory
  | file (number : Nat)
  deriving DecidableEq, Inhabited

/-- The way from the root of the system to an entry, without any detour. -/
abbrev Route := List String

/-- Where a name leads. -/
inductive Spot
  /-- To a directory that is there for sure: home, or one reached by going back or nowhere. -/
  | directory
  /-- To a place in a directory, empty or not; `closed` if only a directory will do. -/
  | place (route : Route) (closed : Bool)
  deriving DecidableEq, Inhabited

/-- Entries by their routes, and the contents of every file that was ever made, by file number. -/
structure Disk where
  entries : List (Route × DiskEntry) := []
  contents : List Cells := []
  deriving Inhabited

namespace Disk

/-- The directory where the walk of a path starts, unless the path is absolute.  It lies below the
root of the system, and the two directories on the way have names that no path can spell: it can be
left, but not entered again. -/
def home : Route := ["/", "/"]

/-- Where the walk of a path starts. -/
def start (path : Path) : Route :=
  if path.absolute then [] else home

/-- What there is at the end of a route; a directory at home and on the way to it. -/
def at? (d : Disk) (route : Route) : Option DiskEntry :=
  if route.isPrefixOf home then some .directory else d.entries.lookup route

/-- The route that a turn takes from a directory, not looking at what is there.  Going back from
the root of the system leads nowhere else. -/
def turn (here : Route) (t : Path.Turn) : Except Int Route :=
  match t with
  | .stay => .ok here
  | .back => .ok here.dropLast
  | .into name =>
    if Path.maxPart < name.utf8ByteSize then .error Code.nameTooLong else .ok (here ++ [name])

/-- Walks from a directory through one part of a path into the next directory. -/
def enter (d : Disk) (here : Route) (part : String) : Except Int Route := do
  let there ← turn here (.ofPart part)
  match d.at? there with
  | some .directory => return there
  | some (.file _) => throw Code.notDirectory
  | none => throw Code.noEntry

/-- Finds out where a name leads. -/
def locate (d : Disk) (name : String) : Except Int Spot := do
  let path ← Path.ofName name
  let here ← path.parts.dropLast.foldlM d.enter (start path)
  match path.parts.getLast?.map Path.Turn.ofPart with
  | none | some .stay | some .back => return .directory
  | some t => return .place (← turn here t) path.closed

/-- What a name stands for, if anything.  A name that ends in a slash stands for no file. -/
def entry? (d : Disk) (name : String) : Option DiskEntry :=
  match d.locate name with
  | .ok .directory => some .directory
  | .ok (.place route closed) =>
    match d.at? route, closed with
    | some (.file _), true => none
    | found, _ => found
  | .error _ => none

/-- The contents of a file. -/
def cells (d : Disk) (file : Nat) : Cells :=
  d.contents.getD file (Cells.zeros 0)

/-- The contents of the file with this name. -/
def read? (d : Disk) (name : String) : Option Bytes :=
  match d.entry? name with
  | some (.file number) => some (d.cells number).toBytes
  | _ => none

/-- Replaces the contents of a file. -/
def setCells (d : Disk) (file : Nat) (c : Cells) : Disk :=
  { d with contents := d.contents.set file c }

/-- Makes an empty file at the end of a route that leads to nothing yet. -/
def create (d : Disk) (route : Route) : Nat × Disk :=
  (d.contents.length,
   { entries := d.entries ++ [(route, .file d.contents.length)]
     contents := d.contents ++ [Cells.zeros 0] })

/-- Opens a file for reading and writing; a missing file is made. -/
def openReadWrite (d : Disk) (name : String) : Except Error (Nat × Disk) :=
  match d.locate name with
  | .error code => .error (.backend code)
  | .ok .directory | .ok (.place _ true) => .error (.backend Code.isDirectory)
  | .ok (.place route false) =>
    match d.at? route with
    | some (.file number) => .ok (number, d)
    | some .directory => .error (.backend Code.isDirectory)
    | none => .ok (d.create route)

/-- Opens a file for reading.  A directory opens too, but cannot be mapped. -/
def openReadOnly (d : Disk) (name : String) : Except Error Nat :=
  match d.locate name with
  | .error code => .error (.backend code)
  | .ok .directory => .error (.backend Code.noDevice)
  | .ok (.place route closed) =>
    match d.at? route with
    | some (.file number) => if closed then .error (.backend Code.notDirectory) else .ok number
    | some .directory => .error (.backend Code.noDevice)
    | none => .error (.backend Code.noEntry)

/-- Removes a file's name.  A missing name is fine, a directory is not. -/
def remove (d : Disk) (name : String) : Except Error Disk :=
  match d.locate name with
  | .error code => if code = Code.noEntry then .ok d else .error (.backend code)
  | .ok .directory => .error (.backend Code.isDirectory)
  | .ok (.place route closed) =>
    match d.at? route with
    | some (.file _) =>
      if closed then .error (.backend Code.notDirectory)
      else .ok { d with entries := d.entries.filter (·.1 ≠ route) }
    | some .directory => .error (.backend Code.isDirectory)
    | none => .ok d

/-- Gives the file with this name the contents `b`, making it if need be; nothing happens where no
file can be. -/
def put (d : Disk) (name : String) (b : Bytes) : Disk :=
  match d.openReadWrite name with
  | .ok (number, d) => d.setCells number (Cells.ofBytes b)
  | .error _ => d

/-- Walks the parts of a path from a directory, and makes the directories that are missing. -/
def makeDirectories (d : Disk) (here : Route) : List String → Disk
  | [] => d
  | part :: rest =>
    match turn here (.ofPart part) with
    | .error _ => d
    | .ok there =>
      match d.at? there with
      | some .directory => d.makeDirectories there rest
      | some (.file _) => d
      | none =>
        makeDirectories { d with entries := d.entries ++ [(there, .directory)] } there rest

/-- Makes a directory with this name, and those that the way to it lacks; nothing happens beyond a
file. -/
def makeDirectory (d : Disk) (name : String) : Disk :=
  match Path.ofName name with
  | .ok path => d.makeDirectories (start path) path.parts
  | .error _ => d

/-- Makes the directories that the way to a name lacks. -/
def makeWay (d : Disk) (name : String) : Disk :=
  match Path.ofName name with
  | .ok path => d.makeDirectories (start path) path.parts.dropLast
  | .error _ => d

/-- Sets the length of a file, cutting it or filling it up with zeros. -/
def setLength (d : Disk) (file length : Nat) : Disk :=
  d.setCells file ((d.cells file).resize length)

/-- Stores bytes in a file without changing its length. -/
def store (d : Disk) (file start : Nat) (src : Bytes) : Disk :=
  d.setCells file ((d.cells file).store start src)

/-- Fills a stretch of a file with zeros. -/
def clear (d : Disk) (file start stop : Nat) : Disk :=
  d.setCells file ((d.cells file).clear start stop)

/-- Below a directory that was made on the way there is room for a file; the way leads into
directories and back, but neither through a file nor through a name that stands for nothing. -/
example :
    let d := ({} : Disk).makeDirectories home ["a", "b"]
    let d := (d.create (home ++ ["a", "f"])).2
    (d.enter (home ++ ["a"]) "b").toOption = some (home ++ ["a", "b"]) ∧
      (d.enter (home ++ ["a"]) "..").toOption = some home ∧
      d.enter (home ++ ["a"]) "f" = .error Code.notDirectory ∧
      d.enter home ".." ≠ .ok home ∧
      d.enter (home ++ ["a"]) "g" = .error Code.noEntry := by
  decide +kernel

end Disk

end StorageEngine
