import StorageEngine.Error

/-!
# Paths

The name of a file or a directory is a path: parts between slashes, to be walked one after the
other.  Slashes in a row count as one.  A slash at the front starts the walk at the root of the
system, a slash at the end asks for a directory.  How long a name may be is decided on the name as
it is written, before any walk.
-/

namespace StorageEngine

/-- A path, taken apart. -/
structure Path where
  parts : List String
  /-- Whether the walk starts at the root of the system. -/
  absolute : Bool
  /-- Whether a slash ends the path. -/
  closed : Bool
  deriving DecidableEq, Inhabited

namespace Path

/-- The most bytes that a path may have, counted from the root of the system. -/
def maxLength : Nat := 4095

/-- The bytes of a path that are kept for the way from the root of the system to a disk. -/
def wayToDisk : Nat := 32

/-- Reads a name as a path.  No path has a null character in it, nor more bytes than fit. -/
def ofName (name : String) : Except Int Path :=
  let absolute := name.startsWith "/"
  let way := if absolute then 0 else wayToDisk
  if name.toList.contains '\x00' then .error Code.io
  else if maxLength < way + name.utf8ByteSize then .error Code.nameTooLong
  else
    let parts := (name.splitOn "/").filter (· ≠ "")
    .ok { parts, absolute, closed := name.endsWith "/" }

/-- The most bytes that a part may have. -/
def maxPart : Nat := 255

/-- What a part of a path says about the way. -/
inductive Turn
  /-- The part is a single dot: the way goes nowhere. -/
  | stay
  /-- The part is two dots: the way goes back to the directory above. -/
  | back
  /-- The way goes on to what this name stands for. -/
  | into (name : String)
  deriving DecidableEq, Inhabited

/-- The turn that a part stands for. -/
def Turn.ofPart (part : String) : Turn :=
  if part = "." then .stay else if part = ".." then .back else .into part

end Path

end StorageEngine
