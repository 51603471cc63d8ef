/-!
# What a request asks for

Reads, writes, erasures and stats move data; opening, closing and destroying move the storage
through its life.  The second group are *barriers*: nothing else is inside the device while one
of them is, and nothing queued behind one starts before it ends.
-/

namespace StorageEngine

/-- What a request asks for.  `nothing` asks for nothing, and no device can answer it. -/
inductive Kind
  | read
  | write
  | delete
  | stat
  | opening
  | closing
  | destroying
  | nothing
  deriving DecidableEq, Inhabited

namespace Kind

/-- Every kind, data first. -/
def all : List Kind :=
  [.read, .write, .delete, .stat, .opening, .closing, .destroying, .nothing]

/-- Opening, closing and destroying let nothing else run beside them. -/
def isBarrier : Kind → Bool
  | .opening | .closing | .destroying => true
  | _ => false

/-- Reading, writing, deleting and statting touch the data. -/
def isData : Kind → Bool
  | .read | .write | .delete | .stat => true
  | _ => false

theorem not_isData_of_isBarrier {k : Kind} (h : k.isBarrier = true) : k.isData = false := by
  cases k <;> simp_all [isBarrier, isData]

/-- The word for the operation in messages. -/
def word : Kind → String
  | .read => "read"
  | .write => "write"
  | .delete => "delete"
  | .stat => "stat"
  | .opening => "open"
  | .closing => "close"
  | .destroying => "destroy"
  | .nothing => "none"

/-- The name of the kind in diagnostics. -/
def label : Kind → String
  | .read => "Read"
  | .write => "Write"
  | .delete => "Delete"
  | .stat => "Stat"
  | .opening => "Open"
  | .closing => "Close"
  | .destroying => "Destroy"
  | .nothing => "None"

end Kind

/-- The entry points of a device, one for each thing that it can be told to do. -/
inductive Handler
  | openReadOnly
  | openReadWrite
  | read
  | write
  | delete
  | stat
  | close
  | destroy
  deriving DecidableEq, Inhabited

/-- Every handler, in the order of the capability record. -/
def Handler.all : List Handler :=
  [.openReadOnly, .openReadWrite, .read, .write, .delete, .stat, .close, .destroy]

/-- The handler that serves a data operation. -/
def Kind.dataHandler : Kind → Handler
  | .read => .read
  | .write => .write
  | .delete => .delete
  | _ => .stat

end StorageEngine
