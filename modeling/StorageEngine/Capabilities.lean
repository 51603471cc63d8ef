import StorageEngine.Kind
import StorageEngine.Text.Record

/-!
# What a device can do

A device advertises which of its handlers may be called.  A data operation without its handler is
refused when it is submitted; opening, closing and destroying without one succeed and do nothing.
-/

namespace StorageEngine

/-- Which handlers a device offers. -/
structure Capabilities where
  openReadOnly : Bool := false
  openReadWrite : Bool := false
  read : Bool := false
  write : Bool := false
  delete : Bool := false
  stat : Bool := false
  close : Bool := false
  destroy : Bool := false
  deriving DecidableEq, Inhabited

namespace Capabilities

/-- Everything but opening for reading only. -/
def readWrite : Capabilities where
  openReadWrite := true
  read := true
  write := true
  delete := true
  stat := true
  close := true
  destroy := true

/-- Whether one handler is offered. -/
def offers (c : Capabilities) : Handler → Bool
  | .openReadOnly => c.openReadOnly
  | .openReadWrite => c.openReadWrite
  | .read => c.read
  | .write => c.write
  | .delete => c.delete
  | .stat => c.stat
  | .close => c.close
  | .destroy => c.destroy

/-- The capabilities that offer exactly the handlers in `hs`. -/
def ofHandlers (hs : List Handler) : Capabilities where
  openReadOnly := hs.contains .openReadOnly
  openReadWrite := hs.contains .openReadWrite
  read := hs.contains .read
  write := hs.contains .write
  delete := hs.contains .delete
  stat := hs.contains .stat
  close := hs.contains .close
  destroy := hs.contains .destroy

/-- The handlers on offer, in order. -/
def handlers (c : Capabilities) : List Handler :=
  Handler.all.filter c.offers

theorem ofHandlers_handlers (c : Capabilities) : ofHandlers c.handlers = c := by
  rcases c with ⟨_ | _, _ | _, _ | _, _ | _, _ | _, _ | _, _ | _, _ | _⟩ <;> rfl

/-- Whether some handler serves requests of this kind. -/
def supports (c : Capabilities) : Kind → Bool
  | .read => c.read
  | .write => c.write
  | .delete => c.delete
  | .stat => c.stat
  | .opening => c.openReadWrite || c.openReadOnly
  | .closing => c.close
  | .destroying => c.destroy
  | .nothing => false

/-- The name of a handler as a capability. -/
def fieldName : Handler → String
  | .openReadOnly => "open_read_only"
  | .openReadWrite => "open"
  | .read => "read"
  | .write => "write"
  | .delete => "delete"
  | .stat => "stat"
  | .close => "close"
  | .destroy => "destroy"

/-- The diagnostic text of a capability record. -/
def describe (c : Capabilities) : String :=
  Text.record "Capabilities" (Handler.all.map fun h => (fieldName h, Text.flag (c.offers h)))

end Capabilities

end StorageEngine
