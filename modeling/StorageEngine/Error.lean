import StorageEngine.Kind
import StorageEngine.Text.Quoted
import StorageEngine.Text.Record

/-!
# What can go wrong

A refused call returns its error at once; a failed request hands its error to the completion
pipeline, and the caller finds it in the callback.  Every error has a numeric code and a message;
a device's own code passes through unchanged.
-/

namespace StorageEngine

/-! Numeric codes that devices and errors share. -/

namespace Code

def notPermitted : Int := 1
def noEntry : Int := 2
def io : Int := 5
def badDescriptor : Int := 9
def fault : Int := 14
def noDevice : Int := 19
def notDirectory : Int := 20
def isDirectory : Int := 21
def invalid : Int := 22
def noSpace : Int := 28
def outOfRange : Int := 34
def nameTooLong : Int := 36
def unsupported : Int := 95
def cancelled : Int := 125

end Code

/-- The reason why a call was refused or a request failed. -/
inductive Error
  /-- The storage is destroyed, or memory was refused. -/
  | fault
  /-- A request of another storage, or a listener with no life at all. -/
  | invalidArgument
  /-- The limits make no sense. -/
  | invalidConfig (reason : String)
  /-- The device has no handler for this kind. -/
  | unsupported (kind : Kind)
  /-- A data request ran while the storage was not open. -/
  | notReady
  /-- A bounded table has no room. -/
  | capacityExceeded (resource : String) (capacity : Nat)
  /-- The code that a device reported. -/
  | backend (code : Int)
  /-- The device let go of the request without finishing it. -/
  | abandoned
  deriving DecidableEq, Inhabited

instance decidableEqExcept {ε α : Type} [DecidableEq ε] [DecidableEq α] :
    DecidableEq (Except ε α)
  | .ok a, .ok b => decidable_of_iff (a = b) ⟨congrArg _, Except.ok.inj⟩
  | .error a, .error b => decidable_of_iff (a = b) ⟨congrArg _, Except.error.inj⟩
  | .ok _, .error _ | .error _, .ok _ => isFalse nofun

namespace Error

/-- The numeric code of an error. -/
def code : Error → Int
  | .fault => Code.fault
  | .invalidArgument | .invalidConfig _ => Code.invalid
  | .unsupported _ => Code.unsupported
  | .notReady => Code.notPermitted
  | .capacityExceeded _ _ => Code.noSpace
  | .backend code => code
  | .abandoned => Code.cancelled

/-- The message of an error. -/
def message : Error → String
  | .fault => "storage or request is not usable"
  | .invalidArgument => "request belongs to a different storage"
  | .invalidConfig reason => "invalid configuration: " ++ reason
  | .unsupported kind => "backend does not support " ++ kind.word
  | .notReady => "storage is not open"
  | .capacityExceeded resource capacity =>
    resource ++ " is full (capacity " ++ toString capacity ++ ")"
  | .backend code => "backend failed with code " ++ toString code
  | .abandoned => "request was dropped before completion"

/-- The bare name of an error. -/
def label : Error → String
  | .fault => "Fault"
  | .invalidArgument => "InvalidArgument"
  | .invalidConfig _ => "InvalidConfig"
  | .unsupported _ => "Unsupported"
  | .notReady => "NotReady"
  | .capacityExceeded _ _ => "CapacityExceeded"
  | .backend _ => "Backend"
  | .abandoned => "Abandoned"

/-- The diagnostic text of an error: its name and what it carries. -/
def describe (e : Error) : String :=
  match e with
  | .invalidConfig reason => Text.wrapped e.label (Text.quoted reason)
  | .unsupported kind => Text.wrapped e.label kind.label
  | .capacityExceeded resource capacity =>
    Text.record e.label [("resource", Text.quoted resource), ("capacity", toString capacity)]
  | .backend code => Text.wrapped e.label (toString code)
  | _ => e.label

/-- Whether this is the plain fault. -/
def isFault (e : Error) : Bool :=
  e = .fault

/-- The error for a failure of the system below: its own code, or the general failure code where
it has none. -/
def ofSystem (code : Option Int) : Error :=
  .backend (code.getD Code.io)

end Error

end StorageEngine
