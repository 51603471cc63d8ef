import StorageEngine.Json
import StorageEngine.Limits
import StorageEngine.Word

/-!
# Limits as a document

Limits are written as a JSON object with the fields `queue_capacity` and `listener_capacity`, or
as an array of the two in this order.  What is missing takes its default, other fields are ignored,
and a bound is a plain natural numeral of at most 64 bits.  A bound may be given only once, and
every field name must be a proper text.
-/

namespace StorageEngine.Limits

/-- A bound in a document. -/
def boundOf? : Json → Option Nat
  | .number (some n) => if n ≤ Word.top then some n else none
  | _ => none

/-- The bound under a field name: the default where the field is missing, and nothing where it is
given twice or is no bound. -/
def fieldOf? (fields : List (Option String × Json)) (name : String) (default : Nat) :
    Option Nat :=
  match fields.filter fun field => field.1 = some name with
  | [] => some default
  | [(_, value)] => boundOf? value
  | _ => none

/-- The limits that a JSON value describes. -/
def ofJson? : Json → Option Limits
  | .array [] => some {}
  | .array [q] => do
    let q ← boundOf? q
    return { queueCapacity := q }
  | .array [q, l] => do
    let q ← boundOf? q
    let l ← boundOf? l
    return { queueCapacity := q, listenerCapacity := l }
  | .object fields =>
    if fields.any fun field => field.1.isNone then none
    else do
      let q ← fieldOf? fields "queue_capacity" ({} : Limits).queueCapacity
      let l ← fieldOf? fields "listener_capacity" ({} : Limits).listenerCapacity
      return { queueCapacity := q, listenerCapacity := l }
  | _ => none

/-- Reads limits from the text of a document. -/
def read? (text : String) : Option Limits :=
  (Json.read? text).bind ofJson?

/-- The document of some limits, without blanks. -/
def write (l : Limits) : String :=
  "\x7b\"queue_capacity\":" ++ toString l.queueCapacity ++
    ",\"listener_capacity\":" ++ toString l.listenerCapacity ++ "\x7d"

end StorageEngine.Limits
