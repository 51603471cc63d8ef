import StorageEngine.Scenario.Play

/-!
# The demonstration

Two short scenarios and what is printed about them: a sequence of operations on paged memory with
plain callbacks, and a round trip through a pool of workers with promises.
-/

namespace StorageEngine

/-- The version of the engine. -/
def version : String := "0.1.0"

end StorageEngine

namespace StorageEngine.Demo

open Scenario

/-- A command about the storage of a demonstration. -/
def command (deed : Deed Command) : Command :=
  .mk "" 0 none deed

/-- An operation with a callback that does what `next` says. -/
def call (tag : String) (op : Operation) (next : List Command := []) : Command :=
  command (.call op (some tag) next none)

/-- Writing, reading, deleting and statting on paged memory, then destroying it. -/
def memoryScript : Script where
  storages := [{ manner := .library (.memory (.empty Sparse.defaultPageSize)) }]
  commands := [
    command (.listen .opened .forever none []),
    command (.listen .failed .forever none []),
    call "write" (.write 15 [0xaa, 0xbb, 0xcc, 0xdd]),
    call "read" (.read 15 4),
    call "delete" (.delete 16 2) [call "after delete" (.read 15 4)],
    call "stat" .stat,
    call "destroy" .destroying]

/-- Writing and reading through a pool of two workers, then destroying it. -/
def poolScript : Script where
  storages := [{ manner := .library (.pool (.start 2 Pool.defaultCapacity)) }]
  commands := [
    command (.promise (.write 0 (Bytes.ofAscii "hello from a worker"))),
    command .receiveAll,
    command (.poll 0),
    command (.promise (.read 0 19)),
    command .receiveAll,
    command (.poll 1),
    command (.promise .destroying),
    command .receiveAll,
    command (.poll 2)]

/-- The diagnostic text of the result of an operation without data. -/
def describeResult : Except Error Payload → String
  | .ok _ => Text.wrapped "Ok" "()"
  | .error e => Text.wrapped "Err" e.describe

/-- What is printed when a callback of the first scenario is called. -/
def doneLine (tag : String) (result : Except Error Payload) (state : Glance) : Option String :=
  match tag, result with
  | "read", .ok (.bytes b) => some ("read: " ++ b.spacedHex)
  | "read", .error e => some ("read failed: " ++ e.message)
  | "after delete", .ok (.bytes b) => some ("after delete: " ++ b.spacedHex)
  | "after delete", _ => none
  | "stat", .ok (.stats st) => some ("stat: size " ++ toString st.size)
  | "stat", .error e => some ("stat failed: " ++ e.message)
  | "destroy", r =>
    some ("destroy: " ++ describeResult r ++ ", destroyed: " ++
      Text.flag (state.ready = .destroyed))
  | tag, r => some (tag ++ ": " ++ describeResult r)

/-- What is printed about an entry. -/
def entryLine : Entry → Option String
  | .done (some tag) result state => doneLine tag result state
  | .event _ { event := .failed, error } _ =>
    some ("event: error " ++ Text.optional (error.map (·.describe)))
  | .event _ { event, .. } _ => some ("event: " ++ event.word)
  | _ => none

/-- The counters of the allocator at the end of a scenario. -/
def allocatorLine (t : Transcript) : Option String :=
  match t.steps.getLast? with
  | some { state := .storage _ _ _ allocator _, .. } => some ("allocator: " ++ allocator.describe)
  | _ => none

/-- What the first scenario prints. -/
def memoryLines : List String :=
  let t := memoryScript.play
  t.steps.flatMap (·.entries.filterMap entryLine) ++ (allocatorLine t).toList

/-- What is printed about a redeemed promise: the text that was read. -/
def readLine : Answer → Option String
  | .result (.ok (.bytes b)) => some ("thread pool read: " ++ b.asciiText)
  | _ => none

/-- What the second scenario prints. -/
def poolLines : List String :=
  let t := poolScript.play
  t.steps.filterMap (fun step => readLine step.answer) ++ (allocatorLine t).toList

/-- Everything that the demonstration prints. -/
def output : String :=
  String.join ((("ras " ++ version) :: memoryLines ++ poolLines).map (· ++ "\n"))

end StorageEngine.Demo
