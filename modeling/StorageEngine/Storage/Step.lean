import StorageEngine.Storage.Pipeline

/-!
# The steps of a storage

`Storage.step` does the topmost task.  It has nothing to do exactly when the client has to move:
client code is on top, or the answer of a call that no task waits for, or nothing at all.
-/

namespace StorageEngine.Storage

/-- Does a task that was just taken from the stack. -/
def perform (s : Storage) : Task → Storage
  | .submit order => s.submit order
  | .enter r => s.enter r
  | .drain => s.drain
  | .drainNext => s.drainNext
  | .run r => s.run r
  | .pipeline r stage => s.advance r stage
  | .deliver d => s.deliver d
  | .teardown orphans => s.teardown orphans
  | .client _ | .answer _ | .awaitOpening _ | .awaitClosing _ | .awaitCall _ => s

/-- Goes on with a call whose inner call has ended. -/
def resume? (s : Storage) (reply : Reply) : Task → Option Storage
  | .awaitOpening r =>
    match reply with
    | .done result => some (s.afterOpening r result)
    | _ => none
  | .awaitClosing order =>
    match reply with
    | .done (.ok ()) => some (s.push [.submit order])
    | .done (.error e) => some (s.reply (.done (.error e)))
    | _ => none
  | .awaitCall promise =>
    match reply with
    | .done (.ok ()) => some (s.reply (.promise promise))
    | .done (.error e) => some ((s.keep promise (.error e)).reply (.promise promise))
    | _ => none
  | _ => none

/-- A storage that nobody holds any more drops what is still queued. -/
def dropQueue (s : Storage) : Storage :=
  s.queue.foldl discard { s with queue := [] }

/-- The next step, if it is not the client's turn. -/
def step (s : Storage) : Option Storage :=
  match s.stack with
  | [] => if s.owned ∨ s.queue = [] then none else some s.dropQueue
  | .client _ :: _ => none
  | .answer reply :: task :: rest => { s with stack := rest }.resume? reply task
  | .answer _ :: [] => none
  | .awaitOpening _ :: _ | .awaitClosing _ :: _ | .awaitCall _ :: _ => none
  | task :: rest => some ({ s with stack := rest }.perform task)

/-- It is the client's turn. -/
def isAtRest (s : Storage) : Bool :=
  s.step.isNone

end StorageEngine.Storage
