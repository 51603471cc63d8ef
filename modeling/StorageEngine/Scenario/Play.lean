import StorageEngine.Scenario.World

/-!
# Playing a scenario

Commands act on the world one after the other.  A call of a storage goes on, step by step, until
its answer is on top of the storage's stack; whenever client code is on top, that code is played
first, with the commands in it, and then gives control back.  Nesting has no bound of its own, so
every part of the play has a `fuel` that limits how many steps may follow one another or nest; a
script that does not call itself for ever ends long before the fuel of `Script.play` is used up.
-/

namespace StorageEngine.Scenario

/-- A part of a play. -/
abbrev Play := StateM World

/-- The answer of a command as it follows from a storage's reply. -/
def answerOf (reply : Reply) : Play Answer := do
  match reply with
  | .unit => return .null
  | .done (.ok ()) => return .result (.ok .unit)
  | .done (.error e) => return .result (.error e)
  | .length r => return .length r
  | .registered (.ok id) =>
    modify fun w => { w with registrations := w.registrations.push id }
    return .registered (.ok id)
  | .registered (.error e) => return .registered (.error e)
  | .count n => return .number n
  | .flag b => return .flag b
  | .made (.error e) => return .result (.error e)
  | .promised .pending => return .pending
  | .promised (.settled r) => return .result r
  | .made (.ok _) | .shifted _ | .promise _ => return .null

/-- Takes the answer of a call off a storage's stack.  If that was the last thing that held the
storage, it is let go of. -/
def collect (n : Nat) : Play Unit :=
  modify fun w => w.modifyStation n fun station =>
    let storage := station.node.storage.collect
    { station with node := { station.node with storage := storage.step.getD storage } }

/-- Removes a listener of an emitter that belongs to no storage; the answer is how many went. -/
def withdraw (e : Nat) (f : Emitter → Emitter) : Play Nat := do
  match (← get).emitters[e]? with
  | none => return 0
  | some relay =>
    let emitter := f relay.emitter
    modify fun w => { w with emitters := w.emitters.set! e { relay with emitter } }
    return relay.emitter.size - emitter.size

/-- Registers a callback, in an emitter of its own or by a move on a storage. -/
def registerOwn (e : Nat) (event : Event) (ttl : Ttl) (callback : Callback) : Play Answer := do
  match (← get).emitters[e]? with
  | none => return .gone
  | some relay =>
    match relay.emitter.register event ttl callback with
    | .ok (id, emitter) =>
      modify fun w => { w with emitters := w.emitters.set! e { relay with emitter } }
      answerOf (.registered (.ok id))
    | .error err => answerOf (.registered (.error err))

/-- Gives the code of a listener a number.  Its home is the storage of the command, unless the
command is about an emitter of its own. -/
def listenerCode (c : Command) (tag : Option String) (body : List Command) : Play Callback :=
  modifyGet fun w =>
    w.addCode (.listener tag (if c.emitter.isNone then some c.storage else none) body)

/-- The number of a named callback, made at its first use. -/
def namedCode (c : Command) (name : String) (tag : Option String) (body : List Command) :
    Play Callback := do
  match (← get).namedCallbacks.lookup name with
  | some callback => return callback
  | none =>
    let callback ← listenerCode c tag body
    modify fun w => { w with namedCallbacks := w.namedCallbacks ++ [(name, callback)] }
    return callback

/-- The next reaction of a scripted handler. -/
def nextReaction (n : Nat) (h : Handler) : Play Reaction := do
  match (← get).stations[n]? with
  | some { manner := .scripted reactions, .. } =>
    match reactions.lookup h with
    | some (reaction :: rest) =>
      let reactions := reactions.map fun (h', rs) => (h', if h' = h then rest else rs)
      modify fun w => w.modifyStation n fun station =>
        { station with manner := .scripted reactions }
      return reaction
    | _ => return {}
  | _ => return {}

/-- Looks at the request in a place, or changes it there. -/
def onRequest (c : Command) (place : Place) (f : RequestRef → Storage → Request → Play Answer) :
    Play Answer := do
  let w ← get
  match w.find? c.storage place with
  | none => return .missing
  | some ref =>
    match w.storage? ref.station, w.request? ref with
    | some s, some r => f ref s r
    | _, _ => return .missing

/-- Changes the request in a place. -/
def editRequest (c : Command) (place : Place) (change : Request → Edit × Answer) : Play Answer :=
  onRequest c place fun ref _ r => do
    let (edit, answer) := change r
    modify fun w => w.act ref.station (.edit ref.id edit)
    collect ref.station
    return answer

/-- Writes an entry. -/
def note (entry : Entry) : Play Unit :=
  modify (·.write entry)

mutual

/-- Plays the commands of a callback; each leaves its answer in the transcript. -/
def playAll (fuel : Nat) (commands : List Command) : Play Unit := do
  match fuel, commands with
  | 0, _ | _, [] => return
  | fuel + 1, c :: rest =>
    let answer ← perform fuel c
    note (.command c.name answer)
    playAll fuel rest

/-- Lets a storage go on until the answer of the current call is there, and collects it. -/
def drive (fuel : Nat) (n : Nat) : Play Reply := do
  match fuel with
  | 0 => return .unit
  | fuel + 1 =>
    match (← get).stations[n]? with
    | none => return .unit
    | some station =>
      match station.node.step (← get).disk with
      | some (node, disk) =>
        modify fun w => { w.modifyStation n fun station => { station with node } with disk }
        drive fuel n
      | none =>
        match station.node.storage.stack with
        | .answer reply :: _ =>
          collect n
          return reply
        | .client code :: _ =>
          invoke fuel n code
          modify (·.act n .leave)
          drive fuel n
        | _ => return .unit

/-- Makes a move on a storage and waits for its answer. -/
def move (fuel : Nat) (n : Nat) (a : Action) : Play Reply := do
  match fuel with
  | 0 => return .unit
  | fuel + 1 =>
    modify (·.act n a)
    drive fuel n

/-- Plays client code that storage `n` calls. -/
def invoke (fuel : Nat) (n : Nat) (code : Invocation) : Play Unit := do
  match fuel with
  | 0 => return
  | fuel + 1 =>
    match (← get).storage? n with
    | none => return
    | some s =>
      match code with
      | .done callback result =>
        match (← get).codes[callback]? with
        | some (.done tag body) =>
          note (.done tag result (World.glance s))
          playAll fuel body
        | _ => return
      | .hook callback outcome =>
        match (← get).codes[callback]? with
        | some (.hook tag body) =>
          note (.hook tag outcome)
          playAll fuel body
        | _ => return
      | .listener callback notice => hear fuel callback notice
      | .handler h id =>
        match s.find? id, (← get).stations[n]? with
        | some r, some station =>
          note (.handler h id r.offset r.size r.data)
          match station.manner with
          | .scripted _ =>
            let reaction ← nextReaction n h
            playAll fuel reaction.body
            finishRequest fuel { station := n, id } reaction.finish
          | _ =>
            modify fun w => w.modifyStation n fun station =>
              { station with held := station.held ++ [id] }
        | _, _ => return

/-- Plays the code of a listener. -/
def hear (fuel : Nat) (callback : Callback) (notice : Notice) : Play Unit := do
  match fuel with
  | 0 => return
  | fuel + 1 =>
    match (← get).codes[callback]? with
    | some (.listener tag home body) =>
      let w ← get
      note (.event tag notice ((home.bind w.owned?).map World.glance))
      playAll fuel body
    | _ => return

/-- Finishes a request as a script says. -/
def finishRequest (fuel : Nat) (ref : RequestRef) (how : Completion) : Play Unit := do
  match fuel with
  | 0 => return
  | fuel + 1 =>
    let action := if how.drop then .abandon ref.id else .complete ref.id how.verdict
    let _ ← move fuel ref.station action

/-- Finishes every request that is held for storage `n`, oldest first, also those that come in
meanwhile; the answer is how many there were. -/
def finishAllHeld (fuel : Nat) (n : Nat) (how : Completion) (finished : Nat) : Play Nat := do
  match fuel with
  | 0 => return finished
  | fuel + 1 =>
    match ((← get).stations[n]?).map (·.held) with
    | some (id :: rest) =>
      modify fun w => w.modifyStation n fun station => { station with held := rest }
      finishRequest fuel { station := n, id } how
      finishAllHeld fuel n how (finished + 1)
    | _ => return finished

/-- Receives outputs of the workers of storage `n` until no job is under way; the answer is how
many there were. -/
def receiveAll (fuel : Nat) (n : Nat) (received : Nat) : Play Nat := do
  match fuel with
  | 0 => return received
  | fuel + 1 =>
    match ((← get).stations[n]?).bind (·.node.receive?) with
    | some node =>
      modify fun w => w.modifyStation n fun station => { station with node }
      let _ ← drive fuel n
      receiveAll fuel n (received + 1)
    | none => return received

/-- Lets an emitter that belongs to no storage go on with its innermost announcement; the answer
is how many listeners were called. -/
def relayAll (fuel : Nat) (e : Nat) : Play Nat := do
  match fuel with
  | 0 => return 0
  | fuel + 1 =>
    match (← get).emitters[e]? with
    | none => return 0
    | some relay =>
      match relay.next? with
      | some (l, notice, relay) =>
        modify fun w => { w with emitters := w.emitters.set! e relay }
        hear fuel l.callback notice
        relayAll fuel e
      | none =>
        let (called, relay) := relay.finish
        modify fun w => { w with emitters := w.emitters.set! e relay }
        return called

/-- Queues the request in a place.  A request of another storage is refused and then dropped; the
refusal is collected last, so the storage that refused is not let go of meanwhile. -/
def pushRequest (fuel : Nat) (c : Command) (place : Place) : Play Answer := do
  match fuel with
  | 0 => return .null
  | fuel + 1 =>
    match (← get).find? c.storage place with
    | none => return .missing
    | some ref =>
      modify (·.takeAway c.storage place)
      if ref.station = c.storage then answerOf (← move fuel c.storage (.push ref.id))
      else
        modify (·.act c.storage .pushForeign)
        let _ ← move fuel ref.station (.abandon ref.id)
        answerOf (← drive fuel c.storage)

/-- Carries out a command that is about an owned storage. -/
def performOwned (fuel : Nat) (c : Command) (s : Storage) : Play Answer := do
  match fuel with
  | 0 => return .null
  | fuel + 1 =>
    let n := c.storage
    match c.deed with
    | .call op tag next shared =>
      let done ← modifyGet (·.addCode (.done tag next))
      let observer ← match shared with
        | none => pure none
        | some (value, body) =>
          let hook ← modifyGet (·.addCode (.hook tag body))
          pure (some { code := hook, shared := value })
      answerOf (← move fuel n (.call op (some (.call done)) observer))
    | .promise op =>
      match ← move fuel n (.promise op) with
      | .promise number =>
        let w ← get
        set { w with futures := w.futures.push (some (n, number)) }
        return .number w.futures.size
      | reply => answerOf reply
    | .makeRequest kind offset size =>
      match ← move fuel n (.makeRequest kind offset size) with
      | .made (.ok id) => modifyGet (·.keepInSlot n id)
      | reply => answerOf reply
    | .shift =>
      match ← move fuel n .shift with
      | .shifted (some id) => modifyGet (·.keepInSlot n id)
      | reply => answerOf reply
    | .push place => pushRequest fuel c place
    | .listen event ttl tag body =>
      let callback ← listenerCode c tag body
      answerOf (← move fuel n (.listen event ttl callback))
    | .register event ttl tag body =>
      let callback ← listenerCode c tag body
      answerOf (← move fuel n (.register event ttl callback))
    | .registerNamed name event ttl tag body =>
      let callback ← namedCode c name tag body
      answerOf (← move fuel n (.register event ttl callback))
    | .off registration =>
      match (← get).registrations[registration]? with
      | none => return .missing
      | some id => answerOf (← move fuel n (.off id))
    | .offNamed name =>
      match (← get).namedCallbacks.lookup name with
      | none => return .missing
      | some callback => answerOf (← move fuel n (.offCallback callback))
    | .offEvent event => answerOf (← move fuel n (.offEvent event))
    | .clearListeners => answerOf (← move fuel n .clearListeners)
    | .announce notice => answerOf (← move fuel n (.announce notice))
    | .query => return .storage (World.viewStorage s)
    | .describeStorage => return .text s.describe
    | _ => return .null

/-- Carries out a command about an emitter that belongs to no storage. -/
def performRelay (fuel : Nat) (c : Command) (e : Nat) : Play Answer := do
  match fuel with
  | 0 => return .null
  | fuel + 1 =>
    match c.deed with
    | .register event ttl tag body =>
      let callback ← listenerCode c tag body
      registerOwn e event ttl callback
    | .registerNamed name event ttl tag body =>
      let callback ← namedCode c name tag body
      registerOwn e event ttl callback
    | .off registration =>
      match (← get).registrations[registration]? with
      | none => return .missing
      | some id => return .flag (0 < (← withdraw e (·.off id)))
    | .offNamed name =>
      match (← get).namedCallbacks.lookup name with
      | none => return .missing
      | some callback => return .number (← withdraw e (·.offCallback callback))
    | .offEvent event => return .number (← withdraw e (·.offEvent event))
    | .clearListeners =>
      let _ ← withdraw e (·.clear)
      return .null
    | .announce notice =>
      match (← get).emitters[e]? with
      | none => return .gone
      | some relay =>
        modify fun w => { w with emitters := w.emitters.set! e (relay.announce notice) }
        return .number (← relayAll fuel e)
    | _ => return .null

/-- Carries out a command. -/
def perform (fuel : Nat) (c : Command) : Play Answer := do
  match fuel with
  | 0 => return .null
  | fuel + 1 =>
    match c.deed with
    | .poll future =>
      match (← get).futures[future]?.join with
      | none => return .gone
      | some (n, number) =>
        let answer ← answerOf (← move fuel n (.poll number))
        unless answer = .pending do
          modify fun w => { w with futures := w.futures.setIfInBounds future none }
        return answer
    | .forget future =>
      match (← get).futures[future]?.join with
      | none => return .null
      | some (n, number) =>
        modify fun w => { w with futures := w.futures.setIfInBounds future none }
        answerOf (← move fuel n (.forget number))
    | .complete place how =>
      onRequest c place fun ref _ r => do
        modify (·.takeAway c.storage place)
        finishRequest fuel ref how
        return .kind r.kind
    | .completeAll how => return .number (← finishAllHeld fuel c.storage how 0)
    | .inspect place => onRequest c place fun _ s r => return .request (World.viewRequest s r)
    | .setData place data => editRequest c place fun _ => (.data data, .null)
    | .takeData place => editRequest c place fun r => (.data [], .bytes r.data)
    | .patch place position value =>
      editRequest c place fun r => (.byte position value, .flag (position < r.data.length))
    | .setStats place size note =>
      editRequest c place fun r =>
        (.stats { size, extended := note.map .note }, .flag r.stats.isSome)
    | .describeRequest place => onRequest c place fun _ _ r => return .text r.describe
    | .device =>
      let w ← get
      match w.stations[c.storage]? with
      | none => return .null
      | some station => return .device (w.viewDevice station)
    | .receiveAll => return .number (← receiveAll fuel c.storage 0)
    | .showFile name =>
      match (← get).disk.read? name with
      | some b => return .bytes b
      | none => return .null
    | .putFile name data =>
      modify fun w => { w with disk :=
        match data with
        | some b => w.disk.put name b
        | none => match w.disk.remove name with
          | .ok disk => disk
          | .error _ => w.disk }
      return .null
    | .disown =>
      match (← get).owned? c.storage with
      | none => return .flag false
      | some _ =>
        let _ ← move fuel c.storage .disown
        return .flag true
    | .count event =>
      match (← get).emitter? c with
      | some emitter => return .number (emitter.count event)
      | none => return .gone
    | .emitterInfo =>
      match (← get).emitter? c with
      | some emitter => return .emitter emitter.capacity emitter.size
      | none => return .gone
    | .describeEmitter =>
      match (← get).emitter? c with
      | some emitter => return .text emitter.describe
      | none => return .gone
    | deed =>
      match c.emitter, deed.isOnEmitter with
      | some e, true => performRelay fuel c e
      | _, _ =>
        match (← get).owned? c.storage with
        | none => return .gone
        | some s => performOwned fuel c s

end

/-- Carries out a command of the scenario itself. -/
def playCommand (fuel : Nat) (c : Command) : Play StepRecord := do
  modify fun w => { w with log := [] }
  let answer ← perform fuel c
  let w ← get
  return { answer, entries := w.log.reverse, state := w.snapshot c }

/-- Plays a scenario. -/
def Script.play (script : Script) : Transcript :=
  let world := World.ofScript script
  let (steps, after) := (script.commands.mapM (playCommand 1000000)).run world
  { setups := world.stations.toList.map (·.refusal)
    steps
    stopped := if after.hasOverflowed then some Word.overflowText else none }

end StorageEngine.Scenario
