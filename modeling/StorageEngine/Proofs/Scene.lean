import StorageEngine.Node
import StorageEngine.Proofs.Deferral

/-!
# Nodes with quiet clients

A storage with its device and the disk that it works on, and clients that make calls and call
nothing back: a scene.  It goes on by the steps of the node, and where the node has none to take,
the client code that has control is noted and gives it back.

If the device ends each request while its handler runs, a scene is nothing but a session whose
device responds as `Device.serve` says (`scene_goOn`), so what is known of sessions is known of
scenes (`Scene.call_eq`).
-/

namespace StorageEngine

namespace Device

/-- The devices that end each request while its handler runs. -/
def IsPrompt : Device → Prop
  | .plain | .memory _ | .mapped _ => True
  | .client | .pool _ => False

/-- How a device that works on a disk responds to a request. -/
def respond : Responder (Device × Disk) := fun world h r =>
  let service := world.1.serve world.2 h r
  (match service.verdict with
    | some verdict => .verdict verdict
    | none => .dropped, service.device, service.disk)

section IsPrompt

variable {d : Device}

theorem IsPrompt.holds_eq (prompt : d.IsPrompt) (id : RequestId) : d.holds id = false := by
  cases d with
  | pool => exact prompt.elim
  | _ => rfl

theorem IsPrompt.isClient_eq (prompt : d.IsPrompt) : d.isClient = false := by
  cases d with
  | client => exact prompt.elim
  | _ => rfl

theorem IsPrompt.serve (prompt : d.IsPrompt) (disk : Disk) (h : Handler) (r : Request) :
    ∃ verdict, (d.serve disk h r).verdict = some verdict ∧ (d.serve disk h r).device.IsPrompt := by
  cases d with
  | plain | memory | mapped => exact ⟨_, rfl, trivial⟩
  | client | pool => exact prompt.elim

end IsPrompt

end Device

/-- A storage with its device and a disk, and the client code that has been called. -/
@[ext]
structure Scene where
  node : Node
  disk : Disk
  called : List Invocation := []

namespace Scene

/-- The next step: of the node, or of client code that gives control back. -/
def tick (x : Scene) : Option Scene :=
  match x.node.step x.disk with
  | some (node, disk) => some { x with node, disk }
  | none =>
    match x.node.storage.stack with
    | .client code :: _ => some { x with node := x.node.act .leave, called := x.called ++ [code] }
    | .answer _ :: .client _ :: _ => some { x with node := x.node.act .collect }
    | _ => none

/-- Goes on for at most so many steps. -/
def goOn : Nat → Scene → Scene
  | 0, x => x
  | n + 1, x =>
    match x.tick with
    | none => x
    | some y => goOn n y

/-- Makes a call: its answer, with the client code that has been called by then, and the scene when
the answer has been taken. -/
def call (fuel : Nat) (x : Scene) (op : Operation) (client : Client) :
    Option Reply × List Invocation × Scene :=
  let y := { x with
    node := x.node.act (.call op (some (.call client.code)) client.observer)
    called := [] }.goOn fuel
  (y.node.storage.answer?, y.called, { y with node := y.node.act .collect })

end Scene

namespace Session

/-- Client code that was called. -/
def called (x : Session (Device × Disk)) : List Invocation :=
  x.seen.filterMap fun
    | .called code => some code
    | .given _ _ => none

/-- The session as a scene. -/
def scene (x : Session (Device × Disk)) : Scene where
  node := { storage := x.storage, device := x.device.1 }
  disk := x.device.2
  called := x.called

/-- The devices that end each request while its handler runs, and respond as they do. -/
abbrev prompt : Worker (Device × Disk) :=
  ⟨.prompt, Device.respond⟩

variable {x : Session (Device × Disk)}

theorem called_sees (x : Session (Device × Disk)) (code : Invocation) :
    (x.sees [.called code]).called = x.called ++ [code] := by
  simp [called, sees]

/-- A device stays of its kind. -/
theorem isPrompt_tick {y : Session (Device × Disk)} (serving : x.device.1.IsPrompt)
    (next : x.tick prompt = some y) : y.device.1.IsPrompt := by
  obtain same | ⟨h, r, same⟩ := device_tick next
  · rw [same]
    exact serving
  · obtain ⟨-, -, serving⟩ := serving.serve x.device.2 h r
    rw [same]
    exact serving

/-- A request that a handler was called with is served alike. -/
theorem scene_handle (serving : x.device.1.IsPrompt) (h : Handler) {id : RequestId} {r : Request}
    (found : x.storage.find? id = some r) :
    x.scene.node.handle x.scene.disk h id =
        ((x.serve prompt h r).scene.node, (x.serve prompt h r).scene.disk) ∧
      (x.serve prompt h r).scene.called = x.called := by
  obtain ⟨verdict, served, -⟩ := serving.serve x.device.2 h r
  obtain rfl : r.id = id := by simpa using List.find?_some found
  have responded : (Device.respond x.device h r).1 = .verdict verdict := by
    simp [Device.respond, served]
  have ended : x.serve prompt h r = (x.ask Device.respond h r).2.act (.complete r.id verdict) := by
    unfold serve
    simp only [ask, responded]
    rfl
  constructor
  · rw [ended]
    have found : x.scene.node.storage.find? r.id = some r := found
    have free : x.scene.node.device.holds r.id = false := serving.holds_eq r.id
    have served : (x.scene.node.device.serve x.scene.disk h r).verdict = some verdict := served
    unfold Node.handle
    simp only [found, free, served, Bool.false_eq_true, if_false]
    rfl
  · rw [ended]
    simp [scene, called, act, ask, sees, onto]

/-- A step of the session is a step of the scene. -/
theorem scene_tick (serving : x.device.1.IsPrompt) : x.scene.tick = (x.tick prompt).map scene := by
  have known : x.scene.node.device.isClient = false := serving.isClient_eq
  have same : x.scene.node.storage = x.storage := rfl
  unfold Scene.tick Session.tick Node.step
  rw [same, known]
  cases x.storage.step with
  | some s => rfl
  | none =>
    cases top : x.storage.stack with
    | nil => rfl
    | cons task rest =>
      cases task with
      | client code =>
        cases code with
        | handler h id =>
          cases found : x.storage.find? id with
          | none =>
            have absent : x.scene.node.storage.find? id = none := found
            simp only [Node.handle, absent, found, Bool.false_eq_true, if_false]
            rfl
          | some r =>
            obtain ⟨handled, silent⟩ := scene_handle serving h found
            simp only [handled, found, Bool.false_eq_true, if_false, Option.map_some]
            exact congrArg some (Scene.ext rfl rfl silent.symm)
        | done | hook | listener =>
          refine congrArg some (Scene.ext rfl rfl ?_)
          exact (called_sees x _).symm
      | answer reply =>
        cases rest with
        | nil => cases reply <;> rfl
        | cons task rest =>
          cases task with
          | client code =>
            cases reply <;> cases code <;> rfl
          | _ => cases reply <;> rfl
      | _ => rfl

theorem scene_goOn (serving : x.device.1.IsPrompt) (fuel : Nat) :
    x.scene.goOn fuel = (x.goOn prompt fuel).scene := by
  induction fuel generalizing x with
  | zero => rfl
  | succ n ih =>
    unfold Scene.goOn goOn
    rw [scene_tick serving]
    cases next : x.tick prompt with
    | none => rfl
    | some y => exact ih (isPrompt_tick serving next)

end Session

/-- What a call comes to, with enough fuel. -/
theorem Scene.call_eq {x : Session (Device × Disk)} (serving : x.device.1.IsPrompt)
    (unparked : x.parked = []) (calm : x.storage.Calm []) (op : Operation) (client : Client) :
    ∃ n, ∀ fuel ≥ n,
      let ended := { x with seen := [] }.answered Device.respond op client
      x.scene.call fuel op client = (some (.done ended.1), ended.2.called, ended.2.scene) := by
  let fresh : Session (Device × Disk) := { x with seen := [] }
  obtain ⟨y, goes, halts, answer, finishes⟩ :=
    Session.comesTo_answered (w := Session.prompt) (x := fresh) unparked calm op client
  have finished : y.act .collect = (fresh.answered Device.respond op client).2 :=
    finishes.eq ((Session.parked_of_reaches rfl goes).trans unparked)
  obtain ⟨n, goes⟩ := Session.goOn_of_reaches goes halts
  refine ⟨n, fun fuel enough => ?_⟩
  have gone := Session.scene_goOn (x := fresh.act (.call op (some (.call client.code))
    client.observer)) serving fuel
  rw [goes fuel enough] at gone
  dsimp only
  rw [← finished]
  have gone : ({ x.scene with
      node := x.scene.node.act (.call op (some (.call client.code)) client.observer)
      called := [] } : Scene).goOn fuel = y.scene := gone
  unfold Scene.call
  dsimp only
  rw [gone]
  exact Prod.ext answer rfl

end StorageEngine
