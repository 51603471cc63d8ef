import StorageEngine.Proofs.Scene

/-!
# What performing a request comes to

On a calm storage a request that is not marked goes where it should, with what it needs
(`Storage.launch_of_clear`), and ends there: in place (`Session.ends_of_finished`), or as the device
ends it (`Session.ends_of_handler`).  An end changes a session in few ways that matter
(`Session.Ends`): the device, the point of life and what an opening leaves behind, and one caller is
told a result.
-/

namespace StorageEngine

/-- A result without the details of a stat that depend on the device. -/
def Payload.plain : Payload → Payload
  | .stats st => .stats { size := st.size }
  | p => p

/-- What a caller is told. -/
def Invocation.told? : Invocation → Option (Callback × Except Error Payload)
  | .done code result => some (code, result.map Payload.plain)
  | _ => none

namespace Request

/-- The request with what it needs inside the device. -/
def prepared (r : Request) : Request :=
  match r.kind with
  | .read => { r with buffer := some r.size, data := Bytes.zeros r.size }
  | .stat => { r with buffer := some statsSize, stats := some {}, size := statsSize }
  | _ => r

/-- What the caller of a barrier is told of its success. -/
def acknowledgement (r : Request) : List (Callback × Except Error Payload) :=
  match r.receiver with
  | some (.call code) => [(code, .ok .unit)]
  | _ => []

section Prepared

variable (r : Request)

@[simp] theorem kind_prepared : r.started.prepared.kind = r.kind := by
  unfold prepared started
  split <;> rfl

@[simp] theorem error_prepared : r.started.prepared.error = r.error := by
  unfold prepared started
  split <;> rfl

@[simp] theorem receiver_prepared : r.started.prepared.receiver = r.receiver := by
  unfold prepared started
  split <;> rfl

end Prepared

variable {r : Request}

/-- The caller who hears of the end of a request is told its result. -/
theorem told_notification {code : Callback} (receiver : r.receiver = some (.call code)) :
    r.notification.filterMap Invocation.told? = [(code, r.result.map Payload.plain)] := by
  simp [notification, receiver, Invocation.told?]

theorem told_of_barrier {e : Request} (barrier : e.kind.isBarrier) (success : e.error = none)
    (receiver : e.receiver = r.receiver) :
    e.notification.filterMap Invocation.told? = r.acknowledgement := by
  have result : e.result = .ok .unit := by
    cases kind : e.kind <;> simp_all [Request.result, Kind.isBarrier]
  unfold notification acknowledgement
  rw [receiver]
  split <;> simp_all [Invocation.told?, Except.map, Payload.plain]

end Request

namespace Storage

variable {s : Storage} {r : Request}

theorem prepare_of_lenient (lenient : s.allocator.policy.IsLenient) (r : Request) :
    ∃ a, s.prepare r = (some r.prepared, { s with allocator := a }) := by
  unfold prepare Request.prepared
  cases kind : r.kind with
  | read | stat =>
    simp only [leaseBuffer_of_lenient lenient, kind]
    exact ⟨_, rfl⟩
  | _ => exact ⟨s.allocator, rfl⟩

/-- Launching a request that is not marked, where nothing is refused. -/
theorem launch_of_clear (lenient : s.allocator.policy.IsLenient) (clear : r.error = none)
    (attached : s.attached = true) : ∃ a, s.launch r =
      ⟨r.started.prepared, (s.destination r.kind).1, { s.count r with
        allocator := a
        last := some r.started.prepared.info
        needsOpen := (s.destination r.kind).2 }⟩ := by
  obtain ⟨a, prepared⟩ := prepare_of_lenient (s := s.count r) lenient r.started
  have same : ({ s.count r with allocator := a, last := some r.started.prepared.info } :
      Storage).destination r.kind = s.destination r.kind := by
    apply destination_congr <;> rfl
  refine ⟨a, ?_⟩
  unfold launch
  rw [clear, prepared]
  dsimp only
  rw [Request.kind_prepared, route_eq, same]
  cases routed : (s.destination r.kind).1 with
  | finished result => rfl
  | handler h => exact if_pos attached

/-- Where a barrier goes, if the device has everything that a storage over memory needs: nowhere,
and it succeeds, or to a handler of its own. -/
theorem destination_of_barrier (readWrite : s.capabilities = .readWrite)
    (settled : s.ready = .opened → s.needsOpen = false) {kind : Kind} (barrier : kind.isBarrier) :
    let asks := s.needsOpen && decide (kind ≠ .opening)
    s.destination kind = (.finished (.ok 0), asks) ∨
      ∃ h ∈ [Handler.openReadWrite, .close, .destroy],
        s.destination kind = (.handler h, asks) ∧ (h = .destroy → kind = .destroying) := by
  have offered : s.capabilities.openReadWrite ∧ s.capabilities.close ∧ s.capabilities.destroy ∧
      s.prefersReadOnly = false := by
    simp [prefersReadOnly, readWrite, Capabilities.readWrite]
  obtain ⟨opens, closes, destroys, writes⟩ := offered
  cases kind with
  | opening =>
    by_cases opened : s.ready = .opened
    · simp [destination, route, opened, settled opened]
    · have writes (b : Bool) : ({ s with needsOpen := b } : Storage).prefersReadOnly = false :=
        writes
      simp [destination, route, opened, opens, writes]
  | closing => by_cases opened : s.ready = .opened <;> simp [destination, route, opened, closes]
  | destroying =>
    by_cases dead : s.ready = .destroyed <;> simp [destination, route, dead, destroys]
  | _ => simp [Kind.isBarrier] at barrier

/-- Which fields the end of a request looks at. -/
theorem transition_congr (s s' : Storage) (ready : s'.ready = s.ready)
    (needsOpen : s'.needsOpen = s.needsOpen) (openError : s'.openError = s.openError)
    (r : Request) :
    (s'.transition r).ready = (s.transition r).ready ∧
      (s'.transition r).needsOpen = (s.transition r).needsOpen ∧
      (s'.transition r).openError = (s.transition r).openError := by
  unfold transition
  cases r.error <;> cases r.kind <;> simp only [ready, needsOpen, openError] <;>
    (try split) <;> simp_all

/-- Of all who hear of the end of a request, one is told its result. -/
theorem told_audience (s : Storage) (r : Request) :
    (s.audience r).filterMap Invocation.told? = r.notification.filterMap Invocation.told? := by
  have hearers : (s.hearers r).filterMap Invocation.told? = [] := by
    unfold hearers
    split
    · simp [List.filterMap_map, Function.comp_def, Invocation.told?]
    · rfl
  have observation : r.observation.filterMap Invocation.told? = [] := by
    unfold Request.observation
    split <;> rfl
  simp [audience, hearers, observation]

end Storage

namespace Session

variable {x y : Session (Device × Disk)} {r : Request} {asks : Bool}

/-- What callers have been told. -/
def told (x : Session (Device × Disk)) : List (Callback × Except Error Payload) :=
  x.called.filterMap Invocation.told?

/-- What has become of a session when a request has ended.  `world` is the device and the disk then,
and `asks` says whether the request has left an opening asked for when it was launched. -/
structure Ends (x y : Session (Device × Disk)) (world : Device × Disk) (asks : Bool)
    (r : Request) : Prop where
  device : y.device = world
  parked : y.parked = x.parked
  capabilities : y.storage.capabilities = x.storage.capabilities
  ready : y.storage.ready = ({ x.storage with needsOpen := asks }.transition r).ready
  needsOpen : y.storage.needsOpen = ({ x.storage with needsOpen := asks }.transition r).needsOpen
  openError : y.storage.openError = ({ x.storage with needsOpen := asks }.transition r).openError
  attached : y.storage.attached = (x.storage.attached && !decide r.Razes)
  told : y.told = x.told ++ r.notification.filterMap Invocation.told?

theorem told_wrapUp (x : Session (Device × Disk)) (r : Request) (result : Except Error Nat) :
    (x.wrapUp r result).told =
      x.told ++ (r.recorded result).notification.filterMap Invocation.told? := by
  have called : (x.wrapUp r result).called =
      x.called ++ x.storage.audience (r.recorded result) := by
    simp [Session.called, wrapUp, sees, onto, List.filterMap_map]
  rw [told, called, List.filterMap_append, Storage.told_audience]
  rfl

/-- A request that is launched and wrapped up has ended. -/
theorem ends_wrapUp {s : Storage} (launched : ∃ a last, s = { x.storage.count r with
      allocator := a, last := last, needsOpen := asks }) (same : y.parked = x.parked)
    (silent : y.told = x.told) (r' : Request) (result : Except Error Nat) :
    Ends x ((y.onto s).wrapUp r' result) y.device asks (r'.recorded result) := by
  obtain ⟨a, last, rfl⟩ := launched
  have moved := Storage.transition_congr { x.storage with needsOpen := asks }
    { x.storage.count r with allocator := a, last := last, needsOpen := asks } rfl rfl rfl
    (r'.recorded result)
  constructor
  · rfl
  · exact same
  · rw [storage_wrapUp, Storage.wrapUp_eq]
    rfl
  · rw [storage_wrapUp, Storage.wrapUp_eq]
    exact moved.1
  · rw [storage_wrapUp, Storage.wrapUp_eq]
    exact moved.2.1
  · rw [storage_wrapUp, Storage.wrapUp_eq]
    exact moved.2.2
  · rw [storage_wrapUp, Storage.wrapUp_eq]
    rfl
  · rw [told_wrapUp]
    exact congrArg (· ++ _) silent

/-- A request that comes to its result in place. -/
theorem ends_of_finished (lenient : x.storage.allocator.policy.IsLenient) (clear : r.error = none)
    (attached : x.storage.attached = true) {result : Except Error Nat}
    (routed : x.storage.destination r.kind = (.finished result, asks)) :
    Ends x (x.perform Device.respond r) x.device asks (r.started.prepared.recorded result) := by
  obtain ⟨a, launched⟩ := Storage.launch_of_clear lenient clear attached
  unfold perform
  rw [launched, routed]
  exact ends_wrapUp ⟨a, _, rfl⟩ rfl rfl _ _

/-- A request that the device ends. -/
theorem ends_of_handler (lenient : x.storage.allocator.policy.IsLenient) (clear : r.error = none)
    (attached : x.storage.attached = true) {h : Handler}
    (routed : x.storage.destination r.kind = (.handler h, asks)) :
    let served := Device.respond x.device h r.started.prepared
    let ended := served.1.apply r.started.prepared
    Ends x (x.perform Device.respond r) served.2 asks (ended.1.recorded ended.2) := by
  obtain ⟨a, launched⟩ := Storage.launch_of_clear lenient clear attached
  unfold perform
  rw [launched, routed]
  have silent : (x.ask Device.respond h r.started.prepared).2.told = x.told := by
    simp [told, Session.called, ask, sees]
  exact ends_wrapUp (x := x) (y := (x.ask Device.respond h r.started.prepared).2) ⟨a, _, rfl⟩ rfl
    silent _ _

end Session

end StorageEngine
