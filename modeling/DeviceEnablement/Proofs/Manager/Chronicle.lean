/-
  Chronicles of managers.

  A manager does not know everything that can be said about its past.  A `Chronicle` writes down,
  for each event that the manager takes, what its surroundings know: which devices came, which
  requests were sent and by which device, whose operations have begun, and what the callers were
  told.  It has no influence on anything.

  1. The devices that come to an endpoint are numbered (`Chronicle.latest`), since an endpoint may
     have one after the other.
  2. `ManagerHistory`: a manager and its chronicle.  Each event may meet another codec.
  3. `Reachable`: the histories of a manager that began without devices.
  4. `Reachable.invariant`: what each event keeps holds of every history.
-/
import DeviceEnablement.Proofs.Manager.Course

namespace DeviceEnablement

/-- A request that was sent, and for whom. -/
structure Letter where
  request : SentRequest
  /-- The number of the device that has sent it. -/
  device : Nat
  /-- The session for which it was sent. -/
  session : Option SessionId
  deriving DecidableEq

/-- An operation that has begun for a caller. -/
structure Job where
  call : CallId
  eid : UInt8
  /-- The number of the device that performs it. -/
  device : Nat
  session : SessionId
  deriving DecidableEq

/-- Whether a request was sent for an operation. -/
def Letter.isFor (letter : Letter) (job : Job) : Bool :=
  decide (letter.request.eid = job.eid ∧ letter.device = job.device ∧
    letter.session = some job.session)

/-- Whether a notice is the answer to a call. -/
def Notice.answers (call : CallId) : Notice → Bool
  | .answered other _ => decide (other = call)
  | _ => false

/-- The calls whose operations have begun according to notices, with their sessions. -/
def startedIn (told : List Notice) : List (CallId × SessionId) :=
  told.filterMap fun notice =>
    match notice with
    | .started call session => some (call, session)
    | _ => none

/-- What the surroundings of a manager know, the latest in front. -/
structure Chronicle where
  /-- The endpoints at which devices came that were new there. -/
  arrivals : List UInt8 := []
  letters : List Letter := []
  jobs : List Job := []
  /-- The instance ids of the requests that were outstanding when their device was replaced, by its
      endpoint. -/
  stranded : UInt8 → List UInt8 := fun _ => []
  /-- What the callers were told, the latest last. -/
  told : List Notice := []
  /-- The calls that the manager has taken. -/
  performed : List CallId := []
  /-- The calls that waited until their operation expired. -/
  expired : List CallId := []

namespace Manager

/-- A manager that has just begun. -/
def opened (disk : Table Uuid Folder) (transport : Transport) (files : LocalFiles) : Manager :=
  { disk, host := { transport, files } }

/-- The ids of the requests that the device at an endpoint waits for. -/
def outstanding (m : Manager) (eid : UInt8) : List UInt8 :=
  ((m.devices.get? eid).map fun d => d.pending.keys).getD []

/-- The session for which the device at an endpoint waits for a response. -/
def sessionOf? (m : Manager) (eid instanceId : UInt8) : Option SessionId :=
  (m.devices.get? eid).bind fun d => (d.pending.get? instanceId).map (·.session)

/-- The requests that were sent from `m` to `m'`. -/
def sentSince (m m' : Manager) : List SentRequest :=
  m'.host.transport.sent.take
    (m'.host.transport.sent.length - m.host.transport.sent.length)

/-- The call that the manager takes with an event. -/
def performedBy (m : Manager) : ManagerEvent → List CallId
  | .perform _ _ call => if m.stopped then [] else [call]
  | _ => []

/-- The call that waits no more because of an event that lets its operation expire. -/
def expiredBy (m : Manager) : ManagerEvent → List CallId
  | .expire eid session => if m.stopped then [] else (m.waiters.get? (eid, session)).toList
  | _ => []

/-- The instance ids that are stranded at an endpoint after an event.  Who replaces a device knows
    nothing of its requests; a device that leaves takes all ids of its endpoint with it. -/
def strandedBy (m : Manager) (stranded : UInt8 → List UInt8) (event : ManagerEvent) (eid : UInt8) :
    List UInt8 :=
  match event with
  | .shutdown => []
  | .remove other => if eid = other then [] else stranded eid
  | _ => if m.newcomer? event = some eid then m.outstanding eid ++ stranded eid else stranded eid

end Manager

namespace Chronicle

/-- The number of the latest device at an endpoint. -/
def latest (c : Chronicle) (eid : UInt8) : Nat := c.arrivals.count eid

/-- The operations that have begun with an event, as the callers were told. -/
def begunBy (c : Chronicle) (event : ManagerEvent) (told : List Notice) : List Job :=
  match event.endpoint? with
  | some eid => (startedIn told).map fun entry =>
      { call := entry.1, eid, device := c.latest eid, session := entry.2 }
  | none => []

/-- The chronicle after an event that leads from `m` to `m'`. -/
def record (c : Chronicle) (m : Manager) (event : ManagerEvent) (told : List Notice)
    (m' : Manager) : Chronicle :=
  let arrived := { c with arrivals := (m.newcomer? event).toList ++ c.arrivals }
  { arrived with
    letters := (m.sentSince m').map (fun request =>
      { request, device := arrived.latest request.eid,
        session := m'.sessionOf? request.eid request.instanceId }) ++ c.letters
    jobs := c.begunBy event told ++ c.jobs
    stranded := m.strandedBy c.stranded event
    told := c.told ++ told
    performed := m.performedBy event ++ c.performed
    expired := m.expiredBy event ++ c.expired }

/-- The letters that were written down between two chronicles. -/
def lettersSince (c c' : Chronicle) : List Letter :=
  c'.letters.take (c'.letters.length - c.letters.length)

/-- How often a call was answered. -/
def answers (c : Chronicle) (call : CallId) : Nat := c.told.countP (·.answers call)

/-- The requests that were sent on behalf of a call. -/
def requestsFor (c : Chronicle) (call : CallId) : List Letter :=
  c.letters.filter fun letter =>
    c.jobs.any fun job => decide (job.call = call) && letter.isFor job

end Chronicle

/-- A manager, and what its surroundings know. -/
structure ManagerHistory where
  manager : Manager
  chronicle : Chronicle := {}

namespace ManagerHistory

/-- The manager takes an event. -/
def take (h : ManagerHistory) (setup : Setup) (event : ManagerEvent) : ManagerHistory :=
  match h.manager.step setup event with
  | (told, m') => { manager := m', chronicle := h.chronicle.record h.manager event told m' }

/-- One step of a history. -/
inductive Step (config : Config) : ManagerHistory → ManagerHistory → Prop
  | take (h : ManagerHistory) (codec : Codec) (event : ManagerEvent) :
      Step config h (h.take { config, codec } event)

/-- Any number of steps. -/
abbrev Steps (config : Config) : ManagerHistory → ManagerHistory → Prop :=
  Relation.ReflTransGen (Step config)

/-- Whether a history is one of a manager that began without devices, at any state of the disk and
    of the transport. -/
def Reachable (config : Config) (h : ManagerHistory) : Prop :=
  ∃ disk transport files, Steps config { manager := .opened disk transport files } h

/-- Takes one event after the other. -/
def takeAll (h : ManagerHistory) (setup : Setup) (events : List ManagerEvent) : ManagerHistory :=
  events.foldl (fun h event => h.take setup event) h

theorem steps_takeAll (h : ManagerHistory) (setup : Setup) (events : List ManagerEvent) :
    Steps setup.config h (h.takeAll setup events) := by
  induction events generalizing h with
  | nil => exact .refl
  | cons event rest ih => exact .head (.take h setup.codec event) (ih _)

/-! ## What is written down -/

variable {config : Config} {h h' : ManagerHistory} {setup : Setup} {event : ManagerEvent}

theorem manager_take : (h.take setup event).manager = (h.manager.step setup event).2 := rfl

theorem chronicle_take : (h.take setup event).chronicle =
    h.chronicle.record h.manager event (h.manager.step setup event).1
      (h.manager.step setup event).2 := rfl

theorem latest_take (eid : UInt8) : (h.take setup event).chronicle.latest eid =
    h.chronicle.latest eid + if h.manager.newcomer? event = some eid then 1 else 0 := by
  show ((h.manager.newcomer? event).toList ++ h.chronicle.arrivals).count eid = _
  rw [List.count_append, Nat.add_comm]
  cases h.manager.newcomer? event with
  | none => rfl
  | some other =>
    rw [Option.toList_some, List.count_singleton]
    simp only [Option.some.injEq, beq_iff_eq]
    rfl

/-- Nobody comes to a manager that has stopped. -/
theorem newcomer?_of_stopped {m : Manager} (hstopped : m.stopped = true) (event : ManagerEvent) :
    m.newcomer? event = none := by
  cases event with
  | discovered eid uuid tid payloads => simp [Manager.newcomer?, hstopped]
  | _ => rfl

/-- The requests that were sent are the ones by which there are more than before. -/
theorem sentSince_eq {m m' : Manager} {new : List SentRequest}
    (hsent : m'.host.transport.sent = new ++ m.host.transport.sent) : m.sentSince m' = new := by
  unfold Manager.sentSince
  rw [hsent, List.length_append, Nat.add_sub_cancel]
  exact List.take_left

theorem letters_take : (h.take setup event).chronicle.letters =
    h.chronicle.lettersSince (h.take setup event).chronicle ++ h.chronicle.letters := by
  unfold Chronicle.lettersSince
  rw [chronicle_take]
  unfold Chronicle.record
  dsimp only
  rw [List.length_append, Nat.add_sub_cancel, List.take_left]

/-- The letters that an event adds are those of the requests that were sent. -/
theorem lettersSince_take : h.chronicle.lettersSince (h.take setup event).chronicle =
    (h.manager.sentSince (h.take setup event).manager).map fun request =>
      { request, device := (h.take setup event).chronicle.latest request.eid,
        session := (h.take setup event).manager.sessionOf? request.eid request.instanceId } :=
  List.append_cancel_right letters_take.symm

/-! ## Invariants -/

/-- What holds of a manager that has just begun, and is kept by every event, holds of every
    reachable history. -/
theorem Reachable.invariant {P : ManagerHistory → Prop} (hreachable : Reachable config h)
    (hopened : ∀ disk transport files, P { manager := .opened disk transport files })
    (htake : ∀ h setup event, P h → P (h.take setup event)) : P h := by
  obtain ⟨disk, transport, files, hsteps⟩ := hreachable
  induction hsteps with
  | refl => exact hopened disk transport files
  | tail _ hstep ih =>
    cases hstep with
    | take codec event => exact htake _ _ _ ih

theorem Reachable.step (hreachable : Reachable config h) (codec : Codec) (event : ManagerEvent) :
    Reachable config (h.take { config, codec } event) := by
  obtain ⟨disk, transport, files, hsteps⟩ := hreachable
  exact ⟨disk, transport, files, hsteps.tail (.take h codec event)⟩

theorem seated_opened (disk : Table Uuid Folder) (transport : Transport) (files : LocalFiles) :
    (Manager.opened disk transport files).Seated where
  endpoints _ _ hd := nomatch hd
  orderly _ _ hd := nomatch hd
  deserted _ _ := rfl

/-- Either the manager has stopped, and the event passes it by, or the event takes its course. -/
theorem take_cases (hseated : h.manager.Seated) (setup : Setup) (event : ManagerEvent) :
    (h.manager.stopped = true ∧ h.manager.step setup event = (Manager.drop event, h.manager)) ∨
    (h.manager.stopped = false ∧
      ∃ new, h.manager.Course event new (h.take setup event).manager) := by
  cases hstopped : h.manager.stopped with
  | true => exact Or.inl ⟨rfl, Manager.step_of_stopped hstopped setup event⟩
  | false => exact Or.inr ⟨rfl, Manager.course_step hseated setup hstopped event⟩

theorem seated_take (hseated : h.manager.Seated) (setup : Setup) (event : ManagerEvent) :
    (h.take setup event).manager.Seated := by
  rcases take_cases hseated setup event with ⟨_, hstep⟩ | ⟨hrunning, new, hcourse⟩
  · rw [manager_take, hstep]
    exact hseated
  · exact hcourse.seated hseated hrunning

/-! ## A sample -/

/-- A device is found at endpoint 8 and negotiates.  Three operations are called for, one of which
    expires before its turn. -/
def sampleEvents : List ManagerEvent :=
  [.discovered 8 ⟨0⟩ 1 [DeviceHistory.sampleRecord],
    .response 8 0 (some [0, 6, 1, 0, 1, 0, 19, 0, 239, 190, 173, 222, 2, 7, 118, 101, 110, 100, 111,
      114, 0]),
    .response 8 1 (some [1, 6, 2, 0, 0, 4, 0, 0]),
    .perform 8 DeviceHistory.sampleRequest ⟨0⟩, .perform 8 DeviceHistory.sampleRequest ⟨1⟩,
    .perform 8 DeviceHistory.sampleRequest ⟨2⟩, .expire 8 ⟨3⟩]

/-- The history in which this happens. -/
def sampleHistory : ManagerHistory :=
  takeAll { manager := .opened {} {} {} } DeviceHistory.sampleSetup sampleEvents

/-- The history in which the manager is stopped after that. -/
def stoppedHistory : ManagerHistory := sampleHistory.take DeviceHistory.sampleSetup .shutdown

theorem reachable_takeAll (setup : Setup) (events : List ManagerEvent) :
    Reachable setup.config (takeAll { manager := .opened {} {} {} } setup events) :=
  ⟨{}, {}, {}, steps_takeAll _ setup events⟩

theorem reachable_sample : Reachable DeviceHistory.sampleSetup.config sampleHistory :=
  reachable_takeAll DeviceHistory.sampleSetup sampleEvents

theorem reachable_stopped : Reachable DeviceHistory.sampleSetup.config stoppedHistory :=
  reachable_sample.step DeviceHistory.sampleSetup.codec .shutdown

end ManagerHistory

end DeviceEnablement
