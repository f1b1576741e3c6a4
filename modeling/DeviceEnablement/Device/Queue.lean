/-
  How sessions end, and what comes after them.

  1. When a negotiation ends well the device is ready; the dictionaries it lacks are queued, if they
     are to be fetched, and fetched one after the other.
  2. The device is busy from the first download on until the queue is empty.
  3. `pump` sends what waits as long as there is capacity.  A request that cannot be sent fails its
     session, and when that is a download the next one is started at once.

  Each round of `pump` takes one request from the queue, and whatever is queued in its place costs a
  dictionary, which counts twice: so the backlog shrinks and `pump` ends.
-/
import DeviceEnablement.Device.Dispatch

namespace DeviceEnablement.DeviceRun

/-! ## Dictionaries -/

/-- The keys of the dictionaries that the device lacks, in ascending order. -/
def missingDictionaries (d : Device) : List DictionaryKey :=
  ((d.registry.resources.filter fun resource => resource.schemaClass = SchemaClass.major).map
    fun resource => (⟨resource.resourceId, resource.schemaClass⟩ : DictionaryKey)).filter
    fun key => !d.memory.store.containsComplete key

/-- Queues the dictionaries that the device lacks. -/
def queueDictionaries (r : DeviceRun) : DeviceRun :=
  { r with device.dictionaryQueue :=
      r.device.dictionaryQueue ++ (missingDictionaries r.device).mergeSort DictionaryKey.le }

/-- Starts the first download of `keys` that can be started; those in front of it are passed over.
    When there is none the device is ready. -/
def startDownloads (r : DeviceRun) (setup : Setup) : List DictionaryKey → DeviceRun
  | [] => { r with device := { r.device with dictionaryQueue := [], state := .ready } }
  | key :: rest =>
    let r := { r with device.dictionaryQueue := rest }
    if r.device.memory.store.containsComplete key then r.startDownloads setup rest
    else
      match r.startSession setup (.download key) with
      | (.ok _, r) => { r with device.state := .busy }
      | (.error _, r) => r.startDownloads setup rest

/-- Goes on with the queued dictionaries, unless the device has left service. -/
def nextDictionary (r : DeviceRun) (setup : Setup) : DeviceRun :=
  match r.device.state with
  | .ready | .busy => r.startDownloads setup r.device.dictionaryQueue
  | _ => r

/-! ## Ends -/

/-- The state of a device whose negotiation has failed. -/
def stateAfterNegotiation : Failure → DeviceState
  | .noResponse _ => .unreachable
  | _ => .notReady

/-- Ends a session that has failed, and that the device no longer has. -/
def fail (r : DeviceRun) (setup : Setup) (id : SessionId) (task : SessionTask) (e : Failure) :
    DeviceRun :=
  match task with
  | .negotiation _ => { r with device.state := stateAfterNegotiation e }
  | .download _ => r.nextDictionary setup
  | .operation _ => r.report id (.error e)

/-- What follows a negotiation that has ended well. -/
def finishNegotiation (r : DeviceRun) (setup : Setup) : DeviceRun :=
  let operations := r.device.supportedOperations
  let registry := r.device.registry.setOperations operations
  let r := { r with device := { r.device with registry, state := .ready } }
  let r := if setup.config.negotiation.fetchDictionaries then r.queueDictionaries else r
  r.nextDictionary setup

/-- Ends a session that has yielded its output, and that the device no longer has. -/
def finish (r : DeviceRun) (setup : Setup) (id : SessionId) : SessionOutput → DeviceRun
  | .negotiated => r.finishNegotiation setup
  | .dictionary _ => r.nextDictionary setup
  | .operation result => r.report id (.ok result)

/-- Applies the result of a step of a session. -/
def advance (r : DeviceRun) (setup : Setup) (id : SessionId) (session : Session)
    (result : Except Failure Step) : DeviceRun :=
  match result with
  | .ok (.send out) =>
    match (r.keepSession id session).dispatch id out with
    | (.ok (), r) => r
    | (.error e, r) => (r.dropSession id).fail setup id session.task e
  | .ok (.done output) => (r.dropSession id).finish setup id output
  | .ok .discarded => r.dropSession id
  | .error e => (r.dropSession id).fail setup id session.task e

/-! ## The backlog -/

theorem backlog_eq {r r' : DeviceRun}
    (h : r'.device.waiting = r.device.waiting
      ∧ r'.device.dictionaryQueue = r.device.dictionaryQueue) :
    r'.device.backlog = r.device.backlog := by
  simp only [Device.backlog, h.1, h.2]

theorem backlog_startDownloads_le (setup : Setup) (keys : List DictionaryKey) (r : DeviceRun) :
    (r.startDownloads setup keys).device.backlog
      ≤ 2 * keys.length + r.device.waiting.length := by
  induction keys generalizing r with
  | nil => simp [startDownloads, Device.backlog]
  | cons key rest ih =>
    unfold startDownloads
    dsimp only
    split
    · have := ih { r with device.dictionaryQueue := rest }
      simp only [List.length_cons] at this ⊢
      omega
    · have hb := backlog_startSession_le { r with device.dictionaryQueue := rest } setup
        (.download key)
      split
      · rename_i heq
        rw [heq] at hb
        simp only [Device.backlog, List.length_cons] at hb ⊢
        omega
      · rename_i e r' heq
        have hq := queues_startSession { r with device.dictionaryQueue := rest } setup
          (.download key)
        rw [heq] at hq
        have hw := hq.2.2 e rfl
        have := ih r'
        dsimp only at hw
        rw [hw] at this
        simp only [List.length_cons]
        omega

theorem backlog_nextDictionary_le (r : DeviceRun) (setup : Setup) :
    (r.nextDictionary setup).device.backlog ≤ r.device.backlog := by
  unfold nextDictionary
  split
  · exact backlog_startDownloads_le setup _ r
  · exact backlog_startDownloads_le setup _ r
  · exact Nat.le_refl _

/-- A session that fails leaves no larger backlog. -/
theorem backlog_fail_le (r : DeviceRun) (setup : Setup) (id : SessionId) (task : SessionTask)
    (e : Failure) : (r.fail setup id task e).device.backlog ≤ r.device.backlog := by
  unfold fail
  split
  · exact Nat.le_refl _
  · exact backlog_nextDictionary_le r setup
  · exact Nat.le_refl _

/-! ## The pump -/

/-- Sends a request that has waited; when that fails, so does its session. -/
def sendWaiting (r : DeviceRun) (setup : Setup) (id : SessionId) (out : Outgoing) : DeviceRun :=
  match r.device.sessions.get? id with
  | none => r
  | some session =>
    if session.state.isTerminal then r
    else
      match r.sendNow id out with
      | (.ok (), r) => r
      | (.error e, r) => (r.dropSession id).fail setup id session.task e

theorem backlog_sendWaiting_le (r : DeviceRun) (setup : Setup) (id : SessionId) (out : Outgoing) :
    (r.sendWaiting setup id out).device.backlog ≤ r.device.backlog := by
  unfold sendWaiting
  split
  · exact Nat.le_refl _
  · split
    · exact Nat.le_refl _
    · have hq := queues_sendNow r id out
      split
      · rename_i heq
        rw [heq] at hq
        exact Nat.le_of_eq (backlog_eq hq)
      · rename_i e r' heq
        rw [heq] at hq
        exact Nat.le_trans (backlog_fail_le _ setup id _ e) (Nat.le_of_eq (backlog_eq hq))

/-- Sends what waits as long as there is capacity. -/
def pump (r : DeviceRun) (setup : Setup) : DeviceRun :=
  if r.device.hasCapacity then
    match _h : r.device.waiting with
    | [] => r
    | (id, out) :: rest =>
      pump ({ r with device.waiting := rest : DeviceRun }.sendWaiting setup id out) setup
  else r
termination_by r.device.backlog
decreasing_by
  refine Nat.lt_of_le_of_lt (backlog_sendWaiting_le _ setup id out) ?_
  simp only [Device.backlog, _h, List.length_cons]
  omega

end DeviceEnablement.DeviceRun
