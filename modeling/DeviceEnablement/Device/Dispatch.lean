/-
  Sending the requests of sessions.

  A request goes out at once if the device may have one more outstanding, and else waits
  (`dispatch`).  When it cannot be sent, its instance id is given back and nothing stays behind.  A
  session is started by its first request (`startSession`), and not at all if that fails.

  `backlog_startSession_le`: starting a session puts at most one request in the queue, and none
  when it fails.
-/
import DeviceEnablement.Device.Basic

namespace DeviceEnablement.DeviceRun

/-! ## Requests -/

/-- Sends a request under a fresh instance id. -/
def sendNow (r : DeviceRun) (session : SessionId) (out : Outgoing) :
    Except Failure Unit × DeviceRun :=
  let eid := r.device.eid
  match r.host.ids.allocate eid with
  | .error e => (.error e, r)
  | .ok (instanceId, ids) =>
    match out.message instanceId with
    | .error e => (.error (.message e), { r with host.ids := ids.free eid instanceId })
    | .ok message =>
      match r.host.transport.send { eid, instanceId, message } with
      | (.error e, transport) =>
        (.error e, { r with host := { r.host with ids := ids.free eid instanceId, transport } })
      | (.ok (), transport) =>
        let entry : PendingRequest :=
          { session, generation := r.device.generation, command := out.command }
        (.ok (), { r with
          host := { r.host with ids, transport }
          device.pending := r.device.pending.insert instanceId entry })

/-- Sends a request, or lets it wait as long as there is no capacity. -/
def dispatch (r : DeviceRun) (session : SessionId) (out : Outgoing) :
    Except Failure Unit × DeviceRun :=
  if r.device.hasCapacity then r.sendNow session out
  else (.ok (), { r with device.waiting := r.device.waiting ++ [(session, out)] })

/-! ## Sessions -/

/-- Takes the number of a new session. -/
def takeSessionId (r : DeviceRun) : SessionId × DeviceRun :=
  (⟨r.device.nextSession⟩, { r with device.nextSession := r.device.nextSession + 1 })

/-- Keeps a session that has begun and dispatches its first request; when that fails the session is
    not kept. -/
def launch (r : DeviceRun) (id : SessionId) (session : Session) (out : Outgoing) :
    Except Failure SessionId × DeviceRun :=
  match (r.keepSession id session).dispatch id out with
  | (.ok (), r) => (.ok id, r)
  | (.error e, r) => (.error e, r.dropSession id)

/-- Begins a session. -/
def startSession (r : DeviceRun) (setup : Setup) (session : Session) :
    Except Failure SessionId × DeviceRun :=
  match r.takeSessionId with
  | (id, r) =>
    match session.start (r.device.scope setup) r.device.memory with
    | (result, session, memory) =>
      let r := { r with device.memory := memory }
      match result with
      | .error e => (.error e, r)
      | .ok (.send out) => r.launch id session out
      | .ok _ => (.error (.sessionAborted session.state), r)

/-! ## The queues -/

@[simp] theorem queues_sendNow (r : DeviceRun) (id : SessionId) (out : Outgoing) :
    (r.sendNow id out).2.device.waiting = r.device.waiting
      ∧ (r.sendNow id out).2.device.dictionaryQueue = r.device.dictionaryQueue := by
  unfold sendNow
  dsimp only
  split
  · exact ⟨rfl, rfl⟩
  · split
    · exact ⟨rfl, rfl⟩
    · split <;> exact ⟨rfl, rfl⟩

/-- Dispatching puts at most one request in the queue, and none when it fails. -/
theorem queues_dispatch (r : DeviceRun) (id : SessionId) (out : Outgoing) :
    (r.dispatch id out).2.device.dictionaryQueue = r.device.dictionaryQueue
      ∧ (r.dispatch id out).2.device.waiting.length ≤ r.device.waiting.length + 1
      ∧ (∀ e, (r.dispatch id out).1 = .error e →
          (r.dispatch id out).2.device.waiting = r.device.waiting) := by
  unfold dispatch
  split
  · have h := queues_sendNow r id out
    exact ⟨h.2, by rw [h.1]; omega, fun _ _ => h.1⟩
  · exact ⟨rfl, by simp, fun e h => by cases h⟩

theorem queues_launch (r : DeviceRun) (id : SessionId) (session : Session) (out : Outgoing) :
    (r.launch id session out).2.device.dictionaryQueue = r.device.dictionaryQueue
      ∧ (r.launch id session out).2.device.waiting.length ≤ r.device.waiting.length + 1
      ∧ (∀ e, (r.launch id session out).1 = .error e →
          (r.launch id session out).2.device.waiting = r.device.waiting) := by
  have h := queues_dispatch (r.keepSession id session) id out
  unfold launch
  split
  · rename_i hd
    rw [hd] at h
    exact ⟨h.1, h.2.1, fun e he => by cases he⟩
  · rename_i e r' hd
    rw [hd] at h
    exact ⟨h.1, h.2.1, fun _ _ => h.2.2 e rfl⟩

/-- Starting a session puts at most one request in the queue, and none when it fails. -/
theorem queues_startSession (r : DeviceRun) (setup : Setup) (session : Session) :
    (r.startSession setup session).2.device.dictionaryQueue = r.device.dictionaryQueue
      ∧ (r.startSession setup session).2.device.waiting.length ≤ r.device.waiting.length + 1
      ∧ (∀ e, (r.startSession setup session).1 = .error e →
          (r.startSession setup session).2.device.waiting = r.device.waiting) := by
  unfold startSession takeSessionId
  dsimp only
  split
  · exact ⟨rfl, Nat.le_succ _, fun _ _ => rfl⟩
  · exact queues_launch _ _ _ _
  · exact ⟨rfl, Nat.le_succ _, fun _ _ => rfl⟩

/-- Starting a session adds at most one to the backlog. -/
theorem backlog_startSession_le (r : DeviceRun) (setup : Setup) (session : Session) :
    (r.startSession setup session).2.device.backlog ≤ r.device.backlog + 1 := by
  have h := queues_startSession r setup session
  simp only [Device.backlog, h.1]
  have := h.2.1
  omega

/-- A session that cannot be started adds nothing to the backlog. -/
theorem backlog_startSession_of_error {r : DeviceRun} {setup : Setup} {session : Session}
    {e : Failure} (he : (r.startSession setup session).1 = .error e) :
    (r.startSession setup session).2.device.backlog = r.device.backlog := by
  have h := queues_startSession r setup session
  simp only [Device.backlog, h.1, h.2.2 e he]

end DeviceEnablement.DeviceRun
