/-
  What sending requests and starting sessions come to.

  1. A request is sent (`Sent`), or it is sent or queued (`Placed`); what cannot be sent leaves the
     endpoint as it was (`sendNow_cases`, `dispatch_cases`).
  2. A session begins, or cannot begin (`Started`, `started_startSession`).
  3. `Host.Alike` and `DeviceRun.Resembles` say what else may change on the way.
-/
import DeviceEnablement.Device.Lifecycle
import DeviceEnablement.Proofs.InstanceIds
import DeviceEnablement.Proofs.Session

namespace DeviceEnablement

/-- The number of requests to an endpoint that were taken. -/
def Transport.sentTo (t : Transport) (eid : UInt8) : Nat :=
  t.sent.countP fun request => request.eid = eid

/-- Whether two hosts are alike for an endpoint: the same instance ids are in use, and as many
    requests were taken. -/
structure Host.Alike (eid : UInt8) (host host' : Host) : Prop where
  allocated : (host'.ids.pool eid).allocated = (host.ids.pool eid).allocated
  sentTo : host'.transport.sentTo eid = host.transport.sentTo eid

theorem Host.Alike.refl (eid : UInt8) (host : Host) : host.Alike eid host := ⟨rfl, rfl⟩

/-- Whether two hosts are alike for every endpoint: the same instance ids are in use, and the same
    requests were taken. -/
structure Host.Undisturbed (host host' : Host) : Prop where
  allocated : ∀ eid, (host'.ids.pool eid).allocated = (host.ids.pool eid).allocated := by
    exact fun _ => rfl
  sent : host'.transport.sent = host.transport.sent := by rfl

theorem Host.Undisturbed.alike {host host' : Host} (h : host.Undisturbed host') (eid : UInt8) :
    host.Alike eid host' where
  allocated := h.allocated eid
  sentTo := by
    unfold Transport.sentTo
    rw [h.sent]

/-- Whether two devices agree on sessions, requests, and the numbers that are given out. -/
structure Device.SameTraffic (d d' : Device) : Prop where
  sessions : d'.sessions = d.sessions := by rfl
  pending : d'.pending = d.pending := by rfl
  waiting : d'.waiting = d.waiting := by rfl
  generation : d'.generation = d.generation := by rfl
  nextSession : d'.nextSession = d.nextSession := by rfl

/-- Whether two runs differ in nothing but what the device knows. -/
structure DeviceRun.Resembles (r r' : DeviceRun) : Prop where
  traffic : r.device.SameTraffic r'.device
  eid : r'.device.eid = r.device.eid
  host : r.host.Undisturbed r'.host
  completions : r'.completions = r.completions

/-- An attempt that is refused sends nothing. -/
theorem Transport.sent_of_refused {t t' : Transport} {request : SentRequest} {e : Failure}
    (h : t.send request = (.error e, t')) : t'.sent = t.sent := by
  unfold send at h
  split at h <;> cases h
  rfl

/-- An attempt that is not refused sends the request. -/
theorem Transport.sent_of_accepted {t t' : Transport} {request : SentRequest}
    (h : t.send request = (.ok (), t')) : t'.sent = request :: t.sent := by
  unfold send at h
  split at h <;> cases h
  rfl

namespace DeviceRun

/-- The sessions whose ends were reported, the latest last. -/
def reported (r : DeviceRun) : List SessionId := r.completions.map (·.session)

theorem Resembles.trans {r r' r'' : DeviceRun} (h : r.Resembles r') (h' : r'.Resembles r'') :
    r.Resembles r'' where
  traffic := {
    sessions := h'.traffic.sessions.trans h.traffic.sessions
    pending := h'.traffic.pending.trans h.traffic.pending
    waiting := h'.traffic.waiting.trans h.traffic.waiting
    generation := h'.traffic.generation.trans h.traffic.generation
    nextSession := h'.traffic.nextSession.trans h.traffic.nextSession }
  eid := h'.eid.trans h.eid
  host := {
    allocated := fun eid => (h'.host.allocated eid).trans (h.host.allocated eid)
    sent := h'.host.sent.trans h.host.sent }
  completions := h'.completions.trans h.completions

/-- What a device learns makes no difference to its traffic. -/
theorem Resembles.of_device {r : DeviceRun} {device : Device} (h : r.device.SameTraffic device)
    (heid : device.eid = r.device.eid) : r.Resembles { r with device } :=
  ⟨h, heid, ⟨fun _ => rfl, rfl⟩, rfl⟩

/-! ## Sending -/

/-- `Sent r id out r'`: in `r'` the request `out` of the session `id` is on its way. -/
inductive Sent (r : DeviceRun) (id : SessionId) (out : Outgoing) : DeviceRun → Prop
  | intro {instanceId : UInt8} {ids : InstanceIds} {message : Bytes} {transport : Transport}
      (allocated : r.host.ids.allocate r.device.eid = .ok (instanceId, ids))
      (encoded : out.message instanceId = .ok message)
      (accepted : r.host.transport.send { eid := r.device.eid, instanceId, message } =
        (.ok (), transport)) :
      Sent r id out { r with
        host := { r.host with ids, transport }
        device.pending := r.device.pending.insert instanceId
          { session := id, generation := r.device.generation, command := out.command } }

/-- A request is sent, or the host is left alone. -/
theorem sendNow_cases (r : DeviceRun) (id : SessionId) (out : Outgoing) :
    (∃ r', r.sendNow id out = (.ok (), r') ∧ Sent r id out r') ∨
    (∃ e host, r.sendNow id out = (.error e, { r with host }) ∧
      r.host.Undisturbed host) := by
  unfold sendNow
  dsimp only
  split
  · exact Or.inr ⟨_, r.host, rfl, {}⟩
  · rename_i instanceId ids hallocate
    -- On both ways out the id that was just given out is given back.
    have hids : ∀ eid, ((ids.free r.device.eid instanceId).pool eid).allocated =
        (r.host.ids.pool eid).allocated := by
      intro eid
      by_cases he : eid = r.device.eid
      · rw [he]
        exact InstanceIds.allocated_free_allocate hallocate
      · rw [InstanceIds.pool_free_of_ne he, InstanceIds.pool_allocate_of_ne hallocate he]
    split
    · exact Or.inr ⟨_, _, rfl, hids, rfl⟩
    · rename_i message hmessage
      split
      · rename_i e transport hsend
        exact Or.inr ⟨_, _, rfl, hids, Transport.sent_of_refused hsend⟩
      · rename_i transport hsend
        exact Or.inl ⟨_, rfl, .intro hallocate hmessage hsend⟩

/-- `Placed r id out r'`: in `r'` the request `out` of the session `id` is on its way, or it waits
    because there is no capacity. -/
inductive Placed (r : DeviceRun) (id : SessionId) (out : Outgoing) : DeviceRun → Prop
  | sent {r' : DeviceRun} (capacity : r.device.hasCapacity = true) (sent : Sent r id out r') :
      Placed r id out r'
  | queued (full : r.device.hasCapacity = false) :
      Placed r id out { r with device.waiting := r.device.waiting ++ [(id, out)] }

theorem dispatch_cases (r : DeviceRun) (id : SessionId) (out : Outgoing) :
    (∃ r', r.dispatch id out = (.ok (), r') ∧ Placed r id out r') ∨
    (∃ e host, r.dispatch id out = (.error e, { r with host }) ∧
      r.host.Undisturbed host) := by
  unfold dispatch
  split
  · rename_i hcapacity
    rcases r.sendNow_cases id out with ⟨r', heq, hsent⟩ | hrefused
    · exact Or.inl ⟨r', heq, .sent hcapacity hsent⟩
    · exact Or.inr hrefused
  · rename_i hfull
    exact Or.inl ⟨_, rfl, .queued (by simpa using hfull)⟩

/-! ## Sessions that begin -/

/-- The number that the next session gets. -/
def newId (r : DeviceRun) : SessionId := ⟨r.device.nextSession⟩

/-- The run in which a session has got its number, and has left `memory` behind. -/
def begun (r : DeviceRun) (memory : DeviceMemory) : DeviceRun :=
  { r with device := { r.device with nextSession := r.device.nextSession + 1, memory } }

/-- What starting a session may come to: its first request is placed, the session refuses to begin,
    or its first request cannot be sent. -/
inductive Started (setup : Setup) (r : DeviceRun) (s : Session) :
    Except Failure SessionId × DeviceRun → Prop
  | placed {out : Outgoing} {s' : Session} {memory : DeviceMemory} {r' : DeviceRun}
      (step : s.start (r.device.scope setup) r.device.memory = (.ok (.send out), s', memory))
      (placed : Placed ((r.begun memory).keepSession r.newId s') r.newId out r') :
      Started setup r s (.ok r.newId, r')
  | refused (e : Failure) (memory : DeviceMemory) :
      Started setup r s (.error e, r.begun memory)
  | unsent (e : Failure) (memory : DeviceMemory) {host : Host}
      (alike : r.host.Undisturbed host) :
      Started setup r s (.error e, ({ r.begun memory with host }).dropSession r.newId)

/-- Forgetting a session that was just kept is forgetting the session under its number. -/
theorem dropSession_keepSession (r : DeviceRun) (id : SessionId) (s : Session) (host : Host) :
    ({ r.keepSession id s with host } : DeviceRun).dropSession id =
      ({ r with host } : DeviceRun).dropSession id := by
  unfold dropSession keepSession
  dsimp only
  rw [Table.erase_insert]

theorem launch_cases (r : DeviceRun) (id : SessionId) (s : Session) (out : Outgoing) :
    (∃ r', r.launch id s out = (.ok id, r') ∧ Placed (r.keepSession id s) id out r') ∨
    (∃ e host, r.launch id s out = (.error e, ({ r with host } : DeviceRun).dropSession id) ∧
      r.host.Undisturbed host) := by
  unfold launch
  rcases (r.keepSession id s).dispatch_cases id out with ⟨r', heq, hplaced⟩ | ⟨e, host, heq, halike⟩
  · rw [heq]
    exact Or.inl ⟨r', rfl, hplaced⟩
  · rw [heq]
    exact Or.inr ⟨e, host, congrArg (Prod.mk _) (r.dropSession_keepSession id s host), halike⟩

theorem startSession_eq (r : DeviceRun) (setup : Setup) (s : Session) :
    r.startSession setup s =
      match s.start (r.device.scope setup) r.device.memory with
      | (.error e, _, memory) => (.error e, r.begun memory)
      | (.ok (.send out), s', memory) => (r.begun memory).launch r.newId s' out
      | (.ok _, s', memory) => (.error (.sessionAborted s'.state), r.begun memory) := by
  unfold startSession takeSessionId
  dsimp only
  rw [show s.start (Device.scope { r.device with nextSession := r.device.nextSession + 1 } setup)
    r.device.memory = s.start (r.device.scope setup) r.device.memory from rfl]
  rcases s.start (r.device.scope setup) r.device.memory with ⟨_ | (_ | _ | _), s', memory⟩ <;> rfl

theorem started_startSession (r : DeviceRun) (setup : Setup) (s : Session) :
    Started setup r s (r.startSession setup s) := by
  rw [startSession_eq]
  split
  · exact .refused _ _
  · rename_i out s' memory hstep
    rcases launch_cases (r.begun memory) r.newId s' out with
      ⟨r', heq, hplaced⟩ | ⟨e, host, heq, halike⟩
    · rw [heq]
      exact .placed hstep hplaced
    · rw [heq]
      exact .unsent e memory halike
  · exact .refused _ _

end DeviceRun

end DeviceEnablement
