/-
  What an event does to the devices of a manager and to their host.

  Callers and folders aside, an event is one call of one device, or a device comes or goes.
  `Course m setup event m'` lists what taking an event may come to, and says for each case which
  devices there are afterwards and how the host was changed (`course_step`).  A manager that has
  stopped takes nothing any more (`step_of_stopped`).

  A device at work begins with the folder as it is on disk, which is knowledge and nothing else: it
  is a run that resembles the device as the manager has it (`Manager.hosted`).
-/
import DeviceEnablement.Manager.Basic
import DeviceEnablement.Proofs.Device.Endings

namespace DeviceEnablement

/-- The endpoint that an event is about. -/
def ManagerEvent.endpoint? : ManagerEvent → Option UInt8
  | .discovered eid .. | .response eid .. | .perform eid .. | .expire eid _ | .remove eid =>
    some eid
  | .shutdown => none

namespace Manager

/-- A device on the host of the manager. -/
def hosted (m : Manager) (device : Device) : DeviceRun := { device, host := m.host }

/-- Whether two managers have the same devices and the same host. -/
structure SameDevices (m m' : Manager) : Prop where
  devices : m'.devices = m.devices := by rfl
  host : m'.host = m.host := by rfl
  stopped : m'.stopped = m.stopped := by rfl

/-- Whether a manager keeps what a device at work at `eid` has come to, and nothing else has
    changed. -/
structure Keeps (m : Manager) (eid : UInt8) (r : DeviceRun) (m' : Manager) : Prop where
  devices : m'.devices = m.devices.insert eid r.device
  host : m'.host = r.host
  stopped : m'.stopped = m.stopped

variable {m m' m'' : Manager} {setup : Setup}

theorem SameDevices.trans (h : SameDevices m m') (h' : SameDevices m' m'') :
    SameDevices m m'' where
  devices := h'.devices.trans h.devices
  host := h'.host.trans h.host
  stopped := h'.stopped.trans h.stopped

/-! ## Callers -/

theorem sameDevices_answer (m : Manager) (eid : UInt8) (completion : OperationCompletion) :
    SameDevices m (m.answer eid completion).2 := by
  unfold answer
  split <;> exact {}

theorem sameDevices_deliver (m : Manager) (eid : UInt8) (completions : List OperationCompletion) :
    SameDevices m (m.deliver eid completions).2 := by
  induction completions generalizing m with
  | nil => exact {}
  | cons completion rest ih => exact (sameDevices_answer m eid completion).trans (ih _)

theorem sameDevices_forget (m : Manager) (key : UInt8 × SessionId) :
    SameDevices m (m.forget key).2 := by
  unfold forget
  split <;> exact {}

theorem sameDevices_await (m : Manager) (key : UInt8 × SessionId) (call : CallId) :
    SameDevices m (m.await key call).2 := by
  have hforgotten := sameDevices_forget m key
  exact ⟨hforgotten.devices, hforgotten.host, hforgotten.stopped⟩

theorem keeps_keep (hsame : SameDevices m m') {eid : UInt8} {r : DeviceRun}
    (heid : r.device.eid = eid) : m.Keeps eid r (m'.keep r) where
  devices := by
    show m'.devices.insert r.device.eid r.device = _
    rw [hsame.devices, heid]
  host := rfl
  stopped := hsame.stopped

theorem Keeps.same {eid : UInt8} {r : DeviceRun} (h : m.Keeps eid r m')
    (hsame : SameDevices m' m'') : m.Keeps eid r m'' where
  devices := hsame.devices.trans h.devices
  host := hsame.host.trans h.host
  stopped := hsame.stopped.trans h.stopped

/-! ## Devices that leave -/

/-- Taking a device out of service leaves the host alone. -/
theorem sameDevices_settle_disable (m : Manager) (device : Device) :
    SameDevices m (m.settle (m.wake device).disable) := {}

theorem devices_retire (m : Manager) (eid : UInt8) (device : Device) :
    (m.retire eid device).2.devices = m.devices.erase eid := by
  have hsame := (sameDevices_settle_disable m device).trans
    (sameDevices_deliver _ eid (m.wake device).disable.completions)
  show Table.erase _ eid = _
  rw [hsame.devices]

theorem host_retire (m : Manager) (eid : UInt8) (device : Device) :
    (m.retire eid device).2.host = { m.host with ids := m.host.ids.release eid } := by
  have hsame := (sameDevices_settle_disable m device).trans
    (sameDevices_deliver _ eid (m.wake device).disable.completions)
  show ({ Manager.host _ with ids := (Manager.host _).ids.release eid } : Host) = _
  rw [hsame.host]

/-- What is left when devices were taken out of service. -/
theorem retireAll_spec (m : Manager) (entries : List (UInt8 × Device)) :
    (∀ eid, (m.retireAll entries).2.devices.get? eid =
      if eid ∈ entries.map Prod.fst then none else m.devices.get? eid) ∧
    (∀ eid, (m.retireAll entries).2.host.ids.pool eid =
      if eid ∈ entries.map Prod.fst then {} else m.host.ids.pool eid) ∧
    (m.retireAll entries).2.host.transport = m.host.transport := by
  induction entries generalizing m with
  | nil => exact ⟨fun _ => rfl, fun _ => rfl, rfl⟩
  | cons entry rest ih =>
    obtain ⟨first, device⟩ := entry
    obtain ⟨hdevices, hpools, htransport⟩ := ih (m.retire first device).2
    refine ⟨fun eid => ?_, fun eid => ?_, ?_⟩
    · refine (hdevices eid).trans ?_
      rw [devices_retire, Table.get?_erase]
      by_cases he : eid = first <;> by_cases hrest : eid ∈ rest.map Prod.fst <;> simp [he, hrest]
    · refine (hpools eid).trans ?_
      rw [host_retire, InstanceIds.pool_release]
      by_cases he : eid = first <;> by_cases hrest : eid ∈ rest.map Prod.fst <;> simp [he, hrest]
    · refine htransport.trans ?_
      rw [host_retire]

/-! ## Events -/

/-- The endpoint at which an event brings a device that is new there. -/
def newcomer? (m : Manager) : ManagerEvent → Option UInt8
  | .discovered eid uuid _ _ =>
    if m.stopped || (m.devices.get? eid).any fun d => d.uuid = uuid then none else some eid
  | _ => none

/-- `Course m event new m'`: taking the event leads from `m` to `m'`, and the requests `new` are
    sent, the latest in front. -/
inductive Course (m : Manager) : ManagerEvent → List SentRequest → Manager → Prop
  /-- The event is about an endpoint without a device. -/
  | unknown {event : ManagerEvent} {eid : UInt8} {m' : Manager} (about : event.endpoint? = some eid)
      (absent : m.devices.get? eid = none) (settled : m.newcomer? event = none)
      (same : m.SameDevices m') : Course m event [] m'
  /-- A device is new at its endpoint, where there was none, or one with another UUID. -/
  | welcomed {setup : Setup} {eid tid : UInt8} {uuid : Uuid} {payloads : List Bytes}
      {folder : Folder} {new : List SentRequest} {r : DeviceRun} {m' : Manager}
      (newcomer : m.newcomer? (.discovered eid uuid tid payloads) = some eid)
      (acted : (m.hosted (.new setup eid tid uuid payloads folder)).Acted new r)
      (keeps : m.Keeps eid r m') : Course m (.discovered eid uuid tid payloads) new m'
  /-- A device was found again. -/
  | refreshed {eid tid : UInt8} {uuid : Uuid} {payloads : List Bytes} {d : Device}
      {new : List SentRequest} {r : DeviceRun} {m' : Manager} (found : m.devices.get? eid = some d)
      (settled : m.newcomer? (.discovered eid uuid tid payloads) = none)
      (acted : (m.hosted d).Acted new r) (keeps : m.Keeps eid r m') :
      Course m (.discovered eid uuid tid payloads) new m'
  /-- The response is that to a request which is not outstanding. -/
  | ignored {eid instanceId : UInt8} {message : Option Bytes} {d : Device} {r : DeviceRun}
      {m' : Manager} (found : m.devices.get? eid = some d)
      (stray : d.pending.get? instanceId = none) (acted : (m.hosted d).Acted [] r)
      (keeps : m.Keeps eid r m') : Course m (.response eid instanceId message) [] m'
  | answered {eid instanceId : UInt8} {message : Option Bytes} {d : Device}
      {request : PendingRequest} {new : List SentRequest} {r : DeviceRun} {m' : Manager}
      (found : m.devices.get? eid = some d) (pending : d.pending.get? instanceId = some request)
      (acted : ((m.hosted d).freed instanceId).Acted new r) (keeps : m.Keeps eid r m') :
      Course m (.response eid instanceId message) new m'
  | performed {eid : UInt8} {request : OperationRequest} {call : CallId} {d : Device}
      {new : List SentRequest} {r : DeviceRun} {m' : Manager} (found : m.devices.get? eid = some d)
      (acted : (m.hosted d).Acted new r) (keeps : m.Keeps eid r m') :
      Course m (.perform eid request call) new m'
  | expired {eid : UInt8} {session : SessionId} {d : Device} {r : DeviceRun} {m' : Manager}
      (found : m.devices.get? eid = some d) (acted : (m.hosted d).Acted [] r)
      (ended : session.value < d.nextSession → r.device.Ended session) (keeps : m.Keeps eid r m') :
      Course m (.expire eid session) [] m'
  | removed {eid : UInt8} {d : Device} {m' : Manager} (found : m.devices.get? eid = some d)
      (devices : m'.devices = m.devices.erase eid)
      (host : m'.host = { m.host with ids := m.host.ids.release eid })
      (stopped : m'.stopped = m.stopped) : Course m (.remove eid) [] m'
  | stopped {m' : Manager} (devices : ∀ eid, m'.devices.get? eid = none)
      (released : ∀ eid, m'.host.ids.pool eid =
        if (m.devices.get? eid).isSome then {} else m.host.ids.pool eid)
      (transport : m'.host.transport = m.host.transport) (stopped : m'.stopped = true) :
      Course m .shutdown [] m'

/-- What an event says is sent is sent. -/
theorem Course.sent {event : ManagerEvent} {new : List SentRequest}
    (hcourse : Course m event new m') :
    m'.host.transport.sent = new ++ m.host.transport.sent := by
  cases hcourse with
  | unknown _ _ _ hsame => rw [hsame.host, List.nil_append]
  | welcomed _ hacted hkeeps | refreshed _ _ hacted hkeeps | ignored _ _ hacted hkeeps
  | answered _ _ hacted hkeeps | performed _ hacted hkeeps | expired _ hacted _ hkeeps =>
    rw [hkeeps.host, hacted.sent]
    rfl
  | removed _ _ hhost => rw [hhost, List.nil_append]
  | stopped _ _ htransport => rw [htransport, List.nil_append]

/-- A device at work resembles the device as the manager has it. -/
theorem resembles_wake (m : Manager) (device : Device) :
    (m.hosted device).Resembles (m.wake device) :=
  ⟨{}, rfl, {}, rfl⟩

/-- A device that is new at its endpoint is refreshed, and kept. -/
theorem keeps_welcome (hsame : SameDevices m m') (setup : Setup) (eid : UInt8) (uuid : Uuid)
    (tid : UInt8) (payloads : List Bytes) (before : List OperationCompletion) :
    ∃ new r, (m.hosted (.new setup eid tid uuid payloads (m'.folder uuid))).Acted new r ∧
      m.Keeps eid r (m'.welcome setup eid uuid tid payloads before).2 := by
  have hrun : m'.wake (.new setup eid tid uuid payloads (m'.folder uuid)) =
      m.hosted (.new setup eid tid uuid payloads (m'.folder uuid)) := by
    unfold wake hosted
    rw [hsame.host]
    rfl
  have ho : (m.hosted (.new setup eid tid uuid payloads (m'.folder uuid))).device.Orderly :=
    Device.orderly_of_empty rfl
  obtain ⟨new, hacted⟩ := DeviceRun.acted_refresh ho setup
  refine ⟨new, _, hacted, ?_⟩
  unfold welcome
  dsimp only
  rw [hrun]
  exact (keeps_keep hsame hacted.eid).same (sameDevices_deliver _ _ _)

/-- Whether each device is at its endpoint, and in order, and none is left once the manager has
    stopped. -/
structure Seated (m : Manager) : Prop where
  endpoints : ∀ eid d, m.devices.get? eid = some d → d.eid = eid
  orderly : ∀ eid d, m.devices.get? eid = some d → d.Orderly
  deserted : m.stopped = true → ∀ eid, m.devices.get? eid = none

variable (hseated : m.Seated)
include hseated

theorem course_discovered (hrunning : m.stopped = false) (eid : UInt8) (uuid : Uuid) (tid : UInt8)
    (payloads : List Bytes) :
    ∃ new, Course m (.discovered eid uuid tid payloads) new
      (m.discovered setup eid uuid tid payloads).2 := by
  unfold discovered
  split
  · rename_i hnone
    obtain ⟨new, r, hacted, hkeeps⟩ := keeps_welcome (m := m) {} setup eid uuid tid payloads []
    exact ⟨new, .welcomed (by simp [newcomer?, hrunning, hnone]) hacted hkeeps⟩
  · rename_i d hd
    dsimp only
    split
    · -- The device is found again.
      rename_i huuid
      have hresembles : (m.hosted d).Resembles ((m.wake d).setPayloads payloads) :=
        ⟨{}, rfl, {}, rfl⟩
      have ho : ((m.wake d).setPayloads payloads).device.Orderly :=
        (hseated.orderly eid d hd).of_sessions rfl (Nat.le_refl _)
      obtain ⟨new, hacted⟩ := DeviceRun.acted_refresh ho setup
      refine ⟨new, .refreshed hd (by simp [newcomer?, hd, huuid])
        (hacted.of_resembles hresembles) ?_⟩
      exact (keeps_keep {} (hacted.eid.trans (hseated.endpoints eid d hd))).same
        (sameDevices_deliver _ _ _)
    · -- Another one takes its place.  Being disabled, the old one sends nothing.
      rename_i huuid
      obtain ⟨new, r, hacted, hkeeps⟩ := keeps_welcome
        (sameDevices_settle_disable m d) setup eid uuid tid payloads (m.wake d).disable.completions
      exact ⟨new, .welcomed (by simp [newcomer?, hrunning, hd, huuid]) hacted hkeeps⟩

theorem course_response (eid instanceId : UInt8) (message : Option Bytes) :
    ∃ new, Course m (.response eid instanceId message) new
      (m.response setup eid instanceId message).2 := by
  unfold response
  split
  · rename_i hnone
    exact ⟨[], .unknown rfl hnone rfl {}⟩
  · rename_i d hd
    have ho : (m.wake d).device.Orderly :=
      (hseated.orderly eid d hd).of_sessions rfl (Nat.le_refl _)
    have heid := hseated.endpoints eid d hd
    cases hpending : d.pending.get? instanceId with
    | none =>
      -- The device does not wait for this response.
      have hsame : (m.wake d).handleResponse setup instanceId message = m.wake d :=
        DeviceRun.handleResponse_of_unknown hpending message
      dsimp only
      rw [hsame]
      exact ⟨[], .ignored hd hpending
        (.of_same (hseated.orderly eid d hd) (resembles_wake m d))
        ((keeps_keep {} heid).same (sameDevices_deliver _ _ _))⟩
    | some request =>
      obtain ⟨new, hacted⟩ := DeviceRun.acted_answer ho setup hpending message
      have hresembles : ((m.hosted d).freed instanceId).Resembles ((m.wake d).freed instanceId) :=
        ⟨{}, rfl, {}, rfl⟩
      exact ⟨new, .answered hd hpending (hacted.of_resembles hresembles)
        ((keeps_keep {} (hacted.eid.trans heid)).same (sameDevices_deliver _ _ _))⟩

theorem course_perform (eid : UInt8) (request : OperationRequest) (call : CallId) :
    ∃ new, Course m (.perform eid request call) new (m.perform setup eid request call).2 := by
  unfold perform
  split
  · rename_i hnone
    exact ⟨[], .unknown rfl hnone rfl {}⟩
  · rename_i d hd
    have ho : (m.wake d).device.Orderly :=
      (hseated.orderly eid d hd).of_sessions rfl (Nat.le_refl _)
    obtain ⟨new, hacted⟩ := DeviceRun.acted_startOperation ho setup request
    have hkeeps := keeps_keep (m := m) {} (hacted.eid.trans (hseated.endpoints eid d hd))
    refine ⟨new, .performed hd (hacted.of_resembles (resembles_wake m d)) ?_⟩
    split
    · rename_i session r heq
      rw [heq] at hkeeps ⊢
      exact hkeeps.same (sameDevices_await _ _ _)
    · rename_i e r heq
      rw [heq] at hkeeps ⊢
      exact hkeeps

theorem course_expire (eid : UInt8) (session : SessionId) :
    ∃ new, Course m (.expire eid session) new (m.expire eid session).2 := by
  -- The caller is forgotten first, which leaves the devices alone.
  have hsame := sameDevices_forget m (eid, session)
  unfold expire
  generalize m.forget (eid, session) = forgotten at hsame ⊢
  obtain ⟨told, m'⟩ := forgotten
  dsimp only at hsame ⊢
  split
  · rename_i hnone
    rw [hsame.devices] at hnone
    exact ⟨[], .unknown rfl hnone rfl hsame⟩
  · rename_i d hd
    rw [hsame.devices] at hd
    have hresembles : (m.hosted d).Resembles (m'.wake d) := by
      unfold hosted wake
      rw [hsame.host]
      exact ⟨{}, rfl, {}, rfl⟩
    have ho : (m'.wake d).device.Orderly :=
      (hseated.orderly eid d hd).of_sessions rfl (Nat.le_refl _)
    have hacted : (m'.wake d).Acted [] ((m'.wake d).expire session).2 :=
      DeviceRun.acted_abandon ho session rfl
    refine ⟨[], .expired hd (hacted.of_resembles hresembles) (fun hid => ?_)
      (keeps_keep hsame (hacted.eid.trans (hseated.endpoints eid d hd)))⟩
    exact DeviceRun.ended_abandon (r := m'.wake d) hid rfl

omit hseated in
theorem course_remove (eid : UInt8) : ∃ new, Course m (.remove eid) new (m.remove eid).2 := by
  unfold remove
  split
  · rename_i hnone
    exact ⟨[], .unknown rfl hnone rfl {}⟩
  · rename_i d hd
    refine ⟨[], .removed hd (devices_retire m eid d) (host_retire m eid d) ?_⟩
    exact (sameDevices_deliver _ eid (m.wake d).disable.completions).stopped

omit hseated in
theorem course_stop : Course m .shutdown [] m.stop.2 := by
  obtain ⟨hdevices, hpools, htransport⟩ := retireAll_spec m m.devices.entries
  have hkeys : ∀ eid, eid ∈ m.devices.entries.map Prod.fst ↔ (m.devices.get? eid).isSome = true :=
    fun eid => (m.devices.mem_keys_iff eid).trans Option.isSome_iff_exists.symm
  refine .stopped (fun eid => ?_) (fun eid => ?_) htransport rfl
  · refine (hdevices eid).trans ?_
    split
    · rfl
    · rename_i habsent
      rw [hkeys] at habsent
      exact Option.not_isSome_iff_eq_none.mp habsent
  · refine (hpools eid).trans ?_
    simp only [hkeys]

/-- Each event takes one of these courses. -/
theorem course_step (setup : Setup) (hrunning : m.stopped = false) (event : ManagerEvent) :
    ∃ new, Course m event new (m.step setup event).2 := by
  unfold step
  rw [if_neg (by simp [hrunning])]
  cases event with
  | discovered eid uuid tid payloads =>
    exact course_discovered hseated hrunning eid uuid tid payloads
  | response eid instanceId message => exact course_response hseated eid instanceId message
  | perform eid request call => exact course_perform hseated eid request call
  | expire eid session => exact course_expire hseated eid session
  | remove eid => exact course_remove eid
  | shutdown => exact ⟨[], course_stop⟩

omit hseated in
/-- A manager that has stopped takes nothing any more. -/
theorem step_of_stopped (hstopped : m.stopped = true) (setup : Setup) (event : ManagerEvent) :
    m.step setup event = (drop event, m) := by
  unfold step
  rw [if_pos hstopped]

/-! ## Seats -/

omit hseated in
theorem Keeps.get? {eid : UInt8} {r : DeviceRun} (h : m.Keeps eid r m') (eid' : UInt8) :
    m'.devices.get? eid' = if eid' = eid then some r.device else m.devices.get? eid' := by
  rw [h.devices, Table.get?_insert]

theorem Keeps.seated (hrunning : m.stopped = false) {eid : UInt8} {r : DeviceRun}
    (h : m.Keeps eid r m') (heid : r.device.eid = eid) (ho : r.device.Orderly) : m'.Seated := by
  have hdevice : ∀ eid' d, m'.devices.get? eid' = some d → d.eid = eid' ∧ d.Orderly := by
    intro eid' d hd
    rw [h.get?] at hd
    split at hd
    · rename_i he
      cases hd
      exact ⟨heid.trans he.symm, ho⟩
    · exact ⟨hseated.endpoints eid' d hd, hseated.orderly eid' d hd⟩
  refine ⟨fun eid' d hd => (hdevice eid' d hd).1, fun eid' d hd => (hdevice eid' d hd).2, ?_⟩
  intro hstopped
  cases (h.stopped.symm.trans hstopped).symm.trans hrunning

/-- Whatever happens, each device is at its endpoint, and in order. -/
theorem Course.seated (hrunning : m.stopped = false) {event : ManagerEvent}
    {new : List SentRequest} (hcourse : Course m event new m') : m'.Seated := by
  cases hcourse with
  | unknown _ _ _ hsame =>
    constructor
    · rw [hsame.devices]
      exact hseated.endpoints
    · rw [hsame.devices]
      exact hseated.orderly
    · rw [hsame.devices, hsame.stopped]
      exact hseated.deserted
  | welcomed _ hacted hkeeps => exact hkeeps.seated hseated hrunning hacted.eid hacted.orderly
  | refreshed hd _ hacted hkeeps | ignored hd _ hacted hkeeps | answered hd _ hacted hkeeps
  | performed hd hacted hkeeps | expired hd hacted _ hkeeps =>
    have heid := hseated.endpoints _ _ hd
    exact hkeeps.seated hseated hrunning (hacted.eid.trans heid) hacted.orderly
  | removed hd hdevices _ hsame =>
    have hleft : ∀ eid' d, m'.devices.get? eid' = some d → m.devices.get? eid' = some d := by
      intro eid' d hd'
      rw [hdevices, Table.get?_erase] at hd'
      split at hd'
      · cases hd'
      · exact hd'
    refine ⟨fun eid' d hd' => hseated.endpoints eid' d (hleft eid' d hd'),
      fun eid' d hd' => hseated.orderly eid' d (hleft eid' d hd'), fun hstopped => ?_⟩
    cases (hsame.symm.trans hstopped).symm.trans hrunning
  | stopped hdevices =>
    refine ⟨?_, ?_, fun _ => hdevices⟩ <;>
      · intro eid' d hd
        rw [hdevices] at hd
        cases hd

end Manager

end DeviceEnablement
