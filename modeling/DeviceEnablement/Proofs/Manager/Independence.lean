/-
  Events at different endpoints do not depend on each other.

  What an event comes to depends on what the manager holds for its endpoint, and on the folders of
  the devices that the event concerns; and it changes nothing else.  So two events at different
  endpoints that concern devices with different UUIDs may be taken in either order.

  1. `SameAt`, `SameFolders`: two managers hold the same for an endpoint, and for some UUIDs.
     `Confined`: only one endpoint and some folders have changed.
  2. `Counterparts`: managers that hold the same for an endpoint, on hosts with the same
     surroundings.  `Together`: counterparts have gone on to counterparts, each confined.
  3. `together_step`: every event takes counterparts together, and yields the same notices.
  4. `events_commute`: so the order of two such events makes no difference.  What is assumed of the
     manager is that each device is under its own endpoint, which holds of every manager that began
     without devices (`within_run`), and of the surroundings that they answer each request and each
     reading of a local file by what it is, not by when it comes.
-/
import DeviceEnablement.Proofs.Device.Parallel
import DeviceEnablement.Proofs.Manager.Chronicle

namespace DeviceEnablement

namespace Manager

variable {w : Surroundings} {setup : Setup} {eid : UInt8} {own given : Uuid → Prop}
  {m m' m'' m₁ m₁' m₂ m₂' : Manager}

/-! ## What an endpoint can see -/

/-- Whether two managers hold the same for an endpoint. -/
structure SameAt (eid : UInt8) (m m' : Manager) : Prop where
  stopped : m'.stopped = m.stopped := by rfl
  device : m'.devices.get? eid = m.devices.get? eid := by rfl
  waiter : ∀ session, m'.waiters.get? (eid, session) = m.waiters.get? (eid, session) := by
    exact fun _ => rfl
  host : m.host.SameAt eid m'.host := by exact {}

/-- Whether two managers keep the same folders for these UUIDs. -/
def SameFolders (uuids : Uuid → Prop) (m m' : Manager) : Prop :=
  ∀ uuid, uuids uuid → m'.folder uuid = m.folder uuid

theorem SameAt.trans (h : SameAt eid m m') (h' : SameAt eid m' m'') : SameAt eid m m'' where
  stopped := h'.stopped.trans h.stopped
  device := h'.device.trans h.device
  waiter := fun session => (h'.waiter session).trans (h.waiter session)
  host := h.host.trans h'.host

theorem SameAt.symm (h : SameAt eid m m') : SameAt eid m' m where
  stopped := h.stopped.symm
  device := h.device.symm
  waiter := fun session => (h.waiter session).symm
  host := h.host.symm

/-- Whether nothing has changed but at one endpoint, and in the folders of its own UUIDs. -/
structure Confined (eid : UInt8) (own : Uuid → Prop) (m m' : Manager) : Prop where
  aside : ∀ other, other ≠ eid → SameAt other m m' := by exact fun _ _ => {}
  folders : SameFolders (fun uuid => ¬ own uuid) m m' := by exact fun _ _ => rfl

theorem Confined.trans (h : Confined eid own m m') (h' : Confined eid own m' m'') :
    Confined eid own m m'' where
  aside := fun other hne => (h.aside other hne).trans (h'.aside other hne)
  folders := fun uuid hother => (h'.folders uuid hother).trans (h.folders uuid hother)

/-! ## Counterparts -/

/-- Whether two managers with the same surroundings hold the same for an endpoint, and for the UUIDs
    that are given. -/
structure Counterparts (w : Surroundings) (eid : UInt8) (given : Uuid → Prop) (m m' : Manager) :
    Prop where
  same : SameAt eid m m'
  folders : SameFolders given m m'
  within : m.host.Within w
  within' : m'.host.Within w

/-- Counterparts have gone on to counterparts, and have left alone what is not their own. -/
structure Together (w : Surroundings) (eid : UInt8) (given own : Uuid → Prop)
    (m m' m₁ m₁' : Manager) : Prop where
  counterparts : Counterparts w eid given m₁ m₁'
  confined : Confined eid own m m₁
  confined' : Confined eid own m' m₁'

theorem Together.trans (h : Together w eid given own m m' m₁ m₁')
    (h' : Together w eid given own m₁ m₁' m₂ m₂') : Together w eid given own m m' m₂ m₂' where
  counterparts := h'.counterparts
  confined := h.confined.trans h'.confined
  confined' := h.confined'.trans h'.confined'

theorem Counterparts.together (h : Counterparts w eid given m m') :
    Together w eid given own m m' m m' := ⟨h, {}, {}⟩

/-- Counterparts tell their callers the same, and go on together. -/
def Alongside (w : Surroundings) (eid : UInt8) (given own : Uuid → Prop) (m m' : Manager)
    (p p' : List Notice × Manager) : Prop :=
  ∃ told m₁ m₁', p = (told, m₁) ∧ p' = (told, m₁') ∧ Together w eid given own m m' m₁ m₁'

theorem Alongside.after {p p' : List Notice × Manager}
    (hbefore : Together w eid given own m m' m₁ m₁') (h : Alongside w eid given own m₁ m₁' p p') :
    Alongside w eid given own m m' p p' := by
  obtain ⟨told, m₂, m₂', hp, hp', htogether⟩ := h
  exact ⟨told, m₂, m₂', hp, hp', hbefore.trans htogether⟩

/-! ## Callers -/

/-- The waiters of one endpoint are changed alike. -/
theorem together_waiters (h : Counterparts w eid given m m')
    {t t' : Table (UInt8 × SessionId) CallId}
    (hsame : ∀ session, t'.get? (eid, session) = t.get? (eid, session))
    (haside : ∀ other, other ≠ eid → ∀ session,
      t.get? (other, session) = m.waiters.get? (other, session) ∧
      t'.get? (other, session) = m'.waiters.get? (other, session)) :
    Together w eid given own m m' { m with waiters := t } { m' with waiters := t' } where
  counterparts := ⟨⟨h.same.stopped, h.same.device, hsame, h.same.host⟩, h.folders, h.within,
    h.within'⟩
  confined := ⟨fun other hne => ⟨rfl, rfl, fun session => (haside other hne session).1, {}⟩,
    fun _ _ => rfl⟩
  confined' := ⟨fun other hne => ⟨rfl, rfl, fun session => (haside other hne session).2, {}⟩,
    fun _ _ => rfl⟩

/-- The one who waits under a key of the endpoint waits no more. -/
theorem together_erase (h : Counterparts w eid given m m') (session : SessionId) :
    Together w eid given own m m' { m with waiters := m.waiters.erase (eid, session) }
      { m' with waiters := m'.waiters.erase (eid, session) } := by
  refine together_waiters h (fun session' => ?_) (fun other hne session' => ?_)
  · rw [Table.get?_erase, Table.get?_erase, h.same.waiter]
  · have hkey : (other, session') ≠ (eid, session) := fun heq => hne (Prod.mk.inj heq).1
    rw [Table.get?_erase, Table.get?_erase, if_neg hkey, if_neg hkey]
    exact ⟨rfl, rfl⟩

theorem together_answer (own : Uuid → Prop) (h : Counterparts w eid given m m')
    (completion : OperationCompletion) :
    Alongside w eid given own m m' (m.answer eid completion) (m'.answer eid completion) := by
  unfold answer
  rw [h.same.waiter]
  split
  · exact ⟨_, _, _, rfl, rfl, together_erase h completion.session⟩
  · exact ⟨_, _, _, rfl, rfl, h.together⟩

theorem together_deliver (own : Uuid → Prop) (h : Counterparts w eid given m m')
    (completions : List OperationCompletion) :
    Alongside w eid given own m m' (m.deliver eid completions) (m'.deliver eid completions) := by
  induction completions generalizing m m' with
  | nil => exact ⟨_, _, _, rfl, rfl, h.together⟩
  | cons completion rest ih =>
    obtain ⟨told, m₁, m₁', ha, ha', hanswered⟩ := together_answer own h completion
    obtain ⟨toldRest, m₂, m₂', hd, hd', hdelivered⟩ := ih hanswered.counterparts
    unfold deliver
    rw [ha, ha']
    dsimp only
    rw [hd, hd']
    exact ⟨_, _, _, rfl, rfl, hanswered.trans hdelivered⟩

theorem together_forget (own : Uuid → Prop) (h : Counterparts w eid given m m')
    (session : SessionId) :
    Alongside w eid given own m m' (m.forget (eid, session)) (m'.forget (eid, session)) := by
  unfold forget
  rw [h.same.waiter]
  split
  · exact ⟨_, _, _, rfl, rfl, together_erase h session⟩
  · exact ⟨_, _, _, rfl, rfl, h.together⟩

theorem together_await (h : Counterparts w eid given m m') (session : SessionId) (call : CallId) :
    Alongside w eid given own m m' (m.await (eid, session) call)
      (m'.await (eid, session) call) := by
  obtain ⟨told, m₁, m₁', hf, hf', hforgotten⟩ := together_forget own h session
  unfold await
  rw [hf, hf']
  refine ⟨_, _, _, rfl, rfl, hforgotten.trans (together_waiters hforgotten.counterparts
    (fun session' => ?_) (fun other hne session' => ?_))⟩
  · rw [Table.get?_insert, Table.get?_insert, hforgotten.counterparts.same.waiter]
  · have hkey : (other, session') ≠ (eid, session) := fun heq => hne (Prod.mk.inj heq).1
    rw [Table.get?_insert, Table.get?_insert, if_neg hkey, if_neg hkey]
    exact ⟨rfl, rfl⟩

/-! ## Devices at work -/

theorem folder_settle (m : Manager) (r : DeviceRun) (uuid : Uuid) :
    (m.settle r).folder uuid =
      if uuid = r.device.uuid then r.device.memory.store.folder else m.folder uuid := by
  unfold folder settle
  dsimp only
  rw [Table.get?_insert]
  split <;> rfl

/-- A device of the endpoint begins its work as a twin. -/
theorem twin_wake (h : Counterparts w eid given m m') {d : Device} (heid : d.eid = eid)
    (hgiven : given d.uuid) : DeviceRun.Twin w (m.wake d) (m'.wake d) := by
  have hwake : m'.wake d = { m.wake d with host := m'.host } := by
    unfold wake
    rw [h.folders d.uuid hgiven]
  rw [hwake]
  exact .intro (heid ▸ h.same.host) h.within h.within'

variable {d : Device} {r r' : DeviceRun}

/-- What twins leave behind is kept. -/
theorem together_settle (h : Counterparts w eid given m m') (heid : d.eid = eid) (hown : own d.uuid)
    (hwork : DeviceRun.Together w (m.wake d) (m'.wake d) r r') :
    Together w eid given own m m' (m.settle r) (m'.settle r') := by
  -- What the device leaves in its folder is its own, and all else lies beside its endpoint.
  have hmine : ∀ uuid, ¬ own uuid → uuid ≠ d.uuid := by
    rintro uuid hother rfl
    exact hother hown
  have haside : ∀ other, other ≠ eid → other ≠ d.eid := fun other hne heq => hne (heq.trans heid)
  refine ⟨⟨⟨h.same.stopped, h.same.device, h.same.waiter, ?_⟩, fun uuid hgiven => ?_,
      hwork.twin.within, hwork.twin.within'⟩,
    ⟨fun other hne => ⟨rfl, rfl, fun _ => rfl, hwork.confined.aside other (haside other hne)⟩,
      fun uuid hother => ?_⟩,
    ⟨fun other hne => ⟨rfl, rfl, fun _ => rfl, hwork.confined'.aside other (haside other hne)⟩,
      fun uuid hother => ?_⟩⟩
  · rw [← heid, ← show r.device.eid = d.eid from hwork.confined.eid]
    exact hwork.twin.same
  · rw [folder_settle, folder_settle, hwork.twin.device, h.folders uuid hgiven]
  · rw [folder_settle, show r.device.uuid = d.uuid from hwork.confined.uuid,
      if_neg (hmine uuid hother)]
  · rw [folder_settle, show r'.device.uuid = d.uuid from hwork.confined'.uuid,
      if_neg (hmine uuid hother)]

/-- The device of the endpoint is replaced alike. -/
theorem together_keep (h : Counterparts w eid given m m') (heid : d.eid = eid) (hown : own d.uuid)
    (hwork : DeviceRun.Together w (m.wake d) (m'.wake d) r r') :
    Together w eid given own m m' (m.keep r) (m'.keep r') := by
  obtain ⟨⟨hsame, hfolders, hwithin, hwithin'⟩, hconfined, hconfined'⟩ :=
    together_settle h heid hown hwork
  have heid' : r.device.eid = eid := hwork.confined.eid.trans heid
  have hinsert : ∀ (m : Manager) other, (m.devices.insert r.device.eid r.device).get? other =
      if other = eid then some r.device else m.devices.get? other := by
    intro m other
    rw [Table.get?_insert, heid']
  refine ⟨⟨⟨hsame.stopped, ?_, hsame.waiter, hsame.host⟩, hfolders, hwithin, hwithin'⟩,
    ⟨fun other hne => ?_, hconfined.folders⟩, ⟨fun other hne => ?_, hconfined'.folders⟩⟩
  · show (m'.devices.insert r'.device.eid r'.device).get? eid = _
    rw [hwork.twin.device, hinsert, if_pos rfl]
    exact ((hinsert m eid).trans (if_pos rfl)).symm
  · obtain ⟨hstopped, -, hwaiter, hhost⟩ := hconfined.aside other hne
    exact ⟨hstopped, (hinsert m other).trans (if_neg hne), hwaiter, hhost⟩
  · obtain ⟨hstopped, -, hwaiter, hhost⟩ := hconfined'.aside other hne
    refine ⟨hstopped, ?_, hwaiter, hhost⟩
    show (m'.devices.insert r'.device.eid r'.device).get? other = _
    rw [hwork.twin.device, hinsert, if_neg hne]

/-- A device leaves the endpoint, and its instance ids are released. -/
theorem together_release (h : Counterparts w eid given m m') :
    Together w eid given own m m'
      { m with devices := m.devices.erase eid, host.ids := m.host.ids.release eid }
      { m' with devices := m'.devices.erase eid, host.ids := m'.host.ids.release eid } := by
  have haside : ∀ (m : Manager) other, other ≠ eid → SameAt other m
      { m with devices := m.devices.erase eid, host.ids := m.host.ids.release eid } := by
    intro m other hne
    refine ⟨rfl, ?_, fun _ => rfl, ⟨?_, rfl⟩⟩
    · exact (Table.get?_erase ..).trans (if_neg hne)
    · exact (InstanceIds.pool_release ..).trans (if_neg hne)
  refine ⟨⟨⟨h.same.stopped, ?_, h.same.waiter, ⟨?_, h.same.host.requests⟩⟩, h.folders,
      ⟨h.within.refusal, h.within.content⟩, ⟨h.within'.refusal, h.within'.content⟩⟩,
    ⟨haside m, fun _ _ => rfl⟩, ⟨haside m', fun _ _ => rfl⟩⟩
  · dsimp only
    rw [Table.get?_erase, Table.get?_erase, if_pos rfl, if_pos rfl]
  · dsimp only
    rw [InstanceIds.pool_release, InstanceIds.pool_release, if_pos rfl, if_pos rfl]

/-! ## Events -/

/-- Whether an event concerns a UUID: the device at its endpoint has it, or one that has it is found
    there. -/
inductive Concerns (m : Manager) : ManagerEvent → Uuid → Prop
  | present {event : ManagerEvent} {eid : UInt8} {d : Device} (about : event.endpoint? = some eid)
      (found : m.devices.get? eid = some d) : Concerns m event d.uuid
  | arriving (eid : UInt8) (uuid : Uuid) (tid : UInt8) (payloads : List Bytes) :
      Concerns m (.discovered eid uuid tid payloads) uuid

theorem together_welcome (h : Counterparts w eid given m m') {uuid : Uuid} (hgiven : given uuid)
    (hown : own uuid) (setup : Setup) (tid : UInt8) (payloads : List Bytes)
    (before : List OperationCompletion) :
    Alongside w eid given own m m' (m.welcome setup eid uuid tid payloads before)
      (m'.welcome setup eid uuid tid payloads before) := by
  have hrefreshed := DeviceRun.together_refresh
    (twin_wake h (d := .new setup eid tid uuid payloads (m.folder uuid)) rfl hgiven) setup
  have hkept := together_keep h (d := .new setup eid tid uuid payloads (m.folder uuid)) rfl hown
    hrefreshed
  unfold welcome
  rw [h.folders uuid hgiven]
  dsimp only
  rw [hrefreshed.twin.completions]
  exact (together_deliver _ hkept.counterparts _).after hkept

variable (h : Counterparts w eid given m m')
  (hseat : ∀ d, m.devices.get? eid = some d → d.eid = eid)
include h hseat

theorem together_discovered {uuid : Uuid} {tid : UInt8} {payloads : List Bytes}
    (hgiven : ∀ u, m.Concerns (.discovered eid uuid tid payloads) u → given u) (setup : Setup) :
    Alongside w eid given (m.Concerns (.discovered eid uuid tid payloads)) m m'
      (m.discovered setup eid uuid tid payloads) (m'.discovered setup eid uuid tid payloads) := by
  have hown : m.Concerns (.discovered eid uuid tid payloads) uuid := .arriving eid uuid tid payloads
  unfold discovered
  rw [h.same.device]
  split
  · exact together_welcome h (hgiven _ hown) hown setup tid payloads []
  · rename_i d hd
    have hpresent : m.Concerns (.discovered eid uuid tid payloads) d.uuid := .present rfl hd
    have hwoken := twin_wake h (hseat d hd) (hgiven _ hpresent)
    dsimp only
    split
    · -- The device is found again.
      have hset := DeviceRun.together_setPayloads hwoken payloads
      have hrefreshed := hset.trans (DeviceRun.together_refresh hset.twin setup)
      have hkept := together_keep h (hseat d hd) hpresent hrefreshed
      rw [hrefreshed.twin.completions]
      exact (together_deliver _ hkept.counterparts _).after hkept
    · -- Another one takes its place.
      have hdisabled := DeviceRun.together_disable hwoken
      have hsettled := together_settle h (hseat d hd) hpresent hdisabled
      rw [hdisabled.twin.completions]
      exact (together_welcome hsettled.counterparts (hgiven _ hown) hown setup tid payloads _).after
        hsettled

theorem together_response {instanceId : UInt8} {message : Option Bytes}
    (hgiven : ∀ u, m.Concerns (.response eid instanceId message) u → given u) (setup : Setup) :
    Alongside w eid given (m.Concerns (.response eid instanceId message)) m m'
      (m.response setup eid instanceId message) (m'.response setup eid instanceId message) := by
  unfold response
  rw [h.same.device]
  split
  · exact ⟨_, _, _, rfl, rfl, h.together⟩
  · rename_i d hd
    have hpresent : m.Concerns (.response eid instanceId message) d.uuid := .present rfl hd
    have hanswered := DeviceRun.together_handleResponse
      (twin_wake h (hseat d hd) (hgiven _ hpresent)) setup instanceId message
    have hkept := together_keep h (hseat d hd) hpresent hanswered
    dsimp only
    rw [hanswered.twin.completions]
    exact (together_deliver _ hkept.counterparts _).after hkept

theorem together_perform {request : OperationRequest} {call : CallId}
    (hgiven : ∀ u, m.Concerns (.perform eid request call) u → given u) (setup : Setup) :
    Alongside w eid given (m.Concerns (.perform eid request call)) m m'
      (m.perform setup eid request call) (m'.perform setup eid request call) := by
  unfold perform
  rw [h.same.device]
  split
  · exact ⟨_, _, _, rfl, rfl, h.together⟩
  · rename_i d hd
    have hpresent : m.Concerns (.perform eid request call) d.uuid := .present rfl hd
    obtain ⟨result, r, r', hs, hs', hstarted⟩ := DeviceRun.together_startOperation
      (twin_wake h (hseat d hd) (hgiven _ hpresent)) setup request
    have hkept := together_keep h (hseat d hd) hpresent hstarted
    rw [hs, hs']
    cases result with
    | ok session => exact (together_await hkept.counterparts session call).after hkept
    | error e => exact ⟨_, _, _, rfl, rfl, hkept⟩

theorem together_expire {session : SessionId}
    (hgiven : ∀ u, m.Concerns (.expire eid session) u → given u) :
    Alongside w eid given (m.Concerns (.expire eid session)) m m'
      (m.expire eid session) (m'.expire eid session) := by
  obtain ⟨told, m₁, m₁', hf, hf', hforgotten⟩ :=
    together_forget (m.Concerns (.expire eid session)) h session
  have hdevices : m₁.devices = m.devices := by
    have hsame := sameDevices_forget m (eid, session)
    rw [hf] at hsame
    exact hsame.devices
  unfold expire
  rw [hf, hf']
  dsimp only
  rw [hforgotten.counterparts.same.device, hdevices]
  split
  · exact ⟨_, _, _, rfl, rfl, hforgotten⟩
  · rename_i d hd
    have hpresent : m.Concerns (.expire eid session) d.uuid := .present rfl hd
    obtain ⟨result, r, r', ha, ha', habandoned⟩ := DeviceRun.together_abandon
      (twin_wake hforgotten.counterparts (hseat d hd) (hgiven _ hpresent)) session .timedOut
    have hkept := together_keep hforgotten.counterparts (hseat d hd) hpresent habandoned
    unfold DeviceRun.expire
    rw [ha, ha']
    exact ⟨_, _, _, rfl, rfl, hforgotten.trans hkept⟩

theorem together_remove (hgiven : ∀ u, m.Concerns (.remove eid) u → given u) :
    Alongside w eid given (m.Concerns (.remove eid)) m m' (m.remove eid) (m'.remove eid) := by
  unfold remove
  rw [h.same.device]
  split
  · exact ⟨_, _, _, rfl, rfl, h.together⟩
  · rename_i d hd
    have hpresent : m.Concerns (.remove eid) d.uuid := .present rfl hd
    have hdisabled := DeviceRun.together_disable
      (twin_wake h (hseat d hd) (hgiven _ hpresent))
    have hsettled := together_settle h (hseat d hd) hpresent hdisabled
    obtain ⟨told, m₁, m₁', hd, hd', hdelivered⟩ := together_deliver
      (m.Concerns (.remove eid)) hsettled.counterparts (m.wake d).disable.completions
    unfold retire
    dsimp only
    rw [hdisabled.twin.completions, hd, hd']
    exact ⟨_, _, _, rfl, rfl, (hsettled.trans hdelivered).trans
      (together_release hdelivered.counterparts)⟩

/-- Every event takes counterparts together, and yields the same notices. -/
theorem together_step {event : ManagerEvent} (habout : event.endpoint? = some eid)
    (hgiven : ∀ u, m.Concerns event u → given u) (setup : Setup) :
    Alongside w eid given (m.Concerns event) m m' (m.step setup event) (m'.step setup event) := by
  unfold step
  rw [h.same.stopped]
  split
  · exact ⟨_, _, _, rfl, rfl, h.together⟩
  · cases event with
    | discovered =>
      cases habout
      exact together_discovered h hseat hgiven setup
    | response =>
      cases habout
      exact together_response h hseat hgiven setup
    | perform =>
      cases habout
      exact together_perform h hseat hgiven setup
    | expire =>
      cases habout
      exact together_expire h hseat hgiven
    | remove =>
      cases habout
      exact together_remove h hseat hgiven
    | shutdown => cases habout

omit h hseat

/-- A host keeps its surroundings. -/
theorem within_step (hwithin : m.host.Within w)
    (hseats : ∀ eid d, m.devices.get? eid = some d → d.eid = eid) (setup : Setup)
    (event : ManagerEvent) : (m.step setup event).2.host.Within w := by
  cases habout : event.endpoint? with
  | some eid =>
    have hself : Counterparts w eid (fun _ => True) m m := ⟨{}, fun _ _ => rfl, hwithin, hwithin⟩
    obtain ⟨_, _, _, hstep, -, htogether⟩ :=
      together_step hself (hseats eid) habout (fun _ _ => trivial) setup
    rw [hstep]
    exact htogether.counterparts.within
  | none =>
    have hretired : ∀ (entries : List (UInt8 × Device)) (m : Manager), m.host.Within w →
        (m.retireAll entries).2.host.Within w := by
      intro entries
      induction entries with
      | nil => exact fun _ hwithin => hwithin
      | cons entry rest ih =>
        intro m hwithin
        refine ih (m.retire entry.1 entry.2).2 ?_
        rw [host_retire]
        exact ⟨hwithin.refusal, hwithin.content⟩
    cases event with
    | shutdown =>
      unfold step
      split
      · exact hwithin
      · exact hretired m.devices.entries m hwithin
    | _ => cases habout

/-- Events leave each device under its own endpoint, and the surroundings as they are. -/
theorem within_run (hwithin : m.host.Within w) (hseated : m.Seated) (setup : Setup)
    (events : List ManagerEvent) :
    (m.run setup events).2.Seated ∧ (m.run setup events).2.host.Within w := by
  induction events generalizing m with
  | nil => exact ⟨hseated, hwithin⟩
  | cons event rest ih =>
    exact ih (within_step hwithin hseated.endpoints setup event)
      (ManagerHistory.seated_take (h := { manager := m }) hseated setup event)

/-! ## Two events -/

/-- Whether two managers hold the same: for every endpoint, in every folder. -/
structure Indistinguishable (m m' : Manager) : Prop where
  stopped : m'.stopped = m.stopped
  device : ∀ eid, m'.devices.get? eid = m.devices.get? eid
  waiter : ∀ eid session, m'.waiters.get? (eid, session) = m.waiters.get? (eid, session)
  pool : ∀ eid, m'.host.ids.pool eid = m.host.ids.pool eid
  requests : ∀ eid, m'.host.transport.requestsTo eid = m.host.transport.requestsTo eid
  folder : ∀ uuid, m'.folder uuid = m.folder uuid

theorem indistinguishable (hsame : ∀ eid, SameAt eid m m')
    (hfolders : SameFolders (fun _ => True) m m') : Indistinguishable m m' where
  stopped := (hsame 0).stopped
  device := fun eid => (hsame eid).device
  waiter := fun eid => (hsame eid).waiter
  pool := fun eid => (hsame eid).host.pool
  requests := fun eid => (hsame eid).host.requests
  folder := fun uuid => hfolders uuid trivial

/-- Two events at different endpoints that concern devices with different UUIDs may be taken in
either order.  Each tells its callers the same, the managers hold the same afterwards, and each
endpoint has been sent the same requests in the same order. -/
theorem events_commute (hwithin : m.host.Within w)
    (hseats : ∀ eid d, m.devices.get? eid = some d → d.eid = eid) (setup : Setup)
    {event event' : ManagerEvent} {eid eid' : UInt8} (habout : event.endpoint? = some eid)
    (habout' : event'.endpoint? = some eid') (hne : eid ≠ eid')
    (hdisjoint : ∀ uuid, m.Concerns event uuid → ¬ m.Concerns event' uuid) :
    ((m.step setup event').2.step setup event).1 = (m.step setup event).1 ∧
    ((m.step setup event).2.step setup event').1 = (m.step setup event').1 ∧
    Indistinguishable ((m.step setup event).2.step setup event').2
      ((m.step setup event').2.step setup event).2 := by
  -- Each event alone, as it is taken at once.
  have hself : ∀ eid given, Counterparts w eid given m m := fun _ _ =>
    ⟨{}, fun _ _ => rfl, hwithin, hwithin⟩
  obtain ⟨told, m₁, _, hfirst, -, hmoved⟩ := together_step (hself eid (fun _ => True))
    (hseats eid) habout (fun _ _ => trivial) setup
  obtain ⟨told', m₂, _, hsecond, -, hmoved'⟩ := together_step (hself eid' (fun _ => True))
    (hseats eid') habout' (fun _ _ => trivial) setup
  -- What the one has changed is not what the other looks at, so it does the same behind it.
  have hbehind : Counterparts w eid (fun uuid => ¬ m.Concerns event' uuid) m m₂ :=
    ⟨hmoved'.confined.aside eid hne, hmoved'.confined.folders, hwithin,
      hmoved'.counterparts.within⟩
  have hbehind' : Counterparts w eid' (fun uuid => ¬ m.Concerns event uuid) m m₁ :=
    ⟨hmoved.confined.aside eid' hne.symm, hmoved.confined.folders, hwithin,
      hmoved.counterparts.within⟩
  obtain ⟨_, _, m₂₁, heq, hthen, hlast⟩ :=
    together_step hbehind (hseats eid) habout hdisjoint setup
  cases hfirst.symm.trans heq
  obtain ⟨_, _, m₁₂, heq', hthen', hlast'⟩ := together_step hbehind' (hseats eid') habout'
    (fun uuid hconcerns' hconcerns => hdisjoint uuid hconcerns hconcerns') setup
  cases hsecond.symm.trans heq'
  rw [hfirst, hsecond]
  dsimp only
  rw [hthen, hthen']
  -- An endpoint, and a folder, is as the event that concerns it has left it, whichever came last.
  refine ⟨rfl, rfl, indistinguishable (fun other => ?_) (fun uuid _ => ?_)⟩
  · by_cases heid : other = eid
    · subst heid
      exact (hlast'.confined'.aside other hne).symm.trans hlast.counterparts.same
    · by_cases heid' : other = eid'
      · subst heid'
        exact hlast'.counterparts.same.symm.trans (hlast.confined'.aside other heid)
      · have hfirstLast := (hmoved.confined.aside other heid).trans
          (hlast'.confined'.aside other heid')
        exact hfirstLast.symm.trans
          ((hmoved'.confined.aside other heid').trans (hlast.confined'.aside other heid))
  · by_cases hconcerns : m.Concerns event uuid
    · have hfree := hdisjoint uuid hconcerns
      exact (hlast.counterparts.folders uuid hfree).trans (hlast'.confined'.folders uuid hfree).symm
    · exact (hlast.confined'.folders uuid hconcerns).trans
        (hlast'.counterparts.folders uuid hconcerns).symm

/-- A response to the device at endpoint 8, and a device that is found at endpoint 9. -/
theorem events_commute_response_discovery :
    let m := (run (.opened {} {} {}) DeviceHistory.sampleSetup ManagerHistory.sampleEvents).2
    let event : ManagerEvent := .response 8 2 none
    let event' : ManagerEvent := .discovered 9 ⟨1⟩ 1 [DeviceHistory.sampleRecord]
    ((m.step DeviceHistory.sampleSetup event').2.step DeviceHistory.sampleSetup event).1 =
      (m.step DeviceHistory.sampleSetup event).1 ∧
    ((m.step DeviceHistory.sampleSetup event).2.step DeviceHistory.sampleSetup event').1 =
      (m.step DeviceHistory.sampleSetup event').1 ∧
    Indistinguishable
      ((m.step DeviceHistory.sampleSetup event).2.step DeviceHistory.sampleSetup event').2
      ((m.step DeviceHistory.sampleSetup event').2.step DeviceHistory.sampleSetup event).2 := by
  intro m event event'
  obtain ⟨hseated, hwithin⟩ := within_run (m := .opened {} {} {})
    (w := ⟨fun _ => none, fun _ => none⟩) ⟨fun _ _ => rfl, fun _ _ => rfl⟩
    (ManagerHistory.seated_opened {} {} {}) DeviceHistory.sampleSetup ManagerHistory.sampleEvents
  have hpresent : (m.devices.get? 8).map Device.uuid = some ⟨0⟩ := by decide +kernel
  have habsent : (m.devices.get? 9).map Device.uuid = none := by decide +kernel
  refine events_commute hwithin hseated.endpoints DeviceHistory.sampleSetup
    (show event.endpoint? = some 8 from rfl) (show event'.endpoint? = some 9 from rfl)
    (by decide) ?_
  intro uuid (hconcerns : m.Concerns (.response 8 2 none) uuid)
    (hconcerns' : m.Concerns (.discovered 9 ⟨1⟩ 1 [DeviceHistory.sampleRecord]) uuid)
  have huuid : uuid = ⟨0⟩ := by
    cases hconcerns with
    | present habout hfound =>
      cases habout
      rw [hfound] at hpresent
      exact Option.some.inj hpresent
  cases hconcerns' with
  | present habout hfound =>
    cases habout
    rw [hfound] at habsent
    cases habsent
  | arriving => cases huuid

end Manager

end DeviceEnablement
