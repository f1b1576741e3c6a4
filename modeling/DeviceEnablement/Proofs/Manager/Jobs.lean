/-
  Jobs and the requests that are sent for them.

  An operation that has begun for a caller is a job of one device: the one that was the latest at
  its endpoint.

  1. `Device.Precedes`: what a device keeps from event to event.  Sessions that have ended stay so,
     and nothing is sent for them (`Course.precedes`, `Course.sent_for_live`).
  2. `ManagerHistory.Numbered`: a job belongs to a device that came, and to one of its sessions;
     each request was sent for a session.
  3. `ManagerHistory.Over`: a job that is over, because its device was replaced or has left, or its
     session has ended, stays over (`over_take`), and nothing is sent for it (`isFor_of_over`).  A
     job is over when it has expired (`over_expire`).
-/
import DeviceEnablement.Proofs.Manager.Accounts

namespace DeviceEnablement

/-! ## Devices -/

/-- Whether `d'` can be what has become of `d`. -/
structure Device.Precedes (d d' : Device) : Prop where
  next : d.nextSession ≤ d'.nextSession
  ended : ∀ id, d.Ended id → d'.Ended id

namespace DeviceRun

variable {before after : DeviceRun} {sent : List SentRequest} {stranded : List UInt8}

theorem Acted.precedes (hacted : before.Acted sent after) :
    before.device.Precedes after.device where
  next := hacted.next
  ended id h := (hacted.stays id h).ended

/-- What is sent is outstanding for a session that has not ended. -/
theorem Acted.sent_for_live (hacted : before.Acted sent after) (hbooked : before.Booked stranded)
    {request : SentRequest} (hmem : request ∈ sent) :
    ∃ pending, after.device.pending.get? request.instanceId = some pending ∧
      ¬ before.device.Ended pending.session := by
  have hnew : request.instanceId ∈ after.device.pending.keys := by
    rw [hacted.pending hbooked.respected, List.mem_append, List.mem_reverse]
    exact Or.inr (List.mem_map_of_mem hmem)
  obtain ⟨pending, hpending⟩ := (Table.mem_keys_iff _ _).mp hnew
  refine ⟨pending, hpending, fun hended => ?_⟩
  -- The id was free before, so nothing was outstanding under it.
  have hold := (hacted.stays _ hended).requests _ _ hpending rfl
  have hinUse := hbooked.respected _ ((Table.mem_keys_iff _ _).mpr ⟨pending, hold⟩)
  have hfree := hacted.nodup hbooked.nodup
  rw [hacted.allocated] at hfree
  exact (List.nodup_append.mp hfree).2.2 _ (List.mem_map_of_mem hmem) _ hinUse rfl

end DeviceRun

namespace Manager

variable {m m' : Manager} {event : ManagerEvent} {new : List SentRequest} {eid : UInt8}

/-- A device that is not new at its endpoint was there before. -/
theorem Course.precedes (hcourse : Course m event new m') {d' : Device}
    (hd' : m'.devices.get? eid = some d') (hold : m.newcomer? event ≠ some eid) :
    ∃ d, m.devices.get? eid = some d ∧ d.Precedes d' := by
  have hsame : ∀ {d : Device}, d.Precedes d := ⟨Nat.le_refl _, fun _ h => h⟩
  cases hcourse with
  | unknown _ _ _ hdevices => exact ⟨d', hdevices.devices ▸ hd', hsame⟩
  | @welcomed _ eid' _ _ _ _ _ _ _ hnewcomer _ hkeeps =>
    have hne : eid ≠ eid' := fun he => hold (he ▸ hnewcomer)
    rw [hkeeps.get?, if_neg hne] at hd'
    exact ⟨d', hd', hsame⟩
  | @refreshed eid' _ _ _ d _ _ _ hd _ hacted hkeeps | @ignored eid' _ _ d _ _ hd _ hacted hkeeps
  | @answered eid' _ _ d _ _ _ _ hd _ hacted hkeeps
  | @performed eid' _ _ d _ _ _ hd hacted hkeeps
  | @expired eid' _ d _ _ hd hacted _ hkeeps =>
    rw [hkeeps.get?] at hd'
    split at hd'
    · rename_i he
      cases hd'
      exact ⟨d, he ▸ hd, hacted.precedes.next,
        fun id h => hacted.precedes.ended id ⟨h.number, h.dead⟩⟩
    · exact ⟨d', hd', hsame⟩
  | removed _ hdevices =>
    rw [hdevices, Table.get?_erase] at hd'
    split at hd'
    · cases hd'
    · exact ⟨d', hd', hsame⟩
  | stopped hdevices =>
    rw [hdevices] at hd'
    cases hd'

theorem Keeps.sessionOf? {r : DeviceRun} (hkeeps : m.Keeps eid r m') {instanceId : UInt8}
    {pending : PendingRequest} (hpending : r.device.pending.get? instanceId = some pending) :
    m'.sessionOf? eid instanceId = some pending.session := by
  unfold Manager.sessionOf?
  rw [hkeeps.get?, if_pos rfl, Option.bind_some, hpending]
  rfl

/-- What is sent is outstanding for a session; if the device was there before, the session had not
    ended. -/
theorem Course.sent_for_live {stranded : UInt8 → List UInt8} (hcourse : Course m event new m')
    (hseated : m.Seated) (hbooked : m.Booked stranded) {request : SentRequest}
    (hmem : request ∈ new) :
    ∃ id, m'.sessionOf? request.eid request.instanceId = some id ∧
      (m.newcomer? event ≠ some request.eid →
        ∀ d, m.devices.get? request.eid = some d → ¬ d.Ended id) := by
  cases hcourse with
  | unknown | ignored | expired | removed | stopped => exact absurd hmem List.not_mem_nil
  | @welcomed _ eid _ _ _ _ _ _ _ hnewcomer hacted hkeeps =>
    obtain ⟨pending, hpending, -⟩ := hacted.sent_for_live ((hbooked eid).newcomer rfl rfl) hmem
    have heid : request.eid = eid := hacted.own request hmem
    rw [heid]
    exact ⟨_, hkeeps.sessionOf? hpending, fun hold => absurd hnewcomer hold⟩
  | @refreshed eid _ _ _ d _ _ _ hd _ hacted hkeeps
  | @performed eid _ _ d _ _ _ hd hacted hkeeps =>
    have hat := hseated.endpoints eid d hd
    obtain ⟨pending, hpending, hlive⟩ := hacted.sent_for_live ((hbooked eid).hosted hd hat) hmem
    have heid : request.eid = eid := (hacted.own request hmem).trans hat
    rw [heid]
    refine ⟨_, hkeeps.sessionOf? hpending, fun _ d' hd' => ?_⟩
    cases hd.symm.trans hd'
    exact hlive
  | @answered eid _ _ d _ _ _ _ hd hanswered hacted hkeeps =>
    have hat := hseated.endpoints eid d hd
    obtain ⟨pending, hpending, hlive⟩ :=
      hacted.sent_for_live (((hbooked eid).hosted hd hat).freed hanswered) hmem
    have heid : request.eid = eid := (hacted.own request hmem).trans hat
    rw [heid]
    refine ⟨_, hkeeps.sessionOf? hpending, fun _ d' hd' hended => ?_⟩
    cases hd.symm.trans hd'
    exact hlive ⟨hended.number, hended.dead⟩

/-! ## Operations that begin -/

theorem startedIn_append (told told' : List Notice) :
    startedIn (told ++ told') = startedIn told ++ startedIn told' :=
  List.filterMap_append

theorem startedIn_deliver (m : Manager) (eid : UInt8) (completions : List OperationCompletion) :
    startedIn (m.deliver eid completions).1 = [] := by
  induction completions generalizing m with
  | nil => rfl
  | cons completion rest ih =>
    have hfirst : startedIn (m.answer eid completion).1 = [] := by
      unfold answer
      split <;> rfl
    refine (startedIn_append (m.answer eid completion).1 _).trans ?_
    rw [hfirst, List.nil_append]
    exact ih (m.answer eid completion).2

theorem startedIn_forget (m : Manager) (key : UInt8 × SessionId) :
    startedIn (m.forget key).1 = [] := by
  unfold forget
  split <;> rfl

theorem startedIn_retireAll (m : Manager) (entries : List (UInt8 × Device)) :
    startedIn (m.retireAll entries).1 = [] := by
  induction entries generalizing m with
  | nil => rfl
  | cons entry rest ih =>
    obtain ⟨eid, device⟩ := entry
    have hfirst : startedIn (m.retire eid device).1 = [] :=
      startedIn_deliver (m.settle (m.wake device).disable) eid _
    refine (startedIn_append (m.retire eid device).1 _).trans ?_
    rw [hfirst, List.nil_append]
    exact ih (m.retire eid device).2

theorem startedIn_stop (m : Manager) : startedIn m.stop.1 = [] := by
  refine (startedIn_append (m.retireAll m.devices.entries).1 _).trans ?_
  rw [startedIn_retireAll, List.nil_append]
  unfold startedIn
  rw [List.filterMap_map, List.filterMap_eq_nil_iff]
  exact fun _ _ => rfl

/-- The call of a caller begins, under a number that is given out, or does not begin. -/
theorem startedIn_perform (hseated : m.Seated) (setup : Setup) (eid : UInt8)
    (request : OperationRequest) (call : CallId) :
    startedIn (m.perform setup eid request call).1 = [] ∨
    ∃ session, startedIn (m.perform setup eid request call).1 = [(call, session)] ∧
      ∀ d, (m.perform setup eid request call).2.devices.get? eid = some d →
        session.value < d.nextSession := by
  unfold perform
  split
  · exact Or.inl rfl
  · rename_i device hd
    have ho : (m.wake device).device.Orderly :=
      (hseated.orderly eid device hd).of_sessions rfl (Nat.le_refl _)
    have heid : ((m.wake device).startOperation setup request).2.device.eid = eid := by
      obtain ⟨_, hacted⟩ := DeviceRun.acted_startOperation ho setup request
      exact hacted.eid.trans (hseated.endpoints eid device hd)
    have hbegun := DeviceRun.begun_startOperation (m.wake device) setup request
    generalize (m.wake device).startOperation setup request = result at hbegun heid
    obtain ⟨outcome, r⟩ := result
    cases outcome with
    | error e => exact Or.inl rfl
    | ok session =>
      have hnumber : session.value < r.device.nextSession := by
        cases hbegun with
        | started _ hstarted => exact (hstarted.found rfl).2.1
      have hdevices : ((m.keep r).await (eid, session) call).2.devices =
          m.devices.insert eid r.device := by
        rw [(sameDevices_await _ _ _).devices, ← heid]
        rfl
      refine Or.inr ⟨session, ?_, fun d hd' => ?_⟩
      · show (call, session) :: startedIn ((m.keep r).forget (eid, session)).1 = _
        rw [startedIn_forget]
      · change ((m.keep r).await (eid, session) call).2.devices.get? eid = some d at hd'
        rw [hdevices, Table.get?_insert, if_pos rfl] at hd'
        cases hd'
        exact hnumber

/-- The calls whose operations begin with an event: the one that the event is about, or none. -/
theorem startedIn_step (hseated : m.Seated) (setup : Setup) (event : ManagerEvent) :
    startedIn (m.step setup event).1 = [] ∨
    ∃ eid request call session, event = .perform eid request call ∧
      startedIn (m.step setup event).1 = [(call, session)] ∧
      ∀ d, (m.step setup event).2.devices.get? eid = some d → session.value < d.nextSession := by
  unfold step
  split
  · refine Or.inl ?_
    unfold drop
    split <;> rfl
  · cases event with
    | discovered eid uuid tid payloads =>
      refine Or.inl ?_
      show startedIn (m.discovered setup eid uuid tid payloads).1 = []
      unfold discovered
      split
      · exact startedIn_deliver _ _ _
      · dsimp only
        split <;> exact startedIn_deliver _ _ _
    | response eid instanceId message =>
      refine Or.inl ?_
      show startedIn (m.response setup eid instanceId message).1 = []
      unfold response
      split
      · rfl
      · exact startedIn_deliver _ _ _
    | perform eid request call =>
      rcases startedIn_perform hseated setup eid request call with hnone | ⟨session, hone, hnumber⟩
      · exact Or.inl hnone
      · exact Or.inr ⟨eid, request, call, session, rfl, hone, hnumber⟩
    | expire eid session =>
      refine Or.inl ?_
      show startedIn (m.expire eid session).1 = []
      have hforget := startedIn_forget m (eid, session)
      unfold expire
      generalize m.forget (eid, session) = forgotten at hforget
      dsimp only
      split <;> exact hforget
    | remove eid =>
      refine Or.inl ?_
      show startedIn (m.remove eid).1 = []
      unfold remove
      split
      · rfl
      · rename_i device _
        exact startedIn_deliver (m.settle (m.wake device).disable) eid _
    | shutdown => exact Or.inl (startedIn_stop m)

end Manager

/-! ## Histories -/

namespace ManagerHistory

/-- Whether each job belongs to a device that came, and to a session of it, and each request was
    sent for a session. -/
structure Numbered (h : ManagerHistory) : Prop where
  devices : ∀ job ∈ h.chronicle.jobs, job.device ≤ h.chronicle.latest job.eid
  sessions : ∀ job ∈ h.chronicle.jobs, job.device = h.chronicle.latest job.eid →
    ∀ d, h.manager.devices.get? job.eid = some d → job.session.value < d.nextSession
  letters : ∀ letter ∈ h.chronicle.letters, letter.session.isSome = true

/-- Whether nothing is done for a job any more. -/
structure Over (h : ManagerHistory) (job : Job) : Prop where
  came : job.device ≤ h.chronicle.latest job.eid
  ended : job.device = h.chronicle.latest job.eid →
    ∀ d, h.manager.devices.get? job.eid = some d → d.Ended job.session

/-- The session of a job, as long as its device is there and has it. -/
def sessionFor? (h : ManagerHistory) (job : Job) : Option Session :=
  if job.device = h.chronicle.latest job.eid then
    (h.manager.devices.get? job.eid).bind fun d => d.sessions.get? job.session
  else none

variable {config : Config} {h : ManagerHistory} {setup : Setup} {event : ManagerEvent} {job : Job}

/-- If a device still has the session of a job that is over, it was given up. -/
theorem Over.abandoned (hover : h.Over job) (hseated : h.manager.Seated) {s : Session}
    (hs : h.sessionFor? job = some s) : s.state.isAbandoned = true := by
  unfold sessionFor? at hs
  split at hs
  · obtain ⟨d, hd, hsession⟩ := Option.bind_eq_some_iff.mp hs
    have ho := hseated.orderly job.eid d hd
    have hdead := (hover.ended ‹_› d hd).dead
    rcases ho.states _ s hsession with hwaiting | habandoned
    · unfold Device.isLive Device.sessionState? at hdead
      rw [hsession, Option.map_some, Option.any_some, hwaiting] at hdead
      cases hdead
    · exact habandoned
  · cases hs

/-- The latest device stays the latest one, unless one comes that is new. -/
theorem not_newcomer {eid : UInt8} {n : Nat} (hcame : n ≤ h.chronicle.latest eid)
    (hlatest : n = (h.take setup event).chronicle.latest eid) :
    n = h.chronicle.latest eid ∧ h.manager.newcomer? event ≠ some eid := by
  rw [latest_take] at hlatest
  split at hlatest
  · omega
  · exact ⟨hlatest, ‹_›⟩

theorem jobs_take : (h.take setup event).chronicle.jobs =
    h.chronicle.begunBy event (h.manager.step setup event).1 ++ h.chronicle.jobs := rfl

theorem latest_le_take (eid : UInt8) :
    h.chronicle.latest eid ≤ (h.take setup event).chronicle.latest eid := by
  rw [latest_take]
  exact Nat.le_add_right _ _

/-- A device that is not new at its endpoint was there before. -/
theorem precedes_take (hseated : h.manager.Seated) {eid : UInt8} {d' : Device}
    (hd' : (h.take setup event).manager.devices.get? eid = some d')
    (hold : h.manager.newcomer? event ≠ some eid) :
    ∃ d, h.manager.devices.get? eid = some d ∧ d.Precedes d' := by
  rcases take_cases hseated setup event with ⟨_, hstep⟩ | ⟨_, new, hcourse⟩
  · rw [manager_take, hstep] at hd'
    exact ⟨d', hd', Nat.le_refl _, fun _ h => h⟩
  · exact hcourse.precedes hd' hold

/-- The job that begins with an event, if one does. -/
theorem begunBy_step (hseated : h.manager.Seated) (setup : Setup) (event : ManagerEvent) :
    (startedIn (h.manager.step setup event).1 = [] ∧
      h.chronicle.begunBy event (h.manager.step setup event).1 = []) ∨
    ∃ job request, event = .perform job.eid request job.call ∧
      job.device = h.chronicle.latest job.eid ∧
      startedIn (h.manager.step setup event).1 = [(job.call, job.session)] ∧
      h.chronicle.begunBy event (h.manager.step setup event).1 = [job] ∧
      ∀ d, (h.take setup event).manager.devices.get? job.eid = some d →
        job.session.value < d.nextSession := by
  unfold Chronicle.begunBy
  rcases Manager.startedIn_step hseated setup event with
    hnone | ⟨eid, request, call, session, rfl, hone, hnumber⟩
  · refine Or.inl ⟨hnone, ?_⟩
    rw [hnone]
    split <;> rfl
  · refine Or.inr ⟨{ call, eid, device := h.chronicle.latest eid, session }, request, rfl, rfl,
      hone, ?_, hnumber⟩
    rw [hone]
    rfl

/-- Each request is sent for a session; if its device was there before, the session had not
    ended. -/
theorem sent_take (hseated : h.manager.Seated) (hbooked : h.manager.Booked h.chronicle.stranded)
    {letter : Letter}
    (hmem : letter ∈ h.chronicle.lettersSince (h.take setup event).chronicle) :
    letter.device = (h.take setup event).chronicle.latest letter.request.eid ∧
    ∃ id, letter.session = some id ∧
      (h.manager.newcomer? event ≠ some letter.request.eid →
        ∃ d, h.manager.devices.get? letter.request.eid = some d ∧ ¬ d.Ended id) := by
  rw [lettersSince_take] at hmem
  obtain ⟨request, hrequest, rfl⟩ := List.mem_map.mp hmem
  refine ⟨rfl, ?_⟩
  rcases take_cases hseated setup event with ⟨_, hstep⟩ | ⟨_, new, hcourse⟩
  · rw [manager_take, hstep, sentSince_eq (List.nil_append _).symm] at hrequest
    exact absurd hrequest List.not_mem_nil
  · rw [sentSince_eq hcourse.sent] at hrequest
    obtain ⟨id, hsession, hlive⟩ := hcourse.sent_for_live hseated hbooked hrequest
    refine ⟨id, hsession, fun hold => ?_⟩
    obtain ⟨d', hd', -⟩ := Option.bind_eq_some_iff.mp hsession
    obtain ⟨d, hd, -⟩ := hcourse.precedes hd' hold
    exact ⟨d, hd, hlive hold d hd⟩

theorem numbered_opened (disk : Table Uuid Folder) (transport : Transport) (files : LocalFiles) :
    Numbered { manager := .opened disk transport files } where
  devices _ hmem := absurd hmem List.not_mem_nil
  sessions _ hmem := absurd hmem List.not_mem_nil
  letters _ hmem := absurd hmem List.not_mem_nil

theorem numbered_take (hseated : h.manager.Seated)
    (hbooked : h.manager.Booked h.chronicle.stranded) (hn : h.Numbered) (setup : Setup)
    (event : ManagerEvent) : (h.take setup event).Numbered where
  devices job hmem := by
    rw [jobs_take] at hmem
    rcases List.mem_append.mp hmem with hnew | hold
    · rcases begunBy_step hseated setup event with ⟨-, hnone⟩ | ⟨begun, -, -, hdevice, -, hone, -⟩
      · rw [hnone] at hnew
        exact absurd hnew List.not_mem_nil
      · rw [hone] at hnew
        cases List.mem_singleton.mp hnew
        rw [hdevice]
        exact latest_le_take _
    · exact Nat.le_trans (hn.devices job hold) (latest_le_take _)
  sessions job hmem hlatest d' hd' := by
    rw [jobs_take] at hmem
    -- A job that begins gets its number from the device as it is after the event.
    rcases List.mem_append.mp hmem with hnew | hold
    · rcases begunBy_step hseated setup event with ⟨-, hnone⟩ | ⟨begun, -, -, -, -, hone, hnumber⟩
      · rw [hnone] at hnew
        exact absurd hnew List.not_mem_nil
      · rw [hone] at hnew
        cases List.mem_singleton.mp hnew
        exact hnumber d' hd'
    · obtain ⟨hsame, hsettled⟩ := not_newcomer (hn.devices job hold) hlatest
      obtain ⟨d, hd, hprecedes⟩ := precedes_take hseated hd' hsettled
      exact Nat.lt_of_lt_of_le (hn.sessions job hold hsame d hd) hprecedes.next
  letters letter hmem := by
    rw [letters_take] at hmem
    rcases List.mem_append.mp hmem with hnew | hold
    · obtain ⟨-, id, hsession, -⟩ := sent_take hseated hbooked hnew
      rw [hsession]
      rfl
    · exact hn.letters letter hold

/-! ## Jobs that are over -/

/-- What is over stays over. -/
theorem over_take (hseated : h.manager.Seated) (hover : h.Over job) :
    (h.take setup event).Over job where
  came := Nat.le_trans hover.came (latest_le_take _)
  ended hlatest d' hd' := by
    obtain ⟨hsame, hsettled⟩ := not_newcomer hover.came hlatest
    obtain ⟨d, hd, hprecedes⟩ := precedes_take hseated hd' hsettled
    exact hprecedes.ended _ (hover.ended hsame d hd)

/-- Nothing is sent for a job that is over. -/
theorem isFor_of_over (hseated : h.manager.Seated)
    (hbooked : h.manager.Booked h.chronicle.stranded) (hover : h.Over job) {letter : Letter}
    (hmem : letter ∈ h.chronicle.lettersSince (h.take setup event).chronicle) :
    letter.isFor job = false := by
  obtain ⟨hdevice, id, hsession, hlive⟩ := sent_take hseated hbooked hmem
  unfold Letter.isFor
  rw [decide_eq_false_iff_not]
  rintro ⟨heid, hjob, hid⟩
  rw [hjob, heid] at hdevice
  obtain ⟨hsame, hsettled⟩ := not_newcomer hover.came hdevice
  rw [heid] at hlive
  obtain ⟨d, hd, hnot⟩ := hlive hsettled
  rw [hsession] at hid
  cases hid
  exact hnot (hover.ended hsame d hd)

/-- A job is over when it has expired. -/
theorem over_expire (hseated : h.manager.Seated) (hn : h.Numbered)
    (hmem : job ∈ h.chronicle.jobs) (setup : Setup) :
    (h.take setup (.expire job.eid job.session)).Over job where
  came := Nat.le_trans (hn.devices job hmem) (latest_le_take _)
  ended hlatest d' hd' := by
    -- The device of the job is at its endpoint, or has been replaced, and then nothing is to show.
    obtain ⟨hsame, -⟩ := not_newcomer (hn.devices job hmem) hlatest
    rcases take_cases hseated setup (.expire job.eid job.session) with
      ⟨hstopped, hstep⟩ | ⟨_, new, hcourse⟩
    · rw [manager_take, hstep, hseated.deserted hstopped] at hd'
      cases hd'
    · cases hcourse with
      | unknown habout habsent _ hdevices =>
        cases habout
        rw [hdevices.devices, habsent] at hd'
        cases hd'
      | expired hd _ hended hkeeps =>
        rw [hkeeps.get?, if_pos rfl] at hd'
        cases hd'
        exact hended (hn.sessions job hmem hsame _ hd)

/-- A job is over when there are no devices. -/
theorem over_of_deserted (hn : h.Numbered) (hmem : job ∈ h.chronicle.jobs)
    (hnone : ∀ eid, h.manager.devices.get? eid = none) : h.Over job where
  came := hn.devices job hmem
  ended _ d hd := by
    rw [hnone] at hd
    cases hd

end ManagerHistory

end DeviceEnablement
