/-
  What an expiry leaves alone, and how far that goes.

  A caller that waits no longer names its operation by endpoint and session.  The manager then lets
  whoever is there under this key wait no more, and the device that is there gives the session up.
  The key does not name the device, so that an expiry is sure to strike its own operation only as long
  as the device that performs it is in place.  This module draws that line, for whoever asks what a
  caller may rely on, or changes what a key names.

  1. `spares_expire`: nothing else changes, at this endpoint or at another.
  2. `expiry_spares_others`: a device never gives a number twice.  So as long as the device of a job
     is the latest one at its endpoint, the expiry of the job leaves every other job alone, and
     whoever waits for it (in `sharedHistory`, the one who has called second).
  3. `expiry_strikes_successor`: a device that takes the place of another gives the same numbers
     again.  An expiry that is underway meanwhile strikes the job which has that number now.
-/
import DeviceEnablement.Proofs.Manager.Waiters
import DeviceEnablement.Proofs.Manager.Jobs

namespace DeviceEnablement

/-- Giving a session up leaves all others as they are. -/
theorem DeviceRun.get?_sessions_abandon (r : DeviceRun) {id other : SessionId} (hne : other ≠ id)
    (state : SessionState) :
    (r.abandon id state).2.device.sessions.get? other = r.device.sessions.get? other := by
  have habandoned := abandoned_abandon r id state
  generalize r.abandon id state = result at habandoned
  cases habandoned with
  | ended => rfl
  | marked => exact (Table.get?_insert _ _ _ _).trans (if_neg hne)
  | forgotten => exact (Table.get?_erase _ _ _).trans (if_neg hne)

/-- Whether two jobs are not performed by one device in one session. -/
def Job.Apart (job other : Job) : Prop :=
  other.eid = job.eid → other.device = job.device → other.session ≠ job.session

namespace Manager

/-- The session with a number at the device that is at an endpoint. -/
def sessionAt? (m : Manager) (eid : UInt8) (id : SessionId) : Option Session :=
  (m.devices.get? eid).bind fun d => d.sessions.get? id

/-- Whether nothing has changed but one session at one endpoint, and who waits for it. -/
structure Spares (m : Manager) (eid : UInt8) (id : SessionId) (m' : Manager) : Prop where
  waiters : ∀ key, key ≠ (eid, id) → m'.waiters.get? key = m.waiters.get? key
  devices : ∀ other, other ≠ eid → m'.devices.get? other = m.devices.get? other
  sessions : ∀ other, other ≠ id → m'.sessionAt? eid other = m.sessionAt? eid other

variable {m : Manager} {eid : UInt8} {id : SessionId}

theorem spares_expire (hseats : ∀ d, m.devices.get? eid = some d → d.eid = eid) (id : SessionId) :
    m.Spares eid id (m.expire eid id).2 := by
  -- First the caller is forgotten, and then the device is asked to give the session up.
  have hsame := sameDevices_forget m (eid, id)
  have hwaiters : ∀ key, key ≠ (eid, id) →
      (m.forget (eid, id)).2.waiters.get? key = m.waiters.get? key := fun key hne =>
    (get?_waiters_forget m (eid, id) key).trans (if_neg hne)
  unfold expire
  generalize m.forget (eid, id) = forgotten at hsame hwaiters
  obtain ⟨told, m'⟩ := forgotten
  dsimp only at hsame hwaiters ⊢
  split
  · refine ⟨hwaiters, fun other _ => by rw [hsame.devices], fun other _ => ?_⟩
    unfold sessionAt?
    rw [hsame.devices]
  · rename_i d hd
    have hget : ∀ other, (m'.keep ((m'.wake d).expire id).2).devices.get? other =
        if other = eid then some ((m'.wake d).expire id).2.device else m.devices.get? other := by
      intro other
      have heid : ((m'.wake d).expire id).2.device.eid = eid :=
        (DeviceRun.exchanged_abandon (m'.wake d) id .timedOut).eid.trans
          (hseats d (hsame.devices ▸ hd))
      rw [← hsame.devices, ← heid]
      exact Table.get?_insert _ _ _ _
    refine ⟨hwaiters, fun other hne => (hget other).trans (if_neg hne), fun other hne => ?_⟩
    unfold sessionAt?
    rw [hget, if_pos rfl, ← hsame.devices, hd, Option.bind_some, Option.bind_some]
    exact DeviceRun.get?_sessions_abandon (m'.wake d) hne .timedOut

end Manager

namespace ManagerHistory

variable {h : ManagerHistory} {job other : Job}

/-- Who waits for a job, as long as its device is there. -/
def waiterFor? (h : ManagerHistory) (job : Job) : Option CallId :=
  if job.device = h.chronicle.latest job.eid then h.manager.waiters.get? (job.eid, job.session)
  else none

/-- While the device of a job is the latest one at its endpoint, the expiry of the job leaves every
    job alone that is performed elsewhere, and whoever waits for it. -/
theorem expiry_spares_others (hseated : h.manager.Seated)
    (hlatest : job.device = h.chronicle.latest job.eid) (hapart : job.Apart other)
    (setup : Setup) :
    (h.take setup (.expire job.eid job.session)).sessionFor? other = h.sessionFor? other ∧
    (h.take setup (.expire job.eid job.session)).waiterFor? other = h.waiterFor? other := by
  have hspares : h.manager.Spares job.eid job.session
      (h.take setup (.expire job.eid job.session)).manager := by
    rw [manager_take]
    unfold Manager.step
    split
    · exact ⟨fun _ _ => rfl, fun _ _ => rfl, fun _ _ => rfl⟩
    · exact Manager.spares_expire (hseated.endpoints job.eid) job.session
  -- No device comes with an expiry, so the jobs that have their device are the same ones.
  have hsettled : (h.take setup (.expire job.eid job.session)).chronicle.latest other.eid =
      h.chronicle.latest other.eid := latest_take _
  unfold sessionFor? waiterFor?
  rw [hsettled]
  split
  · rename_i hother
    by_cases heid : other.eid = job.eid
    · have hsession : other.session ≠ job.session :=
        hapart heid (hother.trans (heid ▸ hlatest.symm))
      refine ⟨?_, hspares.waiters _ fun heq => hsession (Prod.mk.inj heq).2⟩
      rw [heid]
      exact hspares.sessions other.session hsession
    · exact ⟨by rw [hspares.devices _ heid], hspares.waiters _ fun heq => heid (Prod.mk.inj heq).1⟩
  · exact ⟨rfl, rfl⟩

/-- A device is found at endpoint 8 and negotiates, and an operation is called for. -/
def comingEvents (uuid : Uuid) (call : CallId) : List ManagerEvent :=
  [.discovered 8 uuid 1 [DeviceHistory.sampleRecord],
    .response 8 0 (some [0, 6, 1, 0, 1, 0, 19, 0, 239, 190, 173, 222, 2, 7, 118, 101, 110, 100, 111,
      114, 0]),
    .response 8 1 (some [1, 6, 2, 0, 0, 4, 0, 0]),
    .perform 8 DeviceHistory.sampleRequest call]

/-- The history in which a second operation is called for while the first one runs. -/
def sharedHistory : ManagerHistory :=
  takeAll { manager := .opened {} {} {} } DeviceHistory.sampleSetup
    (comingEvents ⟨0⟩ ⟨0⟩ ++ [.perform 8 DeviceHistory.sampleRequest ⟨1⟩])

/-- The expiry of the first operation takes its caller away, and the second one goes on. -/
theorem expiry_spares_others_sample :
    ∃ job other, job ∈ sharedHistory.chronicle.jobs ∧ other ∈ sharedHistory.chronicle.jobs ∧
      sharedHistory.waiterFor? job = some job.call ∧
      (sharedHistory.take DeviceHistory.sampleSetup
        (.expire job.eid job.session)).waiterFor? job = none ∧
      (sharedHistory.take DeviceHistory.sampleSetup
        (.expire job.eid job.session)).waiterFor? other = some other.call := by
  let job : Job := { call := ⟨0⟩, eid := 8, device := 1, session := ⟨2⟩ }
  let other : Job := { call := ⟨1⟩, eid := 8, device := 1, session := ⟨3⟩ }
  have hreachable := reachable_takeAll DeviceHistory.sampleSetup
    (comingEvents ⟨0⟩ ⟨0⟩ ++ [.perform 8 DeviceHistory.sampleRequest ⟨1⟩])
  have hapart : job.Apart other := fun _ _ => by decide
  have hspared := expiry_spares_others (h := sharedHistory) hreachable.attended.seated
    (by decide +kernel) hapart DeviceHistory.sampleSetup
  refine ⟨job, other, by decide +kernel, by decide +kernel, by decide +kernel, by decide +kernel, ?_⟩
  rw [hspared.2]
  decide +kernel

/-- The history in which the device leaves while its operation runs, and another one comes. -/
def succeededHistory : ManagerHistory :=
  takeAll { manager := .opened {} {} {} } DeviceHistory.sampleSetup
    (comingEvents ⟨0⟩ ⟨0⟩ ++ .remove 8 :: comingEvents ⟨1⟩ ⟨1⟩)

/-- An expiry that comes after another device has taken the place of the one that performed the
    operation takes away the caller of the operation that has its number there. -/
theorem expiry_strikes_successor :
    ∃ job successor, job ∈ succeededHistory.chronicle.jobs ∧
      successor ∈ succeededHistory.chronicle.jobs ∧ job.Apart successor ∧
      succeededHistory.waiterFor? successor = some successor.call ∧
      (succeededHistory.take DeviceHistory.sampleSetup
        (.expire job.eid job.session)).waiterFor? successor = none := by
  refine ⟨{ call := ⟨0⟩, eid := 8, device := 1, session := ⟨2⟩ },
    { call := ⟨1⟩, eid := 8, device := 2, session := ⟨2⟩ }, by decide +kernel, by decide +kernel,
    fun _ hdevice => ?_, by decide +kernel, by decide +kernel⟩
  cases hdevice

end ManagerHistory

end DeviceEnablement
