/-
  The books of all instance ids.

  The devices of a manager share one store of instance ids.  At each endpoint the ids in use are
  those of the requests that the device there waits for, and those that are stranded: a device that
  is replaced by another one takes the knowledge of its requests with it, but leaves their ids in
  use.  Nobody gives them back, not even when the requests are answered, until the endpoint is
  removed or the manager stops.

  1. `DeviceRun.Booked`: the books of a device at work; what a call sends is entered.
  2. `Manager.BookedAt`: the books of an endpoint; each course of an event keeps them.
  3. `ids_accounted`: the books are right in every history, and an endpoint at which all ids are
     stranded can be sent nothing.
  4. `replacements_exhaust_ids`: a device for which nothing is outstanding, and no id left.
-/
import DeviceEnablement.Proofs.Manager.Chronicle

namespace DeviceEnablement

/-! ## Devices at work -/

namespace DeviceRun

/-- Whether the ids in use at the endpoint of a device are those of its requests and the stranded
    ones. -/
structure Booked (stranded : List UInt8) (r : DeviceRun) : Prop where
  accounts : r.idsInUse.Perm (r.device.pending.keys ++ stranded)
  nodup : r.idsInUse.Nodup
  bounded : ∀ id ∈ r.idsInUse, id.toNat < InstanceIdPool.capacity

variable {stranded : List UInt8} {r r' : DeviceRun} {new : List SentRequest}

theorem Booked.respected (h : r.Booked stranded) : r.Respected r.host := by
  intro id hid
  exact h.accounts.mem_iff.mpr (List.mem_append_left _ hid)

/-- What is sent is outstanding. -/
theorem Exchanged.booked (hexchanged : Exchanged r new r') (h : r.Booked stranded) :
    r'.Booked stranded where
  accounts := by
    rw [hexchanged.allocated, hexchanged.pending h.respected, List.append_assoc]
    -- The new ids stand in front of those in use, and turned round behind those outstanding.
    have hnew : (new.map (·.instanceId)).Perm (new.map (·.instanceId)).reverse :=
      (List.reverse_perm _).symm
    refine (hnew.append h.accounts).trans ?_
    rw [← List.append_assoc, ← List.append_assoc]
    exact List.perm_append_comm.append_right _
  nodup := hexchanged.nodup h.nodup
  bounded := by
    intro id hid
    rw [hexchanged.allocated, List.mem_append, List.mem_map] at hid
    rcases hid with ⟨request, hmem, rfl⟩ | hold
    · exact hexchanged.bounded request hmem
    · exact h.bounded id hold

/-- An answer takes the id of its request out of the books, and no stranded one. -/
theorem Booked.freed (h : r.Booked stranded) {instanceId : UInt8} {request : PendingRequest}
    (hpending : r.device.pending.get? instanceId = some request) :
    (r.freed instanceId).Booked stranded := by
  have hallocated : (r.freed instanceId).idsInUse =
      r.idsInUse.filter fun other => decide (other ≠ instanceId) :=
    InstanceIds.allocated_free r.host.ids r.device.eid instanceId
  have hown : instanceId ∈ r.device.pending.keys :=
    (r.device.pending.mem_keys_iff instanceId).mpr ⟨request, hpending⟩
  have hnodup : (r.device.pending.keys ++ stranded).Nodup := h.accounts.nodup_iff.mp h.nodup
  -- The id was outstanding, and no id is in the books twice.
  have hstranded : stranded.filter (fun other => decide (other ≠ instanceId)) = stranded := by
    rw [List.filter_eq_self]
    intro other hother
    rw [decide_eq_true_iff]
    rintro rfl
    exact (List.nodup_append.mp hnodup).2.2 other hown other hother rfl
  refine ⟨?_, ?_, ?_⟩
  · rw [hallocated]
    refine (h.accounts.filter _).trans (.of_eq ?_)
    rw [List.filter_append, hstranded, ← Table.keys_erase]
    rfl
  · rw [hallocated]
    exact h.nodup.filter _
  · rw [hallocated]
    exact fun id hid => h.bounded id (List.mem_filter.mp hid).1

end DeviceRun

/-! ## Endpoints -/

namespace Manager

/-- Whether the ids in use at an endpoint are those of the requests of its device and the stranded
    ones.  Nothing is stranded where there is no device. -/
structure BookedAt (m : Manager) (eid : UInt8) (stranded : List UInt8) : Prop where
  accounts : (m.host.ids.pool eid).allocated.Perm (m.outstanding eid ++ stranded)
  nodup : (m.host.ids.pool eid).allocated.Nodup
  bounded : ∀ id ∈ (m.host.ids.pool eid).allocated, id.toNat < InstanceIdPool.capacity
  vacant : m.devices.get? eid = none → stranded = []

/-- Whether the books of all endpoints are right. -/
def Booked (m : Manager) (stranded : UInt8 → List UInt8) : Prop :=
  ∀ eid, m.BookedAt eid (stranded eid)

variable {m m' : Manager} {eid : UInt8} {stranded stranded' : UInt8 → List UInt8} {d : Device}
  {event : ManagerEvent} {new : List SentRequest}

theorem outstanding_of_found (hd : m.devices.get? eid = some d) :
    m.outstanding eid = d.pending.keys := by
  unfold outstanding
  rw [hd]
  rfl

theorem outstanding_of_absent (hnone : m.devices.get? eid = none) : m.outstanding eid = [] := by
  unfold outstanding
  rw [hnone]
  rfl

theorem BookedAt.congr {ids : List UInt8} (h : m.BookedAt eid ids)
    (hdevice : m'.devices.get? eid = m.devices.get? eid)
    (hallocated : (m'.host.ids.pool eid).allocated = (m.host.ids.pool eid).allocated) :
    m'.BookedAt eid ids := by
  have houtstanding : m'.outstanding eid = m.outstanding eid := by
    unfold outstanding
    rw [hdevice]
  refine ⟨?_, ?_, ?_, ?_⟩
  · rw [hallocated, houtstanding]
    exact h.accounts
  · rw [hallocated]
    exact h.nodup
  · rw [hallocated]
    exact h.bounded
  · rw [hdevice]
    exact h.vacant

/-- No id is in use where there is no device. -/
theorem BookedAt.unused {ids : List UInt8} (h : m.BookedAt eid ids)
    (hnone : m.devices.get? eid = none) : (m.host.ids.pool eid).allocated = [] := by
  have haccounts := h.accounts
  rw [outstanding_of_absent hnone, h.vacant hnone] at haccounts
  exact haccounts.eq_nil

/-- An endpoint whose device has left, and whose ids were released. -/
theorem bookedAt_of_released (hnone : m.devices.get? eid = none)
    (hallocated : (m.host.ids.pool eid).allocated = []) : m.BookedAt eid [] := by
  refine ⟨?_, ?_, ?_, fun _ => rfl⟩
  · rw [hallocated, outstanding_of_absent hnone]
    exact .refl _
  · rw [hallocated]
    exact List.nodup_nil
  · rw [hallocated]
    exact fun _ hid => absurd hid List.not_mem_nil

theorem BookedAt.hosted {ids : List UInt8} (h : m.BookedAt eid ids)
    (hd : m.devices.get? eid = some d) (heid : d.eid = eid) : (m.hosted d).Booked ids := by
  subst heid
  have haccounts := h.accounts
  rw [outstanding_of_found hd] at haccounts
  exact ⟨haccounts, h.nodup, h.bounded⟩

/-- To a device that is new, what was outstanding before is stranded. -/
theorem BookedAt.newcomer {ids : List UInt8} (h : m.BookedAt eid ids) (heid : d.eid = eid)
    (hpending : d.pending = {}) : (m.hosted d).Booked (m.outstanding eid ++ ids) := by
  subst heid
  refine ⟨?_, h.nodup, h.bounded⟩
  show (m.host.ids.pool d.eid).allocated.Perm (d.pending.keys ++ _)
  rw [hpending]
  exact h.accounts

/-- A call of a device keeps the books of all endpoints, if they were right as it began. -/
theorem Keeps.booked {before r : DeviceRun} (hkeeps : m.Keeps eid r m')
    (hexchanged : before.Exchanged new r) (heid : before.device.eid = eid)
    (hbefore : before.Booked (stranded' eid))
    (hothers : ∀ other, other ≠ eid → stranded' other = stranded other ∧
      (before.host.ids.pool other).allocated = (m.host.ids.pool other).allocated)
    (h : m.Booked stranded) : m'.Booked stranded' := by
  intro other
  by_cases he : other = eid
  · subst he
    have hafter := hexchanged.booked hbefore
    have hpool : (m'.host.ids.pool other).allocated = r.idsInUse := by
      unfold DeviceRun.idsInUse
      rw [hkeeps.host, hexchanged.eid, heid]
    have hd : m'.devices.get? other = some r.device := by rw [hkeeps.get?, if_pos rfl]
    refine ⟨?_, ?_, ?_, ?_⟩
    · rw [hpool, outstanding_of_found hd]
      exact hafter.accounts
    · rw [hpool]
      exact hafter.nodup
    · rw [hpool]
      exact hafter.bounded
    · intro hnone
      cases hd.symm.trans hnone
  · obtain ⟨hstranded, hpool⟩ := hothers other he
    rw [hstranded]
    refine (h other).congr ?_ ?_
    · rw [hkeeps.get?, if_neg he]
    · rw [hkeeps.host, hexchanged.elsewhere other (heid ▸ he)]
      exact hpool

/-- Where nothing is stranded nothing can be released. -/
theorem strandedBy_of_nothing (hnone : ∀ eid, stranded eid = [])
    (hsettled : m.newcomer? event = none) : m.strandedBy stranded event = stranded := by
  funext eid
  unfold strandedBy
  rw [hsettled, hnone eid]
  split
  · rfl
  · split <;> rfl
  · rfl

theorem strandedBy_of_unknown (habout : event.endpoint? = some eid)
    (hsettled : m.newcomer? event = none) (hnone : stranded eid = []) :
    m.strandedBy stranded event = stranded := by
  funext other
  unfold strandedBy
  rw [hsettled]
  split
  · cases habout
  · obtain rfl := Option.some.inj habout
    split
    · rename_i he
      rw [he, hnone]
    · rfl
  · rfl

/-- Each event keeps the books. -/
theorem Course.booked (hcourse : Course m event new m') (hseated : m.Seated)
    (h : m.Booked stranded) : m'.Booked (m.strandedBy stranded event) := by
  cases hcourse with
  | @unknown _ eid _ habout habsent hsettled hsame =>
    rw [strandedBy_of_unknown habout hsettled ((h eid).vacant habsent)]
    intro other
    exact (h other).congr (by rw [hsame.devices]) (by rw [hsame.host])
  | @welcomed setup eid tid uuid payloads folder _ r _ hnewcomer hacted hkeeps =>
    -- Whatever the device before it waited for is stranded from now on.
    have hstranded : ∀ other, m.strandedBy stranded (.discovered eid uuid tid payloads) other =
        if other = eid then m.outstanding other ++ stranded other else stranded other := by
      intro other
      unfold strandedBy
      rw [hnewcomer]
      simp only [Option.some.injEq, eq_comm]
    refine hkeeps.booked hacted.toExchanged rfl ?_ (fun other hne => ⟨?_, rfl⟩) h
    · rw [hstranded, if_pos rfl]
      exact (h eid).newcomer rfl rfl
    · rw [hstranded, if_neg hne]
  | @refreshed eid tid uuid payloads d _ _ _ hd hsettled hacted hkeeps =>
    have hstranded :
        m.strandedBy stranded (.discovered eid uuid tid payloads) = stranded := by
      funext other
      unfold strandedBy
      rw [hsettled]
      rfl
    have heid := hseated.endpoints eid d hd
    rw [hstranded]
    exact hkeeps.booked hacted.toExchanged heid ((h eid).hosted hd heid) (fun _ _ => ⟨rfl, rfl⟩) h
  | @ignored eid _ _ d _ _ hd _ hacted hkeeps | @performed eid _ _ d _ _ _ hd hacted hkeeps
  | @expired eid _ d _ _ hd hacted _ hkeeps =>
    have heid := hseated.endpoints eid d hd
    exact hkeeps.booked hacted.toExchanged heid ((h eid).hosted hd heid) (fun _ _ => ⟨rfl, rfl⟩) h
  | @answered eid instanceId _ d _ _ _ _ hd hpending hacted hkeeps =>
    have heid := hseated.endpoints eid d hd
    refine hkeeps.booked hacted.toExchanged heid (((h eid).hosted hd heid).freed hpending)
      (fun other hne => ⟨rfl, ?_⟩) h
    show ((m.host.ids.free d.eid instanceId).pool other).allocated = _
    rw [InstanceIds.pool_free_of_ne (heid ▸ hne)]
  | @removed eid _ _ hd hdevices hhost =>
    -- The ids of the endpoint are released, those that are stranded as well.
    intro other
    have hpool : m'.host.ids.pool other =
        if other = eid then {} else m.host.ids.pool other := by
      rw [hhost]
      exact InstanceIds.pool_release m.host.ids eid other
    show m'.BookedAt other (if other = eid then [] else stranded other)
    by_cases he : other = eid
    · rw [if_pos he]
      rw [if_pos he] at hpool
      exact bookedAt_of_released (by rw [hdevices, Table.get?_erase, if_pos he]) (by rw [hpool])
    · rw [if_neg he]
      rw [if_neg he] at hpool
      exact (h other).congr (by rw [hdevices, Table.get?_erase, if_neg he]) (by rw [hpool])
  | stopped hdevices hreleased =>
    intro other
    refine bookedAt_of_released (hdevices other) ?_
    rw [hreleased]
    split
    · rfl
    · -- Only endpoints with devices are released, but where there is none no id is in use.
      rename_i habsent
      exact (h other).unused (Option.not_isSome_iff_eq_none.mp habsent)

end Manager

/-! ## Histories -/

namespace ManagerHistory

variable {config : Config} {h : ManagerHistory}

theorem booked_opened (disk : Table Uuid Folder) (transport : Transport) (files : LocalFiles) :
    (Manager.opened disk transport files).Booked fun _ => [] :=
  fun _ => Manager.bookedAt_of_released rfl rfl

theorem booked_take (hseated : h.manager.Seated) (hb : h.manager.Booked h.chronicle.stranded)
    (setup : Setup) (event : ManagerEvent) :
    (h.take setup event).manager.Booked (h.take setup event).chronicle.stranded := by
  show Manager.Booked _ (h.manager.strandedBy h.chronicle.stranded event)
  rcases take_cases hseated setup event with ⟨hstopped, hstep⟩ | ⟨_, new, hcourse⟩
  · have hnone : ∀ eid, h.chronicle.stranded eid = [] :=
      fun eid => (hb eid).vacant (hseated.deserted hstopped eid)
    rw [manager_take, hstep, Manager.strandedBy_of_nothing hnone (newcomer?_of_stopped hstopped _)]
    exact hb
  · exact hcourse.booked hseated hb

theorem Reachable.booked (hreachable : Reachable config h) :
    h.manager.Booked h.chronicle.stranded :=
  (hreachable.invariant
    (P := fun h => h.manager.Seated ∧ h.manager.Booked h.chronicle.stranded)
    (fun disk transport files =>
      ⟨seated_opened disk transport files, booked_opened disk transport files⟩)
    (fun _ setup event hp =>
      ⟨seated_take hp.1 setup event, booked_take hp.1 hp.2 setup event⟩)).2

/-- In every history of a manager: the instance ids in use at an endpoint are those of the requests
    that the device there waits for, and those that are stranded, each once, and all of them are at
    most 31.  None are in use where there is no device.  As soon as 32 ids are stranded, no request
    can be sent to the endpoint. -/
theorem ids_accounted (hreachable : Reachable config h) (eid : UInt8) :
    (h.manager.host.ids.pool eid).allocated.Perm
      (h.manager.outstanding eid ++ h.chronicle.stranded eid) ∧
    (h.manager.host.ids.pool eid).allocated.Nodup ∧
    (∀ id ∈ (h.manager.host.ids.pool eid).allocated, id ≤ 31) ∧
    (h.manager.devices.get? eid = none → (h.manager.host.ids.pool eid).allocated = []) ∧
    ((h.chronicle.stranded eid).length = 32 →
      h.manager.host.ids.allocate eid = .error (.instanceIdsExhausted eid)) := by
  have hb := hreachable.booked eid
  refine ⟨hb.accounts, hb.nodup, ?_, hb.unused, fun hfull => ?_⟩
  · intro id hid
    have hlt : id.toNat < 32 := hb.bounded id hid
    show id.toNat ≤ 31
    omega
  · refine InstanceIds.allocate_of_full hb.nodup hb.bounded ?_
    have hlength := hb.accounts.length_eq
    rw [List.length_append, hfull] at hlength
    show 32 ≤ (h.manager.host.ids.pool eid).allocated.length
    omega

/-- A device is found at endpoint 8, and then another one takes its place, 32 times.  Thereafter
    all requests that were sent are answered. -/
def replacements : List ManagerEvent :=
  ((List.range 33).map fun k => .discovered 8 (.ofNat k) 1 []) ++
    (List.range 32).map fun k => .response 8 (.ofNat k) none

/-- The history in which this happens. -/
def replacedHistory : ManagerHistory :=
  takeAll { manager := .opened {} {} {} } DeviceHistory.sampleSetup replacements

theorem reachable_replaced : Reachable DeviceHistory.sampleSetup.config replacedHistory :=
  reachable_takeAll DeviceHistory.sampleSetup replacements

/-- After the replacements all ids are stranded. -/
theorem ids_accounted_replaced :
    (replacedHistory.chronicle.stranded 8).length = 32 ∧
    replacedHistory.manager.host.ids.allocate 8 = .error (.instanceIdsExhausted 8) := by
  have hfull : (replacedHistory.chronicle.stranded 8).length = 32 := by decide +kernel
  exact ⟨hfull, (ids_accounted reachable_replaced 8).2.2.2.2 hfull⟩

/-- It is not so that the ids in use are just those of the requests that a device waits for: here a
    device waits for nothing, and all ids are in use. -/
theorem replacements_exhaust_ids :
    Reachable DeviceHistory.sampleSetup.config replacedHistory ∧
    (replacedHistory.manager.devices.get? 8).isSome = true ∧
    replacedHistory.manager.outstanding 8 = [] ∧
    replacedHistory.manager.host.ids.inUse 8 = 32 ∧
    ¬ (replacedHistory.manager.host.ids.pool 8).allocated.Perm
      (replacedHistory.manager.outstanding 8) := by
  have hnone : replacedHistory.manager.outstanding 8 = [] := by decide +kernel
  have hfull : replacedHistory.manager.host.ids.inUse 8 = 32 := by decide +kernel
  refine ⟨reachable_replaced, by decide +kernel, hnone, hfull, fun hperm => ?_⟩
  have hlength := hperm.length_eq
  rw [hnone] at hlength
  cases hfull.symm.trans hlength

end ManagerHistory

end DeviceEnablement
