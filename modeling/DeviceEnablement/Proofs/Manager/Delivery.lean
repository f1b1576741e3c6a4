/-
  Responses and the devices they reach.

  The transport answers each request once, but whenever it likes, and in any order.  A response is
  told apart by its endpoint and its instance id alone.  So the response to a request of a device
  that is there no more may come when another device is at the endpoint.

  1. `Correspondence`: a history together with the requests that are underway.  Only these are
     answered, and each of them once.
  2. `Filed`: the requests that are underway to an endpoint have different ids, all of them in use;
     where the device waits for one of these ids, it has sent the request.  A device that is
     replaced leaves its ids in use, so this stays true.  When an endpoint is removed its ids are
     released, which does no harm unless one of its requests is still underway (`Idle`).
  3. `past_response_ignored`: if endpoints are removed only then, the response to a request of a
     device that was replaced changes nothing.
  4. `past_response_misdelivered`: otherwise the next device takes the response for its own.
-/
import DeviceEnablement.Proofs.Manager.Accounts

namespace DeviceEnablement

/-- Whether an event is the answer to a request. -/
def ManagerEvent.isResponse : ManagerEvent → Bool
  | .response .. => true
  | _ => false

/-- The device at an endpoint, as it goes to work. -/
def Manager.atWork? (m : Manager) (eid : UInt8) : Option DeviceRun :=
  (m.devices.get? eid).map m.wake

/-- A history, and the requests in it that were not answered so far. -/
structure Correspondence where
  history : ManagerHistory
  underway : List Letter := []

namespace Correspondence

/-- The manager takes an event; what it sends is underway. -/
def take (p : Correspondence) (setup : Setup) (event : ManagerEvent) : Correspondence :=
  let history := p.history.take setup event
  { history, underway := p.history.chronicle.lettersSince history.chronicle ++ p.underway }

/-- A request is answered. -/
def answer (p : Correspondence) (setup : Setup) (letter : Letter) (message : Option Bytes) :
    Correspondence :=
  { p with underway := p.underway.erase letter : Correspondence }.take setup
    (.response letter.request.eid letter.request.instanceId message)

/-- One step: the answer to a request that is underway, or any other event.  Endpoints are removed
    as far as `removable` lets them. -/
inductive Step (config : Config) (removable : Correspondence → UInt8 → Prop) :
    Correspondence → Correspondence → Prop
  | event (p : Correspondence) (codec : Codec) {event : ManagerEvent}
      (noResponse : event.isResponse = false)
      (allowed : ∀ eid, event = .remove eid → removable p eid) :
      Step config removable p (p.take { config, codec } event)
  | answer (p : Correspondence) (codec : Codec) {letter : Letter}
      (underway : letter ∈ p.underway) (message : Option Bytes) :
      Step config removable p (p.answer { config, codec } letter message)

/-- Any number of steps. -/
abbrev Steps (config : Config) (removable : Correspondence → UInt8 → Prop) :
    Correspondence → Correspondence → Prop :=
  Relation.ReflTransGen (Step config removable)

/-- Whether this is the correspondence of a manager that began without devices. -/
def Reachable (config : Config) (removable : Correspondence → UInt8 → Prop)
    (p : Correspondence) : Prop :=
  ∃ disk transport files,
    Steps config removable { history := { manager := .opened disk transport files } } p

/-- Whether nothing is underway to an endpoint. -/
def Idle (p : Correspondence) (eid : UInt8) : Prop :=
  ∀ letter ∈ p.underway, letter.request.eid ≠ eid

/-- Takes one event after the other. -/
def takeAll (p : Correspondence) (setup : Setup) (events : List ManagerEvent) : Correspondence :=
  events.foldl (fun p event => p.take setup event) p

theorem steps_takeAll {removable : Correspondence → UInt8 → Prop} (p : Correspondence)
    (setup : Setup) {events : List ManagerEvent}
    (hno : ∀ event ∈ events, event.isResponse = false)
    (hallowed : ∀ p eid, .remove eid ∈ events → removable p eid) :
    Steps setup.config removable p (p.takeAll setup events) := by
  induction events generalizing p with
  | nil => exact .refl
  | cons event rest ih =>
    refine .head (.event p setup.codec (hno event List.mem_cons_self) ?_)
      (ih _ (fun event' hmem => hno event' (List.mem_cons_of_mem _ hmem))
        fun p' eid hmem => hallowed p' eid (List.mem_cons_of_mem _ hmem))
    rintro eid rfl
    exact hallowed p eid List.mem_cons_self

/-! ## Requests that are underway -/

/-- The ids of the requests that are underway to an endpoint. -/
def idsTo (underway : List Letter) (eid : UInt8) : List UInt8 :=
  (underway.filter fun letter => decide (letter.request.eid = eid)).map (·.request.instanceId)

/-- Whether the requests that are underway can be told apart by their ids, given the number of the
    latest device at each endpoint. -/
structure Filed (m : Manager) (latest : UInt8 → Nat) (underway : List Letter) : Prop where
  distinct : ∀ eid, (idsTo underway eid).Nodup
  inUse : m.stopped = false → ∀ letter ∈ underway,
    letter.request.instanceId ∈ (m.host.ids.pool letter.request.eid).allocated
  /-- What a device waits for it has sent. -/
  own : ∀ letter ∈ underway,
    letter.request.instanceId ∈ m.outstanding letter.request.eid →
      letter.device = latest letter.request.eid

variable {m m' : Manager} {latest latest' : UInt8 → Nat} {underway new : List Letter}
  {eid : UInt8}

theorem mem_idsTo {id : UInt8} : id ∈ idsTo underway eid ↔
    ∃ letter ∈ underway, letter.request.eid = eid ∧ letter.request.instanceId = id := by
  unfold idsTo
  simp only [List.mem_map, List.mem_filter, decide_eq_true_iff, and_assoc]

theorem idsTo_append : idsTo (new ++ underway) eid = idsTo new eid ++ idsTo underway eid := by
  unfold idsTo
  rw [List.filter_append, List.map_append]

/-- What is sent to an endpoint by its device. -/
theorem idsTo_own (hown : ∀ letter ∈ new, letter.request.eid = eid) :
    idsTo new eid = new.map (·.request.instanceId) := by
  unfold idsTo
  rw [List.filter_eq_self.mpr fun letter hmem => decide_eq_true (hown letter hmem)]

theorem idsTo_of_ne {other : UInt8} (hown : ∀ letter ∈ new, letter.request.eid = eid)
    (hne : other ≠ eid) : idsTo new other = [] := by
  unfold idsTo
  rw [List.filter_eq_nil_iff.mpr]
  · rfl
  · intro letter hmem
    rw [hown letter hmem, decide_eq_true_iff]
    exact Ne.symm hne

/-- A request that was answered is underway no more, and no other one has its id. -/
theorem not_mem_idsTo_erase {letter : Letter}
    (hdistinct : (idsTo underway letter.request.eid).Nodup) (hmem : letter ∈ underway) :
    letter.request.instanceId ∉ idsTo (underway.erase letter) letter.request.eid := by
  have hperm : (idsTo underway letter.request.eid).Perm
      (letter.request.instanceId :: idsTo (underway.erase letter) letter.request.eid) := by
    have hfront := ((List.perm_cons_erase hmem).filter
      fun other => decide (other.request.eid = letter.request.eid)).map (·.request.instanceId)
    rwa [List.filter_cons, if_pos (decide_eq_true rfl)] at hfront
  exact (List.nodup_cons.mp (hperm.nodup_iff.mp hdistinct)).1

namespace Filed

variable (hfiled : Filed m latest underway)
include hfiled

theorem erase (letter : Letter) : Filed m latest (underway.erase letter) where
  distinct eid :=
    (hfiled.distinct eid).sublist (((List.erase_sublist).filter _).map _)
  inUse hrunning other hmem := hfiled.inUse hrunning other (List.mem_of_mem_erase hmem)
  own other hmem := hfiled.own other (List.mem_of_mem_erase hmem)

/-- Devices that leave wait for nothing. -/
theorem depart (houtstanding : ∀ eid, m'.outstanding eid = m.outstanding eid ∨
      m'.outstanding eid = [])
    (hinUse : m'.stopped = false → ∀ letter ∈ underway,
      letter.request.instanceId ∈ (m'.host.ids.pool letter.request.eid).allocated) :
    Filed m' latest underway where
  distinct := hfiled.distinct
  inUse := hinUse
  own letter hmem hid := by
    rcases houtstanding letter.request.eid with hsame | hnone
    · exact hfiled.own letter hmem (hsame ▸ hid)
    · rw [hnone] at hid
      exact absurd hid List.not_mem_nil

/-- A call of a device: what it sends gets ids that are not underway. -/
theorem keep {before r : DeviceRun} {sent : List SentRequest} {stranded : List UInt8}
    (hrunning : m.stopped = false) (hkeeps : m.Keeps eid r m')
    (hexchanged : before.Exchanged sent r) (heid : before.device.eid = eid)
    (hbooked : before.Booked stranded)
    (hsent : new.map (·.request) = sent)
    (hnumbers : ∀ letter ∈ new, letter.device = latest' letter.request.eid)
    (hinUse : ∀ letter ∈ underway, letter.request.eid = eid →
      letter.request.instanceId ∈ before.idsInUse)
    (hown : ∀ letter ∈ underway, letter.request.eid = eid →
      letter.request.instanceId ∈ before.device.pending.keys → letter.device = latest' eid)
    (hothers : ∀ other, other ≠ eid → latest' other = latest other ∧
      (before.host.ids.pool other).allocated = (m.host.ids.pool other).allocated) :
    Filed m' latest' (new ++ underway) := by
  have hnewEid : ∀ letter ∈ new, letter.request.eid = eid := by
    intro letter hmem
    rw [hexchanged.own letter.request (hsent ▸ List.mem_map_of_mem hmem), heid]
  have hnewIds : new.map (·.request.instanceId) = sent.map (·.instanceId) := by
    rw [← hsent, List.map_map]
    rfl
  have hpool : (m'.host.ids.pool eid).allocated =
      sent.map (·.instanceId) ++ before.idsInUse := by
    rw [hkeeps.host, ← hexchanged.allocated, DeviceRun.idsInUse, hexchanged.eid, heid]
  have hpoolOther : ∀ other, other ≠ eid →
      (m'.host.ids.pool other).allocated = (m.host.ids.pool other).allocated := by
    intro other hne
    rw [hkeeps.host, hexchanged.elsewhere other (heid ▸ hne)]
    exact (hothers other hne).2
  -- The ids of what is sent were free before.
  have hfree : (sent.map (·.instanceId) ++ before.idsInUse).Nodup := by
    rw [← hexchanged.allocated]
    exact hexchanged.nodup hbooked.nodup
  obtain ⟨hnodup, _, hapart⟩ := List.nodup_append.mp hfree
  refine ⟨fun other => ?_, fun _ letter hmem => ?_, fun letter hmem hid => ?_⟩
  · rw [idsTo_append]
    by_cases he : other = eid
    · subst he
      rw [idsTo_own hnewEid, hnewIds]
      refine List.nodup_append.mpr ⟨hnodup, hfiled.distinct other, fun id hnew id' hold => ?_⟩
      obtain ⟨letter, hmem, hto, rfl⟩ := mem_idsTo.mp hold
      exact hapart id hnew _ (hinUse letter hmem hto)
    · rw [idsTo_of_ne hnewEid he]
      exact hfiled.distinct other
  · rcases List.mem_append.mp hmem with hnew | hold
    · rw [hnewEid letter hnew, hpool, ← hnewIds]
      exact List.mem_append_left _ (List.mem_map_of_mem hnew)
    · by_cases he : letter.request.eid = eid
      · rw [he, hpool]
        exact List.mem_append_right _ (hinUse letter hold he)
      · rw [hpoolOther _ he]
        exact hfiled.inUse hrunning letter hold
  · rcases List.mem_append.mp hmem with hnew | hold
    · exact hnumbers letter hnew
    · by_cases he : letter.request.eid = eid
      · have hd : m'.devices.get? eid = some r.device := by rw [hkeeps.get?, if_pos rfl]
        rw [he, Manager.outstanding_of_found hd, hexchanged.pending hbooked.respected,
          List.mem_append, List.mem_reverse] at hid
        rw [he]
        -- The device waited for it before, or its id would be both new and underway.
        rcases hid with hpending | hsent'
        · exact hown letter hold he hpending
        · exact absurd rfl (hapart _ hsent' _ (hinUse letter hold he))
      · rw [(hothers _ he).1]
        refine hfiled.own letter hold ?_
        unfold Manager.outstanding at hid ⊢
        rwa [hkeeps.get?, if_neg he] at hid

/-- A call of a device that is there already. -/
theorem visit {d : Device} {r : DeviceRun} {sent : List SentRequest} {stranded : List UInt8}
    (hrunning : m.stopped = false) (hd : m.devices.get? eid = some d) (heid : d.eid = eid)
    (hbooked : (m.hosted d).Booked stranded) (hkeeps : m.Keeps eid r m')
    (hexchanged : (m.hosted d).Exchanged sent r) (hsent : new.map (·.request) = sent)
    (hnumbers : ∀ letter ∈ new, letter.device = latest letter.request.eid) :
    Filed m' latest (new ++ underway) := by
  refine hfiled.keep hrunning hkeeps hexchanged heid hbooked hsent hnumbers
    (fun letter hmem hto => ?_) (fun letter hmem hto hid => ?_) (fun _ _ => ⟨rfl, rfl⟩)
  · show letter.request.instanceId ∈ (m.host.ids.pool d.eid).allocated
    rw [heid, ← hto]
    exact hfiled.inUse hrunning letter hmem
  · rw [← hto]
    refine hfiled.own letter hmem ?_
    rw [hto, Manager.outstanding_of_found hd]
    exact hid

/-- The answer to a request that is underway no more. -/
theorem freed {d : Device} {r : DeviceRun} {sent : List SentRequest} {stranded : List UInt8}
    {instanceId : UInt8} (hrunning : m.stopped = false) (hd : m.devices.get? eid = some d)
    (heid : d.eid = eid) (hbooked : ((m.hosted d).freed instanceId).Booked stranded)
    (hkeeps : m.Keeps eid r m') (hexchanged : ((m.hosted d).freed instanceId).Exchanged sent r)
    (hsent : new.map (·.request) = sent)
    (hnumbers : ∀ letter ∈ new, letter.device = latest letter.request.eid)
    (hanswered : instanceId ∉ idsTo underway eid) : Filed m' latest (new ++ underway) := by
  have hother : ∀ letter ∈ underway, letter.request.eid = eid →
      letter.request.instanceId ≠ instanceId :=
    fun letter hmem hto he => hanswered (mem_idsTo.mpr ⟨letter, hmem, hto, he⟩)
  refine hfiled.keep hrunning hkeeps hexchanged heid hbooked hsent hnumbers
    (fun letter hmem hto => ?_) (fun letter hmem hto hid => ?_) (fun other hne => ⟨rfl, ?_⟩)
  · show letter.request.instanceId ∈
      ((m.host.ids.free d.eid instanceId).pool d.eid).allocated
    rw [InstanceIds.allocated_free, List.mem_filter, heid, ← hto]
    exact ⟨hfiled.inUse hrunning letter hmem, decide_eq_true (hother letter hmem hto)⟩
  · rw [← hto]
    refine hfiled.own letter hmem ?_
    change letter.request.instanceId ∈ (d.pending.erase instanceId).keys at hid
    rw [Table.keys_erase, List.mem_filter] at hid
    rw [hto, Manager.outstanding_of_found hd]
    exact hid.1
  · show ((m.host.ids.free d.eid instanceId).pool other).allocated = _
    rw [InstanceIds.pool_free_of_ne (heid ▸ hne)]

/-- The first call of a device that is new: it waits for nothing yet. -/
theorem welcome {d : Device} {r : DeviceRun} {sent : List SentRequest} {stranded : List UInt8}
    (hrunning : m.stopped = false) (heid : d.eid = eid) (hpending : d.pending = {})
    (hbooked : (m.hosted d).Booked stranded) (hkeeps : m.Keeps eid r m')
    (hexchanged : (m.hosted d).Exchanged sent r) (hsent : new.map (·.request) = sent)
    (hnumbers : ∀ letter ∈ new, letter.device = latest' letter.request.eid)
    (hlatest : ∀ other, other ≠ eid → latest' other = latest other) :
    Filed m' latest' (new ++ underway) := by
  refine hfiled.keep hrunning hkeeps hexchanged heid hbooked hsent hnumbers
    (fun letter hmem hto => ?_) (fun letter _ _ hid => ?_)
    (fun other hne => ⟨hlatest other hne, rfl⟩)
  · show letter.request.instanceId ∈ (m.host.ids.pool d.eid).allocated
    rw [heid, ← hto]
    exact hfiled.inUse hrunning letter hmem
  · change letter.request.instanceId ∈ d.pending.keys at hid
    rw [hpending] at hid
    exact absurd hid List.not_mem_nil

end Filed

/-- The requests underway after an event, if they could be told apart before.  Whatever is answered
    was underway, and nothing is underway to an endpoint that is removed. -/
theorem filed_course {event : ManagerEvent} {sent : List SentRequest}
    {stranded : UInt8 → List UInt8} (hrunning : m.stopped = false) (hseated : m.Seated)
    (hbooked : m.Booked stranded) (hcourse : m.Course event sent m')
    (hfiled : Filed m latest underway)
    (hsent : new.map (·.request) = sent)
    (hlatest : ∀ eid, latest' eid = latest eid + if m.newcomer? event = some eid then 1 else 0)
    (hnumbers : ∀ letter ∈ new, letter.device = latest' letter.request.eid)
    (hanswered : ∀ eid instanceId message, event = .response eid instanceId message →
      instanceId ∉ idsTo underway eid)
    (hremoved : ∀ eid, event = .remove eid → ∀ letter ∈ underway, letter.request.eid ≠ eid) :
    Filed m' latest' (new ++ underway) := by
  have hsettled : m.newcomer? event = none → latest' = latest := by
    intro hnone
    funext eid
    rw [hlatest, hnone]
    rfl
  have hnothing : sent = [] → new ++ underway = underway := by
    rintro rfl
    rw [List.map_eq_nil_iff.mp hsent]
    rfl
  cases hcourse with
  | unknown _ _ hnone hsame =>
    rw [hnothing rfl, hsettled hnone]
    refine hfiled.depart (fun eid => Or.inl ?_) (fun _ letter hmem => ?_)
    · unfold Manager.outstanding
      rw [hsame.devices]
    · rw [hsame.host]
      exact hfiled.inUse hrunning letter hmem
  | @welcomed setup eid tid uuid payloads folder _ r _ hnewcomer hacted hkeeps =>
    have hothers : ∀ other, other ≠ eid → latest' other = latest other := by
      intro other hne
      rw [hlatest, hnewcomer, if_neg (fun he => hne (Option.some.inj he).symm), Nat.add_zero]
    exact hfiled.welcome hrunning rfl rfl ((hbooked eid).newcomer rfl rfl) hkeeps
      hacted.toExchanged hsent hnumbers hothers
  | @refreshed eid _ _ _ d _ _ _ hd hnone hacted hkeeps =>
    obtain rfl := hsettled hnone
    have heid := hseated.endpoints eid d hd
    exact hfiled.visit hrunning hd heid ((hbooked eid).hosted hd heid) hkeeps hacted.toExchanged
      hsent hnumbers
  | @ignored eid _ _ d _ _ hd _ hacted hkeeps | @performed eid _ _ d _ _ _ hd hacted hkeeps
  | @expired eid _ d _ _ hd hacted _ hkeeps =>
    obtain rfl := hsettled rfl
    have heid := hseated.endpoints eid d hd
    exact hfiled.visit hrunning hd heid ((hbooked eid).hosted hd heid) hkeeps hacted.toExchanged
      hsent hnumbers
  | @answered eid instanceId message d _ _ _ _ hd hpending hacted hkeeps =>
    obtain rfl := hsettled rfl
    have heid := hseated.endpoints eid d hd
    exact hfiled.freed hrunning hd heid (((hbooked eid).hosted hd heid).freed hpending) hkeeps
      hacted.toExchanged hsent hnumbers (hanswered eid instanceId message rfl)
  | @removed eid _ _ _ hdevices hhost =>
    rw [hnothing rfl, hsettled rfl]
    refine hfiled.depart (fun other => ?_) (fun _ letter hmem => ?_)
    · unfold Manager.outstanding
      rw [hdevices, Table.get?_erase]
      split
      · exact Or.inr rfl
      · exact Or.inl rfl
    · rw [hhost]
      show letter.request.instanceId ∈
        ((m.host.ids.release eid).pool letter.request.eid).allocated
      rw [InstanceIds.pool_release, if_neg (hremoved eid rfl letter hmem)]
      exact hfiled.inUse hrunning letter hmem
  | stopped hdevices _ _ hstopped =>
    rw [hnothing rfl, hsettled rfl]
    refine hfiled.depart (fun other => Or.inr ?_) (fun hrunning' => ?_)
    · exact Manager.outstanding_of_absent (hdevices other)
    · cases hstopped.symm.trans hrunning'

/-! ## Histories -/

/-- What is kept in a correspondence. -/
structure Sound (p : Correspondence) : Prop where
  seated : p.history.manager.Seated
  booked : p.history.manager.Booked p.history.chronicle.stranded
  filed : Filed p.history.manager p.history.chronicle.latest p.underway

variable {config : Config} {p : Correspondence}

/-- An event keeps a correspondence sound. -/
theorem Sound.take (hsound : p.Sound) (setup : Setup) (event : ManagerEvent)
    (hanswered : ∀ eid instanceId message, event = .response eid instanceId message →
      instanceId ∉ idsTo p.underway eid)
    (hremoved : ∀ eid, event = .remove eid → p.Idle eid) : (p.take setup event).Sound where
  seated := ManagerHistory.seated_take hsound.seated setup event
  booked := ManagerHistory.booked_take hsound.seated hsound.booked setup event
  filed := by
    show Filed (p.history.take setup event).manager (p.history.take setup event).chronicle.latest
      (p.history.chronicle.lettersSince (p.history.take setup event).chronicle ++ p.underway)
    rw [ManagerHistory.lettersSince_take]
    rcases ManagerHistory.take_cases hsound.seated setup event with
      ⟨hstopped, hstep⟩ | ⟨hrunning, sent, hcourse⟩
    · have hsame : (p.history.take setup event).manager = p.history.manager := by
        rw [ManagerHistory.manager_take, hstep]
      have hlatest : (p.history.take setup event).chronicle.latest =
          p.history.chronicle.latest := by
        funext eid
        rw [ManagerHistory.latest_take, ManagerHistory.newcomer?_of_stopped hstopped]
        rfl
      rw [hsame, hlatest, ManagerHistory.sentSince_eq (List.nil_append _).symm]
      exact hsound.filed
    · rw [ManagerHistory.sentSince_eq hcourse.sent]
      refine filed_course hrunning hsound.seated hsound.booked hcourse hsound.filed ?_
        (fun eid => ManagerHistory.latest_take eid) ?_ hanswered hremoved
      · rw [List.map_map]
        exact List.map_id _
      · intro letter hmem
        obtain ⟨request, -, rfl⟩ := List.mem_map.mp hmem
        rfl

theorem Reachable.sound (hreachable : Reachable config Idle p) : p.Sound := by
  obtain ⟨disk, transport, files, hsteps⟩ := hreachable
  induction hsteps with
  | refl =>
    exact ⟨ManagerHistory.seated_opened disk transport files,
      ManagerHistory.booked_opened disk transport files,
      ⟨fun _ => List.nodup_nil, fun _ _ hmem => absurd hmem List.not_mem_nil,
        fun _ hmem => absurd hmem List.not_mem_nil⟩⟩
  | @tail p _ _ hstep ih =>
    cases hstep with
    | event codec hno hallowed =>
      refine ih.take _ _ (fun eid instanceId message he => ?_) hallowed
      subst he
      cases hno
    | @answer codec letter hmem message =>
      -- When the manager takes the response, the request is underway no more.
      have hgone := not_mem_idsTo_erase (ih.filed.distinct letter.request.eid) hmem
      have herased : Sound { p with underway := p.underway.erase letter } :=
        ⟨ih.seated, ih.booked, ih.filed.erase letter⟩
      refine herased.take _ _ (fun eid instanceId message' he => ?_)
        (fun eid he => ManagerEvent.noConfusion he)
      obtain ⟨rfl, rfl, -⟩ := ManagerEvent.response.inj he
      exact hgone

theorem wake_congr (hfolder : ∀ uuid, m'.folder uuid = m.folder uuid) (hhost : m'.host = m.host)
    (d : Device) : m'.wake d = m.wake d := by
  unfold Manager.wake
  rw [hfolder, hhost]

/-- A device that was at work and has done nothing is as it was, and so is every other one. -/
theorem atWork?_keep_wake {d : Device} (hd : m.devices.get? eid = some d) (heid : d.eid = eid)
    (other : UInt8) : (m.keep (m.wake d)).atWork? other = m.atWork? other := by
  have hfolder : ∀ uuid, (m.keep (m.wake d)).folder uuid = m.folder uuid := by
    intro uuid
    show ((m.disk.insert d.uuid (m.folder d.uuid)).get? uuid).getD {} = m.folder uuid
    rw [Table.get?_insert]
    split
    · rename_i he
      rw [he]
      rfl
    · rfl
  have hwake : (m.keep (m.wake d)).wake = m.wake := funext (wake_congr hfolder rfl)
  show ((m.devices.insert d.eid (m.wake d).device).get? other).map _ =
    (m.devices.get? other).map m.wake
  rw [Table.get?_insert, hwake]
  split
  · rename_i he
    rw [he, heid, hd]
    rfl
  · rfl

/-- In every history in which each request is answered at most once, at any time, and endpoints are
    removed only when nothing is underway to them: if the device that has sent a request is not the
    latest one at its endpoint any more, then the response, whatever it is, reaches nobody.  No
    caller is told anything, and all devices stay as they are. -/
theorem past_response_ignored (hreachable : Reachable config Idle p) {letter : Letter}
    (hmem : letter ∈ p.underway)
    (hpast : letter.device ≠ p.history.chronicle.latest letter.request.eid) (setup : Setup)
    (message : Option Bytes) :
    let m := p.history.manager
    let result := m.step setup
      (.response letter.request.eid letter.request.instanceId message)
    result.1 = [] ∧ (∀ eid, result.2.atWork? eid = m.atWork? eid) ∧
      result.2.waiters = m.waiters ∧ result.2.host = m.host := by
  have hsound := hreachable.sound
  intro m
  cases hstopped : m.stopped with
  | true =>
    rw [Manager.step_of_stopped hstopped]
    exact ⟨rfl, fun _ => rfl, rfl, rfl⟩
  | false =>
    have hstep : m.step setup (.response letter.request.eid letter.request.instanceId message) =
        m.response setup letter.request.eid letter.request.instanceId message := by
      unfold Manager.step
      rw [if_neg (by simp [hstopped])]
    rw [hstep]
    unfold Manager.response
    split
    · exact ⟨rfl, fun _ => rfl, rfl, rfl⟩
    · rename_i d hd
      -- The device does not wait for this response, so it lets it pass.
      have hstray : d.pending.get? letter.request.instanceId = none := by
        rw [Table.get?_eq_none_iff]
        intro hid
        refine hpast (hsound.filed.own letter hmem ?_)
        rwa [Manager.outstanding_of_found hd]
      have hsame : (m.wake d).handleResponse setup letter.request.instanceId message = m.wake d :=
        DeviceRun.handleResponse_of_unknown hstray message
      dsimp only
      rw [hsame]
      exact ⟨rfl, atWork?_keep_wake hd (hsound.seated.endpoints _ d hd), rfl, rfl⟩

/-- The first request to the first device at endpoint 8. -/
def pastLetter : Letter where
  request := { eid := 8, instanceId := 0, message := [128, 6, 1, 1, 19, 0] }
  device := 1
  session := some ⟨1⟩

/-- A device is found at endpoint 8, and another one takes its place. -/
def replacedCorrespondence : Correspondence :=
  takeAll { history := { manager := .opened {} {} {} } } DeviceHistory.sampleSetup
    [.discovered 8 ⟨0⟩ 1 [DeviceHistory.sampleRecord],
      .discovered 8 ⟨1⟩ 1 [DeviceHistory.sampleRecord]]

/-- The request of the replaced device is answered, and its successor goes on with its own. -/
theorem past_response_ignored_replaced :
    pastLetter ∈ replacedCorrespondence.underway ∧
    replacedCorrespondence.history.chronicle.latest 8 = 2 ∧
    ∀ message, ((replacedCorrespondence.history.manager.step DeviceHistory.sampleSetup
        (.response 8 0 message)).2.atWork? 8) =
      replacedCorrespondence.history.manager.atWork? 8 := by
  have hreachable : Reachable DeviceHistory.sampleSetup.config Idle replacedCorrespondence := by
    refine ⟨{}, {}, {}, steps_takeAll _ DeviceHistory.sampleSetup ?_ fun p eid hmem => ?_⟩
    · decide
    · simp at hmem
  have hmem : pastLetter ∈ replacedCorrespondence.underway := by decide +kernel
  have hlatest : replacedCorrespondence.history.chronicle.latest 8 = 2 := by decide +kernel
  have hpast : pastLetter.device ≠
      replacedCorrespondence.history.chronicle.latest pastLetter.request.eid := by
    show 1 ≠ replacedCorrespondence.history.chronicle.latest 8
    omega
  exact ⟨hmem, hlatest, fun message =>
    (past_response_ignored hreachable hmem hpast DeviceHistory.sampleSetup message).2.1 8⟩

/-- A device is found at endpoint 8, the endpoint is removed, and a device is found there again. -/
def removedCorrespondence : Correspondence :=
  takeAll { history := { manager := .opened {} {} {} } } DeviceHistory.sampleSetup
    [.discovered 8 ⟨0⟩ 1 [DeviceHistory.sampleRecord], .remove 8,
      .discovered 8 ⟨1⟩ 1 [DeviceHistory.sampleRecord]]

/-- It is not so that nobody minds the response to a request of a device that was removed: its
    successor has sent a request under the same instance id, and takes the response for its own.
    Here there was no response, and so it is taken for unreachable. -/
theorem past_response_misdelivered :
    Reachable DeviceHistory.sampleSetup.config (fun _ _ => True) removedCorrespondence ∧
    pastLetter ∈ removedCorrespondence.underway ∧
    pastLetter.device ≠ removedCorrespondence.history.chronicle.latest 8 ∧
    (removedCorrespondence.history.manager.devices.get? 8).map (·.state) = some .discovering ∧
    ((removedCorrespondence.answer DeviceHistory.sampleSetup pastLetter
      none).history.manager.devices.get? 8).map (·.state) = some .unreachable := by
  refine ⟨⟨{}, {}, {}, steps_takeAll _ DeviceHistory.sampleSetup ?_ fun _ _ _ => trivial⟩, ?_⟩
  · decide
  · decide +kernel

end Correspondence

end DeviceEnablement
