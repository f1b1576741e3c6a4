/-
  How many requests of a device are outstanding.

  A request is sent only when there is capacity, so the bound on what goes over the wire can be read
  off each stride (`Wired`).  That only first requests are ever held back is another matter: the
  answer to a request must leave room for the next one of the same session.  `Device.Paced` is the
  invariant that says so.  Either no more requests are outstanding than may be, or all of them are
  stale; and the sessions whose requests are in the queue have not sent anything.

  1. `room_of_taught`: an answer makes room, since its request is not stale.  The bound changes only
     with the first response of a negotiation, before which it is one.
  2. `Strode.keepsPace`: every stride keeps the pace.
  3. `Paced.senders_le`: a session that has sent a request has one outstanding, so there are no more
     such sessions than requests may be outstanding.
  4. `concurrency_respected` puts these together.
-/
import DeviceEnablement.Proofs.Device.Agreement

namespace DeviceEnablement

/-! ## The pace of a device -/

namespace Device

/-- Whether no more requests are outstanding than may be, unless all of them are stale. -/
def Bounded (d : Device) : Prop :=
  d.inFlight ≤ d.memory.metadata.effectiveConcurrency.toNat ∨
    ∀ request ∈ d.pending.values, request.generation ≠ d.generation

/-- Whether a device keeps its requests in order, when the sessions `senders` have sent theirs: each
    request in the queue is the first one of its session. -/
structure Paced (senders : List SessionId) (d : Device) : Prop where
  bounded : d.Bounded
  fresh : ∀ entry ∈ d.waiting, entry.1 ∉ senders
  opening : ∀ entry ∈ d.waiting, ∀ s, d.sessions.get? entry.1 = some s →
    s.task.isOpening = true ∧ entry.2.command = s.task.firstCommand
  queued : ∀ entry ∈ d.waiting, entry.1.value < d.nextSession
  known : ∀ id ∈ senders, id.value < d.nextSession

variable {d d' : Device} {senders : List SessionId} {id : SessionId} {s : Session}

theorem Bounded.of_same (h : d.Bounded) (hpending : d'.pending = d.pending)
    (hgeneration : d'.generation = d.generation)
    (hmetadata : d'.memory.metadata = d.memory.metadata) : d'.Bounded := by
  unfold Bounded inFlight
  rw [hpending, hgeneration, hmetadata]
  exact h

/-- A request that is answered is no longer outstanding. -/
theorem Bounded.erase (h : d.Bounded) {k : UInt8} {request : PendingRequest}
    (hk : d.pending.get? k = some request) :
    { d with pending := d.pending.erase k }.Bounded := by
  rcases h with hle | hstale
  · have hsize := Table.size_erase hk
    have hle' : d.pending.size ≤ d.memory.metadata.effectiveConcurrency.toNat := hle
    have hfewer : (d.pending.erase k).size ≤ d.memory.metadata.effectiveConcurrency.toNat := by
      omega
    exact Or.inl hfewer
  · exact Or.inr fun other hother => hstale other (Table.mem_values_of_mem_erase hother)

/-- When no new request waits, and the sessions of those that do are the same, a device keeps its
    pace. -/
theorem Paced.of_fewer (h : d.Paced senders) (hbounded : d'.Bounded)
    (hwaiting : d'.waiting ⊆ d.waiting)
    (hsessions : ∀ entry ∈ d'.waiting, ∀ s', d'.sessions.get? entry.1 = some s' →
      ∃ s, d.sessions.get? entry.1 = some s ∧ s'.task = s.task)
    (hnext : d.nextSession ≤ d'.nextSession) : d'.Paced senders where
  bounded := hbounded
  fresh entry hentry := h.fresh entry (hwaiting hentry)
  opening := by
    intro entry hentry s' hs'
    obtain ⟨s, hs, hsame⟩ := hsessions entry hentry s' hs'
    rw [hsame]
    exact h.opening entry (hwaiting hentry) s hs
  queued entry hentry := Nat.lt_of_lt_of_le (h.queued entry (hwaiting hentry)) hnext
  known other hother := Nat.lt_of_lt_of_le (h.known other hother) hnext

/-- What else a device learns or forgets takes nothing from the pace. -/
theorem Paced.of_same (h : d.Paced senders) (hbounded : d'.Bounded)
    (hwaiting : d'.waiting ⊆ d.waiting) (hsessions : d'.sessions = d.sessions)
    (hnext : d.nextSession ≤ d'.nextSession) : d'.Paced senders :=
  h.of_fewer hbounded hwaiting (fun _ _ s hs => ⟨s, hsessions ▸ hs, rfl⟩) hnext

/-- A session that is forgotten takes nothing from the pace. -/
theorem Paced.of_erase (h : d.Paced senders) (hbounded : d'.Bounded)
    (hwaiting : d'.waiting ⊆ d.waiting) (hsessions : d'.sessions = d.sessions.erase id)
    (hnext : d'.nextSession = d.nextSession) : d'.Paced senders := by
  refine h.of_fewer hbounded hwaiting (fun entry _ s' hs' => ?_) (Nat.le_of_eq hnext.symm)
  rw [hsessions] at hs'
  exact ⟨s', (Table.of_get?_erase hs').2, rfl⟩

/-- A session that has no request in the queue may be put in place of another. -/
theorem Paced.keep (h : d.Paced senders) (hbounded : d'.Bounded)
    (hwaiting : d'.waiting ⊆ d.waiting) (hfree : ∀ entry ∈ d'.waiting, entry.1 ≠ id)
    (hsessions : d'.sessions = d.sessions.insert id s)
    (hnext : d.nextSession ≤ d'.nextSession) : d'.Paced senders := by
  refine h.of_fewer hbounded hwaiting (fun entry hentry s' hs' => ?_) hnext
  rw [hsessions, Table.get?_insert, if_neg (hfree entry hentry)] at hs'
  exact ⟨s', hs', rfl⟩

/-- When everything is cancelled, all requests are stale and nothing waits. -/
theorem Paced.clear (h : d.Paced senders) (hcoherent : d.Coherent none)
    (hpending : d'.pending = d.pending) (hgeneration : d'.generation = d.generation + 1)
    (hwaiting : d'.waiting = []) (hnext : d'.nextSession = d.nextSession) : d'.Paced senders := by
  have hbounded : d'.Bounded := by
    refine Or.inr fun request hrequest => ?_
    rw [hpending] at hrequest
    have hle := hcoherent.generations request hrequest
    omega
  refine h.of_fewer hbounded ?_ (fun entry hentry => ?_) (Nat.le_of_eq hnext.symm)
  · rw [hwaiting]
    exact List.nil_subset _
  · rw [hwaiting] at hentry
    cases hentry

/-- A session without requests in the queue is behind none of them. -/
theorem ne_of_queuedOf_eq_zero (h : d.queuedOf id = 0) : ∀ entry ∈ d.waiting, entry.1 ≠ id := by
  rintro entry hentry rfl
  have hpos := queuedOf_pos hentry
  omega

/-- A session that has sent a request waits for the response to one. -/
theorem Paced.outstanding (h : d.Paced senders) (hcoherent : d.Coherent none)
    (hs : d.sessions.get? id = some s) (hsender : id ∈ senders) :
    ∃ request ∈ d.pending.values, request.session = id ∧ request.generation = d.generation := by
  have hone := (hcoherent.of_found hs).1
  have hnone : d.queuedOf id = 0 := by
    refine List.countP_eq_zero.mpr fun entry hentry hown => ?_
    rw [← of_decide_eq_true hown] at hsender
    exact h.fresh entry hentry hsender
  have hpos : 0 < d.outstandingOf id := by omega
  obtain ⟨request, hrequest, hown⟩ := List.countP_pos_iff.mp hpos
  rw [Bool.and_eq_true] at hown
  exact ⟨request, hrequest, of_decide_eq_true hown.1, of_decide_eq_true hown.2⟩

/-- No more sessions have sent a request than may be outstanding. -/
theorem Paced.senders_le (h : d.Paced senders) (hcoherent : d.Coherent none) :
    (d.sessions.keys.filter (· ∈ senders)).length ≤
      d.memory.metadata.effectiveConcurrency.toNat := by
  have houtstanding : ∀ id ∈ d.sessions.keys.filter (· ∈ senders), ∃ request ∈ d.pending.values,
      request.session = id ∧ request.generation = d.generation := by
    intro id hid
    obtain ⟨hkey, hsender⟩ := List.mem_filter.mp hid
    obtain ⟨s, hs⟩ := (d.sessions.mem_keys_iff id).mp hkey
    exact h.outstanding hcoherent hs (of_decide_eq_true hsender)
  rcases h.bounded with hle | hstale
  · have hsubset : d.sessions.keys.filter (· ∈ senders) ⊆ d.pending.values.map (·.session) := by
      intro id hid
      obtain ⟨request, hrequest, hown, -⟩ := houtstanding id hid
      exact List.mem_map.mpr ⟨request, hrequest, hown⟩
    have hcount := ((d.sessions.nodup.filter _).subperm hsubset).length_le
    rw [List.length_map] at hcount
    have hvalues : d.pending.values.length = d.inFlight := List.length_map ..
    exact Nat.le_trans hcount (hvalues ▸ hle)
  · have hempty : d.sessions.keys.filter (· ∈ senders) = [] := by
      refine List.eq_nil_iff_forall_not_mem.mpr fun id hid => ?_
      obtain ⟨request, hrequest, -, hcurrent⟩ := houtstanding id hid
      exact hstale request hrequest hcurrent
    rw [hempty]
    exact Nat.zero_le _

end Device

namespace DeviceRun

variable {r r₁ r₂ r' : DeviceRun} {senders : List SessionId} {sender : Option SessionId}
  {id : SessionId} {s : Session} {out : Outgoing} {outcome : Except Failure SessionOutput}

/-! ## What goes over the wire -/

/-- What goes over the wire between two runs: nothing, or one request, of the session `id`.  It is
    sent when there is capacity, and after that nothing changes but the state of the device. -/
inductive Wired (r : DeviceRun) : Option SessionId → DeviceRun → Prop
  | quiet {r' : DeviceRun} (same : r'.host.transport.sent = r.host.transport.sent) :
      Wired r none r'
  | sent {r₁ r₂ r' : DeviceRun} {id : SessionId} {out : Outgoing}
      (before : r₁.host.transport.sent = r.host.transport.sent)
      (capacity : r₁.device.hasCapacity = true) (sent : Sent r₁ id out r₂)
      (host : r'.host = r₂.host)
      (after : r'.device = { r₂.device with state := r'.device.state }) : Wired r (some id) r'

namespace Wired

theorem of_quiet (h : Wired r₁ sender r')
    (hquiet : r₁.host.transport.sent = r.host.transport.sent) : Wired r sender r' := by
  cases h with
  | quiet hsame => exact .quiet (hsame.trans hquiet)
  | sent hbefore hcapacity hsent hhost hafter =>
    exact .sent (hbefore.trans hquiet) hcapacity hsent hhost hafter

/-- The state of a device does not matter. -/
theorem of_state (h : Wired r sender r') (state : DeviceState) :
    Wired r sender { r' with device.state := state } := by
  cases h with
  | quiet hsame => exact .quiet hsame
  | sent hbefore hcapacity hsent hhost hafter =>
    refine .sent hbefore hcapacity hsent hhost ?_
    rw [hafter]

/-- After a request was sent, no more are outstanding than may be. -/
theorem bounded (h : Wired r (some id) r') :
    r'.device.inFlight ≤ r'.device.memory.metadata.effectiveConcurrency.toNat := by
  cases h with
  | @sent r₁ r₂ _ _ _ _ hcapacity hsent _ hafter =>
    have hroom : r₁.device.pending.size <
        r₁.device.memory.metadata.effectiveConcurrency.toNat := of_decide_eq_true hcapacity
    rw [hafter]
    show r₂.device.pending.size ≤ r₂.device.memory.metadata.effectiveConcurrency.toNat
    cases hsent
    exact Nat.le_trans (Table.size_insert_le ..) hroom

/-- A request that was sent is outstanding. -/
theorem outstanding (h : Wired r (some id) r') :
    ∃ request ∈ r'.device.pending.values, request.session = id ∧
      request.generation = r'.device.generation := by
  cases h with
  | @sent r₁ r₂ _ _ out _ _ hsent _ hafter =>
    rw [hafter]
    show ∃ request ∈ r₂.device.pending.values, request.session = id ∧
      request.generation = r₂.device.generation
    cases hsent with
    | @intro instanceId _ _ _ _ _ _ =>
      let request : PendingRequest :=
        { session := id, generation := r₁.device.generation, command := out.command }
      have hfound : (r₁.device.pending.insert instanceId request).get? instanceId =
          some request := by
        rw [Table.get?_insert, if_pos rfl]
      exact ⟨request, Table.mem_values hfound, rfl, rfl⟩

/-- The log writes down who has sent a request. -/
theorem sender?_eq (h : Wired r sender r') : r.sender? r' = sender := by
  unfold sender?
  cases h with
  | quiet hsame => rw [hsame, if_pos rfl]
  | @sent r₁ r₂ _ id out hbefore _ hsent hhost hafter =>
    cases hsent with
    | @intro instanceId ids message transport _ _ haccepted =>
      have hpending : r'.device.pending = r₁.device.pending.insert instanceId
          { session := id, generation := r₁.device.generation, command := out.command } := by
        rw [hafter]
      have hsent : r'.host.transport.sent =
          { eid := r₁.device.eid, instanceId, message } :: r₁.host.transport.sent := by
        rw [hhost]
        exact Transport.sent_of_accepted haccepted
      rw [hsent, hbefore, List.length_cons, if_neg (Nat.succ_ne_self _), List.head?_cons,
        Option.bind_some, hpending, Table.get?_insert, if_pos rfl]
      rfl

end Wired

/-! ## Keeping the pace -/

/-- Whether a device keeps its pace from `r` to `r'`, whatever went over the wire. -/
def KeepsPace (senders : List SessionId) (r r' : DeviceRun) : Prop :=
  ∃ sender, Wired r sender r' ∧ r'.device.Paced (sender.toList ++ senders)

/-- What sends nothing. -/
theorem keepsPace_of_quiet (hquiet : r'.host.transport.sent = r.host.transport.sent)
    (hpaced : r'.device.Paced senders) : KeepsPace senders r r' :=
  ⟨none, .quiet hquiet, hpaced⟩

theorem KeepsPace.of_quiet (h : KeepsPace senders r₁ r')
    (hquiet : r₁.host.transport.sent = r.host.transport.sent) : KeepsPace senders r r' := by
  obtain ⟨sender, hwired, hpaced⟩ := h
  exact ⟨sender, hwired.of_quiet hquiet, hpaced⟩

theorem KeepsPace.of_state (h : KeepsPace senders r r') (state : DeviceState) :
    KeepsPace senders r { r' with device.state := state } := by
  obtain ⟨sender, hwired, hpaced⟩ := h
  exact ⟨sender, hwired.of_state state,
    hpaced.of_same hpaced.bounded (List.Subset.refl _) rfl (Nat.le_refl _)⟩

theorem Steady.paced (h : Steady r r') (hpaced : r.device.Paced senders) :
    r'.device.Paced senders := by
  have hwaiting : r'.device.waiting ⊆ r.device.waiting := by
    rw [h.waiting]
    exact List.Subset.refl _
  exact hpaced.of_same (hpaced.bounded.of_same h.pending h.generation h.metadata) hwaiting
    h.sessions h.next

/-- A request that is placed keeps the pace if its session has no other in the queue, and if it is the
    first one or there is capacity. -/
theorem Placed.keepsPace (h : Placed r id out r') (hpaced : r.device.Paced senders)
    (hfree : ∀ entry ∈ r.device.waiting, entry.1 ≠ id) (hknown : id.value < r.device.nextSession)
    (hfirst : r.device.hasCapacity = false → id ∉ senders ∧
      ∀ s, r.device.sessions.get? id = some s →
        s.task.isOpening = true ∧ out.command = s.task.firstCommand) :
    KeepsPace senders r r' := by
  cases h with
  | sent hcapacity hsent =>
    have hwired : Wired r (some id) r' := .sent rfl hcapacity hsent rfl rfl
    have hbounded := hwired.bounded
    refine ⟨some id, hwired, ?_⟩
    cases hsent
    refine ⟨Or.inl hbounded, fun entry hentry => ?_, hpaced.opening, hpaced.queued,
      List.forall_mem_cons.mpr ⟨hknown, hpaced.known⟩⟩
    intro hsender
    rcases List.mem_cons.mp hsender with hown | hother
    · exact hfree entry hentry hown
    · exact hpaced.fresh entry hentry hother
  | queued hfull =>
    obtain ⟨hnew, hopening⟩ := hfirst hfull
    refine keepsPace_of_quiet rfl ⟨hpaced.bounded, ?_, ?_, ?_, hpaced.known⟩
    · exact List.forall_mem_append.mpr ⟨hpaced.fresh, List.forall_mem_singleton.mpr hnew⟩
    · exact List.forall_mem_append.mpr ⟨hpaced.opening, List.forall_mem_singleton.mpr hopening⟩
    · exact List.forall_mem_append.mpr ⟨hpaced.queued, List.forall_mem_singleton.mpr hknown⟩

/-- A session that begins has a number that nobody had. -/
theorem Launched.keepsPace {stage : DeviceState} (h : Launched r stage (.ok id, r'))
    (hpaced : r.device.Paced senders) : KeepsPace senders r r' := by
  cases h with
  | @placed s memory out _ _ _ hopening hcommand hmetadata hplaced =>
    have hfree : ∀ entry ∈ r.device.waiting, entry.1 ≠ r.newId := by
      rintro entry hentry hown
      have hlt := hpaced.queued entry hentry
      rw [hown] at hlt
      exact Nat.lt_irrefl _ hlt
    have hkept : ((r.begun memory).keepSession r.newId s).device.Paced senders :=
      hpaced.keep (hpaced.bounded.of_same rfl rfl hmetadata) (List.Subset.refl _) hfree rfl
        (Nat.le_succ _)
    have hbegun := hplaced.keepsPace hkept hfree (Nat.lt_succ_self _) fun _ => by
      refine ⟨fun hsender => Nat.lt_irrefl _ (hpaced.known _ hsender), fun s' hs' => ?_⟩
      have hfound : ((r.begun memory).keepSession r.newId s).device.sessions.get? r.newId =
          some s := by
        show (r.device.sessions.insert r.newId s).get? r.newId = some s
        rw [Table.get?_insert, if_pos rfl]
      rw [← Option.some.inj (hfound.symm.trans hs')]
      exact ⟨hopening, hcommand⟩
    exact hbegun.of_quiet rfl

theorem Fetched.keepsPace (h : Fetched r r') (hpaced : r.device.Paced senders) :
    KeepsPace senders r r' := by
  cases h with
  | @idle r₁ hsteady =>
    have hpaced₁ := hsteady.paced hpaced
    exact keepsPace_of_quiet hsteady.host.sent
      (hpaced₁.of_same hpaced₁.bounded (List.Subset.refl _) rfl (Nat.le_refl _))
  | begun hsteady hlaunched =>
    exact ((hlaunched.keepsPace (hsteady.paced hpaced)).of_quiet hsteady.host.sent).of_state .busy

theorem Aftermath.keepsPace (h : Aftermath r outcome r') (hpaced : r.device.Paced senders) :
    KeepsPace senders r r' := by
  cases h with
  | reported => exact keepsPace_of_quiet rfl hpaced
  | rejected => exact (keepsPace_of_quiet rfl hpaced).of_state _
  | negotiated _ _ hfetched =>
    have hserved : r.served.device.Paced senders :=
      hpaced.of_same hpaced.bounded (List.Subset.refl _) rfl (Nat.le_refl _)
    exact (hfetched.keepsPace hserved).of_quiet rfl
  | fetched _ hfetched => exact hfetched.keepsPace hpaced

/-! ### Answers -/

section Answers

variable {instanceId : UInt8} {request : PendingRequest} {body : Except Failure Bytes}
  (hpending : r.device.pending.get? instanceId = some request)
  (hcurrent : request.generation = r.device.generation)
  (hs : r.device.sessions.get? request.session = some s)
include hpending hcurrent hs

/-- The answer to a request that is not stale leaves room for another request, whatever it teaches.
    The first response of a negotiation may lower the bound, but before it the bound is one, so that
    its request was the only one. -/
theorem room_of_taught (hbounded : r.device.Bounded) (hinformed : r.device.Informed)
    {bytes : Bytes} {result : Except Failure Step} {task' : SessionTask} {m' : Metadata}
    (htaught : SessionTask.Taught r.device.memory.metadata bytes s.task result task' m') :
    (r.device.pending.erase instanceId).size < m'.effectiveConcurrency.toNat := by
  have hle : r.device.pending.size ≤ r.device.memory.metadata.effectiveConcurrency.toNat :=
    hbounded.resolve_right fun hstale => hstale request (Table.mem_values hpending) hcurrent
  have hsize := Table.size_erase hpending
  by_cases hfirst : s.task = .negotiation .redfish
  · have hnone : r.device.memory.metadata.HasNone MetadataKey.negotiated :=
      hinformed.phases _ s .redfish hs hfirst
    have hone := Metadata.effectiveConcurrency_of_hasNone fun key hkey =>
      hnone key (List.mem_append_left _ hkey)
    rw [hone] at hle
    have hsingle : r.device.pending.size ≤ 1 := hle
    have hroom := m'.one_le_effectiveConcurrency
    omega
  · rw [htaught.effectiveConcurrency_eq hfirst]
    omega

/-- When a session ends because of an answer, the bound is kept. -/
theorem bounded_of_learned (hbounded : r.device.Bounded) (hinformed : r.device.Informed)
    {memory : DeviceMemory}
    (hlearned : Learned r.device.memory.metadata body s.task outcome memory.metadata)
    {d : Device} (hd : d.pending = r.device.pending.erase instanceId)
    (hgeneration : d.generation = r.device.generation) (hmemory : d.memory = memory) :
    d.Bounded := by
  generalize hm : memory.metadata = m' at hlearned
  cases hlearned with
  | nothing =>
    have hfreed := hbounded.erase hpending
    exact hfreed.of_same hd hgeneration (by rw [hmemory, hm])
  | taught _ htaught =>
    have hroom := room_of_taught hpending hcurrent hs hbounded hinformed htaught
    refine Or.inl ?_
    unfold Device.inFlight
    rw [hd, hmemory, hm]
    exact Nat.le_of_lt hroom

end Answers

theorem Settled.keepsPace {instanceId : UInt8} {request : PendingRequest}
    {body : Except Failure Bytes} (hpending : r.device.pending.get? instanceId = some request)
    (h : Settled (r.freed instanceId) request body r') (hpaced : r.device.Paced senders)
    (hcoherent : r.device.Coherent none) (hinformed : r.device.Informed) :
    KeepsPace senders r r' := by
  have hfreed : (r.freed instanceId).device.Paced senders :=
    hpaced.of_same (hpaced.bounded.erase hpending) (List.Subset.refl _) rfl (Nat.le_refl _)
  -- The session of a request that was outstanding has none in the queue.
  have hfree : request.generation = r.device.generation →
      ∀ entry ∈ r.device.waiting, entry.1 ≠ request.session := by
    intro hcurrent
    have hhole := hcoherent.freed hpending
    rw [if_pos hcurrent] at hhole
    exact Device.ne_of_queuedOf_eq_zero (hhole.vacant _ rfl).2
  have hquiet : (r.freed instanceId).host.transport.sent = r.host.transport.sent := rfl
  refine KeepsPace.of_quiet ?_ hquiet
  cases h with
  | ignored => exact keepsPace_of_quiet rfl hfreed
  | late =>
    exact keepsPace_of_quiet rfl
      (hfreed.of_erase hfreed.bounded (List.Subset.refl _) rfl rfl)
  | @continued s s' bytes memory out _ hcurrent hs _ _ htaught _ hplaced =>
    have hroom := room_of_taught hpending hcurrent hs hpaced.bounded hinformed htaught
    have hknown : request.session.value < r.device.nextSession := hcoherent.numbers _ s hs
    have hkept : (({ r.freed instanceId with device.memory := memory } :
        DeviceRun).keepSession request.session s').device.Paced senders :=
      hfreed.keep (Or.inl (Nat.le_of_lt hroom)) (List.Subset.refl _) (hfree hcurrent) rfl
        (Nat.le_refl _)
    have hcapacity : (({ r.freed instanceId with device.memory := memory } :
        DeviceRun).keepSession request.session s').device.hasCapacity = true :=
      decide_eq_true hroom
    refine (hplaced.keepsPace hkept (hfree hcurrent) hknown fun hfull => ?_).of_quiet rfl
    rw [hcapacity] at hfull
    cases hfull
  | @ended s memory host _ _ hcurrent hs _ hlearned halike haftermath =>
    have hbounded := bounded_of_learned hpending hcurrent hs hpaced.bounded hinformed hlearned
      (d := (({ r.freed instanceId with host, device.memory := memory } :
        DeviceRun).dropSession request.session).device) rfl rfl rfl
    have hdropped := hfreed.of_erase hbounded (List.Subset.refl _) rfl rfl
    exact (haftermath.keepsPace hdropped).of_quiet halike.sent

/-! ### Rounds and calls -/

theorem Rounded.keepsPace (h : Rounded r r') (hpaced : r.device.Paced senders)
    (hcoherent : r.device.Coherent none) : KeepsPace senders r r' := by
  have hpopped : ∀ {entry : SessionId × Outgoing} {rest : List (SessionId × Outgoing)},
      r.device.waiting = entry :: rest → rest ⊆ r.device.waiting := by
    intro entry rest hw
    rw [hw]
    exact List.subset_cons_self ..
  have hsame : ∀ {rest : List (SessionId × Outgoing)}, rest ⊆ r.device.waiting →
      ({ r with device.waiting := rest } : DeviceRun).device.Paced senders :=
    fun hrest => hpaced.of_same hpaced.bounded hrest rfl (Nat.le_refl _)
  cases h with
  | resting => exact keepsPace_of_quiet rfl hpaced
  | skipped hw => exact keepsPace_of_quiet rfl (hsame (hpopped hw))
  | @released _ id out rest s hcapacity hw hs _ hsent =>
    have hknown : id.value < r.device.nextSession := hcoherent.numbers id s hs
    have hfree : ∀ entry ∈ rest, entry.1 ≠ id :=
      Device.ne_of_queuedOf_eq_zero ((hcoherent.pop hw).vacant id rfl).2
    have hplaced : Placed { r with device.waiting := rest } id out r' := .sent hcapacity hsent
    refine (hplaced.keepsPace (hsame (hpopped hw)) hfree hknown fun hfull => ?_).of_quiet rfl
    have hfull' : r.device.hasCapacity = false := hfull
    rw [hcapacity] at hfull'
    cases hfull'
  | @unsent _ id out rest s host _ hw hs _ halike haftermath =>
    have hdropped : (({ r with host, device.waiting := rest } : DeviceRun).dropSession
        id).device.Paced senders := hpaced.of_erase hpaced.bounded (hpopped hw) rfl rfl
    exact (haftermath.keepsPace hdropped).of_quiet halike.sent

theorem Renewed.keepsPace (h : Renewed r r') (hpaced : r.device.Paced senders)
    (hcoherent : r.device.Coherent none) : KeepsPace senders r r' := by
  have hcleared : ∀ registry, (r.cleared registry).device.Paced senders :=
    fun registry => hpaced.clear hcoherent rfl rfl rfl rfl
  cases h with
  | @unready registry r₁ hsteady =>
    have hpaced₁ := keepsPace_of_quiet hsteady.host.sent (hsteady.paced (hcleared registry))
    exact (hpaced₁.of_state .notReady).of_quiet rfl
  | @negotiating registry r₁ r₂ _ hsteady hlaunched =>
    have hpaced₁ := hsteady.paced (hcleared registry)
    have hturned : ({ r₁ with device.state := .discovering } : DeviceRun).device.Paced senders :=
      hpaced₁.of_same hpaced₁.bounded (List.Subset.refl _) rfl (Nat.le_refl _)
    exact (hlaunched.keepsPace hturned).of_quiet hsteady.host.sent

theorem Abandoned.paced {state : SessionState} {result : Bool × DeviceRun}
    (h : Abandoned r id state result) (hpaced : r.device.Paced senders) :
    result.2.device.Paced senders := by
  have hwithdrawn : (r.withdrawn id).device.waiting ⊆ r.device.waiting :=
    List.filter_subset_self _
  cases h with
  | ended => exact hpaced
  | marked =>
    refine hpaced.keep hpaced.bounded hwithdrawn (fun entry hentry => ?_) rfl (Nat.le_refl _)
    exact of_decide_eq_true (List.mem_filter.mp hentry).2
  | forgotten => exact hpaced.of_erase hpaced.bounded hwithdrawn rfl rfl

/-! ### The bound while operations run -/

/-- Without a negotiation that has just begun, answers do not change how many requests may be
    outstanding. -/
theorem Settled.effectiveConcurrency_eq {request : PendingRequest} {body : Except Failure Bytes}
    (h : Settled r request body r')
    (hlater : ∀ id s, r.device.sessions.get? id = some s → s.task ≠ .negotiation .redfish) :
    r'.device.memory.metadata.effectiveConcurrency =
      r.device.memory.metadata.effectiveConcurrency := by
  cases h with
  | ignored => rfl
  | late => rfl
  | continued _ hs _ _ htaught _ hplaced =>
    have hmetadata := congrArg Metadata.effectiveConcurrency hplaced.sameCourse.metadata
    exact hmetadata.trans (htaught.effectiveConcurrency_eq (hlater _ _ hs))
  | @ended s memory _ _ _ _ hs _ hlearned _ haftermath =>
    refine (congrArg Metadata.effectiveConcurrency haftermath.terms.2.1).trans ?_
    show memory.metadata.effectiveConcurrency = _
    generalize memory.metadata = m' at hlearned
    cases hlearned with
    | nothing => rfl
    | taught _ htaught => exact htaught.effectiveConcurrency_eq (hlater _ _ hs)

theorem Rounded.metadata_eq (h : Rounded r r') :
    r'.device.memory.metadata = r.device.memory.metadata := by
  cases h with
  | resting => rfl
  | skipped => rfl
  | released _ _ _ _ hsent => exact hsent.sameCourse.metadata
  | unsent _ _ _ _ haftermath => exact haftermath.terms.2.1

end DeviceRun

namespace DeviceHistory

variable {h h' : DeviceHistory} {senders : List SessionId}

theorem Called.keepsPace (hcalled : Called h h') (hpaced : h.run.device.Paced senders)
    (hcoherent : h.run.device.Coherent none) : DeviceRun.KeepsPace senders h.run h'.run := by
  cases hcalled with
  | steady hsteady =>
    exact DeviceRun.keepsPace_of_quiet hsteady.host.sent (hsteady.paced hpaced)
  | disabled =>
    exact DeviceRun.keepsPace_of_quiet rfl (hpaced.clear hcoherent rfl rfl rfl rfl)
  | renewed hrenewed => exact hrenewed.keepsPace hpaced hcoherent
  | operating _ hsteady hlaunched =>
    exact (hlaunched.keepsPace (hsteady.paced hpaced)).of_quiet hsteady.host.sent
  | abandoned _ habandoned =>
    refine DeviceRun.keepsPace_of_quiet ?_ (habandoned.paced hpaced)
    cases habandoned <;> rfl

/-- Every stride keeps the pace. -/
theorem Strode.keepsPace {answer : Option Answer} (hstrode : Strode h answer h')
    (hpaced : h.run.device.Paced senders) (hcoherent : h.run.device.Coherent none)
    (hinformed : h.run.device.Informed) : DeviceRun.KeepsPace senders h.run h'.run := by
  cases hstrode with
  | called hcalled => exact hcalled.keepsPace hpaced hcoherent
  | settled hpending hsettled => exact hsettled.keepsPace hpending hpaced hcoherent hinformed
  | rounded hrounded => exact hrounded.keepsPace hpaced hcoherent

/-- A call after which the device is ready changes no terms. -/
theorem Called.metadata_eq (hcalled : Called h h') (hready : h'.run.device.state = .ready) :
    h'.run.device.memory.metadata = h.run.device.memory.metadata := by
  cases hcalled with
  | steady hsteady => exact hsteady.metadata
  | disabled => cases hready
  | renewed hrenewed =>
    cases hrenewed with
    | unready => cases hready
    | negotiating _ hlaunched =>
      obtain ⟨_, -, -, -, hbegins⟩ := hlaunched.begins
      cases hbegins.state.symm.trans hready
  | operating _ hsteady hlaunched =>
    obtain ⟨_, -, -, -, hbegins⟩ := hlaunched.begins
    exact hbegins.metadata.trans hsteady.metadata
  | abandoned _ habandoned => cases habandoned <;> rfl

/-- While a device is ready, it does not change how many requests may be outstanding. -/
theorem Strode.effectiveConcurrency_eq {answer : Option Answer} (hstrode : Strode h answer h')
    (hstaged : h.run.device.Staged) (hready : h.run.device.state = .ready)
    (hready' : h'.run.device.state = .ready) :
    h'.run.device.memory.metadata.effectiveConcurrency =
      h.run.device.memory.metadata.effectiveConcurrency := by
  have hlater : ∀ id s, h.run.device.sessions.get? id = some s →
      s.task ≠ .negotiation .redfish := by
    intro id s hs htask
    have hstage := (hstaged.stage id s hs).trans hready
    rw [htask] at hstage
    cases hstage
  cases hstrode with
  | called hcalled => exact congrArg _ (hcalled.metadata_eq hready')
  | settled _ hsettled =>
    have hkept := hsettled.effectiveConcurrency_eq hlater
    exact hkept
  | rounded hrounded => exact congrArg _ hrounded.metadata_eq

end DeviceHistory

/-! ## Results -/

namespace DeviceLog

variable {config : Config} {host : Host} {l l' : DeviceLog} {id : SessionId} {s : Session}

/-- What each stride of a log sends, and who has sent it. -/
theorem Reachable.keepsPace (hreachable : Reachable config DeviceRun.Respected host l)
    (hpaced : l.run.device.Paced l.senders) (codec : Codec) (stride : Stride) :
    ∃ sender, (l.take { config, codec } stride).senders = sender.toList ++ l.senders ∧
      DeviceRun.Wired l.run sender (l.take { config, codec } stride).run ∧
      (l.take { config, codec } stride).run.device.Paced
        (l.take { config, codec } stride).senders := by
  have hstrode := hreachable.strode { config, codec } stride
  obtain ⟨sender, hwired, hpaced'⟩ :=
    hstrode.keepsPace hpaced hreachable.sound.coherent hreachable.informed
  have hsenders : (l.take { config, codec } stride).senders = sender.toList ++ l.senders :=
    congrArg (fun sender : Option SessionId => sender.toList ++ l.senders) hwired.sender?_eq
  exact ⟨sender, hsenders, hwired, hsenders ▸ hpaced'⟩

theorem Reachable.paced (hreachable : Reachable config DeviceRun.Respected host l) :
    l.run.device.Paced l.senders := by
  refine hreachable.invariant (P := fun l => l.run.device.Paced l.senders) ?_ ?_ fun _ _ _ hpaced =>
    hpaced
  · intro setup eid tid uuid payloads folder
    refine ⟨Or.inl (Nat.zero_le _), ?_, ?_, ?_, ?_⟩ <;>
      exact fun _ hnothing => absurd hnothing List.not_mem_nil
  · intro l codec stride hl hpaced
    obtain ⟨_, -, -, hpaced'⟩ := hl.keepsPace hpaced codec stride
    exact hpaced'

/-- When one request may be outstanding, there is one session at the most that has sent one. -/
theorem Reachable.sender_unique (hreachable : Reachable config DeviceRun.Respected host l)
    (hone : l.run.device.memory.metadata.effectiveConcurrency = 1) {other : SessionId}
    (hid : id ∈ l.run.device.sessions.keys) (hsender : id ∈ l.senders)
    (hother : other ∈ l.run.device.sessions.keys) (hsender' : other ∈ l.senders) : other = id := by
  refine Decidable.byContradiction fun hne => ?_
  have hle := hreachable.paced.senders_le hreachable.sound.coherent
  have hpair : [other, id] ⊆ l.run.device.sessions.keys.filter (· ∈ l.senders) := by
    refine List.forall_mem_cons.mpr ⟨?_, List.forall_mem_singleton.mpr ?_⟩
    · exact List.mem_filter.mpr ⟨hother, decide_eq_true hsender'⟩
    · exact List.mem_filter.mpr ⟨hid, decide_eq_true hsender⟩
  have hnodup : [other, id].Nodup := List.nodup_cons.mpr
    ⟨fun hmem => hne (List.mem_singleton.mp hmem), List.nodup_singleton id⟩
  have hcount := (hnodup.subperm hpair).length_le
  rw [hone] at hle
  have hcontra : 2 ≤ 1 := Nat.le_trans hcount hle
  exact absurd hcontra (by decide)

/-- Whether one request may be outstanding, and the operation `id` is under way. -/
structure Occupied (l : DeviceLog) (id : SessionId) : Prop where
  one : l.run.device.memory.metadata.effectiveConcurrency = 1
  sender : id ∈ l.senders
  found : ∃ s, l.run.device.sessions.get? id = some s ∧ s.task.isOperation = true

/-- A device on which an operation runs is ready. -/
theorem Reachable.ready_of_operation (hreachable : Reachable config DeviceRun.Respected host l)
    (hs : l.run.device.sessions.get? id = some s) (hoperation : s.task.isOperation = true) :
    l.run.device.state = .ready := by
  rw [SessionTask.isOperation_eq, hreachable.staged.stage id s hs] at hoperation
  exact of_decide_eq_true hoperation

/-- While an operation is under way, a step sends nothing for anybody else. -/
theorem Reachable.occupied_step (hreachable : Reachable config DeviceRun.Respected host l)
    (hoccupied : l.Occupied id) (hstep : Step config DeviceRun.Respected l l')
    (hthere : (l'.run.device.sessions.get? id).isSome = true) :
    l'.Occupied id ∧ ∃ new, l'.senders = new ++ l.senders ∧ ∀ other ∈ new, other = id := by
  obtain ⟨hone, hsender, s, hs, hoperation⟩ := hoccupied
  obtain ⟨s', hs'⟩ := Option.isSome_iff_exists.mp hthere
  have hreached : Reachable config DeviceRun.Respected host l' := hreachable.steps (.single hstep)
  have ho := hreachable.balanced.orderly
  obtain ⟨s₀, hs₀, hkind⟩ :=
    (Steps.since ho (.single hstep)).tasks id s' hs' (ho.numbers id s hs)
  obtain rfl := Option.some.inj (hs₀.symm.trans hs)
  have hoperation' : s'.task.isOperation = true := hkind.trans hoperation
  cases hstep with
  | elsewhere =>
    exact ⟨⟨hone, hsender, s', hs', hoperation'⟩, [], rfl,
      fun _ hnothing => absurd hnothing List.not_mem_nil⟩
  | taken codec stride =>
    have hkept := (hreachable.strode { config, codec } stride).effectiveConcurrency_eq
      hreachable.staged (hreachable.ready_of_operation hs hoperation)
      (hreached.ready_of_operation hs' hoperation')
    have hone' : (l.take { config, codec } stride).run.device.memory.metadata.effectiveConcurrency
        = 1 := Eq.trans hkept hone
    obtain ⟨sender, hsenders, hwired, -⟩ := hreachable.keepsPace hreachable.paced codec stride
    have hsender' : id ∈ (l.take { config, codec } stride).senders := by
      rw [hsenders]
      exact List.mem_append_right _ hsender
    refine ⟨⟨hone', hsender', s', hs', hoperation'⟩, sender.toList, hsenders, ?_⟩
    intro other hother
    -- Whoever has sent a request is still there, and so is the operation.
    obtain rfl : sender = some other := Option.mem_toList.mp hother
    obtain ⟨request, hrequest, rfl, hcurrent⟩ := hwired.outstanding
    obtain ⟨t, ht⟩ := hreached.sound.coherent.found_of_pending hrequest hcurrent
    refine hreached.sender_unique hone' ?_ hsender' ?_ ?_
    · exact (Table.mem_keys_iff _ _).mpr ⟨s', hs'⟩
    · exact (Table.mem_keys_iff _ _).mpr ⟨t, ht⟩
    · rw [hsenders]
      exact List.mem_append_left _ hother

/-- While an operation is under way, nothing is sent for anybody else. -/
theorem Reachable.occupied_steps (hreachable : Reachable config DeviceRun.Respected host l)
    (hoccupied : l.Occupied id) (hsteps : Steps config DeviceRun.Respected l l')
    (hthere : (l'.run.device.sessions.get? id).isSome = true) :
    l'.Occupied id ∧ ∃ new, l'.senders = new ++ l.senders ∧ ∀ other ∈ new, other = id := by
  induction hsteps with
  | refl => exact ⟨hoccupied, [], rfl, fun _ hnothing => absurd hnothing List.not_mem_nil⟩
  | @tail m l' hbefore hstep ih =>
    obtain ⟨s, hs, -⟩ := hoccupied.found
    obtain ⟨s', hs'⟩ := Option.isSome_iff_exists.mp hthere
    have hreached := hreachable.steps hbefore
    have ho := hreachable.balanced.orderly
    -- The operation has had its number since before the first step, so it never was away.
    have hgrown : id.value < m.run.device.nextSession :=
      Nat.lt_of_lt_of_le (ho.numbers id s hs) (Steps.since ho hbefore).next
    obtain ⟨t, ht, -⟩ :=
      (Steps.since hreached.balanced.orderly (.single hstep)).tasks id s' hs' hgrown
    obtain ⟨hoccupied', new, hnew, hown⟩ := ih (Option.isSome_iff_exists.mpr ⟨t, ht⟩)
    obtain ⟨hoccupied'', new', hnew', hown'⟩ := hreached.occupied_step hoccupied' hstep hthere
    refine ⟨hoccupied'', new' ++ new, ?_, List.forall_mem_append.mpr ⟨hown', hown⟩⟩
    rw [hnew', hnew, List.append_assoc]

/-- In every log of a device, and so in every history, in which others respect the device: each stride
    sends one request at the most, and when it is sent no more requests are outstanding than may be,
    stale ones included.  Each request that is held back is the first one of its session, which waits
    and has not sent anything.  So no more sessions have sent their first request than may be
    outstanding; and while that is one, an operation that has sent its first request is the only
    session to send any until it is gone. -/
theorem concurrency_respected (hreachable : Reachable config DeviceRun.Respected host l) :
    (∀ codec stride, ∃ sender,
      (l.take { config, codec } stride).senders = sender.toList ++ l.senders ∧
      DeviceRun.Wired l.run sender (l.take { config, codec } stride).run ∧
      (sender.isSome = true → (l.take { config, codec } stride).run.device.inFlight ≤
        (l.take { config, codec } stride).run.device.memory.metadata.effectiveConcurrency.toNat)) ∧
    (∀ entry ∈ l.run.device.waiting, entry.1 ∉ l.senders ∧
      ∃ s, l.run.device.sessions.get? entry.1 = some s ∧ s.state = .waiting ∧
        s.task.isOpening = true ∧ entry.2.command = s.task.firstCommand) ∧
    (l.run.device.sessions.keys.filter (· ∈ l.senders)).length ≤
      l.run.device.memory.metadata.effectiveConcurrency.toNat ∧
    (l.run.device.memory.metadata.effectiveConcurrency = 1 →
      ∀ id ∈ l.senders, ∀ s, l.run.device.sessions.get? id = some s →
        s.task.isOperation = true → ∀ l', Steps config DeviceRun.Respected l l' →
          (l'.run.device.sessions.get? id).isSome = true →
          ∃ new, l'.senders = new ++ l.senders ∧ ∀ other ∈ new, other = id) := by
  have hpaced := hreachable.paced
  have hcoherent := hreachable.sound.coherent
  refine ⟨fun codec stride => ?_, fun entry hentry => ?_, hpaced.senders_le hcoherent, ?_⟩
  · obtain ⟨sender, hsenders, hwired, -⟩ := hreachable.keepsPace hpaced codec stride
    refine ⟨sender, hsenders, hwired, fun hsent => ?_⟩
    obtain ⟨id, rfl⟩ := Option.isSome_iff_exists.mp hsent
    exact hwired.bounded
  · obtain ⟨s, hs, hwaits⟩ := hcoherent.found_of_queued hentry
    obtain ⟨hopening, hcommand⟩ := hpaced.opening entry hentry s hs
    exact ⟨hpaced.fresh entry hentry, s, hs, hwaits, hopening, hcommand⟩
  · intro hone id hsender s hs hoperation l' hsteps hthere
    exact (hreachable.occupied_steps ⟨hone, hsender, s, hs, hoperation⟩ hsteps hthere).2

/-- In the sample one request may be outstanding: an operation is under way, the first request of
    another is held back, and as long as the former is there nobody else sends. -/
theorem concurrency_respected_sample :
    sampleLog.run.device.waiting.length = 1 ∧
    (∀ entry ∈ sampleLog.run.device.waiting, entry.1 ∉ sampleLog.senders) ∧
    (sampleLog.run.device.sessions.keys.filter (· ∈ sampleLog.senders)).length ≤ 1 ∧
    ∀ l', Steps DeviceHistory.sampleSetup.config DeviceRun.Respected sampleLog l' →
      (l'.run.device.sessions.get? ⟨3⟩).isSome = true →
      ∃ new, l'.senders = new ++ sampleLog.senders ∧ ∀ other ∈ new, other = ⟨3⟩ := by
  have hlength : sampleLog.run.device.waiting.length = 1 := by decide +kernel
  have hone : sampleLog.run.device.memory.metadata.effectiveConcurrency = 1 := by decide +kernel
  have hsender : (⟨3⟩ : SessionId) ∈ sampleLog.senders := by decide +kernel
  have hfound : (sampleLog.run.device.sessions.get? ⟨3⟩).map (·.task.isOperation) = some true := by
    decide +kernel
  obtain ⟨s, hs, hoperation⟩ := Option.map_eq_some_iff.mp hfound
  obtain ⟨-, hqueue, hcount, halone⟩ :=
    concurrency_respected (reachable_sampleLog DeviceRun.Respected)
  rw [hone] at hcount
  exact ⟨hlength, fun entry hentry => (hqueue entry hentry).1, hcount,
    halone hone ⟨3⟩ hsender s hs hoperation⟩

end DeviceLog

end DeviceEnablement
