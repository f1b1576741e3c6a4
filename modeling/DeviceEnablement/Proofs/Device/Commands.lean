/-
  Requests and the phases of their sessions.

  The device writes down the command of a request when it is sent, while the session goes from phase
  to phase on its own, and the request may have waited in between.  The two agree all the same: a
  request that is outstanding or held back is the one whose response its session awaits, and a
  session with a transfer has one that is in progress (`Device.Attuned`).

  1. `Attuned.keep`, `Attuned.sent`, `Attuned.queue`: a session is put into the hole, where it has no
     request, and gets the one whose response it awaits.
  2. `attuned_event`: what happens in the course of a call keeps it.
  3. `Session.Reads`: what a session reads from a body.
  4. `responses_match_requests`: so no response is read as that of another command, and none comes
     amiss.
-/
import DeviceEnablement.Proofs.Device.Stages
import DeviceEnablement.Proofs.Session.Failures
import DeviceEnablement.Proofs.Session.Replies

namespace DeviceEnablement

namespace Device

/-- Whether the requests of each session are those whose response it awaits. -/
structure Attuned (d : Device) : Prop where
  underway : ∀ id s, d.sessions.get? id = some s → s.task.Underway
  pending : ∀ instanceId request, d.pending.get? instanceId = some request →
    request.generation = d.generation →
    ∀ s, d.sessions.get? request.session = some s → request.command = s.task.awaited
  queued : ∀ entry ∈ d.waiting, ∀ s, d.sessions.get? entry.1 = some s →
    entry.2.command = s.task.awaited

variable {d d' : Device} {id : SessionId} {s : Session} {out : Outgoing}

theorem attuned_new (setup : Setup) (eid tid : UInt8) (uuid : Uuid) (payloads : List Bytes)
    (folder : Folder) : (Device.new setup eid tid uuid payloads folder).Attuned where
  underway _ _ hs := by cases hs
  pending _ _ hr := by cases hr
  queued _ hmem := absurd hmem List.not_mem_nil

namespace Attuned

variable (h : d.Attuned)
include h

theorem congr (same : d.SameTraffic d') : d'.Attuned := by
  constructor
  · rw [same.sessions]
    exact h.underway
  · rw [same.pending, same.generation, same.sessions]
    exact h.pending
  · rw [same.waiting, same.sessions]
    exact h.queued

/-- Without a session there is nothing to agree with. -/
theorem drop : { d with sessions := d.sessions.erase id }.Attuned where
  underway other s hs := h.underway other s (Table.of_get?_erase hs).2
  pending instanceId request hr hg s hs :=
    h.pending instanceId request hr hg s (Table.of_get?_erase hs).2
  queued entry hmem s hs := h.queued entry hmem s (Table.of_get?_erase hs).2

/-- A request that is answered leaves the others. -/
theorem freed (k : UInt8) : { d with pending := d.pending.erase k }.Attuned where
  underway := h.underway
  pending instanceId request hr := h.pending instanceId request (Table.of_get?_erase hr).2
  queued := h.queued

/-- Requests that leave the queue leave the others. -/
theorem withdraw {waiting : List (SessionId × Outgoing)} (hsub : ∀ entry ∈ waiting,
    entry ∈ d.waiting) : { d with waiting }.Attuned where
  underway := h.underway
  pending := h.pending
  queued entry hmem := h.queued entry (hsub entry hmem)

/-- A session that is given up stays in its phase. -/
theorem mark (hs : d.sessions.get? id = some s) (state : SessionState) :
    { d with sessions := d.sessions.insert id { s with state } }.Attuned := by
  have hbefore : ∀ {other t}, (d.sessions.insert id { s with state }).get? other = some t →
      ∃ t₀, d.sessions.get? other = some t₀ ∧ t₀.task = t.task := by
    intro other t ht
    rcases Table.of_get?_insert ht with ⟨rfl, rfl⟩ | ⟨-, ht⟩
    · exact ⟨s, hs, rfl⟩
    · exact ⟨t, ht, rfl⟩
  constructor
  · intro other t ht
    obtain ⟨t₀, ht₀, hsame⟩ := hbefore ht
    rw [← hsame]
    exact h.underway other t₀ ht₀
  · intro instanceId request hr hg t ht
    obtain ⟨t₀, ht₀, hsame⟩ := hbefore ht
    rw [← hsame]
    exact h.pending instanceId request hr hg t₀ ht₀
  · intro entry hmem t ht
    obtain ⟨t₀, ht₀, hsame⟩ := hbefore ht
    rw [← hsame]
    exact h.queued entry hmem t₀ ht₀

/-- A session is put where no request is. -/
theorem keep (hvacant : d.HasRequests id none) (hunderway : s.task.Underway) :
    { d with sessions := d.sessions.insert id s }.Attuned := by
  constructor
  · intro other t ht
    rcases Table.of_get?_insert ht with ⟨-, rfl⟩ | ⟨-, ht⟩
    · exact hunderway
    · exact h.underway other t ht
  · intro instanceId request hr hg t ht
    rcases Table.of_get?_insert ht with ⟨rfl, -⟩ | ⟨-, ht⟩
    -- A request of the session itself would be in the hole.
    · have hpos : 0 < d.outstandingOf request.session :=
        outstandingOf_pos (Table.mem_values hr) hg
      have hnone : d.outstandingOf request.session = 0 := hvacant.1
      omega
    · exact h.pending instanceId request hr hg t ht
  · intro entry hmem t ht
    rcases Table.of_get?_insert ht with ⟨rfl, -⟩ | ⟨-, ht⟩
    · have hpos : 0 < d.queuedOf entry.1 := queuedOf_pos hmem
      have hnone : d.queuedOf entry.1 = 0 := hvacant.2
      omega
    · exact h.queued entry hmem t ht

/-- A request is sent for a session that awaits the response to it. -/
theorem sent (hcommand : ∀ s, d.sessions.get? id = some s → out.command = s.task.awaited)
    (k : UInt8) :
    { d with pending := d.pending.insert k ⟨id, d.generation, out.command⟩ }.Attuned := by
  refine ⟨h.underway, ?_, h.queued⟩
  intro instanceId request hr hg s hs
  rcases Table.of_get?_insert hr with ⟨-, rfl⟩ | ⟨-, hr⟩
  · exact hcommand s hs
  · exact h.pending instanceId request hr hg s hs

/-- A request is held back for a session that awaits the response to it. -/
theorem queue (hcommand : ∀ s, d.sessions.get? id = some s → out.command = s.task.awaited) :
    { d with waiting := d.waiting ++ [(id, out)] }.Attuned := by
  refine ⟨h.underway, h.pending, ?_⟩
  intro entry hmem s hs
  rcases List.mem_append.mp hmem with hold | hnew
  · exact h.queued entry hold s hs
  · obtain rfl := List.mem_singleton.mp hnew
    exact hcommand s hs

end Attuned

end Device

/-! ## Events -/

namespace DeviceRun

variable {setup : Setup} {r r' : DeviceRun} {id : SessionId} {s : Session} {out : Outgoing}

theorem Sent.attuned (h : r.device.Attuned)
    (hcommand : ∀ s, r.device.sessions.get? id = some s → out.command = s.task.awaited)
    (hsent : Sent r id out r') : r'.device.Attuned := by
  cases hsent
  exact h.sent hcommand _

/-- A session is kept where no request is, and its request is placed. -/
theorem Placed.attuned (h : r.device.Attuned) (hvacant : r.device.HasRequests id none)
    (hawaits : s.task.Awaits out) (hplaced : Placed (r.keepSession id s) id out r') :
    r'.device.Attuned := by
  have hkept : (r.keepSession id s).device.Attuned := h.keep hvacant hawaits.underway
  have hcommand : ∀ t, (r.keepSession id s).device.sessions.get? id = some t →
      out.command = t.task.awaited := by
    intro t ht
    rcases Table.of_get?_insert ht with ⟨-, rfl⟩ | ⟨hne, -⟩
    · exact hawaits.command
    · exact absurd rfl hne
  cases hplaced with
  | sent _ hsent => exact hsent.attuned hkept hcommand
  | queued => exact hkept.queue hcommand

theorem Closed.attuned (h : r.device.Attuned) (hclosed : Closed r id s r') :
    r'.device.Attuned := by
  cases hclosed with
  | silent => exact h.drop
  | reported => exact h.drop

theorem Started.attuned (hs : r.Sound none) (h : r.device.Attuned)
    (hopening : s.task.isOpening = true) {result : Except Failure SessionId × DeviceRun}
    (hstarted : Started setup r s result) : result.2.device.Attuned := by
  have hbegun : ∀ memory, (r.begun memory).device.Attuned := fun _ =>
    ⟨h.underway, h.pending, h.queued⟩
  cases hstarted with
  | @placed out s' memory r' hstep hplaced =>
    have hvacant : (r.begun memory).device.HasRequests r.newId none :=
      hs.coherent.of_missing hs.coherent.get?_next
    exact hplaced.attuned (hbegun memory) hvacant (Session.start_awaits hopening hstep)
  | refused e memory => exact hbegun memory
  | unsent e memory => exact (hbegun memory).drop

theorem Move.attuned (hs : r.Sound none) (h : r.device.Attuned) (hmove : Move setup r r') :
    r'.device.Attuned := by
  have hpopped : ∀ {entry rest}, r.device.waiting = entry :: rest →
      ({ r with device.waiting := rest } : DeviceRun).device.Attuned := by
    intro entry rest hw
    refine h.withdraw fun other hmem => ?_
    rw [hw]
    exact List.mem_cons_of_mem _ hmem
  cases hmove with
  | turn => exact ⟨h.underway, h.pending, h.queued⟩
  | download hstarted => exact hstarted.attuned hs h rfl
  | @released _ id out rest _ hw _ hsent =>
    have hmem : (id, out) ∈ r.device.waiting := by
      rw [hw]
      exact List.mem_cons_self
    exact hsent.attuned (hpopped hw) fun s hs => h.queued (id, out) hmem s hs
  | @unsent _ _ _ _ s host hw _ _ _ hclosed =>
    have hrefused : ({ r with host, device.waiting := _ } : DeviceRun).device.Attuned := hpopped hw
    exact hclosed.attuned hrefused
  | skipped hw => exact hpopped hw

theorem Answered.attuned (hs : r.Sound none) (h : r.device.Attuned) {instanceId : UInt8}
    {request : PendingRequest} (hpending : r.device.pending.get? instanceId = some request)
    (hanswered : Answered setup (r.freed instanceId) request r') : r'.device.Attuned := by
  have hfreed : (r.freed instanceId).device.Attuned := h.freed instanceId
  cases hanswered with
  | stale => exact hfreed
  | orphan => exact hfreed
  | @continued s s' memory body out _ hcurrent _ ha hstep hplaced =>
    -- The one request of the session has just been answered.
    have hvacant : (r.freed instanceId).device.HasRequests request.session none := by
      have hhole := (hs.freed hpending).coherent
      rw [if_pos hcurrent] at hhole
      exact hhole.vacant request.session rfl
    have hlearned : ({ r.freed instanceId with device.memory := memory } : DeviceRun).device.Attuned :=
      ⟨hfreed.underway, hfreed.pending, hfreed.queued⟩
    exact hplaced.attuned hlearned hvacant (Session.onResponse_awaits ha hstep)
  | @closed s memory host _ _ _ _ hclosed =>
    have hlearned : ({ r.freed instanceId with host, device.memory := memory } :
        DeviceRun).device.Attuned := ⟨hfreed.underway, hfreed.pending, hfreed.queued⟩
    exact hclosed.attuned hlearned

theorem attuned_abandon (h : r.device.Attuned) (id : SessionId) (state : SessionState) :
    (r.abandon id state).2.device.Attuned := by
  have hwithdrawn : (r.withdrawn id).device.Attuned :=
    h.withdraw fun _ hmem => (List.mem_filter.mp hmem).1
  have habandoned := abandoned_abandon r id state
  generalize r.abandon id state = result at habandoned
  cases habandoned with
  | ended => exact h
  | marked hs => exact hwithdrawn.mark hs state
  | forgotten => exact hwithdrawn.drop

end DeviceRun

/-! ## Reading -/

/-- Whether a session takes every body for the response to this command: it learns nothing else from
    it, and fails when that response cannot be read. -/
structure Session.Reads (s : Session) (command : Command) : Prop where
  nothingElse : ∀ scope memory body body',
    Reply.decode command body = Reply.decode command body' →
    s.onResponse scope memory body = s.onResponse scope memory body'
  fails : ∀ scope memory body e, Reply.decode command body = .error e →
    (s.onResponse scope memory body).1 = .error (.message e)

theorem Session.reads_awaited {s : Session} (hw : s.state = .waiting)
    (hunderway : s.task.Underway) : s.Reads s.task.awaited where
  nothingElse _ _ _ _ h := onResponse_congr h
  fails _ _ _ _ h := onResponse_unreadable hw hunderway h

/-- A message that passes the checks has the command and the instance id of its request, and the body
    stands behind its header. -/
theorem responseBody_ok {message body : Bytes} {instanceId : UInt8} {command : Command}
    (h : responseBody message instanceId command = .ok body) :
    ∃ header, Header.decode message = .ok header ∧ header.command = command.code ∧
      header.instanceId = instanceId ∧ body = message.drop Header.size := by
  unfold responseBody at h
  cases hheader : Header.decode message with
  | error e =>
    rw [hheader] at h
    cases h
  | ok header =>
    rw [hheader] at h
    simp only [bind, Except.bind, throw, throwThe, MonadExceptOf.throw, pure, Except.pure] at h
    split at h
    · cases h
    · split at h
      · cases h
      · split at h
        · cases h
        · rename_i hcommand
          split at h
          · cases h
          · rename_i hinstance
            cases h
            exact ⟨header, rfl, Decidable.of_not_not hcommand, Decidable.of_not_not hinstance, rfl⟩

namespace DeviceRun

theorem bodyOf_ok {eid instanceId : UInt8} {command : Command} {message : Option Bytes}
    {body : Bytes} (h : bodyOf eid instanceId command message = .ok body) :
    ∃ bytes, message = some bytes ∧ responseBody bytes instanceId command = .ok body := by
  unfold bodyOf at h
  split at h
  · cases h
  · cases h
  · rename_i bytes _
    refine ⟨bytes, rfl, ?_⟩
    cases hbody : responseBody bytes instanceId command with
    | error e =>
      rw [hbody] at h
      cases h
    | ok body' =>
      rw [hbody] at h
      cases h
      rfl

end DeviceRun

/-! ## Histories -/

namespace DeviceHistory

variable {config : Config} {host : Host} {h h' : DeviceHistory}

theorem attuned_event (hs : h.run.Sound none) (ha : h.run.device.Attuned) (hevent : Event h h') :
    h'.run.device.Attuned := by
  cases hevent with
  | learned hresembles => exact ha.congr hresembles.traffic
  | cancelled state =>
    exact {
      underway := fun _ _ hs => by cases hs
      pending := fun _ _ _ _ _ hs => by cases hs
      queued := fun _ hmem => absurd hmem List.not_mem_nil }
  | negotiation hstarted => exact hstarted.attuned hs ha rfl
  | @operation _ _ _ result hstarted =>
    have hstart := hstarted.attuned hs ha rfl
    obtain ⟨_ | _, r⟩ := result
    · exact hstart
    · exact hstart
  | givenUp id => exact DeviceRun.attuned_abandon ha id _
  | answered hpending hanswered => exact hanswered.attuned hs ha hpending
  | moved hmove => exact hmove.attuned hs ha

theorem Reachable.attuned (hreachable : Reachable config DeviceRun.Respected host h) :
    h.run.device.Attuned := by
  -- Who has which requests is part of the invariant: a session is kept only where none is.
  suffices hboth : h.run.Sound none ∧ h.run.device.Attuned from hboth.2
  refine hreachable.invariant
    (P := fun h => h.run.Sound none ∧ h.run.device.Attuned)
    (fun setup eid tid uuid payloads folder => ⟨?_, Device.attuned_new ..⟩)
    (fun _ _ hevent hboth => ⟨sound_event hboth.1 hevent, attuned_event hboth.1 hboth.2 hevent⟩)
    (fun _ _ hrespected hboth => ⟨⟨hboth.1.coherent, hrespected⟩, hboth.2⟩)
  exact ⟨Device.coherent_new setup eid tid uuid payloads folder,
    fun _ hk => absurd hk List.not_mem_nil⟩

/-- In every history in which others respect the device: an outstanding request of the current
    generation has the command whose response its session, if that is live, takes in its phase, and
    so has a request in the queue.  A session that sends or receives chunks has a transfer that is
    in progress.  So a message that passes the checks for a request carries the command that its
    session awaits, and the session reads the body as the response to this command and to no
    other.  And no session ever fails because a response came while no transfer was in progress. -/
theorem responses_match_requests (hreachable : Reachable config DeviceRun.Respected host h) :
    (∀ instanceId request s, h.run.device.pending.get? instanceId = some request →
      request.generation = h.run.device.generation →
      h.run.device.sessions.get? request.session = some s → s.state.isTerminal = false →
      request.command = s.task.awaited ∧
      ∀ message body,
        DeviceRun.bodyOf h.run.device.eid instanceId request.command message = .ok body →
        ∃ bytes header, message = some bytes ∧ Header.decode bytes = .ok header ∧
          header.command = s.task.awaited.code ∧ body = bytes.drop Header.size ∧
          s.Reads request.command) ∧
    (∀ entry ∈ h.run.device.waiting, ∀ s, h.run.device.sessions.get? entry.1 = some s →
      entry.2.command = s.task.awaited) ∧
    (∀ id s, h.run.device.sessions.get? id = some s →
      ∀ state, s.task.transfer? = some state → state = .inProgress) ∧
    (∀ id s, h.run.device.sessions.get? id = some s → ∀ scope memory body,
      (s.onResponse scope memory body).1 ≠
        .error (.transfer "response without a transfer in progress") ∧
      (s.onResponse scope memory body).1 ≠
        .error (.transfer "acknowledgement without a transfer in progress")) := by
  have hattuned := hreachable.attuned
  refine ⟨?_, hattuned.queued, hattuned.underway, ?_⟩
  · intro instanceId request s hpending hcurrent hs hlive
    have hcommand := hattuned.pending instanceId request hpending hcurrent s hs
    have hw : s.state = .waiting := by
      rcases hreachable.sound.coherent.states _ s hs with hw | ha
      · exact hw
      · rw [hreachable.sound.coherent.isTerminal_eq hs, ha] at hlive
        cases hlive
    refine ⟨hcommand, fun message body hbody => ?_⟩
    obtain ⟨bytes, hmessage, hresponse⟩ := DeviceRun.bodyOf_ok hbody
    obtain ⟨header, hheader, hcode, -, hrest⟩ := responseBody_ok hresponse
    refine ⟨bytes, header, hmessage, hheader, ?_, hrest, ?_⟩
    · rw [hcode, hcommand]
    · rw [hcommand]
      exact Session.reads_awaited hw (hattuned.underway _ s hs)
  · intro id s hs scope memory body
    have hplace := Session.onResponse_inPlace (hattuned.underway id s hs) scope memory body
    exact ⟨hplace _ (by decide), hplace _ (by decide)⟩

/-- A negotiation, and an operation whose result the device has under a handle. -/
def fetchingCalls : List DeviceCall :=
  [.refresh,
    .handleResponse 0 (some [0, 6, 1, 0, 1, 0, 19, 0, 239, 190, 173, 222, 2, 7, 118, 101, 110, 100,
      111, 114, 0]),
    .handleResponse 1 (some [1, 6, 2, 0, 0, 4, 0, 0]),
    .startOperation sampleRequest,
    .handleResponse 2 (some [2, 6, 16, 0, 4, 0, 0, 0, 0, 0, 0, 7, 0, 0, 0, 0, 0, 0, 0, 0, 2, 1, 0])]

/-- The operation of these calls awaits a chunk of its result, and would read any other response that
    passes the checks as a chunk. -/
theorem responses_match_requests_fetching :
    ∃ s, (sampleRun sampleSetup fetchingCalls).run.device.sessions.get? ⟨2⟩ = some s ∧
      s.task.transfer? = some .inProgress ∧ s.task.awaited = .multipartReceive ∧
      s.Reads .multipartReceive := by
  have hpending : (sampleRun sampleSetup fetchingCalls).run.device.pending.get? 3 =
      some ⟨⟨2⟩, 1, .multipartReceive⟩ := by decide +kernel
  have hgeneration : (sampleRun sampleSetup fetchingCalls).run.device.generation = 1 := by
    decide +kernel
  have hstate : (sampleRun sampleSetup fetchingCalls).run.device.sessionState? ⟨2⟩ =
      some .waiting := by decide +kernel
  have htransfer : ((sampleRun sampleSetup fetchingCalls).run.device.sessions.get? ⟨2⟩).bind
      (·.task.transfer?) = some .inProgress := by decide +kernel
  obtain ⟨s, hs, hw⟩ := Option.map_eq_some_iff.mp hstate
  rw [hs] at htransfer
  have hlive : s.state.isTerminal = false := by
    rw [hw]
    rfl
  obtain ⟨hcommand, hreads⟩ :=
    (responses_match_requests (reachable_sampleRun _ sampleSetup fetchingCalls)).1 3 _ s hpending
      hgeneration.symm hs hlive
  obtain ⟨-, -, -, -, -, -, hread⟩ := hreads (some [3, 6, 49, 0]) [0] (by decide +kernel)
  exact ⟨s, hs, htransfer, hcommand.symm, hread⟩

end DeviceHistory

end DeviceEnablement
