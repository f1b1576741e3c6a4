/-
  Every session has its request.

  `DeviceRun.Sound` adds to coherence that the instance ids of outstanding requests are in use, so
  that no request takes the place of another.  It holds between any two calls.

  1. `Sound.sent`, `Sound.placed`, `Sound.closed`: what fills the hole that an answer leaves.
  2. `sound_event`: what happens in the course of a call keeps it.
  3. `requests_of_sessions`: which requests the sessions of a device have; the session of an answer
     and that of a request in the queue are always there.
-/
import DeviceEnablement.Proofs.Device.Coherence

namespace DeviceEnablement

namespace DeviceRun

/-- Whether sessions and requests belong together, apart from those of `hole`, and the instance ids
    of requests are in use. -/
structure Sound (hole : Option SessionId) (r : DeviceRun) : Prop where
  coherent : r.device.Coherent hole
  allocated : ∀ k ∈ r.device.pending.keys, k ∈ (r.host.ids.pool r.device.eid).allocated

variable {setup : Setup} {r r' : DeviceRun} {hole : Option SessionId} {id : SessionId} {s : Session}
  {out : Outgoing}

namespace Sound

theorem congr (h : r.Sound hole) (htraffic : r.device.SameTraffic r'.device)
    (heid : r'.device.eid = r.device.eid) (halike : r.host.Alike r.device.eid r'.host) :
    r'.Sound hole where
  coherent := h.coherent.congr htraffic
  allocated := by
    rw [heid, halike.allocated, htraffic.pending]
    exact h.allocated

/-! ## Filling the hole -/

theorem sent (h : r.Sound (some id)) (hs : r.device.sessions.get? id = some s)
    (hsent : Sent r id out r') : r'.Sound none := by
  cases hsent with
  | @intro instanceId ids _ _ hallocate _ _ =>
    obtain ⟨hnew, -, hids⟩ := InstanceIds.allocate_spec hallocate
    -- The id was free, so the request takes the place of no other.
    have hfree : r.device.pending.get? instanceId = none :=
      (Table.get?_eq_none_iff _ _).mpr fun hk => hnew (h.allocated instanceId hk)
    refine ⟨h.coherent.sent hs hfree out.command, fun k hk => ?_⟩
    show k ∈ (ids.pool r.device.eid).allocated
    rw [hids]
    rw [Table.keys_insert hfree, List.mem_append, List.mem_singleton] at hk
    rcases hk with hk | rfl
    · exact List.mem_cons_of_mem _ (h.allocated k hk)
    · exact List.mem_cons_self

theorem placed (h : r.Sound (some id)) (hs : r.device.sessions.get? id = some s)
    (hw : s.state = .waiting) (hplaced : Placed r id out r') : r'.Sound none := by
  cases hplaced with
  | sent _ hsent => exact h.sent hs hsent
  | queued => exact ⟨h.coherent.queue hs hw out, h.allocated⟩

theorem drop (h : r.Sound (some id)) : (r.dropSession id).Sound none :=
  ⟨h.coherent.drop, h.allocated⟩

theorem closed (h : r.Sound (some id)) (hclosed : Closed r id s r') : r'.Sound none := by
  cases hclosed with
  | silent => exact h.drop
  | reported => exact ⟨h.drop.coherent, h.drop.allocated⟩

/-- A session that waits is put into the hole, and gets its request. -/
theorem keepSession (h : r.Sound (some id)) (hw : s.state = .waiting)
    (hid : id.value < r.device.nextSession)
    (hfresh : ∀ request ∈ r.device.pending.values, request.generation ≠ r.device.generation →
      request.session ≠ id) (hplaced : Placed (r.keepSession id s) id out r') :
    r'.Sound none := by
  have hkept : (r.keepSession id s).Sound (some id) :=
    ⟨h.coherent.keep hw hid hfresh, h.allocated⟩
  have hfound : (r.keepSession id s).device.sessions.get? id = some s := by
    show (r.device.sessions.insert id s).get? id = some s
    rw [Table.get?_insert, if_pos rfl]
  exact hkept.placed hfound hw hplaced

/-! ## Events -/

theorem started (h : r.Sound none) {result : Except Failure SessionId × DeviceRun}
    (hstarted : Started setup r s result) : result.2.Sound none := by
  have hbegun : ∀ memory, (r.begun memory).Sound none := fun memory =>
    ⟨h.coherent.grow.congr {}, h.allocated⟩
  have hnone : r.device.sessions.get? r.newId = none := h.coherent.get?_next
  have hhole : ∀ memory, (r.begun memory).Sound (some r.newId) := fun memory =>
    ⟨(hbegun memory).coherent.vacate hnone, h.allocated⟩
  cases hstarted with
  | @placed _ s' memory _ hstep hplaced =>
    refine (hhole memory).keepSession (Session.start_ok hstep).1 (Nat.lt_succ_self _) ?_ hplaced
    rintro request hr - hnew
    have hlt := h.coherent.pendingNumbers request hr
    rw [hnew] at hlt
    exact Nat.lt_irrefl _ hlt
  | refused e memory => exact hbegun memory
  | @unsent e memory host halike =>
    have hrefused : Sound (some r.newId) { r.begun memory with host } :=
      (hhole memory).congr {} rfl (halike.alike _)
    exact hrefused.drop

theorem move (h : r.Sound none) (hmove : Move setup r r') : r'.Sound none := by
  cases hmove with
  | turn => exact h.congr {} rfl (.refl _ _)
  | download hstarted => exact h.started hstarted
  | @released _ id out rest _ hw _ hsent =>
    obtain ⟨s, hs, -⟩ := h.coherent.found_of_oldest hw
    have hpopped : Sound (some id) { r with device.waiting := rest } :=
      ⟨h.coherent.pop hw, h.allocated⟩
    exact hpopped.sent hs hsent
  | @unsent _ id out rest s host hw hs _ halike hclosed =>
    have hpopped : Sound (some id) { r with device.waiting := rest } :=
      ⟨h.coherent.pop hw, h.allocated⟩
    have hrefused : Sound (some id) { r with host, device.waiting := rest } :=
      hpopped.congr {} rfl (halike.alike _)
    exact hrefused.closed hclosed
  | @skipped id out rest hw hdead =>
    obtain ⟨s, hs, hwaiting⟩ := h.coherent.found_of_oldest hw
    rw [isLive_eq, hs, Option.any_some, hwaiting] at hdead
    cases hdead

theorem moves (h : r.Sound none) (hmoves : Moves setup r r') : r'.Sound none := by
  induction hmoves with
  | refl => exact h
  | tail _ hmove ih => exact ih.move hmove

/-- The answer to a request leaves a hole, unless the request is stale. -/
theorem freed (h : r.Sound none) {instanceId : UInt8} {request : PendingRequest}
    (hpending : r.device.pending.get? instanceId = some request) :
    (r.freed instanceId).Sound (if request.generation = (r.freed instanceId).device.generation
      then some request.session else none) := by
  refine ⟨h.coherent.freed hpending, fun k hk => ?_⟩
  show k ∈ ((r.host.ids.free r.device.eid instanceId).pool r.device.eid).allocated
  change k ∈ (r.device.pending.erase instanceId).keys at hk
  rw [Table.keys_erase, List.mem_filter] at hk
  rw [InstanceIds.allocated_free, List.mem_filter]
  exact ⟨h.allocated k hk.1, hk.2⟩

theorem answered (h : r.Sound none) {instanceId : UInt8} {request : PendingRequest}
    (hpending : r.device.pending.get? instanceId = some request)
    (hanswered : Answered setup (r.freed instanceId) request r') : r'.Sound none := by
  have hfreed := h.freed hpending
  cases hanswered with
  | stale hold =>
    rw [if_neg hold] at hfreed
    exact hfreed
  | orphan hcurrent hnone =>
    obtain ⟨s, hs⟩ := h.coherent.found_of_pending (Table.mem_values hpending) hcurrent
    cases hs.symm.trans hnone
  | @continued s s' memory _ _ _ hcurrent hs ha hstep hplaced =>
    rw [if_pos hcurrent] at hfreed
    have hlearned : Sound (some request.session)
        { r.freed instanceId with device.memory := memory } := hfreed.congr {} rfl (.refl _ _)
    refine hlearned.keepSession (Session.onResponse_send ha hstep)
      (h.coherent.numbers _ s hs) ?_ hplaced
    -- A stale request of the same session would mean that the session is gone.
    intro other hother hold hsame
    have hgone := hfreed.coherent.stale other hother hold
    rw [hsame] at hgone
    cases hs.symm.trans hgone
  | @closed s memory host _ hcurrent hs halike hclosed =>
    rw [if_pos hcurrent] at hfreed
    have hlearned : Sound (some request.session)
        { r.freed instanceId with host, device.memory := memory } :=
      hfreed.congr {} rfl (halike.alike _)
    exact hlearned.closed hclosed

theorem cancelAll (h : r.Sound none) (state : SessionState) : (r.cancelAll state).Sound none :=
  ⟨h.coherent.clear [], h.allocated⟩

theorem abandon (h : r.Sound none) (id : SessionId) {state : SessionState}
    (ha : state.isAbandoned = true) : (r.abandon id state).2.Sound none := by
  have habandoned := abandoned_abandon r id state
  generalize r.abandon id state = result at habandoned
  cases habandoned with
  | ended => exact h
  | @marked s request hs hlive hmem hown =>
    have hone := h.coherent.outstandingOf_own hs hmem hown
    exact ⟨h.coherent.mark hs hone ha, h.allocated⟩
  | @forgotten s hs hlive hanswered =>
    have hfree : r.device.outstandingOf id = 0 := by
      refine List.countP_eq_zero.mpr fun request hr => ?_
      simp [hanswered request hr]
    have hwithdrawn : (r.withdrawn id).Sound (some id) :=
      ⟨h.coherent.withdraw hfree, h.allocated⟩
    exact hwithdrawn.drop

end Sound

end DeviceRun

namespace DeviceHistory

variable {config : Config} {others : DeviceRun → Host → Prop} {host : Host} {h h' : DeviceHistory}

theorem sound_event (hs : h.run.Sound none) (hevent : Event h h') : h'.run.Sound none := by
  cases hevent with
  | learned hresembles => exact hs.congr hresembles.traffic hresembles.eid (hresembles.host.alike _)
  | cancelled state => exact hs.cancelAll state
  | negotiation hstarted => exact hs.started hstarted
  | @operation _ _ _ result hstarted =>
    have hstart := hs.started hstarted
    obtain ⟨_ | _, r⟩ := result
    · exact hstart
    · exact hstart
  | givenUp id ha => exact hs.abandon id ha
  | answered hpending hanswered => exact hs.answered hpending hanswered
  | moved hmove => exact hs.move hmove

/-- A device is sound in every history in which others respect it. -/
theorem Reachable.sound (hreachable : Reachable config DeviceRun.Respected host h) :
    h.run.Sound none := by
  refine hreachable.invariant (fun setup eid tid uuid payloads folder => ?_)
    (fun _ _ hevent hs => sound_event hs hevent)
    (fun _ _ hrespected hs => ⟨hs.coherent, hrespected⟩)
  exact ⟨Device.coherent_new setup eid tid uuid payloads folder,
    fun _ hk => absurd hk List.not_mem_nil⟩

/-- In every history in which others respect the device: each session waits for a response or was
    given up.  If it waits, it has one request, which is outstanding or in the queue; if it was
    given up, it has one that is outstanding.  The session of a request in the queue waits, and that
    of an outstanding request of the current generation is there.  So the answer to such a request
    always finds its session, and the pump never passes over a request, in whatever round. -/
theorem requests_of_sessions (hreachable : Reachable config DeviceRun.Respected host h) :
    (∀ id s, h.run.device.sessions.get? id = some s →
      s.state = .waiting ∨ s.state = .timedOut ∨ s.state = .cancelled) ∧
    (∀ id s, h.run.device.sessions.get? id = some s → s.state = .waiting →
      (h.run.device.outstandingOf id = 1 ∧ h.run.device.queuedOf id = 0) ∨
      (h.run.device.outstandingOf id = 0 ∧ h.run.device.queuedOf id = 1)) ∧
    (∀ id s, h.run.device.sessions.get? id = some s →
      s.state = .timedOut ∨ s.state = .cancelled →
      h.run.device.outstandingOf id = 1 ∧ h.run.device.queuedOf id = 0) ∧
    (∀ entry ∈ h.run.device.waiting,
      ∃ s, h.run.device.sessions.get? entry.1 = some s ∧ s.state = .waiting) ∧
    (∀ instanceId request, h.run.device.pending.get? instanceId = some request →
      request.generation = h.run.device.generation →
      ∃ s, h.run.device.sessions.get? request.session = some s) ∧
    (∀ setup instanceId request message r id out rest,
      h.run.device.pending.get? instanceId = some request →
      DeviceRun.Rounds setup
        ((h.run.freed instanceId).settle setup instanceId request message) r →
      r.device.waiting = (id, out) :: rest → r.device.isLive id = true) := by
  have hsound := hreachable.sound
  have hcoherent := hsound.coherent
  refine ⟨?_, ?_, ?_, fun entry hmem => hcoherent.found_of_queued hmem, ?_, ?_⟩
  · intro id s hs
    rcases hcoherent.states id s hs with hw | ha
    · exact Or.inl hw
    · exact Or.inr (SessionState.isAbandoned_iff.mp ha)
  · intro id s hs _
    have hone := (hcoherent.of_found hs).1
    omega
  · intro id s hs ha
    have hone := hcoherent.of_found hs
    have hnone := hone.2 (SessionState.isAbandoned_iff.mpr ha)
    omega
  · exact fun _ _ hpending => hcoherent.found_of_pending (Table.mem_values hpending)
  · intro setup instanceId request message r id out rest hpending hrounds hw
    obtain ⟨r₁, hanswered, hmoves⟩ :=
      DeviceRun.answered_settle (h.run.freed instanceId) setup instanceId request message
    have hround : r.Sound none :=
      ((hsound.answered hpending hanswered).moves hmoves).moves hrounds.moves
    obtain ⟨s, hs, hwaiting⟩ := hround.coherent.found_of_oldest hw
    rw [DeviceRun.isLive_eq, hs, Option.any_some, hwaiting]
    rfl

/-- In the sample the request of the second operation, which has run out of time, is outstanding,
    and that of the fourth one waits in the queue. -/
theorem requests_of_sessions_sample :
    sampleHistory.run.device.sessionState? ⟨3⟩ = some .timedOut ∧
    sampleHistory.run.device.outstandingOf ⟨3⟩ = 1 ∧
    sampleHistory.run.device.queuedOf ⟨3⟩ = 0 ∧
    sampleHistory.run.device.hasCapacity = false ∧
    sampleHistory.run.device.waiting.map Prod.fst = [⟨5⟩] ∧
    ∀ entry ∈ sampleHistory.run.device.waiting,
      ∃ s, sampleHistory.run.device.sessions.get? entry.1 = some s ∧ s.state = .waiting := by
  have hstate : sampleHistory.run.device.sessionState? ⟨3⟩ = some .timedOut := by decide +kernel
  obtain ⟨s, hs, htimedOut⟩ := Option.map_eq_some_iff.mp hstate
  obtain ⟨-, -, hgivenUp, hqueued, -⟩ :=
    requests_of_sessions (reachable_sample DeviceRun.Respected)
  obtain ⟨houtstanding, hnone⟩ := hgivenUp ⟨3⟩ s hs (Or.inl htimedOut)
  exact ⟨hstate, houtstanding, hnone, by decide +kernel, by decide +kernel, hqueued⟩

end DeviceHistory

end DeviceEnablement
