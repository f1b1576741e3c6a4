/-
  No instance id is leaked.

  An instance id is allocated in one place and given back in three: when a request cannot be
  encoded, when it cannot be sent, and when it is answered.  For a device that is alone at its
  endpoint, `DeviceRun.Tidy` says that the ids in use are those of its outstanding requests, and
  that each request that was taken is outstanding or was answered.

  1. `Tidy.congr`: what leaves the requests alone.
  2. `Tidy.sent`, `Tidy.freed`: a request that is sent, and one that is answered.
  3. `ids_in_use`: the books are right in every history.
-/
import DeviceEnablement.Proofs.Device.History

namespace DeviceEnablement

namespace DeviceRun

/-- Whether a device that works at `eid`, and was found when `before` requests had been taken, uses
    just the instance ids of its outstanding requests, of which `answered` were answered so far. -/
structure Tidy (eid : UInt8) (before answered : Nat) (r : DeviceRun) : Prop where
  endpoint : r.device.eid = eid
  allocated : (r.host.ids.pool eid).allocated.Perm r.device.pending.keys
  bounded : ∀ k ∈ r.device.pending.keys, k.toNat < InstanceIdPool.capacity
  balance : r.host.transport.sentTo eid = before + answered + r.device.pending.size

/-- Whether two runs agree on the requests of the device. -/
structure SameRequests (r r' : DeviceRun) : Prop where
  eid : r'.device.eid = r.device.eid := by rfl
  pending : r'.device.pending = r.device.pending := by rfl
  host : r.host.Alike r.device.eid r'.host := by exact .refl _ _

variable {setup : Setup} {eid : UInt8} {before answered : Nat} {r r' : DeviceRun}
  {id : SessionId} {s : Session} {out : Outgoing}

theorem Resembles.sameRequests (h : r.Resembles r') : r.SameRequests r' :=
  ⟨h.eid, h.traffic.pending, h.host.alike _⟩

theorem Closed.sameRequests (h : Closed r id s r') : r.SameRequests r' := by
  cases h <;> exact ⟨rfl, rfl, .refl _ _⟩

theorem sameRequests_abandon (r : DeviceRun) (id : SessionId) (state : SessionState) :
    r.SameRequests (r.abandon id state).2 := by
  have habandoned := abandoned_abandon r id state
  generalize r.abandon id state = result at habandoned
  cases habandoned <;> exact ⟨rfl, rfl, .refl _ _⟩

namespace Tidy

variable (h : Tidy eid before answered r)
include h

theorem congr (hsame : r.SameRequests r') : Tidy eid before answered r' where
  endpoint := hsame.eid.trans h.endpoint
  allocated := by
    have halike := hsame.host.allocated
    rw [h.endpoint] at halike
    rw [halike, hsame.pending]
    exact h.allocated
  bounded := by
    rw [hsame.pending]
    exact h.bounded
  balance := by
    have halike := hsame.host.sentTo
    rw [h.endpoint] at halike
    rw [halike, hsame.pending]
    exact h.balance

/-- A request that is sent has an id that was free, and is outstanding from then on. -/
theorem sent (hsent : Sent r id out r') : Tidy eid before answered r' := by
  obtain rfl := h.endpoint
  cases hsent with
  | @intro instanceId ids message transport hallocate _ haccepted =>
    obtain ⟨hnew, hlt, hids⟩ := InstanceIds.allocate_spec hallocate
    have hfree : r.device.pending.get? instanceId = none :=
      (Table.get?_eq_none_iff _ _).mpr fun hk => hnew (h.allocated.mem_iff.mpr hk)
    refine ⟨rfl, ?_, ?_, ?_⟩
    · show (ids.pool r.device.eid).allocated.Perm (r.device.pending.insert instanceId _).keys
      rw [hids, Table.keys_insert hfree]
      exact (h.allocated.cons instanceId).trans (List.perm_append_singleton ..).symm
    · intro k hk
      rw [Table.keys_insert hfree, List.mem_append, List.mem_singleton] at hk
      rcases hk with hk | rfl
      · exact h.bounded k hk
      · exact hlt
    · have hcount : transport.sentTo r.device.eid =
          r.host.transport.sentTo r.device.eid + 1 := by
        unfold Transport.sentTo
        rw [Transport.sent_of_accepted haccepted, List.countP_cons_of_pos (by simp)]
      show transport.sentTo r.device.eid =
        before + answered + (r.device.pending.insert instanceId _).size
      rw [hcount, h.balance, Table.size_insert hfree]
      omega

theorem placed (hplaced : Placed r id out r') : Tidy eid before answered r' := by
  cases hplaced with
  | sent _ hsent => exact h.sent hsent
  | queued => exact h.congr ⟨rfl, rfl, .refl _ _⟩

theorem started {result : Except Failure SessionId × DeviceRun}
    (hstarted : Started setup r s result) : Tidy eid before answered result.2 := by
  cases hstarted with
  | @placed _ s' memory _ _ hplaced =>
    have hkept : Tidy eid before answered ((r.begun memory).keepSession r.newId s') :=
      h.congr ⟨rfl, rfl, .refl _ _⟩
    exact hkept.placed hplaced
  | refused => exact h.congr ⟨rfl, rfl, .refl _ _⟩
  | unsent _ _ halike => exact h.congr ⟨rfl, rfl, halike.alike _⟩

theorem move (hmove : Move setup r r') : Tidy eid before answered r' := by
  cases hmove with
  | turn => exact h.congr ⟨rfl, rfl, .refl _ _⟩
  | download hstarted => exact h.started hstarted
  | @released _ _ _ rest _ _ _ hsent =>
    have hpopped : Tidy eid before answered { r with device.waiting := rest } :=
      h.congr ⟨rfl, rfl, .refl _ _⟩
    exact hpopped.sent hsent
  | @unsent _ _ _ rest _ host _ _ _ halike hclosed =>
    have hrefused : Tidy eid before answered { r with host, device.waiting := rest } :=
      h.congr ⟨rfl, rfl, halike.alike _⟩
    exact hrefused.congr hclosed.sameRequests
  | skipped => exact h.congr ⟨rfl, rfl, .refl _ _⟩

/-- A request that is answered gives its id back, and nothing else does. -/
theorem freed {instanceId : UInt8} {request : PendingRequest}
    (hpending : r.device.pending.get? instanceId = some request) :
    Tidy eid before (answered + 1) (r.freed instanceId) := by
  obtain rfl := h.endpoint
  refine ⟨rfl, ?_, ?_, ?_⟩
  · show ((r.host.ids.free r.device.eid instanceId).pool r.device.eid).allocated.Perm
      (r.device.pending.erase instanceId).keys
    rw [InstanceIds.allocated_free, Table.keys_erase]
    exact h.allocated.filter _
  · intro k hk
    change k ∈ (r.device.pending.erase instanceId).keys at hk
    rw [Table.keys_erase, List.mem_filter] at hk
    exact h.bounded k hk.1
  · have hsize := Table.size_erase hpending
    have hbalance := h.balance
    show r.host.transport.sentTo r.device.eid =
      before + (answered + 1) + (r.device.pending.erase instanceId).size
    omega

omit h in
/-- What an answer leads to, once its id is given back. -/
theorem answered_of_freed {instanceId : UInt8} {request : PendingRequest}
    (h : Tidy eid before answered (r.freed instanceId))
    (hanswered : Answered setup (r.freed instanceId) request r') :
    Tidy eid before answered r' := by
  cases hanswered with
  | stale => exact h
  | orphan => exact h
  | @continued s s' memory _ _ _ _ _ _ _ hplaced =>
    have hkept : Tidy eid before answered (({ r.freed instanceId with device.memory := memory } :
        DeviceRun).keepSession request.session s') := h.congr ⟨rfl, rfl, .refl _ _⟩
    exact hkept.placed hplaced
  | @closed s memory host _ _ _ halike hclosed =>
    have hlearned : Tidy eid before answered
        { r.freed instanceId with host, device.memory := memory } :=
      h.congr ⟨rfl, rfl, halike.alike _⟩
    exact hlearned.congr hclosed.sameRequests

end Tidy

end DeviceRun

namespace DeviceHistory

variable {eid : UInt8} {before : Nat} {h h' : DeviceHistory}

theorem answered_giveUp (h : DeviceHistory) (id : SessionId) (result : Bool × DeviceRun) :
    (h.giveUp id result).ledger.answered = h.ledger.answered := by
  unfold giveUp
  dsimp only
  split <;> rfl

theorem tidy_event (htidy : h.run.Tidy eid before h.ledger.answered) (hevent : Event h h') :
    h'.run.Tidy eid before h'.ledger.answered := by
  cases hevent with
  | learned hresembles => exact htidy.congr hresembles.sameRequests
  | cancelled state => exact htidy.congr ⟨rfl, rfl, .refl _ _⟩
  | negotiation hstarted => exact htidy.started hstarted
  | @operation _ _ _ result hstarted =>
    have hstart := htidy.started hstarted
    obtain ⟨_ | _, r⟩ := result
    · exact hstart
    · exact hstart
  | @givenUp id state _ =>
    rw [answered_giveUp]
    exact htidy.congr (DeviceRun.sameRequests_abandon h.run id state)
  | answered hpending hanswered => exact (htidy.freed hpending).answered_of_freed hanswered
  | moved hmove => exact htidy.move hmove

/-- In every history of a device that is alone at an endpoint where no instance id was in use: the
    ids in use are those of its outstanding requests, each once, and all of them are at most 31.
    The requests that were taken since then are those that are outstanding and those that were
    answered. -/
theorem ids_in_use {setup : Setup} {tid : UInt8} {uuid : Uuid} {payloads : List Bytes}
    {folder : Folder} {host : Host} (hunused : (host.ids.pool eid).allocated = [])
    (hsteps : Steps setup.config DeviceRun.LeftAlone
      (found setup eid tid uuid payloads folder host) h) :
    (h.run.host.ids.pool eid).allocated.Perm h.run.device.pending.keys ∧
    (h.run.host.ids.pool eid).allocated.Nodup ∧
    (∀ id ∈ (h.run.host.ids.pool eid).allocated, id ≤ 31) ∧
    h.run.host.transport.sentTo eid =
      host.transport.sentTo eid + h.ledger.answered + h.run.device.pending.size := by
  have hfound : DeviceRun.Tidy eid (host.transport.sentTo eid) 0
      (found setup eid tid uuid payloads folder host).run := by
    refine ⟨rfl, ?_, fun _ hk => absurd hk List.not_mem_nil, rfl⟩
    show (host.ids.pool eid).allocated.Perm []
    rw [hunused]
  have htidy : h.run.Tidy eid (host.transport.sentTo eid) h.ledger.answered := by
    refine Steps.keeps
      (P := fun h => h.run.Tidy eid (host.transport.sentTo eid) h.ledger.answered) hsteps
      (fun _ _ hevent htidy => tidy_event htidy hevent) (fun h host' halone htidy => ?_) hfound
    have hsame : h.run.SameRequests { h.run with host := host' } := ⟨rfl, rfl, halone⟩
    exact htidy.congr hsame
  -- Keys occur once, and so do the ids, which are a permutation of them.
  refine ⟨htidy.allocated, htidy.allocated.nodup_iff.mpr h.run.device.pending.nodup, ?_,
    htidy.balance⟩
  intro id hid
  have hlt : id.toNat < 32 := htidy.bounded id (htidy.allocated.mem_iff.mp hid)
  show id.toNat ≤ 31
  omega

/-- In the sample four requests were taken, three of which were answered; the fourth one is
    outstanding under the only instance id in use. -/
theorem ids_in_use_sample :
    sampleHistory.run.device.pending.keys = [3] ∧
    sampleHistory.ledger.answered = 3 ∧
    sampleHistory.run.host.transport.sentTo 8 = 4 ∧
    (sampleHistory.run.host.ids.pool 8).allocated = [3] := by
  have hpending : sampleHistory.run.device.pending.keys = [3] := by decide +kernel
  have hsize : sampleHistory.run.device.pending.size = 1 := by decide +kernel
  have hanswered : sampleHistory.ledger.answered = 3 := by decide +kernel
  have hunused : (({} : Host).ids.pool 8).allocated = [] := rfl
  have hids := ids_in_use hunused (steps_performAll DeviceRun.LeftAlone
    (found sampleSetup 8 1 ⟨0⟩ [sampleRecord] {} {}) sampleSetup sampleCalls)
  have hallocated : (sampleHistory.run.host.ids.pool 8).allocated.Perm
    sampleHistory.run.device.pending.keys := hids.1
  have hsent : sampleHistory.run.host.transport.sentTo 8 =
    0 + sampleHistory.ledger.answered + sampleHistory.run.device.pending.size := hids.2.2.2
  rw [hpending] at hallocated
  rw [hanswered, hsize] at hsent
  exact ⟨hpending, hanswered, hsent, List.perm_singleton.mp hallocated⟩

end DeviceHistory

end DeviceEnablement
