/-
  The queue of a device does not stall.

  A request is held back only while as many others are outstanding as may be.  So between two calls
  either nothing waits or the device is full (`Device.Flowing`), and since at least one request may be
  outstanding, a device that holds a request back waits for an answer, which sets the pump going.

  1. `Called.flowing`: the calls that take no response keep the queue flowing without the pump, since
     what they send they send before anything is queued.
  2. An answer makes room, but the pump ends only when nothing waits or the device is full
     (`rounds_pump`).
  3. `queue_never_stalls` puts these together.
-/
import DeviceEnablement.Proofs.Device.Outcomes

namespace DeviceEnablement

/-- Whether nothing waits that could be sent. -/
def Device.Flowing (d : Device) : Prop := d.waiting = [] ∨ d.hasCapacity = false

namespace DeviceRun

variable {r r' : DeviceRun} {id : SessionId} {out : Outgoing}

theorem Steady.flowing (h : Steady r r') (hf : r.device.Flowing) : r'.device.Flowing := by
  rcases hf with hempty | hfull
  · exact Or.inl (h.waiting.trans hempty)
  · exact Or.inr (h.hasCapacity.trans hfull)

/-- A request is sent only when there is capacity, and then nothing waits; otherwise it is queued, and
    the device is full. -/
theorem Placed.flowing (h : Placed r id out r') (hf : r.device.Flowing) : r'.device.Flowing := by
  cases h with
  | sent hcapacity hsent =>
    have hempty : r.device.waiting = [] := by
      refine hf.resolve_right fun hfull => ?_
      rw [hcapacity] at hfull
      cases hfull
    cases hsent
    exact Or.inl hempty
  | queued hfull => exact Or.inr hfull

theorem Launched.flowing {stage : DeviceState} (h : Launched r stage (.ok id, r'))
    (hf : r.device.Flowing) : r'.device.Flowing := by
  cases h with
  | @placed s memory _ _ _ _ _ _ hmetadata hplaced =>
    have hsame : ((r.begun memory).keepSession r.newId s).device.hasCapacity =
        r.device.hasCapacity := by
      show decide (r.device.pending.size < memory.metadata.effectiveConcurrency.toNat) = _
      rw [hmetadata]
      rfl
    have hbegun : ((r.begun memory).keepSession r.newId s).device.Flowing := by
      rcases hf with hempty | hfull
      · exact Or.inl hempty
      · exact Or.inr (hsame.trans hfull)
    exact hplaced.flowing hbegun

theorem Renewed.flowing (h : Renewed r r') : r'.device.Flowing := by
  cases h with
  | unready hsteady => exact Or.inl hsteady.waiting
  | negotiating hsteady hlaunched => exact hlaunched.flowing (Or.inl hsteady.waiting)

theorem Abandoned.flowing {state : SessionState} {result : Bool × DeviceRun}
    (h : Abandoned r id state result) (hf : r.device.Flowing) : result.2.device.Flowing := by
  have hwithdrawn : (r.withdrawn id).device.Flowing := by
    rcases hf with hempty | hfull
    · refine Or.inl ?_
      show r.device.waiting.filter _ = []
      rw [hempty]
      rfl
    · exact Or.inr hfull
  cases h with
  | ended => exact hf
  | marked => exact hwithdrawn
  | forgotten => exact hwithdrawn

end DeviceRun

namespace DeviceHistory

variable {config : Config} {others : DeviceRun → Host → Prop} {host : Host} {h h' : DeviceHistory}

theorem Called.flowing (hcalled : Called h h') (hf : h.run.device.Flowing) :
    h'.run.device.Flowing := by
  cases hcalled with
  | steady hsteady => exact hsteady.flowing hf
  | disabled => exact Or.inl rfl
  | renewed hrenewed => exact hrenewed.flowing
  | operating _ hsteady hlaunched => exact hlaunched.flowing (hsteady.flowing hf)
  | abandoned _ habandoned => exact habandoned.flowing hf

/-- Every call leaves the queue flowing. -/
theorem flowing_perform (ho : h.run.device.Orderly) (hf : h.run.device.Flowing) (setup : Setup)
    (call : DeviceCall) : (h.perform setup call).run.device.Flowing := by
  by_cases hcall : ∃ instanceId message, call = .handleResponse instanceId message
  · obtain ⟨instanceId, message, rfl⟩ := hcall
    show (h.run.handleResponse setup instanceId message).device.Flowing
    cases hpending : h.run.device.pending.get? instanceId with
    | none =>
      rw [DeviceRun.handleResponse_of_unknown hpending]
      exact hf
    | some request =>
      rw [DeviceRun.handleResponse_of_pending hpending]
      exact (DeviceRun.rounds_pump _ setup).2.symm
  · have hasked := called_ask h setup ho fun instanceId message heq =>
      hcall ⟨instanceId, message, heq⟩
    have hsame : h.ask setup call = h.perform setup call := by
      cases call with
      | handleResponse instanceId message => exact absurd ⟨_, _, rfl⟩ hcall
      | _ => rfl
    rw [← hsame]
    exact hasked.flowing hf

theorem Reachable.flowing (hreachable : Reachable config others host h) :
    h.run.device.Flowing := by
  obtain ⟨codec, eid, tid, uuid, payloads, folder, hsteps⟩ := hreachable
  induction hsteps with
  | refl => exact Or.inl rfl
  | @tail h h' hbefore hstep ih =>
    have hreached : Reachable config others host h :=
      ⟨codec, eid, tid, uuid, payloads, folder, hbefore⟩
    cases hstep with
    | call codec' call => exact flowing_perform hreached.balanced.orderly ih _ call
    | elsewhere => exact ih

/-- In every history of a device, whatever others do to its host: when a request is held back, as many
    requests are outstanding as may be, which is one at least.  Each of them is still to be answered,
    and whatever the answer is, even that there is no response, the pump makes its rounds afterwards
    until nothing waits or the device is full again. -/
theorem queue_never_stalls (hreachable : Reachable config others host h) :
    (h.run.device.waiting ≠ [] →
      1 ≤ h.run.device.memory.metadata.effectiveConcurrency.toNat ∧
      h.run.device.memory.metadata.effectiveConcurrency.toNat ≤ h.run.device.inFlight ∧
      ∃ instanceId request, h.run.device.pending.get? instanceId = some request) ∧
    (∀ setup instanceId request message, h.run.device.pending.get? instanceId = some request →
      DeviceRun.Rounds setup ((h.run.freed instanceId).settle setup instanceId request message)
        (h.run.handleResponse setup instanceId message) ∧
      ((h.run.handleResponse setup instanceId message).device.waiting = [] ∨
        (h.run.handleResponse setup instanceId message).device.hasCapacity = false)) := by
  constructor
  · intro hwaiting
    have hone := h.run.device.memory.metadata.one_le_effectiveConcurrency
    have hfull : h.run.device.memory.metadata.effectiveConcurrency.toNat ≤
        h.run.device.pending.size := by
      have hcapacity := hreachable.flowing.resolve_left hwaiting
      exact Nat.le_of_not_lt (of_decide_eq_false hcapacity)
    refine ⟨hone, hfull, ?_⟩
    -- A table with an entry has something under its key.
    obtain ⟨entry, hentry⟩ : ∃ entry, entry ∈ h.run.device.pending.entries :=
      List.exists_mem_of_length_pos (Nat.lt_of_lt_of_le hone hfull)
    exact ⟨entry.1, entry.2, (h.run.device.pending.get?_eq_some_iff _ _).mpr hentry⟩
  · intro setup instanceId request message hpending
    have hrounds := DeviceRun.rounds_pump
      ((h.run.freed instanceId).settle setup instanceId request message) setup
    rw [DeviceRun.handleResponse_of_pending hpending]
    exact ⟨hrounds.1, hrounds.2.symm⟩

/-- In the sample a request waits, and that of another session is outstanding. -/
theorem queue_never_stalls_sample :
    sampleHistory.run.device.waiting ≠ [] ∧
    1 ≤ sampleHistory.run.device.inFlight ∧
    ∃ instanceId request, sampleHistory.run.device.pending.get? instanceId = some request := by
  have hlength : sampleHistory.run.device.waiting.length = 1 := by decide +kernel
  have hwaiting : sampleHistory.run.device.waiting ≠ [] := by
    intro hempty
    rw [hempty] at hlength
    cases hlength
  obtain ⟨hone, hfull, houtstanding⟩ :=
    (queue_never_stalls (reachable_sample DeviceRun.LeftAlone)).1 hwaiting
  exact ⟨hwaiting, Nat.le_trans hone hfull, houtstanding⟩

end DeviceHistory

end DeviceEnablement
