/-
  Late responses.

  A response is late when its request is of an older generation, or when its session was given up.
  It still gives its instance id back, and so lets requests go that have waited, but nothing depends
  on what it says.

  1. `settle_of_late`: the answer is not looked at.
  2. `Untouched`: what a device knows about its endpoint, and how far it has got, stay as they are.
     They do so as long as the transport takes what the pump sends (`AllTaken`, `untouched_pump`).
  3. `late_response_ignored`: the message of a late response makes no difference, it ends no
     session with a report about that session, and it teaches the device nothing.
-/
import DeviceEnablement.Proofs.Device.Outstanding
import DeviceEnablement.Proofs.Device.Reports

namespace DeviceEnablement

namespace DeviceRun

/-- Whether the response to a request is late: the request is of an older generation, or its session
    was given up. -/
def Late (r : DeviceRun) (request : PendingRequest) : Prop :=
  request.generation < r.device.generation ∨
    ∃ s, r.device.sessions.get? request.session = some s ∧
      (s.state = .timedOut ∨ s.state = .cancelled)

/-- Whether the transport takes every request that the pump, set going in `r`, takes from the
    queue. -/
def AllTaken (setup : Setup) (r : DeviceRun) : Prop :=
  ∀ r' id out rest, Rounds setup r r' → r'.device.hasCapacity = true →
    r'.device.waiting = (id, out) :: rest →
      ∃ r'', Sent { r' with device.waiting := rest } id out r''

/-- Whether two runs agree on what the device knows, and on how far it has got. -/
structure Untouched (r r' : DeviceRun) : Prop where
  metadata : r'.device.memory.metadata = r.device.memory.metadata := by rfl
  registry : r'.device.registry = r.device.registry := by rfl
  store : r'.device.memory.store = r.device.memory.store := by rfl
  state : r'.device.state = r.device.state := by rfl
  dictionaryQueue : r'.device.dictionaryQueue = r.device.dictionaryQueue := by rfl

variable {setup : Setup} {r r' r'' : DeviceRun} {request : PendingRequest} {id : SessionId}
  {out : Outgoing}

theorem Untouched.trans (h : Untouched r r') (h' : Untouched r' r'') : Untouched r r'' where
  metadata := h'.metadata.trans h.metadata
  registry := h'.registry.trans h.registry
  store := h'.store.trans h.store
  state := h'.state.trans h.state
  dictionaryQueue := h'.dictionaryQueue.trans h.dictionaryQueue

/-! ## Settling -/

/-- The answer to a late response is not looked at. -/
theorem settle_of_late (hlate : r.Late request) (instanceId : UInt8) (message : Option Bytes) :
    r.settle setup instanceId request message =
      if request.generation ≠ r.device.generation then r else r.dropSession request.session := by
  unfold settle
  split
  · rfl
  · rename_i hcurrent
    rcases hlate with hold | ⟨s, hs, hstate⟩
    · exact absurd (Nat.ne_of_lt hold) hcurrent
    · rw [hs]
      dsimp only
      rw [if_pos (SessionState.isAbandoned_iff.mpr hstate)]

theorem untouched_settle (hlate : r.Late request) (instanceId : UInt8) (message : Option Bytes) :
    Untouched r (r.settle setup instanceId request message) := by
  rw [settle_of_late hlate]
  split <;> exact ⟨rfl, rfl, rfl, rfl, rfl⟩

/-! ## Releasing -/

theorem Sent.sendNow_eq (h : Sent r id out r') : r.sendNow id out = (.ok (), r') := by
  cases h with
  | intro hallocate hencoded haccepted =>
    unfold sendNow
    dsimp only
    rw [hallocate]
    dsimp only
    rw [hencoded]
    dsimp only
    rw [haccepted]

theorem Sent.untouched (h : Sent r id out r') : Untouched r r' := by
  cases h
  exact ⟨rfl, rfl, rfl, rfl, rfl⟩

/-- A request that is taken from the queue, and that the transport takes, teaches the device
    nothing. -/
theorem untouched_sendWaiting (setup : Setup) (htaken : ∃ r', Sent r id out r') :
    Untouched r (r.sendWaiting setup id out) := by
  obtain ⟨r', hsent⟩ := htaken
  unfold sendWaiting
  split
  · exact ⟨rfl, rfl, rfl, rfl, rfl⟩
  · split
    · exact ⟨rfl, rfl, rfl, rfl, rfl⟩
    · rw [hsent.sendNow_eq]
      exact hsent.untouched

theorem untouched_rounds (htaken : AllTaken setup r) (h : Rounds setup r r') : Untouched r r' := by
  induction h with
  | first => exact ⟨rfl, rfl, rfl, rfl, rfl⟩
  | @next r' id out rest hbefore hcapacity hw ih =>
    have hpopped : Untouched r' { r' with device.waiting := rest } := ⟨rfl, rfl, rfl, rfl, rfl⟩
    have hsent := untouched_sendWaiting setup (htaken r' id out rest hbefore hcapacity hw)
    exact ih.trans (hpopped.trans hsent)

theorem untouched_pump (htaken : AllTaken setup r) : Untouched r (r.pump setup) :=
  untouched_rounds htaken (rounds_pump r setup).1

/-- A single request that fills the device is taken if it can be sent. -/
theorem allTaken_of_filling {rest : List (SessionId × Outgoing)}
    (hw : r.device.waiting = (id, out) :: rest)
    (hsent : (({ r with device.waiting := rest } : DeviceRun).sendNow id out).1.isOk = true)
    (hfull : (({ r with device.waiting := rest } : DeviceRun).sendWaiting setup id
      out).device.hasCapacity = false) : AllTaken setup r := by
  have hrounds : ∀ r', Rounds setup r r' → r'.device.hasCapacity = true → r' = r := by
    intro r' h
    induction h with
    | first => exact fun _ => rfl
    | @next r' id' out' rest' _ hcapacity hw' ih =>
      -- There is a second round, but it has no capacity.
      intro hcapacity'
      obtain rfl := ih hcapacity
      obtain ⟨hhead, rfl⟩ := List.cons.inj (hw.symm.trans hw')
      obtain ⟨rfl, rfl⟩ := Prod.mk.inj hhead
      rw [hfull] at hcapacity'
      cases hcapacity'
  intro r' id' out' rest' h hcapacity hw'
  obtain rfl := hrounds r' h hcapacity
  obtain ⟨hhead, rfl⟩ := List.cons.inj (hw.symm.trans hw')
  obtain ⟨rfl, rfl⟩ := Prod.mk.inj hhead
  rcases sendNow_cases { r' with device.waiting := rest } id out with
    ⟨r'', -, h⟩ | ⟨e, host, heq, -⟩
  · exact ⟨r'', h⟩
  · rw [heq] at hsent
    cases hsent

/-! ## Reports -/

/-- No report is due for the session of a late response. -/
theorem runs_of_late (h : r.Sound none) {instanceId : UInt8}
    (hpending : r.device.pending.get? instanceId = some request) (hlate : r.Late request) :
    r.device.runs request.session = false := by
  rcases hlate with hold | ⟨s, hs, hstate⟩
  · have hgone := h.coherent.stale request (Table.mem_values hpending) (Nat.ne_of_lt hold)
    unfold Device.runs
    rw [hgone]
    rfl
  · rw [runs_of_found hs, SessionState.isAbandoned_iff.mpr hstate]
    simp

/-- What is faithful to the reports makes none that is not due. -/
theorem not_reported_of_faithful (h : Faithful r r') (hruns : r.device.runs id = false) :
    ∃ new, r'.completions = r.completions ++ new ∧ ∀ c ∈ new, c.session ≠ id := by
  obtain ⟨new, hnew⟩ := h.reports
  refine ⟨new, hnew.symm, fun c hc hid => ?_⟩
  have hdues := h.dues id
  unfold dues reported at hdues
  rw [← hnew, List.map_append, List.count_append, hruns, if_neg Bool.false_ne_true] at hdues
  -- The reports grow by `new` alone, but the number of those about `id` stays.
  have hpos : 0 < (new.map (·.session)).count id :=
    List.count_pos_iff.mpr (hid ▸ List.mem_map_of_mem hc)
  omega

end DeviceRun

namespace DeviceHistory

variable {config : Config} {host : Host} {h : DeviceHistory}

/-- In every history in which others respect the device, and for every request whose response is
    late: whatever the response says, the device and its host are the same afterwards, down to the
    requests that were sent and the operations that were reported.  None of these reports is about
    the session of the request.  When the transport takes every request that is released, the
    device has learned and forgotten nothing, and is in the same state. -/
theorem late_response_ignored (hreachable : Reachable config DeviceRun.Respected host h)
    {instanceId : UInt8} {request : PendingRequest}
    (hpending : h.run.device.pending.get? instanceId = some request)
    (hlate : h.run.Late request) (setup : Setup) :
    (∀ m₁ m₂, h.run.handleResponse setup instanceId m₁ =
      h.run.handleResponse setup instanceId m₂) ∧
    (∀ m, ∃ new, (h.run.handleResponse setup instanceId m).completions =
      h.run.completions ++ new ∧ ∀ c ∈ new, c.session ≠ request.session) ∧
    (∀ m, DeviceRun.AllTaken setup
        ((h.run.freed instanceId).settle setup instanceId request m) →
      DeviceRun.Untouched h.run (h.run.handleResponse setup instanceId m)) := by
  have hsound := hreachable.sound
  have hfreed : (h.run.freed instanceId).Late request := hlate
  refine ⟨fun m₁ m₂ => ?_, fun m => ?_, fun m htaken => ?_⟩
  · rw [DeviceRun.handleResponse_of_pending hpending, DeviceRun.handleResponse_of_pending hpending,
      DeviceRun.settle_of_late hfreed, DeviceRun.settle_of_late hfreed]
  · obtain ⟨r, hanswered, hmoves⟩ := DeviceRun.answered_handleResponse setup hpending m
    have hfaithful := DeviceRun.faithful_answered hsound.coherent.toOrderly hanswered
    exact DeviceRun.not_reported_of_faithful
      (hfaithful.trans (DeviceRun.faithful_moves hfaithful.orderly hmoves))
      (DeviceRun.runs_of_late hsound hpending hlate)
  · have hanswered : DeviceRun.Untouched h.run (h.run.freed instanceId) := {}
    rw [DeviceRun.handleResponse_of_pending hpending]
    exact hanswered.trans ((DeviceRun.untouched_settle hfreed instanceId m).trans
      (DeviceRun.untouched_pump htaken))

/-- In the sample the second operation has run out of time while its request is outstanding.  Its
    response lets the request of the fourth operation go, which the transport takes. -/
theorem late_response_ignored_sample :
    sampleHistory.run.device.pending.get? 3 = some ⟨⟨3⟩, 1, .operationInit⟩ ∧
    sampleHistory.run.Late ⟨⟨3⟩, 1, .operationInit⟩ ∧
    (∀ m₁ m₂, sampleHistory.run.handleResponse sampleSetup 3 m₁ =
      sampleHistory.run.handleResponse sampleSetup 3 m₂) ∧
    DeviceRun.Untouched sampleHistory.run
      (sampleHistory.run.handleResponse sampleSetup 3 none) := by
  have hpending : sampleHistory.run.device.pending.get? 3 = some ⟨⟨3⟩, 1, .operationInit⟩ := by
    decide +kernel
  have hlate : sampleHistory.run.Late ⟨⟨3⟩, 1, .operationInit⟩ := by
    have hstate : sampleHistory.run.device.sessionState? ⟨3⟩ = some .timedOut := by decide +kernel
    obtain ⟨s, hs, htimedOut⟩ := Option.map_eq_some_iff.mp hstate
    exact Or.inr ⟨s, hs, Or.inl htimedOut⟩
  have hwaiting : ((sampleHistory.run.freed 3).settle sampleSetup 3 ⟨⟨3⟩, 1, .operationInit⟩
      none).device.waiting =
        [(⟨5⟩, ⟨.operationInit, [1, 0, 0, 0, 4, 0, 0, 0, 0, 0, 0, 0, 0, 0, 0, 0, 0]⟩)] := by
    decide +kernel
  have htaken : DeviceRun.AllTaken sampleSetup ((sampleHistory.run.freed 3).settle sampleSetup 3
      ⟨⟨3⟩, 1, .operationInit⟩ none) :=
    DeviceRun.allTaken_of_filling hwaiting (by decide +kernel) (by decide +kernel)
  have hignored := late_response_ignored (reachable_sample _) hpending hlate sampleSetup
  exact ⟨hpending, hlate, hignored.1, hignored.2.2 none htaken⟩

end DeviceHistory

end DeviceEnablement
