/-
  Operations that are rejected.

  An operation may be rejected before it has a session, by its session, or because its first request
  cannot be sent; by then the session is kept already, and an instance id is in use.  Whichever it is,
  everything is taken back.

  1. `DeviceRun.SameButNumbers`: two runs differ in the numbers that the device gives out next, and
     in how often the transport was tried.
  2. `sameButNumbers_startSession`: so they do when an operation session cannot begin.
  3. `rejected_without_trace`: so they do when an operation is rejected, in every history.
-/
import DeviceEnablement.Proofs.Device.Provisions

namespace DeviceEnablement

namespace DeviceRun

variable {setup : Setup} {r r' : DeviceRun} {s : Session} {e : Failure}

/-- Whether two runs differ in nothing but the numbers that are given out next.  The device has the
    same sessions, the same requests outstanding, waiting and queued, the same metadata, registry and
    store, and is in the same state.  At every endpoint the same instance ids are in use, and the
    transport has taken the same requests. -/
structure SameButNumbers (r r' : DeviceRun) : Prop where
  device : r'.device = { r.device with
    nextSession := r'.device.nextSession, nextOperationId := r'.device.nextOperationId }
  host : r.host.Undisturbed r'.host
  completions : r'.completions = r.completions

theorem SameButNumbers.refl (r : DeviceRun) : r.SameButNumbers r :=
  ⟨rfl, ⟨fun _ => rfl, rfl⟩, rfl⟩

theorem SameButNumbers.of_counted {id : UInt16}
    (h : ({ r with device.nextOperationId := id } : DeviceRun).SameButNumbers r') :
    r.SameButNumbers r' :=
  ⟨h.device, h.host, h.completions⟩

/-- An operation session that cannot begin leaves nothing behind. -/
theorem sameButNumbers_startSession (ho : r.device.Orderly)
    (hoperation : s.task.isOperation = true) (h : r.startSession setup s = (.error e, r')) :
    r.SameButNumbers r' := by
  have hmemory := memory_startSession hoperation r setup
  have hstarted := started_startSession r setup s
  rw [h] at hmemory hstarted
  cases hstarted with
  | refused e memory =>
    have hsame : memory = r.device.memory := hmemory
    subst hsame
    exact ⟨rfl, ⟨fun _ => rfl, rfl⟩, rfl⟩
  | unsent e memory hundisturbed =>
    have hsame : memory = r.device.memory := hmemory
    subst hsame
    -- The session had a number of its own, so taking it out again restores the table.
    have hsessions : r.device.sessions.erase r.newId = r.device.sessions :=
      Table.erase_of_missing ho.get?_next
    refine ⟨?_, hundisturbed, rfl⟩
    show ({ r.device with
      sessions := r.device.sessions.erase r.newId
      nextSession := r.device.nextSession + 1 } : Device) = _
    rw [hsessions]
    rfl

theorem sameButNumbers_startOperation (ho : r.device.Orderly) {request : OperationRequest}
    (h : r.startOperation setup request = (.error e, r')) : r.SameButNumbers r' := by
  unfold startOperation at h
  split at h
  · cases h
    exact .refl r
  · split at h
    · cases h
      exact .refl r
    · have hcounted : ({ r with device.nextOperationId :=
          Device.operationIdAfter r.device.nextOperationId } : DeviceRun).device.Orderly :=
        ⟨ho.states, ho.numbers⟩
      exact .of_counted (sameButNumbers_startSession hcounted rfl h)

end DeviceRun

namespace DeviceHistory

variable {config : Config} {others : DeviceRun → Host → Prop} {host : Host} {h : DeviceHistory}

/-- In every history of a device, whatever others do to its host: an operation that is rejected, for
    whatever reason, leaves no trace but the numbers that were given out. -/
theorem rejected_without_trace (hreachable : Reachable config others host h) {setup : Setup}
    {request : OperationRequest} {e : Failure} {r : DeviceRun}
    (hrejected : h.run.startOperation setup request = (.error e, r)) :
    h.run.SameButNumbers r :=
  DeviceRun.sameButNumbers_startOperation hreachable.balanced.orderly hrejected

/-! ### A link that goes down -/

/-- A host whose transport takes the requests of a negotiation, and refuses the one behind them. -/
def faltering : Host where
  transport := {
    refusal := fun attempt _ => if attempt = 2 then some (.transport "link down") else none }

/-- A device that has negotiated on that host. -/
def falteringHistory : DeviceHistory :=
  (found sampleSetup 8 1 ⟨0⟩ [sampleRecord] {} faltering).performAll sampleSetup
    (sampleCalls.take 3)

/-- The first operation has a session and an instance id, 2, when the transport refuses its request.
    Both are gone afterwards. -/
theorem rejected_without_trace_refused :
    (falteringHistory.run.startOperation sampleSetup sampleRequest).1 =
      .error (.transport "link down") ∧
    falteringHistory.run.SameButNumbers
      (falteringHistory.run.startOperation sampleSetup sampleRequest).2 ∧
    (falteringHistory.run.startOperation sampleSetup sampleRequest).2.host.transport.attempts = 3 ∧
    ((falteringHistory.run.startOperation sampleSetup sampleRequest).2.host.ids.pool 8) =
      { allocated := [], cursor := 3 } := by
  have hreachable : Reachable sampleSetup.config (fun _ _ => True) faltering falteringHistory :=
    ⟨sampleSetup.codec, 8, 1, ⟨0⟩, [sampleRecord], {}, steps_performAll _ _ _ _⟩
  have hrejected : (falteringHistory.run.startOperation sampleSetup sampleRequest).1 =
      .error (.transport "link down") := by
    decide +kernel
  exact ⟨hrejected, rejected_without_trace hreachable (Prod.ext hrejected rfl),
    by decide +kernel, by decide +kernel⟩

end DeviceHistory

end DeviceEnablement
