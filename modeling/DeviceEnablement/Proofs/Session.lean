/-
  What the steps of a session yield.

  1. No step changes what kind of task a session has.
  2. A session that has begun, or that wants to send once more, waits for a response
     (`Session.start_ok`, `Session.onResponse_send`).
  3. A session that has not been given up never discards a response, and its output fits its task
     (`Session.onResponse_suits`).
-/
import DeviceEnablement.Session.Basic

namespace DeviceEnablement

/-! ## Steps and tasks -/

/-- Whether an output is that of an operation. -/
def SessionOutput.isOperation : SessionOutput → Bool
  | operation _ => true
  | _ => false

/-- Whether a task that is an operation, or is none, may take this step. -/
def Step.Suits (isOperation : Bool) : Step → Prop
  | send _ => True
  | done output => output.isOperation = isOperation
  | discarded => False

/-- Whether a result is a failure or one more request. -/
def SendsOrFails (result : Except Failure Step) : Prop :=
  ∀ step, result = .ok step → ∃ out, step = .send out

theorem SendsOrFails.error (e : Failure) : SendsOrFails (.error e) :=
  fun _ h => by cases h

theorem SendsOrFails.send (out : Outgoing) : SendsOrFails (.ok (.send out)) :=
  fun _ h => ⟨out, (Except.ok.inj h).symm⟩

/-! ## Operations -/

namespace Operation

variable (o : Operation) (scope : SessionScope)

theorem collectResult_sends : SendsOrFails (o.collectResult scope).1 := by
  unfold collectResult
  dsimp only
  split
  · exact .send _
  · split
    · exact .send _
    · exact .error _

theorem sendRemainder_sends : SendsOrFails (o.sendRemainder scope).1 := by
  unfold sendRemainder
  split
  · exact o.collectResult_sends scope
  · dsimp only
    split
    · exact .error _
    · split
      · exact .send _
      · exact .error _

theorem onInit_sends (body : Bytes) : SendsOrFails (o.onInit scope body).1 := by
  unfold onInit
  split
  · exact .error _
  · split
    · exact .error _
    · dsimp only
      split
      · split
        · exact sendRemainder_sends _ scope
        · exact .error _
      · exact sendRemainder_sends _ scope

theorem onAcknowledgement_sends (sender : Sender) (body : Bytes) :
    SendsOrFails (o.onAcknowledgement sender scope body).1 := by
  unfold onAcknowledgement
  dsimp only
  split
  · exact .send _
  · exact collectResult_sends _ scope
  · exact .error _

theorem onChunk_sends (receiver : Receiver) (body : Bytes) :
    SendsOrFails (o.onChunk receiver scope body).1 := by
  unfold onChunk
  dsimp only
  split
  · exact .send _
  · exact .send _
  · exact .error _

/-- Only the response to the request to complete ends an operation. -/
theorem onResponse_suits (memory : DeviceMemory) (body : Bytes) {step : Step}
    (h : (o.onResponse scope memory body).1 = .ok step) : step.Suits true := by
  have of_sends : ∀ result, SendsOrFails result → result = .ok step → step.Suits true := by
    intro result hsends hresult
    obtain ⟨out, rfl⟩ := hsends step hresult
    trivial
  unfold onResponse at h
  split at h
  · exact of_sends _ (o.onInit_sends scope body) h
  · exact of_sends _ (o.onAcknowledgement_sends scope _ body) h
  · exact of_sends _ (o.onChunk_sends scope _ body) h
  · unfold onComplete at h
    split at h
    · cases h
    · dsimp only at h
      split at h
      · cases h
      · cases h
        rfl

end Operation

/-! ## Tasks -/

namespace SessionTask

theorem isOperation_start (task : SessionTask) (scope : SessionScope) (memory : DeviceMemory) :
    (task.start scope memory).2.1.isOperation = task.isOperation := by
  cases task <;> rfl

theorem isOperation_onResponse (task : SessionTask) (scope : SessionScope)
    (memory : DeviceMemory) (body : Bytes) :
    (task.onResponse scope memory body).2.1.isOperation = task.isOperation := by
  cases task <;> rfl

theorem onResponse_suits (task : SessionTask) (scope : SessionScope) (memory : DeviceMemory)
    (body : Bytes) {step : Step} (h : (task.onResponse scope memory body).1 = .ok step) :
    step.Suits task.isOperation := by
  cases task with
  | negotiation phase =>
    cases phase with
    | redfish =>
      simp only [onResponse, Negotiation.onResponse, Negotiation.onRedfish] at h
      split at h <;> cases h
      trivial
    | medium =>
      simp only [onResponse, Negotiation.onResponse, Negotiation.onMedium] at h
      split at h <;> cases h
      rfl
  | download d =>
    simp only [onResponse, Download.onResponse] at h
    split at h
    · unfold Download.onPlace at h
      split at h
      · cases h
      · dsimp only at h
        split at h <;> cases h
        trivial
    · unfold Download.onChunk at h
      dsimp only at h
      split at h <;> cases h
      · trivial
      · rfl
  | operation o => exact o.onResponse_suits scope memory body h

end SessionTask

/-! ## Sessions -/

theorem SessionState.isAbandoned_iff {state : SessionState} :
    state.isAbandoned = true ↔ state = .timedOut ∨ state = .cancelled := by
  cases state <;> simp [isAbandoned]

namespace Session

variable {s s' : Session} {scope : SessionScope} {memory memory' : DeviceMemory} {body : Bytes}

/-- A session that has begun waits for a response. -/
theorem start_ok {step : Step} (h : s.start scope memory = (.ok step, s', memory')) :
    s'.state = .waiting ∧ s'.task.isOperation = s.task.isOperation := by
  have htask := s.task.isOperation_start scope memory
  unfold start at h
  split at h
  · cases h
  · split at h
    · rename_i heq
      rw [heq] at htask
      cases h
      exact ⟨rfl, htask⟩
    · cases h

variable {result : Except Failure Step}

theorem isOperation_onResponse (h : s.onResponse scope memory body = (result, s', memory')) :
    s'.task.isOperation = s.task.isOperation := by
  unfold onResponse at h
  split at h
  · cases h
    rfl
  · split at h
    · cases h
      rfl
    · cases h
      exact s.task.isOperation_onResponse scope memory body

/-- A session that has not been given up takes a step that suits its task. -/
theorem onResponse_suits {step : Step} (ha : s.state.isAbandoned = false)
    (h : s.onResponse scope memory body = (.ok step, s', memory')) :
    step.Suits s.task.isOperation := by
  unfold onResponse at h
  rw [if_neg (by simp [ha])] at h
  split at h
  · cases h
  · obtain ⟨hresult, -⟩ := Prod.mk.inj h
    exact s.task.onResponse_suits scope memory body hresult

/-- A session that wants to send once more waits for a response. -/
theorem onResponse_send {out : Outgoing} (ha : s.state.isAbandoned = false)
    (h : s.onResponse scope memory body = (.ok (.send out), s', memory')) :
    s'.state = .waiting := by
  unfold onResponse at h
  rw [if_neg (by simp [ha])] at h
  split at h
  · cases h
  · rename_i hstate
    obtain ⟨hresult, hrest⟩ := Prod.mk.inj h
    obtain ⟨rfl, -⟩ := Prod.mk.inj hrest
    show stateAfter s.state _ = _
    rw [hresult]
    exact Decidable.of_not_not hstate

end Session

end DeviceEnablement
