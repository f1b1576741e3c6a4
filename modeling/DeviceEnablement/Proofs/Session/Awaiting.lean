/-
  The response that a session waits for.

  A session is handed the body of a response, but not its command: it reads the body as its phase
  tells it to.  So the command of a request and the phase of its session have to agree.

  1. `SessionTask.awaited`: the command whose response a task takes in its phase.
  2. `SessionTask.Underway`: the transfer of a task, if it has one, is in progress.
  3. `SessionTask.Awaits`: a session that wants to send a request awaits the response to this request,
     and its transfer is in progress (`Session.start_awaits`, `Session.onResponse_awaits`).
-/
import DeviceEnablement.Proofs.Terms

namespace DeviceEnablement

/-! ## Phases -/

/-- The command whose response a negotiation takes. -/
def Negotiation.awaited : Negotiation → Command
  | redfish => .negotiateRedfishParameters
  | medium => .negotiateMediumParameters

namespace DownloadPhase

/-- The command whose response a download takes. -/
def awaited : DownloadPhase → Command
  | request => .getSchemaDictionary
  | receiving _ => .multipartReceive

/-- How far the transfer of a download has come. -/
def transfer? : DownloadPhase → Option TransferState
  | request => none
  | receiving receiver => some receiver.state

end DownloadPhase

namespace OperationPhase

/-- The command whose response an operation takes. -/
def awaited : OperationPhase → Command
  | starting => .operationInit
  | sending _ => .multipartSend
  | receiving _ => .multipartReceive
  | completing => .operationComplete

/-- How far the transfer of an operation has come, in either direction. -/
def transfer? : OperationPhase → Option TransferState
  | sending sender => some sender.state
  | receiving receiver => some receiver.state
  | starting | completing => none

end OperationPhase

namespace SessionTask

/-- The command whose response a task takes in its phase. -/
def awaited : SessionTask → Command
  | negotiation phase => phase.awaited
  | download d => d.phase.awaited
  | operation o => o.phase.awaited

/-- How far the transfer of a task has come, in a phase that has one. -/
def transfer? : SessionTask → Option TransferState
  | negotiation _ => none
  | download d => d.phase.transfer?
  | operation o => o.phase.transfer?

/-- Whether the transfer of a task, if it has one, is in progress. -/
def Underway (task : SessionTask) : Prop :=
  ∀ state, task.transfer? = some state → state = .inProgress

/-- A chunk for a download arrives while its transfer is in progress. -/
theorem Underway.download {d : Download} {receiver : Receiver} (h : (download d).Underway)
    (hphase : d.phase = .receiving receiver) : receiver.state = .inProgress := by
  refine h receiver.state ?_
  rw [transfer?, hphase]
  rfl

theorem Underway.receiving {o : Operation} {receiver : Receiver} (h : (operation o).Underway)
    (hphase : o.phase = .receiving receiver) : receiver.state = .inProgress := by
  refine h receiver.state ?_
  rw [transfer?, hphase]
  rfl

theorem Underway.sending {o : Operation} {sender : Sender} (h : (operation o).Underway)
    (hphase : o.phase = .sending sender) : sender.state = .inProgress := by
  refine h sender.state ?_
  rw [transfer?, hphase]
  rfl

/-- Whether a task is ready for the response to this request. -/
structure Awaits (task : SessionTask) (out : Outgoing) : Prop where
  command : out.command = task.awaited
  underway : task.Underway

/-- A task that has just begun awaits the response to its first request, and has no transfer. -/
theorem awaits_of_opening {task : SessionTask} {out : Outgoing} (hopening : task.isOpening = true)
    (hcommand : out.command = task.firstCommand) : task.Awaits out := by
  cases task with
  | negotiation phase =>
    have hphase : phase = .redfish := of_decide_eq_true hopening
    subst hphase
    exact ⟨hcommand, fun _ h => by cases h⟩
  | download d =>
    have hphase : d.phase = .request := of_decide_eq_true hopening
    constructor
    · rw [awaited, hphase]
      exact hcommand
    · intro state h
      rw [transfer?, hphase] at h
      cases h
  | operation o =>
    have hphase : o.phase = .starting := of_decide_eq_true hopening
    constructor
    · rw [awaited, hphase]
      exact hcommand
    · intro state h
      rw [transfer?, hphase] at h
      cases h

end SessionTask

/-! ## Requests -/

/-- A transfer that wants one more chunk is in progress. -/
theorem Receiver.start_awaits {receiver receiver' : Receiver} {out : Outgoing}
    (h : receiver.start = (.ok out, receiver')) :
    out.command = .multipartReceive ∧ receiver'.state = .inProgress := by
  unfold start at h
  split at h
  · cases h
  · split at h
    · cases h
    · cases h
      exact ⟨rfl, rfl⟩

theorem Receiver.onResponse_awaits {σ : Type} {sink : ChunkSink σ} {s s' : σ} {body : Bytes}
    {receiver receiver' : Receiver} {out : Outgoing}
    (h : receiver.onResponse sink s body = (.ok (.next out), receiver', s')) :
    out.command = .multipartReceive ∧ receiver'.state = .inProgress := by
  -- Only a failure is recorded on top of what a step comes to.
  have hadvance : receiver.advance sink s body = (.ok (.next out), receiver', s') := by
    unfold onResponse at h
    split at h
    · rename_i heq
      rw [heq, h]
    · cases h
  unfold advance at hadvance
  split at hadvance
  · cases hadvance
  · rename_i hstate
    have hstate := Decidable.of_not_not hstate
    split at hadvance
    · unfold accept at hadvance
      split at hadvance
      · cases hadvance
      · dsimp only at hadvance
        split at hadvance
        · unfold proceed at hadvance
          split at hadvance
          · cases hadvance
          · split at hadvance
            · cases hadvance
            · cases hadvance
              exact ⟨rfl, hstate⟩
        · cases hadvance
    · cases hadvance

/-- A chunk goes out with the state as it was. -/
theorem Sender.chunk_awaits {sender sender' : Sender} {out : Outgoing}
    (h : sender.chunk = (.ok out, sender')) :
    out.command = .multipartSend ∧ sender'.state = sender.state := by
  unfold chunk at h
  dsimp only at h
  obtain ⟨hsent, rfl⟩ := Prod.mk.inj h
  refine ⟨?_, rfl⟩
  unfold MultipartSendRequest.outgoing at hsent
  generalize MultipartSendRequest.encode _ = encoded at hsent
  cases encoded with
  | error e => cases hsent
  | ok body =>
    cases hsent
    rfl

/-- A transfer that wants to send one more chunk is in progress. -/
theorem Sender.start_awaits {sender sender' : Sender} {out : Outgoing}
    (h : sender.start = (.ok out, sender')) :
    out.command = .multipartSend ∧ sender'.state = .inProgress := by
  unfold start at h
  split at h
  · cases h
  · exact chunk_awaits h

theorem Sender.proceed_awaits {sender sender' : Sender} {operation : TransferOperation}
    {out : Outgoing} {events : List SendEvent}
    (h : sender.proceed operation = (.ok (.next out), sender', events)) :
    out.command = .multipartSend ∧ sender'.state = sender.state := by
  unfold proceed at h
  split at h
  · cases h
  · split at h
    · cases h
    · split at h
      · rename_i hchunk
        cases h
        have hawaits := chunk_awaits hchunk
        exact hawaits
      · cases h

theorem Sender.onResponse_awaits {sender sender' : Sender} {body : Bytes} {out : Outgoing}
    {events : List SendEvent} (h : sender.onResponse body = (.ok (.next out), sender', events)) :
    out.command = .multipartSend ∧ sender'.state = .inProgress := by
  have hadvance : sender.advance body = (.ok (.next out), sender', events) := by
    unfold onResponse at h
    split at h
    · rename_i heq
      rw [heq, h]
    · cases h
  unfold advance at hadvance
  split at hadvance
  · cases hadvance
  · rename_i hstate
    have hstate := Decidable.of_not_not hstate
    split at hadvance
    · cases hadvance
    · rename_i response _
      split at hadvance
      · cases hadvance
      · obtain ⟨⟨result, sender₁, events₁⟩, hproceed⟩ :
            ∃ result, sender.acknowledged.proceed response.operation = result := ⟨_, rfl⟩
        simp only [hproceed] at hadvance
        cases hadvance
        obtain ⟨hcommand, hsame⟩ := proceed_awaits hproceed
        exact ⟨hcommand, hsame.trans hstate⟩

namespace Operation

variable {o o' : Operation} {scope : SessionScope} {out : Outgoing} {body : Bytes}

/-- An operation that sends a chunk awaits what the device says about it. -/
theorem awaits_sending {sender : Sender} (o : Operation)
    (h : out.command = .multipartSend ∧ sender.state = .inProgress) :
    (SessionTask.operation { o with phase := .sending sender }).Awaits out := by
  refine ⟨h.1, fun state hstate => ?_⟩
  cases hstate
  exact h.2

/-- An operation that asks for a chunk awaits the chunk. -/
theorem awaits_receiving {receiver : Receiver} (o : Operation)
    (h : out.command = .multipartReceive ∧ receiver.state = .inProgress) :
    (SessionTask.operation { o with phase := .receiving receiver }).Awaits out := by
  refine ⟨h.1, fun state hstate => ?_⟩
  cases hstate
  exact h.2

theorem complete_awaits (h : o.complete = (.ok (.send out), o')) :
    (SessionTask.operation o').Awaits out := by
  cases h
  exact ⟨rfl, fun _ hstate => by cases hstate⟩

theorem collectResult_awaits (h : o.collectResult scope = (.ok (.send out), o')) :
    (SessionTask.operation o').Awaits out := by
  unfold collectResult at h
  dsimp only at h
  split at h
  · exact complete_awaits h
  · split at h
    · rename_i hstart
      cases h
      exact awaits_receiving o (Receiver.start_awaits hstart)
    · cases h

theorem sendRemainder_awaits (h : o.sendRemainder scope = (.ok (.send out), o')) :
    (SessionTask.operation o').Awaits out := by
  unfold sendRemainder at h
  split at h
  · exact collectResult_awaits h
  · dsimp only at h
    split at h
    · cases h
    · split at h
      · rename_i hstart
        cases h
        exact awaits_sending { o with remainder := none } (Sender.start_awaits hstart)
      · cases h

theorem onInit_awaits (h : o.onInit scope body = (.ok (.send out), o')) :
    (SessionTask.operation o').Awaits out := by
  unfold onInit at h
  split at h
  · cases h
  · split at h
    · cases h
    · dsimp only at h
      split at h
      · split at h
        · exact sendRemainder_awaits h
        · cases h
      · exact sendRemainder_awaits h

theorem onAcknowledgement_awaits {sender : Sender}
    (h : o.onAcknowledgement sender scope body = (.ok (.send out), o')) :
    (SessionTask.operation o').Awaits out := by
  unfold onAcknowledgement at h
  split at h
  rename_i result sender' events hsender
  dsimp only at h
  split at h
  · cases h
    exact awaits_sending o (Sender.onResponse_awaits hsender)
  · exact collectResult_awaits h
  · cases h

theorem onChunk_awaits {receiver : Receiver}
    (h : o.onChunk receiver scope body = (.ok (.send out), o')) :
    (SessionTask.operation o').Awaits out := by
  unfold onChunk at h
  split at h
  rename_i result receiver' response hreceiver
  dsimp only at h
  split at h
  · cases h
    exact awaits_receiving { o with response } (Receiver.onResponse_awaits hreceiver)
  · exact complete_awaits h
  · cases h

/-- An operation that wants to send a request awaits the response to it. -/
theorem onResponse_awaits {memory memory' : DeviceMemory}
    (h : o.onResponse scope memory body = (.ok (.send out), o', memory')) :
    (SessionTask.operation o').Awaits out := by
  unfold onResponse at h
  split at h
  · obtain ⟨hresult, ho⟩ := Prod.mk.inj h
    exact onInit_awaits (Prod.ext hresult (Prod.mk.inj ho).1)
  · obtain ⟨hresult, ho⟩ := Prod.mk.inj h
    exact onAcknowledgement_awaits (Prod.ext hresult (Prod.mk.inj ho).1)
  · obtain ⟨hresult, ho⟩ := Prod.mk.inj h
    exact onChunk_awaits (Prod.ext hresult (Prod.mk.inj ho).1)
  · unfold onComplete at h
    split at h
    · cases h
    · dsimp only at h
      split at h <;> cases h

end Operation

/-- A download that wants to send a request awaits the response to it. -/
theorem Download.onResponse_awaits {d d' : Download} {scope : SessionScope}
    {memory memory' : DeviceMemory} {body : Bytes} {out : Outgoing}
    (h : d.onResponse scope memory body = (.ok (.send out), d', memory')) :
    (SessionTask.download d').Awaits out := by
  have hreceiving : ∀ receiver : Receiver,
      out.command = .multipartReceive ∧ receiver.state = .inProgress →
      (SessionTask.download { d with phase := .receiving receiver }).Awaits out := by
    intro receiver hready
    refine ⟨hready.1, fun state hstate => ?_⟩
    cases hstate
    exact hready.2
  unfold onResponse at h
  split at h
  · unfold onPlace at h
    split at h
    · cases h
    · dsimp only at h
      -- The transfer is new: it begins now or not at all.
      split at h
      · rename_i receiver hstart
        cases h
        exact hreceiving receiver (Receiver.start_awaits hstart)
      · cases h
  · unfold onChunk at h
    split at h
    rename_i result receiver' store hreceiver
    dsimp only at h
    split at h
    · cases h
      exact hreceiving receiver' (Receiver.onResponse_awaits hreceiver)
    · cases h
    · cases h

/-- A task that wants to send a request awaits the response to it. -/
theorem SessionTask.onResponse_awaits {task task' : SessionTask} {scope : SessionScope}
    {memory memory' : DeviceMemory} {body : Bytes} {out : Outgoing}
    (h : task.onResponse scope memory body = (.ok (.send out), task', memory')) :
    task'.Awaits out := by
  cases task with
  | negotiation phase =>
    cases phase with
    | redfish =>
      simp only [onResponse, Negotiation.onResponse, Negotiation.onRedfish] at h
      split at h
      · cases h
      · cases h
        exact ⟨rfl, fun _ hstate => by cases hstate⟩
    | medium =>
      simp only [onResponse, Negotiation.onResponse, Negotiation.onMedium] at h
      split at h <;> cases h
  | download d =>
    obtain ⟨⟨result, d', memory₁⟩, hd⟩ : ∃ result, d.onResponse scope memory body = result :=
      ⟨_, rfl⟩
    simp only [onResponse, hd] at h
    cases h
    exact Download.onResponse_awaits hd
  | operation o =>
    obtain ⟨⟨result, o', memory₁⟩, ho⟩ : ∃ result, o.onResponse scope memory body = result :=
      ⟨_, rfl⟩
    simp only [onResponse, ho] at h
    cases h
    exact Operation.onResponse_awaits ho

/-! ## Sessions -/

namespace Session

variable {s s' : Session} {scope : SessionScope} {memory memory' : DeviceMemory} {out : Outgoing}

/-- A session that has begun awaits the response to its first request. -/
theorem start_awaits (hopening : s.task.isOpening = true)
    (h : s.start scope memory = (.ok (.send out), s', memory')) : s'.task.Awaits out := by
  obtain ⟨-, -, hopening', hcommand⟩ := start_send hopening h
  exact SessionTask.awaits_of_opening hopening' hcommand

/-- A session that wants to send once more awaits the response to that request. -/
theorem onResponse_awaits {body : Bytes} (ha : s.state.isAbandoned = false)
    (h : s.onResponse scope memory body = (.ok (.send out), s', memory')) :
    s'.task.Awaits out := by
  unfold onResponse at h
  rw [if_neg (by simp [ha])] at h
  split at h
  · cases h
  · obtain ⟨⟨result, task, memory₁⟩, htask⟩ :
        ∃ result, s.task.onResponse scope memory body = result := ⟨_, rfl⟩
    simp only [htask] at h
    cases h
    exact SessionTask.onResponse_awaits htask

end Session

end DeviceEnablement
