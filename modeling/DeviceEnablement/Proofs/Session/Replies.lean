/-
  What a session reads from a body.

  1. `Reply.decode`: the responses, command by command.
  2. `SessionTask.onResponse_congr`: a task learns nothing from a body but the response it awaits.
  3. `SessionTask.onResponse_unreadable`: it fails when that response cannot be read.
-/
import DeviceEnablement.Proofs.Session.Awaiting

namespace DeviceEnablement

/-! ## Replies -/

/-- What can be read from the body of a response. -/
inductive Reply
  | parameters (response : NegotiateRedfishResponse)
  | medium (response : NegotiateMediumResponse)
  | place (response : GetSchemaDictionaryResponse)
  | begun (response : OperationInitResponse)
  | ended (response : OperationCompleteResponse)
  | acknowledgement (response : MultipartSendResponse)
  | part (response : MultipartReceiveResponse)
  deriving DecidableEq

/-- The response to a request with this command, in a body; responses to commands that are never
    sent are not read. -/
def Reply.decode (command : Command) (body : Bytes) : Except MessageError Reply :=
  match command with
  | .negotiateRedfishParameters => (NegotiateRedfishResponse.decode body).map .parameters
  | .negotiateMediumParameters => (NegotiateMediumResponse.decode body).map .medium
  | .getSchemaDictionary => (GetSchemaDictionaryResponse.decode body).map .place
  | .operationInit => (OperationInitResponse.decode body).map .begun
  | .operationComplete => (OperationCompleteResponse.decode body).map .ended
  | .multipartSend => (MultipartSendResponse.decode body).map .acknowledgement
  | .multipartReceive => (MultipartReceiveResponse.decode body).map .part
  | _ => .error (.unknownCommand command.code)

namespace Reply

variable {α β : Type} {f : α → β} {x y : Except MessageError α}

/-- Bodies in which the same is read are read alike. -/
theorem eq_of_map_eq (hf : Function.Injective f) (h : x.map f = y.map f) : x = y := by
  cases x with
  | error e =>
    cases y with
    | error e' =>
      cases h
      rfl
    | ok b => cases h
  | ok a =>
    cases y with
    | error e => cases h
    | ok b => exact congrArg Except.ok (hf (Except.ok.inj h))

theorem error_of_map_eq {e : MessageError} (h : x.map f = .error e) : x = .error e := by
  cases x with
  | error e' =>
    cases h
    rfl
  | ok a => cases h

end Reply

namespace Receiver

variable {σ : Type} {sink : ChunkSink σ} {s : σ} {receiver : Receiver} {body body' : Bytes}

theorem onResponse_congr
    (h : Reply.decode .multipartReceive body = Reply.decode .multipartReceive body') :
    receiver.onResponse sink s body = receiver.onResponse sink s body' := by
  have hdecode := Reply.eq_of_map_eq (fun _ _ h => Reply.part.inj h) h
  unfold onResponse advance
  rw [hdecode]

theorem onResponse_unreadable {e : MessageError} (hunderway : receiver.state = .inProgress)
    (h : Reply.decode .multipartReceive body = .error e) :
    (receiver.onResponse sink s body).1 = .error (.message e) := by
  have hdecode := Reply.error_of_map_eq h
  unfold onResponse advance
  rw [if_neg (fun hne => hne hunderway), hdecode]

end Receiver

namespace Sender

variable {sender : Sender} {body body' : Bytes}

theorem onResponse_congr
    (h : Reply.decode .multipartSend body = Reply.decode .multipartSend body') :
    sender.onResponse body = sender.onResponse body' := by
  have hdecode := Reply.eq_of_map_eq (fun _ _ h => Reply.acknowledgement.inj h) h
  unfold onResponse advance
  rw [hdecode]

theorem onResponse_unreadable {e : MessageError} (hunderway : sender.state = .inProgress)
    (h : Reply.decode .multipartSend body = .error e) :
    (sender.onResponse body).1 = .error (.message e) := by
  have hdecode := Reply.error_of_map_eq h
  unfold onResponse advance
  rw [if_neg (fun hne => hne hunderway), hdecode]

end Sender

namespace SessionTask

variable {task : SessionTask} {scope : SessionScope} {memory : DeviceMemory} {body body' : Bytes}

/-- A task learns nothing from a body but the response it awaits. -/
theorem onResponse_congr (h : Reply.decode task.awaited body = Reply.decode task.awaited body') :
    task.onResponse scope memory body = task.onResponse scope memory body' := by
  cases task with
  | negotiation phase =>
    cases phase with
    | redfish =>
      have hdecode := Reply.eq_of_map_eq (fun _ _ h => Reply.parameters.inj h) h
      simp only [onResponse, Negotiation.onResponse, Negotiation.onRedfish, hdecode]
    | medium =>
      have hdecode := Reply.eq_of_map_eq (fun _ _ h => Reply.medium.inj h) h
      simp only [onResponse, Negotiation.onResponse, Negotiation.onMedium, hdecode]
  | download d =>
    suffices hd : d.onResponse scope memory body = d.onResponse scope memory body' by
      simp only [onResponse, hd]
    unfold Download.onResponse
    cases hphase : d.phase with
    | request =>
      rw [awaited, hphase] at h
      have hdecode := Reply.eq_of_map_eq (fun _ _ h => Reply.place.inj h) h
      simp only [Download.onPlace, hdecode]
    | receiving receiver =>
      rw [awaited, hphase] at h
      simp only [Download.onChunk, Receiver.onResponse_congr h]
  | operation o =>
    suffices ho : o.onResponse scope memory body = o.onResponse scope memory body' by
      simp only [onResponse, ho]
    unfold Operation.onResponse
    cases hphase : o.phase with
    | starting =>
      rw [awaited, hphase] at h
      have hdecode := Reply.eq_of_map_eq (fun _ _ h => Reply.begun.inj h) h
      simp only [Operation.onInit, hdecode]
    | sending sender =>
      rw [awaited, hphase] at h
      simp only [Operation.onAcknowledgement, Sender.onResponse_congr h]
    | receiving receiver =>
      rw [awaited, hphase] at h
      simp only [Operation.onChunk, Receiver.onResponse_congr h]
    | completing =>
      rw [awaited, hphase] at h
      have hdecode := Reply.eq_of_map_eq (fun _ _ h => Reply.ended.inj h) h
      simp only [Operation.onComplete, hdecode]

/-- A task fails when the response it awaits cannot be read from the body. -/
theorem onResponse_unreadable {e : MessageError} (hunderway : task.Underway)
    (h : Reply.decode task.awaited body = .error e) :
    (task.onResponse scope memory body).1 = .error (.message e) := by
  cases task with
  | negotiation phase =>
    cases phase with
    | redfish =>
      have hdecode := Reply.error_of_map_eq h
      simp only [onResponse, Negotiation.onResponse, Negotiation.onRedfish, hdecode]
    | medium =>
      have hdecode := Reply.error_of_map_eq h
      simp only [onResponse, Negotiation.onResponse, Negotiation.onMedium, hdecode]
  | download d =>
    show (d.onResponse scope memory body).1 = _
    unfold Download.onResponse
    cases hphase : d.phase with
    | request =>
      rw [awaited, hphase] at h
      have hdecode := Reply.error_of_map_eq h
      simp only [Download.onPlace, hdecode]
    | receiving receiver =>
      rw [awaited, hphase] at h
      have hfails : (receiver.onResponse (Download.sink d.key) memory.store body).1 =
          .error (.message e) := Receiver.onResponse_unreadable (hunderway.download hphase) h
      simp only [Download.onChunk]
      rw [hfails]
  | operation o =>
    show (o.onResponse scope memory body).1 = _
    unfold Operation.onResponse
    cases hphase : o.phase with
    | starting =>
      rw [awaited, hphase] at h
      have hdecode := Reply.error_of_map_eq h
      simp only [Operation.keeping, Operation.onInit, hdecode]
    | sending sender =>
      rw [awaited, hphase] at h
      have hfails := Sender.onResponse_unreadable (hunderway.sending hphase) h
      simp only [Operation.keeping, Operation.onAcknowledgement]
      rw [hfails]
    | receiving receiver =>
      rw [awaited, hphase] at h
      have hfails : (receiver.onResponse (Operation.sink scope.maxReceive) o.response body).1 =
          .error (.message e) := Receiver.onResponse_unreadable (hunderway.receiving hphase) h
      simp only [Operation.keeping, Operation.onChunk]
      rw [hfails]
    | completing =>
      rw [awaited, hphase] at h
      have hdecode := Reply.error_of_map_eq h
      simp only [Operation.onComplete, hdecode]

end SessionTask

/-! ## Sessions -/

namespace Session

variable {s : Session} {scope : SessionScope} {memory : DeviceMemory} {body body' : Bytes}

/-- A session learns nothing from a body but the response it awaits. -/
theorem onResponse_congr
    (h : Reply.decode s.task.awaited body = Reply.decode s.task.awaited body') :
    s.onResponse scope memory body = s.onResponse scope memory body' := by
  unfold onResponse
  rw [SessionTask.onResponse_congr h]

/-- A session fails when the response it awaits cannot be read. -/
theorem onResponse_unreadable {e : MessageError} (hw : s.state = .waiting)
    (hunderway : s.task.Underway) (h : Reply.decode s.task.awaited body = .error e) :
    (s.onResponse scope memory body).1 = .error (.message e) := by
  have hfails : (s.task.onResponse scope memory body).1 = .error (.message e) :=
    SessionTask.onResponse_unreadable hunderway h
  have hkept : ¬ s.state.isAbandoned = true := by
    rw [hw]
    exact Bool.false_ne_true
  unfold onResponse
  rw [if_neg hkept, if_neg (fun hne => hne hw)]
  exact hfails

end Session

end DeviceEnablement
