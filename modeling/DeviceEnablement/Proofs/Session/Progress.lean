/-
  What takes an operation further.

  1. `collectResult_complete`, `collectResult_receive`, `sendRemainder_divided`, `onInit_send`,
     `onAcknowledgement_send`, `onChunk_send`: how an operation comes to send its next request.
  2. `Outgoing.OfOperation`, `OperationPhase.Numbered`: all requests of an operation carry its number
     (`numbered_onResponse`).
  3. `onResponse_done`: an operation ends well only with the response to its last request, and then
     the etag is all that it learns.  `memory_onResponse`: otherwise it changes nothing.
  4. `length_response_le`: the result is never longer than it may be.
-/
import DeviceEnablement.Proofs.Session.Opening
import DeviceEnablement.Proofs.Transfer.Receiving
import DeviceEnablement.Proofs.Transfer.Sending

namespace DeviceEnablement

/-- The part of the result that comes with the response to the first request. -/
def OperationInitResponse.inlined (response : OperationInitResponse) : Bytes :=
  if response.resultHandle = 0 then response.payload else []

/-- Whether a request belongs to the operation with this number. -/
inductive Outgoing.OfOperation (operationId : UInt16) : Outgoing → Prop
  | init {r : OperationInitRequest} {out : Outgoing} (number : r.operationId = operationId)
      (written : r.outgoing = .ok out) : OfOperation operationId out
  | send {r : MultipartSendRequest} {out : Outgoing} (number : r.operationId = operationId)
      (written : r.outgoing = .ok out) : OfOperation operationId out
  | receive {r : MultipartReceiveRequest} (number : r.operationId = operationId) :
      OfOperation operationId r.outgoing
  | complete {r : OperationCompleteRequest} (number : r.operationId = operationId) :
      OfOperation operationId r.outgoing

/-- Whether the transfer of a phase, if it has one, is that of the operation with this number. -/
def OperationPhase.Numbered (operationId : UInt16) : OperationPhase → Prop
  | sending s => s.operationId = operationId
  | receiving r => r.operationId = operationId
  | starting | completing => True

namespace Operation

variable {o o' : Operation} {scope : SessionScope} {memory memory' : DeviceMemory}
  {body : Bytes} {out : Outgoing}

/-! ## The next request -/

/-- The transfer of the result. -/
def receiver (o : Operation) (scope : SessionScope) : Receiver :=
  { operationId := o.operationId, handle := o.resultHandle, maxChunk := scope.maxReceive,
    state := .inProgress }

/-- The transfer of what is left of the body. -/
def sender (o : Operation) (rest : Bytes) : Sender :=
  .begun sendHandle o.operationId rest o.sendChunk

theorem collectResult_complete (h : o.resultHandle = 0) : o.collectResult scope = o.complete :=
  if_pos h

theorem collectResult_receive (h : o.resultHandle ≠ 0) :
    o.collectResult scope = (.ok (.send ((o.receiver scope).request .firstPart)),
      { o with phase := .receiving (o.receiver scope) }) := by
  unfold collectResult
  rw [if_neg h]
  dsimp only
  rw [Receiver.start_eq rfl h]
  rfl

theorem sendRemainder_collect (h : o.remainder = none) :
    o.sendRemainder scope = o.collectResult scope := by
  unfold sendRemainder
  rw [h]

/-- What is left of a body goes out in chunks. -/
theorem sendRemainder_divided {rest : Bytes} {s : Sender} (h : o.remainder = some rest)
    (hnew : Sender.new sendHandle o.operationId rest o.sendChunk = .ok s) :
    o.sendRemainder scope =
      match (o.sender rest).request.outgoing with
      | .ok out => (.ok (.send out),
          { o with remainder := none, phase := .sending (o.sender rest).offered })
      | .error e => (.error (.message e), { o with remainder := none }) := by
  unfold sendRemainder sender
  rw [h]
  dsimp only
  rw [hnew]
  dsimp only
  rw [Sender.start_of_new hnew, Sender.chunk_eq]
  cases (Sender.begun sendHandle o.operationId rest o.sendChunk).request.outgoing with
  | ok out => rfl
  | error e => rfl

theorem sendRemainder_send {rest : Bytes} (h : o.remainder = some rest)
    (hsend : o.sendRemainder scope = (.ok (.send out), o')) :
    (o.sender rest).request.outgoing = .ok out ∧
      o' = { o with remainder := none, phase := .sending (o.sender rest).offered } := by
  cases hnew : Sender.new sendHandle o.operationId rest o.sendChunk with
  | error e =>
    unfold sendRemainder at hsend
    rw [h] at hsend
    dsimp only at hsend
    rw [hnew] at hsend
    cases hsend
  | ok s =>
    rw [sendRemainder_divided h hnew] at hsend
    split at hsend
    · rename_i hout
      cases hsend
      exact ⟨hout, rfl⟩
    · cases hsend

/-- The operation once the response to its first request is read and `arrived` is what it has of
    the result. -/
def initiated (o : Operation) (response : OperationInitResponse) (arrived : Bytes) : Operation :=
  { o with etag := response.etag.text, resultHandle := response.resultHandle, response := arrived }

section Phases

theorem onResponse_starting (h : o.phase = .starting) :
    o.onResponse scope memory body = keeping memory (o.onInit scope body) := by
  unfold onResponse
  rw [h]

theorem onResponse_sending {s : Sender} (h : o.phase = .sending s) :
    o.onResponse scope memory body = keeping memory (o.onAcknowledgement s scope body) := by
  unfold onResponse
  rw [h]

theorem onResponse_receiving {r : Receiver} (h : o.phase = .receiving r) :
    o.onResponse scope memory body = keeping memory (o.onChunk r scope body) := by
  unfold onResponse
  rw [h]

theorem onResponse_completing (h : o.phase = .completing) :
    o.onResponse scope memory body = o.onComplete scope memory body := by
  unfold onResponse
  rw [h]

theorem keeping_eq {result : Except Failure Step} {kept : Except Failure Step × Operation}
    (h : keeping memory kept = (result, o', memory')) : kept = (result, o') ∧ memory' = memory := by
  cases h
  exact ⟨rfl, rfl⟩

end Phases

theorem append_fits {max : Nat} {arrived data : Bytes} (h : arrived.length + data.length ≤ max) :
    append max arrived data = (.ok (), arrived ++ data) :=
  if_neg (Nat.not_lt.mpr h)

theorem append_overlong {max : Nat} {arrived data : Bytes}
    (h : max < arrived.length + data.length) :
    append max arrived data =
      (.error (.message (.payloadTooLarge (arrived.length + data.length) max)), arrived) :=
  if_pos h

theorem append_ok {max : Nat} {arrived arrived' data : Bytes}
    (h : append max arrived data = (.ok (), arrived')) :
    arrived' = arrived ++ data ∧ arrived'.length ≤ max := by
  unfold append at h
  dsimp only at h
  split at h
  · cases h
  · rename_i hsize
    cases h
    rw [List.length_append]
    exact ⟨rfl, Nat.not_lt.mp hsize⟩

theorem length_append_le {max : Nat} {arrived : Bytes} (h : arrived.length ≤ max)
    (data : Bytes) : (append max arrived data).2.length ≤ max := by
  rcases Nat.lt_or_ge max (arrived.length + data.length) with hsize | hsize
  · rw [append_overlong hsize]
    exact h
  · rw [append_fits hsize, List.length_append]
    exact hsize

/-- A chunk that is taken is added to the result, which does not become too long. -/
theorem sink_ok {r r' : Receiver} {max : Nat} {arrived arrived' : Bytes} {progress : Progress}
    (h : r.onResponse (sink max) arrived body = (.ok progress, r', arrived')) :
    ∃ response, MultipartReceiveResponse.decode body = .ok response ∧
      arrived' = arrived ++ response.data ∧ arrived'.length ≤ max ∧
      r'.operationId = r.operationId ∧ r'.maxChunk = r.maxChunk ∧
      (progress = .next (r'.request .nextPart) ∨ progress = .complete) := by
  obtain ⟨response, arrived₁, hdecode, htaken, hnumber, hlimit, hprogress⟩ :=
    Receiver.onResponse_ok h
  obtain ⟨hadded, hbounded⟩ := append_ok htaken
  refine ⟨response, hdecode, ?_⟩
  rcases hprogress with ⟨hnext, -, hsame⟩ | ⟨hcomplete, -, hsame⟩
  · rw [hsame]
    exact ⟨hadded, hbounded, hnumber, hlimit, Or.inl hnext⟩
  · rw [hsame]
    exact ⟨hadded, hbounded, hnumber, hlimit, Or.inr hcomplete⟩

section Initiation

variable {response : OperationInitResponse}

/-- The response to the first request takes an operation to the rest of its body. -/
theorem onInit_accepted (hdecode : OperationInitResponse.decode body = .ok response)
    (hgoing : response.status.isFailure = false)
    (hsize : o.response.length + response.inlined.length ≤ scope.maxReceive) :
    o.onInit scope body =
      (o.initiated response (o.response ++ response.inlined)).sendRemainder scope := by
  unfold onInit
  rw [hdecode]
  dsimp only
  rw [if_neg (by rw [hgoing]; exact Bool.false_ne_true)]
  unfold OperationInitResponse.inlined at hsize ⊢
  by_cases hhandle : response.resultHandle = 0
  · rw [if_pos hhandle] at hsize ⊢
    rw [if_pos hhandle, append_fits hsize]
    rfl
  · rw [if_neg hhandle, if_neg hhandle, List.append_nil]
    rfl

/-- A result that is too long ends the operation. -/
theorem onInit_overlong (hdecode : OperationInitResponse.decode body = .ok response)
    (hgoing : response.status.isFailure = false) (hbounded : o.response.length ≤ scope.maxReceive)
    (hsize : scope.maxReceive < o.response.length + response.inlined.length) :
    (o.onInit scope body).1 = .error (.message
      (.payloadTooLarge (o.response.length + response.inlined.length) scope.maxReceive)) := by
  unfold onInit
  rw [hdecode]
  dsimp only
  rw [if_neg (by rw [hgoing]; exact Bool.false_ne_true)]
  unfold OperationInitResponse.inlined at hsize ⊢
  by_cases hhandle : response.resultHandle = 0
  · rw [if_pos hhandle] at hsize ⊢
    rw [if_pos hhandle, append_overlong hsize]
  · rw [if_neg hhandle] at hsize
    exact absurd hsize (Nat.not_lt.mpr hbounded)

/-- An operation goes on after a response that can be read and says that the device goes on. -/
theorem onInit_send (h : o.onInit scope body = (.ok (.send out), o'))
    (hbounded : o.response.length ≤ scope.maxReceive) :
    ∃ response, OperationInitResponse.decode body = .ok response ∧
      response.status.isFailure = false ∧
      o.response.length + response.inlined.length ≤ scope.maxReceive ∧
      (o.initiated response (o.response ++ response.inlined)).sendRemainder scope =
        (.ok (.send out), o') := by
  cases hdecode : OperationInitResponse.decode body with
  | error e =>
    unfold onInit at h
    rw [hdecode] at h
    cases h
  | ok response =>
    cases hgoing : response.status.isFailure with
    | true =>
      unfold onInit at h
      rw [hdecode] at h
      dsimp only at h
      rw [if_pos hgoing] at h
      cases h
    | false =>
      rcases Nat.lt_or_ge scope.maxReceive (o.response.length + response.inlined.length) with
        hsize | hsize
      · have hoverlong := onInit_overlong hdecode hgoing hbounded hsize
        rw [h] at hoverlong
        cases hoverlong
      · rw [onInit_accepted hdecode hgoing hsize] at h
        exact ⟨response, rfl, hgoing, hsize, h⟩

end Initiation

theorem onAcknowledgement_next {s s' : Sender} {events : List SendEvent}
    (h : s.onResponse body = (.ok (.next out), s', events)) :
    o.onAcknowledgement s scope body = (.ok (.send out), { o with phase := .sending s' }) := by
  unfold onAcknowledgement
  rw [h]

theorem onAcknowledgement_complete {s s' : Sender} {events : List SendEvent}
    (h : s.onResponse body = (.ok .complete, s', events)) :
    o.onAcknowledgement s scope body = { o with phase := .sending s' }.collectResult scope := by
  unfold onAcknowledgement
  rw [h]

theorem onAcknowledgement_send {s : Sender}
    (h : o.onAcknowledgement s scope body = (.ok (.send out), o')) :
    (∃ s' events, s.onResponse body = (.ok (.next out), s', events) ∧
        o' = { o with phase := .sending s' }) ∨
      ∃ s', { o with phase := .sending s' }.collectResult scope = (.ok (.send out), o') := by
  unfold onAcknowledgement at h
  split at h
  rename_i result s' events hsender
  dsimp only at h
  split at h
  · cases h
    exact Or.inl ⟨s', events, hsender, rfl⟩
  · exact Or.inr ⟨s', h⟩
  · cases h

/-- An operation goes on after a chunk that could be added to the result. -/
theorem onChunk_send {r : Receiver} (h : o.onChunk r scope body = (.ok (.send out), o')) :
    ∃ response r', MultipartReceiveResponse.decode body = .ok response ∧
      (o.response ++ response.data).length ≤ scope.maxReceive ∧
      r'.operationId = r.operationId ∧ r'.maxChunk = r.maxChunk ∧
      (out = r'.request .nextPart ∧
          o' = { o with phase := .receiving r', response := o.response ++ response.data } ∨
        { o with phase := .receiving r', response := o.response ++ response.data }.complete =
          (.ok (.send out), o')) := by
  unfold onChunk at h
  split at h
  rename_i result r' arrived hreceiver
  dsimp only at h
  cases result with
  | error e => cases h
  | ok progress =>
    obtain ⟨response, hdecode, rfl, hbounded, hnumber, hlimit, hprogress⟩ := sink_ok hreceiver
    refine ⟨response, r', hdecode, hbounded, hnumber, hlimit, ?_⟩
    rcases hprogress with rfl | rfl
    · cases h
      exact Or.inl ⟨rfl, rfl⟩
    · exact Or.inr h

/-- A chunk that would make the result too long ends the operation. -/
theorem onChunk_overlong {r : Receiver} {response : MultipartReceiveResponse}
    (hstate : r.state = .inProgress) (hlimit : r.maxChunk = scope.maxReceive)
    (hdecode : MultipartReceiveResponse.decode body = .ok response)
    (hsize : scope.maxReceive < o.response.length + response.data.length) :
    ∃ size, scope.maxReceive < size ∧ (o.onChunk r scope body).1 =
      .error (.message (.payloadTooLarge size scope.maxReceive)) := by
  have hends : ∀ {e : Failure},
      (r.onResponse (sink scope.maxReceive) o.response body).1 = .error e →
      (o.onChunk r scope body).1 = .error e := by
    intro e he
    unfold onChunk
    dsimp only
    rw [he]
  -- A chunk that is too long by itself is refused by the transfer, any other by the operation.
  rcases Nat.lt_or_ge scope.maxReceive response.data.length with hchunk | hchunk
  · refine ⟨_, hchunk, hends ?_⟩
    rw [← hlimit] at hchunk
    rw [Receiver.onResponse_oversized hstate hdecode hchunk, hlimit]
  · rw [← hlimit] at hchunk
    exact ⟨_, hsize, hends
      (Receiver.onResponse_refused hstate hdecode hchunk (append_overlong hsize))⟩

theorem onComplete_ne_send (o : Operation) :
    o.onComplete scope memory body ≠ (.ok (.send out), o', memory') := by
  intro h
  unfold onComplete at h
  split at h
  · cases h
  · dsimp only at h
    split at h <;> cases h

/-! ## Numbers -/

theorem numbered_collectResult (h : o.collectResult scope = (.ok (.send out), o')) :
    out.OfOperation o.operationId ∧ o'.phase.Numbered o.operationId := by
  by_cases hhandle : o.resultHandle = 0
  · rw [collectResult_complete hhandle] at h
    cases h
    exact ⟨.complete rfl, trivial⟩
  · rw [collectResult_receive hhandle] at h
    cases h
    exact ⟨.receive rfl, rfl⟩

theorem numbered_sendRemainder (h : o.sendRemainder scope = (.ok (.send out), o')) :
    out.OfOperation o.operationId ∧ o'.phase.Numbered o.operationId := by
  cases hremainder : o.remainder with
  | none =>
    rw [sendRemainder_collect hremainder] at h
    exact numbered_collectResult h
  | some rest =>
    obtain ⟨hout, rfl⟩ := sendRemainder_send hremainder h
    exact ⟨.send rfl hout, rfl⟩

/-- Every further request of an operation carries its number. -/
theorem numbered_onResponse (hnumber : o.phase.Numbered o.operationId)
    (hbounded : o.response.length ≤ scope.maxReceive)
    (h : o.onResponse scope memory body = (.ok (.send out), o', memory')) :
    out.OfOperation o.operationId ∧ o'.phase.Numbered o.operationId := by
  cases hphase : o.phase with
  | starting =>
    rw [onResponse_starting hphase] at h
    obtain ⟨response, -, -, -, hsend⟩ := onInit_send (keeping_eq h).1 hbounded
    have hnumbered := numbered_sendRemainder hsend
    exact hnumbered
  | sending s =>
    rw [onResponse_sending hphase] at h
    rw [hphase] at hnumber
    rcases onAcknowledgement_send (keeping_eq h).1 with ⟨s', events, hsender, rfl⟩ | ⟨s', hcollect⟩
    · obtain ⟨due, hdue, hout, rfl⟩ := Sender.onResponse_next hsender
      exact ⟨.send (hdue.trans hnumber) hout, hdue.trans hnumber⟩
    · have hnumbered := numbered_collectResult hcollect
      exact hnumbered
  | receiving r =>
    rw [onResponse_receiving hphase] at h
    rw [hphase] at hnumber
    obtain ⟨response, r', -, -, hr', -, hnext⟩ := onChunk_send (keeping_eq h).1
    rcases hnext with ⟨rfl, rfl⟩ | hcomplete
    · exact ⟨.receive (hr'.trans hnumber), hr'.trans hnumber⟩
    · cases hcomplete
      exact ⟨.complete rfl, trivial⟩
  | completing =>
    rw [onResponse_completing hphase] at h
    exact absurd h (onComplete_ne_send o)

/-! ## The end -/

/-- An operation ends well with the response to its last request, once the result is decoded. -/
theorem onResponse_done {output : SessionOutput}
    (h : o.onResponse scope memory body = (.ok (.done output), o', memory')) :
    o.phase = .completing ∧ (∃ response, OperationCompleteResponse.decode body = .ok response) ∧
      ∃ json, o.decodeResult scope memory.store o.response = .ok json ∧
        output = .operation { json, etag := o.etag, status := statusOk } ∧
        memory' = { memory with metadata :=
          if o.etag = "" then memory.metadata else memory.metadata.set (.etag o.etag) } := by
  -- In every phase but the last one an operation sends its next request or fails.
  have of_sends : ∀ {result : Except Failure Step × Operation}, SendsOrFails result.1 →
      keeping memory result ≠ (.ok (.done output), o', memory') := by
    intro result hsends hkept
    obtain ⟨out, hout⟩ := hsends _ (congrArg Prod.fst hkept)
    cases hout
  cases hphase : o.phase with
  | starting =>
    rw [onResponse_starting hphase] at h
    exact absurd h (of_sends (o.onInit_sends scope body))
  | sending s =>
    rw [onResponse_sending hphase] at h
    exact absurd h (of_sends (o.onAcknowledgement_sends scope s body))
  | receiving r =>
    rw [onResponse_receiving hphase] at h
    exact absurd h (of_sends (o.onChunk_sends scope r body))
  | completing =>
    rw [onResponse_completing hphase] at h
    unfold onComplete at h
    split at h
    · cases h
    · rename_i response hdecode
      dsimp only at h
      split at h
      · cases h
      · rename_i json hjson
        cases h
        exact ⟨rfl, ⟨response, hdecode⟩, json, hjson, rfl, rfl⟩

/-- An operation that has not ended well has changed nothing. -/
theorem memory_onResponse {result : Except Failure Step}
    (h : o.onResponse scope memory body = (result, o', memory'))
    (hopen : ∀ output, result ≠ .ok (.done output)) : memory' = memory := by
  cases hphase : o.phase with
  | starting =>
    rw [onResponse_starting hphase] at h
    exact (keeping_eq h).2
  | sending s =>
    rw [onResponse_sending hphase] at h
    exact (keeping_eq h).2
  | receiving r =>
    rw [onResponse_receiving hphase] at h
    exact (keeping_eq h).2
  | completing =>
    rw [onResponse_completing hphase] at h
    unfold onComplete at h
    split at h
    · cases h
      rfl
    · dsimp only at h
      split at h
      · cases h
        rfl
      · cases h
        exact absurd rfl (hopen _)

/-! ## The length of the result -/

theorem response_collectResult (o : Operation) (scope : SessionScope) :
    (o.collectResult scope).2.response = o.response := by
  by_cases hhandle : o.resultHandle = 0
  · rw [collectResult_complete hhandle]
    rfl
  · rw [collectResult_receive hhandle]

theorem response_sendRemainder (o : Operation) (scope : SessionScope) :
    (o.sendRemainder scope).2.response = o.response := by
  unfold sendRemainder
  split
  · exact o.response_collectResult scope
  · dsimp only
    split
    · rfl
    · split <;> rfl

theorem length_onInit_le (hbounded : o.response.length ≤ scope.maxReceive) (body : Bytes) :
    (o.onInit scope body).2.response.length ≤ scope.maxReceive := by
  unfold onInit
  split
  · exact hbounded
  · rename_i response _
    split
    · exact hbounded
    · have happend := length_append_le hbounded response.payload
      dsimp only
      split
      · split
        · rename_i heq
          rw [heq] at happend
          rw [response_sendRemainder]
          exact happend
        · rename_i heq
          rw [heq] at happend
          exact happend
      · rw [response_sendRemainder]
        exact hbounded

/-- A transfer that fails discards the result. -/
theorem length_onChunk_le (o : Operation) (r : Receiver) (scope : SessionScope) (body : Bytes) :
    (o.onChunk r scope body).2.response.length ≤ scope.maxReceive := by
  obtain ⟨⟨result, r', arrived⟩, hreceiver⟩ :
      ∃ result, r.onResponse (sink scope.maxReceive) o.response body = result := ⟨_, rfl⟩
  have harrived : arrived.length ≤ scope.maxReceive := by
    cases result with
    | error e =>
      obtain ⟨_, rfl, -⟩ := Receiver.onResponse_error hreceiver
      exact Nat.zero_le _
    | ok progress =>
      obtain ⟨_, -, -, hbounded, -⟩ := sink_ok hreceiver
      exact hbounded
  unfold onChunk
  rw [hreceiver]
  dsimp only
  split <;> exact harrived

/-- The result is never longer than it may be. -/
theorem length_response_le (hbounded : o.response.length ≤ scope.maxReceive) :
    (o.onResponse scope memory body).2.1.response.length ≤ scope.maxReceive := by
  unfold onResponse
  split
  · exact length_onInit_le hbounded body
  · rename_i s _
    show (o.onAcknowledgement s scope body).2.response.length ≤ _
    unfold onAcknowledgement
    dsimp only
    split
    · exact hbounded
    · rw [response_collectResult]
      exact hbounded
    · exact hbounded
  · exact o.length_onChunk_le _ scope body
  · unfold onComplete
    split
    · exact hbounded
    · dsimp only
      split <;> exact Nat.zero_le _

end Operation

end DeviceEnablement
