/-
  The body of an operation.

  1. `Divides`: a body of an operation is divided into a first request and chunks.
     `divides_whole`, `divides_parts`: how an operation divides its body.
  2. `OperationPhase.PastBody`, `Dialogue.PastBody`: the body has been sent.  From then on nothing of
     it is sent again (`bodyRequests_afterAll`).
  3. `bodyRequests_chunks`: a device that acknowledges every chunk is sent every chunk.
  4. `body_delivered_whole`: an operation whose device has no room for chunks does not begin; any
     other sends its body, once, whole and in order.
-/
import DeviceEnablement.Proofs.Session.Dialogue
import DeviceEnablement.Proofs.Session.Progress
import DeviceEnablement.Property.Text

namespace DeviceEnablement

/-! ## Divided bodies -/

/-- Whether `first` and `chunks` carry the body `payload` to a device that takes `limit` bytes. -/
structure Divides (limit : Nat) (payload : Bytes) (first : OperationInitRequest)
    (chunks : List MultipartSendRequest) : Prop where
  whole : first.payload ++ chunks.flatMap MultipartSendRequest.data = payload
  flagged : first.flags.hasRequestPayload = true ↔ payload ≠ []
  announced : first.sendHandle = 0 ↔ chunks = []
  handle : ∀ chunk, chunks.head? = some chunk → chunk.handle = first.sendHandle
  numbered : ∀ chunk ∈ chunks, chunk.operationId = first.operationId
  /-- What is divided fills the first request and every chunk but the last. -/
  filled : chunks ≠ [] → OperationInitRequest.fixedSize + first.payload.length = limit
  full : ∀ chunk ∈ chunks.dropLast,
    MultipartSendRequest.fixedSize + checksumSize + chunk.data.length = limit

namespace Operation

variable {limit : Nat} {payload : Bytes}

theorem hasRequestPayload_empty : OperationFlags.empty.hasRequestPayload = false := by decide

theorem hasRequestPayload_bodyFlags : bodyFlags.hasRequestPayload = true := by decide

theorem sendHandle_ne_zero : sendHandle ≠ 0 := by decide

theorem divides_empty (o : Operation) (limit : Nat) : Divides limit [] (o.opener .empty 0 []) [] where
  whole := rfl
  flagged := iff_of_false (fun h => by cases hasRequestPayload_empty.symm.trans h) fun h => h rfl
  announced := iff_of_true rfl rfl
  handle := fun _ h => by cases h
  numbered := fun _ h => by cases h
  filled := fun h => absurd rfl h
  full := fun _ h => by cases h

theorem divides_whole (o : Operation) (limit : Nat) (hpayload : payload ≠ []) :
    Divides limit payload (o.opener bodyFlags 0 payload) [] where
  whole := List.append_nil payload
  flagged := iff_of_true hasRequestPayload_bodyFlags hpayload
  announced := iff_of_true rfl rfl
  handle := fun _ h => by cases h
  numbered := fun _ h => by cases h
  filled := fun h => absurd rfl h
  full := fun _ h => by cases h

/-- The chunks of what does not fit in a first request of `limit` bytes. -/
def chunks (o : Operation) (limit : Nat) (payload : Bytes) : List MultipartSendRequest :=
  ((o.divided limit payload).sender
    (payload.drop (limit - OperationInitRequest.fixedSize))).requests

theorem divides_parts (o : Operation) (hpayload : payload ≠ [])
    (hover : limit < OperationInitRequest.fixedSize + payload.length)
    (hroom : MultipartSendRequest.fixedSize + checksumSize < limit) :
    Divides limit payload
      (o.opener bodyFlags sendHandle (payload.take (limit - OperationInitRequest.fixedSize)))
      (o.chunks limit payload) where
  whole := by
    have hdata : (o.chunks limit payload).flatMap MultipartSendRequest.data =
        payload.drop (limit - OperationInitRequest.fixedSize) :=
      Sender.flatMap_data_requests (Nat.sub_pos_of_lt hroom)
    rw [hdata]
    exact List.take_append_drop _ _
  flagged := iff_of_true hasRequestPayload_bodyFlags hpayload
  announced := iff_of_false sendHandle_ne_zero (Sender.requests_ne_nil _)
  handle := by
    intro chunk hhead
    have hfirst := hhead.symm.trans (Sender.head?_requests _)
    cases hfirst
    rfl
  numbered := by
    intro chunk hchunk
    obtain ⟨s, -, hnumber, rfl⟩ := Sender.exists_of_mem_requests hchunk
    exact hnumber
  filled := by
    intro _
    show OperationInitRequest.fixedSize + (payload.take _).length = limit
    have hfixed : OperationInitRequest.fixedSize ≤
        MultipartSendRequest.fixedSize + checksumSize := by decide
    rw [List.length_take]
    omega
  full := by
    intro chunk hchunk
    have hdata : chunk.data.length =
        limit - (MultipartSendRequest.fixedSize + checksumSize) :=
      Sender.length_data_of_mem_dropLast hchunk
    rw [hdata]
    omega

end Operation

/-! ## Behind the body -/

/-- Whether no part of the body is sent any more. -/
def OperationPhase.PastBody : OperationPhase → Prop
  | starting | sending _ => False
  | receiving _ | completing => True

/-- Whether a request carries a part of the body. -/
def Outgoing.carriesBody (out : Outgoing) : Bool :=
  out.command = .operationInit ∨ out.command = .multipartSend

theorem Outgoing.carriesBody_first {out : Outgoing} (h : out.command = .operationInit) :
    out.carriesBody = true :=
  decide_eq_true (Or.inl h)

theorem MultipartSendRequest.carriesBody_of_mem {chunks : List MultipartSendRequest}
    {outs : List Outgoing} (h : List.Forall₂ Writes chunks outs) {out : Outgoing}
    (hout : out ∈ outs) : out.carriesBody = true := by
  obtain ⟨hcommand, -⟩ := exists_of_mem_writes h hout
  exact decide_eq_true (Or.inr hcommand)

namespace Operation

variable {o o' : Operation} {scope : SessionScope} {memory memory' : DeviceMemory}
  {body : Bytes} {next : Outgoing}

/-- Behind the body comes a request that carries none of it. -/
theorem pastBody_collectResult (o : Operation) (scope : SessionScope) :
    ∃ next o', o.collectResult scope = (.ok (.send next), o') ∧ o'.phase.PastBody ∧
      next.carriesBody = false := by
  by_cases hhandle : o.resultHandle = 0
  · exact ⟨_, _, collectResult_complete hhandle, trivial, rfl⟩
  · exact ⟨_, _, collectResult_receive hhandle, trivial, rfl⟩

theorem pastBody_onResponse (h : o.phase.PastBody)
    (hstep : o.onResponse scope memory body = (.ok (.send next), o', memory')) :
    o'.phase.PastBody ∧ next.carriesBody = false := by
  cases hphase : o.phase with
  | starting | sending =>
    rw [hphase] at h
    exact h.elim
  | receiving r =>
    rw [onResponse_receiving hphase] at hstep
    obtain ⟨response, r', -, -, -, -, hnext⟩ := onChunk_send (keeping_eq hstep).1
    rcases hnext with ⟨rfl, rfl⟩ | hcomplete
    · exact ⟨trivial, rfl⟩
    · cases hcomplete
      exact ⟨trivial, rfl⟩
  | completing =>
    rw [onResponse_completing hphase] at hstep
    exact absurd hstep (onComplete_ne_send o)

end Operation

namespace Dialogue

variable {scope : SessionScope} {memory memory' : DeviceMemory} {o o' : Operation}
  {exchanges : List Exchange} {out next : Outgoing} {body : Bytes} {d : Dialogue}

/-- The requests so far that carry a part of the body. -/
def bodyRequests (d : Dialogue) : List Outgoing := d.sent.filter Outgoing.carriesBody

/-- With its next request, if this carries a part of the body, an operation has sent one part more. -/
theorem bodyRequests_hear {result : Except Failure Step}
    (h : o.onResponse scope memory body = (result, o', memory')) :
    ((waiting o memory exchanges out).hear scope body).bodyRequests =
      (waiting o memory exchanges out).bodyRequests ++
        ((Standing.awaiting out).after result).request?.toList.filter Outgoing.carriesBody := by
  rw [bodyRequests, sent_hear_waiting h, List.filter_append]
  rfl

/-- Whether no part of the body is sent any more. -/
inductive PastBody : Dialogue → Prop
  | ended {d : Dialogue} (ended : ∀ request, d.standing ≠ .awaiting request) : PastBody d
  | waits {state : SessionState} {o : Operation} {memory : DeviceMemory}
      {exchanges : List Exchange} {out : Outgoing} (past : o.phase.PastBody)
      (waiting : state = .waiting ∨ state.isAbandoned = true) :
      PastBody { session := { state, task := .operation o }, memory, exchanges,
                 standing := .awaiting out }

/-- A request behind the body adds nothing to what was sent of it. -/
theorem pastBody_hear_send (hpast : o'.phase.PastBody) (hnext : next.carriesBody = false)
    (hstep : o.onResponse scope memory body = (.ok (.send next), o', memory')) :
    ((waiting o memory exchanges out).hear scope body).PastBody ∧
      ((waiting o memory exchanges out).hear scope body).bodyRequests =
        (waiting o memory exchanges out).bodyRequests := by
  rw [bodyRequests_hear hstep, hear_send hstep]
  refine ⟨.waits hpast (Or.inl rfl), ?_⟩
  show _ ++ List.filter _ [next] = _
  rw [List.filter_cons_of_neg (by rw [hnext]; exact Bool.false_ne_true)]
  exact List.append_nil _

/-- An operation that has sent its body sends nothing of it again. -/
theorem PastBody.hear (h : d.PastBody) (scope : SessionScope) (body : Bytes) :
    (d.hear scope body).PastBody ∧ (d.hear scope body).bodyRequests = d.bodyRequests := by
  cases h with
  | ended hended =>
    rw [hear_ended hended]
    exact ⟨.ended hended, rfl⟩
  | @waits state o memory exchanges out hpast hwaiting =>
    rcases hwaiting with rfl | habandoned
    · show ((waiting o memory exchanges out).hear scope body).PastBody ∧
        ((waiting o memory exchanges out).hear scope body).bodyRequests =
          (waiting o memory exchanges out).bodyRequests
      rcases onResponse_cases o scope memory out body with
        ⟨next, o', memory', hstep⟩ | ⟨result, o', memory', hstep, hlast⟩
      · obtain ⟨hpast', hnext⟩ := Operation.pastBody_onResponse hpast hstep
        exact pastBody_hear_send hpast' hnext hstep
      · rw [bodyRequests_hear hstep, hear_waiting hstep, Standing.request?_eq_none hlast]
        exact ⟨.ended hlast, List.append_nil _⟩
    · rw [hear_abandoned habandoned]
      exact ⟨.waits hpast (Or.inr habandoned), rfl⟩

theorem PastBody.giveUp (h : d.PastBody) {state : SessionState} (hstate : state.isAbandoned = true) :
    (d.giveUp state).PastBody ∧ (d.giveUp state).bodyRequests = d.bodyRequests := by
  unfold Dialogue.giveUp
  split
  · exact ⟨h, rfl⟩
  · cases h with
    | ended hended => exact ⟨.ended hended, rfl⟩
    | waits hpast _ => exact ⟨.waits hpast (Or.inr hstate), rfl⟩

/-- Whatever occurs behind the body, nothing of it is sent again. -/
theorem PastBody.afterAll (h : d.PastBody) (scope : SessionScope) (occurrences : List Occurrence) :
    (d.afterAll scope occurrences).bodyRequests = d.bodyRequests := by
  have hstep : ∀ (d' : Dialogue) occurrence, d'.PastBody ∧ d'.bodyRequests = d.bodyRequests →
      (d'.after scope occurrence).PastBody ∧
        (d'.after scope occurrence).bodyRequests = d.bodyRequests := by
    intro d' occurrence hd'
    have hafter : (d'.after scope occurrence).PastBody ∧
        (d'.after scope occurrence).bodyRequests = d'.bodyRequests := by
      cases occurrence with
      | response body => exact hd'.1.hear scope body
      | expired => exact hd'.1.giveUp rfl
      | cancelled => exact hd'.1.giveUp rfl
    exact ⟨hafter.1, hafter.2.trans hd'.2⟩
  exact (afterAll_induction hstep ⟨h, rfl⟩ occurrences).2

/-! ## Sending the body -/

/-- What a dialogue with an operation that waits has said of the body. -/
theorem bodyRequests_waiting (hout : out.carriesBody = true) :
    (waiting o memory exchanges out).bodyRequests =
      (exchanges.map Exchange.request).filter Outgoing.carriesBody ++ [out] := by
  rw [bodyRequests, sent_waiting, List.filter_append, List.filter_cons_of_pos hout]
  rfl

/-- After the last part of the body the operation goes on to the result. -/
theorem hear_last
    (hstep : o.onResponse scope memory body = Operation.keeping memory (o'.collectResult scope)) :
    ((waiting o memory exchanges out).hear scope body).PastBody ∧
      ((waiting o memory exchanges out).hear scope body).bodyRequests =
        (waiting o memory exchanges out).bodyRequests := by
  obtain ⟨next, o'', hcollect, hpast, hnext⟩ := o'.pastBody_collectResult scope
  rw [hcollect] at hstep
  have hstep : o.onResponse scope memory body = (.ok (.send next), o'', memory) := hstep
  exact pastBody_hear_send hpast hnext hstep

/-- A device that acknowledges every chunk is sent every chunk, and then nothing of the body any
    more. -/
theorem bodyRequests_chunks {s : Sender} {acks : List Bytes} {outs : List Outgoing}
    (hphase : o.phase = .sending s.offered) (hstate : s.state = .inProgress)
    (hchunk : 0 < s.maxChunk) (hhead : outs.head? = some out)
    (houts : List.Forall₂ MultipartSendRequest.Writes s.requests outs)
    (hacks : List.Forall₂ MultipartSendRequest.AcknowledgedBy s.requests acks) :
    ((waiting o memory exchanges out).afterAll scope (acks.map .response)).PastBody ∧
      ((waiting o memory exchanges out).afterAll scope (acks.map .response)).bodyRequests =
        (exchanges.map Exchange.request).filter Outgoing.carriesBody ++ outs := by
  have hcarries : out.carriesBody = true :=
    MultipartSendRequest.carriesBody_of_mem houts (List.mem_of_mem_head? hhead)
  -- Along the chunks: the acknowledgement of one leaves a sender whose chunks are the further ones.
  induction s using Sender.requests.induct generalizing o exchanges out acks outs with
  | case1 s hlast =>
    have hlast : s.pending.length ≤ s.maxChunk := by omega
    rw [Sender.requests_last hlast] at houts hacks
    cases houts with
    | cons hwritten hnone =>
    cases hnone
    cases hhead
    cases hacks with
    | @cons _ ack _ _ hack hnone =>
    cases hnone
    obtain ⟨response, hdecode, hpart⟩ := hack
    have hkept : response.operation ≠ .abort := by
      rcases hpart with hpart | hpart | ⟨hpart, -⟩ <;> rw [hpart] <;> decide
    have hstep : o.onResponse scope memory ack = _ := Operation.onResponse_sending hphase
    rw [Operation.onAcknowledgement_complete (Sender.onResponse_last hstate hlast hdecode hkept)]
      at hstep
    rw [← bodyRequests_waiting hcarries]
    exact hear_last hstep
  | case2 s hmore ih =>
    have hmore : s.maxChunk < s.pending.length := by omega
    rw [Sender.requests_more hchunk hmore] at houts hacks
    cases houts with
    | @cons _ _ _ outs hwritten houts =>
    cases hhead
    cases hacks with
    | @cons _ ack _ acks hack hacks =>
    obtain ⟨response, hdecode, hpart⟩ := Sender.asks_of_acknowledged hmore hack
    obtain ⟨next, hnext, hwritten'⟩ :=
      MultipartSendRequest.exists_head_writes houts (Sender.head?_requests _)
    have hstep : o.onResponse scope memory ack = _ := Operation.onResponse_sending hphase
    rw [Operation.onAcknowledgement_next
      (Sender.onResponse_more hstate hmore hdecode hpart hwritten')] at hstep
    have hwaits : (waiting o memory exchanges out).hear scope ack = _ := hear_send hstep
    have hsplit : (exchanges.map Exchange.request).filter Outgoing.carriesBody ++ out :: outs =
        ((exchanges ++ [(⟨out, ack⟩ : Exchange)]).map Exchange.request).filter
          Outgoing.carriesBody ++ outs := by
      rw [List.map_append, List.filter_append, List.append_assoc]
      show _ = _ ++ (List.filter Outgoing.carriesBody [out] ++ outs)
      rw [List.filter_cons_of_pos hcarries]
      rfl
    show (((waiting o memory exchanges out).hear scope ack).afterAll scope _).PastBody ∧
      (((waiting o memory exchanges out).hear scope ack).afterAll scope _).bodyRequests = _
    rw [hwaits, hsplit]
    exact ih rfl hstate hchunk hnext houts hacks
      (MultipartSendRequest.carriesBody_of_mem houts (List.mem_of_mem_head? hnext))

end Dialogue

/-! ## Delivery -/

/-- Whether an operation goes on after this response to its first request: the device has not given
    it up, and no more of the result comes with the response than may be received. -/
def SessionScope.Accepts (scope : SessionScope) (answer : Bytes) : Prop :=
  ∃ response, OperationInitResponse.decode answer = .ok response ∧
    response.status.isFailure = false ∧ response.inlined.length ≤ scope.maxReceive

/-- Whether a device that takes `limit` bytes has no room for a body that has to be divided. -/
def Cramped (limit : Nat) (payload : Bytes) : Prop :=
  payload ≠ [] ∧ limit < OperationInitRequest.fixedSize + payload.length ∧
    limit ≤ MultipartSendRequest.fixedSize + checksumSize

namespace Dialogue

variable {scope : SessionScope} {memory : DeviceMemory} {o : Operation} {out : Outgoing}
  {answer : Bytes}

/-- After the response to its first request an operation goes on to the rest of its body. -/
theorem onResponse_accepted (hphase : o.phase = .starting) (hempty : o.response = [])
    (haccepts : scope.Accepts answer) (memory : DeviceMemory) :
    ∃ o' : Operation, o'.remainder = o.remainder ∧ o'.sendChunk = o.sendChunk ∧
      o'.operationId = o.operationId ∧
      o.onResponse scope memory answer = Operation.keeping memory (o'.sendRemainder scope) := by
  obtain ⟨response, hdecode, hgoing, hsize⟩ := haccepts
  have hfits : o.response.length + response.inlined.length ≤ scope.maxReceive := by
    rw [hempty, List.length_nil, Nat.zero_add]
    exact hsize
  refine ⟨o.initiated response (o.response ++ response.inlined), rfl, rfl, rfl, ?_⟩
  rw [Operation.onResponse_starting hphase, Operation.onInit_accepted hdecode hgoing hfits]

/-- A body that is not divided is sent with the first request. -/
theorem bodyRequests_undivided (hphase : o.phase = .starting) (hempty : o.response = [])
    (hremainder : o.remainder = none) (hout : out.command = .operationInit)
    (haccepts : scope.Accepts answer) (further : List Occurrence) :
    ((waiting o memory [] out).afterAll scope (.response answer :: further)).bodyRequests =
      [out] := by
  obtain ⟨o', hsame, -, -, hstep⟩ := onResponse_accepted hphase hempty haccepts memory
  rw [Operation.sendRemainder_collect (hsame.trans hremainder)] at hstep
  have hlast : ((waiting o memory [] out).hear scope answer).PastBody ∧ _ := hear_last hstep
  show (((waiting o memory [] out).hear scope answer).afterAll scope further).bodyRequests = _
  rw [hlast.1.afterAll, hlast.2, bodyRequests_waiting (Outgoing.carriesBody_first hout)]
  rfl

/-- After the response to the first request the first chunk goes out, if there is one. -/
theorem onResponse_divided {rest : Bytes} {next : Outgoing} (hphase : o.phase = .starting)
    (hempty : o.response = []) (hremainder : o.remainder = some rest) (hrest : rest ≠ [])
    (hchunk : 0 < o.sendChunk) (haccepts : scope.Accepts answer)
    (hwritten : (o.sender rest).request.Writes next) (memory : DeviceMemory) :
    ∃ o', o'.phase = .sending (o.sender rest).offered ∧
      o.onResponse scope memory answer = (.ok (.send next), o', memory) := by
  obtain ⟨o', hsame, hsize, hnumber, hstep⟩ := onResponse_accepted hphase hempty haccepts memory
  have hsender : o'.sender rest = o.sender rest := by
    unfold Operation.sender
    rw [hsize, hnumber]
  obtain ⟨s, hnew⟩ : ∃ s, Sender.new Operation.sendHandle o'.operationId rest o'.sendChunk = .ok s :=
    Sender.new_ok Operation.sendHandle_ne_zero (by rw [hsize]; exact hchunk) hrest
  have hwritten : (o.sender rest).request.outgoing = .ok next := hwritten
  rw [Operation.sendRemainder_divided (hsame.trans hremainder) hnew, hsender, hwritten] at hstep
  exact ⟨_, rfl, hstep⟩

/-- A body that is divided is sent with the first request and in chunks. -/
theorem bodyRequests_divided {rest : Bytes} {acks : List Bytes} {outs : List Outgoing}
    (hphase : o.phase = .starting) (hempty : o.response = [])
    (hremainder : o.remainder = some rest) (hrest : rest ≠ []) (hchunk : 0 < o.sendChunk)
    (hout : out.command = .operationInit) (haccepts : scope.Accepts answer)
    (houts : List.Forall₂ MultipartSendRequest.Writes (o.sender rest).requests outs)
    (hacks : List.Forall₂ MultipartSendRequest.AcknowledgedBy (o.sender rest).requests acks)
    (further : List Occurrence) :
    ((waiting o memory [] out).afterAll scope
      (.response answer :: (acks.map .response ++ further))).bodyRequests = out :: outs := by
  obtain ⟨next, hnext, hwritten⟩ :=
    MultipartSendRequest.exists_head_writes houts (Sender.head?_requests _)
  obtain ⟨o', hphase', hstep⟩ :=
    onResponse_divided hphase hempty hremainder hrest hchunk haccepts hwritten memory
  have hwaits : (waiting o memory [] out).hear scope answer =
      waiting o' memory [⟨out, answer⟩] next := hear_send hstep
  have hchunks : ((waiting o' memory [⟨out, answer⟩] next).afterAll scope
      (acks.map .response)).PastBody ∧ _ :=
    bodyRequests_chunks hphase' rfl hchunk hnext houts hacks
  show (((waiting o memory [] out).hear scope answer).afterAll scope _).bodyRequests = _
  rw [hwaits, afterAll_append, hchunks.1.afterAll, hchunks.2]
  show List.filter Outgoing.carriesBody [out] ++ outs = _
  rw [List.filter_cons_of_pos (Outgoing.carriesBody_first hout)]
  rfl

end Dialogue

section Delivery

variable {request : OperationRequest} {operationId : UInt16} {scope : SessionScope}
  {memory : DeviceMemory} {resource : Resource} {payload : Bytes} {limit : UInt32}

/-- Whether an operation on a device that takes `limit` bytes begins, and sends its body whole: every
    byte once and in order, in requests that the device can take. -/
def Delivers (request : OperationRequest) (operationId : UInt16) (scope : SessionScope)
    (memory : DeviceMemory) (limit : Nat) (payload : Bytes) : Prop :=
  ∃ first chunks out outs, Divides limit payload first chunks ∧ first.outgoing = .ok out ∧
    List.Forall₂ MultipartSendRequest.Writes chunks outs ∧
    (payload ≠ [] → ∀ sent ∈ out :: outs, sent.body.length ≤ limit) ∧
    (Dialogue.opening (.operation request operationId) scope memory).standing = .awaiting out ∧
    ∀ answer acks further, scope.Accepts answer →
      List.Forall₂ MultipartSendRequest.AcknowledgedBy chunks acks →
      ((Session.operation request operationId).dialogue scope memory
        (.response answer :: (acks.map .response ++ further))).bodyRequests = out :: outs

/-- Whether an operation fails before it sends anything, because of a transfer that cannot be. -/
def FailsToBegin (request : OperationRequest) (operationId : UInt16) (scope : SessionScope)
    (memory : DeviceMemory) : Prop :=
  ∃ words, (Dialogue.opening (.operation request operationId) scope memory).standing =
      .failed (.transfer words) ∧
    (Dialogue.opening (.operation request operationId) scope memory).sent = [] ∧
    (Dialogue.opening (.operation request operationId) scope memory).session.state = .idle ∧
    (Dialogue.opening (.operation request operationId) scope memory).memory = memory

theorem failsToBegin_of_cramped (hfound : scope.registry.getByUri request.uri = .ok resource)
    (hprepared :
      (Operation.on request operationId resource).prepare scope memory.store = .ok payload)
    (hlimit : memory.metadata.deviceMaxChunk = some limit) (hcramped : Cramped limit.toNat payload) :
    FailsToBegin request operationId scope memory := by
  obtain ⟨hpayload, hover, hroom⟩ := hcramped
  have hstart : ({ request, operationId } : Operation).start scope memory = _ :=
    Operation.start_eq hfound hprepared
  obtain ⟨words, hinit⟩ : ∃ words, (Operation.on request operationId resource).init memory.metadata
      payload = (.error (.transfer words), Operation.on request operationId resource) :=
    ⟨_, Operation.init_cramped hpayload hlimit hover hroom⟩
  rw [hinit] at hstart
  refine ⟨words, ?_⟩
  rw [Dialogue.opening_error hstart]
  exact ⟨rfl, rfl, rfl, rfl⟩

/-- A body that fits in the first request is delivered with it. -/
theorem delivers_undivided {flags : OperationFlags}
    (hfound : scope.registry.getByUri request.uri = .ok resource)
    (hprepared :
      (Operation.on request operationId resource).prepare scope memory.store = .ok payload)
    (hinit : (Operation.on request operationId resource).init memory.metadata payload =
      ((Operation.on request operationId resource).initRequest flags 0 payload,
        Operation.on request operationId resource))
    (hdivides : Divides limit.toNat payload
      ((Operation.on request operationId resource).opener flags 0 payload) [])
    (hsize : payload = [] ∨ OperationInitRequest.fixedSize + payload.length ≤ limit.toNat) :
    Delivers request operationId scope memory limit.toNat payload := by
  have hmax : limit.toNat ≤ maxU32 := toNat_le_maxU32 limit
  have hshort : payload.length ≤ maxU32 := by
    rcases hsize with rfl | hsize
    · exact Nat.zero_le _
    · omega
  obtain ⟨out, hout, hcommand, hlength⟩ :=
    (Operation.on request operationId resource).outgoing_opener flags 0 hshort
  have hstart : ({ request, operationId } : Operation).start scope memory = _ :=
    Operation.start_eq hfound hprepared
  rw [hinit, Operation.initRequest_eq, hout] at hstart
  have hopening := Dialogue.opening_send hstart
  refine ⟨_, [], out, [], hdivides, hout, .nil, ?_, ?_, ?_⟩
  · intro hpayload sent hsent
    rcases hsize with hempty | hsize
    · exact absurd hempty hpayload
    · rw [List.mem_singleton.mp hsent, hlength]
      exact hsize
  · rw [hopening]
    rfl
  · intro answer acks further haccepts hacks
    cases hacks
    unfold Session.dialogue
    rw [hopening]
    exact Dialogue.bodyRequests_undivided rfl rfl rfl hcommand haccepts further

/-- A body that does not fit in the first request is delivered in chunks. -/
theorem delivers_divided (hfound : scope.registry.getByUri request.uri = .ok resource)
    (hprepared :
      (Operation.on request operationId resource).prepare scope memory.store = .ok payload)
    (hlimit : memory.metadata.deviceMaxChunk = some limit) (hpayload : payload ≠ [])
    (hover : limit.toNat < OperationInitRequest.fixedSize + payload.length)
    (hroom : MultipartSendRequest.fixedSize + checksumSize < limit.toNat) :
    Delivers request operationId scope memory limit.toNat payload := by
  let o := Operation.on request operationId resource
  let s := (o.divided limit.toNat payload).sender
    (payload.drop (limit.toNat - OperationInitRequest.fixedSize))
  have hmax : limit.toNat ≤ maxU32 := toNat_le_maxU32 limit
  have hfixed : OperationInitRequest.fixedSize ≤
      MultipartSendRequest.fixedSize + checksumSize := by decide
  have hfirst : (payload.take (limit.toNat - OperationInitRequest.fixedSize)).length ≤
      limit.toNat - OperationInitRequest.fixedSize := List.length_take_le _ _
  have hchunk : s.maxChunk + (MultipartSendRequest.fixedSize + checksumSize) = limit.toNat :=
    Nat.sub_add_cancel (Nat.le_of_lt hroom)
  have hrest : payload.drop (limit.toNat - OperationInitRequest.fixedSize) ≠ [] := by
    rw [ne_eq, List.drop_eq_nil_iff]
    omega
  obtain ⟨out, hout, hcommand, hlength⟩ := o.outgoing_opener Operation.bodyFlags
    Operation.sendHandle (Nat.le_trans hfirst (by omega))
  obtain ⟨outs, houts⟩ : ∃ outs, List.Forall₂ MultipartSendRequest.Writes s.requests outs :=
    MultipartSendRequest.exists_writes fun chunk hmem => Sender.encode_ok_of_mem hmem (by omega)
  have hstart : ({ request, operationId } : Operation).start scope memory = _ :=
    Operation.start_eq hfound hprepared
  rw [Operation.init_divided hpayload hlimit hover hroom, Operation.initRequest_eq, hout] at hstart
  have hopening := Dialogue.opening_send hstart
  refine ⟨_, _, out, outs, o.divides_parts hpayload hover hroom, hout, houts, ?_, ?_, ?_⟩
  · intro _ sent hsent
    rcases List.mem_cons.mp hsent with rfl | hsent
    · rw [hlength]
      omega
    · obtain ⟨-, chunk, hmem, hencode⟩ := MultipartSendRequest.exists_of_mem_writes houts hsent
      have hbody := Sender.length_encode_of_mem hmem hencode
      omega
  · rw [hopening]
    rfl
  · intro answer acks further haccepts hacks
    unfold Session.dialogue
    rw [hopening]
    exact Dialogue.bodyRequests_divided rfl rfl rfl hrest (Nat.sub_pos_of_lt hroom) hcommand
      haccepts houts hacks further

/-- An operation whose device has no room for a divided body does not begin.  Any other sends its
    body to every device that goes on after the first request and acknowledges the chunks. -/
theorem body_delivered_whole (hfound : scope.registry.getByUri request.uri = .ok resource)
    (hprepared :
      (Operation.on request operationId resource).prepare scope memory.store = .ok payload)
    (hlimit : memory.metadata.deviceMaxChunk = some limit) :
    (Cramped limit.toNat payload → FailsToBegin request operationId scope memory) ∧
      (¬ Cramped limit.toNat payload →
        Delivers request operationId scope memory limit.toNat payload) := by
  refine ⟨failsToBegin_of_cramped hfound hprepared hlimit, fun hroomy => ?_⟩
  -- Without a body the first request goes out whatever the limit is.
  by_cases hpayload : payload = []
  · subst hpayload
    exact delivers_undivided hfound hprepared (Operation.init_empty _ _)
      (Operation.divides_empty _ _) (Or.inl rfl)
  rcases Nat.lt_or_ge limit.toNat (OperationInitRequest.fixedSize + payload.length) with hover | hfits
  · have hroom : MultipartSendRequest.fixedSize + checksumSize < limit.toNat :=
      Nat.lt_of_not_le fun hroom => hroomy ⟨hpayload, hover, hroom⟩
    exact delivers_divided hfound hprepared hlimit hpayload hover hroom
  · exact delivers_undivided hfound hprepared (Operation.init_whole hpayload hlimit hfits)
      (Operation.divides_whole _ _ hpayload) (Or.inr hfits)

end Delivery

/-! ### An update -/

/-- Writes a tree as its text, and takes a body for the text of its JSON. -/
def Codec.text : Codec where
  encode tree dictionaries _ :=
    if dictionaries.schema.isEmpty then .error (.encode "empty schema dictionary")
    else .ok (Bytes.utf8 (PropertyNode.text tree))
  decode body _ :=
    match Bytes.text? body with
    | some text => .ok text
    | none => .error (.decode "payload is not UTF-8")

/-- The only resource of a device. -/
def sampleResource : Resource where
  resourceId := 1
  uri := "/redfish/v1"
  schemaClass := SchemaClass.major
  schemaName := "Schema1"
  schemaVersion := "1.0.0.0"
  operations := OperationType.all

/-- The scope of sessions that accept this many bytes from the device. -/
def sampleScope (maxReceive : Nat) : SessionScope :=
  { registry := .ofResources [sampleResource], codec := .text, maxReceive }

/-- What is known of a device that takes `limit` bytes, with both dictionaries of its resource. -/
def sampleMemory (limit : UInt32) : DeviceMemory where
  metadata := { deviceMaxChunk := some limit }
  store := {
    uuid := ⟨0⟩
    dictionaries := (({} : Table DictionaryKey Dictionary).insert ⟨1, SchemaClass.major⟩
      { key := ⟨1, SchemaClass.major⟩, data := [7], complete := true, file := "schema" }).insert
      .reserved { key := .reserved, data := [8], complete := true, file := "annotations" } }

/-- A request to update the resource, and its encoded body. -/
def sampleUpdate : OperationRequest := .update "/redfish/v1" "\x7b\x7d"

def samplePayload : Bytes := Bytes.utf8 "4:Root\x7b\x7d"

/-- The response of a device that goes on, with this much of a result. -/
def sampleAnswer (payload : Bytes) : Bytes :=
  [0, 3, 0, 0, 0, 0, 0, 0, 0, 0, 0, 0, 0, .ofNat payload.length, 0, 0, 0, 1, 1, 0] ++ payload

/-- A device that takes 19 bytes has no room for the body.  One that takes 21 bytes gets half of it
    with the first request, and two chunks of two bytes with a check behind the last one. -/
theorem body_delivered_whole_update :
    (sampleScope 64).registry.getByUri sampleUpdate.uri = .ok sampleResource ∧
    (∀ limit, (Operation.on sampleUpdate 7 sampleResource).prepare (sampleScope 64)
      (sampleMemory limit).store = .ok samplePayload) ∧
    FailsToBegin sampleUpdate 7 (sampleScope 64) (sampleMemory 19) ∧
    Delivers sampleUpdate 7 (sampleScope 64) (sampleMemory 21) 21 samplePayload ∧
    ((Session.operation sampleUpdate 7).dialogue (sampleScope 64) (sampleMemory 21)
      [.response (sampleAnswer []), .response [0, 1], .response [0, 3]]).bodyRequests.map
      (fun sent => sent.body.length) = [21, 17, 21] := by
  have hfound : (sampleScope 64).registry.getByUri sampleUpdate.uri = .ok sampleResource := by
    decide +kernel
  have hprepared : ∀ limit, (Operation.on sampleUpdate 7 sampleResource).prepare (sampleScope 64)
      (sampleMemory limit).store = .ok samplePayload := by
    intro limit
    show (Operation.on sampleUpdate 7 sampleResource).prepare (sampleScope 64)
      (sampleMemory 0).store = .ok samplePayload
    decide +kernel
  have hcramped : Cramped 19 samplePayload := by
    refine ⟨?_, ?_, ?_⟩ <;> decide +kernel
  have hroomy : ¬ Cramped 21 samplePayload := fun hcramped => absurd hcramped.2.2 (by decide)
  refine ⟨hfound, hprepared, ?_, ?_, by decide +kernel⟩
  · exact (body_delivered_whole hfound (hprepared 19) rfl).1 hcramped
  · exact (body_delivered_whole hfound (hprepared 21) rfl).2 hroomy

/-- A request for an action that takes no body. -/
def sampleAction : OperationRequest where
  uri := "/redfish/v1"
  operation := .action
  payload := none

/-- The update on a device that takes 21 bytes and answers the first request with a byte of a result,
    where nothing may be received. -/
def sampleHalfway : Dialogue :=
  (Session.operation sampleUpdate 7).dialogue (sampleScope 0) (sampleMemory 21)
    [.response (sampleAnswer [65]), .response [0, 1], .response [0, 3]]

/-- Room is not asked for where no body is, and not every response to the first request lets the rest
    of a body follow.

    1. The action has no body; the first request alone is longer than what the device takes, and the
       operation begins all the same.
    2. The device goes on with the update and would acknowledge both chunks, but more of a result
       comes with its first response than may be received.  Half of the body has been sent. -/
theorem begins_cramped_and_ends_halfway :
    ((Operation.on sampleAction 7 sampleResource).prepare (sampleScope 64)
        (sampleMemory 16).store = .ok [] ∧
      16 < OperationInitRequest.fixedSize + ([] : Bytes).length ∧
      16 ≤ MultipartSendRequest.fixedSize + checksumSize ∧
      ¬ FailsToBegin sampleAction 7 (sampleScope 64) (sampleMemory 16)) ∧
    ((Operation.on sampleUpdate 7 sampleResource).prepare (sampleScope 0)
        (sampleMemory 21).store = .ok samplePayload ∧
      ¬ 21 ≤ MultipartSendRequest.fixedSize + checksumSize ∧
      (OperationInitResponse.decode (sampleAnswer [65])).toOption.map
        (fun response => response.status.isFailure) = some false ∧
      sampleHalfway.standing = .failed (.message (.payloadTooLarge 1 0)) ∧
      sampleHalfway.bodyRequests.map (fun sent => sent.body.length) = [21] ∧
      samplePayload.length = 8) := by
  refine ⟨⟨by decide +kernel, by decide, by decide, ?_⟩, by decide +kernel, by decide,
    by decide +kernel, by decide +kernel, by decide +kernel, by decide +kernel⟩
  rintro ⟨words, -, hnone, -⟩
  have hsent : (Dialogue.opening (.operation sampleAction 7) (sampleScope 64)
      (sampleMemory 16)).sent.length = 1 := by decide +kernel
  rw [hnone] at hsent
  cases hsent

end DeviceEnablement
