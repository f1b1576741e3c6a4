/-
  The course of an operation and its result.

  1. `Operation.commands`: the commands of an operation, in their order.
  2. `Exchange.result`, `Dialogue.arrived`: the bytes of the result that the responses have carried.
  3. `Operation.Told`, `Operation.Abreast`: the phase of an operation agrees with what was said, one
     constructor for each phase.  Every response that leads to a further request keeps this
     (`Abreast.further`).
  4. `Abreast.ordered`: the requests so far are the first ones of a course.  `Abreast.overlong`: a
     result that would become too long ends the operation.
  5. `Operation.Attends`, `Followed`: the invariant of a whole dialogue; from it
     `operation_conducted`.  One update that ends well, and one whose result is too long
     (`operation_conducted_update`).
-/
import DeviceEnablement.Proofs.Session.Body
import DeviceEnablement.Proofs.Session.Dialogue
import DeviceEnablement.Proofs.Session.Progress

namespace DeviceEnablement

/-! ## What was said -/

/-- The commands of an operation that sends `sends` chunks of its body and asks for `receives` chunks
    of its result. -/
def Operation.commands (sends receives : Nat) : List Command :=
  .operationInit :: (List.replicate sends .multipartSend ++
    List.replicate receives .multipartReceive ++ [.operationComplete])

namespace Exchange

/-- The command of the request. -/
def command (e : Exchange) : Command := e.request.command

/-- The bytes of a result in a response; a checksum is none of them.  A device that gives the
    operation up has no result. -/
def result (e : Exchange) : Bytes :=
  match e.command with
  | .operationInit =>
    match OperationInitResponse.decode e.response with
    | .ok response => if response.status.isFailure then [] else response.inlined
    | .error _ => []
  | .multipartReceive =>
    match MultipartReceiveResponse.decode e.response with
    | .ok response => response.data
    | .error _ => []
  | _ => []

variable {out : Outgoing} {body : Bytes}

theorem result_init {response : OperationInitResponse} (hcommand : out.command = .operationInit)
    (hdecode : OperationInitResponse.decode body = .ok response)
    (hgoing : response.status.isFailure = false) :
    (⟨out, body⟩ : Exchange).result = response.inlined := by
  unfold result command
  rw [hcommand]
  dsimp only
  rw [hdecode]
  dsimp only
  rw [if_neg (by rw [hgoing]; exact Bool.false_ne_true)]

theorem result_receive {response : MultipartReceiveResponse}
    (hcommand : out.command = .multipartReceive)
    (hdecode : MultipartReceiveResponse.decode body = .ok response) :
    (⟨out, body⟩ : Exchange).result = response.data := by
  unfold result command
  rw [hcommand]
  dsimp only
  rw [hdecode]

/-- Only a response that can be read, from a device that goes on, carries a part of the result. -/
theorem init_of_result_ne_nil (hcommand : out.command = .operationInit)
    (h : (⟨out, body⟩ : Exchange).result ≠ []) :
    ∃ response, OperationInitResponse.decode body = .ok response ∧
      response.status.isFailure = false := by
  unfold result command at h
  rw [hcommand] at h
  dsimp only at h
  split at h
  · rename_i response hdecode
    split at h
    · exact absurd rfl h
    · rename_i hgoing
      exact ⟨response, hdecode, Bool.not_eq_true _ ▸ hgoing⟩
  · exact absurd rfl h

theorem receive_of_result_ne_nil (hcommand : out.command = .multipartReceive)
    (h : (⟨out, body⟩ : Exchange).result ≠ []) :
    ∃ response, MultipartReceiveResponse.decode body = .ok response := by
  unfold result command at h
  rw [hcommand] at h
  dsimp only at h
  split at h
  · rename_i response hdecode
    exact ⟨response, hdecode⟩
  · exact absurd rfl h

theorem result_send (hcommand : out.command = .multipartSend) (body : Bytes) :
    (⟨out, body⟩ : Exchange).result = [] := by
  unfold result command
  rw [hcommand]

theorem result_complete (hcommand : out.command = .operationComplete) (body : Bytes) :
    (⟨out, body⟩ : Exchange).result = [] := by
  unfold result command
  rw [hcommand]

end Exchange

/-- Whether this is the etag that the device has given in its first response. -/
def Tagged (exchanges : List Exchange) (etag : String) : Prop :=
  ∃ first response, exchanges.head? = some first ∧
    OperationInitResponse.decode first.response = .ok response ∧ response.etag.text = etag

/-- Whether the device has named a handle under which the result can be fetched. -/
def Staged (exchanges : List Exchange) : Prop :=
  ∃ first response, exchanges.head? = some first ∧
    OperationInitResponse.decode first.response = .ok response ∧ response.resultHandle ≠ 0

namespace Dialogue

/-- The bytes of the result that have arrived. -/
def arrived (d : Dialogue) : Bytes := d.exchanges.flatMap Exchange.result

end Dialogue

namespace Operation

/-- A course has some chunks or none. -/
theorem exists_count (p : Prop) : ∃ n : Nat, 0 < n ↔ p := by
  by_cases hp : p
  · exact ⟨1, iff_of_true Nat.one_pos hp⟩
  · exact ⟨0, iff_of_false (Nat.lt_irrefl 0) hp⟩

variable {o o' : Operation} {scope : SessionScope} {memory memory' : DeviceMemory}
  {body : Bytes} {out next : Outgoing} {exchanges : List Exchange} {overflows : Prop}

/-! ## Keeping step -/

/-- What an operation has kept of the responses to its first and all further requests. -/
structure Told (scope : SessionScope) (exchanges : List Exchange) (o : Operation) : Prop where
  initiated : ∃ first response, exchanges.head? = some first ∧
    OperationInitResponse.decode first.response = .ok response ∧
    response.resultHandle = o.resultHandle ∧ response.etag.text = o.etag
  collected : o.response = exchanges.flatMap Exchange.result
  bounded : o.response.length ≤ scope.maxReceive

namespace Told

theorem add {e : Exchange} (h : o.Told scope exchanges)
    (hhandle : o'.resultHandle = o.resultHandle) (hetag : o'.etag = o.etag)
    (hresponse : o'.response = o.response ++ e.result)
    (hbounded : o'.response.length ≤ scope.maxReceive) : o'.Told scope (exchanges ++ [e]) := by
  obtain ⟨first, response, hfirst, hdecode, hnamed, htagged⟩ := h.initiated
  refine ⟨⟨first, response, ?_, hdecode, hnamed.trans hhandle.symm, htagged.trans hetag.symm⟩, ?_,
    hbounded⟩
  · rw [List.head?_append, hfirst]
    rfl
  · rw [hresponse, h.collected, List.flatMap_append, List.flatMap_singleton]

/-- A response that carries no part of the result adds nothing. -/
theorem pass {e : Exchange} (h : o.Told scope exchanges)
    (hhandle : o'.resultHandle = o.resultHandle) (hetag : o'.etag = o.etag)
    (hresponse : o'.response = o.response) (hnone : e.result = []) :
    o'.Told scope (exchanges ++ [e]) := by
  refine h.add hhandle hetag ?_ ?_
  · rw [hresponse, hnone, List.append_nil]
  · rw [hresponse]
    exact h.bounded

theorem staged_iff (h : o.Told scope exchanges) (further : List Exchange) :
    Staged (exchanges ++ further) ↔ o.resultHandle ≠ 0 := by
  obtain ⟨first, response, hfirst, hdecode, hsame, -⟩ := h.initiated
  have hhead : (exchanges ++ further).head? = some first := by
    rw [List.head?_append, hfirst]
    rfl
  constructor
  · rintro ⟨first', response', hfirst', hdecode', hstaged⟩
    rw [hhead, Option.some.injEq] at hfirst'
    subst hfirst'
    rw [hdecode, Except.ok.injEq] at hdecode'
    subst hdecode'
    rw [← hsame]
    exact hstaged
  · intro hstaged
    rw [← hsame] at hstaged
    exact ⟨first, response, hhead, hdecode, hstaged⟩

theorem tagged (h : o.Told scope exchanges) (further : List Exchange) :
    Tagged (exchanges ++ further) o.etag := by
  obtain ⟨first, response, hfirst, hdecode, -, hsame⟩ := h.initiated
  refine ⟨first, response, ?_, hdecode, hsame⟩
  rw [List.head?_append, hfirst]
  rfl

end Told

/-- Whether the phase of an operation agrees with what was said so far.  `overflows` is whether its
    body has to be divided. -/
inductive Abreast (scope : SessionScope) (overflows : Prop) (o : Operation) :
    List Exchange → Prop
  | starting (phase : o.phase = .starting) (empty : o.response = [])
      (kept : o.remainder.isSome = true ↔ overflows) : Abreast scope overflows o []
  | sending {exchanges : List Exchange} {s : Sender} {sends : Nat} (phase : o.phase = .sending s)
      (told : o.Told scope exchanges) (divided : overflows)
      (commands : exchanges.map Exchange.command =
        .operationInit :: List.replicate sends .multipartSend) :
      Abreast scope overflows o exchanges
  | receiving {exchanges : List Exchange} {r : Receiver} {sends receives : Nat}
      (phase : o.phase = .receiving r) (told : o.Told scope exchanges)
      (limit : r.maxChunk = scope.maxReceive) (staged : o.resultHandle ≠ 0)
      (divided : 0 < sends ↔ overflows)
      (commands : exchanges.map Exchange.command = .operationInit ::
        (List.replicate sends .multipartSend ++ List.replicate receives .multipartReceive)) :
      Abreast scope overflows o exchanges
  | completing {exchanges : List Exchange} {sends receives : Nat}
      (phase : o.phase = .completing) (told : o.Told scope exchanges)
      (staged : 0 < receives ↔ o.resultHandle ≠ 0) (divided : 0 < sends ↔ overflows)
      (commands : exchanges.map Exchange.command = .operationInit ::
        (List.replicate sends .multipartSend ++ List.replicate receives .multipartReceive)) :
      Abreast scope overflows o exchanges

/-- Behind the body comes the result. -/
theorem abreast_collectResult {sends : Nat} (htold : o.Told scope exchanges)
    (hdivided : 0 < sends ↔ overflows)
    (hcommands : exchanges.map Exchange.command =
      .operationInit :: List.replicate sends .multipartSend)
    (h : o.collectResult scope = (.ok (.send next), o')) : Abreast scope overflows o' exchanges := by
  have hnone : exchanges.map Exchange.command = .operationInit ::
      (List.replicate sends .multipartSend ++ List.replicate 0 .multipartReceive) := by
    rw [hcommands, List.replicate_zero, List.append_nil]
  by_cases hhandle : o.resultHandle = 0
  · rw [collectResult_complete hhandle] at h
    cases h
    refine .completing rfl ⟨htold.initiated, htold.collected, htold.bounded⟩ ?_ hdivided hnone
    exact ⟨fun hlt => absurd hlt (Nat.lt_irrefl 0), fun hne => absurd hhandle hne⟩
  · rw [collectResult_receive hhandle] at h
    cases h
    exact .receiving rfl ⟨htold.initiated, htold.collected, htold.bounded⟩ rfl hhandle hdivided hnone

namespace Abreast

theorem bounded (h : Abreast scope overflows o exchanges) :
    o.response.length ≤ scope.maxReceive := by
  cases h with
  | starting _ hempty =>
    rw [hempty]
    exact Nat.zero_le _
  | sending _ htold | receiving _ htold | completing _ htold => exact htold.bounded

theorem collected (h : Abreast scope overflows o exchanges) :
    o.response = exchanges.flatMap Exchange.result := by
  cases h with
  | starting _ hempty => exact hempty
  | sending _ htold | receiving _ htold | completing _ htold => exact htold.collected

/-- The first response leads to the rest of the body, or to the result. -/
theorem further_starting (hphase : o.phase = .starting) (hempty : o.response = [])
    (hkept : o.remainder.isSome = true ↔ overflows) (hcommand : out.command = .operationInit)
    (hstep : o.onResponse scope memory body = (.ok (.send next), o', memory')) :
    Abreast scope overflows o' [⟨out, body⟩] := by
  have hbounded : o.response.length ≤ scope.maxReceive := by
    rw [hempty]
    exact Nat.zero_le _
  rw [onResponse_starting hphase] at hstep
  obtain ⟨response, hdecode, hgoing, hsize, hsend⟩ := onInit_send (keeping_eq hstep).1 hbounded
  have hresult := Exchange.result_init hcommand hdecode hgoing
  have hcommands : [(⟨out, body⟩ : Exchange)].map Exchange.command =
      .operationInit :: List.replicate 0 .multipartSend := congrArg (fun c => [c]) hcommand
  have hcollected : o.response ++ response.inlined = [(⟨out, body⟩ : Exchange)].flatMap
      Exchange.result := by
    rw [hempty, List.nil_append, List.flatMap_singleton, hresult]
  have htold : (o.initiated response (o.response ++ response.inlined)).Told scope
      [⟨out, body⟩] := by
    refine ⟨⟨_, response, rfl, hdecode, rfl, rfl⟩, hcollected, ?_⟩
    show (o.response ++ response.inlined).length ≤ _
    rw [List.length_append]
    exact hsize
  -- What was kept of the body decides whether chunks of it follow.
  cases hremainder : (o.initiated response (o.response ++ response.inlined)).remainder with
  | none =>
    have hnone : o.remainder = none := hremainder
    have hwhole : ¬ overflows := fun hover => by
      have hsome := hkept.mpr hover
      rw [hnone] at hsome
      cases hsome
    rw [sendRemainder_collect hremainder] at hsend
    refine abreast_collectResult htold ?_ hcommands hsend
    exact ⟨fun hlt => absurd hlt (Nat.lt_irrefl 0), fun hover => absurd hover hwhole⟩
  | some rest =>
    have hrest : o.remainder = some rest := hremainder
    have hdivided : overflows := by
      refine hkept.mp ?_
      rw [hrest]
      rfl
    obtain ⟨-, rfl⟩ := sendRemainder_send hremainder hsend
    exact .sending rfl ⟨htold.initiated, htold.collected, htold.bounded⟩ hdivided hcommands

/-- A response that leads to a further request takes the operation and what was said a step further
    together. -/
theorem further (h : Abreast scope overflows o exchanges)
    (hawaits : (SessionTask.operation o).Awaits out)
    (hstep : o.onResponse scope memory body = (.ok (.send next), o', memory')) :
    Abreast scope overflows o' (exchanges ++ [⟨out, body⟩]) := by
  have hcommand : out.command = o.phase.awaited := hawaits.command
  cases h with
  | starting hphase hempty hkept =>
    rw [hphase] at hcommand
    exact further_starting hphase hempty hkept hcommand hstep
  | @sending _ s sends hphase htold hdivided hcommands =>
    rw [hphase] at hcommand
    have hnone := Exchange.result_send hcommand body
    have hcommands' : (exchanges ++ [(⟨out, body⟩ : Exchange)]).map Exchange.command =
        .operationInit :: List.replicate (sends + 1) .multipartSend := by
      rw [List.map_append, hcommands, List.replicate_succ']
      exact congrArg (fun c => Command.operationInit :: (List.replicate sends _ ++ [c])) hcommand
    rw [onResponse_sending hphase] at hstep
    rcases onAcknowledgement_send (keeping_eq hstep).1 with ⟨s', events, -, rfl⟩ | ⟨s', hcollect⟩
    · exact .sending rfl (htold.pass rfl rfl rfl hnone) hdivided hcommands'
    · have htold' : Told scope (exchanges ++ [⟨out, body⟩]) { o with phase := .sending s' } :=
        htold.pass rfl rfl rfl hnone
      exact abreast_collectResult htold' (iff_of_true (Nat.succ_pos sends) hdivided) hcommands'
        hcollect
  | @receiving _ r sends receives hphase htold hlimit hstaged hdivided hcommands =>
    rw [hphase] at hcommand
    have hcommands' : (exchanges ++ [(⟨out, body⟩ : Exchange)]).map Exchange.command =
        .operationInit :: (List.replicate sends .multipartSend ++
          List.replicate (receives + 1) .multipartReceive) := by
      rw [List.map_append, hcommands, List.replicate_succ', ← List.append_assoc]
      exact congrArg (fun c => Command.operationInit ::
        (List.replicate sends _ ++ List.replicate receives _ ++ [c])) hcommand
    rw [onResponse_receiving hphase] at hstep
    obtain ⟨response, r', hdecode, hbounded, -, hr', hnext⟩ := onChunk_send (keeping_eq hstep).1
    have hresult := Exchange.result_receive hcommand hdecode
    rw [← hresult] at hbounded hnext
    rcases hnext with ⟨-, rfl⟩ | hcomplete
    · exact .receiving rfl (htold.add rfl rfl rfl hbounded) (hr'.trans hlimit) hstaged hdivided
        hcommands'
    · cases hcomplete
      exact .completing rfl (htold.add rfl rfl rfl hbounded)
        (iff_of_true (Nat.succ_pos receives) hstaged) hdivided hcommands'
  | completing hphase =>
    rw [onResponse_completing hphase] at hstep
    exact absurd hstep (onComplete_ne_send o)

/-- The requests so far, the unanswered one included, are the first ones of a course.  The course has
    chunks of a body if the body is divided, and chunks of a result if there is a handle for it. -/
theorem ordered (h : Abreast scope overflows o exchanges)
    (hawaits : (SessionTask.operation o).Awaits out) (further : List Exchange) :
    ∃ sends receives,
      exchanges.map Exchange.command ++ [out.command] <+: Operation.commands sends receives ∧
      (0 < sends ↔ overflows) ∧ (0 < receives ↔ Staged (exchanges ++ further)) := by
  have hcommand : out.command = o.phase.awaited := hawaits.command
  cases h with
  | starting hphase =>
    obtain ⟨sends, hsends⟩ := exists_count overflows
    obtain ⟨receives, hreceives⟩ := exists_count (Staged ([] ++ further))
    refine ⟨sends, receives, ?_, hsends, hreceives⟩
    rw [hcommand, hphase]
    exact List.prefix_append [Command.operationInit] _
  | @sending _ s sends hphase htold hdivided hcommands =>
    obtain ⟨receives, hreceives⟩ := exists_count (Staged (exchanges ++ further))
    refine ⟨sends + 1, receives, ?_, iff_of_true (Nat.succ_pos sends) hdivided, hreceives⟩
    rw [hcommands, hcommand, hphase, Operation.commands, List.replicate_succ', List.cons_append,
      List.append_assoc]
    exact List.prefix_cons_inj _ |>.mpr (List.prefix_append _ _)
  | @receiving _ r sends receives hphase htold hlimit hstaged hdivided hcommands =>
    have hreceives := iff_of_true (Nat.succ_pos receives) ((htold.staged_iff further).mpr hstaged)
    refine ⟨sends, receives + 1, ?_, hdivided, hreceives⟩
    rw [hcommands, hcommand, hphase, Operation.commands, List.replicate_succ', List.cons_append,
      ← List.append_assoc]
    exact List.prefix_cons_inj _ |>.mpr (List.prefix_append _ _)
  | @completing _ sends receives hphase htold hstaged hdivided hcommands =>
    refine ⟨sends, receives, ?_, hdivided, hstaged.trans (htold.staged_iff further).symm⟩
    rw [hcommands, hcommand, hphase, List.cons_append]
    exact List.prefix_refl _

/-- An operation that is to be completed keeps the etag of the first response. -/
theorem tagged (h : Abreast scope overflows o exchanges) (hphase : o.phase = .completing)
    (further : List Exchange) : Tagged (exchanges ++ further) o.etag := by
  cases h with
  | completing _ htold => exact htold.tagged further
  | starting hphase' | sending hphase' | receiving hphase' =>
    rw [hphase] at hphase'
    cases hphase'

/-- A response that would make the result too long ends the operation. -/
theorem overlong (h : Abreast scope overflows o exchanges)
    (hawaits : (SessionTask.operation o).Awaits out) (memory : DeviceMemory)
    (hsize : scope.maxReceive < (o.response ++ (⟨out, body⟩ : Exchange).result).length) :
    ∃ size, scope.maxReceive < size ∧ (o.onResponse scope memory body).1 =
      .error (.message (.payloadTooLarge size scope.maxReceive)) := by
  have hbounded := h.bounded
  have hcommand : out.command = o.phase.awaited := hawaits.command
  -- So far the result fits: the response itself carries some of it.
  have hcarries : (⟨out, body⟩ : Exchange).result ≠ [] := by
    intro hnone
    rw [hnone, List.append_nil] at hsize
    exact absurd hbounded (Nat.not_le.mpr hsize)
  rw [List.length_append] at hsize
  cases hphase : o.phase with
  | starting =>
    rw [hphase] at hcommand
    obtain ⟨response, hdecode, hgoing⟩ := Exchange.init_of_result_ne_nil hcommand hcarries
    rw [Exchange.result_init hcommand hdecode hgoing] at hsize
    rw [onResponse_starting hphase]
    exact ⟨_, hsize, onInit_overlong hdecode hgoing hbounded hsize⟩
  | sending s =>
    rw [hphase] at hcommand
    exact absurd (Exchange.result_send hcommand body) hcarries
  | receiving r =>
    rw [hphase] at hcommand
    have hlimit : r.maxChunk = scope.maxReceive := by
      cases h with
      | @receiving _ r' _ _ hphase' _ hlimit =>
        rw [hphase, OperationPhase.receiving.injEq] at hphase'
        rw [hphase']
        exact hlimit
      | starting hphase' | sending hphase' | completing hphase' =>
        rw [hphase] at hphase'
        cases hphase'
    obtain ⟨response, hdecode⟩ := Exchange.receive_of_result_ne_nil hcommand hcarries
    rw [Exchange.result_receive hcommand hdecode] at hsize
    rw [onResponse_receiving hphase]
    exact onChunk_overlong (hawaits.underway.receiving hphase) hlimit hdecode hsize
  | completing =>
    rw [hphase] at hcommand
    exact absurd (Exchange.result_complete hcommand body) hcarries

end Abreast

/-! ## The invariant -/

section Invariant

variable {request : OperationRequest} {operationId : UInt16}

/-- Whether an operation that waits for the response to `out` is the one that was asked for, and has
    followed what was said. -/
structure Attends (request : OperationRequest) (operationId : UInt16) (scope : SessionScope)
    (memory : DeviceMemory) (o : Operation) (exchanges : List Exchange) (out : Outgoing) :
    Prop where
  asked : ∃ resource, scope.registry.getByUri request.uri = .ok resource ∧
    o.subject = (on request operationId resource).subject
  awaits : (SessionTask.operation o).Awaits out
  numbered : o.phase.Numbered operationId
  requests : ∀ sent ∈ exchanges.map Exchange.request ++ [out], sent.OfOperation operationId
  abreast : o.Abreast scope (request.Overflows operationId scope memory) exchanges

namespace Attends

theorem number (h : Attends request operationId scope memory o exchanges out) :
    o.operationId = operationId := by
  obtain ⟨resource, -, hsubject⟩ := h.asked
  exact congrArg OperationSubject.operationId hsubject

theorem further (h : Attends request operationId scope memory o exchanges out)
    (hstep : o.onResponse scope memory body = (.ok (.send next), o', memory')) :
    Attends request operationId scope memory o' (exchanges ++ [⟨out, body⟩]) next := by
  have hsubject := o.subject_onResponse scope memory body
  rw [hstep] at hsubject
  have hnumber := h.numbered
  rw [← h.number] at hnumber
  have hnumbered := numbered_onResponse hnumber h.abreast.bounded hstep
  rw [h.number] at hnumbered
  obtain ⟨resource, hfound, hasked⟩ := h.asked
  refine ⟨⟨resource, hfound, hsubject.trans hasked⟩, onResponse_awaits hstep, hnumbered.2, ?_,
    h.abreast.further h.awaits hstep⟩
  intro sent hsent
  rw [List.map_append] at hsent
  rcases List.mem_append.mp hsent with hsent | hsent
  · exact h.requests sent hsent
  · rw [List.mem_singleton.mp hsent]
    exact hnumbered.1

end Attends

/-- The dialogue of an operation: it could not begin, it waits for a response, or the last response
    has ended it. -/
inductive Followed (request : OperationRequest) (operationId : UInt16) (scope : SessionScope)
    (memory : DeviceMemory) : Dialogue → Prop
  | refused {o : Operation} (state : SessionState) (e : Failure) (empty : o.response = []) :
      Followed request operationId scope memory
        { session := { state, task := .operation o }, memory, exchanges := [], standing := .failed e }
  | waits {o : Operation} {state : SessionState} {exchanges : List Exchange} {out : Outgoing}
      (waiting : state = .waiting ∨ state.isAbandoned = true)
      (attends : Attends request operationId scope memory o exchanges out) :
      Followed request operationId scope memory
        { session := { state, task := .operation o }, memory, exchanges, standing := .awaiting out }
  | ended {o o' : Operation} {memory' : DeviceMemory} {exchanges : List Exchange} {out : Outgoing}
      {body : Bytes} {result : Except Failure Step} (state : SessionState)
      (attends : Attends request operationId scope memory o exchanges out)
      (step : o.onResponse scope memory body = (result, o', memory'))
      (last : ∀ next, (Standing.awaiting out).after result ≠ .awaiting next) :
      Followed request operationId scope memory
        { session := { state, task := .operation o' }, memory := memory'
          exchanges := exchanges ++ [⟨out, body⟩], standing := (Standing.awaiting out).after result }

namespace Followed

/-- An operation that has just begun has said nothing but its first request. -/
theorem attends_first {o : Operation} {resource : Resource} {flags : OperationFlags}
    {handle : UInt32} {inlined : Bytes}
    (hfound : scope.registry.getByUri request.uri = .ok resource)
    (hsubject : o.subject = (on request operationId resource).subject)
    (hphase : o.phase = .starting) (hempty : o.response = [])
    (hkept : o.remainder.isSome = true ↔ request.Overflows operationId scope memory)
    (hwritten : ((on request operationId resource).opener flags handle inlined).outgoing = .ok out) :
    Attends request operationId scope memory o [] out := by
  have hawaits : (SessionTask.operation o).Awaits out :=
    SessionTask.awaits_of_opening (decide_eq_true hphase)
      (OperationInitRequest.command_of_outgoing hwritten)
  refine ⟨⟨resource, hfound, hsubject⟩, hawaits, ?_, ?_, .starting hphase hempty hkept⟩
  · rw [hphase]
    trivial
  · intro sent hsent
    rw [List.mem_singleton.mp hsent]
    exact .init rfl hwritten

theorem opening (request : OperationRequest) (operationId : UInt16) (scope : SessionScope)
    (memory : DeviceMemory) :
    Followed request operationId scope memory
      (.opening (.operation request operationId) scope memory) := by
  have hbegun := begun_start request operationId scope memory
  obtain ⟨started, hstart⟩ : ∃ started, ({ request, operationId } : Operation).start scope memory =
    started := ⟨_, rfl⟩
  rw [hstart] at hbegun
  cases hbegun with
  | refused e hempty =>
    rw [Dialogue.opening_error hstart]
    exact .refused .idle e hempty
  | whole hfound hfits hwritten =>
    rw [Dialogue.opening_send hstart]
    exact .waits (Or.inl rfl)
      (attends_first hfound rfl rfl rfl (iff_of_false Bool.false_ne_true hfits) hwritten)
  | divided hfound hoverflows hwritten =>
    rw [Dialogue.opening_send hstart]
    exact .waits (Or.inl rfl)
      (attends_first hfound rfl rfl rfl (iff_of_true rfl hoverflows) hwritten)

theorem hear {d : Dialogue} (h : Followed request operationId scope memory d) (body : Bytes) :
    Followed request operationId scope memory (d.hear scope body) := by
  cases h with
  | refused state e hempty => exact .refused state e hempty
  | ended state hattends hstep hlast =>
    rw [Dialogue.hear_ended hlast]
    exact .ended state hattends hstep hlast
  | @waits o state exchanges out hwaiting hattends =>
    rcases hwaiting with rfl | habandoned
    · show Followed _ _ _ _ ((Dialogue.waiting o memory exchanges out).hear scope body)
      rcases Dialogue.onResponse_cases o scope memory out body with
        ⟨next, o', memory', hstep⟩ | ⟨result, o', memory', hstep, hlast⟩
      · rw [Dialogue.hear_send hstep]
        have hmemory := memory_onResponse hstep (fun _ h => by cases h)
        subst hmemory
        exact .waits (Or.inl rfl) (hattends.further hstep)
      · rw [Dialogue.hear_waiting hstep]
        exact .ended _ hattends hstep hlast
    · rw [Dialogue.hear_abandoned habandoned]
      exact .waits (Or.inr habandoned) hattends

theorem giveUp {d : Dialogue} (h : Followed request operationId scope memory d)
    {state : SessionState} (hstate : state.isAbandoned = true) :
    Followed request operationId scope memory (d.giveUp state) := by
  unfold Dialogue.giveUp
  split
  · exact h
  · cases h with
    | refused _ e hempty => exact .refused state e hempty
    | waits _ hattends => exact .waits (Or.inr hstate) hattends
    | ended _ hattends hstep hlast => exact .ended state hattends hstep hlast

theorem after {d : Dialogue} (h : Followed request operationId scope memory d)
    (occurrence : Occurrence) : Followed request operationId scope memory (d.after scope occurrence) := by
  cases occurrence with
  | response body => exact h.hear body
  | expired => exact h.giveUp rfl
  | cancelled => exact h.giveUp rfl

/-- Whatever occurs, the operation has followed what was said. -/
theorem dialogue (request : OperationRequest) (operationId : UInt16) (scope : SessionScope)
    (memory : DeviceMemory) (occurrences : List Occurrence) :
    Followed request operationId scope memory
      ((Session.operation request operationId).dialogue scope memory occurrences) :=
  Dialogue.afterAll_induction (fun _ occurrence h => h.after occurrence)
    (opening request operationId scope memory) occurrences

end Followed

/-! ## What holds of every operation -/

/-- Whether a result of these bytes has this JSON text: none without bytes, and else what the codec
    makes of them. -/
def Yields (request : OperationRequest) (operationId : UInt16) (scope : SessionScope)
    (store : Store) (arrived : Bytes) (json : String) : Prop :=
  arrived = [] ∧ json = "" ∨
    arrived ≠ [] ∧ ∃ resource dictionaries,
      scope.registry.getByUri request.uri = .ok resource ∧
      (on request operationId resource).dictionaries store = .ok dictionaries ∧
      scope.codec.decode arrived dictionaries = .ok json

/-- A decoded result is that of the bytes that have arrived. -/
theorem yields_of_decodeResult {store : Store} {arrived : Bytes} {json : String}
    (hasked : ∃ resource, scope.registry.getByUri request.uri = .ok resource ∧
      o.subject = (on request operationId resource).subject)
    (h : o.decodeResult scope store arrived = .ok json) :
    Yields request operationId scope store arrived json := by
  unfold decodeResult at h
  split at h
  · rename_i hnone
    cases h
    exact Or.inl ⟨List.isEmpty_iff.mp hnone, rfl⟩
  · rename_i hsome
    obtain ⟨resource, hfound, hsubject⟩ := hasked
    refine Or.inr ⟨fun hnone => hsome (List.isEmpty_iff.mpr hnone), resource, ?_⟩
    rw [dictionaries_congr hsubject] at h
    cases hdictionaries : (on request operationId resource).dictionaries store with
    | error e =>
      rw [hdictionaries] at h
      cases h
    | ok dictionaries =>
      rw [hdictionaries] at h
      refine ⟨dictionaries, hfound, rfl, ?_⟩
      change (scope.codec.decode arrived dictionaries).mapError Failure.model = _ at h
      cases hdecode : scope.codec.decode arrived dictionaries with
      | error e =>
        rw [hdecode] at h
        cases h
      | ok text =>
        rw [hdecode] at h
        cases h
        rfl

/-- How an operation is conducted that began with this memory. -/
structure Conducted (request : OperationRequest) (operationId : UInt16) (scope : SessionScope)
    (memory : DeviceMemory) (d : Dialogue) : Prop where
  /-- The requests are the first ones of a course, which has chunks of the body if the body does not
      fit in the first request, and chunks of the result if the device has named a handle for it. -/
  ordered : ∃ sends receives, d.commands <+: commands sends receives ∧
    (0 < sends ↔ request.Overflows operationId scope memory) ∧
    (0 < receives ↔ Staged d.exchanges)
  numbered : ∀ sent ∈ d.sent, sent.OfOperation operationId
  /-- The operation never keeps more of a result than it accepts. -/
  bounded : ∀ o, d.session.task = .operation o → o.response.length ≤ scope.maxReceive
  /-- A result that becomes longer than that ends the operation. -/
  overlong : scope.maxReceive < d.arrived.length →
    ∃ size, scope.maxReceive < size ∧
      d.standing = .failed (.message (.payloadTooLarge size scope.maxReceive))
  /-- Only a successful response to the request to complete ends the operation well. -/
  completed : ∀ output, d.standing = .done output →
    ∃ earlier last response, d.exchanges = earlier ++ [last] ∧ last.command = .operationComplete ∧
      OperationCompleteResponse.decode last.response = .ok response
  /-- What an operation ends well with is what has arrived, and the etag of the first response, which
      is all that it changes. -/
  decoded : ∀ output, d.standing = .done output →
    ∃ json etag, output = .operation { json, etag, status := statusOk } ∧
      Yields request operationId scope memory.store d.arrived json ∧ Tagged d.exchanges etag ∧
      d.memory =
        if etag = "" then memory
        else { memory with metadata := { memory.metadata with etag := some etag } }
  /-- An operation that has not ended well has changed nothing. -/
  unchanged : (∀ output, d.standing ≠ .done output) → d.memory = memory
  /-- A response is discarded exactly when the operation was given up. -/
  discarded : ∀ body, (d.session.onResponse scope d.memory body).1 = .ok .discarded ↔
    d.session.state.isAbandoned = true
  /-- Until then every response to a request counts. -/
  heard : ∀ out body, d.standing = .awaiting out → d.session.state.isAbandoned = false →
    (d.hear scope body).exchanges = d.exchanges ++ [⟨out, body⟩]

theorem conducted_refused {state : SessionState} {e : Failure} (hempty : o.response = []) :
    Conducted request operationId scope memory
      { session := { state, task := .operation o }, memory, exchanges := [],
        standing := .failed e } := by
  constructor
  case ordered =>
    obtain ⟨sends, hsends⟩ := exists_count (request.Overflows operationId scope memory)
    obtain ⟨receives, hreceives⟩ := exists_count (Staged [])
    exact ⟨sends, receives, List.nil_prefix, hsends, hreceives⟩
  case numbered =>
    intro sent hsent
    cases hsent
  case bounded =>
    rintro _ ⟨⟩
    rw [hempty]
    exact Nat.zero_le _
  case overlong =>
    intro hsize
    exact absurd hsize (Nat.not_lt_zero _)
  case completed =>
    intro output hdone
    cases hdone
  case decoded =>
    intro output hdone
    cases hdone
  case unchanged =>
    intro _
    rfl
  case discarded => exact Dialogue.discarded_iff o state scope memory
  case heard =>
    intro out body hawaits
    cases hawaits

theorem Attends.conducted {state : SessionState}
    (h : Attends request operationId scope memory o exchanges out)
    (hwaiting : state = .waiting ∨ state.isAbandoned = true) :
    Conducted request operationId scope memory
      { session := { state, task := .operation o }, memory, exchanges,
        standing := .awaiting out } := by
  constructor
  case ordered =>
    obtain ⟨sends, receives, hprefix, hsends, hreceives⟩ := h.abreast.ordered h.awaits []
    rw [List.append_nil] at hreceives
    refine ⟨sends, receives, ?_, hsends, hreceives⟩
    show List.map _ (exchanges.map Exchange.request ++ [out]) <+: _
    rw [List.map_append, List.map_map]
    exact hprefix
  case numbered => exact h.requests
  case bounded =>
    rintro _ ⟨⟩
    exact h.abreast.bounded
  case overlong =>
    intro hsize
    have hbounded := h.abreast.bounded
    rw [h.abreast.collected] at hbounded
    exact absurd hbounded (Nat.not_le.mpr hsize)
  case completed =>
    intro output hdone
    cases hdone
  case decoded =>
    intro output hdone
    cases hdone
  case unchanged =>
    intro _
    rfl
  case discarded => exact Dialogue.discarded_iff o state scope memory
  case heard =>
    intro out' body hawaits hkept
    cases hawaits
    rcases hwaiting with rfl | habandoned
    · have hresult : o.onResponse scope memory body = (_, _, _) := rfl
      exact congrArg Dialogue.exchanges (Dialogue.hear_waiting hresult)
    · cases hkept.symm.trans habandoned

theorem Attends.conducted_ended {state : SessionState} {result : Except Failure Step}
    (h : Attends request operationId scope memory o exchanges out)
    (hstep : o.onResponse scope memory body = (result, o', memory'))
    (hlast : ∀ next, (Standing.awaiting out).after result ≠ .awaiting next) :
    Conducted request operationId scope memory
      { session := { state, task := .operation o' }, memory := memory'
        exchanges := exchanges ++ [⟨out, body⟩]
        standing := (Standing.awaiting out).after result } := by
  have hresult : (o.onResponse scope memory body).1 = result := congrArg Prod.fst hstep
  constructor
  case ordered =>
    obtain ⟨sends, receives, hprefix, hsends, hreceives⟩ :=
      h.abreast.ordered h.awaits [⟨out, body⟩]
    refine ⟨sends, receives, ?_, hsends, hreceives⟩
    show List.map _ ((exchanges ++ [(⟨out, body⟩ : Exchange)]).map Exchange.request ++ _) <+: _
    rw [Standing.request?_eq_none hlast, Option.toList_none, List.append_nil, List.map_map,
      List.map_append]
    exact hprefix
  case numbered =>
    intro sent hsent
    refine h.requests sent ?_
    change sent ∈ (exchanges ++ [(⟨out, body⟩ : Exchange)]).map Exchange.request ++ _ at hsent
    rw [Standing.request?_eq_none hlast, Option.toList_none, List.append_nil,
      List.map_append] at hsent
    exact hsent
  case bounded =>
    rintro _ ⟨⟩
    have hbounded : (o.onResponse scope memory body).2.1.response.length ≤ scope.maxReceive :=
      length_response_le h.abreast.bounded
    rw [hstep] at hbounded
    exact hbounded
  case overlong =>
    intro hsize
    -- Before the last response the result was not too long, so that response has made it so.
    have harrived : (o.response ++ (⟨out, body⟩ : Exchange).result).length =
        ((exchanges ++ [(⟨out, body⟩ : Exchange)]).flatMap Exchange.result).length := by
      rw [h.abreast.collected, List.flatMap_append, List.flatMap_singleton]
    have hsize := Nat.lt_of_lt_of_eq hsize harrived.symm
    obtain ⟨size, hover, hfailed⟩ := h.abreast.overlong h.awaits memory hsize
    refine ⟨size, hover, ?_⟩
    rw [hresult] at hfailed
    rw [hfailed]
    rfl
  case completed =>
    intro output hdone
    have hdone := Standing.after_awaiting_eq_done hdone
    rw [hdone] at hstep
    obtain ⟨hphase, ⟨response, hdecode⟩, -⟩ := onResponse_done hstep
    refine ⟨exchanges, ⟨out, body⟩, response, rfl, ?_, hdecode⟩
    have hcommand : out.command = o.phase.awaited := h.awaits.command
    rw [hphase] at hcommand
    exact hcommand
  case decoded =>
    intro output hdone
    have hdone := Standing.after_awaiting_eq_done hdone
    rw [hdone] at hstep
    obtain ⟨hphase, -, json, hjson, houtput, hmemory⟩ := onResponse_done hstep
    have hcommand : out.command = o.phase.awaited := h.awaits.command
    rw [hphase] at hcommand
    have harrived : o.response = (exchanges ++ [(⟨out, body⟩ : Exchange)]).flatMap Exchange.result := by
      rw [List.flatMap_append, List.flatMap_singleton, Exchange.result_complete hcommand,
        List.append_nil]
      exact h.abreast.collected
    rw [harrived] at hjson
    refine ⟨json, o.etag, houtput, yields_of_decodeResult h.asked hjson,
      h.abreast.tagged hphase [⟨out, body⟩], ?_⟩
    show memory' = _
    rw [hmemory]
    split <;> rfl
  case unchanged =>
    intro hopen
    refine memory_onResponse hstep fun output hdone => ?_
    refine hopen output ?_
    show (Standing.awaiting out).after result = _
    rw [hdone]
    rfl
  case discarded => exact Dialogue.discarded_iff o' state scope memory'
  case heard =>
    intro next _ hawaits
    exact absurd hawaits (hlast next)

end Invariant

/-- Every operation is conducted in the order of the protocol and under one number, ends well only
    when it is completed and its result is decoded, and changes nothing unless it ends well. -/
theorem operation_conducted (request : OperationRequest) (operationId : UInt16)
    (scope : SessionScope) (memory : DeviceMemory) (occurrences : List Occurrence) :
    Conducted request operationId scope memory
      ((Session.operation request operationId).dialogue scope memory occurrences) := by
  generalize hd : (Session.operation request operationId).dialogue scope memory occurrences = d
  have hfollowed := Followed.dialogue request operationId scope memory occurrences
  rw [hd] at hfollowed
  cases hfollowed with
  | refused _ _ hempty => exact conducted_refused hempty
  | waits hwaiting hattends => exact hattends.conducted hwaiting
  | ended _ hattends hstep hlast => exact hattends.conducted_ended hstep hlast

/-- The responses of a device that takes the body in two more chunks, and has a result that is fetched
    in two chunks of one byte. -/
def sampleResponses : List Occurrence :=
  [.response [0, 3, 0, 0, 0, 0, 0, 0, 5, 0, 0, 0, 0, 0, 0, 0, 0, 1, 3, 118, 50, 0],
    .response [0, 1], .response [0, 3],
    .response [0, 0, 6, 0, 0, 0, 1, 0, 0, 0, 111],
    .response [0, 2, 0, 0, 0, 0, 5, 0, 0, 0, 107, 0, 0, 0, 0],
    .response [0]]

/-- The update of a resource on that device, where this many bytes of a result are accepted. -/
def sampleCourse (maxReceive : Nat) : Dialogue :=
  (Session.operation sampleUpdate 7).dialogue (sampleScope maxReceive) (sampleMemory 21)
    sampleResponses

/-- Where there is room for the result the update ends well, with the etag of the first response.
    Where there is room for one byte the second chunk of the result ends it. -/
theorem operation_conducted_update :
    (Conducted sampleUpdate 7 (sampleScope 64) (sampleMemory 21) (sampleCourse 64) ∧
      (sampleCourse 64).commands = commands 2 2 ∧
      (sampleCourse 64).standing =
        .done (.operation { json := "ok", etag := "v2", status := statusOk }) ∧
      (sampleCourse 64).memory.metadata.etag = some "v2") ∧
    Conducted sampleUpdate 7 (sampleScope 1) (sampleMemory 21) (sampleCourse 1) ∧
      (sampleCourse 1).commands = [.operationInit, .multipartSend, .multipartSend,
        .multipartReceive, .multipartReceive] ∧
      (sampleCourse 1).standing = .failed (.message (.payloadTooLarge 2 1)) ∧
      (sampleCourse 1).memory = sampleMemory 21 := by
  have hconducted (maxReceive : Nat) : Conducted sampleUpdate 7 (sampleScope maxReceive)
      (sampleMemory 21) (sampleCourse maxReceive) :=
    operation_conducted sampleUpdate 7 (sampleScope maxReceive) (sampleMemory 21) sampleResponses
  have hfailed : (sampleCourse 1).standing = .failed (.message (.payloadTooLarge 2 1)) := by
    decide +kernel
  refine ⟨⟨hconducted 64, by decide +kernel, by decide +kernel, by decide +kernel⟩, hconducted 1,
    by decide +kernel, hfailed, ?_⟩
  apply (hconducted 1).unchanged
  intro output hdone
  rw [hfailed] at hdone
  cases hdone

end Operation

end DeviceEnablement
