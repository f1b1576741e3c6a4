/-
  The outcome of a transfer, in either direction.

  1. `Reports`: what one response makes of the state, and which outcome is reported with it; so for a
     transfer from a device (`Reception.reports_hear`) and for one to a device
     (`Shipment.reports_hear`).
  2. `EndsOnce`: a transfer has one outcome, as long as no response arrives after its end
     (`endsOnce_of_reports`, along the responses).
  3. `transfers_end_once`: so every transfer does.  A response that arrives later is reported as a
     failure, even if the transfer was complete (`late_response_undoes_completion`).
-/
import DeviceEnablement.Proofs.Transfer.Reception
import DeviceEnablement.Proofs.Transfer.Shipment

namespace DeviceEnablement

/-! ## Outcomes -/

/-- The outcome that the sink of a transfer from a device is told: the number of bytes, or why the
    transfer has failed. -/
def ReceiveEvent.outcome? : ReceiveEvent → Option (Except Failure Nat)
  | chunk .. => none
  | completed total => some (.ok total)
  | failed cause => some (.error cause)

/-- The outcome that the observer of a transfer to a device is told. -/
def SendEvent.outcome? : SendEvent → Option (Except Failure Nat)
  | acknowledged .. => none
  | completed total => some (.ok total)
  | failed cause => some (.error cause)

/-- What one response makes of the state of a transfer, and which outcomes are reported with it. -/
inductive Reports : TransferState → List (Except Failure Nat) → TransferState → Prop
  | nothing : Reports .inProgress [] .inProgress
  | completed (total : Nat) : Reports .inProgress [.ok total] .complete
  /-- In whatever state the transfer is. -/
  | failed (state : TransferState) (e : Failure) : Reports state [.error e] .failed

/-- Whether these are the outcomes that a transfer in a state should have reported. -/
inductive Settled : TransferState → List (Except Failure Nat) → Prop
  | idle : Settled .idle []
  | inProgress : Settled .inProgress []
  | complete (total : Nat) : Settled .complete [.ok total]
  | failed (e : Failure) : Settled .failed [.error e]

section Steps

variable {state state' : TransferState} {outcomes new : List (Except Failure Nat)}

theorem Settled.of_not_terminal (h : state.isTerminal = false) : Settled state [] := by
  cases state with
  | idle => exact .idle
  | inProgress => exact .inProgress
  | complete => cases h
  | failed => cases h

theorem Settled.outcomes_eq_nil (h : Settled state outcomes) (hopen : state.isTerminal = false) :
    outcomes = [] := by
  cases h with
  | idle => rfl
  | inProgress => rfl
  | complete => cases hopen
  | failed => cases hopen

/-- A transfer that has not ended has one outcome at the most after one more response. -/
theorem Reports.settled (h : Reports state new state') : Settled state' new := by
  cases h with
  | nothing => exact .inProgress
  | completed total => exact .complete total
  | failed state e => exact .failed e

/-- A transfer that has ended can only fail. -/
theorem Reports.of_terminal (h : Reports state new state') (hended : state.isTerminal = true) :
    state' = .failed ∧ ∃ e, new = [.error e] := by
  cases h with
  | nothing => cases hended
  | completed total => cases hended
  | failed state e => exact ⟨rfl, e, rfl⟩

end Steps

/-! ## Runs -/

/-- Whether a transfer has one outcome.  State and outcomes are those after some responses. -/
structure EndsOnce (state : List Bytes → TransferState)
    (outcomes : List Bytes → List (Except Failure Nat)) : Prop where
  /-- As long as no response arrives after the end, the outcome is that of the state. -/
  once : ∀ bodies, (∀ before after, bodies = before ++ after → after ≠ [] →
    (state before).isTerminal = false) → Settled (state bodies) (outcomes bodies)
  /-- Each response after the end is one more failure. -/
  later : ∀ bodies rest, (state bodies).isTerminal = true → rest ≠ [] →
    state (bodies ++ rest) = .failed ∧ ∃ failures : List Failure,
      failures.length = rest.length ∧
      outcomes (bodies ++ rest) = outcomes bodies ++ failures.map Except.error

section Runs

variable {α : Type} {hear : α → Bytes → α} {stateOf : α → TransferState}
  {outcomesOf : α → List (Except Failure Nat)}

/-- After the end of a transfer each response is a failure. -/
theorem failures_of_reports
    (hreports : ∀ t body, ∃ new, Reports (stateOf t) new (stateOf (hear t body)) ∧
      outcomesOf (hear t body) = outcomesOf t ++ new)
    (rest : List Bytes) {t : α} (hended : (stateOf t).isTerminal = true) (hrest : rest ≠ []) :
    stateOf (rest.foldl hear t) = .failed ∧ ∃ failures : List Failure,
      failures.length = rest.length ∧
      outcomesOf (rest.foldl hear t) = outcomesOf t ++ failures.map Except.error := by
  induction rest generalizing t with
  | nil => exact absurd rfl hrest
  | cons body rest ih =>
    obtain ⟨new, hreport, houtcomes⟩ := hreports t body
    obtain ⟨hfailed, e, rfl⟩ := hreport.of_terminal hended
    by_cases hlast : rest = []
    · subst hlast
      exact ⟨hfailed, [e], rfl, houtcomes⟩
    · have hstill : (stateOf (hear t body)).isTerminal = true := by
        rw [hfailed]
        rfl
      obtain ⟨hstate, failures, hlength, hall⟩ := ih hstill hlast
      refine ⟨hstate, e :: failures, congrArg Nat.succ hlength, ?_⟩
      show outcomesOf (rest.foldl hear (hear t body)) = _
      rw [hall, houtcomes, List.append_assoc]
      rfl

/-- A transfer of which each response reports as it should has one outcome. -/
theorem endsOnce_of_reports
    (hreports : ∀ t body, ∃ new, Reports (stateOf t) new (stateOf (hear t body)) ∧
      outcomesOf (hear t body) = outcomesOf t ++ new)
    {t : α} (hopen : (stateOf t).isTerminal = false) (hnone : outcomesOf t = []) :
    EndsOnce (fun bodies => stateOf (bodies.foldl hear t))
      (fun bodies => outcomesOf (bodies.foldl hear t)) := by
  refine ⟨?_, ?_⟩
  · intro bodies
    -- Along the responses: before the latest one the transfer had no outcome yet.
    induction bodies using List.reverseRecOn with
    | nil =>
      intro _
      show Settled (stateOf t) (outcomesOf t)
      rw [hnone]
      exact .of_not_terminal hopen
    | append_singleton bodies body ih =>
      intro hbefore
      have hsettled : Settled (stateOf (bodies.foldl hear t)) (outcomesOf (bodies.foldl hear t)) := by
        refine ih fun before after hsplit hafter => ?_
        refine hbefore before (after ++ [body]) ?_ (List.append_ne_nil_of_left_ne_nil hafter _)
        rw [hsplit, List.append_assoc]
      have hstill := hbefore bodies [body] rfl (List.cons_ne_nil _ _)
      obtain ⟨new, hreport, houtcomes⟩ := hreports (bodies.foldl hear t) body
      rw [hsettled.outcomes_eq_nil hstill, List.nil_append] at houtcomes
      show Settled (stateOf ((bodies ++ [body]).foldl hear t))
        (outcomesOf ((bodies ++ [body]).foldl hear t))
      rw [List.foldl_append]
      show Settled (stateOf (hear _ body)) (outcomesOf (hear _ body))
      rw [houtcomes]
      exact hreport.settled
  · intro bodies rest hended hrest
    rw [List.foldl_append]
    exact failures_of_reports hreports rest hended hrest

end Runs

/-! ## Transfers from a device -/

namespace Reception

variable {σ : Type}

/-- The outcomes that the sink was told. -/
def outcomes (t : Reception σ) : List (Except Failure Nat) := t.told.filterMap ReceiveEvent.outcome?

theorem outcomes_append {t : Reception σ} (told : List ReceiveEvent) :
    (t.told ++ told).filterMap ReceiveEvent.outcome? =
      t.outcomes ++ told.filterMap ReceiveEvent.outcome? :=
  List.filterMap_append

/-- Chunks are no outcome. -/
theorem filterMap_outcome_offer (chunks : List MultipartReceiveResponse) :
    (chunks.map MultipartReceiveResponse.offer).filterMap ReceiveEvent.outcome? = [] := by
  induction chunks with
  | nil => rfl
  | cons chunk chunks ih => exact ih

theorem reports_hear (sink : ChunkSink σ) (t : Reception σ) (body : Bytes) :
    ∃ new, Reports t.receiver.state new (t.hear sink body).receiver.state ∧
      (t.hear sink body).outcomes = t.outcomes ++ new := by
  by_cases hstate : t.receiver.state = .inProgress
  · rcases accepts_or_spoils sink t.receiver.maxChunk t.store body with
      ⟨chunk, s', haccepted, hlast | ⟨hmore, hhandle⟩⟩ | ⟨e, offered, s', hspoiled⟩
    · rw [hear_of_complete
        (Receiver.onResponse_final hstate (haccepted.recorded t.told) hlast), hstate]
      refine ⟨_, .completed (t.receiver.received + chunk.data.length), ?_⟩
      show ((t.told ++ [chunk.offer]) ++ [_]).filterMap _ = _
      rw [List.append_assoc, outcomes_append]
      rfl
    · rw [hear_of_next
        (Receiver.onResponse_more hstate (haccepted.recorded t.told) hmore hhandle)]
      refine ⟨[], ?_, outcomes_append _⟩
      show Reports t.receiver.state [] t.receiver.state
      rw [hstate]
      exact .nothing
    · rw [hear_of_error (Receiver.onResponse_spoiled hstate (hspoiled.recorded t.told))]
      refine ⟨_, .failed _ e, ?_⟩
      show ((t.told ++ offered.map _) ++ [ReceiveEvent.failed e]).filterMap _ = _
      rw [List.append_assoc, outcomes_append, List.filterMap_append, filterMap_outcome_offer]
      rfl
  · rw [hear_of_error (Receiver.onResponse_late hstate sink.recorded (t.store, t.told) body)]
    exact ⟨_, .failed _ _, outcomes_append _⟩

end Reception

/-! ## Transfers to a device -/

namespace Shipment

/-- The outcomes that the observer was told. -/
def outcomes (t : Shipment) : List (Except Failure Nat) := t.told.filterMap SendEvent.outcome?

theorem outcomes_append {t : Shipment} (told : List SendEvent) :
    (t.told ++ told).filterMap SendEvent.outcome? =
      t.outcomes ++ told.filterMap SendEvent.outcome? :=
  List.filterMap_append

theorem reports_hear (t : Shipment) (body : Bytes) :
    ∃ new, Reports t.sender.state new (t.hear body).sender.state ∧
      (t.hear body).outcomes = t.outcomes ++ new := by
  rcases t.sender.advance_cases body with
    ⟨e, s', told, herror, htold⟩ |
    ⟨hstate, sent, remaining, hcomplete | ⟨due, out, -, hstill, -, hnext⟩⟩
  · have hnone : told.filterMap SendEvent.outcome? = [] := by
      rcases htold with rfl | ⟨sent, remaining, rfl⟩ <;> rfl
    rw [hear_of_error (Sender.onResponse_of_advance_error herror)]
    refine ⟨_, .failed _ e, ?_⟩
    show (t.told ++ (told ++ [SendEvent.failed e])).filterMap _ = _
    rw [outcomes_append, List.filterMap_append, hnone]
    rfl
  · rw [hear_of_complete (Sender.onResponse_of_advance_ok hcomplete), hstate]
    exact ⟨_, .completed t.sender.total, outcomes_append _⟩
  · rw [hear_of_next (Sender.onResponse_of_advance_ok hnext), hstate]
    refine ⟨[], ?_, outcomes_append _⟩
    show Reports .inProgress [] due.state
    rw [hstill]
    exact .nothing

end Shipment

/-! ## Every transfer -/

/-- Every transfer that has not ended, from a device into whatever sink or to a device, has one outcome,
    as long as no response arrives after its end.  Each one that does is reported as a failure, and
    the transfer has failed from then on. -/
theorem transfers_end_once {σ : Type} (sink : ChunkSink σ) (r : Receiver) (store : σ) (s : Sender)
    (hreceiver : r.state.isTerminal = false) (hsender : s.state.isTerminal = false) :
    EndsOnce
      (fun bodies => (Reception.hearAll sink { receiver := r, store } bodies).receiver.state)
      (fun bodies => (Reception.hearAll sink { receiver := r, store } bodies).outcomes) ∧
    EndsOnce (fun bodies => (Shipment.hearAll { sender := s } bodies).sender.state)
      (fun bodies => (Shipment.hearAll { sender := s } bodies).outcomes) :=
  ⟨endsOnce_of_reports (Reception.reports_hear sink) hreceiver rfl,
    endsOnce_of_reports Shipment.reports_hear hsender rfl⟩

/-- A transfer of three parts and one of three chunks, each with one outcome. -/
theorem transfers_end_once_sample :
    EndsOnce
      (fun bodies => (Reception.hearAll ChunkBuffer.sink
        { receiver := (Reception.opening 7 1 3 ()).receiver, store := {} } bodies).receiver.state)
      (fun bodies => (Reception.hearAll ChunkBuffer.sink
        { receiver := (Reception.opening 7 1 3 ()).receiver, store := {} } bodies).outcomes) ∧
    EndsOnce
      (fun bodies => (Shipment.hearAll
        { sender := (Shipment.opening Shipment.sampleSender).sender } bodies).sender.state)
      (fun bodies => (Shipment.hearAll
        { sender := (Shipment.opening Shipment.sampleSender).sender } bodies).outcomes) ∧
    (Reception.hearAll ChunkBuffer.sink
      { receiver := (Reception.opening 7 1 3 ()).receiver, store := {} }
      Reception.sampleParts).outcomes = [.ok 6] ∧
    (Shipment.hearAll { sender := (Shipment.opening Shipment.sampleSender).sender }
      [[0, 1], [0, 0], [0, 3]]).outcomes = [.ok 7] := by
  have hreceiver : (Reception.opening 7 1 3 ()).receiver.state.isTerminal = false := by decide
  have hsender : (Shipment.opening Shipment.sampleSender).sender.state.isTerminal = false := by
    decide +kernel
  have hends := transfers_end_once ChunkBuffer.sink _ {} _ hreceiver hsender
  exact ⟨hends.1, hends.2, by decide, by decide +kernel⟩

/-- A part that is the first and the last one at once. -/
def onlyPart : Bytes := [0, 3, 0, 0, 0, 0, 7, 0, 0, 0, 97, 98, 99, 0, 0, 0, 0]

/-- A transfer that is complete fails when a response is repeated, and its sink is told so after it was
    told that all is well; in the other direction it is the same. -/
theorem late_response_undoes_completion :
    ((Reception.opening 0 1 1024 {}).hearAll ChunkBuffer.sink [onlyPart]).receiver.state =
      .complete ∧
    ((Reception.opening 0 1 1024 {}).hearAll ChunkBuffer.sink [onlyPart, onlyPart]).receiver.state =
      .failed ∧
    ((Reception.opening 0 1 1024 {}).hearAll ChunkBuffer.sink [onlyPart, onlyPart]).outcomes =
      [.ok 3, .error (.transfer "response without a transfer in progress")] ∧
    ((Reception.opening 0 1 1024 {}).hearAll ChunkBuffer.sink [onlyPart, onlyPart]).store =
      { data := [97, 98, 99], completed := true, failed := true } ∧
    ((Shipment.opening Shipment.sampleSender).hearAll
      [[0, 1], [0, 1], [0, 1]]).sender.state = .complete ∧
    ((Shipment.opening Shipment.sampleSender).hearAll
      [[0, 1], [0, 1], [0, 1], [0, 1]]).sender.state = .failed ∧
    ((Shipment.opening Shipment.sampleSender).hearAll [[0, 1], [0, 1], [0, 1], [0, 1]]).outcomes =
      [.ok 7, .error (.transfer "acknowledgement without a transfer in progress")] := by
  refine ⟨?_, ?_, ?_, ?_, ?_, ?_, ?_⟩
  · decide
  · decide
  · decide
  · decide
  · decide +kernel
  · decide +kernel
  · decide +kernel

end DeviceEnablement
