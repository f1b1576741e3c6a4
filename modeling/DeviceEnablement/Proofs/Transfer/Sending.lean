/-
  What a transfer to a device sends.

  1. `MultipartSendRequest.Writes`, `AcknowledgedBy`: the request that a chunk becomes, and the
     responses that acknowledge it.
  2. `Sender.request`, `Sender.offered`: the chunk that is due, and the sender once the chunk is on its
     way (`chunk_eq`).  `Sender.begun`: a sender that has begun (`start_of_new`).  `Sender.next`: the
     sender once the device has acknowledged the chunk.
  3. `Sender.requests`: the chunks that are due as long as the device acknowledges each of them.
     Together they carry what is pending (`flatMap_data_requests`), all but the last one are full
     (`length_data_of_mem_dropLast`), and each can be written (`encode_ok_of_mem`).
  4. `advance_more`, `onResponse_more`, `onResponse_last`: what an acknowledgement makes of the sender.
  5. `advance_cases`: what any response makes of it.  `onResponse_next`: whatever the device says, a
     sender that goes on sends the chunk that is due.
-/
import DeviceEnablement.Transfer.Sender
import DeviceEnablement.Proofs.Wire.Request
import Mathlib.Data.List.Forall2

namespace DeviceEnablement

theorem TransferFlag.isEnd_ofPlace (first last : Bool) : (ofPlace first last).isEnd = last := by
  cases first <;> cases last <;> rfl

/-! ## Written chunks -/

namespace MultipartSendRequest

variable {chunks : List MultipartSendRequest} {outs : List Outgoing}

/-- Whether this is the written form of a chunk. -/
def Writes (chunk : MultipartSendRequest) (out : Outgoing) : Prop := chunk.outgoing = .ok out

/-- Chunks of which each can be written can be written one after the other. -/
theorem exists_writes (h : ∀ chunk ∈ chunks, ∃ body, chunk.encode = .ok body) :
    ∃ outs, List.Forall₂ Writes chunks outs := by
  induction chunks with
  | nil => exact ⟨[], .nil⟩
  | cons chunk chunks ih =>
    obtain ⟨body, hbody⟩ := h chunk List.mem_cons_self
    obtain ⟨outs, houts⟩ := ih fun chunk hchunk => h chunk (List.mem_cons_of_mem _ hchunk)
    have hwritten : chunk.Writes ⟨.multipartSend, body⟩ := by
      unfold Writes outgoing
      rw [hbody]
      rfl
    exact ⟨_, .cons hwritten houts⟩

/-- Each written chunk is the written form of one of the chunks. -/
theorem exists_of_mem_writes (h : List.Forall₂ Writes chunks outs) {out : Outgoing}
    (hout : out ∈ outs) :
    out.command = .multipartSend ∧ ∃ chunk ∈ chunks, chunk.encode = .ok out.body := by
  induction h with
  | nil => cases hout
  | @cons chunk written chunks outs hwritten _ ih =>
    rcases List.mem_cons.mp hout with rfl | hout
    · unfold Writes outgoing at hwritten
      cases hencode : chunk.encode with
      | error e =>
        rw [hencode] at hwritten
        cases hwritten
      | ok body =>
        rw [hencode] at hwritten
        cases hwritten
        exact ⟨rfl, chunk, List.mem_cons_self, hencode⟩
    · obtain ⟨hcommand, chunk, hchunk, hencode⟩ := ih hout
      exact ⟨hcommand, chunk, List.mem_cons_of_mem _ hchunk, hencode⟩

/-- The first of the written chunks is the written form of the first chunk. -/
theorem exists_head_writes (h : List.Forall₂ Writes chunks outs) {chunk : MultipartSendRequest}
    (hhead : chunks.head? = some chunk) : ∃ out, outs.head? = some out ∧ chunk.Writes out := by
  cases h with
  | nil => cases hhead
  | cons hwritten _ =>
    cases hhead
    exact ⟨_, rfl, hwritten⟩

/-- Whether a device acknowledges a chunk with this body: it asks for another part or, when the chunk
    is the last one, says that the transfer is complete. -/
def AcknowledgedBy (chunk : MultipartSendRequest) (body : Bytes) : Prop :=
  ∃ response, MultipartSendResponse.decode body = .ok response ∧
    (response.operation = .firstPart ∨ response.operation = .nextPart ∨
      response.operation = .complete ∧ chunk.flag.isEnd = true)

end MultipartSendRequest

/-! ## Chunks -/

namespace Sender

variable {s : Sender}

/-- The chunk that is due. -/
def request (s : Sender) : MultipartSendRequest :=
  let size := min s.pending.length s.maxChunk
  let last := size = s.pending.length
  { handle := s.handle
    operationId := s.operationId
    flag := .ofPlace s.first last
    nextHandle := if last then 0 else successor s.handle
    data := s.pending.take size
    checksum := if last then some s.checksum else none }

/-- The sender once the chunk that is due is on its way. -/
def offered (s : Sender) : Sender :=
  let size := min s.pending.length s.maxChunk
  { s with nextHandle := if size = s.pending.length then 0 else successor s.handle, inFlight := size }

theorem chunk_eq (s : Sender) :
    s.chunk = (s.request.outgoing.mapError .message, s.offered) := rfl

/-- The sender of a payload, once it has begun. -/
def begun (handle : UInt32) (operationId : UInt16) (payload : Bytes) (maxChunk : Nat) : Sender :=
  { operationId, handle, pending := payload, maxChunk, checksum := Checksum.transfer payload,
    total := payload.length, state := .inProgress }

/-- A sender for which nothing is missing begins with its first chunk. -/
theorem start_of_new {handle : UInt32} {operationId : UInt16} {payload : Bytes} {maxChunk : Nat}
    (h : new handle operationId payload maxChunk = .ok s) :
    s.start = (begun handle operationId payload maxChunk).chunk := by
  unfold new at h
  split at h
  · cases h
  · split at h
    · cases h
    · split at h
      · cases h
      · cases h
        rfl

theorem new_ok {handle : UInt32} {operationId : UInt16} {payload : Bytes} {maxChunk : Nat}
    (hhandle : handle ≠ 0) (hchunk : 0 < maxChunk) (hpayload : payload ≠ []) :
    ∃ s, new handle operationId payload maxChunk = .ok s := by
  have hsome : ¬ payload.isEmpty = true := fun h => hpayload (List.isEmpty_iff.mp h)
  unfold new
  rw [if_neg hhandle, if_neg (Nat.pos_iff_ne_zero.mp hchunk), if_neg hsome]
  exact ⟨_, rfl⟩

/-- The sender once the device has acknowledged the chunk that is due. -/
def next (s : Sender) : Sender :=
  { s.offered.acknowledged with handle := s.offered.nextHandle }

/-- The sender once the device has acknowledged the last chunk. -/
def finished (s : Sender) : Sender := { s.offered.acknowledged with state := .complete }

@[simp] theorem next_pending (s : Sender) :
    s.next.pending = s.pending.drop (min s.pending.length s.maxChunk) := rfl

/-- The chunks that are due as long as the device acknowledges each of them. -/
def requests (s : Sender) : List MultipartSendRequest :=
  if s.pending.length ≤ s.maxChunk ∨ s.maxChunk = 0 then [s.request]
  else s.request :: s.next.requests
termination_by s.pending.length
decreasing_by
  rw [next_pending, List.length_drop]
  omega

/-- All that is pending fits in the last chunk. -/
theorem requests_last (h : s.pending.length ≤ s.maxChunk) : s.requests = [s.request] := by
  rw [requests, if_pos (Or.inl h)]

theorem requests_more (hchunk : 0 < s.maxChunk) (h : s.maxChunk < s.pending.length) :
    s.requests = s.request :: s.next.requests := by
  rw [requests, if_neg (by omega)]

/-- Each chunk is the one that is due of the sender itself or of a later one. -/
theorem exists_of_mem_requests {r : MultipartSendRequest} (h : r ∈ s.requests) :
    ∃ s' : Sender, s'.maxChunk = s.maxChunk ∧ s'.operationId = s.operationId ∧ r = s'.request := by
  induction s using requests.induct with
  | case1 s hlast =>
    rw [requests, if_pos hlast, List.mem_singleton] at h
    exact ⟨s, rfl, rfl, h⟩
  | case2 s hmore ih =>
    rw [requests, if_neg hmore] at h
    rcases List.mem_cons.mp h with rfl | h
    · exact ⟨s, rfl, rfl, rfl⟩
    · exact ih h

theorem head?_requests (s : Sender) : s.requests.head? = some s.request := by
  rw [requests]
  split <;> rfl

theorem requests_ne_nil (s : Sender) : s.requests ≠ [] := by
  rw [requests]
  split <;> exact List.cons_ne_nil _ _

/-! ### Data -/

theorem length_data_request (s : Sender) :
    s.request.data.length = min s.pending.length s.maxChunk := by
  show (s.pending.take _).length = _
  rw [List.length_take]
  omega

/-- The chunks carry what is pending, piece by piece. -/
theorem flatMap_data_requests (hchunk : 0 < s.maxChunk) :
    s.requests.flatMap MultipartSendRequest.data = s.pending := by
  induction s using requests.induct with
  | case1 s hlast =>
    have hlast : s.pending.length ≤ s.maxChunk := by omega
    rw [requests_last hlast, List.flatMap_singleton]
    show s.pending.take _ = _
    rw [Nat.min_eq_left hlast, List.take_length]
  | case2 s hmore ih =>
    rw [requests, if_neg hmore, List.flatMap_cons, ih hchunk, next_pending]
    exact List.take_append_drop _ _

theorem length_data_le {r : MultipartSendRequest} (h : r ∈ s.requests) :
    r.data.length ≤ s.maxChunk := by
  obtain ⟨s', hchunk, -, rfl⟩ := exists_of_mem_requests h
  rw [length_data_request, hchunk]
  exact Nat.min_le_right _ _

/-- All chunks but the last one are full. -/
theorem length_data_of_mem_dropLast {r : MultipartSendRequest} (h : r ∈ s.requests.dropLast) :
    r.data.length = s.maxChunk := by
  induction s using requests.induct with
  | case1 s hlast =>
    rw [requests, if_pos hlast] at h
    cases h
  | case2 s hmore ih =>
    rw [requests, if_neg hmore, List.dropLast_cons_of_ne_nil (requests_ne_nil _)] at h
    rcases List.mem_cons.mp h with rfl | h
    · rw [length_data_request]
      omega
    · exact ih h

/-! ### Written form -/

theorem isEnd_request (s : Sender) :
    s.request.flag.isEnd = decide (s.pending.length ≤ s.maxChunk) := by
  show (TransferFlag.ofPlace s.first _).isEnd = _
  rw [TransferFlag.isEnd_ofPlace, decide_eq_decide]
  omega

/-- The check stands behind the last chunk and behind no other. -/
theorem checked_request (s : Sender) : s.request.checksum.isSome = s.request.flag.isEnd := by
  rw [isEnd_request]
  show (if min s.pending.length s.maxChunk = s.pending.length then some s.checksum
    else none).isSome = _
  by_cases hlast : s.pending.length ≤ s.maxChunk
  · rw [if_pos (Nat.min_eq_left hlast), decide_eq_true hlast]
    rfl
  · rw [if_neg (by omega), decide_eq_false hlast]
    rfl

theorem checked_of_mem {r : MultipartSendRequest} (h : r ∈ s.requests) :
    r.checksum.isSome = r.flag.isEnd := by
  obtain ⟨s', -, -, rfl⟩ := exists_of_mem_requests h
  exact s'.checked_request

/-- A chunk for which there is room can be written. -/
theorem encode_ok_of_mem {r : MultipartSendRequest} (h : r ∈ s.requests)
    (hsize : s.maxChunk + checksumSize ≤ maxU32) : ∃ body, r.encode = .ok body := by
  have hdata := length_data_le h
  exact MultipartSendRequest.encode_ok (checked_of_mem h) (by omega)

/-- No written chunk is longer than a full one with a check. -/
theorem length_encode_of_mem {r : MultipartSendRequest} {body : Bytes} (h : r ∈ s.requests)
    (hencode : r.encode = .ok body) :
    body.length ≤ MultipartSendRequest.fixedSize + checksumSize + s.maxChunk := by
  have hdata := length_data_le h
  have hbody := MultipartSendRequest.length_encode hencode
  split at hbody
  · omega
  · omega

/-! ## Acknowledgements -/

variable {response : MultipartSendResponse} {body : Bytes} {s' : Sender} {events : List SendEvent}

theorem onResponse_of_advance_ok {progress : Progress}
    (h : s.advance body = (.ok progress, s', events)) :
    s.onResponse body = (.ok progress, s', events) := by
  unfold onResponse
  rw [h]

theorem onResponse_of_advance_error {e : Failure} (h : s.advance body = (.error e, s', events)) :
    s.onResponse body = (.error e, { s' with state := .failed }, events ++ [.failed e]) := by
  unfold onResponse
  rw [h]

/-- A device that acknowledges a chunk, behind which bytes are left, asks for another part. -/
theorem asks_of_acknowledged (hmore : s.maxChunk < s.pending.length)
    (hack : s.request.AcknowledgedBy body) :
    ∃ response, MultipartSendResponse.decode body = .ok response ∧
      (response.operation = .firstPart ∨ response.operation = .nextPart) := by
  obtain ⟨response, hdecode, hpart | hpart | ⟨-, hend⟩⟩ := hack
  · exact ⟨response, hdecode, Or.inl hpart⟩
  · exact ⟨response, hdecode, Or.inr hpart⟩
  · -- Complete is said behind the last chunk only, and this is not the last one.
    rw [isEnd_request, decide_eq_true_eq] at hend
    exact absurd hend (Nat.not_le.mpr hmore)

/-- When bytes are left and the device asks for another part, the next chunk is due. -/
theorem advance_more (hstate : s.state = .inProgress) (hmore : s.maxChunk < s.pending.length)
    (hdecode : MultipartSendResponse.decode body = .ok response)
    (hpart : response.operation = .firstPart ∨ response.operation = .nextPart) :
    s.offered.advance body =
      ((s.next.request.outgoing.mapError .message).map .next, s.next.offered,
        [.acknowledged s.offered.inFlight s.next.remaining]) := by
  have hleft : ¬ s.offered.acknowledged.pending.isEmpty = true := by
    show ¬ s.next.pending.isEmpty = true
    rw [List.isEmpty_iff_length_eq_zero, next_pending, List.length_drop]
    omega
  -- Both ways to ask for another part are taken alike.
  have hcontinues : response.operation ≠ .abort ∧ response.operation ≠ .complete := by
    rcases hpart with h | h <;> rw [h] <;> decide
  have hchunk : chunk { s.offered.acknowledged with handle := s.offered.acknowledged.nextHandle } =
      (s.next.request.outgoing.mapError .message, s.next.offered) := chunk_eq s.next
  have hproceed : s.offered.acknowledged.proceed response.operation =
      ((s.next.request.outgoing.mapError .message).map .next, s.next.offered, []) := by
    unfold proceed
    rw [if_neg hleft, if_neg hcontinues.2, hchunk]
    cases s.next.request.outgoing <;> rfl
  unfold advance
  rw [if_neg (fun hne => hne hstate), hdecode]
  dsimp only
  rw [if_neg hcontinues.1, hproceed]
  rfl

/-- When bytes are left, a device that asks for another part gets the next chunk. -/
theorem onResponse_more {out : Outgoing} (hstate : s.state = .inProgress)
    (hmore : s.maxChunk < s.pending.length)
    (hdecode : MultipartSendResponse.decode body = .ok response)
    (hpart : response.operation = .firstPart ∨ response.operation = .nextPart)
    (hout : s.next.request.outgoing = .ok out) :
    s.offered.onResponse body = (.ok (.next out), s.next.offered,
      [.acknowledged s.offered.inFlight s.next.remaining]) := by
  refine onResponse_of_advance_ok ?_
  rw [advance_more hstate hmore hdecode hpart, hout]
  rfl

/-- When nothing is left, the transfer ends with any acknowledgement. -/
theorem onResponse_last (hstate : s.state = .inProgress) (hlast : s.pending.length ≤ s.maxChunk)
    (hdecode : MultipartSendResponse.decode body = .ok response)
    (hkept : response.operation ≠ .abort) :
    s.offered.onResponse body = (.ok .complete, s.finished,
      [.acknowledged s.offered.inFlight s.next.remaining, .completed s.total]) := by
  have hnone : s.offered.acknowledged.pending.isEmpty = true := by
    show s.next.pending.isEmpty = true
    rw [List.isEmpty_iff_length_eq_zero, next_pending, List.length_drop]
    omega
  have hproceed : s.offered.acknowledged.proceed response.operation =
      (.ok .complete, s.finished, [.completed s.total]) := by
    unfold proceed
    rw [if_pos hnone]
    rfl
  refine onResponse_of_advance_ok ?_
  unfold advance
  rw [if_neg (fun hne => hne hstate), hdecode]
  dsimp only
  rw [if_neg hkept, hproceed]
  rfl

/-! ### Every response -/

/-- Once the chunk in flight is acknowledged, a sender is complete, or sends the chunk that is due, or
    fails. -/
theorem proceed_cases (s : Sender) (operation : TransferOperation) :
    s.proceed operation = (.ok .complete, { s with state := .complete }, [.completed s.total]) ∨
    (∃ due : Sender, ∃ out, due.operationId = s.operationId ∧ due.state = s.state ∧
      due.request.outgoing = .ok out ∧ s.proceed operation = (.ok (.next out), due.offered, [])) ∨
    ∃ e s', s.proceed operation = (.error e, s', []) := by
  unfold proceed
  split
  · exact Or.inl rfl
  · split
    · exact Or.inr (Or.inr ⟨_, _, rfl⟩)
    · let due : Sender := { s with handle := s.nextHandle }
      rw [chunk_eq]
      cases hwritten : due.request.outgoing with
      | ok out => exact Or.inr (Or.inl ⟨due, out, rfl, rfl, hwritten, rfl⟩)
      | error e => exact Or.inr (Or.inr ⟨_, _, rfl⟩)

/-- A response is a failure, of which nothing but an acknowledgement was told, or it acknowledges the
    chunk in flight of a transfer in progress, which is complete then or goes on. -/
theorem advance_cases (s : Sender) (body : Bytes) :
    (∃ e s' told, s.advance body = (.error e, s', told) ∧
      (told = [] ∨ ∃ sent remaining, told = [.acknowledged sent remaining])) ∨
    s.state = .inProgress ∧ ∃ sent remaining,
      (s.advance body = (.ok .complete, { s.acknowledged with state := .complete },
          [.acknowledged sent remaining, .completed s.total]) ∨
        ∃ due : Sender, ∃ out, due.operationId = s.operationId ∧ due.state = .inProgress ∧
          due.request.outgoing = .ok out ∧
          s.advance body = (.ok (.next out), due.offered, [.acknowledged sent remaining])) := by
  unfold advance
  split
  · exact Or.inl ⟨_, _, _, rfl, Or.inl rfl⟩
  · rename_i hstate
    have hstate : s.state = .inProgress := Decidable.not_not.mp hstate
    split
    · exact Or.inl ⟨_, _, _, rfl, Or.inl rfl⟩
    · rename_i response _
      split
      · exact Or.inl ⟨_, _, _, rfl, Or.inl rfl⟩
      · rcases s.acknowledged.proceed_cases response.operation with
          hcomplete | ⟨due, out, howner, hstill, hwritten, hnext⟩ | ⟨e, s', herror⟩
        · rw [hcomplete]
          exact Or.inr ⟨hstate, _, _, Or.inl rfl⟩
        · rw [hnext]
          exact Or.inr ⟨hstate, _, _, Or.inr ⟨due, out, howner, hstill.trans hstate, hwritten, rfl⟩⟩
        · rw [herror]
          exact Or.inl ⟨_, _, _, rfl, Or.inr ⟨_, _, rfl⟩⟩

/-- A sender that goes on sends the chunk that is due, of the same operation. -/
theorem onResponse_next {out : Outgoing}
    (h : s.onResponse body = (.ok (.next out), s', events)) :
    ∃ due : Sender, due.operationId = s.operationId ∧ due.request.outgoing = .ok out ∧
      s' = due.offered := by
  rcases s.advance_cases body with
    ⟨e, s', told, herror, -⟩ | ⟨-, sent, remaining, hcomplete | ⟨due, out, howner, -, hwritten, hnext⟩⟩
  · rw [onResponse_of_advance_error herror] at h
    cases h
  · rw [onResponse_of_advance_ok hcomplete] at h
    cases h
  · rw [onResponse_of_advance_ok hnext] at h
    cases h
    exact ⟨due, howner, hwritten, rfl⟩

end Sender

end DeviceEnablement
