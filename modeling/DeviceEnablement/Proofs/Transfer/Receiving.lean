/-
  What a transfer from a device takes.

  1. `Receiver.start_eq`: a transfer under a handle begins with a request for the first part.
  2. `Accepts`, `Spoils`: what a response can be to a transfer that is in progress
     (`accepts_or_spoils`).  After a chunk that names the next one, the transfer asks for that
     (`onResponse_more`); after the last one it is complete (`onResponse_final`); and a response that
     spoils it is its end, which the sink is told (`onResponse_spoiled`).
  3. `Receiver.onResponse_ok`, `Receiver.onResponse_error`: so a transfer that goes on, or ends well,
     has given its chunk to the sink, and one that goes wrong has offered it one chunk at the most.
     `onResponse_last`, `onResponse_oversized`, `onResponse_refused`: what the result is.
-/
import DeviceEnablement.Transfer.Receiver

namespace DeviceEnablement

namespace MultipartReceiveResponse

/-- The number of bytes in chunks. -/
def total : List MultipartReceiveResponse → Nat
  | [] => 0
  | chunk :: chunks => chunk.data.length + total chunks

theorem total_append (chunks more : List MultipartReceiveResponse) :
    total (chunks ++ more) = total chunks + total more := by
  induction chunks with
  | nil => exact (Nat.zero_add _).symm
  | cons chunk chunks ih =>
    show chunk.data.length + total (chunks ++ more) = chunk.data.length + total chunks + total more
    rw [ih, Nat.add_assoc]

theorem total_snoc (chunks : List MultipartReceiveResponse) (chunk : MultipartReceiveResponse) :
    total (chunks ++ [chunk]) = total chunks + chunk.data.length := by
  rw [total_append]
  rfl

end MultipartReceiveResponse

/-! ## Responses to a transfer in progress -/

section Responses

variable {σ : Type} (sink : ChunkSink σ) (maxChunk : Nat)

/-- Whether a response brings a chunk that is not too large, and the sink takes it. -/
structure Accepts (s : σ) (body : Bytes) (chunk : MultipartReceiveResponse) (s' : σ) : Prop where
  decoded : MultipartReceiveResponse.decode body = .ok chunk
  fits : chunk.data.length ≤ maxChunk
  taken : sink.data s chunk.data chunk.flag.isEnd = (.ok (), s')

/-- Whether a response spoils a transfer: with which failure, after which chunk was still offered to
    the sink, if any, and what the sink made of it. -/
inductive Spoils (s : σ) (body : Bytes) : Failure → List MultipartReceiveResponse → σ → Prop
  /-- The device declines, or the response cannot be read. -/
  | unreadable {e : MessageError} (hdecode : MultipartReceiveResponse.decode body = .error e) :
      Spoils s body (.message e) [] s
  | oversized {chunk : MultipartReceiveResponse}
      (hdecode : MultipartReceiveResponse.decode body = .ok chunk)
      (hsize : maxChunk < chunk.data.length) :
      Spoils s body (.message (.payloadTooLarge chunk.data.length maxChunk)) [] s
  /-- The sink does not take the chunk. -/
  | refused {chunk : MultipartReceiveResponse} {e : Failure} {s' : σ}
      (hdecode : MultipartReceiveResponse.decode body = .ok chunk)
      (hsize : chunk.data.length ≤ maxChunk)
      (hrefused : sink.data s chunk.data chunk.flag.isEnd = (.error e, s')) :
      Spoils s body e [chunk] s'
  /-- The chunk is not the last one, and names no handle to go on with. -/
  | handleless {chunk : MultipartReceiveResponse} {s' : σ}
      (haccepted : Accepts sink maxChunk s body chunk s') (hmore : chunk.flag.isEnd = false)
      (hhandle : chunk.nextHandle = 0) :
      Spoils s body (.transfer "device returned a zero handle before the final chunk") [chunk] s'

variable {sink} {maxChunk} {s s' : σ} {body : Bytes} {e : Failure}
  {offered : List MultipartReceiveResponse}

/-- A response brings the last chunk, or one that names the next, or it spoils the transfer. -/
theorem accepts_or_spoils (sink : ChunkSink σ) (maxChunk : Nat) (s : σ) (body : Bytes) :
    (∃ chunk s', Accepts sink maxChunk s body chunk s' ∧
      (chunk.flag.isEnd = true ∨ chunk.flag.isEnd = false ∧ chunk.nextHandle ≠ 0)) ∨
    ∃ e offered s', Spoils sink maxChunk s body e offered s' := by
  cases hdecode : MultipartReceiveResponse.decode body with
  | error e => exact Or.inr ⟨_, _, _, .unreadable hdecode⟩
  | ok chunk =>
    rcases Nat.lt_or_ge maxChunk chunk.data.length with hsize | hsize
    · exact Or.inr ⟨_, _, _, .oversized hdecode hsize⟩
    · obtain ⟨⟨result, s'⟩, hdata⟩ :
          ∃ answer, sink.data s chunk.data chunk.flag.isEnd = answer := ⟨_, rfl⟩
      cases result with
      | error e => exact Or.inr ⟨_, _, _, .refused hdecode hsize hdata⟩
      | ok taken =>
        have haccepted : Accepts sink maxChunk s body chunk s' := ⟨hdecode, hsize, hdata⟩
        cases hlast : chunk.flag.isEnd with
        | true => exact Or.inl ⟨chunk, s', haccepted, Or.inl hlast⟩
        | false =>
          by_cases hhandle : chunk.nextHandle = 0
          · exact Or.inr ⟨_, _, _, .handleless haccepted hlast hhandle⟩
          · exact Or.inl ⟨chunk, s', haccepted, Or.inr ⟨hlast, hhandle⟩⟩

/-- No chunk that is offered is too large. -/
theorem Spoils.fits (h : Spoils sink maxChunk s body e offered s') :
    ∀ chunk ∈ offered, chunk.data.length ≤ maxChunk := by
  cases h with
  | unreadable => exact List.forall_mem_nil _
  | oversized => exact List.forall_mem_nil _
  | refused hdecode hsize hrefused => exact List.forall_mem_singleton.mpr hsize
  | handleless haccepted hmore hhandle => exact List.forall_mem_singleton.mpr haccepted.fits

/-- The sink was offered one chunk at the most. -/
theorem Spoils.store (h : Spoils sink maxChunk s body e offered s') :
    s' = s ∨ ∃ chunk last, s' = (sink.data s chunk last).2 := by
  cases h with
  | unreadable => exact Or.inl rfl
  | oversized => exact Or.inl rfl
  | refused hdecode hsize hrefused => exact Or.inr ⟨_, _, (congrArg Prod.snd hrefused).symm⟩
  | handleless haccepted hmore hhandle =>
    exact Or.inr ⟨_, _, (congrArg Prod.snd haccepted.taken).symm⟩

end Responses

/-! ## One response -/

namespace Receiver

open MultipartReceiveResponse (total)

variable {σ : Type} {r r' : Receiver} {sink : ChunkSink σ} {s s' s₁ : σ} {body : Bytes}
  {chunk : MultipartReceiveResponse} {e : Failure}

theorem start_eq (hidle : r.state = .idle) (hhandle : r.handle ≠ 0) :
    r.start = (.ok (r.request .firstPart), { r with state := .inProgress }) := by
  unfold start
  rw [if_neg (fun hne => hne hidle), if_neg hhandle]
  rfl

/-- What is left of a response in a transfer that is in progress. -/
theorem advance_eq (hstate : r.state = .inProgress)
    (hdecode : MultipartReceiveResponse.decode body = .ok chunk) :
    r.advance sink s body = r.accept sink s chunk := by
  unfold advance
  rw [if_neg (fun hne => hne hstate), hdecode]

theorem advance_accepted (hstate : r.state = .inProgress)
    (h : Accepts sink r.maxChunk s body chunk s') :
    r.advance sink s body =
      { r with received := r.received + chunk.data.length }.proceed sink s' chunk := by
  rw [advance_eq hstate h.decoded]
  unfold accept
  rw [if_neg (Nat.not_lt.mpr h.fits)]
  dsimp only
  rw [h.taken]

theorem onResponse_of_advance_ok {progress : Progress}
    (h : r.advance sink s body = (.ok progress, r', s')) :
    r.onResponse sink s body = (.ok progress, r', s') := by
  unfold onResponse
  rw [h]

theorem onResponse_of_advance_error (h : r.advance sink s body = (.error e, r', s')) :
    r.onResponse sink s body = (.error e, { r' with state := .failed }, sink.failed s' e) := by
  unfold onResponse
  rw [h]

/-- After a chunk that names the next one, the transfer asks for that. -/
theorem onResponse_more (hstate : r.state = .inProgress)
    (h : Accepts sink r.maxChunk s body chunk s') (hmore : chunk.flag.isEnd = false)
    (hhandle : chunk.nextHandle ≠ 0) :
    r.onResponse sink s body =
      (.ok (.next (MultipartReceiveRequest.outgoing
          { handle := chunk.nextHandle, operationId := r.operationId, operation := .nextPart })),
        { r with received := r.received + chunk.data.length, handle := chunk.nextHandle }, s') := by
  refine onResponse_of_advance_ok ?_
  rw [advance_accepted hstate h]
  unfold proceed
  rw [if_neg (Bool.eq_false_iff.mp hmore), if_neg hhandle]
  rfl

/-- After the last chunk the transfer is complete. -/
theorem onResponse_final (hstate : r.state = .inProgress)
    (h : Accepts sink r.maxChunk s body chunk s') (hlast : chunk.flag.isEnd = true) :
    r.onResponse sink s body =
      (.ok .complete,
        { r with received := r.received + chunk.data.length, state := .complete },
        sink.completed s' (r.received + chunk.data.length)) := by
  refine onResponse_of_advance_ok ?_
  rw [advance_accepted hstate h]
  unfold proceed
  rw [if_pos hlast]

/-- A response that spoils the transfer is its end, and the sink is told. -/
theorem onResponse_spoiled {offered : List MultipartReceiveResponse}
    (hstate : r.state = .inProgress) (h : Spoils sink r.maxChunk s body e offered s') :
    r.onResponse sink s body =
      (.error e, { r with received := r.received + total offered, state := .failed },
        sink.failed s' e) := by
  cases h with
  | @unreadable e hdecode =>
    have hadvance : r.advance sink s body = (.error (.message e), r, s) := by
      unfold advance
      rw [if_neg (fun hne => hne hstate), hdecode]
    exact onResponse_of_advance_error hadvance
  | @oversized chunk hdecode hsize =>
    have hadvance : r.advance sink s body =
        (.error (.message (.payloadTooLarge chunk.data.length r.maxChunk)), r, s) := by
      rw [advance_eq hstate hdecode]
      unfold accept
      rw [if_pos hsize]
    exact onResponse_of_advance_error hadvance
  | @refused chunk e s' hdecode hsize hrefused =>
    have hadvance : r.advance sink s body =
        (.error e, { r with received := r.received + chunk.data.length }, s') := by
      rw [advance_eq hstate hdecode]
      unfold accept
      rw [if_neg (Nat.not_lt.mpr hsize)]
      dsimp only
      rw [hrefused]
    exact onResponse_of_advance_error hadvance
  | @handleless chunk s' haccepted hmore hhandle =>
    have hadvance : r.advance sink s body =
        (.error (.transfer "device returned a zero handle before the final chunk"),
          { r with received := r.received + chunk.data.length }, s') := by
      rw [advance_accepted hstate haccepted]
      unfold proceed
      rw [if_neg (Bool.eq_false_iff.mp hmore), if_pos hhandle]
    exact onResponse_of_advance_error hadvance

/-- A response to a transfer that is not in progress is a failure, too. -/
theorem onResponse_late (hstate : r.state ≠ .inProgress) (sink : ChunkSink σ) (s : σ)
    (body : Bytes) :
    r.onResponse sink s body =
      (.error (.transfer "response without a transfer in progress"), { r with state := .failed },
        sink.failed s (.transfer "response without a transfer in progress")) := by
  refine onResponse_of_advance_error ?_
  unfold advance
  rw [if_pos hstate]

/-! ### What a step tells -/

/-- A transfer goes on with the next part, or ends well with the last one; either way the sink has
    taken the chunk. -/
theorem onResponse_ok {progress : Progress}
    (h : r.onResponse sink s body = (.ok progress, r', s')) :
    ∃ response s₁, MultipartReceiveResponse.decode body = .ok response ∧
      sink.data s response.data response.flag.isEnd = (.ok (), s₁) ∧
      r'.operationId = r.operationId ∧ r'.maxChunk = r.maxChunk ∧
      (progress = .next (r'.request .nextPart) ∧ response.flag.isEnd = false ∧ s' = s₁ ∨
        progress = .complete ∧ response.flag.isEnd = true ∧ s' = sink.completed s₁ r'.received) := by
  by_cases hstate : r.state = .inProgress
  · rcases accepts_or_spoils sink r.maxChunk s body with
      ⟨chunk, s₁, haccepted, hlast | ⟨hmore, hhandle⟩⟩ | ⟨e, offered, s₁, hspoiled⟩
    · rw [onResponse_final hstate haccepted hlast] at h
      cases h
      exact ⟨chunk, s₁, haccepted.decoded, haccepted.taken, rfl, rfl, Or.inr ⟨rfl, hlast, rfl⟩⟩
    · rw [onResponse_more hstate haccepted hmore hhandle] at h
      cases h
      exact ⟨chunk, _, haccepted.decoded, haccepted.taken, rfl, rfl, Or.inl ⟨rfl, hmore, rfl⟩⟩
    · rw [onResponse_spoiled hstate hspoiled] at h
      cases h
  · rw [onResponse_late hstate] at h
    cases h

/-- A transfer that goes wrong tells the sink so, which was offered one chunk at the most. -/
theorem onResponse_error (h : r.onResponse sink s body = (.error e, r', s')) :
    ∃ s₁, s' = sink.failed s₁ e ∧ (s₁ = s ∨ ∃ chunk last, s₁ = (sink.data s chunk last).2) := by
  by_cases hstate : r.state = .inProgress
  · rcases accepts_or_spoils sink r.maxChunk s body with
      ⟨chunk, s₁, haccepted, hlast | ⟨hmore, hhandle⟩⟩ | ⟨e, offered, s₁, hspoiled⟩
    · rw [onResponse_final hstate haccepted hlast] at h
      cases h
    · rw [onResponse_more hstate haccepted hmore hhandle] at h
      cases h
    · rw [onResponse_spoiled hstate hspoiled] at h
      cases h
      exact ⟨s₁, rfl, hspoiled.store⟩
  · rw [onResponse_late hstate] at h
    cases h
    exact ⟨s, rfl, Or.inl rfl⟩

/-- The last chunk, if the sink takes it, ends the transfer well. -/
theorem onResponse_last (hstate : r.state = .inProgress)
    (hdecode : MultipartReceiveResponse.decode body = .ok chunk)
    (hsize : chunk.data.length ≤ r.maxChunk) (hlast : chunk.flag.isEnd = true)
    (htaken : sink.data s chunk.data true = (.ok (), s₁)) :
    (r.onResponse sink s body).1 = .ok .complete := by
  rw [onResponse_final hstate ⟨hdecode, hsize, hlast ▸ htaken⟩ hlast]

/-- A chunk that is too large ends the transfer. -/
theorem onResponse_oversized (hstate : r.state = .inProgress)
    (hdecode : MultipartReceiveResponse.decode body = .ok chunk)
    (hsize : r.maxChunk < chunk.data.length) :
    (r.onResponse sink s body).1 =
      .error (.message (.payloadTooLarge chunk.data.length r.maxChunk)) := by
  rw [onResponse_spoiled hstate (.oversized hdecode hsize)]

/-- A chunk that the sink refuses ends the transfer. -/
theorem onResponse_refused (hstate : r.state = .inProgress)
    (hdecode : MultipartReceiveResponse.decode body = .ok chunk)
    (hsize : chunk.data.length ≤ r.maxChunk)
    (hrefused : sink.data s chunk.data chunk.flag.isEnd = (.error e, s₁)) :
    (r.onResponse sink s body).1 = .error e := by
  rw [onResponse_spoiled hstate (.refused hdecode hsize hrefused)]

end Receiver

end DeviceEnablement
