/-
  Transfers from a device, response by response.

  1. `ChunkSink.recorded`: a sink that writes down what it is told.  `Reception`: a transfer with that
     record, and with the requests that were sent.
  2. `Takes`: responses of which each brings a chunk and names the next.  `Reception.Course`: how a
     transfer goes, up to the response that ends it (`hearAll_course`, `exists_course`).
  3. `Reception.reassembles`: whatever the responses and the sink, this is how it goes; and once it has
     ended, nothing is asked for and no data is taken any more.
-/
import DeviceEnablement.Proofs.Transfer.Receiving
import DeviceEnablement.Proofs.Wire.Chunk
import Mathlib.Data.List.Induction

namespace DeviceEnablement

namespace MultipartReceiveResponse

/-- What a sink is told of a chunk that it is offered. -/
def offer (chunk : MultipartReceiveResponse) : ReceiveEvent := .chunk chunk.data chunk.flag.isEnd

/-- The handle to go on with after chunks: the one that the latest of them names. -/
def handleAfter (handle : UInt32) (chunks : List MultipartReceiveResponse) : UInt32 :=
  (chunks.map nextHandle).getLastD handle

theorem handleAfter_snoc (handle : UInt32) (chunks : List MultipartReceiveResponse)
    (chunk : MultipartReceiveResponse) :
    handleAfter handle (chunks ++ [chunk]) = chunk.nextHandle := by
  unfold handleAfter
  rw [List.map_append]
  exact List.getLastD_concat

end MultipartReceiveResponse

open MultipartReceiveResponse (offer total handleAfter total_append total_snoc handleAfter_snoc
  carriedBy_of_decode decode_declined)

/-! ## A sink that writes down what it is told -/

section Recorded

variable {σ : Type} {sink : ChunkSink σ} {maxChunk : Nat} {s s' : σ} {body : Bytes}

/-- A sink that also writes down every call, a chunk that it refuses included. -/
def ChunkSink.recorded (sink : ChunkSink σ) : ChunkSink (σ × List ReceiveEvent) where
  data kept chunk last :=
    ((sink.data kept.1 chunk last).1, (sink.data kept.1 chunk last).2,
      kept.2 ++ [.chunk chunk last])
  completed kept total := (sink.completed kept.1 total, kept.2 ++ [.completed total])
  failed kept cause := (sink.failed kept.1 cause, kept.2 ++ [.failed cause])

theorem ChunkSink.recorded_data {last : Bool} {result : Except Failure Unit} {data : Bytes}
    (h : sink.data s data last = (result, s')) (told : List ReceiveEvent) :
    sink.recorded.data (s, told) data last = (result, s', told ++ [.chunk data last]) := by
  show ((sink.data s data last).1, (sink.data s data last).2, _) = _
  rw [h]

theorem Accepts.recorded {chunk : MultipartReceiveResponse}
    (h : Accepts sink maxChunk s body chunk s') (told : List ReceiveEvent) :
    Accepts sink.recorded maxChunk (s, told) body chunk (s', told ++ [chunk.offer]) :=
  ⟨h.decoded, h.fits, ChunkSink.recorded_data h.taken told⟩

theorem Spoils.recorded {e : Failure} {offered : List MultipartReceiveResponse}
    (h : Spoils sink maxChunk s body e offered s') (told : List ReceiveEvent) :
    Spoils sink.recorded maxChunk (s, told) body e offered (s', told ++ offered.map offer) := by
  cases h with
  | unreadable hdecode =>
    rw [List.map_nil, List.append_nil]
    exact .unreadable hdecode
  | oversized hdecode hsize =>
    rw [List.map_nil, List.append_nil]
    exact .oversized hdecode hsize
  | refused hdecode hsize hrefused =>
    exact .refused hdecode hsize (ChunkSink.recorded_data hrefused told)
  | handleless haccepted hmore hhandle => exact .handleless (haccepted.recorded told) hmore hhandle

end Recorded

/-! ## Transfers -/

/-- A transfer from a device with a sink, and what has come of it. -/
structure Reception (σ : Type) where
  receiver : Receiver
  /-- The state of the sink. -/
  store : σ
  /-- What the sink was told, the latest last. -/
  told : List ReceiveEvent := []
  /-- The requests that were sent, the latest last. -/
  sent : List Outgoing := []

namespace Reception

variable {σ : Type}

/-- A transfer begins with the request of its receiver. -/
def opening (operationId : UInt16) (handle : UInt32) (maxChunk : Nat) (store : σ) : Reception σ :=
  match Receiver.start { operationId, handle, maxChunk } with
  | (.ok out, receiver) => { receiver, store, sent := [out] }
  | (.error _, receiver) => { receiver, store }

/-- Takes one response, in whatever state the transfer is. -/
def hear (sink : ChunkSink σ) (t : Reception σ) (body : Bytes) : Reception σ :=
  match t.receiver.onResponse sink.recorded (t.store, t.told) body with
  | (.ok (.next out), receiver, store, told) => { receiver, store, told, sent := t.sent ++ [out] }
  | (_, receiver, store, told) => { t with receiver, store, told }

/-- Takes responses, one after the other. -/
def hearAll (sink : ChunkSink σ) (t : Reception σ) (bodies : List Bytes) : Reception σ :=
  bodies.foldl (hear sink) t

theorem hearAll_append (sink : ChunkSink σ) (t : Reception σ) (bodies more : List Bytes) :
    t.hearAll sink (bodies ++ more) = (t.hearAll sink bodies).hearAll sink more :=
  List.foldl_append

/-! ### How a transfer goes -/

/-- Whether each of the responses brings a chunk that the sink takes, is not the last one, and names a
    handle to go on with. -/
inductive Takes (sink : ChunkSink σ) (maxChunk : Nat) (s : σ) :
    List Bytes → List MultipartReceiveResponse → σ → Prop
  | none : Takes sink maxChunk s [] [] s
  | snoc {bodies : List Bytes} {chunks : List MultipartReceiveResponse} {s₁ s₂ : σ} {body : Bytes}
      {chunk : MultipartReceiveResponse} (htaken : Takes sink maxChunk s bodies chunks s₁)
      (haccepted : Accepts sink maxChunk s₁ body chunk s₂) (hmore : chunk.flag.isEnd = false)
      (hhandle : chunk.nextHandle ≠ 0) :
      Takes sink maxChunk s (bodies ++ [body]) (chunks ++ [chunk]) s₂

theorem Takes.fits {sink : ChunkSink σ} {maxChunk : Nat} {s s' : σ} {bodies : List Bytes}
    {chunks : List MultipartReceiveResponse} (h : Takes sink maxChunk s bodies chunks s') :
    ∀ chunk ∈ chunks, chunk.data.length ≤ maxChunk := by
  induction h with
  | none => exact List.forall_mem_nil _
  | snoc htaken haccepted hmore hhandle ih =>
    exact List.forall_mem_append.mpr ⟨ih, List.forall_mem_singleton.mpr haccepted.fits⟩

/-- The requests of a transfer that got these chunks: for the first part under the handle that it was
    given, and for another part under the handle that each chunk names. -/
def asked (operationId : UInt16) (handle : UInt32) (chunks : List MultipartReceiveResponse) :
    List Outgoing :=
  MultipartReceiveRequest.outgoing { handle, operationId, operation := .firstPart } ::
    chunks.map fun chunk => MultipartReceiveRequest.outgoing
      { handle := chunk.nextHandle, operationId, operation := .nextPart }

/-- What has come of a transfer that is in progress and got these chunks. -/
def underway (operationId : UInt16) (handle : UInt32) (maxChunk : Nat)
    (chunks : List MultipartReceiveResponse) (store : σ) : Reception σ where
  receiver :=
    { operationId, handle := handleAfter handle chunks, maxChunk, received := total chunks,
      state := .inProgress }
  store
  told := chunks.map offer
  sent := asked operationId handle chunks

/-- What has come of a transfer that asked for a part after each of `chunks`, and ended well with the
    last one of `taken`. -/
def completed (sink : ChunkSink σ) (operationId : UInt16) (handle : UInt32)
    (maxChunk : Nat) (chunks taken : List MultipartReceiveResponse) (store : σ) : Reception σ where
  receiver :=
    { operationId, handle := handleAfter handle chunks, maxChunk, received := total taken,
      state := .complete }
  store := sink.completed store (total taken)
  told := taken.map offer ++ [.completed (total taken)]
  sent := asked operationId handle chunks

/-- What has come of a transfer that asked for a part after each of `chunks`, and failed when the sink
    had been offered `offered`. -/
def failed (sink : ChunkSink σ) (operationId : UInt16) (handle : UInt32)
    (maxChunk : Nat) (chunks offered : List MultipartReceiveResponse) (e : Failure) (store : σ) :
    Reception σ where
  receiver :=
    { operationId, handle := handleAfter handle chunks, maxChunk, received := total offered,
      state := .failed }
  store := sink.failed store e
  told := offered.map offer ++ [.failed e]
  sent := asked operationId handle chunks

/-- How a transfer goes, from the first response to the one that ends it. -/
inductive Course (sink : ChunkSink σ) (operationId : UInt16) (handle : UInt32) (maxChunk : Nat)
    (s : σ) : List Bytes → Reception σ → Prop
  /-- Each response has brought a chunk and the handle of the next one. -/
  | underway {bodies : List Bytes} {chunks : List MultipartReceiveResponse} {s' : σ}
      (htaken : Takes sink maxChunk s bodies chunks s') :
      Course sink operationId handle maxChunk s bodies (underway operationId handle maxChunk chunks s')
  /-- The latest response has brought the last chunk. -/
  | complete {bodies : List Bytes} {chunks : List MultipartReceiveResponse} {body : Bytes}
      {last : MultipartReceiveResponse} {s₁ s₂ : σ}
      (htaken : Takes sink maxChunk s bodies chunks s₁)
      (haccepted : Accepts sink maxChunk s₁ body last s₂) (hlast : last.flag.isEnd = true) :
      Course sink operationId handle maxChunk s (bodies ++ [body])
        (completed sink operationId handle maxChunk chunks (chunks ++ [last]) s₂)
  /-- The latest response has spoiled the transfer. -/
  | failed {bodies : List Bytes} {chunks : List MultipartReceiveResponse} {body : Bytes}
      {e : Failure} {offered : List MultipartReceiveResponse} {s₁ s₂ : σ}
      (htaken : Takes sink maxChunk s bodies chunks s₁)
      (hspoiled : Spoils sink maxChunk s₁ body e offered s₂) :
      Course sink operationId handle maxChunk s (bodies ++ [body])
        (failed sink operationId handle maxChunk chunks (chunks ++ offered) e s₂)

variable {sink : ChunkSink σ} {operationId : UInt16} {handle : UInt32} {maxChunk : Nat} {s s' : σ}
  {chunks offered : List MultipartReceiveResponse} {chunk : MultipartReceiveResponse} {body : Bytes}
  {bodies : List Bytes} {t : Reception σ}

/-! ### One response -/

theorem hear_of_next {out : Outgoing} {receiver : Receiver} {kept : σ × List ReceiveEvent}
    (h : t.receiver.onResponse sink.recorded (t.store, t.told) body =
      (.ok (.next out), receiver, kept)) :
    t.hear sink body = { receiver, store := kept.1, told := kept.2, sent := t.sent ++ [out] } := by
  unfold hear
  rw [h]

theorem hear_of_complete {receiver : Receiver} {kept : σ × List ReceiveEvent}
    (h : t.receiver.onResponse sink.recorded (t.store, t.told) body =
      (.ok .complete, receiver, kept)) :
    t.hear sink body = { receiver, store := kept.1, told := kept.2, sent := t.sent } := by
  unfold hear
  rw [h]

theorem hear_of_error {e : Failure} {receiver : Receiver} {kept : σ × List ReceiveEvent}
    (h : t.receiver.onResponse sink.recorded (t.store, t.told) body = (.error e, receiver, kept)) :
    t.hear sink body = { receiver, store := kept.1, told := kept.2, sent := t.sent } := by
  unfold hear
  rw [h]

theorem asked_snoc (operationId : UInt16) (handle : UInt32)
    (chunks : List MultipartReceiveResponse) (chunk : MultipartReceiveResponse) :
    asked operationId handle (chunks ++ [chunk]) = asked operationId handle chunks ++
      [MultipartReceiveRequest.outgoing
        { handle := chunk.nextHandle, operationId, operation := .nextPart }] := by
  unfold asked
  rw [List.map_append, List.cons_append]
  rfl

theorem hear_more (h : Accepts sink maxChunk s body chunk s') (hmore : chunk.flag.isEnd = false)
    (hhandle : chunk.nextHandle ≠ 0) :
    (underway operationId handle maxChunk chunks s).hear sink body =
      underway operationId handle maxChunk (chunks ++ [chunk]) s' := by
  have htold := h.recorded (chunks.map offer)
  refine (hear_of_next (Receiver.onResponse_more rfl htold hmore hhandle)).trans ?_
  unfold underway
  rw [handleAfter_snoc, total_snoc, asked_snoc, List.map_append]
  rfl

theorem hear_final (h : Accepts sink maxChunk s body chunk s') (hlast : chunk.flag.isEnd = true) :
    (underway operationId handle maxChunk chunks s).hear sink body =
      completed sink operationId handle maxChunk chunks (chunks ++ [chunk]) s' := by
  have htold := h.recorded (chunks.map offer)
  refine (hear_of_complete (Receiver.onResponse_final rfl htold hlast)).trans ?_
  unfold completed
  rw [total_snoc, List.map_append]
  rfl

theorem hear_spoiled {e : Failure} (h : Spoils sink maxChunk s body e offered s') :
    (underway operationId handle maxChunk chunks s).hear sink body =
      failed sink operationId handle maxChunk chunks (chunks ++ offered) e s' := by
  have htold := h.recorded (chunks.map offer)
  refine (hear_of_error (Receiver.onResponse_spoiled rfl htold)).trans ?_
  unfold failed
  rw [total_append, List.map_append]
  rfl

/-- What the sink is told of a response that arrives when no transfer is in progress. -/
def late : ReceiveEvent := .failed (.transfer "response without a transfer in progress")

/-- Such a response does no more than that. -/
theorem hear_late (hstate : t.receiver.state.isTerminal = true) (body : Bytes) :
    (t.hear sink body).receiver.state.isTerminal = true ∧ (t.hear sink body).sent = t.sent ∧
      (t.hear sink body).told = t.told ++ [late] := by
  have hended : t.receiver.state ≠ .inProgress := by
    intro hprogress
    rw [hprogress] at hstate
    cases hstate
  rw [hear_of_error (Receiver.onResponse_late hended sink.recorded (t.store, t.told) body)]
  exact ⟨rfl, rfl, rfl⟩

/-! ### All responses -/

/-- Once a transfer has ended, it asks for nothing and takes nothing. -/
theorem hearAll_late (hstate : t.receiver.state.isTerminal = true) (bodies : List Bytes) :
    (t.hearAll sink bodies).sent = t.sent ∧
      (t.hearAll sink bodies).told = t.told ++ List.replicate bodies.length late := by
  induction bodies generalizing t with
  | nil => exact ⟨rfl, (List.append_nil _).symm⟩
  | cons body bodies ih =>
    obtain ⟨hended, hsent, htold⟩ := hear_late hstate body
    obtain ⟨hsent', htold'⟩ := ih hended
    refine ⟨hsent'.trans hsent, htold'.trans ?_⟩
    rw [htold, List.append_assoc, List.length_cons, List.replicate_succ]
    rfl

theorem opening_eq (hhandle : handle ≠ 0) :
    opening operationId handle maxChunk s = underway operationId handle maxChunk [] s := by
  unfold opening
  rw [Receiver.start_eq rfl hhandle]
  rfl

theorem hearAll_taken (hhandle : handle ≠ 0) (h : Takes sink maxChunk s bodies chunks s') :
    (opening operationId handle maxChunk s).hearAll sink bodies =
      underway operationId handle maxChunk chunks s' := by
  induction h with
  | none => exact opening_eq hhandle
  | snoc htaken haccepted hmore hnext ih =>
    rw [hearAll_append, ih]
    exact hear_more haccepted hmore hnext

/-- The course of a transfer is what comes of it. -/
theorem hearAll_course (hhandle : handle ≠ 0)
    (h : Course sink operationId handle maxChunk s bodies t) :
    (opening operationId handle maxChunk s).hearAll sink bodies = t := by
  cases h with
  | underway htaken => exact hearAll_taken hhandle htaken
  | complete htaken haccepted hlast =>
    rw [hearAll_append, hearAll_taken hhandle htaken]
    exact hear_final haccepted hlast
  | failed htaken hspoiled =>
    rw [hearAll_append, hearAll_taken hhandle htaken]
    exact hear_spoiled hspoiled

/-- A transfer that is in progress goes on in one of the ways of its course. -/
theorem course_snoc (h : Takes sink maxChunk s bodies chunks s') (operationId : UInt16)
    (handle : UInt32) (body : Bytes) :
    ∃ t, Course sink operationId handle maxChunk s (bodies ++ [body]) t := by
  rcases accepts_or_spoils sink maxChunk s' body with
    ⟨chunk, s₂, haccepted, hlast | ⟨hmore, hnext⟩⟩ | ⟨e, offered, s₂, hspoiled⟩
  · exact ⟨_, .complete h haccepted hlast⟩
  · exact ⟨_, .underway (.snoc h haccepted hmore hnext)⟩
  · exact ⟨_, .failed h hspoiled⟩

/-- Whatever the responses are, those up to the end of the transfer are a course. -/
theorem exists_course (sink : ChunkSink σ) (operationId : UInt16) (handle : UInt32)
    (maxChunk : Nat) (s : σ) (bodies : List Bytes) :
    ∃ upTo rest t, bodies = upTo ++ rest ∧ Course sink operationId handle maxChunk s upTo t ∧
      (rest = [] ∨ t.receiver.state.isTerminal = true) := by
  induction bodies using List.reverseRecOn with
  | nil => exact ⟨[], [], _, rfl, .underway .none, Or.inl rfl⟩
  | append_singleton bodies body ih =>
    obtain ⟨upTo, rest, t, rfl, hcourse, hrest⟩ := ih
    rcases hrest with rfl | hended
    · rw [List.append_nil]
      cases hcourse with
      | underway htaken =>
        obtain ⟨t, hnext⟩ := course_snoc htaken operationId handle body
        exact ⟨_, [], t, (List.append_nil _).symm, hnext, Or.inl rfl⟩
      | complete htaken haccepted hlast =>
        exact ⟨_, [body], _, rfl, .complete htaken haccepted hlast, Or.inr rfl⟩
      | failed htaken hspoiled => exact ⟨_, [body], _, rfl, .failed htaken hspoiled, Or.inr rfl⟩
    · exact ⟨upTo, rest ++ [body], t, List.append_assoc _ _ _, hcourse, Or.inr hended⟩

/-- The chunks of what the sink was told are among those that it was offered. -/
theorem mem_of_told {data : Bytes} {last : Bool} {ending : List ReceiveEvent}
    (hending : .chunk data last ∉ ending) (h : .chunk data last ∈ chunks.map offer ++ ending) :
    ∃ chunk ∈ chunks, chunk.data = data := by
  rcases List.mem_append.mp h with hmem | hmem
  · obtain ⟨chunk, hoffered, heq⟩ := List.mem_map.mp hmem
    cases heq
    exact ⟨chunk, hoffered, rfl⟩
  · exact absurd hmem hending

/-- No chunk that the sink is offered is too large. -/
theorem Course.fits (h : Course sink operationId handle maxChunk s bodies t) {data : Bytes}
    {last : Bool} (hchunk : .chunk data last ∈ t.told) : data.length ≤ maxChunk := by
  cases h with
  | @underway bodies chunks s' htaken =>
    obtain ⟨chunk, hoffered, heq⟩ := List.mem_map.mp hchunk
    cases heq
    exact htaken.fits chunk hoffered
  | @complete bodies chunks body final s₁ s₂ htaken haccepted hlast =>
    have hfits := List.forall_mem_append.mpr
      ⟨htaken.fits, List.forall_mem_singleton.mpr haccepted.fits⟩
    have hending : .chunk data last ∉ [ReceiveEvent.completed (total (chunks ++ [final]))] := by
      intro hmem
      cases List.mem_singleton.mp hmem
    obtain ⟨chunk, hmem, rfl⟩ := mem_of_told hending hchunk
    exact hfits chunk hmem
  | @failed bodies chunks body e offered s₁ s₂ htaken hspoiled =>
    have hfits := List.forall_mem_append.mpr ⟨htaken.fits, hspoiled.fits⟩
    have hending : .chunk data last ∉ [ReceiveEvent.failed e] := by
      intro hmem
      cases List.mem_singleton.mp hmem
    obtain ⟨chunk, hmem, rfl⟩ := mem_of_told hending hchunk
    exact hfits chunk hmem

theorem fits_of_told (hhandle : handle ≠ 0) {data : Bytes} {last : Bool} (bodies : List Bytes)
    (hchunk : .chunk data last ∈ ((opening operationId handle maxChunk s).hearAll sink bodies).told) :
    data.length ≤ maxChunk := by
  obtain ⟨upTo, rest, t, rfl, hcourse, hrest⟩ :=
    exists_course sink operationId handle maxChunk s bodies
  rw [hearAll_append, hearAll_course hhandle hcourse] at hchunk
  rcases hrest with rfl | hended
  · exact hcourse.fits hchunk
  · rw [(hearAll_late hended rest).2] at hchunk
    rcases List.mem_append.mp hchunk with hchunk | hchunk
    · exact hcourse.fits hchunk
    · cases List.eq_of_mem_replicate hchunk

/-- A transfer is complete exactly when the sink has taken a chunk that is flagged as the last one. -/
theorem Course.state_complete_iff (hhandle : handle ≠ 0)
    (h : Course sink operationId handle maxChunk s bodies t) :
    t.receiver.state = .complete ↔
      ∃ before body chunks last s₁ s₂, bodies = before ++ [body] ∧
        Takes sink maxChunk s before chunks s₁ ∧ Accepts sink maxChunk s₁ body last s₂ ∧
        last.flag.isEnd = true := by
  constructor
  · intro hstate
    cases h with
    | underway htaken => cases hstate
    | complete htaken haccepted hlast => exact ⟨_, _, _, _, _, _, rfl, htaken, haccepted, hlast⟩
    | failed htaken hspoiled => cases hstate
  · rintro ⟨before, body, chunks, last, s₁, s₂, rfl, htaken, haccepted, hlast⟩
    -- The responses have one outcome, and this course names it.
    have hcourse : Course sink operationId handle maxChunk s (before ++ [body]) _ :=
      .complete htaken haccepted hlast
    rw [← hearAll_course hhandle h, hearAll_course hhandle hcourse]
    rfl

/-! ### Every transfer -/

/-- What a transfer does with whatever responses come. -/
structure Reassembles (sink : ChunkSink σ) (operationId : UInt16) (handle : UInt32)
    (maxChunk : Nat) (s : σ) : Prop where
  /-- What comes of responses that are a course is what the course says. -/
  follows : ∀ {bodies : List Bytes} {t : Reception σ},
    Course sink operationId handle maxChunk s bodies t →
      (opening operationId handle maxChunk s).hearAll sink bodies = t
  /-- Whatever the responses are, those up to the end of the transfer are a course. -/
  covers : ∀ bodies : List Bytes, ∃ upTo rest t, bodies = upTo ++ rest ∧
    Course sink operationId handle maxChunk s upTo t ∧
    (rest = [] ∨ t.receiver.state.isTerminal = true)
  /-- The transfer is complete exactly when the sink has taken a chunk flagged as the last one. -/
  completes : ∀ {bodies : List Bytes} {t : Reception σ},
    Course sink operationId handle maxChunk s bodies t →
      (t.receiver.state = .complete ↔
        ∃ before body chunks last s₁ s₂, bodies = before ++ [body] ∧
          Takes sink maxChunk s before chunks s₁ ∧ Accepts sink maxChunk s₁ body last s₂ ∧
          last.flag.isEnd = true)
  /-- Nothing is asked for after the end, and the sink is offered nothing. -/
  ends : ∀ {bodies rest : List Bytes} {t : Reception σ},
    Course sink operationId handle maxChunk s bodies t → t.receiver.state.isTerminal = true →
      ((opening operationId handle maxChunk s).hearAll sink (bodies ++ rest)).sent = t.sent ∧
      ((opening operationId handle maxChunk s).hearAll sink (bodies ++ rest)).told =
        t.told ++ List.replicate rest.length late
  /-- No chunk that is ever offered to the sink is too large. -/
  bounded : ∀ {bodies : List Bytes} {data : Bytes} {last : Bool},
    .chunk data last ∈ ((opening operationId handle maxChunk s).hearAll sink bodies).told →
      data.length ≤ maxChunk

/-- Every transfer from a device under a handle, with every sink and whatever responses come, asks for
    the first part under its handle and then for one part after the other, each under the handle that
    the chunk before it named; it hands the data of the chunks to the sink, in order; it is complete
    when the sink has taken the last chunk, and a response that spoils it is the end of it.  A
    response in which the device declines is one of these, and of the others only the data of the
    chunk is taken, which leaves the check out. -/
theorem reassembles (hhandle : handle ≠ 0) (sink : ChunkSink σ) (operationId : UInt16)
    (maxChunk : Nat) (s : σ) :
    Reassembles sink operationId handle maxChunk s ∧
    (∀ code after, (CompletionCode.ofByte code).isSuccess = false →
      Spoils sink maxChunk s (code :: after) (.message (.completion (.ofByte code))) [] s) ∧
    (∀ body chunk, MultipartReceiveResponse.decode body = .ok chunk → chunk.CarriedBy body) := by
  refine ⟨⟨hearAll_course hhandle, exists_course sink operationId handle maxChunk s,
    Course.state_complete_iff hhandle, ?_, fits_of_told hhandle _⟩, ?_,
    fun body chunk => carriedBy_of_decode⟩
  · intro bodies rest t hcourse hended
    rw [hearAll_append, hearAll_course hhandle hcourse]
    exact hearAll_late hended rest
  · intro code after hdeclined
    exact .unreadable (decode_declined hdeclined after)

/-! ### Three parts -/

/-- The responses of a device that has six bytes to send, three of them in the first part. -/
def sampleParts : List Bytes :=
  [[0, 0, 2, 0, 0, 0, 3, 0, 0, 0, 97, 98, 99],
    [0, 1, 9, 0, 0, 0, 1, 0, 0, 0, 100],
    [0, 2, 0, 0, 0, 0, 6, 0, 0, 0, 101, 102, 239, 190, 173, 222]]

/-- The parts are joined in order, and the check behind the last one is left out.  A response that
    repeats the last part asks for nothing and is not joined. -/
theorem reassembles_three_parts :
    Reassembles ChunkBuffer.sink 7 1 3 {} ∧
    ((opening 7 1 3 {}).hearAll ChunkBuffer.sink sampleParts).store =
      { data := [97, 98, 99, 100, 101, 102], completed := true, failed := false } ∧
    ((opening 7 1 3 {}).hearAll ChunkBuffer.sink sampleParts).sent =
      [⟨.multipartReceive, [1, 0, 0, 0, 7, 0, 0]⟩, ⟨.multipartReceive, [2, 0, 0, 0, 7, 0, 1]⟩,
        ⟨.multipartReceive, [9, 0, 0, 0, 7, 0, 1]⟩] ∧
    ((opening 7 1 3 {}).hearAll ChunkBuffer.sink
      (sampleParts ++ sampleParts.drop 2)).store.data = [97, 98, 99, 100, 101, 102] := by
  have hhandle : (1 : UInt32) ≠ 0 := by decide
  exact ⟨(reassembles hhandle ChunkBuffer.sink 7 3 {}).1, by decide, by decide, by decide⟩

end Reception

end DeviceEnablement
