/-
  How a session may fail when it takes a response.

  1. `Failure.InExchange`: what goes wrong between the two sides.  Two of these failures say that a
     response has come while no transfer was in progress, and are met only then.
  2. `FailsBy`: a result fails in a certain way, if it fails.  `Sender.onResponse_failsBy` and
     `Receiver.onResponse_failsBy` are about transfers.
  3. `Operation.onResponse_failsBy`: an operation fails in the exchange, or when its result is
     decoded.  `Download.onResponse_failsBy`: a download fails in the exchange, or in the store.
  4. `Session.onResponse_inPlace`: as long as its transfer is in progress, no response comes amiss for
     a session.
-/
import DeviceEnablement.Proofs.Session.Awaiting

namespace DeviceEnablement

/-! ## Failures -/

/-- The words for a response that has come while no transfer was in progress. -/
def TransferState.misplaced : List String :=
  ["response without a transfer in progress", "acknowledgement without a transfer in progress"]

/-- Whether a failure is one between the two sides: a message cannot be read or written or is too
    long, the device has given up, or a transfer has gone wrong. -/
inductive Failure.InExchange (underway : Prop) : Failure → Prop
  | message (cause : MessageError) : InExchange underway (.message cause)
  | status (status : OperationStatus) : InExchange underway (.operationStatus status)
  | transfer {words : String} (placed : words ∉ TransferState.misplaced) :
      InExchange underway (.transfer words)
  | misplaced {words : String} (idle : ¬ underway) : InExchange underway (.transfer words)

theorem Failure.InExchange.mono {p q : Prop} {e : Failure} (h : e.InExchange p) (hpq : q → p) :
    e.InExchange q := by
  cases h with
  | message cause => exact .message cause
  | status status => exact .status status
  | transfer hplaced => exact .transfer hplaced
  | misplaced hidle => exact .misplaced fun hq => hidle (hpq hq)

/-- A response comes amiss only when no transfer is in progress. -/
theorem Failure.InExchange.placed {underway : Prop} {words : String}
    (h : (Failure.transfer words).InExchange underway) (hunderway : underway) :
    words ∉ TransferState.misplaced := by
  cases h with
  | transfer hplaced => exact hplaced
  | misplaced hidle => exact absurd hunderway hidle

/-- A transfer that the device has ended too early fails in words of its own. -/
theorem TransferState.unsent_not_misplaced (n : Nat) :
    s!"device completed the transfer with {n} bytes unsent" ∉ misplaced := by
  -- The words hold a number, but begin with another letter than the misplaced ones.
  have hfirst : (s!"device completed the transfer with {n} bytes unsent").toList.head? =
      some 'd' := by
    rw [String.toList_append, String.toList_append]
    rfl
  intro h
  generalize s!"device completed the transfer with {n} bytes unsent" = words at hfirst h
  simp only [misplaced, List.mem_cons, List.not_mem_nil, or_false] at h
  rcases h with rfl | rfl
  · exact absurd hfirst (by decide)
  · exact absurd hfirst (by decide)

/-- Whether a result is no failure, or one of this sort. -/
def FailsBy {α : Type} (sort : Failure → Prop) (result : Except Failure α) : Prop :=
  ∀ e, result = .error e → sort e

namespace FailsBy

variable {α β : Type} {sort sort' : Failure → Prop}

theorem ok (a : α) : FailsBy sort (.ok a : Except Failure α) := fun _ h => by cases h

theorem error {e : Failure} (h : sort e) : FailsBy sort (.error e : Except Failure α) := by
  rintro _ ⟨⟩
  exact h

theorem mono {result : Except Failure α} (h : FailsBy sort result) (hsort : ∀ e, sort e → sort' e) :
    FailsBy sort' result :=
  fun e he => hsort e (h e he)

/-- Who passes a failure on fails as the other one does. -/
theorem pass {result : Except Failure β} {e : Failure} (h : FailsBy sort result)
    (he : result = .error e) : FailsBy sort (.error e : Except Failure α) :=
  .error (h e he)

/-- A failure of an exchange in which no response comes amiss. -/
theorem exchange {result : Except Failure α} {underway : Prop}
    (h : FailsBy (Failure.InExchange True) result) : FailsBy (Failure.InExchange underway) result :=
  h.mono fun _ he => he.mono fun _ => trivial

end FailsBy

/-! ## Transfers -/

theorem Receiver.start_failsBy (receiver : Receiver) :
    FailsBy (Failure.InExchange True) receiver.start.1 := by
  unfold start
  split
  · exact .error (.transfer (by decide))
  · split
    · exact .error (.transfer (by decide))
    · exact .ok _

/-- A transfer from the device fails in the exchange, or because a chunk is refused. -/
theorem Receiver.onResponse_failsBy {σ : Type} {sink : ChunkSink σ} {sort : Failure → Prop}
    (receiver : Receiver) (s : σ) (body : Bytes)
    (hexchange : ∀ e, e.InExchange (receiver.state = .inProgress) → sort e)
    (hsink : ∀ s chunk final, FailsBy sort (sink.data s chunk final).1) :
    FailsBy sort (receiver.onResponse sink s body).1 := by
  have hproceed : ∀ (r : Receiver) s response, FailsBy sort (r.proceed sink s response).1 := by
    intro r s response
    unfold proceed
    split
    · exact .ok _
    · split
      · exact .error (hexchange _ (.transfer (by decide)))
      · exact .ok _
  have haccept : ∀ response, FailsBy sort (receiver.accept sink s response).1 := by
    intro response
    have htaken := hsink s response.data response.flag.isEnd
    unfold accept
    split
    · exact .error (hexchange _ (.message _))
    · dsimp only
      split
      · exact hproceed _ _ response
      · rename_i heq
        exact htaken.pass (congrArg Prod.fst heq)
  have hadvance : FailsBy sort (receiver.advance sink s body).1 := by
    unfold advance
    split
    · rename_i hidle
      exact .error (hexchange _ (.misplaced hidle))
    · split
      · exact haccept _
      · exact .error (hexchange _ (.message _))
  unfold onResponse
  split
  · exact .ok _
  · rename_i heq
    exact hadvance.pass (congrArg Prod.fst heq)

theorem Sender.new_failsBy (handle : UInt32) (operationId : UInt16) (payload : Bytes)
    (maxChunk : Nat) :
    FailsBy (Failure.InExchange True) (Sender.new handle operationId payload maxChunk) := by
  unfold new
  split
  · exact .error (.transfer (by decide))
  · split
    · exact .error (.transfer (by decide))
    · split
      · exact .error (.transfer (by decide))
      · exact .ok _

theorem Sender.chunk_failsBy (sender : Sender) :
    FailsBy (Failure.InExchange True) sender.chunk.1 := by
  unfold chunk
  dsimp only
  generalize MultipartSendRequest.outgoing _ = request
  cases request with
  | error cause => exact .error (.message cause)
  | ok out => exact .ok out

theorem Sender.start_failsBy (sender : Sender) :
    FailsBy (Failure.InExchange True) sender.start.1 := by
  unfold start
  split
  · exact .error (.transfer (by decide))
  · exact chunk_failsBy _

/-- A transfer to the device fails in the exchange. -/
theorem Sender.onResponse_failsBy (sender : Sender) (body : Bytes) :
    FailsBy (Failure.InExchange (sender.state = .inProgress)) (sender.onResponse body).1 := by
  have hproceed : ∀ (sender : Sender) operation,
      FailsBy (Failure.InExchange True) (sender.proceed operation).1 := by
    intro sender operation
    unfold proceed
    split
    · exact .ok _
    · split
      · exact .error (.transfer (TransferState.unsent_not_misplaced _))
      · have hchunk := chunk_failsBy { sender with handle := sender.nextHandle }
        split
        · exact .ok _
        · rename_i heq
          exact hchunk.pass (congrArg Prod.fst heq)
  have hadvance : FailsBy (Failure.InExchange (sender.state = .inProgress))
      (sender.advance body).1 := by
    unfold advance
    split
    · rename_i hidle
      exact .error (.misplaced hidle)
    · split
      · exact .error (.message _)
      · split
        · exact .error (.transfer (by decide))
        · exact (hproceed _ _).exchange
  unfold onResponse
  split
  · exact .ok _
  · rename_i heq
    exact hadvance.pass (congrArg Prod.fst heq)

/-! ## Operations -/

namespace Operation

theorem append_failsBy (max : Nat) (response data : Bytes) :
    FailsBy (Failure.InExchange True) (append max response data).1 := by
  unfold append
  dsimp only
  split
  · exact .error (.message _)
  · exact .ok _

theorem collectResult_failsBy (o : Operation) (scope : SessionScope) :
    FailsBy (Failure.InExchange True) (o.collectResult scope).1 := by
  have hstart := Receiver.start_failsBy
    { operationId := o.operationId, handle := o.resultHandle, maxChunk := scope.maxReceive }
  unfold collectResult
  dsimp only
  split
  · exact .ok _
  · split
    · exact .ok _
    · rename_i heq
      exact hstart.pass (congrArg Prod.fst heq)

theorem sendRemainder_failsBy (o : Operation) (scope : SessionScope) :
    FailsBy (Failure.InExchange True) (o.sendRemainder scope).1 := by
  unfold sendRemainder
  split
  · exact o.collectResult_failsBy scope
  · rename_i rest _
    have hnew := Sender.new_failsBy sendHandle o.operationId rest o.sendChunk
    dsimp only
    split
    · rename_i heq
      exact hnew.pass heq
    · rename_i sender _
      have hstart := sender.start_failsBy
      split
      · exact .ok _
      · rename_i heq
        exact hstart.pass (congrArg Prod.fst heq)

theorem onInit_failsBy (o : Operation) (scope : SessionScope) (body : Bytes) :
    FailsBy (Failure.InExchange True) (o.onInit scope body).1 := by
  unfold onInit
  split
  · exact .error (.message _)
  · rename_i response _
    have happend := append_failsBy scope.maxReceive o.response response.payload
    split
    · exact .error (.status _)
    · dsimp only
      split
      · split
        · exact sendRemainder_failsBy _ scope
        · rename_i heq
          exact happend.pass (congrArg Prod.fst heq)
      · exact sendRemainder_failsBy _ scope

/-- Whether a failure says that a dictionary is missing. -/
inductive LacksDictionary : Failure → Prop
  | schema (key : DictionaryKey) : LacksDictionary (.dictionaryMissing key)
  | annotations : LacksDictionary .annotationsMissing

theorem dictionaries_failsBy (o : Operation) (store : Store) :
    FailsBy LacksDictionary (o.dictionaries store) := by
  unfold dictionaries
  split
  · exact .error (.schema _)
  · split
    · exact .error .annotations
    · exact .ok _

/-- A result cannot be decoded when a dictionary is missing, or when the codec refuses it. -/
theorem decodeResult_failsBy (o : Operation) (scope : SessionScope) (store : Store)
    (response : Bytes) :
    FailsBy (fun e => o.dictionaries store = .error e ∨ ∃ cause, e = .model cause)
      (o.decodeResult scope store response) := by
  unfold decodeResult
  split
  · exact .ok _
  · cases hdictionaries : o.dictionaries store with
    | error e => exact .error (Or.inl rfl)
    | ok dictionaries =>
      show FailsBy _ ((scope.codec.decode response dictionaries).mapError .model)
      cases scope.codec.decode response dictionaries with
      | error cause => exact .error (Or.inr ⟨cause, rfl⟩)
      | ok json => exact .ok json

/-- An operation fails in the exchange, or because its result cannot be decoded. -/
theorem onResponse_failsBy (o : Operation) (scope : SessionScope) (memory : DeviceMemory)
    (body : Bytes) :
    FailsBy (fun e => e.InExchange (SessionTask.operation o).Underway ∨
        o.decodeResult scope memory.store o.response = .error e)
      (o.onResponse scope memory body).1 := by
  unfold onResponse
  split
  · exact (o.onInit_failsBy scope body).mono fun _ he => Or.inl (he.mono fun _ => trivial)
  · rename_i sender hphase
    -- The transfer of the phase is that of the operation.
    have hunderway : (SessionTask.operation o).Underway → sender.state = .inProgress :=
      fun h => h.sending hphase
    have hsender := sender.onResponse_failsBy body
    simp only [keeping, onAcknowledgement]
    split
    · exact .ok _
    · exact (collectResult_failsBy _ scope).mono fun _ he => Or.inl (he.mono fun _ => trivial)
    · rename_i heq
      exact .error (Or.inl ((hsender _ heq).mono hunderway))
  · rename_i receiver hphase
    have hunderway : (SessionTask.operation o).Underway → receiver.state = .inProgress :=
      fun h => h.receiving hphase
    have hreceiver : FailsBy (Failure.InExchange (SessionTask.operation o).Underway)
        (receiver.onResponse (sink scope.maxReceive) o.response body).1 :=
      receiver.onResponse_failsBy o.response body (fun _ he => he.mono hunderway)
        fun response chunk _ => (append_failsBy scope.maxReceive response chunk).exchange
    simp only [keeping, onChunk]
    split
    · exact .ok _
    · exact .ok _
    · rename_i heq
      exact .error (Or.inl (hreceiver _ heq))
  · unfold onComplete
    split
    · exact .error (Or.inl (.message _))
    · dsimp only
      split
      · rename_i heq
        exact .error (Or.inr heq)
      · exact .ok _

end Operation

/-! ## Downloads -/

/-- A download fails in the exchange, or because the store refuses a chunk. -/
theorem Download.onResponse_failsBy (d : Download) (scope : SessionScope) (memory : DeviceMemory)
    (body : Bytes) :
    FailsBy (fun e => e.InExchange (SessionTask.download d).Underway ∨ ∃ cause, e = .store cause)
      (d.onResponse scope memory body).1 := by
  unfold onResponse
  split
  · unfold onPlace
    split
    · exact .error (Or.inl (.message _))
    · rename_i response _
      have hstart := Receiver.start_failsBy
        { operationId := noOperation, handle := response.handle, maxChunk := scope.maxReceive }
      dsimp only
      split
      · exact .ok _
      · rename_i heq
        exact .error (Or.inl ((hstart _ (congrArg Prod.fst heq)).mono fun _ => trivial))
  · rename_i receiver hphase
    have hsink : ∀ store chunk final, FailsBy
        (fun e => e.InExchange (SessionTask.download d).Underway ∨ ∃ cause, e = .store cause)
        ((sink d.key).data store chunk final).1 := by
      intro store chunk final
      show FailsBy _ (storeChunk d.key store chunk final).1
      unfold storeChunk
      split
      · exact .ok _
      · split
        · exact .ok _
        · exact .error (Or.inr ⟨_, rfl⟩)
    have hreceiver := receiver.onResponse_failsBy memory.store body
      (fun _ he => Or.inl (he.mono fun h => h.download hphase)) hsink
    simp only [onChunk]
    split
    · exact .ok _
    · exact .ok _
    · rename_i heq
      exact hreceiver.pass heq

/-! ## Responses in their place -/

/-- Whether a result is no failure that says that a response has come amiss. -/
def InPlace {α : Type} (result : Except Failure α) : Prop :=
  ∀ words ∈ TransferState.misplaced, result ≠ .error (.transfer words)

theorem FailsBy.inPlace {α : Type} {sort : Failure → Prop} {result : Except Failure α}
    (h : FailsBy sort result)
    (hsort : ∀ words, sort (.transfer words) → words ∉ TransferState.misplaced) :
    InPlace result :=
  fun words hmem he => hsort words (h _ he) hmem

namespace SessionTask

/-- A task whose transfer is in progress takes a response in its place. -/
theorem onResponse_inPlace {task : SessionTask} (hunderway : task.Underway)
    (scope : SessionScope) (memory : DeviceMemory) (body : Bytes) :
    InPlace (task.onResponse scope memory body).1 := by
  cases task with
  | negotiation phase =>
    have hfails : FailsBy (Failure.InExchange True)
        ((negotiation phase).onResponse scope memory body).1 := by
      cases phase with
      | redfish =>
        simp only [onResponse, Negotiation.onResponse, Negotiation.onRedfish]
        split
        · exact .error (.message _)
        · exact .ok _
      | medium =>
        simp only [onResponse, Negotiation.onResponse, Negotiation.onMedium]
        split
        · exact .error (.message _)
        · exact .ok _
    exact hfails.inPlace fun _ he => he.placed trivial
  | download d =>
    refine (d.onResponse_failsBy scope memory body).inPlace fun words he => ?_
    rcases he with he | ⟨cause, he⟩
    · exact he.placed hunderway
    · cases he
  | operation o =>
    refine (o.onResponse_failsBy scope memory body).inPlace fun words he => ?_
    rcases he with he | hdecoded
    · exact he.placed hunderway
    · rcases o.decodeResult_failsBy scope memory.store o.response _ hdecoded with hmissing | ⟨_, he⟩
      · cases o.dictionaries_failsBy memory.store _ hmissing
      · cases he

end SessionTask

/-- A session whose transfer is in progress takes a response in its place. -/
theorem Session.onResponse_inPlace {s : Session} (hunderway : s.task.Underway)
    (scope : SessionScope) (memory : DeviceMemory) (body : Bytes) :
    InPlace (s.onResponse scope memory body).1 := by
  unfold onResponse
  split
  · intro words _ he
    cases he
  · split
    · intro words _ he
      cases he
    · exact SessionTask.onResponse_inPlace hunderway scope memory body

end DeviceEnablement
