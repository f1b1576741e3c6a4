/-
  What an operation is about, and the dictionaries it is given.

  1. `Operation.subject`: request, number and resource of an operation.  No response changes them
     (`subject_onResponse`), and an operation never changes the store (`store_start`,
     `store_onResponse`).
  2. `Operation.Provided`: an operation that needs dictionaries has them.  Otherwise it does not begin
     (`provided_start`), and as long as it has them it never fails because one is missing
     (`onResponse_provided`).
-/
import DeviceEnablement.Proofs.Session.Failures

namespace DeviceEnablement

/-- What an operation is about. -/
structure OperationSubject where
  request : OperationRequest
  operationId : UInt16
  resourceId : UInt32
  schemaClass : UInt8
  deriving DecidableEq

namespace Operation

variable {o o' : Operation} {scope : SessionScope} {memory memory' : DeviceMemory}

/-- What the operation is about. -/
def subject (o : Operation) : OperationSubject :=
  ⟨o.request, o.operationId, o.resourceId, o.schemaClass⟩

/-! ## Responses -/

theorem subject_collectResult (o : Operation) (scope : SessionScope) :
    (o.collectResult scope).2.subject = o.subject := by
  unfold collectResult
  dsimp only
  split
  · rfl
  · split <;> rfl

theorem subject_sendRemainder (o : Operation) (scope : SessionScope) :
    (o.sendRemainder scope).2.subject = o.subject := by
  unfold sendRemainder
  split
  · exact o.subject_collectResult scope
  · dsimp only
    split
    · rfl
    · split <;> rfl

theorem subject_onInit (o : Operation) (scope : SessionScope) (body : Bytes) :
    (o.onInit scope body).2.subject = o.subject := by
  unfold onInit
  split
  · rfl
  · split
    · rfl
    · dsimp only
      split
      · split
        · exact subject_sendRemainder _ scope
        · rfl
      · exact subject_sendRemainder _ scope

theorem subject_onAcknowledgement (o : Operation) (sender : Sender) (scope : SessionScope)
    (body : Bytes) : (o.onAcknowledgement sender scope body).2.subject = o.subject := by
  unfold onAcknowledgement
  dsimp only
  split
  · rfl
  · exact subject_collectResult _ scope
  · rfl

theorem subject_onChunk (o : Operation) (receiver : Receiver) (scope : SessionScope)
    (body : Bytes) : (o.onChunk receiver scope body).2.subject = o.subject := by
  unfold onChunk
  dsimp only
  split <;> rfl

theorem subject_onComplete (o : Operation) (scope : SessionScope) (memory : DeviceMemory)
    (body : Bytes) : (o.onComplete scope memory body).2.1.subject = o.subject := by
  unfold onComplete
  split
  · rfl
  · dsimp only
    split <;> rfl

/-- No response changes what an operation is about. -/
theorem subject_onResponse (o : Operation) (scope : SessionScope) (memory : DeviceMemory)
    (body : Bytes) : (o.onResponse scope memory body).2.1.subject = o.subject := by
  unfold onResponse
  split
  · exact o.subject_onInit scope body
  · exact o.subject_onAcknowledgement _ scope body
  · exact o.subject_onChunk _ scope body
  · exact o.subject_onComplete scope memory body

/-! ## The store -/

/-- An operation that begins leaves everything as it is. -/
theorem memory_start (o : Operation) (scope : SessionScope) (memory : DeviceMemory) :
    (o.start scope memory).2.2 = memory := by
  unfold start
  split
  · rfl
  · dsimp only
    split
    · rfl
    · split <;> rfl

/-- No response changes the store. -/
theorem store_onResponse (o : Operation) (scope : SessionScope) (memory : DeviceMemory)
    (body : Bytes) : (o.onResponse scope memory body).2.2.store = memory.store := by
  unfold onResponse
  split
  · rfl
  · rfl
  · rfl
  · unfold onComplete
    split
    · rfl
    · dsimp only
      split <;> rfl

/-! ## Dictionaries -/

theorem key_congr (h : o'.subject = o.subject) : o'.key = o.key :=
  congrArg (fun subject => (⟨subject.resourceId, subject.schemaClass⟩ : DictionaryKey)) h

/-- The dictionaries depend on the resource alone. -/
theorem dictionaries_congr (h : o'.subject = o.subject) (store : Store) :
    o'.dictionaries store = o.dictionaries store := by
  unfold dictionaries
  rw [key_congr h]

/-- Whether the dictionaries of an operation are complete, if it needs them. -/
def Provided (o : Operation) (store : Store) : Prop :=
  needsDictionaries o.request.operation = true →
    ∃ dictionaries, o.dictionaries store = .ok dictionaries

theorem Provided.congr {store : Store} (hprovided : o.Provided store)
    (h : o'.subject = o.subject) : o'.Provided store := by
  have hrequest : o'.request = o.request := congrArg OperationSubject.request h
  unfold Provided
  rw [hrequest, dictionaries_congr h]
  exact hprovided

theorem subject_init (o : Operation) (metadata : Metadata) (payload : Bytes) :
    (o.init metadata payload).2.subject = o.subject := by
  unfold init
  split
  · rfl
  · dsimp only
    split
    · rfl
    · split
      · split <;> rfl
      · rfl

theorem provided_of_prepare {store : Store} {payload : Bytes}
    (h : o.prepare scope store = .ok payload) : o.Provided store := by
  intro hneeds
  unfold prepare at h
  rw [if_pos hneeds] at h
  cases hdictionaries : o.dictionaries store with
  | error e =>
    rw [hdictionaries] at h
    cases h
  | ok dictionaries => exact ⟨dictionaries, rfl⟩

/-- An operation that begins has its dictionaries. -/
theorem provided_start {step : Step} (h : o.start scope memory = (.ok step, o', memory')) :
    o'.Provided memory'.store := by
  have hmemory := o.memory_start scope memory
  rw [h] at hmemory
  obtain rfl : memory' = memory := hmemory
  unfold start at h
  split at h
  · cases h
  · rename_i resource _
    dsimp only at h
    split at h
    · cases h
    · rename_i payload hprepare
      have hprovided := provided_of_prepare hprepare
      have hsubject := subject_init
        { o with resourceId := resource.resourceId, schemaClass := resource.schemaClass }
        memory'.metadata payload
      split at h
      · rename_i hinit
        rw [hinit] at hsubject
        cases h
        exact hprovided.congr hsubject
      · cases h

/-- An operation that begins is still about the same request. -/
theorem request_start (o : Operation) (scope : SessionScope) (memory : DeviceMemory) :
    (o.start scope memory).2.1.request = o.request := by
  unfold start
  split
  · rfl
  · rename_i resource _
    dsimp only
    split
    · rfl
    · rename_i payload _
      have hsubject := subject_init
        { o with resourceId := resource.resourceId, schemaClass := resource.schemaClass }
        memory.metadata payload
      have hrequest := congrArg OperationSubject.request hsubject
      split
      · rename_i heq
        rw [heq] at hrequest
        exact hrequest
      · rename_i heq
        rw [heq] at hrequest
        exact hrequest

/-- An operation that has its dictionaries never fails because one is missing. -/
theorem onResponse_provided (hneeds : needsDictionaries o.request.operation = true)
    (hprovided : o.Provided memory.store) (scope : SessionScope) (body : Bytes) :
    FailsBy (fun e => ¬ LacksDictionary e) (o.onResponse scope memory body).1 := by
  obtain ⟨dictionaries, hdictionaries⟩ := hprovided hneeds
  refine (o.onResponse_failsBy scope memory body).mono fun e he => ?_
  rcases he with he | hdecoded
  · cases he with
    | message | status | transfer | misplaced => exact fun hlacks => by cases hlacks
  · rcases o.decodeResult_failsBy scope memory.store o.response e hdecoded with hmissing | ⟨_, rfl⟩
    · rw [hdictionaries] at hmissing
      cases hmissing
    · exact fun hlacks => by cases hlacks

end Operation

end DeviceEnablement
