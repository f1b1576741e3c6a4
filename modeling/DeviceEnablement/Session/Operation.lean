/-
  One operation on one resource.

  The request body is encoded and goes out in the first request as far as it fits; the rest follows
  chunk by chunk.  The result comes with the response, or chunk by chunk when the device names a
  handle for it.  Then the operation is completed, and only then the result is decoded.

  1. Nothing is sent unless the resource is known, its dictionaries are there, the body can be
     encoded, and a chunk of the device has room for at least one byte.
  2. The result may not be longer than `maxReceive`.
  3. The etag becomes part of the metadata when the operation ends well.
-/
import DeviceEnablement.Session.Step
import DeviceEnablement.Transfer.Receiver
import DeviceEnablement.Transfer.Sender

namespace DeviceEnablement

/-- What an operation waits for. -/
inductive OperationPhase
  | starting
  | sending (sender : Sender)
  | receiving (receiver : Receiver)
  | completing
  deriving DecidableEq

/-- An operation. -/
structure Operation where
  request : OperationRequest
  operationId : UInt16
  resourceId : UInt32 := 0
  schemaClass : UInt8 := 0
  phase : OperationPhase := .starting
  /-- The part of the body that does not fit in the first request. -/
  remainder : Option Bytes := none
  /-- The bytes of the body in each further request. -/
  sendChunk : Nat := 0
  /-- The handle of the result; 0 when it comes with the response. -/
  resultHandle : UInt32 := 0
  /-- The result as far as it has arrived. -/
  response : Bytes := []
  etag : String := ""
  deriving DecidableEq

namespace Operation

/-- The handle under which the rest of a body is sent. -/
def sendHandle : UInt32 := 1

/-- The status of an operation that has ended well. -/
def statusOk : UInt16 := 200

/-! ## Dictionaries -/

/-- Whether an operation sends or receives a body. -/
def needsDictionaries : OperationType → Bool
  | .delete | .head => false
  | _ => true

/-- The key of the schema dictionary of the resource. -/
def key (o : Operation) : DictionaryKey := ⟨o.resourceId, o.schemaClass⟩

/-- The dictionaries for bodies of the resource. -/
def dictionaries (o : Operation) (store : Store) : Except Failure CodecDictionaries :=
  match store.getComplete? o.key with
  | none => .error (.dictionaryMissing o.key)
  | some schema =>
    match store.annotations? with
    | none => .error .annotationsMissing
    | some annotations => .ok { schema := schema.data, annotations := annotations.data }

/-! ## Starting -/

/-- The encoded body of the request; empty if there is none. -/
def encodePayload (o : Operation) (scope : SessionScope) (store : Store) :
    Except Failure Bytes :=
  match o.request.payload with
  | none =>
    if o.request.operation = .action then .ok []
    else .error (.invalidRequest s!"{o.request.operation.name} requires a JSON payload")
  | some text => do
    let tree ← (PropertyNode.ofText text).mapError .model
    let dictionaries ← o.dictionaries store
    (scope.codec.encode tree dictionaries o.schemaClass).mapError .model

/-- The bytes of a body in each request after the first one, for a device that takes `maxChunk`
    bytes: a request with its check has to fit. -/
def chunkSize (maxChunk : Nat) : Except Failure Nat :=
  let overhead := MultipartSendRequest.fixedSize + checksumSize
  if overhead < maxChunk then .ok (maxChunk - overhead)
  else
    .error (.transfer s!"device chunk size {maxChunk} too small for a multipart request")

/-- The first request with this much of the body, and the operation that waits for its response. -/
def initRequest (o : Operation) (flags : OperationFlags) (handle : UInt32) (inlined : Bytes) :
    Except Failure Outgoing :=
  (OperationInitRequest.outgoing
    { resourceId := o.resourceId, operationId := o.operationId, operation := o.request.operation,
      flags, sendHandle := handle, locator := [], payload := inlined }).mapError .message

/-- The first request for this body, with as much of it as a chunk of the device holds, and the
    operation that keeps the rest. -/
def init (o : Operation) (metadata : Metadata) (payload : Bytes) :
    Except Failure Outgoing × Operation :=
  if payload.isEmpty then (o.initRequest .empty 0 [], o)
  else
    let flags := OperationFlags.empty.withRequestPayload
    match Metadata.require .deviceMaxChunk metadata.deviceMaxChunk with
    | .error e => (.error (.model e), o)
    | .ok limit =>
      let maxChunk := limit.toNat
      if maxChunk < OperationInitRequest.fixedSize + payload.length then
        match chunkSize maxChunk with
        | .error e => (.error e, o)
        | .ok sendChunk =>
          let first := maxChunk - OperationInitRequest.fixedSize
          let o := { o with remainder := some (payload.drop first), sendChunk }
          (o.initRequest flags sendHandle (payload.take first), o)
      else (o.initRequest flags 0 payload, o)

/-- The encoded body of the request if its operation carries one, once the dictionaries are known to
    be there. -/
def prepare (o : Operation) (scope : SessionScope) (store : Store) : Except Failure Bytes := do
  if needsDictionaries o.request.operation then
    let _ ← o.dictionaries store
  if o.request.operation.carriesPayload then o.encodePayload scope store else return []

/-- The first request. -/
def start (o : Operation) (scope : SessionScope) (memory : DeviceMemory) : TaskResult Operation :=
  match scope.registry.getByUri o.request.uri with
  | .error e => (.error (.model e), o, memory)
  | .ok resource =>
    let o := { o with resourceId := resource.resourceId, schemaClass := resource.schemaClass }
    match o.prepare scope memory.store with
    | .error e => (.error e, o, memory)
    | .ok payload =>
      match o.init memory.metadata payload with
      | (.ok out, o) => (.ok (.send out), { o with phase := .starting }, memory)
      | (.error e, o) => (.error e, o, memory)

/-! ## The result -/

/-- Adds to the result, which may not become longer than `max`. -/
def append (max : Nat) (response data : Bytes) : Except Failure Unit × Bytes :=
  let size := response.length + data.length
  if max < size then (.error (.message (.payloadTooLarge size max)), response)
  else (.ok (), response ++ data)

/-- The result as sink of a transfer; a failure discards it. -/
def sink (max : Nat) : ChunkSink Bytes where
  data response chunk _ := append max response chunk
  completed response _ := response
  failed _ _ := []

/-- Asks the device to complete the operation. -/
def complete (o : Operation) : Except Failure Step × Operation :=
  let request : OperationCompleteRequest :=
    { resourceId := o.resourceId, operationId := o.operationId }
  (.ok (.send request.outgoing), { o with phase := .completing })

/-- Fetches the result if the device has named a handle for it, and else completes. -/
def collectResult (o : Operation) (scope : SessionScope) : Except Failure Step × Operation :=
  if o.resultHandle = 0 then o.complete
  else
    let receiver : Receiver :=
      { operationId := o.operationId, handle := o.resultHandle, maxChunk := scope.maxReceive }
    match receiver.start with
    | (.ok out, receiver) => (.ok (.send out), { o with phase := .receiving receiver })
    | (.error e, _) => (.error e, o)

/-- Sends the rest of the body if there is one, and else goes on to the result. -/
def sendRemainder (o : Operation) (scope : SessionScope) : Except Failure Step × Operation :=
  match o.remainder with
  | none => o.collectResult scope
  | some rest =>
    let o := { o with remainder := none }
    match Sender.new sendHandle o.operationId rest o.sendChunk with
    | .error e => (.error e, o)
    | .ok sender =>
      match sender.start with
      | (.ok out, sender) => (.ok (.send out), { o with phase := .sending sender })
      | (.error e, _) => (.error e, o)

/-! ## Responses -/

/-- Takes the response to the first request. -/
def onInit (o : Operation) (scope : SessionScope) (body : Bytes) :
    Except Failure Step × Operation :=
  match OperationInitResponse.decode body with
  | .error e => (.error (.message e), o)
  | .ok response =>
    if response.status.isFailure then (.error (.operationStatus response.status), o)
    else
      let o : Operation :=
        { o with etag := response.etag.text, resultHandle := response.resultHandle }
      if response.resultHandle = 0 then
        match append scope.maxReceive o.response response.payload with
        | (.ok (), arrived) => sendRemainder { o with response := arrived } scope
        | (.error e, arrived) => (.error e, { o with response := arrived })
      else o.sendRemainder scope

/-- Takes the acknowledgement of a chunk of the body. -/
def onAcknowledgement (o : Operation) (sender : Sender) (scope : SessionScope) (body : Bytes) :
    Except Failure Step × Operation :=
  match sender.onResponse body with
  | (result, sender, _) =>
    let o := { o with phase := .sending sender }
    match result with
    | .ok (.next out) => (.ok (.send out), o)
    | .ok .complete => o.collectResult scope
    | .error e => (.error e, o)

/-- Takes a chunk of the result. -/
def onChunk (o : Operation) (receiver : Receiver) (scope : SessionScope) (body : Bytes) :
    Except Failure Step × Operation :=
  match receiver.onResponse (sink scope.maxReceive) o.response body with
  | (result, receiver, response) =>
    let o := { o with phase := .receiving receiver, response }
    match result with
    | .ok (.next out) => (.ok (.send out), o)
    | .ok .complete => o.complete
    | .error e => (.error e, o)

/-- The JSON text of a result. -/
def decodeResult (o : Operation) (scope : SessionScope) (store : Store) (response : Bytes) :
    Except Failure String :=
  if response.isEmpty then .ok ""
  else do
    let dictionaries ← o.dictionaries store
    (scope.codec.decode response dictionaries).mapError .model

/-- Takes the response to the request to complete, and decodes the result. -/
def onComplete (o : Operation) (scope : SessionScope) (memory : DeviceMemory) (body : Bytes) :
    TaskResult Operation :=
  match OperationCompleteResponse.decode body with
  | .error e => (.error (.message e), o, memory)
  | .ok _ =>
    let emptied := { o with response := [] }
    match o.decodeResult scope memory.store o.response with
    | .error e => (.error e, emptied, memory)
    | .ok json =>
      let metadata :=
        if o.etag = "" then memory.metadata else memory.metadata.set (.etag o.etag)
      (.ok (.done (.operation { json, etag := o.etag, status := statusOk })),
        { emptied with etag := "" }, { memory with metadata })

/-- The result of a step that changes the operation only. -/
def keeping (memory : DeviceMemory) (result : Except Failure Step × Operation) :
    TaskResult Operation :=
  (result.1, result.2, memory)

/-- Takes one response. -/
def onResponse (o : Operation) (scope : SessionScope) (memory : DeviceMemory) (body : Bytes) :
    TaskResult Operation :=
  match o.phase with
  | .starting => keeping memory (o.onInit scope body)
  | .sending sender => keeping memory (o.onAcknowledgement sender scope body)
  | .receiving receiver => keeping memory (o.onChunk receiver scope body)
  | .completing => o.onComplete scope memory body

end Operation

end DeviceEnablement
