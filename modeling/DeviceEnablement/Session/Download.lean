/-
  The download of a schema dictionary into the store.

  1. A dictionary that has arrived in part is forgotten before the download begins.
  2. The chunks go to the store; the last one completes the dictionary.  The last one may be empty.
  3. A dictionary whose file cannot be written is kept in memory all the same.
  4. When the transfer fails, what has arrived is forgotten.
-/
import DeviceEnablement.Session.Step
import DeviceEnablement.Transfer.Receiver

namespace DeviceEnablement

/-- What a download waits for. -/
inductive DownloadPhase
  /-- Where the dictionary can be fetched. -/
  | request
  /-- The next chunk. -/
  | receiving (receiver : Receiver)
  deriving DecidableEq

/-- A download. -/
structure Download where
  key : DictionaryKey
  phase : DownloadPhase := .request
  deriving DecidableEq

namespace Download

/-- The operation id of a transfer that belongs to no operation. -/
def noOperation : UInt16 := 0

/-- The request for the place of the dictionary. -/
def request (d : Download) : Outgoing :=
  GetSchemaDictionaryRequest.outgoing
    { resourceId := d.key.resourceId, schemaClass := d.key.schemaClass }

/-- Whether the dictionary has arrived in part. -/
def isPartial (store : Store) (key : DictionaryKey) : Bool :=
  (store.get? key).any fun d => !d.complete

/-- The first request. -/
def start (d : Download) (memory : DeviceMemory) : TaskResult Download :=
  if isPartial memory.store d.key then
    match memory.store.reset d.key with
    | (.ok (), store) => (.ok (.send d.request), d, { memory with store })
    | (.error e, store) => (.error (.store e), d, { memory with store })
  else (.ok (.send d.request), d, memory)

/-! ## The store as sink -/

/-- Puts one chunk into the store. -/
def store (key : DictionaryKey) (store : Store) (chunk : Bytes) (final : Bool) :
    Except StoreError Unit × Store :=
  if chunk.isEmpty then if final then store.complete key else (.ok (), store)
  else store.addChunk key chunk false final

/-- Puts one chunk into the store; no error is left if the last one has completed the dictionary. -/
def storeChunk (key : DictionaryKey) (s : Store) (chunk : Bytes) (final : Bool) :
    Except Failure Unit × Store :=
  match store key s chunk final with
  | (.ok (), s) => (.ok (), s)
  | (.error e, s) =>
    if final && s.containsComplete key then (.ok (), s) else (.error (.store e), s)

/-- The store as sink of a transfer. -/
def sink (key : DictionaryKey) : ChunkSink Store where
  data := storeChunk key
  completed s _ := s
  failed s _ := (s.reset key).2

/-! ## Responses -/

/-- Learns where the dictionary can be fetched, and begins the transfer. -/
def onPlace (d : Download) (scope : SessionScope) (memory : DeviceMemory) (body : Bytes) :
    TaskResult Download :=
  match GetSchemaDictionaryResponse.decode body with
  | .error e => (.error (.message e), d, memory)
  | .ok response =>
    let receiver : Receiver :=
      { operationId := noOperation, handle := response.handle, maxChunk := scope.maxReceive }
    match receiver.start with
    | (.ok out, receiver) => (.ok (.send out), { d with phase := .receiving receiver }, memory)
    | (.error e, _) => (.error e, d, memory)

/-- Takes one chunk. -/
def onChunk (d : Download) (receiver : Receiver) (memory : DeviceMemory) (body : Bytes) :
    TaskResult Download :=
  match receiver.onResponse (sink d.key) memory.store body with
  | (result, receiver, store) =>
    let d := { d with phase := .receiving receiver }
    let memory := { memory with store }
    match result with
    | .ok (.next out) => (.ok (.send out), d, memory)
    | .ok .complete => (.ok (.done (.dictionary d.key)), d, memory)
    | .error e => (.error e, d, memory)

/-- Takes one response. -/
def onResponse (d : Download) (scope : SessionScope) (memory : DeviceMemory) (body : Bytes) :
    TaskResult Download :=
  match d.phase with
  | .request => d.onPlace scope memory body
  | .receiving receiver => d.onChunk receiver memory body

end Download

end DeviceEnablement
