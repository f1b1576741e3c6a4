/-
  Receiving a payload from a device, chunk by chunk.

  The receiver asks for the first part under the handle it is given, and then for the next part
  under the handle that the last response names, up to the chunk that is flagged as the last one.
  It keeps no data: each chunk goes to a sink, which may refuse it.

  1. A chunk larger than `maxChunk` is refused and does not reach the sink.
  2. Whatever goes wrong ends the transfer and is told to the sink; a response that arrives when no
     transfer is in progress goes wrong as well.
  3. The check behind the last chunk is not compared with the data.
-/
import DeviceEnablement.Message.Response
import DeviceEnablement.Transfer.State

namespace DeviceEnablement

/-- Takes the chunks of a transfer into a state `σ`. -/
structure ChunkSink (σ : Type) where
  /-- Takes one chunk, the last one or not, or refuses it. -/
  data : σ → Bytes → Bool → Except Failure Unit × σ
  /-- Learns that the transfer has ended well, and how many bytes there were. -/
  completed : σ → Nat → σ
  /-- Learns that the transfer has failed. -/
  failed : σ → Failure → σ

/-- A transfer from a device. -/
structure Receiver where
  operationId : UInt16
  /-- The handle of the chunk to ask for. -/
  handle : UInt32
  /-- The size of the largest chunk that is accepted. -/
  maxChunk : Nat
  /-- The number of bytes that have arrived. -/
  received : Nat := 0
  state : TransferState := .idle
  deriving DecidableEq

namespace Receiver

variable {σ : Type}

/-- The request for a part under the current handle. -/
def request (r : Receiver) (operation : TransferOperation) : Outgoing :=
  MultipartReceiveRequest.outgoing
    { handle := r.handle, operationId := r.operationId, operation }

/-- Begins the transfer. -/
def start (r : Receiver) : Except Failure Outgoing × Receiver :=
  if r.state ≠ .idle then (.error (.transfer "receiver already started"), r)
  else if r.handle = 0 then (.error (.transfer "zero transfer handle"), { r with state := .failed })
  else
    let r := { r with state := .inProgress }
    (.ok (r.request .firstPart), r)

/-- Goes on after a chunk that the sink has taken. -/
def proceed (r : Receiver) (sink : ChunkSink σ) (s : σ) (response : MultipartReceiveResponse) :
    Except Failure Progress × Receiver × σ :=
  if response.flag.isEnd then
    (.ok .complete, { r with state := .complete }, sink.completed s r.received)
  else if response.nextHandle = 0 then
    (.error (.transfer "device returned a zero handle before the final chunk"), r, s)
  else
    let r := { r with handle := response.nextHandle }
    (.ok (.next (r.request .nextPart)), r, s)

/-- Takes the chunk of a response. -/
def accept (r : Receiver) (sink : ChunkSink σ) (s : σ) (response : MultipartReceiveResponse) :
    Except Failure Progress × Receiver × σ :=
  if r.maxChunk < response.data.length then
    (.error (.message (.payloadTooLarge response.data.length r.maxChunk)), r, s)
  else
    let r := { r with received := r.received + response.data.length }
    match sink.data s response.data response.flag.isEnd with
    | (.ok (), s) => r.proceed sink s response
    | (.error e, s) => (.error e, r, s)

/-- One step of the transfer, before a failure is recorded. -/
def advance (r : Receiver) (sink : ChunkSink σ) (s : σ) (body : Bytes) :
    Except Failure Progress × Receiver × σ :=
  if r.state ≠ .inProgress then
    (.error (.transfer "response without a transfer in progress"), r, s)
  else
    match MultipartReceiveResponse.decode body with
    | .ok response => r.accept sink s response
    | .error e => (.error (.message e), r, s)

/-- Takes one response. -/
def onResponse (r : Receiver) (sink : ChunkSink σ) (s : σ) (body : Bytes) :
    Except Failure Progress × Receiver × σ :=
  match r.advance sink s body with
  | (.ok progress, r, s) => (.ok progress, r, s)
  | (.error e, r, s) => (.error e, { r with state := .failed }, sink.failed s e)

end Receiver

/-! ## A log as sink -/

/-- What the sink of a transfer from a device learns. -/
inductive ReceiveEvent
  | chunk (data : Bytes) (last : Bool)
  /-- The transfer has ended well, after this many bytes. -/
  | completed (total : Nat)
  | failed (cause : Failure)
  deriving DecidableEq

/-- What a sink has learned.  Whether a chunk is taken is up to an oracle. -/
structure ChunkLog where
  /-- Why the chunk with this number is refused, if it is. -/
  refusal : Nat → Option Failure := fun _ => none
  /-- The number of chunks so far, refused ones included. -/
  offered : Nat := 0
  /-- What happened, the latest last; a refused chunk is left out. -/
  events : List ReceiveEvent := []

/-- Takes every chunk that the oracle does not refuse, and writes down what happens. -/
def ChunkLog.sink : ChunkSink ChunkLog where
  data log chunk last :=
    let next := { log with offered := log.offered + 1 }
    match log.refusal log.offered with
    | some failure => (.error failure, next)
    | none => (.ok (), { next with events := log.events ++ [.chunk chunk last] })
  completed log total := { log with events := log.events ++ [.completed total] }
  failed log cause := { log with events := log.events ++ [.failed cause] }

/-! ## A buffer as sink -/

/-- The chunks of a transfer, joined. -/
structure ChunkBuffer where
  data : Bytes := []
  completed : Bool := false
  failed : Bool := false
  deriving DecidableEq

/-- Takes every chunk and remembers how the transfer ended. -/
def ChunkBuffer.sink : ChunkSink ChunkBuffer where
  data buffer chunk _ := (.ok (), { buffer with data := buffer.data ++ chunk })
  completed buffer _ := { buffer with completed := true }
  failed buffer _ := { buffer with failed := true }

end DeviceEnablement
