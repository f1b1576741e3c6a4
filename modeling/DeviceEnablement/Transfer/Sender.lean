/-
  Sending a payload to a device, chunk by chunk.

  The sender names the handles: each chunk names the handle of the next one, and the last one names
  0.  Bytes leave the payload only when the device has acknowledged the chunk that carried them.

  1. The chunks are `maxChunk` bytes long, the last one at most that; only the last one carries the
     check, which is over the whole payload.
  2. The device may abort at any time.  It may not say that the transfer is complete as long as
     bytes are left.
  3. What happens is told as a list of events.
-/
import DeviceEnablement.Message.Response
import DeviceEnablement.Transfer.State
import DeviceEnablement.Checksum

namespace DeviceEnablement

/-- What an observer of a transfer to a device learns. -/
inductive SendEvent
  /-- A chunk was acknowledged: how many bytes it carried, and how many are left. -/
  | acknowledged (sent remaining : Nat)
  /-- The transfer has ended well, after this many bytes. -/
  | completed (total : Nat)
  | failed (cause : Failure)
  deriving DecidableEq

/-- A transfer to a device. -/
structure Sender where
  operationId : UInt16
  /-- The handle of the chunk in flight. -/
  handle : UInt32
  /-- The handle that the chunk in flight names as the next one. -/
  nextHandle : UInt32 := 0
  /-- What the device has not acknowledged yet. -/
  pending : Bytes
  maxChunk : Nat
  checksum : UInt32
  /-- The length of the whole payload. -/
  total : Nat
  /-- Whether the chunk in flight is the first one. -/
  first : Bool := true
  /-- The length of the chunk in flight. -/
  inFlight : Nat := 0
  state : TransferState := .idle
  deriving DecidableEq

namespace Sender

/-- The sender of a payload, which may not be empty. -/
def new (handle : UInt32) (operationId : UInt16) (payload : Bytes) (maxChunk : Nat) :
    Except Failure Sender :=
  if handle = 0 then .error (.transfer "zero transfer handle")
  else if maxChunk = 0 then .error (.transfer "zero chunk size")
  else if payload.isEmpty then .error (.transfer "nothing to send")
  else .ok
    { operationId, handle, pending := payload, maxChunk, checksum := Checksum.transfer payload,
      total := payload.length }

/-- The number of bytes that the device has not acknowledged yet. -/
def remaining (s : Sender) : Nat := s.pending.length

/-- The handle after `handle`; 0 is left out. -/
def successor (handle : UInt32) : UInt32 := max (handle + 1) 1

/-- The next chunk. -/
def chunk (s : Sender) : Except Failure Outgoing × Sender :=
  let size := min s.pending.length s.maxChunk
  let last := size = s.pending.length
  let s := { s with nextHandle := if last then 0 else successor s.handle, inFlight := size }
  let request : MultipartSendRequest :=
    { handle := s.handle
      operationId := s.operationId
      flag := .ofPlace s.first last
      nextHandle := s.nextHandle
      data := s.pending.take size
      checksum := if last then some s.checksum else none }
  (request.outgoing.mapError .message, s)

/-- Begins the transfer. -/
def start (s : Sender) : Except Failure Outgoing × Sender :=
  if s.state ≠ .idle then (.error (.transfer "sender already started"), s)
  else chunk { s with state := .inProgress }

/-- The sender once the device has acknowledged the chunk in flight. -/
def acknowledged (s : Sender) : Sender :=
  { s with pending := s.pending.drop s.inFlight, inFlight := 0, first := false }

/-- Goes on once the chunk in flight is acknowledged. -/
def proceed (s : Sender) (operation : TransferOperation) :
    Except Failure Progress × Sender × List SendEvent :=
  if s.pending.isEmpty then
    (.ok .complete, { s with state := .complete }, [.completed s.total])
  else if operation = .complete then
    let cause := s!"device completed the transfer with {s.pending.length} bytes unsent"
    (.error (.transfer cause), s, [])
  else
    match chunk { s with handle := s.nextHandle } with
    | (.ok out, s) => (.ok (.next out), s, [])
    | (.error e, s) => (.error e, s, [])

/-- One step of the transfer, before a failure is recorded. -/
def advance (s : Sender) (body : Bytes) : Except Failure Progress × Sender × List SendEvent :=
  if s.state ≠ .inProgress then
    (.error (.transfer "acknowledgement without a transfer in progress"), s, [])
  else
    match MultipartSendResponse.decode body with
    | .error e => (.error (.message e), s, [])
    | .ok response =>
      if response.operation = .abort then
        (.error (.transfer "device aborted the transfer"), s, [])
      else
        let event := SendEvent.acknowledged s.inFlight s.acknowledged.remaining
        match s.acknowledged.proceed response.operation with
        | (result, s, events) => (result, s, event :: events)

/-- Takes one response. -/
def onResponse (s : Sender) (body : Bytes) : Except Failure Progress × Sender × List SendEvent :=
  match s.advance body with
  | (.ok progress, s, events) => (.ok progress, s, events)
  | (.error e, s, events) => (.error e, { s with state := .failed }, events ++ [.failed e])

end Sender

end DeviceEnablement
