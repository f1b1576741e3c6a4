/-
  Why a session, a device or the manager fails.

  A failure wraps what is wrong with a message, a dictionary or the model of the device, or has a
  cause of its own.  For callers, every failure is of one of eleven kinds, and may or may not go
  away when the same is tried again.
-/
import DeviceEnablement.State
import DeviceEnablement.ModelError
import DeviceEnablement.Dictionary.Basic

namespace DeviceEnablement

/-- The kind of a failure, for callers. -/
inductive FailureKind
  | badResponse
  | deviceError
  | deviceNotReady
  | resourceNotFound
  | preconditionFailed
  | badRequest
  | unsupported
  | resourceExhausted
  | timeout
  | aborted
  | internalError
  deriving DecidableEq

/-- The name of a kind. -/
def FailureKind.name : FailureKind → String
  | badResponse => "BAD_RESPONSE"
  | deviceError => "DEVICE_ERROR"
  | deviceNotReady => "DEVICE_NOT_READY"
  | resourceNotFound => "RESOURCE_NOT_FOUND"
  | preconditionFailed => "PRECONDITION_FAILED"
  | badRequest => "BAD_REQUEST"
  | unsupported => "UNSUPPORTED"
  | resourceExhausted => "RESOURCE_EXHAUSTED"
  | timeout => "TIMEOUT"
  | aborted => "ABORTED"
  | internalError => "INTERNAL_ERROR"

/-- Why something fails. -/
inductive Failure
  | message (cause : MessageError)
  | store (cause : StoreError)
  | model (cause : ModelError)
  /-- Every instance id of the endpoint is in use. -/
  | instanceIdsExhausted (eid : UInt8)
  /-- A request cannot be sent. -/
  | transport (reason : String)
  | noResponse (eid : UInt8)
  | deviceNotFound (eid : UInt8)
  | deviceNotReady (eid : UInt8) (state : DeviceState)
  | unsupportedOperation (operation : OperationType)
  | invalidRequest (reason : String)
  | dictionaryMissing (key : DictionaryKey)
  | annotationsMissing
  /-- The device has given the operation up. -/
  | operationStatus (status : OperationStatus)
  | transfer (reason : String)
  | sessionAborted (state : SessionState)
  | timedOut
  | shuttingDown
  deriving DecidableEq

namespace Failure

/-- The wording of a failure. -/
def text : Failure → String
  | message cause => s!"protocol error: {cause.message}"
  | store cause => s!"storage error: {cause.message}"
  | model cause => s!"core error: {cause.message}"
  | instanceIdsExhausted eid => s!"no free instance id for EID {eid}"
  | transport reason => s!"transport error: {reason}"
  | noResponse eid => s!"no response from EID {eid}"
  | deviceNotFound eid => s!"unknown endpoint {eid}"
  | deviceNotReady eid state => s!"device at EID {eid} is {state.name}"
  | unsupportedOperation operation => s!"operation {operation.name} not supported by device"
  | invalidRequest reason => s!"invalid request: {reason}"
  | dictionaryMissing key => s!"schema dictionary {key.text} not available"
  | annotationsMissing => "annotation dictionary not available"
  | operationStatus status => s!"device reported operation status {status.name}"
  | transfer reason => s!"multipart transfer failed: {reason}"
  | sessionAborted state => s!"session ended in state {state.name}"
  | timedOut => "operation timed out"
  | shuttingDown => "manager shutting down"

/-- The completion code that the device gave, if that is the failure. -/
def completionCode? : Failure → Option CompletionCode
  | message cause => cause.completionCode?
  | _ => none

/-- The kind of a fault of the model. -/
def kindOfModel : ModelError → FailureKind
  | .resourceNotFound _ => .resourceNotFound
  | .missingMetadata _ => .preconditionFailed
  | .invalidPayload _ => .badRequest
  | .json => .badRequest
  | .badRecord _ _ => .badResponse
  | .encode _ | .decode _ | .io _ => .internalError

/-- The kind of a failure. -/
def kind : Failure → FailureKind
  | message cause => if cause.completionCode?.isSome then .deviceError else .badResponse
  | store _ => .internalError
  | model cause => kindOfModel cause
  | instanceIdsExhausted _ => .resourceExhausted
  | transport _ => .internalError
  | noResponse _ => .timeout
  | deviceNotFound _ => .resourceNotFound
  | deviceNotReady _ _ => .deviceNotReady
  | unsupportedOperation _ => .unsupported
  | invalidRequest _ => .badRequest
  | dictionaryMissing _ => .preconditionFailed
  | annotationsMissing => .preconditionFailed
  | operationStatus _ => .deviceError
  | transfer _ => .badResponse
  | sessionAborted _ => .aborted
  | timedOut => .timeout
  | shuttingDown => .aborted

/-- Whether the same may succeed later.  If the device gave a completion code, the code decides. -/
def isRetryable (failure : Failure) : Bool :=
  match failure.completionCode? with
  | some code => code.isRetryable
  | none =>
    match failure.kind, failure with
    | .deviceNotReady, _ => true
    | .resourceExhausted, _ => true
    | .timeout, _ => true
    | _, dictionaryMissing _ => true
    | _, _ => false

end Failure

end DeviceEnablement
