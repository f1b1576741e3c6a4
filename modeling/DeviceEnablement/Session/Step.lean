/-
  What a session is given, and what it wants after a step.

  A session never sends anything itself: each step yields the next request, the final output, or
  that the response came too late.  It may read the registry and use the codec (`SessionScope`), and
  may change the metadata and the dictionaries of its device (`DeviceMemory`).
-/
import DeviceEnablement.Message.Outgoing
import DeviceEnablement.Resource.Registry
import DeviceEnablement.Property.Codec
import DeviceEnablement.Dictionary.Store
import DeviceEnablement.Failure

namespace DeviceEnablement

/-- What a session may read. -/
structure SessionScope where
  registry : Registry
  codec : Codec
  /-- The most bytes that are accepted from the device, in one chunk and in a whole response. -/
  maxReceive : Nat

/-- What a session may change. -/
structure DeviceMemory where
  metadata : Metadata
  store : Store

/-- What a caller wants done. -/
structure OperationRequest where
  uri : String
  operation : OperationType
  /-- The JSON text of the request body. -/
  payload : Option String
  deriving DecidableEq

namespace OperationRequest

/-- A request to read a resource. -/
def read (uri : String) : OperationRequest := { uri, operation := .read, payload := none }

/-- A request to update a resource. -/
def update (uri payload : String) : OperationRequest :=
  { uri, operation := .update, payload := some payload }

/-- The request as JSON. -/
def toJson (request : OperationRequest) : Json :=
  .object
    [("uri", .string request.uri), ("operation", request.operation.toJson),
     ("payload", (request.payload.map Json.string).getD .null)]

end OperationRequest

/-- What a caller gets. -/
structure OperationResult where
  /-- The JSON text of the response body; empty if there was none. -/
  json : String
  etag : String
  status : UInt16
  deriving DecidableEq

/-- What a session ends with. -/
inductive SessionOutput
  | negotiated
  | dictionary (key : DictionaryKey)
  | operation (result : OperationResult)
  deriving DecidableEq

/-- What a session wants after a step. -/
inductive Step
  | send (request : Outgoing)
  | done (output : SessionOutput)
  /-- The response came after the session was given up. -/
  | discarded
  deriving DecidableEq

/-- What a step of a task yields: its result, the task, and what the session may change. -/
abbrev TaskResult (α : Type) : Type := Except Failure Step × α × DeviceMemory

end DeviceEnablement
