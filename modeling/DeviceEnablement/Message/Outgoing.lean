/-
  Requests on their way out: a command and a body, which still need an instance id and a header.
-/
import DeviceEnablement.Message.Header
import DeviceEnablement.Message.Request

namespace DeviceEnablement

/-- A request without its header. -/
structure Outgoing where
  command : Command
  body : Bytes
  deriving DecidableEq

namespace Outgoing

/-- The whole request. -/
def message (out : Outgoing) (instanceId : UInt8) : Except MessageError Bytes :=
  encodeRequest instanceId out.command out.body

end Outgoing

/-- The request on its way out. -/
def NegotiateRedfishRequest.outgoing (r : NegotiateRedfishRequest) : Outgoing :=
  ⟨.negotiateRedfishParameters, r.encode⟩

/-- The request on its way out. -/
def NegotiateMediumRequest.outgoing (r : NegotiateMediumRequest) : Outgoing :=
  ⟨.negotiateMediumParameters, r.encode⟩

/-- The request on its way out. -/
def GetSchemaDictionaryRequest.outgoing (r : GetSchemaDictionaryRequest) : Outgoing :=
  ⟨.getSchemaDictionary, r.encode⟩

/-- The request on its way out. -/
def OperationInitRequest.outgoing (r : OperationInitRequest) : Except MessageError Outgoing :=
  r.encode.map fun body => ⟨.operationInit, body⟩

/-- The request on its way out. -/
def OperationCompleteRequest.outgoing (r : OperationCompleteRequest) : Outgoing :=
  ⟨.operationComplete, r.encode⟩

/-- The request on its way out. -/
def MultipartSendRequest.outgoing (r : MultipartSendRequest) : Except MessageError Outgoing :=
  r.encode.map fun body => ⟨.multipartSend, body⟩

/-- The request on its way out. -/
def MultipartReceiveRequest.outgoing (r : MultipartReceiveRequest) : Outgoing :=
  ⟨.multipartReceive, r.encode⟩

end DeviceEnablement
