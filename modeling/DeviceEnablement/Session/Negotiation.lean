/-
  Negotiation: first the parameters of the protocol, then those of the medium.
-/
import DeviceEnablement.Session.Step
import DeviceEnablement.Message.Response

namespace DeviceEnablement

/-- Which response a negotiation waits for. -/
inductive Negotiation
  | redfish
  | medium
  deriving DecidableEq

namespace Negotiation

/-- The first request, which offers what the controller supports. -/
def start (_ : Negotiation) (memory : DeviceMemory) : TaskResult Negotiation :=
  let request : NegotiateRedfishRequest :=
    { concurrency := memory.metadata.controllerConcurrency
      features := memory.metadata.controllerFeatures }
  (.ok (.send request.outgoing), redfish, memory)

/-- The metadata with what a device has told of itself. -/
def learn (m : Metadata) (response : NegotiateRedfishResponse) : Metadata :=
  ((((m.set (.deviceConcurrency response.concurrency)).set
    (.deviceCapabilities response.capabilities)).set
    (.deviceFeatures response.features)).set
    (.deviceSignature response.signature)).set
    (.deviceProvider response.provider.text)

/-- Takes the response to the first request, and offers the largest chunk. -/
def onRedfish (memory : DeviceMemory) (body : Bytes) : TaskResult Negotiation :=
  match NegotiateRedfishResponse.decode body with
  | .error e => (.error (.message e), redfish, memory)
  | .ok response =>
    let memory := { memory with metadata := learn memory.metadata response }
    let request : NegotiateMediumRequest := { maxChunk := memory.metadata.controllerMaxChunk }
    (.ok (.send request.outgoing), medium, memory)

/-- Takes the response to the second request. -/
def onMedium (memory : DeviceMemory) (body : Bytes) : TaskResult Negotiation :=
  match NegotiateMediumResponse.decode body with
  | .error e => (.error (.message e), medium, memory)
  | .ok response =>
    let metadata := memory.metadata.set (.deviceMaxChunk response.maxChunk)
    (.ok (.done .negotiated), medium, { memory with metadata })

/-- Takes one response. -/
def onResponse (phase : Negotiation) (memory : DeviceMemory) (body : Bytes) :
    TaskResult Negotiation :=
  match phase with
  | redfish => onRedfish memory body
  | medium => onMedium memory body

end Negotiation

end DeviceEnablement
