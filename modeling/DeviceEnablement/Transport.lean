/-
  The way out to the endpoints.

  A transport takes whole requests.  Whether it takes one is not up to the sender: an oracle says,
  for each attempt, why the request is refused.  A request that is taken is answered exactly once,
  by a response or by the sentinel that there is none.
-/
import DeviceEnablement.Failure

namespace DeviceEnablement

/-- A request as the transport takes it. -/
structure SentRequest where
  eid : UInt8
  instanceId : UInt8
  message : Bytes
  deriving DecidableEq

/-- The way out to the endpoints. -/
structure Transport where
  /-- Why the attempt with this number to send a request is refused, if it is. -/
  refusal : Nat → SentRequest → Option Failure := fun _ _ => none
  /-- The number of attempts so far. -/
  attempts : Nat := 0
  /-- The requests that were taken, the last one in front. -/
  sent : List SentRequest := []

namespace Transport

/-- Tries to send a request. -/
def send (t : Transport) (request : SentRequest) : Except Failure Unit × Transport :=
  let tried := { t with attempts := t.attempts + 1 }
  match t.refusal t.attempts request with
  | some failure => (.error failure, tried)
  | none => (.ok (), { tried with sent := request :: t.sent })

end Transport

end DeviceEnablement
