/-
  How far a transfer has come, and what it wants next.
-/
import DeviceEnablement.Message.Outgoing
import DeviceEnablement.Failure

namespace DeviceEnablement

/-- How far a transfer has come, in either direction. -/
inductive TransferState
  | idle
  | inProgress
  | complete
  | failed
  deriving DecidableEq

namespace TransferState

/-- The name of a state. -/
def name : TransferState → String
  | idle => "Idle"
  | inProgress => "InProgress"
  | complete => "Complete"
  | failed => "Failed"

/-- Whether the transfer takes no further step. -/
def isTerminal : TransferState → Bool
  | complete | failed => true
  | _ => false

end TransferState

/-- What a transfer wants after a response. -/
inductive Progress
  /-- The next request is to be sent. -/
  | next (request : Outgoing)
  /-- The transfer has ended. -/
  | complete
  deriving DecidableEq

end DeviceEnablement
