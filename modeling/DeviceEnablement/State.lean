/-
  The states of sessions and devices.
-/

namespace DeviceEnablement

/-- How far a session has come. -/
inductive SessionState
  | idle
  | waiting
  | operationFailed
  | timedOut
  | cancelled
  | completed
  deriving DecidableEq

namespace SessionState

/-- Every state. -/
def all : List SessionState := [idle, waiting, operationFailed, timedOut, cancelled, completed]

/-- The name of a state. -/
def name : SessionState → String
  | idle => "Idle"
  | waiting => "Waiting"
  | operationFailed => "OperationFailed"
  | timedOut => "TimedOut"
  | cancelled => "Cancelled"
  | completed => "Completed"

/-- Whether the session takes no further step. -/
def isTerminal : SessionState → Bool
  | idle | waiting => false
  | _ => true

/-- Whether the caller has given the session up. -/
def isAbandoned : SessionState → Bool
  | timedOut | cancelled => true
  | _ => false

end SessionState

/-- The state of a device. -/
inductive DeviceState
  | notReady
  | discovering
  | ready
  /-- Ready, but dictionaries are still being fetched. -/
  | busy
  | unreachable
  | disabled
  deriving DecidableEq

namespace DeviceState

/-- Every state. -/
def all : List DeviceState := [notReady, discovering, ready, busy, unreachable, disabled]

/-- The name of a state. -/
def name : DeviceState → String
  | notReady => "NotReady"
  | discovering => "Discovering"
  | ready => "Ready"
  | busy => "Busy"
  | unreachable => "Unreachable"
  | disabled => "Disabled"

/-- Whether operations can be started. -/
def acceptsOperations (state : DeviceState) : Bool := state = ready

end DeviceState

end DeviceEnablement
