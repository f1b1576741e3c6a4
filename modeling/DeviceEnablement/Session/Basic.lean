/-
  Sessions: negotiations, downloads and operations, each with a state.

  1. A session can be started only once, and takes responses only while it waits for one.
  2. A response that arrives after the session was given up is discarded.
  3. A session that yields its output is completed; a step that fails leaves the state to its owner.
-/
import DeviceEnablement.Session.Negotiation
import DeviceEnablement.Session.Download
import DeviceEnablement.Session.Operation

namespace DeviceEnablement

/-- The number of a session within its device. -/
structure SessionId where
  value : Nat
  deriving DecidableEq

/-- The text of a session's number. -/
def SessionId.text (id : SessionId) : String := s!"#{id.value}"

/-- What a session does. -/
inductive SessionTask
  | negotiation (phase : Negotiation)
  | download (download : Download)
  | operation (operation : Operation)
  deriving DecidableEq

namespace SessionTask

/-- Whether the task is a negotiation. -/
def isNegotiation : SessionTask → Bool
  | negotiation _ => true
  | _ => false

/-- Whether the task is a download. -/
def isDownload : SessionTask → Bool
  | download _ => true
  | _ => false

/-- Whether the task is an operation. -/
def isOperation : SessionTask → Bool
  | operation _ => true
  | _ => false

/-- The kind of a task. -/
def kind : SessionTask → String
  | negotiation _ => "discovery"
  | download _ => "dictionary"
  | operation _ => "operation"

/-- The first request of a task. -/
def start (task : SessionTask) (scope : SessionScope) (memory : DeviceMemory) :
    TaskResult SessionTask :=
  match task with
  | negotiation phase =>
    match phase.start memory with
    | (result, phase, memory) => (result, negotiation phase, memory)
  | download d =>
    match d.start memory with
    | (result, d, memory) => (result, download d, memory)
  | operation o =>
    match o.start scope memory with
    | (result, o, memory) => (result, operation o, memory)

/-- Takes one response. -/
def onResponse (task : SessionTask) (scope : SessionScope) (memory : DeviceMemory)
    (body : Bytes) : TaskResult SessionTask :=
  match task with
  | negotiation phase =>
    match phase.onResponse memory body with
    | (result, phase, memory) => (result, negotiation phase, memory)
  | download d =>
    match d.onResponse scope memory body with
    | (result, d, memory) => (result, download d, memory)
  | operation o =>
    match o.onResponse scope memory body with
    | (result, o, memory) => (result, operation o, memory)

end SessionTask

/-- A session. -/
structure Session where
  state : SessionState := .idle
  task : SessionTask
  deriving DecidableEq

namespace Session

/-- A negotiation that has not begun. -/
def negotiation : Session := { task := .negotiation .redfish }

/-- A download that has not begun. -/
def download (key : DictionaryKey) : Session := { task := .download { key } }

/-- An operation that has not begun. -/
def operation (request : OperationRequest) (operationId : UInt16) : Session :=
  { task := .operation { request, operationId } }

/-- The kind of a session. -/
def kind (s : Session) : String := s.task.kind

/-- The state behind a step that began in `state`. -/
def stateAfter (state : SessionState) : Except Failure Step → SessionState
  | .ok (.done _) => .completed
  | _ => state

/-- Begins a session; on success it waits for a response. -/
def start (s : Session) (scope : SessionScope) (memory : DeviceMemory) : TaskResult Session :=
  if s.state ≠ .idle then (.error (.sessionAborted s.state), s, memory)
  else
    match s.task.start scope memory with
    | (.ok step, task, memory) => (.ok step, { state := .waiting, task }, memory)
    | (.error e, task, memory) => (.error e, { s with task }, memory)

/-- Takes one response. -/
def onResponse (s : Session) (scope : SessionScope) (memory : DeviceMemory) (body : Bytes) :
    TaskResult Session :=
  if s.state.isAbandoned then (.ok .discarded, s, memory)
  else if s.state ≠ .waiting then (.error (.sessionAborted s.state), s, memory)
  else
    match s.task.onResponse scope memory body with
    | (result, task, memory) => (result, { state := stateAfter s.state result, task }, memory)

end Session

end DeviceEnablement
