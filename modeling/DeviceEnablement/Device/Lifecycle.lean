/-
  What can be asked of a device.

  1. `refresh` cancels what runs, forgets what was negotiated, builds the registry anew, reloads the
     dictionaries that are kept on disk, and starts a negotiation.
  2. `disable` cancels what runs and takes the device out of service.
  3. `startOperation` begins an operation on a device that is ready.
  4. `expire` and `cancel` give a session up.  As long as its request is outstanding the session is
     kept, so that the response is recognised as late.
  5. `handleResponse` takes a response, or the sentinel that there is none.

  Requests that are outstanding when a device is refreshed or disabled stay so: their instance ids
  are given back only when they are answered, and the answers have no other effect.
-/
import DeviceEnablement.Device.Queue
import DeviceEnablement.Resource.Dump

namespace DeviceEnablement.DeviceRun

/-! ## Cancelling -/

/-- Why the session ends for its caller, if it is an operation that still runs. -/
def cancelled? (state : SessionState) (id : SessionId) (session : Session) :
    Option OperationCompletion :=
  if session.task.isOperation && !session.state.isTerminal then
    some { session := id, result := .error (.sessionAborted state) }
  else none

/-- Ends every session, and begins a new generation. -/
def cancelAll (r : DeviceRun) (state : SessionState) : DeviceRun :=
  { r with
    completions := r.completions
      ++ r.device.sessions.entries.filterMap fun entry => cancelled? state entry.1 entry.2
    device := { r.device with
      sessions := {}
      waiting := []
      dictionaryQueue := []
      generation := r.device.generation + 1 } }

/-- Takes the device out of service. -/
def disable (r : DeviceRun) : DeviceRun :=
  { r.cancelAll .cancelled with device.state := .disabled }

/-! ## Refreshing -/

/-- Reads the annotation dictionary, if one is configured; the old one stays when that fails. -/
def loadAnnotations (r : DeviceRun) (setup : Setup) : DeviceRun :=
  match setup.config.storage.annotationDictionary with
  | none => r
  | some path =>
    match r.host.files.read path with
    | (content, files) =>
      { r with
        host.files := files
        device.memory.store := (r.device.memory.store.loadAnnotations path content).2 }

/-- Takes in the dictionaries that are kept on disk. -/
def loadPersisted (r : DeviceRun) : DeviceRun :=
  { r with device.memory.store := r.device.memory.store.loadPersisted.2 }

/-- The name of the file to which the registry is dumped. -/
def dumpName : String := "registry.json"

/-- Dumps the registry beside the dictionaries, if that is configured. -/
def dumpRegistry (r : DeviceRun) (setup : Setup) : DeviceRun :=
  if setup.config.storage.dumpRegistry then
    { r with device.memory.store.folder :=
        (r.device.registry.save r.device.memory.store.folder dumpName).2 }
  else r

/-- Starts a negotiation. -/
def discover (r : DeviceRun) (setup : Setup) : DeviceRun :=
  match { r with device.state := .discovering : DeviceRun }.startSession setup .negotiation with
  | (.ok _, r) => r
  | (.error _, r) => { r with device.state := .notReady }

/-- Builds the device anew from its records, and starts a negotiation. -/
def refresh (r : DeviceRun) (setup : Setup) : DeviceRun :=
  let r := r.cancelAll .cancelled
  let r := { r with device.memory.metadata := r.device.memory.metadata.clearNegotiated }
  match r.device.registry.reload r.device.payloads [] with
  | (.error _, registry) =>
    { r with device := { r.device with registry, state := .notReady } }
  | (.ok (), registry) =>
    let r := { r with device.registry := registry }
    (((r.loadAnnotations setup).loadPersisted).dumpRegistry setup).discover setup

/-! ## Operations -/

/-- Begins an operation; its result is reported later. -/
def startOperation (r : DeviceRun) (setup : Setup) (request : OperationRequest) :
    Except Failure SessionId × DeviceRun :=
  if !r.device.state.acceptsOperations then
    (.error (.deviceNotReady r.device.eid r.device.state), r)
  else if !r.device.supportedOperations.contains request.operation then
    (.error (.unsupportedOperation request.operation), r)
  else
    let id := r.device.nextOperationId
    let r := { r with device.nextOperationId := Device.operationIdAfter id }
    r.startSession setup (.operation request id)

/-- Gives a session up, unless it has ended. -/
def abandon (r : DeviceRun) (id : SessionId) (state : SessionState) : Bool × DeviceRun :=
  match r.device.sessions.get? id with
  | none => (false, r)
  | some session =>
    if session.state.isTerminal then (false, r)
    else
      let r := { r with device.waiting := r.device.waiting.filter fun entry => entry.1 ≠ id }
      if r.device.pending.values.any fun entry => entry.session = id then
        (true, r.keepSession id { session with state })
      else (true, r.dropSession id)

/-- Gives a session up because its time is over. -/
def expire (r : DeviceRun) (id : SessionId) : Bool × DeviceRun := r.abandon id .timedOut

/-- Gives a session up because its caller wants so. -/
def cancel (r : DeviceRun) (id : SessionId) : Bool × DeviceRun := r.abandon id .cancelled

/-! ## Responses -/

/-- The body of a response, if there is one and it answers the request. -/
def bodyOf (eid instanceId : UInt8) (command : Command) (message : Option Bytes) :
    Except Failure Bytes :=
  match message with
  | none | some [] => .error (.noResponse eid)
  | some message => (responseBody message instanceId command).mapError .message

/-- Gives the body of a response, or the failure that there is none, to a session. -/
def deliver (r : DeviceRun) (setup : Setup) (id : SessionId) (session : Session)
    (body : Except Failure Bytes) : DeviceRun :=
  match body with
  | .error e => r.advance setup id session (.error e)
  | .ok body =>
    match session.onResponse (r.device.scope setup) r.device.memory body with
    | (result, session, memory) =>
      { r with device.memory := memory : DeviceRun }.advance setup id session result

/-- Does what follows from the answer to a request. -/
def settle (r : DeviceRun) (setup : Setup) (instanceId : UInt8) (request : PendingRequest)
    (message : Option Bytes) : DeviceRun :=
  if request.generation ≠ r.device.generation then r
  else
    match r.device.sessions.get? request.session with
    | none => r
    | some session =>
      if session.state.isAbandoned then r.dropSession request.session
      else
        r.deliver setup request.session session
          (bodyOf r.device.eid instanceId request.command message)

/-- Takes the answer to the request with this instance id: a response, or none.  An id without an
    outstanding request is ignored. -/
def handleResponse (r : DeviceRun) (setup : Setup) (instanceId : UInt8)
    (message : Option Bytes) : DeviceRun :=
  match r.device.pending.get? instanceId with
  | none => r
  | some request =>
    let r := { r with
      device.pending := r.device.pending.erase instanceId
      host.ids := r.host.ids.free r.device.eid instanceId }
    (r.settle setup instanceId request message).pump setup

/-- Replaces the records from which the next refresh builds the registry. -/
def setPayloads (r : DeviceRun) (payloads : List Bytes) : DeviceRun :=
  { r with device.payloads := payloads }

end DeviceEnablement.DeviceRun
