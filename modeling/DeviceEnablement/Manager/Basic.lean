/-
  The manager: all devices behind one door.

  1. The manager is told what happens, one event after the other (`step`).  At each endpoint it has
     at most one device.
  2. A device that is found again is refreshed; one with another UUID takes the place of the old
     one, which is disabled.  The instance ids of the old one stay in use.
  3. A caller of `perform` waits under the endpoint and the session of its operation, until the
     operation ends, expires, or the manager stops.  What callers are told is a list of notices.
  4. A removed device is disabled, and the instance ids of its endpoint are released.  `stop` does
     so with every device; whoever still waits is then told that the manager is shutting down.

  The folders of the devices stay on disk when devices come and go.  Two devices with one UUID share
  a folder: each call of a device begins with the folder as the call before has left it (`work`).
-/
import DeviceEnablement.Device.Lifecycle

namespace DeviceEnablement

/-- The number of a call. -/
structure CallId where
  value : Nat
  deriving DecidableEq

/-- What the manager is told. -/
inductive ManagerEvent
  /-- There is a device at an endpoint. -/
  | discovered (eid : UInt8) (uuid : Uuid) (tid : UInt8) (payloads : List Bytes)
  /-- A request was answered, or there will be no answer. -/
  | response (eid instanceId : UInt8) (message : Option Bytes)
  /-- A caller wants an operation performed. -/
  | perform (eid : UInt8) (request : OperationRequest) (call : CallId)
  /-- The caller of an operation no longer waits. -/
  | expire (eid : UInt8) (session : SessionId)
  /-- There is no device at an endpoint any more. -/
  | remove (eid : UInt8)
  | shutdown
  deriving DecidableEq

/-- What the manager tells the caller of an operation. -/
inductive Notice
  /-- The operation runs in this session. -/
  | started (call : CallId) (session : SessionId)
  | answered (call : CallId) (result : Except Failure OperationResult)
  /-- There will be no answer. -/
  | forgotten (call : CallId)

/-- The devices, and who waits for them. -/
structure Manager where
  devices : Table UInt8 Device := {}
  /-- The calls that wait for an operation, by its endpoint and session. -/
  waiters : Table (UInt8 × SessionId) CallId := {}
  /-- The folders of all devices that there ever were. -/
  disk : Table Uuid Folder := {}
  host : Host := {}
  /-- Whether the manager takes no more events. -/
  stopped : Bool := false

namespace Manager

/-! ## Devices at work -/

/-- The folder that is kept for a UUID. -/
def folder (m : Manager) (uuid : Uuid) : Folder := (m.disk.get? uuid).getD {}

/-- The device at an endpoint. -/
def device (m : Manager) (eid : UInt8) : Except Failure Device :=
  if m.stopped then .error .shuttingDown
  else
    match m.devices.get? eid with
    | some device => .ok device
    | none => .error (.deviceNotFound eid)

/-- Takes a device to the host and to its folder. -/
def wake (m : Manager) (device : Device) : DeviceRun :=
  { device := { device with memory.store.folder := m.folder device.uuid }, host := m.host }

/-- Keeps what a device at work has left behind, without the device. -/
def settle (m : Manager) (r : DeviceRun) : Manager :=
  { m with host := r.host, disk := m.disk.insert r.device.uuid r.device.memory.store.folder }

/-- Keeps a device that was at work. -/
def keep (m : Manager) (r : DeviceRun) : Manager :=
  { m.settle r with devices := m.devices.insert r.device.eid r.device }

/-! ## Callers -/

/-- Tells the caller of an operation how it has ended, if one waits. -/
def answer (m : Manager) (eid : UInt8) (completion : OperationCompletion) :
    List Notice × Manager :=
  match m.waiters.get? (eid, completion.session) with
  | some call =>
    ([.answered call completion.result],
      { m with waiters := m.waiters.erase (eid, completion.session) })
  | none => ([], m)

/-- Tells the callers of operations how they have ended. -/
def deliver (m : Manager) (eid : UInt8) :
    List OperationCompletion → List Notice × Manager
  | [] => ([], m)
  | completion :: rest =>
    match m.answer eid completion with
    | (told, m) =>
      match m.deliver eid rest with
      | (toldRest, m) => (told ++ toldRest, m)

/-- Lets the call that waits under a key wait no more, without an answer. -/
def forget (m : Manager) (key : UInt8 × SessionId) : List Notice × Manager :=
  match m.waiters.get? key with
  | some call => ([.forgotten call], { m with waiters := m.waiters.erase key })
  | none => ([], m)

/-- Lets a call wait under a key, in place of the one that waited there. -/
def await (m : Manager) (key : UInt8 × SessionId) (call : CallId) : List Notice × Manager :=
  match m.forget key with
  | (told, m) => (.started call key.2 :: told, { m with waiters := m.waiters.insert key call })

/-! ## Events -/

/-- Takes in a device that is new at its endpoint. -/
def welcome (m : Manager) (setup : Setup) (eid : UInt8) (uuid : Uuid) (tid : UInt8)
    (payloads : List Bytes) (before : List OperationCompletion) : List Notice × Manager :=
  let r := (m.wake (.new setup eid tid uuid payloads (m.folder uuid))).refresh setup
  (m.keep r).deliver eid (before ++ r.completions)

/-- A device was found at an endpoint. -/
def discovered (m : Manager) (setup : Setup) (eid : UInt8) (uuid : Uuid) (tid : UInt8)
    (payloads : List Bytes) : List Notice × Manager :=
  match m.devices.get? eid with
  | none => m.welcome setup eid uuid tid payloads []
  | some device =>
    if device.uuid = uuid then
      let r := ((m.wake device).setPayloads payloads).refresh setup
      (m.keep r).deliver eid r.completions
    else
      let r := (m.wake device).disable
      (m.settle r).welcome setup eid uuid tid payloads r.completions

/-- A request to a device was answered; if the device is not known nothing happens. -/
def response (m : Manager) (setup : Setup) (eid instanceId : UInt8) (message : Option Bytes) :
    List Notice × Manager :=
  match m.devices.get? eid with
  | none => ([], m)
  | some device =>
    let r := (m.wake device).handleResponse setup instanceId message
    (m.keep r).deliver eid r.completions

/-- A caller wants an operation performed.  It is answered at once when that cannot be begun. -/
def perform (m : Manager) (setup : Setup) (eid : UInt8) (request : OperationRequest)
    (call : CallId) : List Notice × Manager :=
  match m.devices.get? eid with
  | none => ([.answered call (.error (.deviceNotFound eid))], m)
  | some device =>
    match (m.wake device).startOperation setup request with
    | (.ok session, r) => (m.keep r).await (eid, session) call
    | (.error e, r) => ([.answered call (.error e)], m.keep r)

/-- The caller of an operation no longer waits: the operation is given up. -/
def expire (m : Manager) (eid : UInt8) (session : SessionId) : List Notice × Manager :=
  match m.forget (eid, session) with
  | (told, m) =>
    match m.devices.get? eid with
    | none => (told, m)
    | some device => (told, m.keep ((m.wake device).expire session).2)

/-- Takes a device out of service, and releases the instance ids of its endpoint. -/
def retire (m : Manager) (eid : UInt8) (device : Device) : List Notice × Manager :=
  let r := (m.wake device).disable
  match (m.settle r).deliver eid r.completions with
  | (told, m) => (told, { m with
      devices := m.devices.erase eid
      host.ids := m.host.ids.release eid })

/-- There is no device at an endpoint any more. -/
def remove (m : Manager) (eid : UInt8) : List Notice × Manager :=
  match m.devices.get? eid with
  | none => ([], m)
  | some device => m.retire eid device

/-- Takes devices out of service, one after the other. -/
def retireAll (m : Manager) : List (UInt8 × Device) → List Notice × Manager
  | [] => ([], m)
  | (eid, device) :: rest =>
    match m.retire eid device with
    | (told, m) =>
      match m.retireAll rest with
      | (toldRest, m) => (told ++ toldRest, m)

/-- Takes every device out of service, and lets nobody wait any longer. -/
def stop (m : Manager) : List Notice × Manager :=
  match m.retireAll m.devices.entries with
  | (told, m) =>
    (told ++ m.waiters.values.map fun call => .answered call (.error .shuttingDown),
      { m with waiters := {}, stopped := true })

/-- What happens to an event that the manager no longer takes. -/
def drop : ManagerEvent → List Notice
  | .perform _ _ call => [.forgotten call]
  | _ => []

/-- Takes one event. -/
def step (m : Manager) (setup : Setup) (event : ManagerEvent) : List Notice × Manager :=
  if m.stopped then (drop event, m)
  else
    match event with
    | .discovered eid uuid tid payloads => m.discovered setup eid uuid tid payloads
    | .response eid instanceId message => m.response setup eid instanceId message
    | .perform eid request call => m.perform setup eid request call
    | .expire eid session => m.expire eid session
    | .remove eid => m.remove eid
    | .shutdown => m.stop

/-- Takes events, one after the other. -/
def run (m : Manager) (setup : Setup) : List ManagerEvent → List Notice × Manager
  | [] => ([], m)
  | event :: rest =>
    match m.step setup event with
    | (told, m) =>
      match m.run setup rest with
      | (toldRest, m) => (told ++ toldRest, m)

end Manager

end DeviceEnablement
