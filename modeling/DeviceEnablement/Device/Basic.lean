/-
  A device and what it works with.

  A `Device` is one endpoint: its resources, its metadata and dictionaries, its sessions, and the
  requests that are outstanding or wait to be sent.  `Setup` never changes; a `Host` is shared by
  all devices.  A `DeviceRun` is a device at work: the device, its host, and the operations that
  have ended so far.
-/
import DeviceEnablement.Config.Basic
import DeviceEnablement.Files.Local
import DeviceEnablement.InstanceIds
import DeviceEnablement.Session.Basic
import DeviceEnablement.Transport

namespace DeviceEnablement

/-- What is given once and never changes. -/
structure Setup where
  config : Config
  codec : Codec

/-- What all devices share. -/
structure Host where
  ids : InstanceIds := {}
  transport : Transport := {}
  files : LocalFiles := {}

/-- How an operation has ended. -/
structure OperationCompletion where
  session : SessionId
  result : Except Failure OperationResult

/-- A request that waits for its response. -/
structure PendingRequest where
  session : SessionId
  /-- The generation of the device when the request was sent. -/
  generation : Nat
  command : Command
  deriving DecidableEq

/-- One endpoint. -/
structure Device where
  eid : UInt8
  tid : UInt8
  uuid : Uuid
  state : DeviceState := .notReady
  memory : DeviceMemory
  registry : Registry := {}
  /-- The records from which the registry is built. -/
  payloads : List Bytes
  sessions : Table SessionId Session := {}
  /-- The outstanding requests, by their instance ids. -/
  pending : Table UInt8 PendingRequest := {}
  /-- The requests that are held back, the oldest in front. -/
  waiting : List (SessionId × Outgoing) := []
  /-- The dictionaries that are still to be fetched, one after the other. -/
  dictionaryQueue : List DictionaryKey := []
  /-- Grows with each refresh; the requests of older generations are stale. -/
  generation : Nat := 0
  nextSession : Nat := 1
  nextOperationId : UInt16 := 1

namespace Device

/-- The device that was just found at an endpoint, with the folder that is kept for it. -/
def new (setup : Setup) (eid tid : UInt8) (uuid : Uuid) (payloads : List Bytes) (folder : Folder) :
    Device :=
  { eid, tid, uuid, payloads
    memory := { metadata := setup.config.metadata, store := { uuid, folder } } }

/-- The number of outstanding requests. -/
def inFlight (d : Device) : Nat := d.pending.size

/-- The number of requests that are held back. -/
def queued (d : Device) : Nat := d.waiting.length

/-- The state of a session, as long as the device has it. -/
def sessionState? (d : Device) (id : SessionId) : Option SessionState :=
  (d.sessions.get? id).map (·.state)

/-- Whether a session may still take steps. -/
def isLive (d : Device) (id : SessionId) : Bool :=
  (d.sessionState? id).any fun state => !state.isTerminal

/-- The operations that both sides support. -/
def supportedOperations (d : Device) : List OperationType := d.memory.metadata.supportedOperations

/-- Each operation of each resource. -/
def schemaInfo (d : Device) : List SchemaInfo := d.registry.schemaInfo

/-- Whether one more request may be outstanding.  Stale requests count, since they are still to be
    answered. -/
def hasCapacity (d : Device) : Bool :=
  d.pending.size < d.memory.metadata.effectiveConcurrency.toNat

/-- What the sessions of the device may read. -/
def scope (d : Device) (setup : Setup) : SessionScope :=
  { registry := d.registry, codec := setup.codec,
    maxReceive := setup.config.transfer.maxReceiveBuffer }

/-- The work that is queued, dictionaries counting twice: each may put one request in the queue. -/
def backlog (d : Device) : Nat := 2 * d.dictionaryQueue.length + d.waiting.length

/-- The operation id behind `id`; 0 is left out. -/
def operationIdAfter (id : UInt16) : UInt16 := max (id + 1) 1

end Device

/-- A device at work. -/
structure DeviceRun where
  device : Device
  host : Host
  /-- The operations that have ended, the latest last. -/
  completions : List OperationCompletion := []

namespace DeviceRun

/-- Reports that an operation has ended. -/
def report (r : DeviceRun) (session : SessionId) (result : Except Failure OperationResult) :
    DeviceRun :=
  { r with completions := r.completions ++ [{ session, result }] }

/-- Forgets a session. -/
def dropSession (r : DeviceRun) (id : SessionId) : DeviceRun :=
  { r with device.sessions := r.device.sessions.erase id }

/-- Puts a session in. -/
def keepSession (r : DeviceRun) (id : SessionId) (session : Session) : DeviceRun :=
  { r with device.sessions := r.device.sessions.insert id session }

end DeviceRun

end DeviceEnablement
