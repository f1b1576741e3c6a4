/-
  The manager at work: its queue, its callers, and the clock.

  1. Whoever wants something of the manager puts an event in its queue, behind those that are there
     (`submit`); the manager takes them out one at a time (`processNext`).
  2. A caller waits for the result of an operation, but no longer than the configured time (`call`).
     When its time is over it is told so, and if it knows the session of its operation it lets the
     operation expire (`timeOut`).  A result that is there first stands.
  3. Time passes only by `advance`.
  4. The manager stops at a shutdown, and also when nobody is left who could want anything: the
     service was released and no caller waits.  Who has released it can submit nothing any more.

  `settle` lets the callers whose time is over go, then the manager take what is in the queue.
-/
import DeviceEnablement.Manager.Basic

namespace DeviceEnablement

/-- The caller of an operation. -/
structure Caller where
  eid : UInt8
  /-- The time from which on the caller no longer waits. -/
  deadline : Nat
  /-- The session of the operation, once it has begun. -/
  session : Option SessionId := none
  /-- What the caller was told in the end. -/
  result : Option (Except Failure OperationResult) := none

namespace Caller

/-- Whether the caller has no result yet. -/
def isWaiting (c : Caller) : Bool := c.result.isNone

/-- The caller with a result, unless it has one. -/
def settleWith (c : Caller) (result : Except Failure OperationResult) : Caller :=
  { c with result := c.result.or (some result) }

end Caller

/-- The manager, its queue, its callers, and the clock. -/
structure Service where
  manager : Manager := {}
  /-- The events that the manager has not yet taken, the oldest in front. -/
  queue : List ManagerEvent := []
  callers : Table CallId Caller := {}
  nextCall : Nat := 0
  /-- The time, in milliseconds. -/
  now : Nat := 0
  /-- Whether nobody but the waiting callers can want anything of the manager. -/
  released : Bool := false

namespace Service

/-! ## Callers -/

/-- Changes a caller. -/
def change (s : Service) (call : CallId) (f : Caller → Caller) : Service :=
  match s.callers.get? call with
  | some caller => { s with callers := s.callers.insert call (f caller) }
  | none => s

/-- Tells a caller what the manager says.  Without an answer to come, the manager is gone. -/
def note (s : Service) : Notice → Service
  | .started call session => s.change call fun caller => { caller with session := some session }
  | .answered call result => s.change call (·.settleWith result)
  | .forgotten call => s.change call (·.settleWith (.error .shuttingDown))

/-- Puts an event in the queue, as long as the manager takes any. -/
def enqueue (s : Service) (event : ManagerEvent) : Except Failure Unit × Service :=
  if s.manager.stopped then (.error .shuttingDown, s)
  else (.ok (), { s with queue := s.queue ++ [event] })

/-- Puts an event in the queue, unless the service was released. -/
def submit (s : Service) (event : ManagerEvent) : Except Failure Unit × Service :=
  if s.released then (.error .shuttingDown, s) else s.enqueue event

/-- Calls for an operation.  Without a manager the caller has its result at once. -/
def call (s : Service) (setup : Setup) (eid : UInt8) (request : OperationRequest) :
    CallId × Service :=
  let id : CallId := ⟨s.nextCall⟩
  let caller : Caller := { eid, deadline := s.now + setup.config.operation.timeoutMs }
  match s.submit (.perform eid request id) with
  | (.ok (), s) =>
    (id, { s with nextCall := s.nextCall + 1, callers := s.callers.insert id caller })
  | (.error e, s) =>
    (id, { s with
      nextCall := s.nextCall + 1
      callers := s.callers.insert id (caller.settleWith (.error e)) })

/-- The time of a caller is over.  It lets its operation expire if it knows the session. -/
def timeOut (s : Service) (call : CallId) : Service :=
  match s.callers.get? call with
  | none => s
  | some caller =>
    if caller.isWaiting then
      let s := s.change call (·.settleWith (.error .timedOut))
      match caller.session with
      | some session => (s.enqueue (.expire caller.eid session)).2
      | none => s
    else s

/-- The callers who still wait although their time is over, the most patient last. -/
def overdue (s : Service) : List CallId :=
  ((s.callers.entries.filter fun (_, caller) =>
      caller.isWaiting && decide (caller.deadline ≤ s.now)).mergeSort
    fun a b => a.2.deadline ≤ b.2.deadline).map (·.1)

/-- Whether some caller has no result yet. -/
def hasWaiting (s : Service) : Bool := s.callers.values.any (·.isWaiting)

/-! ## The manager -/

/-- The manager takes one event. -/
def handle (s : Service) (setup : Setup) (event : ManagerEvent) : Service :=
  match s.manager.step setup event with
  | (told, manager) => told.foldl note { s with manager }

/-- The manager takes the oldest event of the queue. -/
def processNext (s : Service) (setup : Setup) : Service :=
  match s.queue with
  | [] => s
  | event :: rest => { s with queue := rest : Service }.handle setup event

/-- The manager takes all events of the queue. -/
def drain (s : Service) (setup : Setup) : Service :=
  s.queue.foldl (fun s event => s.handle setup event) { s with queue := [] }

/-- The manager stops if nobody is left who could want anything. -/
def closeUnused (s : Service) (setup : Setup) : Service :=
  if s.released && !s.hasWaiting then s.handle setup .shutdown else s

/-- Whoever is overdue goes, and the manager takes what is in the queue. -/
def settle (s : Service) (setup : Setup) : Service :=
  (((s.overdue.foldl timeOut s).drain setup)).closeUnused setup

/-! ## Steps from outside -/

/-- Lets time pass. -/
def advance (s : Service) (milliseconds : Nat) : Service :=
  { s with now := s.now + milliseconds }

/-- From now on only the waiting callers need the manager. -/
def release (s : Service) : Service := { s with released := true }

/-- The device at an endpoint, as the manager has it. -/
def device (s : Service) (eid : UInt8) : Except Failure Device :=
  if s.released then .error .shuttingDown else s.manager.device eid

end Service

end DeviceEnablement
