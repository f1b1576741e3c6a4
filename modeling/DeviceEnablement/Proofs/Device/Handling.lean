/-
  The handling of a response, call by call.

  `DeviceRun.handleResponse` is a function, and a function does not tell which calls are made on the
  way to its result, how they are nested, or what would become of them if the host had refused another
  request.  A `Handling` is one point on that way: where it is, which calls wait, and the run so far.

  1. `Next`: one step from a point to the next.  What is not up to the calls themselves is left open at
     every step: whether an instance id is found and the transport takes a request, how a session
     begins, and what it makes of a response.
  2. The pump is set going once the last dictionary is through, be it in the middle of a round of the
     pump.  `DeviceRun.nextDictionary` leaves this pump out, since each of its callers goes on to pump.
  3. `Handling.load`: twice the backlog, and what the call at hand may still add to it.  No step makes
     it larger (`Next.load_le`), and each round of a loop makes it smaller (`Next.load_lt_of_round`).
  4. `Handling.allowance`: a bound for the steps that are left (`Next.allowance_lt`).
-/
import DeviceEnablement.Proofs.Device.Downloads

namespace DeviceEnablement

namespace Handling

/-! ## Points -/

/-- What is called while a response is handled, each with what it is given. -/
inductive Call
  | handleResponse (instanceId : UInt8) (message : Option Bytes)
  | advance (id : SessionId) (session : Session) (result : Except Failure DeviceEnablement.Step)
  | finish (id : SessionId) (output : SessionOutput)
  | fail (id : SessionId) (task : SessionTask) (e : Failure)
  | nextDictionary
  | startSession (session : Session)
  | dispatch (id : SessionId) (out : Outgoing)
  | pump

/-- The loops: each works a queue off, round by round. -/
inductive Loop
  | nextDictionary
  | pump

/-- The call that runs a loop. -/
def Loop.call : Loop → Call
  | nextDictionary => .nextDictionary
  | pump => .pump

/-- A call that waits for another one, which it has made. -/
inductive Frame
  /-- `handleResponse` waits until the session that is answered has advanced. -/
  | answering
  /-- `advance` waits until the next request of its session is dispatched. -/
  | advancing (id : SessionId) (task : SessionTask)
  /-- `startSession` waits until the first request of its session is dispatched. -/
  | starting (id : SessionId)
  /-- `nextDictionary` waits until a download is started. -/
  | fetching
  /-- `pump` waits until a session has failed. -/
  | pumping
  /-- A call waits for the last one that it makes. -/
  | last

/-- Where a handling is. -/
inductive Point
  /-- A call begins. -/
  | enter (call : Call)
  /-- A call begins a round of its loop, if there is one left. -/
  | round (loop : Loop)
  /-- A call returns.  It has done its work, or it reports a failure to its caller. -/
  | leave (answer : Except Failure Unit)

end Handling

/-- One point of the handling of a response. -/
structure Handling where
  point : Handling.Point
  /-- The calls that wait, the innermost in front. -/
  callers : List Handling.Frame
  run : DeviceRun

namespace Handling

open DeviceRun (stateAfterNegotiation)

/-- What may come of an attempt to send a request, whatever the pool of instance ids and the transport
    do: the request is outstanding, or the attempt has failed. -/
inductive Attempt (r : DeviceRun) (id : SessionId) (out : Outgoing) :
    Except Failure Unit → DeviceRun → Prop
  | sent (instanceId : UInt8) (host : Host) :
      Attempt r id out (.ok ()) { r with
        host
        device.pending := r.device.pending.insert instanceId
          { session := id, generation := r.device.generation, command := out.command } }
  | refused (e : Failure) (host : Host) : Attempt r id out (.error e) { r with host }

/-- One step of a handling. -/
inductive Next (setup : Setup) : Handling → Handling → Prop
  -- `handleResponse`
  /-- The instance id is not in use. -/
  | unknown {instanceId : UInt8} {s : List Frame} {r : DeviceRun}
      (missing : r.device.pending.get? instanceId = none) (message : Option Bytes) :
      Next setup ⟨.enter (.handleResponse instanceId message), s, r⟩ ⟨.leave (.ok ()), s, r⟩
  /-- The request is from before a refresh, or its session has ended. -/
  | ignored {instanceId : UInt8} {request : PendingRequest} {s : List Frame} {r : DeviceRun}
      (pending : r.device.pending.get? instanceId = some request)
      (pointless : request.generation ≠ r.device.generation ∨
        r.device.sessions.get? request.session = none) (message : Option Bytes) :
      Next setup ⟨.enter (.handleResponse instanceId message), s, r⟩
        ⟨.enter .pump, .last :: s, r.freed instanceId⟩
  /-- The session was given up. -/
  | late {instanceId : UInt8} {request : PendingRequest} {session : Session} {s : List Frame}
      {r : DeviceRun} (pending : r.device.pending.get? instanceId = some request)
      (current : request.generation = r.device.generation)
      (found : r.device.sessions.get? request.session = some session)
      (abandoned : session.state.isAbandoned = true) (message : Option Bytes) :
      Next setup ⟨.enter (.handleResponse instanceId message), s, r⟩
        ⟨.enter .pump, .last :: s, (r.freed instanceId).dropSession request.session⟩
  /-- The session takes the response. -/
  | answered {instanceId : UInt8} {request : PendingRequest} {session : Session} {s : List Frame}
      {r : DeviceRun} (pending : r.device.pending.get? instanceId = some request)
      (current : request.generation = r.device.generation)
      (found : r.device.sessions.get? request.session = some session)
      (kept : session.state.isAbandoned = false) (message : Option Bytes)
      (session' : Session) (result : Except Failure DeviceEnablement.Step)
      (memory : DeviceMemory) :
      Next setup ⟨.enter (.handleResponse instanceId message), s, r⟩
        ⟨.enter (.advance request.session session' result), .answering :: s,
          { r.freed instanceId with device.memory := memory }⟩
  /-- The session has advanced. -/
  | advanced (answer : Except Failure Unit) (s : List Frame) (r : DeviceRun) :
      Next setup ⟨.leave answer, .answering :: s, r⟩ ⟨.enter .pump, .last :: s, r⟩
  -- `advance`
  /-- The session wants to send another request. -/
  | proceeds (id : SessionId) (session : Session) (out : Outgoing) (s : List Frame)
      (r : DeviceRun) :
      Next setup ⟨.enter (.advance id session (.ok (.send out))), s, r⟩
        ⟨.enter (.dispatch id out), .advancing id session.task :: s, r.keepSession id session⟩
  /-- The request is sent, or it waits. -/
  | placed (id : SessionId) (task : SessionTask) (s : List Frame) (r : DeviceRun) :
      Next setup ⟨.leave (.ok ()), .advancing id task :: s, r⟩ ⟨.leave (.ok ()), s, r⟩
  /-- The request cannot be sent. -/
  | unplaced (e : Failure) (id : SessionId) (task : SessionTask) (s : List Frame)
      (r : DeviceRun) :
      Next setup ⟨.leave (.error e), .advancing id task :: s, r⟩
        ⟨.enter (.fail id task e), .last :: s, r.dropSession id⟩
  /-- The session yields its output. -/
  | ends (id : SessionId) (session : Session) (output : SessionOutput) (s : List Frame)
      (r : DeviceRun) :
      Next setup ⟨.enter (.advance id session (.ok (.done output))), s, r⟩
        ⟨.enter (.finish id output), .last :: s, r.dropSession id⟩
  /-- The response was of no use. -/
  | discards (id : SessionId) (session : Session) (s : List Frame) (r : DeviceRun) :
      Next setup ⟨.enter (.advance id session (.ok .discarded)), s, r⟩
        ⟨.leave (.ok ()), s, r.dropSession id⟩
  /-- The session fails. -/
  | breaks (id : SessionId) (session : Session) (e : Failure) (s : List Frame) (r : DeviceRun) :
      Next setup ⟨.enter (.advance id session (.error e)), s, r⟩
        ⟨.enter (.fail id session.task e), .last :: s, r.dropSession id⟩
  -- `finish`
  | negotiated (id : SessionId) (s : List Frame) (r : DeviceRun) :
      Next setup ⟨.enter (.finish id .negotiated), s, r⟩
        ⟨.enter .nextDictionary, .last :: s, r.equipped setup⟩
  | downloaded (id : SessionId) (key : DictionaryKey) (s : List Frame) (r : DeviceRun) :
      Next setup ⟨.enter (.finish id (.dictionary key)), s, r⟩
        ⟨.enter .nextDictionary, .last :: s, r⟩
  | operated (id : SessionId) (result : OperationResult) (s : List Frame) (r : DeviceRun) :
      Next setup ⟨.enter (.finish id (.operation result)), s, r⟩
        ⟨.leave (.ok ()), s, r.report id (.ok result)⟩
  -- `fail`
  | negotiationFailed (id : SessionId) (phase : Negotiation) (e : Failure) (s : List Frame)
      (r : DeviceRun) :
      Next setup ⟨.enter (.fail id (.negotiation phase) e), s, r⟩
        ⟨.leave (.ok ()), s, { r with device.state := stateAfterNegotiation e }⟩
  | downloadFailed (id : SessionId) (download : Download) (e : Failure) (s : List Frame)
      (r : DeviceRun) :
      Next setup ⟨.enter (.fail id (.download download) e), s, r⟩
        ⟨.enter .nextDictionary, .last :: s, r⟩
  | operationFailed (id : SessionId) (operation : Operation) (e : Failure) (s : List Frame)
      (r : DeviceRun) :
      Next setup ⟨.enter (.fail id (.operation operation) e), s, r⟩
        ⟨.leave (.ok ()), s, r.report id (.error e)⟩
  -- `nextDictionary`
  | outOfService {s : List Frame} {r : DeviceRun} (ready : r.device.state ≠ .ready)
      (busy : r.device.state ≠ .busy) :
      Next setup ⟨.enter .nextDictionary, s, r⟩ ⟨.leave (.ok ()), s, r⟩
  | inService {s : List Frame} {r : DeviceRun}
      (service : r.device.state = .ready ∨ r.device.state = .busy) :
      Next setup ⟨.enter .nextDictionary, s, r⟩ ⟨.round .nextDictionary, s, r⟩
  /-- The dictionary is there already. -/
  | passed {key : DictionaryKey} {rest : List DictionaryKey} {s : List Frame} {r : DeviceRun}
      (first : r.device.dictionaryQueue = key :: rest)
      (complete : r.device.memory.store.containsComplete key = true) :
      Next setup ⟨.round .nextDictionary, s, r⟩
        ⟨.round .nextDictionary, s, { r with device.dictionaryQueue := rest }⟩
  /-- The download of the dictionary is to start. -/
  | fetches {key : DictionaryKey} {rest : List DictionaryKey} {s : List Frame} {r : DeviceRun}
      (first : r.device.dictionaryQueue = key :: rest)
      (incomplete : r.device.memory.store.containsComplete key = false) :
      Next setup ⟨.round .nextDictionary, s, r⟩
        ⟨.enter (.startSession (.download key)), .fetching :: s,
          { r with device.dictionaryQueue := rest }⟩
  /-- The download has started. -/
  | fetched (s : List Frame) (r : DeviceRun) :
      Next setup ⟨.leave (.ok ()), .fetching :: s, r⟩
        ⟨.leave (.ok ()), s, { r with device.state := .busy }⟩
  /-- The download has not started. -/
  | unfetched (e : Failure) (s : List Frame) (r : DeviceRun) :
      Next setup ⟨.leave (.error e), .fetching :: s, r⟩ ⟨.round .nextDictionary, s, r⟩
  /-- There is no dictionary left to be fetched, and the pump is set going. -/
  | collected {s : List Frame} {r : DeviceRun} (empty : r.device.dictionaryQueue = []) :
      Next setup ⟨.round .nextDictionary, s, r⟩
        ⟨.enter .pump, .last :: s, { r with device.state := .ready }⟩
  -- `startSession`
  /-- The session has a first request. -/
  | begins (session session' : Session) (out : Outgoing) (memory : DeviceMemory)
      (s : List Frame) (r : DeviceRun) :
      Next setup ⟨.enter (.startSession session), s, r⟩
        ⟨.enter (.dispatch r.newId out), .starting r.newId :: s,
          (r.begun memory).keepSession r.newId session'⟩
  /-- The session refuses to begin. -/
  | refuses (session : Session) (e : Failure) (memory : DeviceMemory) (s : List Frame)
      (r : DeviceRun) :
      Next setup ⟨.enter (.startSession session), s, r⟩ ⟨.leave (.error e), s, r.begun memory⟩
  /-- The first request is sent, or it waits. -/
  | started (id : SessionId) (s : List Frame) (r : DeviceRun) :
      Next setup ⟨.leave (.ok ()), .starting id :: s, r⟩ ⟨.leave (.ok ()), s, r⟩
  /-- The first request cannot be sent. -/
  | unstarted (e : Failure) (id : SessionId) (s : List Frame) (r : DeviceRun) :
      Next setup ⟨.leave (.error e), .starting id :: s, r⟩
        ⟨.leave (.error e), s, r.dropSession id⟩
  -- `dispatch`
  | attempted {id : SessionId} {out : Outgoing} {answer : Except Failure Unit} {s : List Frame}
      {r r' : DeviceRun} (capacity : r.device.hasCapacity = true)
      (attempt : Attempt r id out answer r') :
      Next setup ⟨.enter (.dispatch id out), s, r⟩ ⟨.leave answer, s, r'⟩
  | queued {id : SessionId} {out : Outgoing} {s : List Frame} {r : DeviceRun}
      (full : r.device.hasCapacity = false) :
      Next setup ⟨.enter (.dispatch id out), s, r⟩
        ⟨.leave (.ok ()), s, { r with device.waiting := r.device.waiting ++ [(id, out)] }⟩
  -- `pump`
  | begun (s : List Frame) (r : DeviceRun) :
      Next setup ⟨.enter .pump, s, r⟩ ⟨.round .pump, s, r⟩
  /-- There is no capacity, or nothing waits. -/
  | pumped {s : List Frame} {r : DeviceRun}
      (spent : r.device.hasCapacity = false ∨ r.device.waiting = []) :
      Next setup ⟨.round .pump, s, r⟩ ⟨.leave (.ok ()), s, r⟩
  /-- The oldest request belongs to no live session. -/
  | skipped {id : SessionId} {out : Outgoing} {rest : List (SessionId × Outgoing)}
      {s : List Frame} {r : DeviceRun} (capacity : r.device.hasCapacity = true)
      (oldest : r.device.waiting = (id, out) :: rest) (dead : r.device.isLive id = false) :
      Next setup ⟨.round .pump, s, r⟩ ⟨.round .pump, s, { r with device.waiting := rest }⟩
  /-- The oldest request is sent. -/
  | released {id : SessionId} {out : Outgoing} {rest : List (SessionId × Outgoing)}
      {s : List Frame} {r r' : DeviceRun} (capacity : r.device.hasCapacity = true)
      (oldest : r.device.waiting = (id, out) :: rest) (live : r.device.isLive id = true)
      (attempt : Attempt { r with device.waiting := rest } id out (.ok ()) r') :
      Next setup ⟨.round .pump, s, r⟩ ⟨.round .pump, s, r'⟩
  /-- The oldest request cannot be sent, which ends its session. -/
  | unsent {id : SessionId} {out : Outgoing} {rest : List (SessionId × Outgoing)}
      {session : Session} {e : Failure} {s : List Frame} {r r' : DeviceRun}
      (capacity : r.device.hasCapacity = true) (oldest : r.device.waiting = (id, out) :: rest)
      (found : r.device.sessions.get? id = some session)
      (live : session.state.isTerminal = false)
      (attempt : Attempt { r with device.waiting := rest } id out (.error e) r') :
      Next setup ⟨.round .pump, s, r⟩
        ⟨.enter (.fail id session.task e), .pumping :: s, r'.dropSession id⟩
  /-- The session has failed. -/
  | failed (answer : Except Failure Unit) (s : List Frame) (r : DeviceRun) :
      Next setup ⟨.leave answer, .pumping :: s, r⟩ ⟨.round .pump, s, r⟩
  -- Any call
  /-- The last call that it has made is over. -/
  | returned (answer : Except Failure Unit) (s : List Frame) (r : DeviceRun) :
      Next setup ⟨.leave answer, .last :: s, r⟩ ⟨.leave (.ok ()), s, r⟩

variable {setup : Setup} {h h' : Handling} {s : List Frame} {r r' : DeviceRun}

/-! ## The load -/

/-- What a call may still add to twice the backlog: a request in the queue, or the dictionaries of all
    resources.  One more is counted for a call that goes on to the dictionaries, and for a failure that
    makes its caller go on to them, so that they are ahead of the pump. -/
def Point.surcharge (d : Device) : Point → Nat
  | .enter (.handleResponse _ _) => 4 * d.registry.size + 3
  | .enter (.advance _ _ _) => 4 * d.registry.size + 2
  | .enter (.finish _ _) => 4 * d.registry.size + 1
  | .enter (.fail _ _ _) => 1
  | .enter .nextDictionary => 1
  | .enter (.startSession _) => 2
  | .enter (.dispatch _ _) => 2
  | .enter .pump => 0
  | .round .nextDictionary => 1
  | .round .pump => 0
  | .leave (.ok ()) => 0
  | .leave (.error _) => 1

/-- Twice the backlog, and what the call at hand may still add to it. -/
def load (h : Handling) : Nat := 2 * h.run.device.backlog + h.point.surcharge h.run.device

/-- There are no more dictionaries to fetch than there are resources. -/
theorem length_missingDictionaries_le (d : Device) :
    (DeviceRun.missingDictionaries d).length ≤ d.registry.size := by
  have hresources : d.registry.resources.length = d.registry.size := by
    unfold Registry.resources Registry.inOrder
    rw [List.length_map, List.length_mergeSort]
    rfl
  unfold DeviceRun.missingDictionaries
  refine Nat.le_trans (List.length_filter_le _ _) ?_
  rw [List.length_map, ← hresources]
  exact List.length_filter_le _ _

/-- A negotiation that has ended well adds at most one dictionary for each resource. -/
theorem backlog_equipped_le (r : DeviceRun) (setup : Setup) :
    (r.equipped setup).device.backlog ≤ r.device.backlog + 2 * r.device.registry.size := by
  have hsize : r.served.device.registry.size = r.device.registry.size := by
    show (r.device.registry.entries.mapValues _).size = r.device.registry.entries.size
    exact List.length_map _
  have hmissing := length_missingDictionaries_le r.served.device
  have hsame : r.served.device.backlog = r.device.backlog := rfl
  unfold DeviceRun.equipped
  split
  · unfold DeviceRun.queueDictionaries Device.backlog at *
    simp only [List.length_append, List.length_mergeSort]
    omega
  · omega

/-- An attempt to send a request changes no queue. -/
theorem Attempt.backlog_eq {id : SessionId} {out : Outgoing} {answer : Except Failure Unit}
    (hattempt : Attempt r id out answer r') : r'.device.backlog = r.device.backlog := by
  cases hattempt <;> rfl

/-- A dictionary at the head of the queue counts twice. -/
theorem backlog_of_first {d : Device} {key : DictionaryKey} {rest : List DictionaryKey}
    (hfirst : d.dictionaryQueue = key :: rest) :
    d.backlog = (2 * rest.length + d.waiting.length) + 2 := by
  unfold Device.backlog
  rw [hfirst, List.length_cons]
  omega

/-- A request at the head of the queue counts once. -/
theorem backlog_of_oldest {d : Device} {entry : SessionId × Outgoing}
    {rest : List (SessionId × Outgoing)} (holdest : d.waiting = entry :: rest) :
    d.backlog = (2 * d.dictionaryQueue.length + rest.length) + 1 := by
  unfold Device.backlog
  rw [holdest, List.length_cons]
  omega

/-- Each round of a loop makes the load smaller; only the pump ends without one more round. -/
theorem Next.load_lt_of_round {l : Loop} (hnext : Next setup ⟨.round l, s, r⟩ h') :
    h'.load < load ⟨.round l, s, r⟩ ∨ h' = ⟨.leave (.ok ()), s, r⟩ := by
  cases hnext with
  | @passed key rest _ _ hfirst =>
    left
    have hbacklog := backlog_of_first hfirst
    show 2 * (2 * rest.length + r.device.waiting.length) + 1 < 2 * r.device.backlog + 1
    omega
  | @fetches key rest _ _ hfirst =>
    -- The dictionary makes room for the request that its download may put into the queue.
    left
    have hbacklog := backlog_of_first hfirst
    show 2 * (2 * rest.length + r.device.waiting.length) + 2 < 2 * r.device.backlog + 1
    omega
  | collected =>
    left
    show 2 * r.device.backlog < 2 * r.device.backlog + 1
    omega
  | pumped => exact Or.inr rfl
  | @skipped id out rest _ _ _ holdest =>
    left
    have hbacklog := backlog_of_oldest holdest
    show 2 * (2 * r.device.dictionaryQueue.length + rest.length) < 2 * r.device.backlog
    omega
  | @released id out rest _ _ r' _ holdest _ hattempt =>
    left
    have hbacklog := backlog_of_oldest holdest
    have hsame : r'.device.backlog = 2 * r.device.dictionaryQueue.length + rest.length :=
      hattempt.backlog_eq
    show 2 * r'.device.backlog < 2 * r.device.backlog
    omega
  | @unsent id out rest session e _ _ r' _ holdest _ _ hattempt =>
    left
    have hbacklog := backlog_of_oldest holdest
    have hsame : r'.device.backlog = 2 * r.device.dictionaryQueue.length + rest.length :=
      hattempt.backlog_eq
    show 2 * r'.device.backlog + 1 < 2 * r.device.backlog
    omega

/-- No step makes the load larger. -/
theorem Next.load_le (hnext : Next setup h h') : h'.load ≤ h.load := by
  obtain ⟨point, s, r⟩ := h
  cases point with
  | round l =>
    rcases hnext.load_lt_of_round with hlt | rfl
    · exact Nat.le_of_lt hlt
    · exact Nat.le_add_right _ _
  | leave answer =>
    unfold load
    cases hnext <;>
      exact Nat.add_le_add_left (by simp [Point.surcharge]) (2 * r.device.backlog)
  | enter call =>
    unfold load
    cases hnext with
    | negotiated id =>
      have hbacklog := backlog_equipped_le r setup
      show 2 * (r.equipped setup).device.backlog + 1 ≤
        2 * r.device.backlog + (4 * r.device.registry.size + 1)
      omega
    | @attempted id out answer _ _ r' _ hattempt =>
      have hsame := hattempt.backlog_eq
      have hanswer : Point.surcharge r'.device (.leave answer) ≤ 1 := by
        cases answer <;> simp [Point.surcharge]
      show 2 * r'.device.backlog + Point.surcharge r'.device (.leave answer) ≤
        2 * r.device.backlog + 2
      omega
    | @queued id out _ _ hfull =>
      show 2 * (2 * r.device.dictionaryQueue.length + (r.device.waiting ++ [(id, out)]).length) ≤
        2 * r.device.backlog + 2
      rw [List.length_append]
      show 2 * (2 * r.device.dictionaryQueue.length + (r.device.waiting.length + 1)) ≤
        2 * (2 * r.device.dictionaryQueue.length + r.device.waiting.length) + 2
      omega
    | _ =>
      -- The queues are as they were.
      refine Nat.add_le_add_left ?_ (2 * r.device.backlog)
      simp [Point.surcharge, DeviceRun.freed, DeviceRun.dropSession]

/-! ## The allowance -/

/-- The number of steps that a call takes, as long as no loop makes a round. -/
def Call.cost : Call → Nat
  | handleResponse _ _ => 13
  | advance _ _ _ => 8
  | finish _ _ => 4
  | fail _ _ _ => 4
  | nextDictionary => 2
  | startSession _ => 3
  | dispatch _ _ => 1
  | pump => 2

/-- The number of steps that a call still takes once the one it waits for is over. -/
def Frame.cost : Frame → Nat
  | answering => 4
  | advancing _ _ => 6
  | starting _ => 1
  | fetching => 2
  | pumping => 2
  | last => 1

/-- The number of steps that the calls that wait still take. -/
def waitingCost : List Frame → Nat
  | [] => 0
  | frame :: s => frame.cost + waitingCost s

/-- The number of steps that are left at a point before its call returns. -/
def Point.cost : Point → Nat
  | enter call => call.cost
  | round _ => 1
  | leave _ => 0

/-- The number of steps that are left as long as no loop makes a round. -/
def cost (h : Handling) : Nat := h.point.cost + waitingCost h.callers

/-- A bound for the steps that are left.  A round of a loop makes the load smaller, and adds up to five
    steps to those that are left. -/
def allowance (h : Handling) : Nat := 6 * h.load + h.cost

/-- Outside of the rounds each step is one of those that were left. -/
theorem Next.cost_lt_of_enter {call : Call} (hnext : Next setup ⟨.enter call, s, r⟩ h') :
    h'.cost < cost ⟨.enter call, s, r⟩ := by
  cases hnext <;>
    simp only [cost, Point.cost, Call.cost, waitingCost, Frame.cost] <;> omega

theorem Next.cost_lt_of_leave {answer : Except Failure Unit}
    (hnext : Next setup ⟨.leave answer, s, r⟩ h') : h'.cost < cost ⟨.leave answer, s, r⟩ := by
  cases hnext <;>
    simp only [cost, Point.cost, Call.cost, waitingCost, Frame.cost] <;> omega

theorem Next.cost_le_of_round {l : Loop} (hnext : Next setup ⟨.round l, s, r⟩ h') :
    h'.cost ≤ cost ⟨.round l, s, r⟩ + 5 := by
  cases hnext <;>
    simp only [cost, Point.cost, Call.cost, waitingCost, Frame.cost] <;> omega

/-- Each step uses the allowance up. -/
theorem Next.allowance_lt (hnext : Next setup h h') : h'.allowance < h.allowance := by
  obtain ⟨point, s, r⟩ := h
  unfold allowance
  cases point with
  | round l =>
    rcases hnext.load_lt_of_round with hlt | rfl
    · have hcost := hnext.cost_le_of_round
      omega
    · have hload := hnext.load_le
      have hcost : cost ⟨.leave (.ok ()), s, r⟩ < cost ⟨.round l, s, r⟩ :=
        Nat.add_lt_add_right Nat.zero_lt_one _
      omega
  | enter call =>
    have hload := hnext.load_le
    have hcost := hnext.cost_lt_of_enter
    omega
  | leave answer =>
    have hload := hnext.load_le
    have hcost := hnext.cost_lt_of_leave
    omega

/-- A course of steps is no longer than the allowance at its beginning. -/
theorem length_le_allowance {course : List Handling}
    (hcourse : List.IsChain (Next setup) (h :: course)) : course.length ≤ h.allowance := by
  induction course generalizing h with
  | nil => exact Nat.zero_le _
  | cons h' rest ih =>
    obtain ⟨hnext, hrest⟩ := List.isChain_cons_cons.mp hcourse
    have hlt := hnext.allowance_lt
    have hle := ih hrest
    rw [List.length_cons]
    omega

/-! ## The end -/

/-- Whether every call has returned. -/
def Returned (h : Handling) : Prop := h.callers = [] ∧ ∃ answer, h.point = .leave answer

theorem exists_next_enter (setup : Setup) (call : Call) (s : List Frame) (r : DeviceRun) :
    ∃ h', Next setup ⟨.enter call, s, r⟩ h' := by
  cases call with
  | handleResponse instanceId message =>
    cases hpending : r.device.pending.get? instanceId with
    | none => exact ⟨_, .unknown hpending message⟩
    | some request =>
      by_cases hcurrent : request.generation = r.device.generation
      · cases hfound : r.device.sessions.get? request.session with
        | none => exact ⟨_, .ignored hpending (Or.inr hfound) message⟩
        | some session =>
          cases habandoned : session.state.isAbandoned with
          | true => exact ⟨_, .late hpending hcurrent hfound habandoned message⟩
          | false =>
            exact ⟨_, .answered hpending hcurrent hfound habandoned message session
              (.ok .discarded) r.device.memory⟩
      · exact ⟨_, .ignored hpending (Or.inl hcurrent) message⟩
  | advance id session result =>
    rcases result with e | out | output | _
    · exact ⟨_, .breaks id session e s r⟩
    · exact ⟨_, .proceeds id session out s r⟩
    · exact ⟨_, .ends id session output s r⟩
    · exact ⟨_, .discards id session s r⟩
  | finish id output =>
    cases output with
    | negotiated => exact ⟨_, .negotiated id s r⟩
    | dictionary key => exact ⟨_, .downloaded id key s r⟩
    | operation result => exact ⟨_, .operated id result s r⟩
  | fail id task e =>
    cases task with
    | negotiation phase => exact ⟨_, .negotiationFailed id phase e s r⟩
    | download download => exact ⟨_, .downloadFailed id download e s r⟩
    | operation operation => exact ⟨_, .operationFailed id operation e s r⟩
  | nextDictionary =>
    by_cases hservice : r.device.state = .ready ∨ r.device.state = .busy
    · exact ⟨_, .inService hservice⟩
    · obtain ⟨hready, hbusy⟩ := not_or.mp hservice
      exact ⟨_, .outOfService hready hbusy⟩
  | startSession session => exact ⟨_, .refuses session (.sessionAborted .idle) r.device.memory s r⟩
  | dispatch id out =>
    cases hcapacity : r.device.hasCapacity with
    | true => exact ⟨_, .attempted hcapacity (.sent 0 r.host)⟩
    | false => exact ⟨_, .queued hcapacity⟩
  | pump => exact ⟨_, .begun s r⟩

theorem exists_next_round (setup : Setup) (l : Loop) (s : List Frame) (r : DeviceRun) :
    ∃ h', Next setup ⟨.round l, s, r⟩ h' := by
  cases l with
  | nextDictionary =>
    cases hqueue : r.device.dictionaryQueue with
    | nil => exact ⟨_, .collected hqueue⟩
    | cons key rest =>
      cases hcomplete : r.device.memory.store.containsComplete key with
      | true => exact ⟨_, .passed hqueue hcomplete⟩
      | false => exact ⟨_, .fetches hqueue hcomplete⟩
  | pump =>
    cases hcapacity : r.device.hasCapacity with
    | false => exact ⟨_, .pumped (Or.inl hcapacity)⟩
    | true =>
      cases hwaiting : r.device.waiting with
      | nil => exact ⟨_, .pumped (Or.inr hwaiting)⟩
      | cons entry rest =>
        cases hlive : r.device.isLive entry.1 with
        | true => exact ⟨_, .released hcapacity hwaiting hlive (.sent 0 r.host)⟩
        | false => exact ⟨_, .skipped hcapacity hwaiting hlive⟩

theorem exists_next_leave (setup : Setup) (answer : Except Failure Unit) (frame : Frame)
    (s : List Frame) (r : DeviceRun) :
    ∃ h', Next setup ⟨.leave answer, frame :: s, r⟩ h' := by
  cases frame with
  | answering => exact ⟨_, .advanced answer s r⟩
  | pumping => exact ⟨_, .failed answer s r⟩
  | last => exact ⟨_, .returned answer s r⟩
  | advancing id task =>
    cases answer with
    | ok => exact ⟨_, .placed id task s r⟩
    | error e => exact ⟨_, .unplaced e id task s r⟩
  | starting id =>
    cases answer with
    | ok => exact ⟨_, .started id s r⟩
    | error e => exact ⟨_, .unstarted e id s r⟩
  | fetching =>
    cases answer with
    | ok => exact ⟨_, .fetched s r⟩
    | error e => exact ⟨_, .unfetched e s r⟩

/-- A handling goes on until every call has returned. -/
theorem exists_next_iff (setup : Setup) (h : Handling) :
    (∃ h', Next setup h h') ↔ ¬ h.Returned := by
  obtain ⟨point, s, r⟩ := h
  constructor
  · rintro ⟨h', hnext⟩ ⟨hcallers, answer, hpoint⟩
    dsimp only at hcallers hpoint
    subst hcallers hpoint
    cases hnext
  · intro hnot
    cases point with
    | enter call => exact exists_next_enter setup call s r
    | round l => exact exists_next_round setup l s r
    | leave answer =>
      cases s with
      | nil => exact absurd ⟨rfl, answer, rfl⟩ hnot
      | cons frame rest => exact exists_next_leave setup answer frame rest r

end Handling

end DeviceEnablement
