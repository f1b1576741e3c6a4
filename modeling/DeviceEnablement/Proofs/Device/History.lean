/-
  Histories of devices.

  A device is asked one thing after the other (`DeviceCall`).  A `DeviceHistory` is the device at
  work together with what its callers know: which operations they have started, which sessions
  they have given up, and how many answers were for outstanding requests.

  1. Each call may meet another codec, and each attempt to send may be refused.
  2. Between two calls the host may change, as far as `others` lets it: other devices share it.
  3. `Reachable`: the histories of a device that was found at an endpoint of a host.
-/
import DeviceEnablement.Proofs.Device.Answers

namespace DeviceEnablement

/-- What can be asked of a device. -/
inductive DeviceCall
  | refresh
  | disable
  | setPayloads (payloads : List Bytes)
  | startOperation (request : OperationRequest)
  | expire (id : SessionId)
  | cancel (id : SessionId)
  | handleResponse (instanceId : UInt8) (message : Option Bytes)

/-- What the callers of a device know. -/
structure Ledger where
  /-- The operations that were started, the latest in front. -/
  started : List SessionId := []
  /-- The sessions that were given up, the latest in front. -/
  givenUp : List SessionId := []
  /-- The number of answers to outstanding requests. -/
  answered : Nat := 0

/-- A device at work, and what its callers know. -/
structure DeviceHistory where
  run : DeviceRun
  ledger : Ledger := {}

namespace DeviceHistory

/-- A device that was just found at an endpoint. -/
def found (setup : Setup) (eid tid : UInt8) (uuid : Uuid) (payloads : List Bytes)
    (folder : Folder) (host : Host) : DeviceHistory :=
  { run := { device := .new setup eid tid uuid payloads folder, host } }

/-- Writes down whether a session was given up. -/
def giveUp (h : DeviceHistory) (id : SessionId) (result : Bool × DeviceRun) : DeviceHistory :=
  { run := result.2
    ledger :=
      if result.1 then { h.ledger with givenUp := id :: h.ledger.givenUp } else h.ledger }

/-- Writes down whether an operation was started. -/
def start (h : DeviceHistory) : Except Failure SessionId × DeviceRun → DeviceHistory
  | (.ok id, run) => { run, ledger := { h.ledger with started := id :: h.ledger.started } }
  | (.error _, run) => { h with run }

@[simp] theorem run_start (h : DeviceHistory) (result : Except Failure SessionId × DeviceRun) :
    (h.start result).run = result.2 := by
  obtain ⟨_ | _, r⟩ := result <;> rfl

/-- Asks one thing of the device. -/
def perform (h : DeviceHistory) (setup : Setup) : DeviceCall → DeviceHistory
  | .refresh => { h with run := h.run.refresh setup }
  | .disable => { h with run := h.run.disable }
  | .setPayloads payloads => { h with run := h.run.setPayloads payloads }
  | .startOperation request => h.start (h.run.startOperation setup request)
  | .expire id => h.giveUp id (h.run.expire id)
  | .cancel id => h.giveUp id (h.run.cancel id)
  | .handleResponse instanceId message =>
    { run := h.run.handleResponse setup instanceId message
      ledger := { h.ledger with
        answered := h.ledger.answered +
          if h.run.device.pending.contains instanceId then 1 else 0 } }

/-- One step of a history: a call, or a change of the host by others. -/
inductive Step (config : Config) (others : DeviceRun → Host → Prop) :
    DeviceHistory → DeviceHistory → Prop
  | call (h : DeviceHistory) (codec : Codec) (call : DeviceCall) :
      Step config others h (h.perform { config, codec } call)
  | elsewhere (h : DeviceHistory) {host : Host} (allowed : others h.run host) :
      Step config others h { h with run.host := host }

/-- Any number of steps. -/
abbrev Steps (config : Config) (others : DeviceRun → Host → Prop) :
    DeviceHistory → DeviceHistory → Prop :=
  Relation.ReflTransGen (Step config others)

/-- Asks one thing after the other. -/
def performAll (h : DeviceHistory) (setup : Setup) (calls : List DeviceCall) : DeviceHistory :=
  calls.foldl (fun h call => h.perform setup call) h

theorem steps_performAll (others : DeviceRun → Host → Prop) (h : DeviceHistory) (setup : Setup)
    (calls : List DeviceCall) : Steps setup.config others h (h.performAll setup calls) := by
  induction calls generalizing h with
  | nil => exact .refl
  | cons call rest ih => exact .head (.call h setup.codec call) (ih _)

/-- Whether a history is one of a device that was found at an endpoint of `host`. -/
def Reachable (config : Config) (others : DeviceRun → Host → Prop) (host : Host)
    (h : DeviceHistory) : Prop :=
  ∃ codec eid tid uuid payloads folder,
    Steps config others (found { config, codec } eid tid uuid payloads folder host) h

end DeviceHistory

namespace DeviceRun

/-- Others respect a device: the instance ids of its outstanding requests stay in use. -/
def Respected (r : DeviceRun) (host : Host) : Prop :=
  ∀ id ∈ r.device.pending.keys, id ∈ (host.ids.pool r.device.eid).allocated

/-- Others leave the endpoint of a device alone. -/
def LeftAlone (r : DeviceRun) (host : Host) : Prop := r.host.Alike r.device.eid host

end DeviceRun

namespace DeviceHistory

/-! ## Events -/

/-- What happens in the course of a call. -/
inductive Event : DeviceHistory → DeviceHistory → Prop
  /-- The device learns or forgets something, and that is all. -/
  | learned (h : DeviceHistory) {r : DeviceRun} (resembles : h.run.Resembles r) :
      Event h { h with run := r }
  /-- Every session is cancelled. -/
  | cancelled (h : DeviceHistory) (state : SessionState) :
      Event h { h with run := h.run.cancelAll state }
  /-- A negotiation begins, or cannot begin. -/
  | negotiation (h : DeviceHistory) {setup : Setup}
      {result : Except Failure SessionId × DeviceRun}
      (started : DeviceRun.Started setup h.run .negotiation result) :
      Event h { h with run := result.2 }
  /-- An operation begins, or cannot begin. -/
  | operation (h : DeviceHistory) {setup : Setup} {request : OperationRequest}
      {operationId : UInt16} {result : Except Failure SessionId × DeviceRun}
      (started : DeviceRun.Started setup h.run (.operation request operationId) result) :
      Event h (h.start result)
  /-- A session is given up, or there is none to give up. -/
  | givenUp (h : DeviceHistory) (id : SessionId) {state : SessionState}
      (abandoned : state.isAbandoned = true) : Event h (h.giveUp id (h.run.abandon id state))
  /-- A request is answered. -/
  | answered (h : DeviceHistory) {setup : Setup} {instanceId : UInt8} {request : PendingRequest}
      {r : DeviceRun} (pending : h.run.device.pending.get? instanceId = some request)
      (answered : DeviceRun.Answered setup (h.run.freed instanceId) request r) :
      Event h { run := r, ledger := { h.ledger with answered := h.ledger.answered + 1 } }
  /-- The device makes a move. -/
  | moved (h : DeviceHistory) {setup : Setup} {r : DeviceRun}
      (move : DeviceRun.Move setup h.run r) : Event h { h with run := r }

/-- Any number of events. -/
abbrev Events : DeviceHistory → DeviceHistory → Prop := Relation.ReflTransGen Event

theorem events_moves {setup : Setup} (ledger : Ledger) {r r' : DeviceRun}
    (hmoves : DeviceRun.Moves setup r r') : Events ⟨r, ledger⟩ ⟨r', ledger⟩ := by
  induction hmoves with
  | refl => exact .refl
  | tail _ hmove ih => exact ih.tail (.moved _ hmove)

theorem events_discover (h : DeviceHistory) (setup : Setup) :
    Events h { h with run := h.run.discover setup } := by
  have hstarted := DeviceRun.started_startSession
    { h.run with device.state := .discovering } setup .negotiation
  refine .head (.learned h (r := { h.run with device.state := .discovering })
    (.of_device ⟨rfl, rfl, rfl, rfl, rfl⟩ rfl)) (.head (.negotiation _ hstarted) ?_)
  unfold DeviceRun.discover
  split
  · rename_i heq
    rw [heq]
  · rename_i heq
    rw [heq]
    exact .single (.learned _ (.of_device ⟨rfl, rfl, rfl, rfl, rfl⟩ rfl))

/-- What is read from disk and written to it is nothing but knowledge. -/
theorem resembles_stores (r : DeviceRun) (setup : Setup) :
    r.Resembles (((r.loadAnnotations setup).loadPersisted).dumpRegistry setup) := by
  have hannotations : r.Resembles (r.loadAnnotations setup) := by
    unfold DeviceRun.loadAnnotations
    split
    · exact .of_device ⟨rfl, rfl, rfl, rfl, rfl⟩ rfl
    · exact ⟨⟨rfl, rfl, rfl, rfl, rfl⟩, rfl, ⟨fun _ => rfl, rfl⟩, rfl⟩
  have hpersisted : (r.loadAnnotations setup).Resembles (r.loadAnnotations setup).loadPersisted :=
    .of_device ⟨rfl, rfl, rfl, rfl, rfl⟩ rfl
  have hdump : ∀ r : DeviceRun, r.Resembles (r.dumpRegistry setup) := by
    intro r
    unfold DeviceRun.dumpRegistry
    split <;> exact .of_device ⟨rfl, rfl, rfl, rfl, rfl⟩ rfl
  exact hannotations.trans (hpersisted.trans (hdump _))

theorem events_rebuild (h : DeviceHistory) (setup : Setup) {r : DeviceRun}
    (hresembles : h.run.Resembles r) :
    Events h { h with
      run := (((r.loadAnnotations setup).loadPersisted).dumpRegistry setup).discover setup } :=
  .head (.learned h (hresembles.trans (resembles_stores r setup)))
    (events_discover ⟨_, h.ledger⟩ setup)

theorem events_refresh (h : DeviceHistory) (setup : Setup) :
    Events h { h with run := h.run.refresh setup } := by
  refine .head (.cancelled h .cancelled) ?_
  unfold DeviceRun.refresh
  dsimp only
  split
  · exact .single (.learned _ (.of_device ⟨rfl, rfl, rfl, rfl, rfl⟩ rfl))
  · exact events_rebuild ⟨_, h.ledger⟩ setup (.of_device ⟨rfl, rfl, rfl, rfl, rfl⟩ rfl)

theorem events_startOperation (h : DeviceHistory) (setup : Setup) (request : OperationRequest) :
    Events h (h.start (h.run.startOperation setup request)) := by
  unfold DeviceRun.startOperation
  split
  · exact .refl
  · split
    · exact .refl
    · let r : DeviceRun := { h.run with
        device.nextOperationId := Device.operationIdAfter h.run.device.nextOperationId }
      have hstarted := DeviceRun.started_startSession r setup
        (.operation request h.run.device.nextOperationId)
      exact .head (.learned h (r := r) (.of_device ⟨rfl, rfl, rfl, rfl, rfl⟩ rfl))
        (.single (.operation _ hstarted))

theorem events_handleResponse (h : DeviceHistory) (setup : Setup) (instanceId : UInt8)
    (message : Option Bytes) : Events h (h.perform setup (.handleResponse instanceId message)) := by
  unfold perform Table.contains
  dsimp only
  cases hpending : h.run.device.pending.get? instanceId with
  | none =>
    rw [DeviceRun.handleResponse_of_unknown hpending]
    exact .refl
  | some request =>
    obtain ⟨r, hanswered, hmoves⟩ := DeviceRun.answered_handleResponse setup hpending message
    exact .head (.answered h hpending hanswered) (events_moves _ hmoves)

/-- Each call is a sequence of events. -/
theorem events_perform (h : DeviceHistory) (setup : Setup) (call : DeviceCall) :
    Events h (h.perform setup call) := by
  cases call with
  | refresh => exact events_refresh h setup
  | disable =>
    exact .head (.cancelled h .cancelled)
      (.single (.learned _ (.of_device ⟨rfl, rfl, rfl, rfl, rfl⟩ rfl)))
  | setPayloads payloads => exact .single (.learned h (.of_device ⟨rfl, rfl, rfl, rfl, rfl⟩ rfl))
  | startOperation request => exact events_startOperation h setup request
  | expire id => exact .single (@Event.givenUp h id .timedOut rfl)
  | cancel id => exact .single (@Event.givenUp h id .cancelled rfl)
  | handleResponse instanceId message => exact events_handleResponse h setup instanceId message

/-! ## Invariants -/

variable {config : Config} {others : DeviceRun → Host → Prop} {host : Host}

theorem Events.keeps {P : DeviceHistory → Prop} {h h' : DeviceHistory} (hevents : Events h h')
    (hevent : ∀ h h', Event h h' → P h → P h') (hp : P h) : P h' := by
  induction hevents with
  | refl => exact hp
  | tail _ he ih => exact hevent _ _ he ih

/-- What every event keeps, and every change of the host by others, is kept by every step. -/
theorem Step.keeps {P : DeviceHistory → Prop} {h h' : DeviceHistory}
    (hstep : Step config others h h') (hevent : ∀ h h', Event h h' → P h → P h')
    (helsewhere : ∀ h host', others h.run host' → P h → P { h with run.host := host' })
    (hp : P h) : P h' := by
  cases hstep with
  | call codec call =>
    exact Events.keeps (events_perform h { config, codec } call) hevent hp
  | elsewhere allowed => exact helsewhere _ _ allowed hp

theorem Steps.keeps {P : DeviceHistory → Prop} {h h' : DeviceHistory}
    (hsteps : Steps config others h h') (hevent : ∀ h h', Event h h' → P h → P h')
    (helsewhere : ∀ h host', others h.run host' → P h → P { h with run.host := host' })
    (hp : P h) : P h' := by
  induction hsteps with
  | refl => exact hp
  | tail _ hs ih => exact hs.keeps hevent helsewhere ih

/-- What holds of a device that was just found, and is kept by every event and every change of the
    host by others, holds of every reachable history. -/
theorem Reachable.invariant {P : DeviceHistory → Prop} {h : DeviceHistory}
    (hreachable : Reachable config others host h)
    (hfound : ∀ setup eid tid uuid payloads folder,
      P (found setup eid tid uuid payloads folder host))
    (hevent : ∀ h h', Event h h' → P h → P h')
    (helsewhere : ∀ h host', others h.run host' → P h → P { h with run.host := host' }) : P h := by
  obtain ⟨codec, eid, tid, uuid, payloads, folder, hsteps⟩ := hreachable
  exact Steps.keeps hsteps hevent helsewhere (hfound _ eid tid uuid payloads folder)

theorem Reachable.steps {h h' : DeviceHistory} (hreachable : Reachable config others host h)
    (hsteps : Steps config others h h') : Reachable config others host h' := by
  obtain ⟨codec, eid, tid, uuid, payloads, folder, hbefore⟩ := hreachable
  exact ⟨codec, eid, tid, uuid, payloads, folder, hbefore.trans hsteps⟩

/-- What was given up stays so. -/
theorem Event.givenUp_subset {h h' : DeviceHistory} (hevent : Event h h') :
    h.ledger.givenUp ⊆ h'.ledger.givenUp := by
  cases hevent with
  | operation =>
    unfold start
    split <;> exact List.Subset.refl _
  | givenUp =>
    unfold giveUp
    dsimp only
    split
    · exact List.subset_cons_self ..
    · exact List.Subset.refl _
  | _ => exact List.Subset.refl _

theorem givenUp_of_steps {h h' : DeviceHistory} (hsteps : Steps config others h h') :
    h.ledger.givenUp ⊆ h'.ledger.givenUp :=
  Steps.keeps (P := fun h' => h.ledger.givenUp ⊆ h'.ledger.givenUp) hsteps
    (fun _ _ he hsub => List.Subset.trans hsub he.givenUp_subset) (fun _ _ _ hsub => hsub)
    (List.Subset.refl _)

/-! ## A sample -/

/-- A controller that fetches no dictionaries, and whose codec refuses everything. -/
def sampleSetup : Setup where
  config := { negotiation := { fetchDictionaries := false } }
  codec := {
    encode := fun _ _ _ => .error (.encode "")
    decode := fun _ _ => .error (.decode "") }

/-- The record of a resource `redfish/v1`. -/
def sampleRecord : Bytes :=
  [1, 0, 0, 0, 0, 0, 0, 0, 0, 10, 0, 114, 101, 100, 102, 105, 115, 104, 47, 118, 49, 0, 0, 0, 0, 1,
    0, 0, 0, 0, 0, 0, 0, 0, 0, 7, 0, 83, 99, 104, 101, 109, 97, 49, 0, 0]

/-- A request that needs no dictionary. -/
def sampleRequest : OperationRequest where
  uri := "/redfish/v1"
  operation := .head
  payload := none

/-- A negotiation and four operations for a device that takes one request at a time.  The first
    operation gets no response, the second one runs out of time, and the third one is cancelled. -/
def sampleCalls : List DeviceCall :=
  [.refresh,
    .handleResponse 0 (some [0, 6, 1, 0, 1, 0, 19, 0, 239, 190, 173, 222, 2, 7, 118, 101, 110, 100,
      111, 114, 0]),
    .handleResponse 1 (some [1, 6, 2, 0, 0, 4, 0, 0]),
    .startOperation sampleRequest, .startOperation sampleRequest, .startOperation sampleRequest,
    .handleResponse 2 none,
    .startOperation sampleRequest, .cancel ⟨4⟩, .expire ⟨3⟩]

/-- The history in which these calls are made. -/
def sampleHistory : DeviceHistory :=
  (found sampleSetup 8 1 ⟨0⟩ [sampleRecord] {} {}).performAll sampleSetup sampleCalls

theorem reachable_sample (others : DeviceRun → Host → Prop) :
    Reachable sampleSetup.config others {} sampleHistory :=
  ⟨sampleSetup.codec, 8, 1, ⟨0⟩, [sampleRecord], {},
    steps_performAll others _ sampleSetup sampleCalls⟩

end DeviceHistory

end DeviceEnablement
