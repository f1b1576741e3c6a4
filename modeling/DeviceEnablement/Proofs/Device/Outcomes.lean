/-
  What each stride of a device comes to.

  A stride is told apart by what becomes of a session: one begins, goes on, ends, or is given up, or
  there is none to which anything happens.  Every invariant of a device that depends on its state, on
  its metadata or on its registry is proved for these few cases.

  1. `Steady`: the device has only learned or forgotten what nothing else depends on.
  2. `Launched`: what beginning a session comes to (`launched_startSession`).
  3. `Fetched`, `Aftermath`: what follows when a session ends, which depends on the state of the
     device.  For that each session has to belong to the state (`Device.Staged`).
  4. `Called`, `Settled`, `Rounded`: what a call comes to, the answer to a request, and a round of the
     pump.  `strode_stride` puts them together.
-/
import DeviceEnablement.Proofs.Device.Exchange
import DeviceEnablement.Proofs.Device.Strides
import DeviceEnablement.Proofs.Terms

namespace DeviceEnablement

/-- Whether each session belongs to the state of the device, and is the latest one unless it is an
    operation. -/
structure Device.Staged (d : Device) : Prop where
  stage : ∀ id s, d.sessions.get? id = some s → s.task.stage = d.state
  latest : d.state ≠ .ready → ∀ id s, d.sessions.get? id = some s → id.value + 1 = d.nextSession

namespace DeviceRun

/-! ## Steadiness -/

/-- Whether a device has only learned or forgotten, from `r` to `r'`, what nothing else depends
    on. -/
structure Steady (r r' : DeviceRun) : Prop where
  sessions : r'.device.sessions = r.device.sessions := by rfl
  pending : r'.device.pending = r.device.pending := by rfl
  waiting : r'.device.waiting = r.device.waiting := by rfl
  generation : r'.device.generation = r.device.generation := by rfl
  state : r'.device.state = r.device.state := by rfl
  registry : r'.device.registry = r.device.registry := by rfl
  metadata : r'.device.memory.metadata = r.device.memory.metadata := by rfl
  next : r.device.nextSession ≤ r'.device.nextSession := by exact Nat.le_refl _
  host : r.host.Undisturbed r'.host := by exact {}

variable {r r' r'' : DeviceRun} {id : SessionId} {out : Outgoing}

theorem Steady.trans (h : Steady r r') (h' : Steady r' r'') : Steady r r'' where
  sessions := h'.sessions.trans h.sessions
  pending := h'.pending.trans h.pending
  waiting := h'.waiting.trans h.waiting
  generation := h'.generation.trans h.generation
  state := h'.state.trans h.state
  registry := h'.registry.trans h.registry
  metadata := h'.metadata.trans h.metadata
  next := Nat.le_trans h.next h'.next
  host := {
    allocated := fun eid => (h'.host.allocated eid).trans (h.host.allocated eid)
    sent := h'.host.sent.trans h.host.sent }

theorem Steady.orderly (h : Steady r r') (ho : r.device.Orderly) : r'.device.Orderly :=
  ho.of_sessions h.sessions h.next

theorem Steady.hasCapacity (h : Steady r r') : r'.device.hasCapacity = r.device.hasCapacity := by
  unfold Device.hasCapacity
  rw [h.pending, h.metadata]

/-- Whether two runs agree on everything but their requests. -/
structure SameCourse (r r' : DeviceRun) : Prop where
  sessions : r'.device.sessions = r.device.sessions := by rfl
  generation : r'.device.generation = r.device.generation := by rfl
  state : r'.device.state = r.device.state := by rfl
  registry : r'.device.registry = r.device.registry := by rfl
  metadata : r'.device.memory.metadata = r.device.memory.metadata := by rfl
  next : r'.device.nextSession = r.device.nextSession := by rfl

theorem Sent.sameCourse (h : Sent r id out r') : SameCourse r r' := by
  cases h
  exact {}

theorem Placed.sameCourse (h : Placed r id out r') : SameCourse r r' := by
  cases h with
  | sent _ hsent => exact hsent.sameCourse
  | queued => exact {}

/-! ## Sessions that begin -/

/-- What beginning a session of this stage comes to: its first request is placed, or the session does
    not begin. -/
inductive Launched (r : DeviceRun) (stage : DeviceState) :
    Except Failure SessionId × DeviceRun → Prop
  | placed {s : Session} {memory : DeviceMemory} {out : Outgoing} {r' : DeviceRun}
      (waits : s.state = .waiting) (stage_eq : s.task.stage = stage)
      (opening : s.task.isOpening = true) (command : out.command = s.task.firstCommand)
      (metadata : memory.metadata = r.device.memory.metadata)
      (placed : Placed ((r.begun memory).keepSession r.newId s) r.newId out r')
      {fresh : Session} {scope : SessionScope}
      (begun : fresh.start scope r.device.memory = (.ok (.send out), s, memory)) :
      Launched r stage (.ok r.newId, r')
  | failed (e : Failure) {r' : DeviceRun} (steady : Steady r r') : Launched r stage (.error e, r')

/-- Whether the session `s` has begun in `r'` under the number `id`, and nothing else has changed but
    requests. -/
structure Begins (r : DeviceRun) (id : SessionId) (s : Session) (r' : DeviceRun) : Prop where
  number : id = r.newId
  sessions : r'.device.sessions = r.device.sessions.insert id s
  next : r'.device.nextSession = r.device.nextSession + 1
  generation : r'.device.generation = r.device.generation
  state : r'.device.state = r.device.state
  registry : r'.device.registry = r.device.registry
  metadata : r'.device.memory.metadata = r.device.memory.metadata

theorem Launched.begins {stage : DeviceState} (h : Launched r stage (.ok id, r')) :
    ∃ s, s.state = .waiting ∧ s.task.stage = stage ∧ s.task.isOpening = true ∧
      Begins r id s r' := by
  cases h with
  | @placed s memory _ _ hwaits hstage hopening _ hmetadata hplaced =>
    have hsame := hplaced.sameCourse
    exact ⟨s, hwaits, hstage, hopening, rfl, hsame.sessions, hsame.next, hsame.generation,
      hsame.state, hsame.registry, hsame.metadata.trans hmetadata⟩

theorem launched_startSession (ho : r.device.Orderly) (setup : Setup) {s : Session}
    (hopening : s.task.isOpening = true) :
    Launched r s.task.stage (r.startSession setup s) := by
  have hmetadata := s.metadata_start (r.device.scope setup) r.device.memory
  have hsteady : ∀ {memory : DeviceMemory} {host : Host},
      memory.metadata = r.device.memory.metadata → r.host.Undisturbed host →
      Steady r { r.begun memory with host } :=
    fun hmetadata hhost => { metadata := hmetadata, next := Nat.le_succ _, host := hhost }
  rw [startSession_eq]
  split
  · rename_i e s' memory hstart
    rw [hstart] at hmetadata
    exact .failed e (hsteady hmetadata {})
  · rename_i out s' memory hstart
    obtain ⟨hwaits, hstage, hopening', hcommand⟩ := Session.start_send hopening hstart
    rw [hstart] at hmetadata
    rcases launch_cases (r.begun memory) r.newId s' out with
      ⟨r', heq, hplaced⟩ | ⟨e, host, heq, hhost⟩
    · rw [heq]
      exact .placed hwaits hstage hopening' hcommand hmetadata hplaced hstart
    · -- Nothing was there under the new number, so nothing is lost when it is given up.
      have hsame : (r.begun memory).device.sessions.erase r.newId =
          (r.begun memory).device.sessions := Table.erase_of_missing ho.get?_next
      have hdropped : ({ r.begun memory with host } : DeviceRun).dropSession r.newId =
          { r.begun memory with host } := by
        unfold dropSession
        dsimp only
        rw [hsame]
      rw [heq, hdropped]
      exact .failed e (hsteady hmetadata hhost)
  · rename_i s' memory _ hstart
    rw [hstart] at hmetadata
    exact .failed _ (hsteady hmetadata {})

/-! ## Sessions that end -/

/-- What fetching dictionaries comes to: there is none to be fetched, or a download begins. -/
inductive Fetched (r : DeviceRun) : DeviceRun → Prop
  | idle {r₁ : DeviceRun} (steady : Steady r r₁) :
      Fetched r { r₁ with device := { r₁.device with dictionaryQueue := [], state := .ready } }
  | begun {r₁ r₂ : DeviceRun} {id : SessionId} (steady : Steady r r₁)
      (launched : Launched r₁ .busy (.ok id, r₂)) : Fetched r { r₂ with device.state := .busy }

theorem Fetched.of_steady (h : Steady r r') (hfetched : Fetched r' r'') : Fetched r r'' := by
  cases hfetched with
  | idle hsteady => exact .idle (h.trans hsteady)
  | begun hsteady hlaunched => exact .begun (h.trans hsteady) hlaunched

theorem fetched_startDownloads (setup : Setup) (keys : List DictionaryKey)
    (ho : r.device.Orderly) : Fetched r (r.startDownloads setup keys) := by
  induction keys generalizing r with
  | nil => exact .idle {}
  | cons key rest ih =>
    let r₁ : DeviceRun := { r with device.dictionaryQueue := rest }
    have hturned : Steady r r₁ := {}
    have ho₁ := hturned.orderly ho
    unfold startDownloads
    dsimp only
    split
    · exact .of_steady hturned (ih ho₁)
    · have hlaunched := launched_startSession ho₁ setup (s := .download key) rfl
      split
      · rename_i id r₂ heq
        rw [heq] at hlaunched
        exact .begun hturned hlaunched
      · rename_i e r₂ heq
        rw [heq] at hlaunched
        cases hlaunched with
        | failed _ hsteady =>
          exact .of_steady (hturned.trans hsteady) (ih (hsteady.orderly ho₁))

/-- A device in service goes on with its queue. -/
theorem nextDictionary_eq (setup : Setup)
    (hstate : r.device.state = .ready ∨ r.device.state = .busy) :
    r.nextDictionary setup = r.startDownloads setup r.device.dictionaryQueue := by
  unfold nextDictionary
  rcases hstate with hready | hbusy
  · rw [hready]
  · rw [hbusy]

theorem fetched_nextDictionary (setup : Setup) (ho : r.device.Orderly)
    (hstate : r.device.state = .ready ∨ r.device.state = .busy) :
    Fetched r (r.nextDictionary setup) := by
  rw [nextDictionary_eq setup hstate]
  exact fetched_startDownloads setup _ ho

/-- The run of a device that has just become ready. -/
def served (r : DeviceRun) : DeviceRun :=
  { r with device := { r.device with
      registry := r.device.registry.setOperations r.device.supportedOperations, state := .ready } }

/-- A device whose negotiation has failed is out of service. -/
theorem stateAfterNegotiation_cases (e : Failure) :
    stateAfterNegotiation e = .notReady ∨ stateAfterNegotiation e = .unreachable := by
  cases e with
  | noResponse => exact Or.inr rfl
  | _ => exact Or.inl rfl

/-- What follows the end of a session that the device no longer has: an operation is reported, a
    failed negotiation takes the device out of service, and otherwise dictionaries are fetched. -/
inductive Aftermath (r : DeviceRun) (outcome : Except Failure SessionOutput) : DeviceRun → Prop
  | reported (stage : r.device.state = .ready) (id : SessionId)
      (result : Except Failure OperationResult) : Aftermath r outcome (r.report id result)
  | rejected (stage : r.device.state = .discovering) {e : Failure} (failed : outcome = .error e) :
      Aftermath r outcome { r with device.state := stateAfterNegotiation e }
  | negotiated (stage : r.device.state = .discovering) (succeeded : outcome = .ok .negotiated)
      {r' : DeviceRun} (fetched : Fetched r.served r') : Aftermath r outcome r'
  | fetched (stage : r.device.state = .busy) {r' : DeviceRun} (fetched : Fetched r r') :
      Aftermath r outcome r'

theorem aftermath_fail (setup : Setup) (ho : r.device.Orderly) {task : SessionTask}
    (hstage : task.stage = r.device.state) (id : SessionId) (e : Failure) :
    Aftermath r (.error e) (r.fail setup id task e) := by
  cases task with
  | negotiation phase => exact .rejected hstage.symm rfl
  | download d => exact .fetched hstage.symm (fetched_nextDictionary setup ho (Or.inr hstage.symm))
  | operation o => exact .reported hstage.symm id (.error e)

theorem fetched_finishNegotiation (setup : Setup) (ho : r.device.Orderly) :
    Fetched r.served (r.finishNegotiation setup) := by
  have ho' : r.served.device.Orderly := ho.of_sessions rfl (Nat.le_refl _)
  unfold finishNegotiation
  dsimp only
  split
  · have hqueued : Steady r.served (r.served.queueDictionaries) := {}
    exact .of_steady hqueued
      (fetched_nextDictionary setup (hqueued.orderly ho') (Or.inl rfl))
  · exact fetched_nextDictionary setup ho' (Or.inl rfl)

theorem aftermath_finish (setup : Setup) (ho : r.device.Orderly) {output : SessionOutput}
    (hstage : output.stage = r.device.state) (id : SessionId) :
    Aftermath r (.ok output) (r.finish setup id output) := by
  cases output with
  | negotiated => exact .negotiated hstage.symm rfl (fetched_finishNegotiation setup ho)
  | dictionary key =>
    exact .fetched hstage.symm (fetched_nextDictionary setup ho (Or.inr hstage.symm))
  | operation result => exact .reported hstage.symm id (.ok result)

/-! ## Answers -/

/-- What a session of this task has made of the metadata `m` when it ends because of an answer. -/
inductive Learned (m : Metadata) (body : Except Failure Bytes) (task : SessionTask) :
    Except Failure SessionOutput → Metadata → Prop
  | nothing (e : Failure) : Learned m body task (.error e) m
  | taught {bytes : Bytes} {result : Except Failure Step} {task' : SessionTask} {m' : Metadata}
      {outcome : Except Failure SessionOutput} (answered : body = .ok bytes)
      (taught : SessionTask.Taught m bytes task result task' m')
      (outcome_eq : ∀ output, outcome = .ok output → result = .ok (.done output)) :
      Learned m body task outcome m'

/-- What the answer to `request` comes to, in a run in which its instance id is already given back:
    it has no session, or comes too late for it, or its session goes on or ends. -/
inductive Settled (r : DeviceRun) (request : PendingRequest) (body : Except Failure Bytes) :
    DeviceRun → Prop
  | ignored (gone : request.generation ≠ r.device.generation ∨
      r.device.sessions.get? request.session = none) : Settled r request body r
  | late {s : Session} (current : request.generation = r.device.generation)
      (found : r.device.sessions.get? request.session = some s)
      (abandoned : s.state.isAbandoned = true) :
      Settled r request body (r.dropSession request.session)
  | continued {s s' : Session} {bytes : Bytes} {memory : DeviceMemory} {out : Outgoing}
      {r' : DeviceRun} (current : request.generation = r.device.generation)
      (found : r.device.sessions.get? request.session = some s) (waits : s.state = .waiting)
      (answered : body = .ok bytes)
      (taught : SessionTask.Taught r.device.memory.metadata bytes s.task (.ok (.send out)) s'.task
        memory.metadata)
      (waits' : s'.state = .waiting)
      (placed : Placed (({ r with device.memory := memory } : DeviceRun).keepSession
        request.session s') request.session out r')
      {scope : SessionScope}
      (step : s.onResponse scope r.device.memory bytes = (.ok (.send out), s', memory)) :
      Settled r request body r'
  | ended {s : Session} {memory : DeviceMemory} {host : Host}
      {outcome : Except Failure SessionOutput} {r' : DeviceRun}
      (current : request.generation = r.device.generation)
      (found : r.device.sessions.get? request.session = some s) (waits : s.state = .waiting)
      (learned : Learned r.device.memory.metadata body s.task outcome memory.metadata)
      (alike : r.host.Undisturbed host)
      (aftermath : Aftermath (({ r with host, device.memory := memory } : DeviceRun).dropSession
        request.session) outcome r') : Settled r request body r'

section Answers

variable {request : PendingRequest} {s : Session}

section Response

variable (setup : Setup) (ho : r.device.Orderly) (hstaged : r.device.Staged)
  (hcurrent : request.generation = r.device.generation)
  (hs : r.device.sessions.get? request.session = some s) (hw : s.state = .waiting)
  {bytes : Bytes} {result : Except Failure Step} {s' : Session} {memory : DeviceMemory}
include ho hstaged hcurrent hs hw

/-- A session that took a response ends if it fails, or if its next request cannot be sent. -/
theorem settled_failed (htaught : SessionTask.Taught r.device.memory.metadata bytes s.task result
    s'.task memory.metadata) (e : Failure) {host : Host} (hhost : r.host.Undisturbed host) :
    Settled r request (.ok bytes) ((({ r with host, device.memory := memory } :
      DeviceRun).dropSession request.session).fail setup request.session s'.task e) := by
  have hdropped : (({ r with host, device.memory := memory } :
      DeviceRun).dropSession request.session).device.Orderly := ho.of_erase rfl (Nat.le_refl _)
  have hstage : s'.task.stage = r.device.state :=
    htaught.stage_eq.trans (hstaged.stage _ s hs)
  refine .ended hcurrent hs hw (.taught rfl htaught ?_) hhost
    (aftermath_fail setup hdropped hstage request.session e)
  intro output houtput
  cases houtput

/-- A session that took a response goes on, or ends. -/
theorem settled_advance
    (hstep : s.onResponse (r.device.scope setup) r.device.memory bytes = (result, s', memory)) :
    Settled r request (.ok bytes) (({ r with device.memory := memory } : DeviceRun).advance setup
      request.session s' result) := by
  have htaught := Session.taught_onResponse hw hstep
  have hfailed : ∀ (e : Failure) {host : Host}, r.host.Undisturbed host →
      Settled r request (.ok bytes) ((({ r with host, device.memory := memory } :
        DeviceRun).dropSession request.session).fail setup request.session s'.task e) :=
    settled_failed setup ho hstaged hcurrent hs hw htaught
  cases result with
  | error e => exact hfailed e {}
  | ok step =>
    cases step with
    | send out =>
      have hkept : s.state.isAbandoned = false := by
        rw [hw]
        rfl
      unfold advance
      dsimp only
      rcases (({ r with device.memory := memory } : DeviceRun).keepSession request.session
        s').dispatch_cases request.session out with ⟨r', heq, hplaced⟩ | ⟨e, host, heq, hhost⟩
      · rw [heq]
        exact .continued hcurrent hs hw rfl htaught (Session.onResponse_send hkept hstep) hplaced
          hstep
      · rw [heq]
        dsimp only
        rw [dropSession_keepSession]
        exact hfailed e hhost
    | done output =>
      have hdropped : (({ r with device.memory := memory } :
          DeviceRun).dropSession request.session).device.Orderly :=
        ho.of_erase rfl (Nat.le_refl _)
      have hfits : output.stage = r.device.state :=
        Eq.trans htaught.fits (hstaged.stage _ s hs)
      refine .ended hcurrent hs hw (.taught rfl htaught ?_) {}
        (aftermath_finish setup hdropped hfits request.session)
      intro output' houtput
      rw [Except.ok.inj houtput]
    | discarded => exact absurd htaught.fits id

end Response

theorem orderly_freed (ho : r.device.Orderly) (instanceId : UInt8) :
    (r.freed instanceId).device.Orderly := ho.of_sessions rfl (Nat.le_refl _)

theorem staged_freed (hstaged : r.device.Staged) (instanceId : UInt8) :
    (r.freed instanceId).device.Staged := ⟨hstaged.stage, hstaged.latest⟩

theorem settled_settle (setup : Setup) (ho : r.device.Orderly) (hstaged : r.device.Staged)
    (instanceId : UInt8) (request : PendingRequest) (message : Option Bytes) :
    Settled r request (bodyOf r.device.eid instanceId request.command message)
      (r.settle setup instanceId request message) := by
  unfold settle
  split
  · rename_i hstale
    exact .ignored (Or.inl hstale)
  · rename_i hgeneration
    have hcurrent := Decidable.of_not_not hgeneration
    split
    · rename_i hnone
      exact .ignored (Or.inr hnone)
    · rename_i s hs
      split
      · rename_i ha
        exact .late hcurrent hs ha
      · rename_i ha
        have hw : s.state = .waiting := (ho.states _ s hs).resolve_right ha
        generalize bodyOf r.device.eid instanceId request.command message = body
        cases body with
        | error e =>
          have hdropped : (r.dropSession request.session).device.Orderly :=
            ho.of_erase rfl (Nat.le_refl _)
          exact .ended hcurrent hs hw (.nothing e) {}
            (aftermath_fail setup hdropped (hstaged.stage _ s hs) request.session e)
        | ok bytes => exact settled_advance setup ho hstaged hcurrent hs hw rfl

end Answers

/-! ## Rounds -/

/-- What a round of the pump comes to: there is none to be made, or the oldest request that waits is
    passed over, or sent, or cannot be sent. -/
inductive Rounded (r : DeviceRun) : DeviceRun → Prop
  | resting : Rounded r r
  | skipped {id : SessionId} {out : Outgoing} {rest : List (SessionId × Outgoing)}
      (oldest : r.device.waiting = (id, out) :: rest) (dead : r.device.isLive id = false) :
      Rounded r { r with device.waiting := rest }
  | released {r' : DeviceRun} {id : SessionId} {out : Outgoing}
      {rest : List (SessionId × Outgoing)} {s : Session} (capacity : r.device.hasCapacity = true)
      (oldest : r.device.waiting = (id, out) :: rest)
      (found : r.device.sessions.get? id = some s) (live : s.state.isTerminal = false)
      (sent : Sent { r with device.waiting := rest } id out r') : Rounded r r'
  | unsent {r' : DeviceRun} {id : SessionId} {out : Outgoing} {rest : List (SessionId × Outgoing)}
      {s : Session} {host : Host} {e : Failure} (oldest : r.device.waiting = (id, out) :: rest)
      (found : r.device.sessions.get? id = some s) (live : s.state.isTerminal = false)
      (alike : r.host.Undisturbed host)
      (aftermath : Aftermath (({ r with host, device.waiting := rest } : DeviceRun).dropSession id)
        (.error e) r') : Rounded r r'

theorem rounded_round (setup : Setup) (ho : r.device.Orderly) (hstaged : r.device.Staged) :
    Rounded r (r.round setup) := by
  unfold round
  split
  · exact .resting
  · rename_i id out rest hw
    split
    · rename_i hcapacity
      have hlive := isLive_eq r.device id
      unfold sendWaiting
      dsimp only
      split
      · rename_i hnone
        rw [hnone] at hlive
        exact .skipped hw hlive
      · rename_i s hs
        rw [hs, Option.any_some] at hlive
        split
        · rename_i hterminal
          exact .skipped hw (by rw [hlive, hterminal]; rfl)
        · rename_i hterminal
          rw [Bool.not_eq_true] at hterminal
          rcases sendNow_cases { r with device.waiting := rest } id out with
            ⟨r', heq, hsent⟩ | ⟨e, host, heq, hhost⟩
          · rw [heq]
            exact .released hcapacity hw hs hterminal hsent
          · rw [heq]
            have hdropped : (({ r with host, device.waiting := rest } : DeviceRun).dropSession
                id).device.Orderly := ho.of_erase rfl (Nat.le_refl _)
            exact .unsent hw hs hterminal hhost
              (aftermath_fail setup hdropped (hstaged.stage _ s hs) id e)
    · exact .resting

/-! ## Calls -/

/-- The run in which everything is cancelled and forgotten that was negotiated, with a registry that
    was built anew. -/
def cleared (r : DeviceRun) (registry : Registry) : DeviceRun :=
  { r.cancelAll .cancelled with
    device := { (r.cancelAll .cancelled).device with
      memory := { r.device.memory with metadata := r.device.memory.metadata.clearNegotiated }
      registry } }

/-- Refreshing clears the device; then the registry cannot be built, or the stores are reloaded and a
    negotiation is to begin. -/
theorem refresh_cases (r : DeviceRun) (setup : Setup) :
    ∃ registry, (r.device.registry.reload r.device.payloads []).2 = registry ∧
      (r.refresh setup = { r.cleared registry with device.state := .notReady } ∨
        r.refresh setup = ((((r.cleared registry).loadAnnotations setup).loadPersisted).dumpRegistry
          setup).discover setup) := by
  refine ⟨_, rfl, ?_⟩
  unfold refresh
  dsimp only
  split
  · rename_i heq
    change r.device.registry.reload r.device.payloads [] = _ at heq
    rw [heq]
    exact Or.inl rfl
  · rename_i heq
    change r.device.registry.reload r.device.payloads [] = _ at heq
    rw [heq]
    exact Or.inr rfl

/-- Reading from disk and writing to it makes a difference only to the store and the files. -/
theorem stores_eq (r : DeviceRun) (setup : Setup) :
    ∃ store files, ((r.loadAnnotations setup).loadPersisted).dumpRegistry setup =
      { r with host.files := files, device.memory.store := store } := by
  obtain ⟨store, files, hannotations⟩ : ∃ store files, r.loadAnnotations setup =
      { r with host.files := files, device.memory.store := store } := by
    unfold loadAnnotations
    split <;> exact ⟨_, _, rfl⟩
  rw [hannotations]
  unfold dumpRegistry
  split <;> exact ⟨_, _, rfl⟩

/-- What reading from disk and writing to it comes to. -/
theorem steady_stores (r : DeviceRun) (setup : Setup) :
    Steady r (((r.loadAnnotations setup).loadPersisted).dumpRegistry setup) := by
  obtain ⟨store, files, hstores⟩ := r.stores_eq setup
  rw [hstores]
  exact {}

/-- What refreshing comes to: everything is cancelled and forgotten, and then a negotiation begins or
    the device stays out of service. -/
inductive Renewed (r : DeviceRun) : DeviceRun → Prop
  | unready {registry : Registry} {r₁ : DeviceRun} (steady : Steady (r.cleared registry) r₁) :
      Renewed r { r₁ with device.state := .notReady }
  | negotiating {registry : Registry} {r₁ r₂ : DeviceRun} {id : SessionId}
      (steady : Steady (r.cleared registry) r₁)
      (launched : Launched { r₁ with device.state := .discovering } .discovering (.ok id, r₂)) :
      Renewed r r₂

theorem renewed_refresh (r : DeviceRun) (setup : Setup) : Renewed r (r.refresh setup) := by
  obtain ⟨registry, -, hrefresh | hrefresh⟩ := r.refresh_cases setup
  · rw [hrefresh]
    have hcleared : Steady (r.cleared registry) (r.cleared registry) := {}
    exact .unready hcleared
  · rw [hrefresh]
    have hstores := steady_stores (r.cleared registry) setup
    have hempty : ({ ((((r.cleared registry).loadAnnotations setup).loadPersisted).dumpRegistry
        setup) with device.state := .discovering } : DeviceRun).device.Orderly :=
      Device.orderly_of_empty hstores.sessions
    have hlaunched := launched_startSession hempty setup (s := .negotiation) rfl
    generalize hr₁ : (((r.cleared registry).loadAnnotations setup).loadPersisted).dumpRegistry
      setup = r₁ at *
    unfold discover
    split
    · rename_i id r₂ heq
      rw [heq] at hlaunched
      exact .negotiating hstores hlaunched
    · rename_i e r₂ heq
      rw [heq] at hlaunched
      cases hlaunched with
      | failed _ hsteady =>
        have hturned : Steady r₁ { r₂ with device.state := r₁.device.state } :=
          { hsteady with state := rfl }
        have hunready := Renewed.unready (hstores.trans hturned)
        exact hunready

end DeviceRun

namespace DeviceHistory

/-- What a call comes to that takes no response: nothing happens to any session, or everything is
    cancelled, or an operation begins, or a session is given up. -/
inductive Called (h : DeviceHistory) : DeviceHistory → Prop
  | steady {r : DeviceRun} (steady : DeviceRun.Steady h.run r)
      (next : h.run.device.state = .ready ∨ r.device.nextSession = h.run.device.nextSession) :
      Called h { h with run := r }
  | disabled : Called h { h with run := h.run.disable }
  | renewed {r : DeviceRun} (renewed : DeviceRun.Renewed h.run r) : Called h { h with run := r }
  | operating {r₁ r₂ : DeviceRun} {id : SessionId} (ready : h.run.device.state = .ready)
      (steady : DeviceRun.Steady h.run r₁) (launched : DeviceRun.Launched r₁ .ready (.ok id, r₂)) :
      Called h { run := r₂, ledger := { h.ledger with started := id :: h.ledger.started } }
  | abandoned {id : SessionId} {state : SessionState} {result : Bool × DeviceRun}
      (final : state.isAbandoned = true)
      (abandoned : DeviceRun.Abandoned h.run id state result) : Called h (h.giveUp id result)

theorem called_startOperation (h : DeviceHistory) (setup : Setup) (request : OperationRequest)
    (ho : h.run.device.Orderly) : Called h (h.start (h.run.startOperation setup request)) := by
  unfold DeviceRun.startOperation
  split
  · exact .steady {} (Or.inr rfl)
  · rename_i hserving
    have hready : h.run.device.state = .ready := by
      simpa [DeviceState.acceptsOperations] using hserving
    split
    · exact .steady {} (Or.inr rfl)
    · let r₁ : DeviceRun := { h.run with
        device.nextOperationId := Device.operationIdAfter h.run.device.nextOperationId }
      have hcounted : DeviceRun.Steady h.run r₁ := {}
      have hlaunched := DeviceRun.launched_startSession (hcounted.orderly ho) setup
        (s := .operation request h.run.device.nextOperationId) rfl
      generalize r₁.startSession setup
        (.operation request h.run.device.nextOperationId) = result at hlaunched
      cases hlaunched with
      | placed hwaits hstage hopening hcommand hmetadata hplaced hstart =>
        exact .operating hready hcounted
          (.placed hwaits hstage hopening hcommand hmetadata hplaced hstart)
      | failed e hsteady => exact .steady (hcounted.trans hsteady) (Or.inl hready)

/-- What each call comes to that takes no response. -/
theorem called_ask (h : DeviceHistory) (setup : Setup) (ho : h.run.device.Orderly)
    {call : DeviceCall} (hcall : ∀ instanceId message, call ≠ .handleResponse instanceId message) :
    Called h (h.ask setup call) := by
  cases call with
  | refresh => exact .renewed (DeviceRun.renewed_refresh h.run setup)
  | disable => exact .disabled
  | setPayloads payloads => exact .steady {} (Or.inr rfl)
  | startOperation request => exact called_startOperation h setup request ho
  | expire id => exact .abandoned rfl (DeviceRun.abandoned_abandon h.run id .timedOut)
  | cancel id => exact .abandoned rfl (DeviceRun.abandoned_abandon h.run id .cancelled)
  | handleResponse instanceId message => exact absurd rfl (hcall instanceId message)

/-- What a stride comes to, and the answer that the device takes with it. -/
inductive Strode (h : DeviceHistory) : Option Answer → DeviceHistory → Prop
  | called {h' : DeviceHistory} (called : Called h h') : Strode h none h'
  | settled {instanceId : UInt8} {request : PendingRequest} {body : Except Failure Bytes}
      {r : DeviceRun} (pending : h.run.device.pending.get? instanceId = some request)
      (settled : DeviceRun.Settled (h.run.freed instanceId) request body r) :
      Strode h (some { request, body })
        { run := r, ledger := { h.ledger with answered := h.ledger.answered + 1 } }
  | rounded {r : DeviceRun} (rounded : DeviceRun.Rounded h.run r) :
      Strode h none { h with run := r }

/-- What each stride comes to. -/
theorem strode_stride (h : DeviceHistory) (setup : Setup) (ho : h.run.device.Orderly)
    (hstaged : h.run.device.Staged) (stride : Stride) :
    Strode h (h.run.answer? stride) (h.stride setup stride) := by
  cases stride with
  | round => exact .rounded (DeviceRun.rounded_round setup ho hstaged)
  | ask call =>
    by_cases hcall : ∃ instanceId message, call = .handleResponse instanceId message
    · obtain ⟨instanceId, message, rfl⟩ := hcall
      show Strode h _ (h.ask setup (.handleResponse instanceId message))
      unfold DeviceRun.answer?
      dsimp only
      cases hpending : h.run.device.pending.get? instanceId with
      | none =>
        rw [ask_of_unknown hpending]
        exact .called (.steady {} (Or.inr rfl))
      | some request =>
        rw [ask_of_pending hpending]
        exact .settled hpending (DeviceRun.settled_settle setup (DeviceRun.orderly_freed ho instanceId)
          (DeviceRun.staged_freed hstaged instanceId) instanceId request message)
    · have hnone : h.run.answer? (.ask call) = none := by
        unfold DeviceRun.answer?
        split
        · rename_i heq
          exact absurd ⟨_, _, Stride.ask.inj heq⟩ hcall
        · rfl
      rw [hnone]
      refine .called (called_ask h setup ho fun instanceId message heq => ?_)
      exact hcall ⟨instanceId, message, heq⟩

end DeviceHistory

end DeviceEnablement
