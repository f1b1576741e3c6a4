/-
  Answers to requests, and sessions that are given up.

  1. An answer makes its session go on or end, or does nothing (`Answered`).
  2. `answered_handleResponse`: handling a response is one answer and then moves.
  3. A session that is given up is marked as long as its request is outstanding, and else forgotten
     (`Abandoned`).
-/
import DeviceEnablement.Proofs.Device.Moves

namespace DeviceEnablement.DeviceRun

variable {setup : Setup}

/-! ## Answers -/

/-- What the answer to `request` does, in a run in which its instance id is already given back:
    nothing, or its session goes on, or its session is closed. -/
inductive Answered (setup : Setup) (r : DeviceRun) (request : PendingRequest) : DeviceRun → Prop
  | stale (old : request.generation ≠ r.device.generation) : Answered setup r request r
  | orphan (current : request.generation = r.device.generation)
      (missing : r.device.sessions.get? request.session = none) : Answered setup r request r
  | continued {s s' : Session} {memory : DeviceMemory} {body : Bytes} {out : Outgoing}
      {r' : DeviceRun} (current : request.generation = r.device.generation)
      (found : r.device.sessions.get? request.session = some s)
      (kept : s.state.isAbandoned = false)
      (step : s.onResponse (r.device.scope setup) r.device.memory body =
        (.ok (.send out), s', memory))
      (placed : Placed (({ r with device.memory := memory } : DeviceRun).keepSession
        request.session s') request.session out r') : Answered setup r request r'
  | closed {s : Session} {memory : DeviceMemory} {host : Host} {r' : DeviceRun}
      (current : request.generation = r.device.generation)
      (found : r.device.sessions.get? request.session = some s)
      (alike : r.host.Undisturbed host)
      (closed : Closed { r with host, device.memory := memory } request.session s r') :
      Answered setup r request r'

section Answers

variable {r : DeviceRun} {request : PendingRequest} {s : Session}

/-- A session that took a response goes on, or it is closed and moves follow. -/
theorem answered_advance {s' : Session} {memory : DeviceMemory} {body : Bytes}
    {result : Except Failure Step} (hcurrent : request.generation = r.device.generation)
    (hs : r.device.sessions.get? request.session = some s) (ha : s.state.isAbandoned = false)
    (hstep : s.onResponse (r.device.scope setup) r.device.memory body = (result, s', memory)) :
    ∃ r₁, Answered setup r request r₁ ∧
      Moves setup r₁ (({ r with device.memory := memory } : DeviceRun).advance setup
        request.session s' result) := by
  have htask := Session.isOperation_onResponse hstep
  cases result with
  | error e =>
    obtain ⟨r₁, hclosed, hmoves⟩ :=
      closed_fail { r with device.memory := memory } setup _ ha htask e
    exact ⟨r₁, .closed hcurrent hs {} hclosed, hmoves⟩
  | ok step =>
    have hsuits := Session.onResponse_suits ha hstep
    cases step with
    | send out =>
      unfold advance
      dsimp only
      rcases (({ r with device.memory := memory } : DeviceRun).keepSession request.session
        s').dispatch_cases request.session out with ⟨r', heq, hplaced⟩ | ⟨e, host, heq, halike⟩
      · rw [heq]
        exact ⟨r', .continued hcurrent hs ha hstep hplaced, .refl⟩
      · rw [heq]
        dsimp only
        rw [dropSession_keepSession]
        obtain ⟨r₁, hclosed, hmoves⟩ :=
          closed_fail { r with host, device.memory := memory } setup _ ha htask e
        exact ⟨r₁, .closed hcurrent hs halike hclosed, hmoves⟩
    | done output =>
      obtain ⟨r₁, hclosed, hmoves⟩ :=
        closed_finish { r with device.memory := memory } setup ha hsuits
      exact ⟨r₁, .closed hcurrent hs {} hclosed, hmoves⟩
    | discarded => exact absurd hsuits id

theorem answered_settle (r : DeviceRun) (setup : Setup) (instanceId : UInt8)
    (request : PendingRequest) (message : Option Bytes) :
    ∃ r₁, Answered setup r request r₁ ∧
      Moves setup r₁ (r.settle setup instanceId request message) := by
  unfold settle
  split
  · rename_i hstale
    exact ⟨r, .stale hstale, .refl⟩
  · rename_i hgeneration
    have hcurrent := Decidable.of_not_not hgeneration
    split
    · rename_i hnone
      exact ⟨r, .orphan hcurrent hnone, .refl⟩
    · rename_i s hs
      split
      · -- The response is late: its session was only kept for it.
        rename_i ha
        exact ⟨_, .closed hcurrent hs {} (.silent (Or.inr ha)), .refl⟩
      · rename_i ha
        rw [Bool.not_eq_true] at ha
        unfold deliver
        split
        · rename_i e _
          obtain ⟨r₁, hclosed, hmoves⟩ := closed_fail r setup _ ha rfl e
          exact ⟨r₁, .closed hcurrent hs {} hclosed, hmoves⟩
        · exact answered_advance hcurrent hs ha rfl

end Answers

/-- The run in which a request is no longer outstanding and its instance id is given back. -/
def freed (r : DeviceRun) (instanceId : UInt8) : DeviceRun :=
  { r with
    device.pending := r.device.pending.erase instanceId
    host.ids := r.host.ids.free r.device.eid instanceId }

theorem handleResponse_of_unknown {r : DeviceRun} {instanceId : UInt8}
    (h : r.device.pending.get? instanceId = none) (message : Option Bytes) :
    r.handleResponse setup instanceId message = r := by
  rw [handleResponse, h]

theorem handleResponse_of_pending {r : DeviceRun} {instanceId : UInt8} {request : PendingRequest}
    (h : r.device.pending.get? instanceId = some request) (message : Option Bytes) :
    r.handleResponse setup instanceId message =
      ((r.freed instanceId).settle setup instanceId request message).pump setup := by
  rw [handleResponse, h]
  rfl

/-- Handling a response is one answer and then moves. -/
theorem answered_handleResponse (setup : Setup) {r : DeviceRun} {instanceId : UInt8}
    {request : PendingRequest}
    (h : r.device.pending.get? instanceId = some request) (message : Option Bytes) :
    ∃ r₁, Answered setup (r.freed instanceId) request r₁ ∧
      Moves setup r₁ (r.handleResponse setup instanceId message) := by
  obtain ⟨r₁, hanswered, hmoves⟩ :=
    answered_settle (r.freed instanceId) setup instanceId request message
  rw [handleResponse_of_pending h]
  exact ⟨r₁, hanswered, hmoves.trans (moves_pump _ setup)⟩

/-! ## Giving up -/

/-- The run in which a session has no request in the queue. -/
def withdrawn (r : DeviceRun) (id : SessionId) : DeviceRun :=
  { r with device.waiting := r.device.waiting.filter fun entry => entry.1 ≠ id }

/-- What giving a session up may come to: there is none that still runs, or it is marked because
    its request is outstanding, or it is forgotten. -/
inductive Abandoned (r : DeviceRun) (id : SessionId) (state : SessionState) :
    Bool × DeviceRun → Prop
  | ended : Abandoned r id state (false, r)
  | marked {s : Session} {request : PendingRequest}
      (found : r.device.sessions.get? id = some s) (live : s.state.isTerminal = false)
      (outstanding : request ∈ r.device.pending.values) (own : request.session = id) :
      Abandoned r id state (true, (r.withdrawn id).keepSession id { s with state })
  | forgotten {s : Session} (found : r.device.sessions.get? id = some s)
      (live : s.state.isTerminal = false)
      (answered : ∀ request ∈ r.device.pending.values, request.session ≠ id) :
      Abandoned r id state (true, (r.withdrawn id).dropSession id)

theorem abandoned_abandon (r : DeviceRun) (id : SessionId) (state : SessionState) :
    Abandoned r id state (r.abandon id state) := by
  unfold abandon
  split
  · exact .ended
  · rename_i s hs
    split
    · exact .ended
    · rename_i hlive
      rw [Bool.not_eq_true] at hlive
      dsimp only
      split
      · rename_i hany
        obtain ⟨request, hmem, hown⟩ := List.any_eq_true.mp hany
        exact .marked hs hlive hmem (of_decide_eq_true hown)
      · rename_i hnone
        refine .forgotten hs hlive fun request hmem hown => hnone ?_
        exact List.any_eq_true.mpr ⟨request, hmem, decide_eq_true hown⟩

/-- Only a session that still runs is given up. -/
theorem Abandoned.found {r : DeviceRun} {id : SessionId} {state : SessionState}
    {result : Bool × DeviceRun} (h : Abandoned r id state result) (hresult : result.1 = true) :
    ∃ s, r.device.sessions.get? id = some s ∧ s.state.isTerminal = false := by
  cases h with
  | ended => cases hresult
  | marked hs hlive => exact ⟨_, hs, hlive⟩
  | forgotten hs hlive => exact ⟨_, hs, hlive⟩

end DeviceEnablement.DeviceRun
