/-
  The moves of a device.

  Whatever a device does by itself is put together from few moves, so that an invariant is proved
  for the moves and holds of every function.

  1. A session ends silently or with a report (`Closed`).
  2. `Move`: the device turns to another state, begins a download, or takes the oldest request from
     its queue.  Each move leaves no session half done.
  3. `closed_fail`, `closed_finish`: a session that ends is closed, and moves follow.
  4. `Rounds`: the rounds of the pump, each of which is a sequence of moves (`Rounds.moves`).
-/
import DeviceEnablement.Proofs.Device.Dispatch
import Mathlib.Logic.Relation

namespace DeviceEnablement.DeviceRun

/-! ## Sessions that end -/

/-- `Closed r id s r'`: in `r'` the session `s` is forgotten.  The end of an operation is reported,
    unless the operation was given up. -/
inductive Closed (r : DeviceRun) (id : SessionId) (s : Session) : DeviceRun → Prop
  | silent (h : s.task.isOperation = false ∨ s.state.isAbandoned = true) :
      Closed r id s (r.dropSession id)
  | reported (operation : s.task.isOperation = true) (kept : s.state.isAbandoned = false)
      (result : Except Failure OperationResult) :
      Closed r id s ((r.dropSession id).report id result)

/-! ## Moves -/

/-- One move of a device, between two calls or after the answer to a request. -/
inductive Move (setup : Setup) : DeviceRun → DeviceRun → Prop
  /-- The device turns to another state. -/
  | turn (r : DeviceRun) (state : DeviceState) (registry : Registry) (queue : List DictionaryKey) :
      Move setup r
        { r with device := { r.device with state, registry, dictionaryQueue := queue } }
  /-- A download begins, or cannot begin. -/
  | download {r : DeviceRun} {key : DictionaryKey} {result : Except Failure SessionId × DeviceRun}
      (started : Started setup r (.download key) result) : Move setup r result.2
  /-- The oldest request that waits is sent. -/
  | released {r r' : DeviceRun} {id : SessionId} {out : Outgoing}
      {rest : List (SessionId × Outgoing)} (capacity : r.device.hasCapacity = true)
      (oldest : r.device.waiting = (id, out) :: rest) (live : r.device.isLive id = true)
      (sent : Sent { r with device.waiting := rest } id out r') : Move setup r r'
  /-- The oldest request that waits cannot be sent, which ends its session. -/
  | unsent {r r' : DeviceRun} {id : SessionId} {out : Outgoing}
      {rest : List (SessionId × Outgoing)} {s : Session} {host : Host}
      (oldest : r.device.waiting = (id, out) :: rest)
      (found : r.device.sessions.get? id = some s) (live : s.state.isTerminal = false)
      (alike : r.host.Undisturbed host)
      (closed : Closed { r with host, device.waiting := rest } id s r') : Move setup r r'
  /-- The oldest request that waits belongs to no live session. -/
  | skipped {r : DeviceRun} {id : SessionId} {out : Outgoing} {rest : List (SessionId × Outgoing)}
      (oldest : r.device.waiting = (id, out) :: rest) (dead : r.device.isLive id = false) :
      Move setup r { r with device.waiting := rest }

/-- Any number of moves. -/
abbrev Moves (setup : Setup) : DeviceRun → DeviceRun → Prop :=
  Relation.ReflTransGen (Move setup)

variable {setup : Setup}

theorem moves_startDownloads (setup : Setup) (keys : List DictionaryKey) (r : DeviceRun) :
    Moves setup r (r.startDownloads setup keys) := by
  induction keys generalizing r with
  | nil => exact .single (.turn r .ready r.device.registry [])
  | cons key rest ih =>
    -- The key leaves the queue first, whatever becomes of its download.
    have hturn : Move setup r { r with device.dictionaryQueue := rest } :=
      .turn r r.device.state r.device.registry rest
    unfold startDownloads
    dsimp only
    split
    · exact .head hturn (ih _)
    · have hstarted :=
        started_startSession { r with device.dictionaryQueue := rest } setup (.download key)
      split
      · rename_i r' heq
        rw [heq] at hstarted
        exact .head hturn (.head (.download hstarted)
          (.single (.turn r' .busy r'.device.registry r'.device.dictionaryQueue)))
      · rename_i r' heq
        rw [heq] at hstarted
        exact .head hturn (.head (.download hstarted) (ih r'))

theorem moves_nextDictionary (r : DeviceRun) (setup : Setup) :
    Moves setup r (r.nextDictionary setup) := by
  unfold nextDictionary
  split
  · exact moves_startDownloads setup _ r
  · exact moves_startDownloads setup _ r
  · exact .refl

theorem moves_finishNegotiation (r : DeviceRun) (setup : Setup) :
    Moves setup r (r.finishNegotiation setup) := by
  unfold finishNegotiation
  dsimp only
  split
  · exact .head (.turn r .ready (r.device.registry.setOperations r.device.supportedOperations) _)
      (moves_nextDictionary _ setup)
  · exact .head (.turn r .ready (r.device.registry.setOperations r.device.supportedOperations)
      r.device.dictionaryQueue) (moves_nextDictionary _ setup)

/-- A session that fails is closed, and whatever else follows is moves. -/
theorem closed_fail (r : DeviceRun) (setup : Setup) (id : SessionId) {s : Session}
    {task : SessionTask} (ha : s.state.isAbandoned = false)
    (htask : task.isOperation = s.task.isOperation) (e : Failure) :
    ∃ r₁, Closed r id s r₁ ∧ Moves setup r₁ ((r.dropSession id).fail setup id task e) := by
  cases task with
  | negotiation phase =>
    exact ⟨_, .silent (Or.inl htask.symm), .single (.turn _ (stateAfterNegotiation e)
      r.device.registry r.device.dictionaryQueue)⟩
  | download d => exact ⟨_, .silent (Or.inl htask.symm), moves_nextDictionary _ setup⟩
  | operation o => exact ⟨_, .reported htask.symm ha (.error e), .refl⟩

/-- A session that has yielded its output is closed, and whatever else follows is moves. -/
theorem closed_finish (r : DeviceRun) (setup : Setup) {id : SessionId} {s : Session}
    {output : SessionOutput} (ha : s.state.isAbandoned = false)
    (houtput : output.isOperation = s.task.isOperation) :
    ∃ r₁, Closed r id s r₁ ∧ Moves setup r₁ ((r.dropSession id).finish setup id output) := by
  cases output with
  | negotiated => exact ⟨_, .silent (Or.inl houtput.symm), moves_finishNegotiation _ setup⟩
  | dictionary key => exact ⟨_, .silent (Or.inl houtput.symm), moves_nextDictionary _ setup⟩
  | operation result => exact ⟨_, .reported houtput.symm ha (.ok result), .refl⟩

/-! ## The pump -/

theorem isLive_eq (d : Device) (id : SessionId) :
    d.isLive id = (d.sessions.get? id).any fun s => !s.state.isTerminal := by
  unfold Device.isLive Device.sessionState?
  rw [Option.any_map]

theorem not_isAbandoned_of_not_isTerminal {state : SessionState} (h : state.isTerminal = false) :
    state.isAbandoned = false := by
  cases state <;> first | rfl | cases h

theorem moves_sendWaiting {r : DeviceRun} {id : SessionId} {out : Outgoing}
    {rest : List (SessionId × Outgoing)} (hcapacity : r.device.hasCapacity = true)
    (hw : r.device.waiting = (id, out) :: rest) :
    Moves setup r ({ r with device.waiting := rest : DeviceRun }.sendWaiting setup id out) := by
  have hlive := isLive_eq r.device id
  unfold sendWaiting
  dsimp only
  split
  · rename_i hnone
    rw [hnone] at hlive
    exact .single (.skipped hw hlive)
  · rename_i s hs
    rw [hs, Option.any_some] at hlive
    split
    · rename_i hterminal
      exact .single (.skipped hw (by rw [hlive, hterminal]; rfl))
    · rename_i hterminal
      rw [Bool.not_eq_true] at hterminal
      rcases sendNow_cases { r with device.waiting := rest } id out with
        ⟨r', heq, hsent⟩ | ⟨e, host, heq, halike⟩
      · rw [heq]
        exact .single (.released hcapacity hw (by rw [hlive, hterminal]; rfl) hsent)
      · rw [heq]
        obtain ⟨r₁, hclosed, hmoves⟩ := closed_fail { r with host, device.waiting := rest } setup id
          (not_isAbandoned_of_not_isTerminal hterminal) rfl e
        exact .head (.unsent hw hs hterminal halike hclosed) hmoves

theorem pump_of_full {r : DeviceRun} (h : ¬ r.device.hasCapacity = true) : r.pump setup = r := by
  rw [pump, if_neg h]

theorem pump_of_empty {r : DeviceRun} (h : r.device.waiting = []) : r.pump setup = r := by
  rw [pump]
  split
  · split
    · rfl
    · rename_i hcons
      rw [h] at hcons
      cases hcons
  · rfl

/-- One round of the pump. -/
theorem pump_of_cons {r : DeviceRun} {id : SessionId} {out : Outgoing}
    {rest : List (SessionId × Outgoing)} (hcapacity : r.device.hasCapacity = true)
    (hw : r.device.waiting = (id, out) :: rest) :
    r.pump setup =
      ({ r with device.waiting := rest : DeviceRun }.sendWaiting setup id out).pump setup := by
  rw [pump, if_pos hcapacity]
  split
  · rename_i hnil
    rw [hw] at hnil
    cases hnil
  · rename_i hcons
    rw [hw] at hcons
    cases hcons
    rfl

/-- `Rounds setup r r'`: the pump, set going in `r`, comes to begin a round in `r'`. -/
inductive Rounds (setup : Setup) (r : DeviceRun) : DeviceRun → Prop
  | first : Rounds setup r r
  | next {r' : DeviceRun} {id : SessionId} {out : Outgoing} {rest : List (SessionId × Outgoing)}
      (before : Rounds setup r r') (capacity : r'.device.hasCapacity = true)
      (oldest : r'.device.waiting = (id, out) :: rest) :
      Rounds setup r ({ r' with device.waiting := rest : DeviceRun }.sendWaiting setup id out)

theorem Rounds.moves {r r' : DeviceRun} (h : Rounds setup r r') : Moves setup r r' := by
  induction h with
  | first => exact .refl
  | next _ hcapacity hw ih => exact ih.trans (moves_sendWaiting hcapacity hw)

/-- The pump ends in a round in which there is no capacity or nothing waits. -/
theorem rounds_pump (r : DeviceRun) (setup : Setup) :
    Rounds setup r (r.pump setup) ∧
      ((r.pump setup).device.hasCapacity = false ∨ (r.pump setup).device.waiting = []) := by
  -- The induction is on the rounds to come, so those that were made are carried along.
  have hrounds : ∀ r₀, Rounds setup r₀ r → Rounds setup r₀ (r.pump setup) ∧
      ((r.pump setup).device.hasCapacity = false ∨ (r.pump setup).device.waiting = []) := by
    induction r using pump.induct setup with
    | case1 r hcapacity hw =>
      rw [pump_of_empty hw]
      exact fun _ hbefore => ⟨hbefore, Or.inr hw⟩
    | case2 r hcapacity id out rest hw ih =>
      rw [pump_of_cons hcapacity hw]
      exact fun r₀ hbefore => ih r₀ (.next hbefore hcapacity hw)
    | case3 r hfull =>
      rw [pump_of_full hfull]
      exact fun _ hbefore => ⟨hbefore, Or.inl (by simpa using hfull)⟩
  exact hrounds r .first

theorem moves_pump (r : DeviceRun) (setup : Setup) : Moves setup r (r.pump setup) :=
  (rounds_pump r setup).1.moves

end DeviceEnablement.DeviceRun
