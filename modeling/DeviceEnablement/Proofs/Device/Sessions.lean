/-
  The sessions of a device.

  1. `Device.Orderly`: a session waits for a response or was given up, and its number was given out.
  2. `Device.runs`: whether a session is an operation that still runs.  In an orderly device that is
     an operation that is live (`Orderly.runs_eq_isLive`).
  3. `SameSessions`: what sends, queues or learns something leaves the sessions and the reports
     alone.
-/
import DeviceEnablement.Proofs.Device.History

namespace DeviceEnablement

namespace Device

/-- Whether each session waits for a response or was given up, and has a number that was given
    out. -/
structure Orderly (d : Device) : Prop where
  states : ∀ id s, d.sessions.get? id = some s →
    s.state = .waiting ∨ s.state.isAbandoned = true
  numbers : ∀ id s, d.sessions.get? id = some s → id.value < d.nextSession

/-- Whether a session is an operation that was not given up. -/
def runs (d : Device) (id : SessionId) : Bool :=
  (d.sessions.get? id).any fun s => s.task.isOperation && !s.state.isAbandoned

variable {d d' : Device} {id : SessionId} {s : Session}

namespace Orderly

variable (h : d.Orderly)
include h

theorem of_sessions (hsessions : d'.sessions = d.sessions)
    (hnext : d.nextSession ≤ d'.nextSession) : d'.Orderly := by
  constructor
  · rw [hsessions]
    exact h.states
  · rw [hsessions]
    exact fun id s hs => Nat.lt_of_lt_of_le (h.numbers id s hs) hnext

theorem of_erase (hsessions : d'.sessions = d.sessions.erase id)
    (hnext : d.nextSession ≤ d'.nextSession) : d'.Orderly := by
  have hget : ∀ other s, d'.sessions.get? other = some s → d.sessions.get? other = some s := by
    intro other s hs
    rw [hsessions, Table.get?_erase] at hs
    split at hs
    · cases hs
    · exact hs
  constructor
  · exact fun other s hs => h.states other s (hget other s hs)
  · exact fun other s hs => Nat.lt_of_lt_of_le (h.numbers other s (hget other s hs)) hnext

theorem of_insert (hsessions : d'.sessions = d.sessions.insert id s)
    (hnext : d.nextSession ≤ d'.nextSession)
    (hs : s.state = .waiting ∨ s.state.isAbandoned = true) (hid : id.value < d'.nextSession) :
    d'.Orderly := by
  constructor
  · intro other s' hs'
    rw [hsessions, Table.get?_insert] at hs'
    split at hs'
    · cases hs'
      exact hs
    · exact h.states other s' hs'
  · intro other s' hs'
    rw [hsessions, Table.get?_insert] at hs'
    split at hs'
    · rename_i he
      exact he ▸ hid
    · exact Nat.lt_of_lt_of_le (h.numbers other s' hs') hnext

/-- The number that comes next has no session. -/
theorem get?_next : d.sessions.get? ⟨d.nextSession⟩ = none := by
  cases hs : d.sessions.get? ⟨d.nextSession⟩ with
  | none => rfl
  | some s => exact absurd (h.numbers _ s hs) (Nat.lt_irrefl _)

/-- A session is terminal if and only if it was given up. -/
theorem isTerminal_eq (hs : d.sessions.get? id = some s) :
    s.state.isTerminal = s.state.isAbandoned := by
  rcases h.states id s hs with hw | ha
  · rw [hw]
    rfl
  · cases hstate : s.state with
    | timedOut | cancelled => rfl
    | idle | waiting | operationFailed | completed =>
      rw [hstate] at ha
      cases ha

/-- An operation runs if and only if it is live. -/
theorem runs_eq_isLive
    (hoperation : ∀ s, d.sessions.get? id = some s → s.task.isOperation = true) :
    d.runs id = d.isLive id := by
  rw [DeviceRun.isLive_eq]
  unfold runs
  cases hs : d.sessions.get? id with
  | none => rfl
  | some s =>
    rw [Option.any_some, Option.any_some, hoperation s hs, h.isTerminal_eq hs]
    rfl

end Orderly

theorem orderly_of_empty (hsessions : d.sessions = {}) : d.Orderly := by
  have hnone : ∀ id, d.sessions.get? id = none := by
    intro id
    rw [hsessions]
    rfl
  constructor <;>
    · intro id s hs
      rw [hnone] at hs
      cases hs

end Device

namespace DeviceRun

/-- Whether two runs agree on sessions and reports. -/
structure SameSessions (r r' : DeviceRun) : Prop where
  sessions : r'.device.sessions = r.device.sessions := by rfl
  next : r'.device.nextSession = r.device.nextSession := by rfl
  completions : r'.completions = r.completions := by rfl

variable {r r' : DeviceRun} {id : SessionId} {out : Outgoing}

theorem Resembles.sameSessions (h : r.Resembles r') : r.SameSessions r' :=
  ⟨h.traffic.sessions, h.traffic.nextSession, h.completions⟩

theorem Sent.sameSessions (h : Sent r id out r') : r.SameSessions r' := by
  cases h
  exact {}

theorem Placed.sameSessions (h : Placed r id out r') : r.SameSessions r' := by
  cases h with
  | sent _ hsent => exact hsent.sameSessions
  | queued => exact {}

end DeviceRun

end DeviceEnablement
