/-
  A session and what its device answers.

  A session is handed the bodies of responses, one after the other, until it ends.  In between its
  owner may give it up.

  1. `Standing`: what a session waits for, or how it has ended.
  2. `Dialogue`: a session with all that was said, requests and the bodies of their responses.
     `Dialogue.hear` hands it the next response, `Dialogue.giveUp` gives it up.
  3. `Session.dialogue`: the dialogue of a session that begins, after any occurrences;
     `Dialogue.afterAll_induction`: what one occurrence preserves, all of them preserve.
  4. `Dialogue.waiting`: an operation that waits for a response, and what it hears (`hear_waiting`,
     `hear_send`): its next request follows, or it has ended (`onResponse_cases`).  It discards nothing
     unless it was given up (`discarded_iff`).  An operation that begins waits for its first response,
     or has failed (`opening_send`, `opening_error`).
-/
import DeviceEnablement.Proofs.Session

namespace DeviceEnablement

/-- A request and the body of the response to it. -/
structure Exchange where
  request : Outgoing
  response : Bytes
  deriving DecidableEq

/-- What a session waits for, or how it has ended. -/
inductive Standing
  /-- The session has not begun. -/
  | idle
  | awaiting (request : Outgoing)
  | done (output : SessionOutput)
  | failed (cause : Failure)
  deriving DecidableEq

namespace Standing

/-- The standing after a step. -/
def after (standing : Standing) : Except Failure Step → Standing
  | .ok (.send request) => awaiting request
  | .ok (.done output) => done output
  | .ok .discarded => standing
  | .error cause => failed cause

/-- The request that has not been answered. -/
def request? : Standing → Option Outgoing
  | awaiting request => some request
  | idle | done _ | failed _ => none

theorem request?_eq_none {standing : Standing} (h : ∀ request, standing ≠ .awaiting request) :
    standing.request? = none := by
  cases standing with
  | awaiting request => exact absurd rfl (h request)
  | idle | done | failed => rfl

theorem after_awaiting_eq_done {request : Outgoing} {result : Except Failure Step}
    {output : SessionOutput} (h : (awaiting request).after result = .done output) :
    result = .ok (.done output) := by
  cases result with
  | error e => cases h
  | ok step =>
    cases step with
    | send | discarded => cases h
    | done output' =>
      cases h
      rfl

end Standing

/-- What may happen to a session that waits. -/
inductive Occurrence
  | response (body : Bytes)
  | expired
  | cancelled
  deriving DecidableEq

/-- A session, what it may change, and all that was said. -/
structure Dialogue where
  session : Session
  memory : DeviceMemory
  /-- The requests that have been answered, the earliest first. -/
  exchanges : List Exchange
  standing : Standing

namespace Dialogue

/-- Every request so far, the earliest first. -/
def sent (d : Dialogue) : List Outgoing :=
  d.exchanges.map Exchange.request ++ d.standing.request?.toList

/-- The commands of all requests so far. -/
def commands (d : Dialogue) : List Command := d.sent.map Outgoing.command

/-- The dialogue of a session that begins. -/
def opening (s : Session) (scope : SessionScope) (memory : DeviceMemory) : Dialogue :=
  match s.start scope memory with
  | (result, session, memory) =>
    { session, memory, exchanges := [], standing := Standing.idle.after result }

/-- Hands the session the body of a response to its last request.  A session that has ended is handed
    nothing, and one that was given up discards what it is handed. -/
def hear (d : Dialogue) (scope : SessionScope) (body : Bytes) : Dialogue :=
  match d.standing with
  | .awaiting request =>
    match d.session.onResponse scope d.memory body with
    | (.ok .discarded, session, memory) => { d with session, memory }
    | (result, session, memory) =>
      { session, memory, exchanges := d.exchanges ++ [⟨request, body⟩],
        standing := d.standing.after result }
  | .idle | .done _ | .failed _ => d

/-- Who was given up stays as it is. -/
theorem hear_abandoned {d : Dialogue} (h : d.session.state.isAbandoned = true)
    (scope : SessionScope) (body : Bytes) : d.hear scope body = d := by
  unfold hear
  split
  · unfold Session.onResponse
    rw [if_pos h]
  · rfl
  · rfl
  · rfl

/-- Who has ended stays as it is. -/
theorem hear_ended {d : Dialogue} (h : ∀ request, d.standing ≠ .awaiting request)
    (scope : SessionScope) (body : Bytes) : d.hear scope body = d := by
  unfold hear
  split
  · rename_i request hstanding
    exact absurd hstanding (h request)
  · rfl
  · rfl
  · rfl

/-- A session that waits for a response stands as its step says. -/
theorem standing_hear {d : Dialogue} {request : Outgoing} (h : d.standing = .awaiting request)
    (scope : SessionScope) (body : Bytes) :
    (d.hear scope body).standing =
      (Standing.awaiting request).after (d.session.onResponse scope d.memory body).1 := by
  unfold hear
  rw [h]
  dsimp only
  split
  · rename_i heq
    rw [heq]
    rfl
  · rename_i heq
    rw [heq]

/-- Gives the session up, unless it has ended. -/
def giveUp (d : Dialogue) (state : SessionState) : Dialogue :=
  if d.session.state.isTerminal then d else { d with session := { d.session with state } }

/-- The dialogue after one more occurrence. -/
def after (d : Dialogue) (scope : SessionScope) : Occurrence → Dialogue
  | .response body => d.hear scope body
  | .expired => d.giveUp .timedOut
  | .cancelled => d.giveUp .cancelled

/-- The dialogue after these occurrences. -/
def afterAll (d : Dialogue) (scope : SessionScope) (occurrences : List Occurrence) : Dialogue :=
  occurrences.foldl (fun d occurrence => d.after scope occurrence) d

theorem afterAll_append (d : Dialogue) (scope : SessionScope)
    (occurrences further : List Occurrence) :
    d.afterAll scope (occurrences ++ further) = (d.afterAll scope occurrences).afterAll scope further :=
  List.foldl_append

/-- What one occurrence preserves, all occurrences preserve. -/
theorem afterAll_induction {P : Dialogue → Prop} {scope : SessionScope} {d : Dialogue}
    (step : ∀ d occurrence, P d → P (d.after scope occurrence)) (h : P d)
    (occurrences : List Occurrence) : P (d.afterAll scope occurrences) := by
  induction occurrences generalizing d with
  | nil => exact h
  | cons occurrence occurrences ih => exact ih (step d occurrence h)

end Dialogue

/-- The dialogue of a session that begins, after these occurrences. -/
def Session.dialogue (s : Session) (scope : SessionScope) (memory : DeviceMemory)
    (occurrences : List Occurrence) : Dialogue :=
  (Dialogue.opening s scope memory).afterAll scope occurrences

/-! ## Operations -/

namespace Dialogue

variable {scope : SessionScope} {memory memory' : DeviceMemory} {o o' : Operation}
  {exchanges : List Exchange} {request : Outgoing} {body : Bytes}

/-- An operation that waits for the response to a request. -/
def waiting (o : Operation) (memory : DeviceMemory) (exchanges : List Exchange)
    (request : Outgoing) : Dialogue :=
  { session := { state := .waiting, task := .operation o }, memory, exchanges,
    standing := .awaiting request }

theorem sent_waiting :
    (waiting o memory exchanges request).sent = exchanges.map Exchange.request ++ [request] := rfl

section Opening

variable {asked : OperationRequest} {operationId : UInt16} {out : Outgoing} {e : Failure}

theorem opening_send
    (h : ({ request := asked, operationId } : Operation).start scope memory =
      (.ok (.send out), o, memory')) :
    opening (.operation asked operationId) scope memory = waiting o memory' [] out := by
  unfold opening Session.operation Session.start SessionTask.start
  dsimp only
  rw [h, if_neg (fun hne => hne rfl)]
  rfl

theorem opening_error
    (h : ({ request := asked, operationId } : Operation).start scope memory =
      (.error e, o, memory')) :
    opening (.operation asked operationId) scope memory =
      { session := { state := .idle, task := .operation o }, memory := memory', exchanges := [],
        standing := .failed e } := by
  unfold opening Session.operation Session.start SessionTask.start
  dsimp only
  rw [h, if_neg (fun hne => hne rfl)]
  rfl

end Opening

/-- An operation that waits for a response does not discard it. -/
theorem ne_discarded {result : Except Failure Step}
    (h : o.onResponse scope memory body = (result, o', memory')) : result ≠ .ok .discarded := by
  intro hdiscarded
  have hsuits := o.onResponse_suits scope memory body ((congrArg Prod.fst h).trans hdiscarded)
  exact hsuits

/-- An operation discards a response exactly when it was given up. -/
theorem discarded_iff (o : Operation) (state : SessionState) (scope : SessionScope)
    (memory : DeviceMemory) (body : Bytes) :
    (({ state, task := .operation o } : Session).onResponse scope memory body).1 = .ok .discarded ↔
      state.isAbandoned = true := by
  unfold Session.onResponse
  dsimp only
  constructor
  · intro hdiscarded
    split at hdiscarded
    · assumption
    · split at hdiscarded
      · cases hdiscarded
      · have hresult : o.onResponse scope memory body = (_, _, _) := rfl
        exact absurd hdiscarded (ne_discarded hresult)
  · intro habandoned
    rw [if_pos habandoned]

/-- A response takes an operation a step further. -/
theorem hear_waiting {result : Except Failure Step}
    (h : o.onResponse scope memory body = (result, o', memory')) :
    (waiting o memory exchanges request).hear scope body =
      { session := { state := Session.stateAfter .waiting result, task := .operation o' }
        memory := memory'
        exchanges := exchanges ++ [⟨request, body⟩]
        standing := (Standing.awaiting request).after result } := by
  have hsession : (waiting o memory exchanges request).session.onResponse scope memory body =
      (result, { state := Session.stateAfter .waiting result, task := .operation o' }, memory') := by
    simp only [waiting, Session.onResponse, SessionTask.onResponse, h]
    rfl
  unfold hear
  dsimp only [waiting] at hsession ⊢
  rw [hsession]
  cases result with
  | error e => rfl
  | ok step =>
    cases step with
    | discarded => exact absurd rfl (ne_discarded h)
    | send | done => rfl

/-- With its next request, if it has one, an operation has sent one more. -/
theorem sent_hear_waiting {result : Except Failure Step}
    (h : o.onResponse scope memory body = (result, o', memory')) :
    ((waiting o memory exchanges request).hear scope body).sent =
      (waiting o memory exchanges request).sent ++
        ((Standing.awaiting request).after result).request?.toList := by
  rw [hear_waiting h, sent, List.map_append]
  rfl

theorem hear_send {out : Outgoing}
    (h : o.onResponse scope memory body = (.ok (.send out), o', memory')) :
    (waiting o memory exchanges request).hear scope body =
      waiting o' memory' (exchanges ++ [⟨request, body⟩]) out :=
  hear_waiting h

/-- A response takes an operation that waits for it to its next request, or ends it. -/
theorem onResponse_cases (o : Operation) (scope : SessionScope) (memory : DeviceMemory)
    (request : Outgoing) (body : Bytes) :
    (∃ out o' memory', o.onResponse scope memory body = (.ok (.send out), o', memory')) ∨
      ∃ result o' memory', o.onResponse scope memory body = (result, o', memory') ∧
        ∀ next, (Standing.awaiting request).after result ≠ .awaiting next := by
  obtain ⟨⟨result, o', memory'⟩, hstep⟩ :
      ∃ stepped, o.onResponse scope memory body = stepped := ⟨_, rfl⟩
  cases result with
  | error e => exact Or.inr ⟨_, o', memory', hstep, fun _ h => by cases h⟩
  | ok step =>
    cases step with
    | send out => exact Or.inl ⟨out, o', memory', hstep⟩
    | done output => exact Or.inr ⟨_, o', memory', hstep, fun _ h => by cases h⟩
    | discarded => exact absurd rfl (ne_discarded hstep)

end Dialogue

end DeviceEnablement
