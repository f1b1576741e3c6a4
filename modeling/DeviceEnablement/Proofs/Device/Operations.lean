/-
  How the operations of a device begin and go on.

  1. `Operation.subject_start`: an operation that begins is about the resource that its URI names.
  2. `Started.opened`: to start one adds at most this one, under the next number of a session.
  3. `continues_stride`: every other stride adds none, and leaves those that stay what they are about.
  4. `operation?_stride`: where an operation comes from that is there after a stride.
-/
import DeviceEnablement.Proofs.Device.Provisions
import DeviceEnablement.Proofs.Session.Opening

namespace DeviceEnablement

variable {request : OperationRequest} {operationId : UInt16}

/-- An operation that begins is about the resource that its URI names. -/
theorem Operation.subject_start {o' : Operation} {scope : SessionScope}
    {memory memory' : DeviceMemory} {step : Step}
    (h : ({ request, operationId } : Operation).start scope memory = (.ok step, o', memory')) :
    ∃ resource, scope.registry.getByUri request.uri = .ok resource ∧
      o'.subject = (on request operationId resource).subject := by
  have hbegun := begun_start request operationId scope memory
  rw [h] at hbegun
  cases hbegun with
  | whole hfound => exact ⟨_, hfound, rfl⟩
  | divided hfound => exact ⟨_, hfound, rfl⟩

theorem Session.subject_start {s' : Session} {o' : Operation} {scope : SessionScope}
    {memory memory' : DeviceMemory} {step : Step}
    (h : (Session.operation request operationId).start scope memory = (.ok step, s', memory'))
    (ho' : s'.task = .operation o') :
    ∃ resource, scope.registry.getByUri request.uri = .ok resource ∧
      o'.subject = (Operation.on request operationId resource).subject := by
  obtain ⟨⟨result, o₁, memory₁⟩, hstart⟩ :
      ∃ result, ({ request, operationId } : Operation).start scope memory = result := ⟨_, rfl⟩
  unfold operation start SessionTask.start at h
  dsimp only at h
  rw [if_neg (fun hne => hne rfl), hstart] at h
  cases result with
  | error e => cases h
  | ok step =>
    cases h
    cases ho'
    exact Operation.subject_start hstart

namespace DeviceRun

variable {setup : Setup} {r : DeviceRun} {s : Session} {id : SessionId} {o' : Operation}
  {result : Except Failure SessionId × DeviceRun}

/-! ## Operations that begin -/

theorem Started.nextSession (h : Started setup r s result) :
    result.2.device.nextSession = r.device.nextSession + 1 := by
  cases h with
  | placed _ hplaced => exact hplaced.sameCourse.next
  | refused => rfl
  | unsent => rfl

/-- To start a session adds at most the operation with which it begins. -/
theorem Started.operation?_cases (h : Started setup r s result)
    (ho' : result.2.device.operation? id = some o') :
    r.device.operation? id = some o' ∨ id = r.newId ∧ ∃ out s' memory,
      s.start (r.device.scope setup) r.device.memory = (.ok (.send out), s', memory) ∧
        s'.task = .operation o' := by
  cases h with
  | placed hstart hplaced =>
    rcases Device.of_operation?_insert hplaced.sameCourse.sessions ho' with ⟨hid, htask⟩ | hold
    · exact Or.inr ⟨hid, _, _, _, hstart, htask⟩
    · exact Or.inl hold
  | refused => exact Or.inl ho'
  | unsent => exact Or.inl (operation?_dropSession ho')

/-- To start an operation adds at most this one: it has the number that comes next, and is about a
    resource of the device. -/
theorem Started.opened (h : Started setup r (.operation request operationId) result)
    (ho' : result.2.device.operation? id = some o') :
    r.device.operation? id = some o' ∨ id = r.newId ∧ ∃ resource,
      r.device.registry.getByUri request.uri = .ok resource ∧
        o'.subject = (Operation.on request operationId resource).subject := by
  rcases h.operation?_cases ho' with hold | ⟨hid, out, s', memory, hstart, htask⟩
  · exact Or.inl hold
  · exact Or.inr ⟨hid, Session.subject_start hstart htask⟩

end DeviceRun

namespace DeviceHistory

open Device (Continues)

variable {h : DeviceHistory} {stride : Stride} {id : SessionId} {o' : Operation}

/-- Every stride in which none is started goes on with the operations. -/
theorem continues_stride (setup : Setup) (ho : h.run.device.Orderly)
    (hstaged : h.run.device.Staged)
    (hother : ∀ request, stride ≠ .ask (.startOperation request)) :
    Continues h.run.device (h.stride setup stride).run.device := by
  cases stride with
  | round => exact (DeviceRun.rounded_round setup ho hstaged).continues
  | ask call =>
    cases call with
    | refresh => exact (DeviceRun.renewed_refresh h.run setup).continues
    | disable => exact Device.continues_of_empty rfl
    | setPayloads payloads => exact Device.continues_of_same rfl
    | startOperation request => exact absurd rfl (hother request)
    | expire id => exact (DeviceRun.abandoned_abandon h.run id .timedOut).continues
    | cancel id => exact (DeviceRun.abandoned_abandon h.run id .cancelled).continues
    | handleResponse instanceId message =>
      show Continues _ (h.ask setup (.handleResponse instanceId message)).run.device
      rcases h.run_ask_response setup instanceId message with hsame | ⟨request, hsettle⟩
      · rw [hsame]
        exact Device.continues_of_same rfl
      · have hsettled := DeviceRun.settled_settle setup (DeviceRun.orderly_freed ho instanceId)
          (DeviceRun.staged_freed hstaged instanceId) instanceId request message
        rw [hsettle]
        exact hsettled.continues.of_sub fun _ _ ho => ho

/-- An operation that is there after a stride was there before, about the same, or the stride has
    started it. -/
theorem operation?_stride {setup : Setup} (ho : h.run.device.Orderly) (hstaged : h.run.device.Staged)
    (ho' : (h.stride setup stride).run.device.operation? id = some o') :
    (∃ o, h.run.device.operation? id = some o ∧ o'.subject = o.subject) ∨
    ∃ request resource, stride = .ask (.startOperation request) ∧ id = h.run.newId ∧
      h.run.device.registry.getByUri request.uri = .ok resource ∧
      o'.subject = (Operation.on request h.run.device.nextOperationId resource).subject := by
  by_cases hstart : ∃ request, stride = .ask (.startOperation request)
  · obtain ⟨request, rfl⟩ := hstart
    change (h.start (h.run.startOperation setup request)).run.device.operation? id = some o' at ho'
    rw [run_start] at ho'
    have hbegun := h.run.begun_startOperation setup request
    generalize h.run.startOperation setup request = result at hbegun ho'
    cases hbegun with
    | refused => exact Or.inl ⟨o', ho', rfl⟩
    | started _ hstarted =>
      rcases hstarted.opened ho' with hold | ⟨hid, resource, hfound, hsubject⟩
      · exact Or.inl ⟨o', hold, rfl⟩
      · exact Or.inr ⟨request, resource, rfl, hid, hfound, hsubject⟩
  · exact Or.inl (continues_stride setup ho hstaged (fun request heq => hstart ⟨request, heq⟩) id o'
      ho')

end DeviceHistory

end DeviceEnablement
