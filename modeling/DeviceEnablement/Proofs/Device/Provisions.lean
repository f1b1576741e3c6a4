/-
  Downloads run alone, and operations keep their dictionaries.

  A negotiation or a download is the only session of its device (`Staged.latest`).  So nothing is
  downloaded while an operation runs, and since an operation writes nothing to the store, the store
  stays as it is until the operation has ended or everything is cancelled.

  1. `Device.Continues`: an operation was there before and is about the same thing.
     `Device.Carries`: so it is, or it has just begun and has its dictionaries (`Strode.carries`).
  2. `store_stride`: a ready device that is not refreshed leaves the store alone.
  3. `Reachable.provided`, `Reachable.store_steps`: so an operation that needs dictionaries has them,
     and they stay the same.
  4. `downloads_run_alone`: what comes of it for the result of an operation.
-/
import DeviceEnablement.Proofs.Device.Stages
import DeviceEnablement.Proofs.Session.Subject

namespace DeviceEnablement

/-! ## Operations of a device -/

/-- The operation that a task is, if it is one. -/
def SessionTask.operation? : SessionTask → Option Operation
  | operation o => some o
  | _ => none

theorem SessionTask.operation?_eq_some {task : SessionTask} {o : Operation} :
    task.operation? = some o ↔ task = .operation o := by
  cases task <;> simp [operation?]

/-- A task of another stage is no operation. -/
theorem SessionTask.operation?_of_stage {task : SessionTask} (h : task.stage ≠ .ready) :
    task.operation? = none := by
  cases task with
  | operation o => exact absurd rfl h
  | _ => rfl

namespace Session

variable {s s' : Session} {scope : SessionScope} {memory memory' : DeviceMemory} {o' : Operation}

/-- An operation that begins has its dictionaries. -/
theorem provided_start {step : Step} (h : s.start scope memory = (.ok step, s', memory'))
    (ho' : s'.task.operation? = some o') : o'.Provided memory'.store := by
  unfold start at h
  split at h
  · cases h
  · split at h
    · rename_i step task memory₁ hstart
      cases h
      obtain rfl := SessionTask.operation?_eq_some.mp ho'
      have hstage := s.task.stage_start scope memory
      rw [hstart] at hstage
      cases htask : s.task with
      | negotiation phase =>
        rw [htask] at hstage
        cases hstage
      | download d =>
        rw [htask] at hstage
        cases hstage
      | operation o =>
        rw [htask] at hstart
        obtain ⟨⟨result, o₁, memory₁⟩, ho⟩ : ∃ result, o.start scope memory = result := ⟨_, rfl⟩
        simp only [SessionTask.start, ho] at hstart
        cases hstart
        exact Operation.provided_start ho
    · cases h

/-- A session that begins with an operation has one, about the same request. -/
theorem operation_start {o : Operation} {step : Step}
    (h : s.start scope memory = (.ok step, s', memory')) (ho : s.task = .operation o) :
    ∃ o', s'.task = .operation o' ∧ o'.request = o.request := by
  have hrequest := o.request_start scope memory
  obtain ⟨⟨result, o', memory₁⟩, hstart⟩ : ∃ result, o.start scope memory = result := ⟨_, rfl⟩
  rw [hstart] at hrequest
  unfold start at h
  split at h
  · cases h
  · simp only [SessionTask.start, ho, hstart] at h
    cases result with
    | error e => cases h
    | ok step =>
      cases h
      exact ⟨o', rfl, hrequest⟩

/-- No response makes an operation of a session, or changes what the operation is about. -/
theorem operation_onResponse {body : Bytes} {result : Except Failure Step}
    (h : s.onResponse scope memory body = (result, s', memory'))
    (ho' : s'.task.operation? = some o') :
    ∃ o, s.task.operation? = some o ∧ o'.subject = o.subject := by
  unfold onResponse at h
  split at h
  · cases h
    exact ⟨o', ho', rfl⟩
  · split at h
    · cases h
      exact ⟨o', ho', rfl⟩
    · obtain ⟨⟨result₁, task, memory₁⟩, htask⟩ :
          ∃ result, s.task.onResponse scope memory body = result := ⟨_, rfl⟩
      simp only [htask] at h
      cases h
      obtain rfl := SessionTask.operation?_eq_some.mp ho'
      have hstage := s.task.stage_onResponse scope memory body
      rw [htask] at hstage
      cases hold : s.task with
      | negotiation phase =>
        rw [hold] at hstage
        cases hstage
      | download d =>
        rw [hold] at hstage
        cases hstage
      | operation o =>
        have hsubject := o.subject_onResponse scope memory body
        rw [hold] at htask
        obtain ⟨⟨result, o₁, memory₂⟩, ho⟩ :
            ∃ result, o.onResponse scope memory body = result := ⟨_, rfl⟩
        simp only [SessionTask.onResponse, ho] at htask
        cases htask
        rw [ho] at hsubject
        exact ⟨o, rfl, hsubject⟩

end Session

namespace Device

/-- The operation under this number, if there is one. -/
def operation? (d : Device) (id : SessionId) : Option Operation :=
  (d.sessions.get? id).bind (·.task.operation?)

/-- Whether each operation of `d'` was there in `d` and is about the same thing. -/
def Continues (d d' : Device) : Prop :=
  ∀ id o', d'.operation? id = some o' → ∃ o, d.operation? id = some o ∧ o'.subject = o.subject

/-- Whether each operation of `d'` was there in `d` and is about the same thing, or has just begun
    and has its dictionaries. -/
def Carries (d d' : Device) : Prop :=
  ∀ id o', d'.operation? id = some o' →
    (∃ o, d.operation? id = some o ∧ o'.subject = o.subject) ∨
    (d.nextSession ≤ id.value ∧ o'.Provided d'.memory.store)

variable {d d₁ d' : Device} {id : SessionId} {s : Session} {o : Operation}

theorem operation?_eq_some : d.operation? id = some o ↔
    ∃ s, d.sessions.get? id = some s ∧ s.task = .operation o := by
  unfold operation?
  rw [Option.bind_eq_some_iff]
  simp only [SessionTask.operation?_eq_some]

/-- A ready device is the only one that has operations. -/
theorem Staged.ready_of_operation (h : d.Staged) (ho : d.operation? id = some o) :
    d.state = .ready := by
  obtain ⟨s, hs, htask⟩ := operation?_eq_some.mp ho
  have hstage := h.stage id s hs
  rw [htask] at hstage
  exact hstage.symm

theorem Continues.carries (h : Continues d d') : Carries d d' :=
  fun id o' ho' => Or.inl (h id o' ho')

theorem continues_of_empty (hsessions : d'.sessions = {}) : Continues d d' := by
  intro id o' ho'
  unfold operation? at ho'
  rw [hsessions] at ho'
  cases ho'

theorem continues_of_same (hsessions : d'.sessions = d.sessions) : Continues d d' := by
  intro id o' ho'
  unfold operation? at ho'
  rw [hsessions] at ho'
  exact ⟨o', ho', rfl⟩

theorem continues_of_erase (hsessions : d'.sessions = d.sessions.erase id) : Continues d d' := by
  intro other o' ho'
  obtain ⟨s, hs, htask⟩ := operation?_eq_some.mp ho'
  rw [hsessions] at hs
  exact ⟨o', operation?_eq_some.mpr ⟨s, (Table.of_get?_erase hs).2, htask⟩, rfl⟩

/-- What is found after a session has taken a number is the operation of this session, or was there
    before. -/
theorem of_operation?_insert {other : SessionId} {o' : Operation}
    (hsessions : d'.sessions = d.sessions.insert id s) (ho' : d'.operation? other = some o') :
    (other = id ∧ s.task = .operation o') ∨ d.operation? other = some o' := by
  obtain ⟨t, ht, htask⟩ := operation?_eq_some.mp ho'
  rw [hsessions] at ht
  rcases Table.of_get?_insert ht with ⟨hid, rfl⟩ | ⟨-, ht⟩
  · exact Or.inl ⟨hid, htask⟩
  · exact Or.inr (operation?_eq_some.mpr ⟨t, ht, htask⟩)

/-- A session that takes a number brings no operation with it but one that was there. -/
theorem continues_of_insert (hsessions : d'.sessions = d.sessions.insert id s)
    (hs : ∀ o', s.task = .operation o' →
      ∃ o, d.operation? id = some o ∧ o'.subject = o.subject) : Continues d d' := by
  intro other o' ho'
  rcases of_operation?_insert hsessions ho' with ⟨rfl, htask⟩ | hold
  · exact hs o' htask
  · exact ⟨o', hold, rfl⟩

/-- What is continued from fewer operations is continued. -/
theorem Continues.of_sub (h : Continues d₁ d')
    (hsub : ∀ id o, d₁.operation? id = some o → d.operation? id = some o) : Continues d d' := by
  intro id o' ho'
  obtain ⟨o, ho, hsubject⟩ := h id o' ho'
  exact ⟨o, hsub id o ho, hsubject⟩

end Device

namespace DeviceRun

open Device (Continues)

variable {r r' : DeviceRun} {id : SessionId} {s : Session} {out : Outgoing}

theorem Placed.memory (h : Placed r id out r') : r'.device.memory = r.device.memory := by
  cases h with
  | sent _ hsent =>
    cases hsent
    rfl
  | queued => rfl

theorem operation?_dropSession {other : SessionId} {o : Operation}
    (h : (r.dropSession id).device.operation? other = some o) :
    r.device.operation? other = some o := by
  obtain ⟨s, hs, htask⟩ := Device.operation?_eq_some.mp h
  exact Device.operation?_eq_some.mpr ⟨s, (Table.of_get?_erase hs).2, htask⟩

/-- A session that begins and is no operation adds none. -/
theorem Begins.continues (hbegins : Begins r id s r') (hstage : s.task.stage ≠ .ready)
    {d d' : Device} (hbefore : r.device.sessions = d.sessions)
    (hafter : d'.sessions = r'.device.sessions) : Continues d d' := by
  have hsessions : d'.sessions = d.sessions.insert id s := by
    rw [hafter, hbegins.sessions, hbefore]
  refine Device.continues_of_insert hsessions fun o' ho' => absurd ?_ hstage
  rw [ho']
  rfl

theorem Fetched.continues (h : Fetched r r') : Continues r.device r'.device := by
  cases h with
  | idle hsteady => exact Device.continues_of_same hsteady.sessions
  | begun hsteady hlaunched =>
    obtain ⟨s, -, hstage, -, hbegins⟩ := hlaunched.begins
    exact hbegins.continues (by rw [hstage]; decide) hsteady.sessions rfl

theorem Aftermath.continues {outcome : Except Failure SessionOutput} (h : Aftermath r outcome r') :
    Continues r.device r'.device := by
  cases h with
  | reported => exact Device.continues_of_same rfl
  | rejected => exact Device.continues_of_same rfl
  | negotiated _ _ hfetched => exact hfetched.continues.of_sub fun _ _ ho => ho
  | fetched _ hfetched => exact hfetched.continues

/-- When a session ends, the other operations are continued. -/
theorem Aftermath.continues_of_dropped {outcome : Except Failure SessionOutput}
    (h : Aftermath (r.dropSession id) outcome r') : Continues r.device r'.device :=
  h.continues.of_sub fun _ _ ho => operation?_dropSession ho

theorem Settled.continues {request : PendingRequest} {body : Except Failure Bytes}
    (h : Settled r request body r') : Continues r.device r'.device := by
  cases h with
  | ignored => exact Device.continues_of_same rfl
  | late => exact Device.continues_of_erase rfl
  | @continued s s' _ memory _ _ _ hs _ _ _ _ hplaced _ hstep =>
    refine Device.continues_of_insert hplaced.sameCourse.sessions fun o' ho' => ?_
    obtain ⟨o, ho, hsubject⟩ :=
      Session.operation_onResponse hstep (SessionTask.operation?_eq_some.mpr ho')
    refine ⟨o, ?_, hsubject⟩
    exact Device.operation?_eq_some.mpr ⟨s, hs, SessionTask.operation?_eq_some.mp ho⟩
  | ended _ _ _ _ _ haftermath => exact haftermath.continues_of_dropped.of_sub fun _ _ ho => ho

theorem Rounded.continues (h : Rounded r r') : Continues r.device r'.device := by
  cases h with
  | resting => exact Device.continues_of_same rfl
  | skipped => exact Device.continues_of_same rfl
  | released _ _ _ _ hsent => exact Device.continues_of_same hsent.sameCourse.sessions
  | unsent _ _ _ _ haftermath => exact haftermath.continues_of_dropped.of_sub fun _ _ ho => ho

theorem Abandoned.continues {state : SessionState} {result : Bool × DeviceRun}
    (h : Abandoned r id state result) : Continues r.device result.2.device := by
  cases h with
  | ended => exact Device.continues_of_same rfl
  | @marked s _ hs =>
    have hsessions : ((r.withdrawn id).keepSession id { s with state }).device.sessions =
      r.device.sessions.insert id { s with state } := rfl
    refine Device.continues_of_insert hsessions fun o' ho' => ?_
    exact ⟨o', Device.operation?_eq_some.mpr ⟨s, hs, ho'⟩, rfl⟩
  | forgotten => exact Device.continues_of_erase rfl

/-- After a refresh there is no operation. -/
theorem Renewed.operation?_eq_none (h : Renewed r r') (id : SessionId) :
    r'.device.operation? id = none := by
  cases h with
  | unready hsteady =>
    show ((_ : Table SessionId Session).get? id).bind _ = none
    rw [hsteady.sessions]
    rfl
  | negotiating hsteady hlaunched =>
    obtain ⟨s, -, hstage, -, hbegins⟩ := hlaunched.begins
    show ((_ : Table SessionId Session).get? id).bind _ = none
    rw [hbegins.sessions, Table.get?_insert]
    split
    · exact SessionTask.operation?_of_stage (by rw [hstage]; decide)
    · show ((_ : Table SessionId Session).get? id).bind _ = none
      rw [hsteady.sessions]
      rfl

theorem Renewed.continues (h : Renewed r r') : Continues r.device r'.device := by
  intro id o' ho'
  rw [h.operation?_eq_none id] at ho'
  cases ho'

end DeviceRun

namespace DeviceHistory

open Device (Carries)

variable {h h' : DeviceHistory}

theorem Called.carries (hcalled : Called h h') : Carries h.run.device h'.run.device := by
  cases hcalled with
  | steady hsteady => exact (Device.continues_of_same hsteady.sessions).carries
  | disabled => exact (Device.continues_of_empty rfl).carries
  | renewed hrenewed => exact hrenewed.continues.carries
  | @operating r₁ r₂ _ _ hsteady hlaunched =>
    cases hlaunched with
    | @placed s memory _ _ _ _ _ _ _ hplaced _ _ hstart =>
      have hsessions : r₂.device.sessions = h.run.device.sessions.insert r₁.newId s := by
        rw [hplaced.sameCourse.sessions, ← hsteady.sessions]
        rfl
      intro id o' ho'
      rcases Device.of_operation?_insert hsessions ho' with ⟨rfl, htask⟩ | hold
      · refine Or.inr ⟨hsteady.next, ?_⟩
        show o'.Provided r₂.device.memory.store
        rw [hplaced.memory]
        exact Session.provided_start hstart (SessionTask.operation?_eq_some.mpr htask)
      · exact Or.inl ⟨o', hold, rfl⟩
  | abandoned _ habandoned => exact habandoned.continues.carries

/-- Every stride carries the operations on. -/
theorem Strode.carries {answer : Option Answer} (hstrode : Strode h answer h') :
    Carries h.run.device h'.run.device := by
  cases hstrode with
  | called hcalled => exact hcalled.carries
  | settled _ hsettled => exact (hsettled.continues.of_sub fun _ _ ho => ho).carries
  | rounded hrounded => exact hrounded.continues.carries

end DeviceHistory

/-! ## The store -/

namespace Session

variable {s s' : Session} {scope : SessionScope} {memory memory' : DeviceMemory}

/-- An operation that begins, or cannot begin, leaves everything as it is. -/
theorem memory_start (hoperation : s.task.isOperation = true) (scope : SessionScope)
    (memory : DeviceMemory) : (s.start scope memory).2.2 = memory := by
  obtain ⟨state, task⟩ := s
  cases task with
  | operation o =>
    have hsame := o.memory_start scope memory
    obtain ⟨⟨result, o', memory'⟩, ho⟩ : ∃ result, o.start scope memory = result := ⟨_, rfl⟩
    rw [ho] at hsame
    unfold start
    split
    · rfl
    · simp only [SessionTask.start, ho]
      cases result with
      | error e => exact hsame
      | ok step => exact hsame
  | negotiation | download => cases hoperation

/-- The response to a request of an operation leaves the store as it is. -/
theorem store_onResponse (hoperation : s.task.isOperation = true) (scope : SessionScope)
    (memory : DeviceMemory) (body : Bytes) :
    (s.onResponse scope memory body).2.2.store = memory.store := by
  obtain ⟨state, task⟩ := s
  cases task with
  | operation o =>
    unfold onResponse
    split
    · rfl
    · split
      · rfl
      · exact o.store_onResponse scope memory body
  | negotiation | download => cases hoperation

end Session

namespace DeviceRun

variable {r : DeviceRun} {setup : Setup} {id : SessionId} {s : Session}

/-- The end of an operation is reported, and that is all. -/
theorem memory_fail {task : SessionTask} (hoperation : task.isOperation = true) (r : DeviceRun)
    (setup : Setup) (id : SessionId) (e : Failure) :
    (r.fail setup id task e).device.memory = r.device.memory := by
  cases task with
  | operation o => rfl
  | negotiation | download => cases hoperation

theorem memory_finish {output : SessionOutput} (hoperation : output.isOperation = true)
    (r : DeviceRun) (setup : Setup) (id : SessionId) :
    (r.finish setup id output).device.memory = r.device.memory := by
  cases output with
  | operation result => rfl
  | negotiated | dictionary => cases hoperation

/-- What follows from a step of an operation leaves everything that the device knows as it is. -/
theorem memory_advance (hoperation : s.task.isOperation = true) {result : Except Failure Step}
    (hsuits : ∀ step, result = .ok step → step.Suits true) :
    (r.advance setup id s result).device.memory = r.device.memory := by
  cases result with
  | error e => exact memory_fail hoperation _ setup id e
  | ok step =>
    cases step with
    | send out =>
      unfold advance
      dsimp only
      rcases (r.keepSession id s).dispatch_cases id out with ⟨r', heq, hplaced⟩ | ⟨e, host, heq, -⟩
      · rw [heq]
        exact hplaced.memory
      · rw [heq]
        exact memory_fail hoperation _ setup id e
    | done output => exact memory_finish (hsuits _ rfl) _ setup id
    | discarded => rfl

/-- The answer to a request leaves the store alone when the device is ready. -/
theorem store_settle (hstaged : r.device.Staged) (hready : r.device.state = .ready)
    (instanceId : UInt8) (request : PendingRequest) (message : Option Bytes) :
    (r.settle setup instanceId request message).device.memory.store = r.device.memory.store := by
  unfold settle
  split
  · rfl
  · split
    · rfl
    · rename_i s hs
      have hoperation : s.task.isOperation = true := by
        rw [SessionTask.isOperation_eq, hstaged.stage _ s hs, hready]
        rfl
      split
      · rfl
      · rename_i ha
        rw [Bool.not_eq_true] at ha
        unfold deliver
        split
        · rename_i e _
          exact congrArg DeviceMemory.store
            (memory_advance hoperation fun step hstep => by cases hstep)
        · rename_i body _
          obtain ⟨⟨result, s', memory⟩, hstep⟩ :
              ∃ result, s.onResponse (r.device.scope setup) r.device.memory body = result :=
            ⟨_, rfl⟩
          have hstore := Session.store_onResponse hoperation (r.device.scope setup)
            r.device.memory body
          have hoperation' := (Session.isOperation_onResponse hstep).trans hoperation
          have hsuits : ∀ step, result = .ok step → step.Suits true := by
            rintro step rfl
            have hsuits := Session.onResponse_suits ha hstep
            rwa [hoperation] at hsuits
          have hadvanced : (({ r with device.memory := memory } : DeviceRun).advance setup
              request.session s' result).device.memory = memory :=
            memory_advance hoperation' hsuits
          rw [hstep] at hstore ⊢
          exact (congrArg DeviceMemory.store hadvanced).trans hstore

/-- A round of the pump leaves the store alone when the device is ready. -/
theorem store_round (hstaged : r.device.Staged) (hready : r.device.state = .ready) :
    (r.round setup).device.memory.store = r.device.memory.store := by
  unfold round
  split
  · rfl
  · rename_i id out rest _
    split
    · unfold sendWaiting
      split
      · rfl
      · rename_i s hs
        have hoperation : s.task.isOperation = true := by
          rw [SessionTask.isOperation_eq, hstaged.stage _ s hs, hready]
          rfl
        split
        · rfl
        · rcases sendNow_cases { r with device.waiting := rest } id out with
            ⟨r', heq, hsent⟩ | ⟨e, host, heq, -⟩
          · rw [heq]
            cases hsent
            rfl
          · rw [heq]
            exact congrArg DeviceMemory.store (memory_fail hoperation _ setup id e)
    · rfl

/-- A session that begins, or cannot begin, makes of the memory what its first step makes of it, and
    leaves the registry alone. -/
theorem kept_startSession (r : DeviceRun) (setup : Setup) (s : Session) :
    (r.startSession setup s).2.device.memory =
        (s.start (r.device.scope setup) r.device.memory).2.2 ∧
      (r.startSession setup s).2.device.registry = r.device.registry := by
  obtain ⟨⟨result, s', memory⟩, hstart⟩ :
    ∃ result, s.start (r.device.scope setup) r.device.memory = result := ⟨_, rfl⟩
  rw [startSession_eq, hstart]
  cases result with
  | error e => exact ⟨rfl, rfl⟩
  | ok step =>
    cases step with
    | done | discarded => exact ⟨rfl, rfl⟩
    | send out =>
      dsimp only
      rcases launch_cases (r.begun memory) r.newId s' out with
        ⟨r', hlaunch, hplaced⟩ | ⟨e, host, hlaunch, -⟩
      · rw [hlaunch]
        exact ⟨hplaced.memory, hplaced.sameCourse.registry⟩
      · rw [hlaunch]
        exact ⟨rfl, rfl⟩

/-- An operation that begins, or cannot begin, leaves everything that the device knows as it is. -/
theorem memory_startSession (hoperation : s.task.isOperation = true) (r : DeviceRun)
    (setup : Setup) : (r.startSession setup s).2.device.memory = r.device.memory :=
  (r.kept_startSession setup s).1.trans (Session.memory_start hoperation _ _)

theorem memory_startOperation (r : DeviceRun) (setup : Setup) (request : OperationRequest) :
    (r.startOperation setup request).2.device.memory = r.device.memory := by
  unfold startOperation
  split
  · rfl
  · split
    · rfl
    · exact memory_startSession rfl _ setup

/-- An operation that was started is there, and is about the same request. -/
theorem operation?_startSession {r' : DeviceRun} {o : Operation} (ho : s.task = .operation o)
    (h : r.startSession setup s = (.ok id, r')) :
    ∃ o', r'.device.operation? id = some o' ∧ o'.request = o.request := by
  have hstarted := started_startSession r setup s
  rw [h] at hstarted
  cases hstarted with
  | @placed _ s' memory _ hstep hplaced =>
    obtain ⟨o', htask, hrequest⟩ := Session.operation_start hstep ho
    refine ⟨o', Device.operation?_eq_some.mpr ⟨s', ?_, htask⟩, hrequest⟩
    rw [hplaced.sameCourse.sessions]
    exact (Table.get?_insert ..).trans (if_pos rfl)

theorem operation?_startOperation {r' : DeviceRun} {request : OperationRequest}
    (h : r.startOperation setup request = (.ok id, r')) :
    ∃ o, r'.device.operation? id = some o ∧ o.request = request := by
  unfold startOperation at h
  split at h
  · cases h
  · split at h
    · cases h
    · exact operation?_startSession rfl h

/-- Giving a session up leaves everything that the device knows as it is. -/
theorem memory_abandon (r : DeviceRun) (id : SessionId) (state : SessionState) :
    (r.abandon id state).2.device.memory = r.device.memory := by
  have habandoned := r.abandoned_abandon id state
  generalize r.abandon id state = result at habandoned
  cases habandoned with
  | ended => rfl
  | marked => rfl
  | forgotten => rfl

end DeviceRun

namespace DeviceHistory

variable {h : DeviceHistory} {setup : Setup}

/-- After a refresh there is no operation, so a stride after which there is one was none. -/
theorem ne_refresh {stride : Stride} {id : SessionId} {o' : Operation}
    (ho' : (h.stride setup stride).run.device.operation? id = some o') : stride ≠ .ask .refresh := by
  rintro rfl
  have hnone := (DeviceRun.renewed_refresh h.run setup).operation?_eq_none id
  cases ho'.symm.trans hnone

/-- A ready device that is not refreshed leaves the store alone. -/
theorem store_stride (hstaged : h.run.device.Staged) (hready : h.run.device.state = .ready)
    {stride : Stride} (hstays : stride ≠ .ask .refresh) :
    (h.stride setup stride).run.device.memory.store = h.run.device.memory.store := by
  cases stride with
  | round => exact DeviceRun.store_round hstaged hready
  | ask call =>
    cases call with
    | refresh => exact absurd rfl hstays
    | disable => rfl
    | setPayloads payloads => rfl
    | startOperation request =>
      show (h.start (h.run.startOperation setup request)).run.device.memory.store = _
      rw [run_start, DeviceRun.memory_startOperation]
    | expire id => exact congrArg DeviceMemory.store (h.run.memory_abandon id .timedOut)
    | cancel id => exact congrArg DeviceMemory.store (h.run.memory_abandon id .cancelled)
    | handleResponse instanceId message =>
      show (h.ask setup (.handleResponse instanceId message)).run.device.memory.store = _
      rcases h.run_ask_response setup instanceId message with hsame | ⟨request, hsettle⟩
      · rw [hsame]
      · rw [hsettle]
        exact DeviceRun.store_settle (DeviceRun.staged_freed hstaged instanceId) hready instanceId
          request message

end DeviceHistory

/-! ## Logs -/

namespace DeviceLog

variable {config : Config} {others : DeviceRun → Host → Prop} {host : Host} {l l' : DeviceLog}
  {id : SessionId} {o o' : Operation}

/-- An operation that is there after a stride and was there before has kept its subject, and the
    store is the same. -/
theorem Reachable.store_taken (hreachable : Reachable config others host l) (codec : Codec)
    (stride : Stride) (ho' : (l.take { config, codec } stride).run.device.operation? id = some o')
    (hold : id.value < l.run.device.nextSession) :
    ∃ o, l.run.device.operation? id = some o ∧ o'.subject = o.subject ∧
      (l.take { config, codec } stride).run.device.memory.store = l.run.device.memory.store := by
  obtain ⟨o, ho, hsubject⟩ | ⟨hnew, -⟩ :=
    (hreachable.strode { config, codec } stride).carries id o' ho'
  · refine ⟨o, ho, hsubject, ?_⟩
    exact DeviceHistory.store_stride hreachable.staged
      (hreachable.staged.ready_of_operation ho) (DeviceHistory.ne_refresh ho')
  · omega

/-- An operation that needs dictionaries has them. -/
theorem Reachable.provided (hreachable : Reachable config others host l)
    (ho : l.run.device.operation? id = some o) : o.Provided l.run.device.memory.store := by
  suffices hall : ∀ id o, l.run.device.operation? id = some o →
      o.Provided l.run.device.memory.store from hall id o ho
  -- Along the strides: an operation that was there keeps the store, a new one was provided for.
  refine hreachable.invariant
    (P := fun l => ∀ id o, l.run.device.operation? id = some o →
      o.Provided l.run.device.memory.store)
    (fun _ _ _ _ _ _ id o ho => by cases ho) ?_ fun _ _ _ hprovided => hprovided
  intro l codec stride hl hprovided id o' ho'
  by_cases hold : id.value < l.run.device.nextSession
  · obtain ⟨o, ho, hsubject, hstore⟩ := hl.store_taken codec stride ho' hold
    rw [hstore]
    exact (hprovided id o ho).congr hsubject
  · rcases (hl.strode { config, codec } stride).carries id o' ho' with ⟨o, ho, -⟩ | ⟨-, hnew⟩
    · obtain ⟨s, hs, -⟩ := Device.operation?_eq_some.mp ho
      exact absurd (hl.balanced.orderly.numbers id s hs) hold
    · exact hnew

/-- As long as an operation is there, it keeps its subject, and the store stays the same. -/
theorem Reachable.store_steps (hreachable : Reachable config others host l)
    (ho : l.run.device.operation? id = some o) (hsteps : Steps config others l l')
    (ho' : l'.run.device.operation? id = some o') :
    o'.subject = o.subject ∧ l'.run.device.memory.store = l.run.device.memory.store := by
  have hnumber : id.value < l.run.device.nextSession := by
    obtain ⟨s, hs, -⟩ := Device.operation?_eq_some.mp ho
    exact hreachable.balanced.orderly.numbers id s hs
  induction hsteps generalizing o' with
  | refl =>
    obtain rfl : o' = o := Option.some.inj (ho'.symm.trans ho)
    exact ⟨rfl, rfl⟩
  | @tail m l' hbefore hstep ih =>
    have hreached := hreachable.steps hbefore
    -- The number was given out before the first step, so the operation never was away.
    have hgrown : id.value < m.run.device.nextSession :=
      Nat.lt_of_lt_of_le hnumber (Steps.since hreachable.balanced.orderly hbefore).next
    cases hstep with
    | taken codec stride =>
      obtain ⟨o₁, ho₁, hsubject, hstore⟩ := hreached.store_taken codec stride ho' hgrown
      obtain ⟨hsubject₁, hstore₁⟩ := ih ho₁
      exact ⟨hsubject.trans hsubject₁, hstore.trans hstore₁⟩
    | elsewhere => exact ih ho'

/-- In every log of a device: a negotiation or a download is the only session there is, live or given
    up, so that one dictionary is downloaded at a time, and none while an operation runs.  An
    operation that needs dictionaries begins only if they are complete.  As long as it is there they
    stay complete and the same, so that it never fails because one is missing. -/
theorem downloads_run_alone (hreachable : Reachable config others host l) :
    (∀ id s, l.run.device.sessions.get? id = some s → s.task.isOperation = false →
      ∀ other t, l.run.device.sessions.get? other = some t → other = id) ∧
    (∀ codec request id r, l.run.startOperation { config, codec } request = (.ok id, r) →
      Operation.needsDictionaries request.operation = true →
      ∃ o dictionaries, r.device.operation? id = some o ∧ o.request = request ∧
        o.dictionaries l.run.device.memory.store = .ok dictionaries) ∧
    (∀ id o, l.run.device.operation? id = some o →
      Operation.needsDictionaries o.request.operation = true →
      ∃ dictionaries, ∀ l', Steps config others l l' →
        ∀ o', l'.run.device.operation? id = some o' →
          o'.dictionaries l'.run.device.memory.store = .ok dictionaries ∧
          ∀ scope body e, (o'.onResponse scope l'.run.device.memory body).1 = .error e →
            ¬ Operation.LacksDictionary e) := by
  refine ⟨?_, ?_, ?_⟩
  · intro id s hs hother other t ht
    have hpassing : l.run.device.state ≠ .ready := by
      rw [← hreachable.staged.stage id s hs]
      intro hstage
      rw [SessionTask.isOperation_eq, hstage] at hother
      cases hother
    -- While the device is passing through a stage, its only session is the latest one.
    have hlatest := hreachable.staged.latest hpassing id s hs
    have hlatest' := hreachable.staged.latest hpassing other t ht
    have hsame : other.value = id.value := by omega
    exact congrArg SessionId.mk hsame
  · intro codec request id r hstarted hneeds
    obtain ⟨o, ho, rfl⟩ := DeviceRun.operation?_startOperation hstarted
    have hmemory := l.run.memory_startOperation { config, codec } o.request
    rw [hstarted] at hmemory
    have hrun : (l.take { config, codec } (.ask (.startOperation o.request))).run = r := by
      show (l.toDeviceHistory.start (l.run.startOperation { config, codec } o.request)).run = r
      rw [hstarted]
      rfl
    have hprovided := (hreachable.steps (.single (.taken l codec _))).provided (hrun ▸ ho)
    rw [hrun, hmemory] at hprovided
    obtain ⟨dictionaries, hdictionaries⟩ := hprovided hneeds
    exact ⟨o, dictionaries, ho, rfl, hdictionaries⟩
  · intro id o ho hneeds
    obtain ⟨dictionaries, hdictionaries⟩ := hreachable.provided ho hneeds
    refine ⟨dictionaries, fun l' hsteps o' ho' => ?_⟩
    obtain ⟨hsubject, hstore⟩ := hreachable.store_steps ho hsteps ho'
    have hneeds' : Operation.needsDictionaries o'.request.operation = true := by
      rw [show o'.request = o.request from congrArg OperationSubject.request hsubject]
      exact hneeds
    refine ⟨?_, fun scope body => ?_⟩
    · rw [hstore, Operation.dictionaries_congr hsubject]
      exact hdictionaries
    · exact Operation.onResponse_provided hneeds' ((hreachable.steps hsteps).provided ho') scope body

/-- A controller that has the annotation dictionary in a file and fetches the others. -/
def annotatedSetup : Setup :=
  { DeviceHistory.sampleSetup with
    config := {
      negotiation := { fetchDictionaries := true }
      storage := { annotationDictionary := some "annotations" } } }

/-- A negotiation, a download, and a request to read. -/
def readingCalls : List DeviceCall :=
  [.refresh,
    .handleResponse 0 (some [0, 6, 1, 0, 1, 0, 19, 0, 239, 190, 173, 222, 2, 7, 118, 101, 110, 100,
      111, 114, 0]),
    .handleResponse 1 (some [1, 6, 2, 0, 0, 4, 0, 0]),
    .handleResponse 2 (some [2, 6, 3, 0, 0, 7, 0, 0, 0]),
    .handleResponse 3 (some [3, 6, 49, 0, 3, 0, 0, 0, 0, 5, 0, 0, 0, 2, 0, 0, 0, 0]),
    .startOperation (.read "/redfish/v1")]

/-- The log of the first of these calls. -/
def readingLog (n : Nat) : DeviceLog :=
  (found annotatedSetup 8 1 ⟨0⟩ [DeviceHistory.sampleRecord] {}
    { files := { content := fun _ _ => some [1] } }).takeAll
    annotatedSetup ((readingCalls.take n).map .ask)

theorem reachable_readingLog (others : DeviceRun → Host → Prop) (n : Nat) :
    Reachable annotatedSetup.config others { files := { content := fun _ _ => some [1] } }
      (readingLog n) :=
  ⟨annotatedSetup.codec, 8, 1, ⟨0⟩, [DeviceHistory.sampleRecord], {},
    steps_takeAll others _ annotatedSetup _⟩

/-- The download is the only session as long as it runs, and the operation that reads has the
    dictionaries from then on. -/
theorem downloads_run_alone_reading :
    (∀ other t, (readingLog 4).run.device.sessions.get? other = some t → other = ⟨2⟩) ∧
    ∃ o, (readingLog 6).run.device.operation? ⟨3⟩ = some o ∧ o.request.operation = .read ∧
      ∃ dictionaries, o.dictionaries (readingLog 6).run.device.memory.store = .ok dictionaries ∧
        dictionaries.schema = [2] ∧ dictionaries.annotations = [1] := by
  have hdownload : ((readingLog 4).run.device.sessions.get? ⟨2⟩).map (·.task.isOperation) =
      some false := by decide +kernel
  have hread : ((readingLog 6).run.device.operation? ⟨3⟩).map (·.request.operation) =
      some .read := by decide +kernel
  have hdictionaries : ((readingLog 6).run.device.operation? ⟨3⟩).map (fun o =>
      match o.dictionaries (readingLog 6).run.device.memory.store with
      | .ok dictionaries => (dictionaries.schema, dictionaries.annotations)
      | .error _ => ([], [])) = some ([2], [1]) := by decide +kernel
  obtain ⟨s, hs, hother⟩ := Option.map_eq_some_iff.mp hdownload
  obtain ⟨o, ho, hoperation⟩ := Option.map_eq_some_iff.mp hread
  obtain ⟨halone, -, -⟩ := downloads_run_alone (reachable_readingLog DeviceRun.LeftAlone 4)
  obtain ⟨-, -, hprovided⟩ := downloads_run_alone (reachable_readingLog DeviceRun.LeftAlone 6)
  have hneeds : Operation.needsDictionaries o.request.operation = true := by
    rw [hoperation]
    rfl
  obtain ⟨dictionaries, hstays⟩ := hprovided ⟨3⟩ o ho hneeds
  obtain ⟨hcomplete, -⟩ := hstays _ .refl o ho
  rw [ho, Option.map_some, hcomplete] at hdictionaries
  obtain ⟨hschema, hannotations⟩ := Prod.mk.inj (Option.some.inj hdictionaries)
  exact ⟨halone ⟨2⟩ s hs hother, o, ho, hoperation, dictionaries, hcomplete, hschema, hannotations⟩

end DeviceLog

end DeviceEnablement
