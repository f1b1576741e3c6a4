/-
  Who waits, and for what.

  A caller waits under the endpoint and the session of its operation.  The devices know nothing of
  that: they report the operations that end, and the manager takes the callers of these off its
  list.

  1. `Manager.Matched`: somebody waits under a key if and only if there is an operation that runs.
     Whatever a device has reported does not run any more, so taking off the reported ones keeps
     this (`Matched.deliver`).
  2. `Settled`: what an event does to the waiting callers.  Each caller that is taken waits, or was
     answered; who waits no more was answered, or its operation has expired.
  3. `waiters_match`: both hold in every history, and so each caller has got one answer in the end,
     except for those whose operation has expired.
-/
import DeviceEnablement.Proofs.Manager.Chronicle

namespace DeviceEnablement

/-! ## Devices -/

namespace Device

variable {d : Device} {id : SessionId}

/-- Of an orderly device, the operations that run are those that are live. -/
theorem Orderly.runs_iff (ho : d.Orderly) : d.runs id = true ↔ ∃ s, d.sessions.get? id = some s ∧
    s.task.isOperation = true ∧ s.state.isTerminal = false := by
  unfold runs
  rw [Option.any_eq_true]
  constructor
  · rintro ⟨s, hs, hruns⟩
    rw [Bool.and_eq_true, Bool.not_eq_true', ← ho.isTerminal_eq hs] at hruns
    exact ⟨s, hs, hruns⟩
  · rintro ⟨s, hs, hruns⟩
    rw [ho.isTerminal_eq hs] at hruns
    exact ⟨s, hs, by simp [hruns]⟩

end Device

namespace DeviceRun

variable {setup : Setup} {r : DeviceRun} {s : Session}

/-- Nothing is reported when a session begins. -/
theorem Started.completions {result : Except Failure SessionId × DeviceRun}
    (h : Started setup r s result) : result.2.completions = r.completions := by
  cases h with
  | placed _ hplaced => exact hplaced.sameSessions.completions
  | refused => rfl
  | unsent => rfl

/-- When an operation begins it runs, and all others run as before. -/
theorem runs_startOperation (ho : r.device.Orderly) (setup : Setup) (request : OperationRequest)
    (id : SessionId) :
    (if (r.startOperation setup request).2.device.runs id then 1 else 0) =
      (if r.device.runs id then 1 else 0) +
        if (r.startOperation setup request).1.toOption = some id then 1 else 0 := by
  have hbegun := begun_startOperation r setup request
  generalize r.startOperation setup request = result at hbegun
  cases hbegun with
  | refused => simp [Except.toOption]
  | started _ hstarted =>
    have hlearned := r.resembles_counted
    have hfaithful := hlearned.sameSessions.faithful ho
    have hdues := dues_started hfaithful.orderly hstarted id
    rw [hfaithful.dues id] at hdues
    unfold dues reported at hdues
    rw [hstarted.completions, hlearned.completions] at hdues
    have htask : (Session.operation request r.device.nextOperationId).task.isOperation = true := rfl
    simpa only [htask, and_true, Nat.add_assoc, Nat.add_right_inj] using hdues

/-- A session that was given up does not run, and all others run as before. -/
theorem runs_abandon (ho : r.device.Orderly) (id : SessionId) {state : SessionState}
    (ha : state.isAbandoned = true) (other : SessionId) :
    (r.abandon id state).2.device.runs other = (decide (other ≠ id) && r.device.runs other) := by
  by_cases he : other = id
  · subst he
    have ho' := (acted_abandon ho other ha).orderly
    have hdead := isLive_abandon r other ha
    rw [decide_eq_false (not_not_intro rfl), Bool.false_and, ← Bool.not_eq_true, ho'.runs_iff]
    rintro ⟨s, hs, -, hlive⟩
    rw [isLive_eq, hs, Option.any_some, hlive] at hdead
    cases hdead
  · rw [decide_eq_true he, Bool.true_and]
    have habandoned := abandoned_abandon r id state
    generalize r.abandon id state = result at habandoned
    cases habandoned with
    | ended => rfl
    | marked => exact (runs_keepSession _ id other _).trans (if_neg he)
    | forgotten => exact (runs_dropSession _ id other).trans (if_neg he)

end DeviceRun

/-! ## Callers -/

namespace Manager

theorem eq_of_indicator_eq {a b : Bool} (h : (if a then 1 else 0) = if b then 1 else 0) :
    a = b := by
  cases a <;> cases b <;> first | rfl | cases h

/-- Whether an operation runs on the device at an endpoint. -/
def runs (m : Manager) (eid : UInt8) (id : SessionId) : Bool :=
  (m.devices.get? eid).any fun d => d.runs id

/-- Whether somebody waits for each operation that runs, and for nothing else. -/
def Matched (m : Manager) : Prop :=
  ∀ eid id, (m.waiters.get? (eid, id)).isSome = m.runs eid id

/-- How often a call waits. -/
def waiting (m : Manager) (call : CallId) : Nat := m.waiters.values.count call

variable {m m₁ m' : Manager} {eid : UInt8}

theorem get?_waiters_answer (m : Manager) (eid : UInt8) (completion : OperationCompletion)
    (key : UInt8 × SessionId) :
    (m.answer eid completion).2.waiters.get? key =
      if key = (eid, completion.session) then none else m.waiters.get? key := by
  unfold answer
  split
  · exact Table.get?_erase _ _ _
  · rename_i hnone
    split
    · rename_i he
      rw [he, hnone]
    · rfl

theorem deliver_cons (m : Manager) (eid : UInt8) (completion : OperationCompletion)
    (rest : List OperationCompletion) : m.deliver eid (completion :: rest) =
      ((m.answer eid completion).1 ++ ((m.answer eid completion).2.deliver eid rest).1,
        ((m.answer eid completion).2.deliver eid rest).2) := rfl

/-- Nobody waits for an operation any more whose end was delivered. -/
theorem get?_waiters_deliver (m : Manager) (eid : UInt8) (completions : List OperationCompletion)
    (other : UInt8) (id : SessionId) :
    (m.deliver eid completions).2.waiters.get? (other, id) =
      if other = eid ∧ id ∈ completions.map (·.session) then none
      else m.waiters.get? (other, id) := by
  induction completions generalizing m with
  | nil => simp [deliver]
  | cons completion rest ih =>
    rw [deliver_cons, ih, get?_waiters_answer]
    by_cases he : other = eid <;> by_cases hrest : id ∈ rest.map (·.session) <;>
      by_cases hid : id = completion.session <;> simp [he, hrest, hid]

/-- Whatever was reported to have ended does not run: taking off the callers that wait for it keeps
    who waits and what runs together. -/
theorem Matched.deliver (h : m.Matched) (m₁ : Manager) {completions : List OperationCompletion}
    (hbefore : m₁.waiters = m.waiters)
    (hafter : m'.waiters = (m₁.deliver eid completions).2.waiters)
    (hothers : ∀ other, other ≠ eid → m'.devices.get? other = m.devices.get? other)
    (hdues : ∀ id, ((completions.map (·.session)).count id + if m'.runs eid id then 1 else 0) =
      if m.runs eid id then 1 else 0) : m'.Matched := by
  intro other id
  rw [hafter, get?_waiters_deliver, hbefore]
  by_cases he : other = eid
  · subst he
    have hid := hdues id
    have hwaits := h other id
    -- What ran was reported or still runs, and not both.
    by_cases hreported : id ∈ completions.map (·.session)
    · have hcount := List.count_pos_iff.mpr hreported
      rw [if_pos ⟨rfl, hreported⟩]
      cases hruns : m'.runs other id with
      | false => rfl
      | true =>
        rw [hruns, if_pos rfl] at hid
        split at hid <;> omega
    · rw [if_neg fun hand => hreported hand.2, hwaits]
      rw [List.count_eq_zero.mpr hreported, Nat.zero_add] at hid
      exact (eq_of_indicator_eq hid).symm
  · rw [if_neg fun hand => he hand.1, h other id]
    unfold runs
    rw [hothers other he]

theorem runs_of_found {d : Device} (hd : m.devices.get? eid = some d) (id : SessionId) :
    m.runs eid id = d.runs id := by
  unfold runs
  rw [hd, Option.any_some]

theorem runs_of_absent (hnone : m.devices.get? eid = none) (id : SessionId) :
    m.runs eid id = false := by
  unfold runs
  rw [hnone, Option.any_none]

/-! ## Answers -/

/-- How often a call is answered by notices. -/
def answersIn (told : List Notice) (call : CallId) : Nat := told.countP (·.answers call)

theorem answersIn_append (told told' : List Notice) (call : CallId) :
    answersIn (told ++ told') call = answersIn told call + answersIn told' call :=
  List.countP_append

/-- Who waits no more was answered. -/
theorem waiting_answer (m : Manager) (eid : UInt8) (completion : OperationCompletion)
    (call : CallId) : answersIn (m.answer eid completion).1 call +
      (m.answer eid completion).2.waiting call = m.waiting call := by
  unfold answer
  split
  · rename_i caller hcaller
    have hperm := Table.perm_values_erase hcaller
    unfold waiting answersIn
    rw [hperm.count_eq, List.count_cons, List.countP_cons, List.countP_nil]
    simp only [Notice.answers, decide_eq_true_iff, beq_iff_eq]
    omega
  · simp [answersIn]

theorem waiting_deliver (m : Manager) (eid : UInt8) (completions : List OperationCompletion)
    (call : CallId) : answersIn (m.deliver eid completions).1 call +
      (m.deliver eid completions).2.waiting call = m.waiting call := by
  induction completions generalizing m with
  | nil => simp [deliver, answersIn]
  | cons completion rest ih =>
    have hfirst := waiting_answer m eid completion call
    have hrest := ih (m.answer eid completion).2
    rw [deliver_cons]
    dsimp only
    rw [answersIn_append]
    omega

/-! ## Events -/

/-- What an event does to the callers: who runs is waited for, and each caller that is taken, or
    has waited, waits or was answered, unless its operation has expired. -/
structure Settled (m : Manager) (event : ManagerEvent) (told : List Notice) (m' : Manager) :
    Prop where
  matched : m'.Matched
  tally : ∀ call, answersIn told call + m'.waiting call + (m.expiredBy event).count call =
    m.waiting call + (m.performedBy event).count call

variable {setup : Setup} {d : Device} {event : ManagerEvent}

/-- A device at work has reported nothing yet. -/
theorem reported_of_faithful {r r' : DeviceRun} (hfaithful : r.Faithful r')
    (hnothing : r.completions = []) (id : SessionId) :
    ((r'.completions.map (·.session)).count id + if r'.device.runs id then 1 else 0) =
      if r.device.runs id then 1 else 0 := by
  have hdues := hfaithful.dues id
  unfold DeviceRun.dues DeviceRun.reported at hdues
  rw [hnothing, List.map_nil, List.count_nil, Nat.zero_add] at hdues
  exact hdues

theorem orderly_wake (hseated : m.Seated) (hd : m.devices.get? eid = some d) :
    (m.wake d).device.Orderly :=
  (hseated.orderly eid d hd).of_sessions rfl (Nat.le_refl _)

/-- A device at work that is faithful to its reports, which are delivered. -/
theorem settled_keep (hmatched : m.Matched) (hd : m.devices.get? eid = some d) {r r' : DeviceRun}
    (hsame : (m.wake d).SameSessions r) (hfaithful : r.Faithful r') (heid : r'.device.eid = eid)
    (hexpired : m.expiredBy event = []) (hperformed : m.performedBy event = []) :
    m.Settled event ((m.keep r').deliver eid r'.completions).1
      ((m.keep r').deliver eid r'.completions).2 where
  matched := by
    have hdevices : ((m.keep r').deliver eid r'.completions).2.devices =
        m.devices.insert eid r'.device := by
      rw [(sameDevices_deliver _ _ _).devices, ← heid]
      rfl
    refine hmatched.deliver (m.keep r') rfl rfl (fun other hne => ?_) (fun id => ?_)
    · rw [hdevices, Table.get?_insert, if_neg hne]
    · have hfound : ((m.keep r').deliver eid r'.completions).2.devices.get? eid =
          some r'.device := by
        rw [hdevices, Table.get?_insert, if_pos rfl]
      have hruns : r.device.runs id = d.runs id := by
        unfold Device.runs
        rw [hsame.sessions]
        rfl
      rw [runs_of_found hfound, runs_of_found hd, ← hruns]
      exact reported_of_faithful hfaithful hsame.completions id
  tally call := by
    rw [hexpired, hperformed]
    exact waiting_deliver (m.keep r') eid r'.completions call

/-- A device that is cancelled reports every operation that runs. -/
theorem reported_disable (hseated : m.Seated) (hd : m.devices.get? eid = some d) (id : SessionId) :
    ((m.wake d).disable.completions.map (·.session)).count id = if m.runs eid id then 1 else 0 := by
  have hfaithful := DeviceRun.faithful_cancelAll (orderly_wake hseated hd) .cancelled
  have hdues := reported_of_faithful hfaithful rfl id
  rw [runs_of_found hd]
  exact hdues

/-- A device that is new has nothing to report, but what was reported before it came is
    delivered. -/
theorem settled_welcome (hmatched : m.Matched) (hsame : SameDevices m m₁)
    (hwaiters : m₁.waiters = m.waiters) (tid : UInt8) (uuid : Uuid) (payloads : List Bytes)
    {before : List OperationCompletion}
    (hbefore : ∀ id, (before.map (·.session)).count id = if m.runs eid id then 1 else 0) :
    m.Settled (.discovered eid uuid tid payloads)
      (m₁.welcome setup eid uuid tid payloads before).1
      (m₁.welcome setup eid uuid tid payloads before).2 := by
  have ho : (m₁.wake (.new setup eid tid uuid payloads (m₁.folder uuid))).device.Orderly :=
    Device.orderly_of_empty rfl
  have heid : ((m₁.wake (.new setup eid tid uuid payloads (m₁.folder uuid))).refresh
      setup).device.eid = eid := by
    obtain ⟨_, hacted⟩ := DeviceRun.acted_refresh ho setup
    exact hacted.eid
  have hnothing := reported_of_faithful (DeviceRun.faithful_refresh ho setup) rfl
  unfold welcome
  dsimp only
  generalize (m₁.wake (.new setup eid tid uuid payloads (m₁.folder uuid))).refresh setup = r
    at hnothing heid ⊢
  have hdevices : ((m₁.keep r).deliver eid (before ++ r.completions)).2.devices =
      m.devices.insert eid r.device := by
    rw [(sameDevices_deliver _ _ _).devices, ← hsame.devices, ← heid]
    rfl
  refine ⟨hmatched.deliver (m₁.keep r) hwaiters rfl (fun other hne => ?_) (fun id => ?_),
    fun call => ?_⟩
  · rw [hdevices, Table.get?_insert, if_neg hne]
  · have hfound : ((m₁.keep r).deliver eid (before ++ r.completions)).2.devices.get? eid =
        some r.device := by
      rw [hdevices, Table.get?_insert, if_pos rfl]
    -- Nothing runs on a device that is new, so it reports nothing either.
    have hreported : ((r.completions.map (·.session)).count id +
        if r.device.runs id then 1 else 0) = 0 := hnothing id
    rw [runs_of_found hfound, List.map_append, List.count_append, hbefore id]
    omega
  · have hcallers := waiting_deliver (m₁.keep r) eid (before ++ r.completions) call
    have hwaiting : (m₁.keep r).waiting call = m.waiting call := by
      show m₁.waiters.values.count call = _
      rw [hwaiters]
      rfl
    rw [hwaiting] at hcallers
    exact hcallers

theorem settled_discovered (hseated : m.Seated) (hmatched : m.Matched) (eid : UInt8) (uuid : Uuid)
    (tid : UInt8) (payloads : List Bytes) :
    m.Settled (.discovered eid uuid tid payloads) (m.discovered setup eid uuid tid payloads).1
      (m.discovered setup eid uuid tid payloads).2 := by
  unfold discovered
  split
  · rename_i hnone
    refine settled_welcome hmatched {} rfl tid uuid payloads fun id => ?_
    rw [runs_of_absent hnone]
    rfl
  · rename_i d hd
    dsimp only
    split
    · have ho : ((m.wake d).setPayloads payloads).device.Orderly :=
        (orderly_wake hseated hd).of_sessions rfl (Nat.le_refl _)
      have heid : (((m.wake d).setPayloads payloads).refresh setup).device.eid = eid := by
        obtain ⟨_, hacted⟩ := DeviceRun.acted_refresh ho setup
        exact hacted.eid.trans (hseated.endpoints eid d hd)
      exact settled_keep hmatched hd {} (DeviceRun.faithful_refresh ho setup) heid rfl rfl
    · exact settled_welcome hmatched (sameDevices_settle_disable m d) rfl tid uuid payloads
        (reported_disable hseated hd)

theorem settled_response (hseated : m.Seated) (hmatched : m.Matched) (eid instanceId : UInt8)
    (message : Option Bytes) :
    m.Settled (.response eid instanceId message) (m.response setup eid instanceId message).1
      (m.response setup eid instanceId message).2 := by
  unfold response
  split
  · refine ⟨hmatched, fun call => ?_⟩
    simp [answersIn, expiredBy, performedBy]
  · rename_i d hd
    have ho := orderly_wake hseated hd
    have heid := hseated.endpoints eid d hd
    have hfaithful : (m.wake d).Faithful ((m.wake d).handleResponse setup instanceId message) ∧
        ((m.wake d).handleResponse setup instanceId message).device.eid = eid := by
      cases hpending : d.pending.get? instanceId with
      | none =>
        have hsame : (m.wake d).handleResponse setup instanceId message = m.wake d :=
          DeviceRun.handleResponse_of_unknown hpending message
        rw [hsame]
        exact ⟨DeviceRun.SameSessions.faithful {} ho, heid⟩
      | some request =>
        obtain ⟨_, hacted⟩ := DeviceRun.acted_answer ho setup hpending message
        exact ⟨DeviceRun.faithful_answer ho setup hpending message, hacted.eid.trans heid⟩
    exact settled_keep hmatched hd {} hfaithful.1 hfaithful.2 rfl rfl

theorem settled_remove (hseated : m.Seated) (hmatched : m.Matched) (eid : UInt8) :
    m.Settled (.remove eid) (m.remove eid).1 (m.remove eid).2 := by
  unfold remove
  split
  · refine ⟨hmatched, fun call => ?_⟩
    simp [answersIn, expiredBy, performedBy]
  · rename_i d hd
    have hdevices := devices_retire m eid d
    refine ⟨hmatched.deliver (m.settle (m.wake d).disable) rfl rfl (fun other hne => ?_)
      (fun id => ?_), fun call => waiting_deliver (m.settle (m.wake d).disable) eid _ call⟩
    · rw [hdevices, Table.get?_erase, if_neg hne]
    · have habsent : (m.retire eid d).2.devices.get? eid = none := by
        rw [hdevices, Table.get?_erase, if_pos rfl]
      rw [runs_of_absent habsent, if_neg Bool.false_ne_true]
      exact reported_disable hseated hd id

theorem performedBy_running (hrunning : m.stopped = false) (eid : UInt8)
    (request : OperationRequest) (call : CallId) :
    m.performedBy (.perform eid request call) = [call] := by
  show (if m.stopped = true then [] else [call]) = [call]
  rw [hrunning, if_neg Bool.false_ne_true]

/-- A call that is answered at once waits for nothing. -/
theorem settled_rejected (hrunning : m.stopped = false) {request : OperationRequest}
    {call : CallId} (e : Failure) (hmatched : m'.Matched) (hwaiters : m'.waiters = m.waiters) :
    m.Settled (.perform eid request call) [.answered call (.error e)] m' := by
  refine ⟨hmatched, fun other => ?_⟩
  rw [performedBy_running hrunning]
  unfold waiting answersIn
  rw [hwaiters, List.countP_singleton, List.count_singleton]
  simp only [Notice.answers, expiredBy, decide_eq_true_iff, beq_iff_eq, List.count_nil]
  omega

/-- A call whose operation has begun waits for it. -/
theorem settled_begun (hrunning : m.stopped = false) {request : OperationRequest} {call : CallId}
    {session : SessionId} (hmatched : m.Matched) (hwaiters : m₁.waiters = m.waiters)
    (hothers : ∀ other id, other ≠ eid → m₁.runs other id = m.runs other id)
    (hruns : ∀ id, (if m₁.runs eid id then 1 else 0) =
      (if m.runs eid id then 1 else 0) + if some session = some id then 1 else 0) :
    m.Settled (.perform eid request call) (m₁.await (eid, session) call).1
      (m₁.await (eid, session) call).2 := by
  -- The session is new, so nobody waits for it yet.
  have hnew : m₁.waiters.get? (eid, session) = none := by
    have hid := hruns session
    have hwaits := hmatched eid session
    rw [if_pos rfl] at hid
    rw [hwaiters, ← Option.not_isSome_iff_eq_none, hwaits]
    intro hyes
    rw [if_pos hyes] at hid
    split at hid <;> omega
  have hforget : m₁.forget (eid, session) = ([], m₁) := by
    unfold forget
    rw [hnew]
  have hawait : m₁.await (eid, session) call =
      ([.started call session], { m₁ with waiters := m₁.waiters.insert (eid, session) call }) := by
    unfold await
    rw [hforget]
  rw [hawait]
  refine ⟨fun other id => ?_, fun other => ?_⟩
  · show ((m₁.waiters.insert (eid, session) call).get? (other, id)).isSome = m₁.runs other id
    rw [Table.get?_insert, hwaiters]
    by_cases he : other = eid
    · subst he
      have hid := hruns id
      have hwaits := hmatched other id
      by_cases hs : id = session
      · subst hs
        rw [if_pos rfl] at hid ⊢
        cases hr : m₁.runs other id with
        | true => rfl
        | false =>
          rw [hr, if_neg Bool.false_ne_true] at hid
          omega
      · rw [if_neg (fun h => hs (Option.some.inj h).symm), Nat.add_zero] at hid
        rw [if_neg (fun h => hs (Prod.mk.inj h).2), hwaits]
        exact (eq_of_indicator_eq hid).symm
    · rw [if_neg (fun h => he (Prod.mk.inj h).1), hmatched other id, hothers other id he]
  · rw [performedBy_running hrunning]
    show 0 + (m₁.waiters.insert (eid, session) call).values.count other + 0 = _
    rw [Table.values_insert hnew, List.count_append, hwaiters]
    unfold waiting
    omega

theorem settled_perform (hrunning : m.stopped = false) (hseated : m.Seated)
    (hmatched : m.Matched) (eid : UInt8) (request : OperationRequest) (call : CallId) :
    m.Settled (.perform eid request call) (m.perform setup eid request call).1
      (m.perform setup eid request call).2 := by
  unfold perform
  split
  · exact settled_rejected hrunning _ hmatched rfl
  · rename_i d hd
    have ho := orderly_wake hseated hd
    have hruns := DeviceRun.runs_startOperation ho setup request
    have heid : ((m.wake d).startOperation setup request).2.device.eid = eid := by
      obtain ⟨_, hacted⟩ := DeviceRun.acted_startOperation ho setup request
      exact hacted.eid.trans (hseated.endpoints eid d hd)
    have hbefore : ∀ id, m.runs eid id = (m.wake d).device.runs id := fun id => runs_of_found hd id
    generalize (m.wake d).startOperation setup request = result at hruns heid
    obtain ⟨outcome, r⟩ := result
    have hdevices : (m.keep r).devices = m.devices.insert eid r.device := by
      rw [← heid]
      rfl
    have hown : ∀ id, (m.keep r).runs eid id = r.device.runs id := by
      intro id
      refine runs_of_found ?_ id
      rw [hdevices, Table.get?_insert, if_pos rfl]
    have hothers : ∀ other id, other ≠ eid → (m.keep r).runs other id = m.runs other id := by
      intro other id hne
      unfold runs
      rw [hdevices, Table.get?_insert, if_neg hne]
    simp only [← hbefore, ← hown] at hruns
    cases outcome with
    | error e =>
      refine settled_rejected hrunning e (fun other id => ?_) rfl
      refine (hmatched other id).trans ?_
      by_cases he : other = eid
      · subst he
        exact (eq_of_indicator_eq (hruns id)).symm
      · exact (hothers other id he).symm
    | ok session => exact settled_begun hrunning hmatched rfl hothers hruns

theorem get?_waiters_forget (m : Manager) (key key' : UInt8 × SessionId) :
    (m.forget key).2.waiters.get? key' = if key' = key then none else m.waiters.get? key' := by
  unfold forget
  split
  · exact Table.get?_erase _ _ _
  · rename_i hnone
    split
    · rename_i he
      rw [he, hnone]
    · rfl

/-- Who is forgotten waits no more, and gets no answer. -/
theorem waiting_forget (m : Manager) (key : UInt8 × SessionId) (call : CallId) :
    answersIn (m.forget key).1 call + (m.forget key).2.waiting call +
      (m.waiters.get? key).toList.count call = m.waiting call := by
  unfold forget
  split
  · rename_i caller hcaller
    have hperm := Table.perm_values_erase hcaller
    unfold waiting answersIn
    rw [hperm.count_eq, List.count_cons, List.countP_singleton, hcaller, Option.toList_some,
      List.count_singleton]
    simp only [Notice.answers, Bool.false_eq_true, if_false]
    omega
  · rename_i hnone
    simp [answersIn, hnone]

theorem settled_expire (hrunning : m.stopped = false) (hseated : m.Seated) (hmatched : m.Matched)
    (eid : UInt8) (session : SessionId) :
    m.Settled (.expire eid session) (m.expire eid session).1 (m.expire eid session).2 := by
  have hsame := sameDevices_forget m (eid, session)
  have hwaiters := get?_waiters_forget m (eid, session)
  have hwaiting := waiting_forget m (eid, session)
  have hexpired : m.expiredBy (.expire eid session) = (m.waiters.get? (eid, session)).toList := by
    show (if m.stopped = true then [] else _) = _
    rw [hrunning, if_neg Bool.false_ne_true]
  unfold expire
  generalize m.forget (eid, session) = forgotten at hsame hwaiters hwaiting ⊢
  obtain ⟨told, m₁⟩ := forgotten
  dsimp only at hsame hwaiters hwaiting ⊢
  -- The session does not run any more, or never ran.
  have hmatches : ∀ m' : Manager, m'.waiters = m₁.waiters →
      (∀ other id, m'.runs other id =
        (decide ((other, id) ≠ (eid, session)) && m.runs other id)) →
      m.Settled (.expire eid session) told m' := by
    intro m' hsameWaiters hruns
    refine ⟨fun other id => ?_, fun call => ?_⟩
    · rw [hsameWaiters, hwaiters, hruns]
      by_cases he : (other, id) = (eid, session)
      · rw [if_pos he, decide_eq_false (not_not_intro he)]
        rfl
      · rw [if_neg he, decide_eq_true he, Bool.true_and]
        exact hmatched other id
    · have hcall := hwaiting call
      rw [hexpired]
      unfold waiting at hcall ⊢
      rw [hsameWaiters]
      exact hcall
  split
  · rename_i hnone
    refine hmatches m₁ rfl fun other id => ?_
    have habsent : m.devices.get? eid = none := hsame.devices ▸ hnone
    have hruns : m₁.runs other id = m.runs other id := by
      unfold runs
      rw [hsame.devices]
    rw [hruns]
    by_cases he : (other, id) = (eid, session)
    · obtain ⟨rfl, rfl⟩ := Prod.mk.inj he
      rw [runs_of_absent habsent, Bool.and_false]
    · rw [decide_eq_true he, Bool.true_and]
  · rename_i d hd
    have hfound : m.devices.get? eid = some d := hsame.devices ▸ hd
    have ho : (m₁.wake d).device.Orderly :=
      (hseated.orderly eid d hfound).of_sessions rfl (Nat.le_refl _)
    have hruns : ∀ id, ((m₁.wake d).expire session).2.device.runs id =
        (decide (id ≠ session) && d.runs id) := DeviceRun.runs_abandon ho session rfl
    have heid : ((m₁.wake d).expire session).2.device.eid = eid :=
      (DeviceRun.acted_abandon ho session rfl).eid.trans (hseated.endpoints eid d hfound)
    refine hmatches _ rfl fun other id => ?_
    have hget : (m₁.keep ((m₁.wake d).expire session).2).devices.get? other =
        if other = eid then some ((m₁.wake d).expire session).2.device
        else m.devices.get? other := by
      rw [← hsame.devices, ← heid]
      exact Table.get?_insert _ _ _ _
    unfold runs
    rw [hget]
    by_cases he : other = eid
    · subst he
      rw [if_pos rfl, hfound, Option.any_some, Option.any_some, hruns]
      simp only [ne_eq, Prod.mk.injEq, true_and]
    · have hne : (other, id) ≠ (eid, session) := fun h => he (Prod.mk.inj h).1
      rw [if_neg he, decide_eq_true hne, Bool.true_and]

theorem waiting_retireAll (m : Manager) (entries : List (UInt8 × Device)) (call : CallId) :
    answersIn (m.retireAll entries).1 call + (m.retireAll entries).2.waiting call =
      m.waiting call := by
  induction entries generalizing m with
  | nil => simp [retireAll, answersIn]
  | cons entry rest ih =>
    obtain ⟨eid, device⟩ := entry
    have hfirst : answersIn (m.retire eid device).1 call + (m.retire eid device).2.waiting call =
        m.waiting call :=
      waiting_deliver (m.settle (m.wake device).disable) eid _ call
    have hrest := ih (m.retire eid device).2
    have hcons : m.retireAll ((eid, device) :: rest) =
        ((m.retire eid device).1 ++ ((m.retire eid device).2.retireAll rest).1,
          ((m.retire eid device).2.retireAll rest).2) := rfl
    rw [hcons]
    dsimp only
    rw [answersIn_append]
    omega

/-- Whoever still waits when the manager stops is answered. -/
theorem settled_stop (m : Manager) : m.Settled .shutdown m.stop.1 m.stop.2 := by
  have hdevices : ∀ eid, m.stop.2.devices.get? eid = none := by
    cases course_stop (m := m) with
    | unknown habout => cases habout
    | stopped hdevices => exact hdevices
  refine ⟨fun eid id => ?_, fun call => ?_⟩
  · rw [runs_of_absent (hdevices eid)]
    rfl
  · have hretired := waiting_retireAll m m.devices.entries call
    have hlast : ∀ calls : List CallId,
        answersIn (calls.map fun call => .answered call (.error .shuttingDown)) call =
          calls.count call := by
      intro calls
      unfold answersIn
      rw [List.countP_map]
      rfl
    show answersIn ((m.retireAll m.devices.entries).1 ++
      (m.retireAll m.devices.entries).2.waiters.values.map _) call + 0 + 0 = m.waiting call + 0
    rw [answersIn_append, hlast]
    exact hretired

/-- Nobody waits where there are no devices. -/
theorem Matched.nobody (h : m.Matched) (hnone : ∀ eid, m.devices.get? eid = none)
    (call : CallId) : m.waiting call = 0 := by
  refine List.count_eq_zero.mpr fun hmem => ?_
  obtain ⟨⟨⟨eid, id⟩, _⟩, hentry, rfl⟩ := List.mem_map.mp hmem
  have hwaits := h eid id
  rw [(Table.get?_eq_some_iff _ _ _).mpr hentry, runs_of_absent (hnone eid)] at hwaits
  cases hwaits

/-- Who calls a manager that has stopped is not taken, and gets no answer. -/
theorem dropped_of_stopped (hstopped : m.stopped = true) (event : ManagerEvent) (call : CallId) :
    answersIn (drop event) call = 0 ∧ m.expiredBy event = [] ∧ m.performedBy event = [] := by
  cases event <;> simp [answersIn, drop, Notice.answers, expiredBy, performedBy, hstopped]

/-- Each event settles the callers. -/
theorem settled_step (hrunning : m.stopped = false) (hseated : m.Seated) (hmatched : m.Matched)
    (setup : Setup) (event : ManagerEvent) :
    m.Settled event (m.step setup event).1 (m.step setup event).2 := by
  unfold step
  rw [if_neg (by simp [hrunning])]
  cases event with
  | discovered eid uuid tid payloads =>
    exact settled_discovered hseated hmatched eid uuid tid payloads
  | response eid instanceId message =>
    exact settled_response hseated hmatched eid instanceId message
  | perform eid request call => exact settled_perform hrunning hseated hmatched eid request call
  | expire eid session => exact settled_expire hrunning hseated hmatched eid session
  | remove eid => exact settled_remove hseated hmatched eid
  | shutdown => exact settled_stop m

end Manager

/-! ## Histories -/

namespace ManagerHistory

/-- Whether each operation that runs is waited for, and each caller that was taken waits, or has got
    one answer, or its operation has expired. -/
structure Attended (h : ManagerHistory) : Prop where
  seated : h.manager.Seated
  matched : h.manager.Matched
  tally : ∀ call, h.chronicle.answers call + h.manager.waiting call +
    h.chronicle.expired.count call = h.chronicle.performed.count call

variable {config : Config} {h : ManagerHistory}

theorem attended_opened (disk : Table Uuid Folder) (transport : Transport) (files : LocalFiles) :
    Attended { manager := .opened disk transport files } where
  seated := seated_opened disk transport files
  matched _ _ := rfl
  tally _ := rfl

theorem attended_take (ha : h.Attended) (setup : Setup) (event : ManagerEvent) :
    (h.take setup event).Attended where
  seated := seated_take ha.seated setup event
  matched := by
    rcases take_cases ha.seated setup event with ⟨_, hstep⟩ | ⟨hrunning, _⟩
    · rw [manager_take, hstep]
      exact ha.matched
    · exact (Manager.settled_step hrunning ha.seated ha.matched setup event).matched
  tally call := by
    have hbefore := ha.tally call
    have hanswers : (h.take setup event).chronicle.answers call = h.chronicle.answers call +
        Manager.answersIn (h.manager.step setup event).1 call :=
      List.countP_append
    have hexpired : (h.take setup event).chronicle.expired.count call =
        (h.manager.expiredBy event).count call + h.chronicle.expired.count call :=
      List.count_append
    have hperformed : (h.take setup event).chronicle.performed.count call =
        (h.manager.performedBy event).count call + h.chronicle.performed.count call :=
      List.count_append
    rw [hanswers, hexpired, hperformed, manager_take]
    rcases take_cases ha.seated setup event with ⟨hstopped, hstep⟩ | ⟨hrunning, _⟩
    · obtain ⟨htold, hexpired', hperformed'⟩ := Manager.dropped_of_stopped hstopped event call
      rw [hstep, hexpired', hperformed', List.count_nil]
      dsimp only
      omega
    · have hevent :=
        (Manager.settled_step hrunning ha.seated ha.matched setup event).tally call
      omega

theorem Reachable.attended (hreachable : Reachable config h) : h.Attended :=
  hreachable.invariant attended_opened fun _ setup event ha => attended_take ha setup event

/-- In every history of a manager: somebody waits under an endpoint and a session if and only if the
    device at the endpoint has this session, it is an operation, and it is live.  When the manager
    has stopped, a call that it has taken once was answered exactly once, except that a call whose
    operation has expired was not answered. -/
theorem waiters_match (hreachable : Reachable config h) :
    (∀ eid id, (eid, id) ∈ h.manager.waiters.keys ↔
      ∃ d s, h.manager.devices.get? eid = some d ∧ d.sessions.get? id = some s ∧
        s.task.isOperation = true ∧ s.state.isTerminal = false) ∧
    (h.manager.stopped = true → ∀ call, h.chronicle.performed.count call = 1 →
      (h.chronicle.answers call = 1 ∧ call ∉ h.chronicle.expired) ∨
      (h.chronicle.answers call = 0 ∧ call ∈ h.chronicle.expired)) := by
  have ha := hreachable.attended
  refine ⟨fun eid id => ?_, fun hstopped call honce => ?_⟩
  · rw [Table.mem_keys_iff, ← Option.isSome_iff_exists, ha.matched eid id, Manager.runs,
      Option.any_eq_true]
    refine exists_congr fun d => ?_
    constructor
    · rintro ⟨hd, hruns⟩
      obtain ⟨s, hs⟩ := (ha.seated.orderly eid d hd).runs_iff.mp hruns
      exact ⟨s, hd, hs⟩
    · rintro ⟨s, hd, hs⟩
      exact ⟨hd, (ha.seated.orderly eid d hd).runs_iff.mpr ⟨s, hs⟩⟩
  · -- All devices are gone, so nobody waits, and the tally has but two parts left.
    have htally := ha.tally call
    rw [ha.matched.nobody (ha.seated.deserted hstopped), honce] at htally
    by_cases hexpired : call ∈ h.chronicle.expired
    · have hcount := List.count_pos_iff.mpr hexpired
      exact Or.inr ⟨by omega, hexpired⟩
    · rw [List.count_eq_zero.mpr hexpired] at htally
      exact Or.inl ⟨by omega, hexpired⟩

/-- In the sample two of the operations run, and their callers wait; the third one has expired.
    When the manager stops, both of them are answered. -/
theorem waiters_match_sample :
    sampleHistory.manager.waiters.keys = [(8, ⟨2⟩), (8, ⟨4⟩)] ∧
    (∃ d s, sampleHistory.manager.devices.get? 8 = some d ∧ d.sessions.get? ⟨4⟩ = some s ∧
      s.task.isOperation = true ∧ s.state.isTerminal = false) ∧
    (stoppedHistory.chronicle.answers ⟨0⟩ = 1 ∧ ⟨0⟩ ∉ stoppedHistory.chronicle.expired) ∧
    (stoppedHistory.chronicle.answers ⟨1⟩ = 0 ∧ ⟨1⟩ ∈ stoppedHistory.chronicle.expired) := by
  have hkeys : sampleHistory.manager.waiters.keys = [(8, ⟨2⟩), (8, ⟨4⟩)] := by decide +kernel
  have hstopped : stoppedHistory.manager.stopped = true := by decide +kernel
  have hzero : stoppedHistory.chronicle.performed.count ⟨0⟩ = 1 := by decide +kernel
  have hone : stoppedHistory.chronicle.performed.count ⟨1⟩ = 1 := by decide +kernel
  have hmatch := (waiters_match reachable_sample).1 8 ⟨4⟩
  have hends := (waiters_match reachable_stopped).2 hstopped
  refine ⟨hkeys, hmatch.mp (by rw [hkeys]; decide), ?_, ?_⟩
  · refine (hends ⟨0⟩ hzero).resolve_right fun hand => ?_
    exact absurd hand.2 (by decide +kernel)
  · refine (hends ⟨1⟩ hone).resolve_left fun hand => ?_
    exact absurd hand.2 (by decide +kernel)

end ManagerHistory

end DeviceEnablement
