/-
  Callers that run out of time.

  The timer of a caller may go off at any moment.  The caller then has its result, and nobody will
  hear of its operation again; so the operation should be given up.  The caller asks for this by an
  event behind those that are in the queue, which it can do only if it knows the session.

  1. `Enrolled.requestsFor_eq`: a call has no job but one.
  2. `Leaving`: from the moment at which the timer has gone off, the job is over, or there is an
     event in the queue that will end it, and that gets its turn in time.
  3. `timed_out_is_over`: if the manager had taken the call when the timer went off, then once it
     has also taken what was in the queue, the operation is given up, and no request is ever sent
     for it again.
  4. `timed_out_while_queued`: a caller whose call is still in the queue knows no session.  Its
     operation begins after all.
-/
import DeviceEnablement.Proofs.Manager.Callers

namespace DeviceEnablement

namespace ServiceHistory

variable {config : Config} {h h' h'' : ServiceHistory} {setup : Setup} {event : ManagerEvent}
  {call : CallId} {job : Job} {k n left : Nat}

/-! ## What stays -/

/-- The manager does not change, or takes one event. -/
theorem Turn.history (hturn : h.Turn k h') :
    h'.history = h.history ∨ ∃ setup event, h'.history = h.history.take setup event := by
  cases hturn with
  | quiet unheard => exact Or.inl (history_of_quiet unheard)
  | called setup eid request =>
    obtain ⟨_, -, -, _, -, hafter⟩ := h.service.call_cases setup eid request
    refine Or.inl ?_
    rw [hafter]
    rfl
  | taken _ handled | closed _ _ handled => exact Or.inr ⟨_, _, handled.history⟩

/-- A caller that has a result keeps it. -/
theorem Turn.result (hturn : h.Turn k h') (he : h.Enrolled) {caller : Caller}
    {result : Except Failure OperationResult}
    (hcaller : h.service.callers.get? call = some caller) (hresult : caller.result = some result) :
    ∃ caller', h'.service.callers.get? call = some caller' ∧ caller'.result = some result := by
  have hkept : ∀ {s : Service} {told : List Notice}, h.service.CallersBecome told s →
      ∃ caller', s.callers.get? call = some caller' ∧ caller'.result = some result := by
    intro s told hcallers
    obtain ⟨caller', hcaller', hbecomes⟩ := hcallers.after hcaller
    exact ⟨caller', hcaller', hbecomes.result _ hresult⟩
  cases hturn with
  | quiet unheard => exact hkept unheard.callers
  | called setup eid request =>
    obtain ⟨new, -, -, _, -, hafter⟩ := h.service.call_cases setup eid request
    have hother : call ≠ ⟨h.service.nextCall⟩ := by
      rintro rfl
      exact absurd (he.callers _ caller hcaller) (Nat.lt_irrefl _)
    refine ⟨caller, ?_, hresult⟩
    rw [hafter]
    show (h.service.callers.insert ⟨h.service.nextCall⟩ new).get? call = some caller
    rw [Table.get?_insert, if_neg hother]
    exact hcaller
  | taken _ handled | closed _ _ handled => exact hkept handled.callers

theorem Turn.begun (hturn : h.Turn k h') (hmem : job ∈ h.chronicle.jobs) :
    job ∈ h'.chronicle.jobs := by
  show job ∈ h'.history.chronicle.jobs
  rcases hturn.history with hsame | ⟨setup, event, htake⟩
  · rw [hsame]
    exact hmem
  · rw [htake, ManagerHistory.jobs_take]
    exact List.mem_append_right _ hmem

theorem Turn.over (hturn : h.Turn k h') (he : h.Enrolled) (hover : h.history.Over job) :
    h'.history.Over job := by
  rcases hturn.history with hsame | ⟨setup, event, htake⟩
  · rw [hsame]
    exact hover
  · rw [htake]
    exact ManagerHistory.over_take he.seated hover

/-- No call has two jobs. -/
theorem Enrolled.job_unique (he : h.Enrolled) {other : Job} (hmem : job ∈ h.chronicle.jobs)
    (hother : other ∈ h.chronicle.jobs) (hcall : other.call = job.call) : other = job :=
  List.inj_on_of_nodup_map (List.nodup_append.mp he.distinct).2.1 hother hmem hcall

/-- The requests that are sent for a call are those for its job. -/
theorem Enrolled.requestsFor_eq (he : h.Enrolled) (hmem : job ∈ h.chronicle.jobs) :
    h.chronicle.requestsFor job.call = h.chronicle.letters.filter (·.isFor job) := by
  refine List.filter_congr fun letter _ => ?_
  rw [Bool.eq_iff_iff, List.any_eq_true]
  constructor
  · rintro ⟨other, hother, hboth⟩
    obtain ⟨hcall, hfor⟩ := Bool.and_eq_true_iff.mp hboth
    exact he.job_unique hmem hother (of_decide_eq_true hcall) ▸ hfor
  · exact fun hfor => ⟨job, hmem, Bool.and_eq_true_iff.mpr ⟨decide_eq_true rfl, hfor⟩⟩

/-- Nothing is sent for a call whose job is over. -/
theorem Turn.requestsFor (hturn : h.Turn k h') (he : h.Enrolled) (hmem : job ∈ h.chronicle.jobs)
    (hover : h.history.Over job) :
    h'.chronicle.requestsFor job.call = h.chronicle.requestsFor job.call := by
  rw [(he.turn hturn).requestsFor_eq (hturn.begun hmem), he.requestsFor_eq hmem]
  show h'.history.chronicle.letters.filter _ = h.history.chronicle.letters.filter _
  rcases hturn.history with hsame | ⟨setup, event, htake⟩
  · rw [hsame]
  · have hnone : (h.history.chronicle.lettersSince
        (h.history.take setup event).chronicle).filter (·.isFor job) = [] := by
      refine List.filter_eq_nil_iff.mpr fun letter hletter => ?_
      rw [ManagerHistory.isFor_of_over he.seated he.booked hover hletter]
      exact Bool.false_ne_true
    rw [htake, ManagerHistory.letters_take, List.filter_append, hnone, List.nil_append]

/-! ## From the timer to the end -/

/-- Whether the caller of a job was told that its time is over, and the job is over, or will be when
    the manager has taken `left` more events. -/
structure Leaving (h : ServiceHistory) (job : Job) (left : Nat) : Prop where
  enrolled : h.Enrolled
  begun : job ∈ h.chronicle.jobs
  told : ∃ caller, h.service.callers.get? job.call = some caller ∧
    caller.result = some (.error .timedOut)
  ending : h.history.Over job ∨ ∃ front rest,
    h.service.queue = front ++ .expire job.eid job.session :: rest ∧ front.length < left

theorem Leaving.over (hl : h.Leaving job 0) : h.history.Over job := by
  rcases hl.ending with hover | ⟨_, _, -, hlate⟩
  · exact hover
  · exact absurd hlate (Nat.not_lt_zero _)

/-- Each event that the manager takes is one less before the job is over. -/
theorem Leaving.turn (hl : h.Leaving job left) (hturn : h.Turn k h') :
    h'.Leaving job (left - k) where
  enrolled := hl.enrolled.turn hturn
  begun := hturn.begun hl.begun
  told := by
    obtain ⟨caller, hcaller, hresult⟩ := hl.told
    exact hturn.result hl.enrolled hcaller hresult
  ending := by
    rcases hl.ending with hover | ⟨front, rest, hqueue, hshort⟩
    · exact Or.inl (hturn.over hl.enrolled hover)
    · cases hturn with
      | quiet unheard =>
        obtain ⟨more, hmore, -⟩ := unheard.queue
        refine Or.inr ⟨front, rest ++ more, ?_, hshort⟩
        rw [show (h.withService _).service.queue = _ from hmore, hqueue, List.append_assoc,
          List.cons_append]
      | called setup eid request =>
        obtain ⟨_, -, -, more, -, hafter⟩ := h.service.call_cases setup eid request
        refine Or.inr ⟨front, rest ++ more, ?_, hshort⟩
        rw [hafter]
        show h.service.queue ++ more = _
        rw [hqueue, List.append_assoc, List.cons_append]
      | taken queue handled =>
        rw [queue] at hqueue
        cases front with
        | nil =>
          -- It is its turn.
          obtain ⟨rfl, -⟩ := List.cons.inj hqueue
          refine Or.inl ?_
          rw [handled.history]
          exact ManagerHistory.over_expire hl.enrolled.seated hl.enrolled.numbered hl.begun _
        | cons first front =>
          -- Another event was in front of it.
          obtain ⟨-, hrest⟩ := List.cons.inj hqueue
          exact Or.inr ⟨front, rest, hrest, Nat.lt_sub_of_add_lt hshort⟩
      | closed before =>
        -- The queue is empty then, and the event would be in it.
        rw [before] at hqueue
        exact absurd hqueue.symm (List.append_ne_nil_of_right_ne_nil _ (List.cons_ne_nil _ _))

theorem Leaving.steps (hl : h.Leaving job left) (hsteps : Steps config n h h') :
    h'.Leaving job (left - n) := by
  induction hsteps with
  | refl => exact hl
  | tail _ hstep ih =>
    rw [← Nat.sub_sub]
    exact (ih hl).turn hstep.turn

/-- When a job is over, nothing is ever sent for its call again. -/
theorem Leaving.requestsFor (hl : h.Leaving job 0) (hsteps : Steps config n h h') :
    h'.chronicle.requestsFor job.call = h.chronicle.requestsFor job.call := by
  induction hsteps with
  | refl => rfl
  | tail hsteps hstep ih =>
    have hl' := hl.steps hsteps
    rw [Nat.zero_sub] at hl'
    rw [hstep.turn.requestsFor hl'.enrolled hl'.begun hl'.over, ih hl]

/-- A caller that knows its session lets it expire. -/
theorem timeOut_of_known {s : Service} {caller : Caller} {id : SessionId}
    (hcaller : s.callers.get? call = some caller) (hwaiting : caller.isWaiting = true)
    (hid : caller.session = some id) :
    s.timeOut call = ((s.change call (·.settleWith (.error .timedOut))).enqueue
      (.expire caller.eid id)).2 := by
  unfold Service.timeOut
  rw [hcaller]
  dsimp only
  rw [if_pos hwaiting, hid]

/-- A caller that waits, and whose call the manager has taken, lets its job expire. -/
theorem Enrolled.leaving_timeOut (he : h.Enrolled) {caller : Caller}
    (hcaller : h.service.callers.get? call = some caller) (hwaiting : caller.isWaiting = true)
    (htaken : call ∉ callsIn h.service.queue) :
    ∃ job, job.call = call ∧
      (h.timeOut call).Leaving job (h.timeOut call).service.queue.length := by
  have hnone : caller.result = none := Option.isNone_iff_eq_none.mp hwaiting
  -- The caller was told something, and it was not a result.
  have hsome : caller.session.isSome = true := by
    by_contra hunknown
    refine htaken (he.untold call caller hcaller ?_)
    unfold Caller.isTold
    rw [hnone, Option.isSome_none, Bool.or_false]
    exact eq_false_of_ne_true hunknown
  obtain ⟨id, hid⟩ := Option.isSome_iff_exists.mp hsome
  obtain ⟨job, hjob, rfl, heid, rfl⟩ := he.known call caller id hcaller hid
  have hservice := timeOut_of_known hcaller hwaiting hid
  refine ⟨job, rfl, he.quiet (h.service.quiet_timeOut job.call), hjob, ?_, ?_⟩
  · refine ⟨caller.settleWith (.error .timedOut), ?_, ?_⟩
    · show (h.service.timeOut job.call).callers.get? job.call = _
      rw [hservice, Service.callers_enqueue, Service.get?_change, hcaller, if_pos rfl,
        Option.map_some]
    · show caller.result.or _ = _
      rw [hnone, Option.none_or]
  · show (h.withService (h.service.timeOut job.call)).history.Over job ∨
      ∃ front rest : List ManagerEvent, (h.service.timeOut job.call).queue =
        front ++ .expire job.eid job.session :: rest ∧
        front.length < (h.service.timeOut job.call).queue.length
    rw [history_of_quiet (h.service.quiet_timeOut job.call)]
    have hsame := h.service.sameButCallers_change job.call (·.settleWith (.error .timedOut))
    rw [hservice, ← heid]
    unfold Service.enqueue
    split
    · -- The manager has stopped, and all devices are gone.
      rename_i hstopped
      rw [hsame.manager] at hstopped
      exact Or.inl (ManagerHistory.over_of_deserted he.numbered hjob (he.seated.deserted hstopped))
    · refine Or.inr ⟨h.service.queue, [], by rw [← hsame.queue], ?_⟩
      rw [← hsame.queue, List.length_append]
      exact Nat.lt_succ_self _

/-- In every history, if a timer goes off while the caller waits, and the manager has already taken
    the call, then the caller is told that its time is over; and once the manager has taken whatever
    was in the queue then, the operation is no longer in progress: if its device still has a session
    for it, this was given up, and no request is ever sent for the call again, whatever comes. -/
theorem timed_out_is_over (hreachable : Reachable config h) {caller : Caller}
    (hcaller : h.service.callers.get? call = some caller) (hwaiting : caller.isWaiting = true)
    (htaken : call ∉ callsIn h.service.queue) (hsteps : Steps config n (h.timeOut call) h')
    (hall : (h.timeOut call).service.queue.length ≤ n) :
    (∃ caller', h'.service.callers.get? call = some caller' ∧
      caller'.result = some (.error .timedOut)) ∧
    (∃ job ∈ h'.chronicle.jobs, job.call = call) ∧
    (∀ job ∈ h'.chronicle.jobs, job.call = call → ∀ s, h'.history.sessionFor? job = some s →
      s.state.isAbandoned = true) ∧
    (∀ k h'', Steps config k h' h'' →
      h''.chronicle.requestsFor call = h'.chronicle.requestsFor call) ∧
    ∀ letter ∈ h'.chronicle.letters, letter.session.isSome = true := by
  obtain ⟨job, rfl, hleaving⟩ := hreachable.enrolled.leaving_timeOut hcaller hwaiting htaken
  have hgone := hleaving.steps hsteps
  rw [Nat.sub_eq_zero_of_le hall] at hgone
  refine ⟨hgone.told, ⟨job, hgone.begun, rfl⟩, ?_, fun k h'' hmore => hgone.requestsFor hmore,
    hgone.enrolled.numbered.letters⟩
  intro other hother hcall s hs
  rw [hgone.enrolled.job_unique hgone.begun hother hcall] at hs
  exact hgone.over.abandoned hgone.enrolled.seated hs

/-! ## Two interleavings -/

/-- The manager takes events from outside, one after the other. -/
def feed (h : ServiceHistory) (setup : Setup) (events : List ManagerEvent) : ServiceHistory :=
  events.foldl (fun h event => (h.withService (h.service.submit event).2).processNext setup) h

theorem Reachable.step (hreachable : Reachable config h) (hstep : Step config k h h') :
    Reachable config h' := by
  obtain ⟨n, disk, transport, files, hsteps⟩ := hreachable
  exact ⟨n + k, disk, transport, files, hsteps.tail hstep⟩

theorem Reachable.processNext (hreachable : Reachable config h) (codec : Codec) :
    Reachable config (h.processNext { config, codec }) := by
  by_cases hqueue : h.service.queue = []
  · have hsame : h.processNext { config, codec } = h := by
      unfold ServiceHistory.processNext Service.processNext
      rw [hqueue]
    rw [hsame]
    exact hreachable
  · exact hreachable.step (.processNext h codec hqueue)

theorem Reachable.feed (hreachable : Reachable config h) (codec : Codec)
    {events : List ManagerEvent} (houtside : ∀ event ∈ events, event.isOutside = true) :
    Reachable config (h.feed { config, codec } events) := by
  induction events generalizing h with
  | nil => exact hreachable
  | cons event rest ih =>
    have hfirst := hreachable.step (.submit h (houtside event List.mem_cons_self))
    exact ih (hfirst.processNext codec) fun other hmem =>
      houtside other (List.mem_cons_of_mem _ hmem)

/-- A device is found at endpoint 8 and negotiates, and somebody calls for an operation. -/
def calledHistory : ServiceHistory :=
  let h := feed { service := { manager := .opened {} {} {} } } DeviceHistory.sampleSetup
    (ManagerHistory.sampleEvents.take 3)
  h.withService (h.service.call DeviceHistory.sampleSetup 8 DeviceHistory.sampleRequest).2

/-- The manager takes the call before the timer goes off. -/
def timelyHistory : ServiceHistory :=
  ((calledHistory.processNext DeviceHistory.sampleSetup).timeOut ⟨0⟩).processNext
    DeviceHistory.sampleSetup

/-- The timer goes off before the manager takes the call. -/
def lateHistory : ServiceHistory :=
  (calledHistory.timeOut ⟨0⟩).processNext DeviceHistory.sampleSetup

theorem reachable_called : Reachable DeviceHistory.sampleSetup.config calledHistory := by
  refine Reachable.step (Reachable.feed ⟨0, {}, {}, {}, .refl _⟩ _ ?_) (.call _ _ 8 _)
  decide

/-- One request was sent for the operation before the timer went off, and there will be no other. -/
theorem timed_out_is_over_timely :
    (∃ caller, timelyHistory.service.callers.get? ⟨0⟩ = some caller ∧
      caller.result = some (.error .timedOut)) ∧
    (timelyHistory.chronicle.requestsFor ⟨0⟩).length = 1 ∧
    ∀ k h, Steps DeviceHistory.sampleSetup.config k timelyHistory h →
      (h.chronicle.requestsFor ⟨0⟩).length = 1 := by
  have hreachable := reachable_called.processNext DeviceHistory.sampleSetup.codec
  obtain ⟨caller, hcaller, hwaiting⟩ : ∃ caller,
      (calledHistory.processNext DeviceHistory.sampleSetup).service.callers.get? ⟨0⟩ =
        some caller ∧ caller.isWaiting = true :=
    Option.any_eq_true _ _ |>.mp (by decide +kernel)
  have htaken : ⟨0⟩ ∉ callsIn
      (calledHistory.processNext DeviceHistory.sampleSetup).service.queue := by
    decide +kernel
  have hstep : Steps DeviceHistory.sampleSetup.config 1
      ((calledHistory.processNext DeviceHistory.sampleSetup).timeOut ⟨0⟩) timelyHistory :=
    .tail (.refl _) (.processNext _ DeviceHistory.sampleSetup.codec (by decide +kernel))
  obtain ⟨htold, -, -, hnothing, -⟩ :=
    timed_out_is_over hreachable hcaller hwaiting htaken hstep (by decide +kernel)
  have hone : (timelyHistory.chronicle.requestsFor ⟨0⟩).length = 1 := by decide +kernel
  exact ⟨htold, hone, fun k h hsteps => hnothing k h hsteps ▸ hone⟩

/-- It is not so that the operation of a caller that was told so is given up: here the queue held
    nothing but the call when the timer went off, the manager has taken it, and the operation is in
    progress, with a request that was sent after the caller had left. -/
theorem timed_out_while_queued :
    Reachable DeviceHistory.sampleSetup.config (calledHistory.timeOut ⟨0⟩) ∧
    ((calledHistory.timeOut ⟨0⟩).service.callers.get? ⟨0⟩).map (·.result) =
      some (some (.error .timedOut)) ∧
    (calledHistory.timeOut ⟨0⟩).service.queue.length = 1 ∧
    (calledHistory.timeOut ⟨0⟩).chronicle.requestsFor ⟨0⟩ = [] ∧
    Steps DeviceHistory.sampleSetup.config 1 (calledHistory.timeOut ⟨0⟩) lateHistory ∧
    lateHistory.service.queue = [] ∧
    lateHistory.chronicle.jobs.map (fun job =>
      (job.call, (lateHistory.history.sessionFor? job).map (·.state))) =
        [(⟨0⟩, some .waiting)] ∧
    (lateHistory.chronicle.requestsFor ⟨0⟩).length = 1 := by
  refine ⟨reachable_called.step (.timeOut _ _), by decide +kernel, by decide +kernel,
    by decide +kernel, ?_, by decide +kernel, by decide +kernel, by decide +kernel⟩
  exact .tail (.refl _) (.processNext _ DeviceHistory.sampleSetup.codec (by decide +kernel))

end ServiceHistory

end DeviceEnablement
