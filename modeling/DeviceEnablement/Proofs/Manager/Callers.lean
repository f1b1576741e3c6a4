/-
  Callers and their jobs.

  A caller knows of its operation only what the manager has told it.  Its call gets a number, waits
  in the queue, and is taken by the manager, which then lets a job begin or refuses.

  1. `Caller.Becomes`: what notices can change about a caller (`Service.callersBecome_notes`).
  2. `Service.Quiet`: what others than the manager can do, unless they call.
  3. `ServiceHistory`: the manager with its queue and its callers, and its chronicle.  `Steps`
     counts the events that the manager takes from the queue.
  4. `Turn`: what a step comes to.
  5. `Enrolled`: each call is in the queue, or has got a job, and not both, and not twice.  A caller
     that knows a session knows that of its job.  One that knows nothing yet has its call in the
     queue.
-/
import DeviceEnablement.Manager.Service
import DeviceEnablement.Proofs.Manager.Jobs

namespace DeviceEnablement

namespace ManagerEvent

/-- Whether an event may be submitted by others than callers. -/
def isOutside : ManagerEvent → Bool
  | .discovered .. | .response .. | .remove _ | .shutdown => true
  | .perform .. | .expire .. => false

/-- The call that an event puts to the manager. -/
def call? : ManagerEvent → Option CallId
  | .perform _ _ call => some call
  | _ => none

end ManagerEvent

namespace Notice

/-- The call that a notice is about. -/
def call : Notice → CallId
  | .started call _ | .answered call _ | .forgotten call => call

/-- What a notice makes of its caller. -/
def change : Notice → Caller → Caller
  | .started _ session, caller => { caller with session := some session }
  | .answered _ result, caller => caller.settleWith result
  | .forgotten _, caller => caller.settleWith (.error .shuttingDown)

end Notice

/-! ## Callers and notices -/

namespace Caller

/-- Whether a caller was told anything. -/
def isTold (caller : Caller) : Bool := caller.session.isSome || caller.result.isSome

/-- Whether a caller can be what has become of another one that was told `told`. -/
structure Becomes (call : CallId) (told : List Notice) (caller caller' : Caller) : Prop where
  eid : caller'.eid = caller.eid
  session : caller'.session = caller.session ∨
    ∃ id, (call, id) ∈ startedIn told ∧ caller'.session = some id
  result : ∀ result, caller.result = some result → caller'.result = some result

variable {call : CallId} {told told' : List Notice} {caller caller' caller'' : Caller}

theorem Becomes.refl (call : CallId) (told : List Notice) (caller : Caller) :
    caller.Becomes call told caller := ⟨rfl, Or.inl rfl, fun _ h => h⟩

theorem Becomes.trans (h : caller.Becomes call told caller')
    (h' : caller'.Becomes call told' caller'') : caller.Becomes call (told ++ told') caller'' := by
  refine ⟨h'.eid.trans h.eid, ?_, fun result hresult => h'.result _ (h.result _ hresult)⟩
  rw [Manager.startedIn_append]
  rcases h'.session with hsame | ⟨id, hid, hsession⟩
  · rcases h.session with hsame' | ⟨id, hid, hsession⟩
    · exact Or.inl (hsame.trans hsame')
    · exact Or.inr ⟨id, List.mem_append_left _ hid, hsame.trans hsession⟩
  · exact Or.inr ⟨id, List.mem_append_right _ hid, hsession⟩

/-- Nobody forgets what it was told. -/
theorem Becomes.isTold (h : caller.Becomes call told caller') (htold : caller.isTold = true) :
    caller'.isTold = true := by
  unfold Caller.isTold at htold ⊢
  rw [Bool.or_eq_true] at htold ⊢
  rcases htold with hsession | hresult
  · refine Or.inl ?_
    rcases h.session with hsame | ⟨id, -, hid⟩
    · rw [hsame]
      exact hsession
    · rw [hid]
      rfl
  · obtain ⟨result, hresult⟩ := Option.isSome_iff_exists.mp hresult
    rw [h.result result hresult]
    exact Or.inr rfl

theorem becomes_settleWith (call : CallId) (told : List Notice) (caller : Caller)
    (result : Except Failure OperationResult) :
    caller.Becomes call told (caller.settleWith result) := by
  refine ⟨rfl, Or.inl rfl, fun other h => ?_⟩
  show caller.result.or (some result) = some other
  rw [h]
  rfl

theorem isTold_settleWith (caller : Caller) (result : Except Failure OperationResult) :
    (caller.settleWith result).isTold = true := by
  unfold isTold settleWith
  cases caller.result <;> exact Bool.or_true _

theorem becomes_change (notice : Notice) (caller : Caller) :
    caller.Becomes notice.call [notice] (notice.change caller) := by
  cases notice with
  | started call session =>
    exact ⟨rfl, Or.inr ⟨session, List.mem_singleton_self _, rfl⟩, fun _ h => h⟩
  | answered call result => exact becomes_settleWith call _ caller result
  | forgotten call => exact becomes_settleWith call _ caller _

theorem isTold_change (notice : Notice) (caller : Caller) :
    (notice.change caller).isTold = true := by
  cases notice with
  | started => rfl
  | answered | forgotten => exact isTold_settleWith caller _

end Caller

namespace Service

theorem get?_change (s : Service) (call : CallId) (f : Caller → Caller) (other : CallId) :
    (s.change call f).callers.get? other =
      (s.callers.get? other).map (if other = call then f else id) := by
  unfold change
  split
  · rename_i caller hcaller
    dsimp only
    rw [Table.get?_insert]
    split
    · rename_i he
      rw [he, hcaller]
      rfl
    · exact (Option.map_id_apply).symm
  · rename_i hnone
    split
    · rename_i he
      rw [he, hnone]
      rfl
    · exact (Option.map_id_apply).symm

/-- Whether the callers in `s'` are what has become of those in `s` that were told `told`. -/
def CallersBecome (s : Service) (told : List Notice) (s' : Service) : Prop :=
  ∀ call, ∃ f : Caller → Caller, s'.callers.get? call = (s.callers.get? call).map f ∧
    ∀ caller : Caller, caller.Becomes call told (f caller)

namespace CallersBecome

variable {s s' s'' : Service} {told told' : List Notice} {call : CallId}

theorem of_same (hcallers : s'.callers = s.callers) (told : List Notice) :
    s.CallersBecome told s' :=
  fun call => ⟨id, by rw [hcallers, Option.map_id_apply], .refl call told⟩

theorem trans (h : s.CallersBecome told s') (h' : s'.CallersBecome told' s'') :
    s.CallersBecome (told ++ told') s'' := by
  intro call
  obtain ⟨f, hf, hbecomes⟩ := h call
  obtain ⟨g, hg, hbecomes'⟩ := h' call
  refine ⟨g ∘ f, ?_, fun caller => (hbecomes caller).trans (hbecomes' (f caller))⟩
  rw [hg, hf, Option.map_map]

/-- What has become of a caller. -/
theorem after (h : s.CallersBecome told s') {caller : Caller}
    (hcaller : s.callers.get? call = some caller) :
    ∃ caller', s'.callers.get? call = some caller' ∧ caller.Becomes call told caller' := by
  obtain ⟨f, hf, hbecomes⟩ := h call
  rw [hcaller] at hf
  exact ⟨f caller, hf, hbecomes caller⟩

/-- What a caller was. -/
theorem before (h : s.CallersBecome told s') {caller' : Caller}
    (hcaller' : s'.callers.get? call = some caller') :
    ∃ caller, s.callers.get? call = some caller ∧ caller.Becomes call told caller' := by
  obtain ⟨f, hf, hbecomes⟩ := h call
  rw [hf] at hcaller'
  obtain ⟨caller, hcaller, rfl⟩ := Option.map_eq_some_iff.mp hcaller'
  exact ⟨caller, hcaller, hbecomes caller⟩

end CallersBecome

theorem callersBecome_change (s : Service) (other : CallId) {f : Caller → Caller}
    {told : List Notice} (hf : ∀ caller : Caller, caller.Becomes other told (f caller)) :
    s.CallersBecome told (s.change other f) := by
  intro call
  refine ⟨_, get?_change s other f call, fun caller => ?_⟩
  split
  · rename_i he
    exact he ▸ hf caller
  · exact .refl call told caller

/-- Whether two services differ in nothing but their callers. -/
structure SameButCallers (s s' : Service) : Prop where
  manager : s'.manager = s.manager := by rfl
  queue : s'.queue = s.queue := by rfl
  nextCall : s'.nextCall = s.nextCall := by rfl

theorem sameButCallers_change (s : Service) (call : CallId) (f : Caller → Caller) :
    s.SameButCallers (s.change call f) := by
  unfold change
  split <;> exact {}

theorem note_eq (s : Service) (notice : Notice) :
    s.note notice = s.change notice.call notice.change := by
  cases notice <;> rfl

theorem sameButCallers_notes (s : Service) (told : List Notice) :
    s.SameButCallers (told.foldl note s) := by
  induction told generalizing s with
  | nil => exact {}
  | cons notice rest ih =>
    have hfirst := s.sameButCallers_change notice.call notice.change
    rw [← note_eq] at hfirst
    have hrest := ih (s.note notice)
    exact ⟨hrest.manager.trans hfirst.manager, hrest.queue.trans hfirst.queue,
      hrest.nextCall.trans hfirst.nextCall⟩

theorem callersBecome_notes (s : Service) (told : List Notice) :
    s.CallersBecome told (told.foldl note s) := by
  induction told generalizing s with
  | nil => exact .of_same rfl []
  | cons notice rest ih =>
    have hfirst := s.callersBecome_change notice.call (Caller.becomes_change notice)
    rw [← note_eq] at hfirst
    exact hfirst.trans (ih (s.note notice))

/-- Each notice reaches its caller. -/
theorem isTold_notes (s : Service) {told : List Notice} {notice : Notice} (hmem : notice ∈ told)
    {caller : Caller} (hcaller : (told.foldl note s).callers.get? notice.call = some caller) :
    caller.isTold = true := by
  induction told generalizing s with
  | nil => exact absurd hmem List.not_mem_nil
  | cons first rest ih =>
    rw [List.foldl_cons] at hcaller
    rcases List.mem_cons.mp hmem with rfl | hmem
    · obtain ⟨other, hother, hbecomes⟩ := (callersBecome_notes _ rest).before hcaller
      rw [note_eq, get?_change, if_pos rfl] at hother
      obtain ⟨_, -, rfl⟩ := Option.map_eq_some_iff.mp hother
      exact hbecomes.isTold (Caller.isTold_change notice _)
    · exact ih _ hmem hcaller

end Service

/-- Whoever calls is told something when its turn comes. -/
theorem Manager.told_perform (m : Manager) (setup : Setup) (eid : UInt8)
    (request : OperationRequest) (call : CallId) :
    ∃ notice ∈ (m.step setup (.perform eid request call)).1, notice.call = call := by
  unfold step
  split
  · exact ⟨_, List.mem_singleton_self _, rfl⟩
  · dsimp only
    unfold perform
    split
    · exact ⟨_, List.mem_singleton_self _, rfl⟩
    · split
      · exact ⟨_, List.mem_cons_self, rfl⟩
      · exact ⟨_, List.mem_singleton_self _, rfl⟩

namespace Service

/-! ## Steps from outside -/

/-- Whether nothing has changed but that events without calls were put in the queue, and callers got
    results. -/
structure Quiet (s s' : Service) : Prop where
  manager : s'.manager = s.manager
  nextCall : s'.nextCall = s.nextCall
  queue : ∃ more, s'.queue = s.queue ++ more ∧ ∀ event ∈ more, event.call? = none
  callers : s.CallersBecome [] s'

theorem quiet_of_queue {s s' : Service} (hmanager : s'.manager = s.manager)
    (hnext : s'.nextCall = s.nextCall) (hcallers : s'.callers = s.callers)
    {more : List ManagerEvent} (hqueue : s'.queue = s.queue ++ more)
    (hcalls : ∀ event ∈ more, event.call? = none) : s.Quiet s' where
  manager := hmanager
  nextCall := hnext
  queue := ⟨more, hqueue, hcalls⟩
  callers := .of_same hcallers []

theorem quiet_of_same {s s' : Service} (hmanager : s'.manager = s.manager)
    (hnext : s'.nextCall = s.nextCall) (hcallers : s'.callers = s.callers)
    (hqueue : s'.queue = s.queue) : s.Quiet s' :=
  quiet_of_queue hmanager hnext hcallers (hqueue.trans (List.append_nil _).symm)
    fun _ hmem => absurd hmem List.not_mem_nil

theorem quiet_refl (s : Service) : s.Quiet s := quiet_of_same rfl rfl rfl rfl

theorem enqueue_cases (s : Service) (event : ManagerEvent) :
    s.enqueue event = (.error .shuttingDown, s) ∨
    s.enqueue event = (.ok (), { s with queue := s.queue ++ [event] }) := by
  unfold enqueue
  split
  · exact Or.inl rfl
  · exact Or.inr rfl

theorem callers_enqueue (s : Service) (event : ManagerEvent) :
    (s.enqueue event).2.callers = s.callers := by
  rcases s.enqueue_cases event with hcase | hcase <;> rw [hcase]

theorem submit_cases (s : Service) (event : ManagerEvent) :
    s.submit event = (.error .shuttingDown, s) ∨
    s.submit event = (.ok (), { s with queue := s.queue ++ [event] }) := by
  unfold submit
  split
  · exact Or.inl rfl
  · exact s.enqueue_cases event

/-- A call gets a new number, and is put in the queue, or refused. -/
theorem call_cases (s : Service) (setup : Setup) (eid : UInt8) (request : OperationRequest) :
    ∃ caller : Caller, caller.eid = eid ∧ caller.session = none ∧
      ∃ more, ((more = [] ∧ caller.isTold = true) ∨ more = [.perform eid request ⟨s.nextCall⟩]) ∧
        (s.call setup eid request).2 =
          { s with
            queue := s.queue ++ more
            nextCall := s.nextCall + 1
            callers := s.callers.insert ⟨s.nextCall⟩ caller } := by
  unfold call
  dsimp only
  rcases s.submit_cases (.perform eid request ⟨s.nextCall⟩) with hrefused | htaken
  · rw [hrefused]
    let caller : Caller := { eid, deadline := s.now + setup.config.operation.timeoutMs }
    refine ⟨caller.settleWith (.error .shuttingDown), rfl, rfl, [],
      Or.inl ⟨rfl, caller.isTold_settleWith _⟩, ?_⟩
    rw [List.append_nil]
  · rw [htaken]
    exact ⟨_, rfl, rfl, _, Or.inr rfl, rfl⟩

theorem quiet_enqueue (s : Service) {event : ManagerEvent} (hcall : event.call? = none) :
    s.Quiet (s.enqueue event).2 := by
  rcases s.enqueue_cases event with hrefused | htaken
  · rw [hrefused]
    exact s.quiet_refl
  · rw [htaken]
    exact quiet_of_queue rfl rfl rfl rfl (List.forall_mem_singleton.mpr hcall)

theorem quiet_submit (s : Service) {event : ManagerEvent} (houtside : event.isOutside = true) :
    s.Quiet (s.submit event).2 := by
  have hcall : event.call? = none := by
    cases event <;> first | rfl | cases houtside
  unfold submit
  split
  · exact s.quiet_refl
  · exact s.quiet_enqueue hcall

theorem Quiet.enqueue {s s' : Service} (h : s.Quiet s') (hqueue : s'.queue = s.queue)
    {event : ManagerEvent} (hcall : event.call? = none) : s.Quiet (s'.enqueue event).2 := by
  obtain ⟨hmanager, hnext, ⟨more, hmore, hcalls⟩, hcallers⟩ := s'.quiet_enqueue hcall
  exact ⟨hmanager.trans h.manager, hnext.trans h.nextCall, ⟨more, hqueue ▸ hmore, hcalls⟩,
    h.callers.trans hcallers⟩

theorem quiet_timeOut (s : Service) (call : CallId) : s.Quiet (s.timeOut call) := by
  unfold timeOut
  split
  · exact s.quiet_refl
  · rename_i caller _
    split
    · have hsame := s.sameButCallers_change call (·.settleWith (.error .timedOut))
      have hchanged : s.Quiet (s.change call (·.settleWith (.error .timedOut))) :=
        ⟨hsame.manager, hsame.nextCall,
          ⟨[], hsame.queue.trans (List.append_nil _).symm,
            fun _ hmem => absurd hmem List.not_mem_nil⟩,
          s.callersBecome_change call fun caller => caller.becomes_settleWith call [] _⟩
      dsimp only
      split
      · exact hchanged.enqueue hsame.queue rfl
      · exact hchanged
    · exact s.quiet_refl

end Service

/-! ## Histories -/

/-- The manager with its queue and its callers, and what its surroundings know. -/
structure ServiceHistory where
  service : Service
  chronicle : Chronicle := {}

namespace ServiceHistory

/-- The history of the manager itself. -/
def history (h : ServiceHistory) : ManagerHistory :=
  { manager := h.service.manager, chronicle := h.chronicle }

/-- The manager takes an event, and the callers are told. -/
def handle (h : ServiceHistory) (setup : Setup) (event : ManagerEvent) : ServiceHistory :=
  { service := h.service.handle setup event
    chronicle := (h.history.take setup event).chronicle }

/-- The service has changed, but not the manager. -/
def withService (h : ServiceHistory) (service : Service) : ServiceHistory := { h with service }

/-- The time of a caller is over. -/
def timeOut (h : ServiceHistory) (call : CallId) : ServiceHistory :=
  h.withService (h.service.timeOut call)

/-- The manager takes the oldest event of the queue. -/
def processNext (h : ServiceHistory) (setup : Setup) : ServiceHistory :=
  { service := h.service.processNext setup
    chronicle :=
      match h.service.queue with
      | [] => h.chronicle
      | event :: _ => (h.history.take setup event).chronicle }

/-- The manager stops if nobody is left who could want anything. -/
def closeUnused (h : ServiceHistory) (setup : Setup) : ServiceHistory :=
  { service := h.service.closeUnused setup
    chronicle :=
      if h.service.released && !h.service.hasWaiting then
        (h.history.take setup .shutdown).chronicle
      else h.chronicle }

/-- One step, in which the manager takes `n` events from the queue. -/
inductive Step (config : Config) : Nat → ServiceHistory → ServiceHistory → Prop
  | call (h : ServiceHistory) (codec : Codec) (eid : UInt8) (request : OperationRequest) :
      Step config 0 h (h.withService (h.service.call { config, codec } eid request).2)
  | submit (h : ServiceHistory) {event : ManagerEvent} (outside : event.isOutside = true) :
      Step config 0 h (h.withService (h.service.submit event).2)
  /-- The timer of a caller goes off, at any moment. -/
  | timeOut (h : ServiceHistory) (call : CallId) : Step config 0 h (h.timeOut call)
  | advance (h : ServiceHistory) (milliseconds : Nat) :
      Step config 0 h (h.withService (h.service.advance milliseconds))
  | release (h : ServiceHistory) : Step config 0 h (h.withService h.service.release)
  | processNext (h : ServiceHistory) (codec : Codec) (waiting : h.service.queue ≠ []) :
      Step config 1 h (h.processNext { config, codec })
  | closeUnused (h : ServiceHistory) (codec : Codec) (done : h.service.queue = []) :
      Step config 0 h (h.closeUnused { config, codec })

/-- Any number of steps, in which the manager takes `n` events from the queue. -/
inductive Steps (config : Config) : Nat → ServiceHistory → ServiceHistory → Prop
  | refl (h : ServiceHistory) : Steps config 0 h h
  | tail {n k : Nat} {h h' h'' : ServiceHistory} (steps : Steps config n h h')
      (step : Step config k h' h'') : Steps config (n + k) h h''

/-- Whether this is the history of a manager that began without devices and callers. -/
def Reachable (config : Config) (h : ServiceHistory) : Prop :=
  ∃ n disk transport files,
    Steps config n { service := { manager := .opened disk transport files } } h

variable {config : Config} {h h' h'' : ServiceHistory} {setup : Setup} {event : ManagerEvent}
  {call : CallId} {job : Job}

/-- As long as nobody but the callers notices, the history of the manager is what it was. -/
theorem history_of_quiet {s : Service} (hquiet : h.service.Quiet s) :
    (h.withService s).history = h.history := by
  unfold history
  rw [← hquiet.manager]
  rfl

/-- Whether the manager has taken an event, and the callers were told what it says. -/
structure Handled (h : ServiceHistory) (setup : Setup) (event : ManagerEvent)
    (h' : ServiceHistory) : Prop where
  history : h'.history = h.history.take setup event
  nextCall : h'.service.nextCall = h.service.nextCall
  callers : h.service.CallersBecome (h.service.manager.step setup event).1 h'.service
  heard : ∀ notice ∈ (h.service.manager.step setup event).1, ∀ caller,
    h'.service.callers.get? notice.call = some caller → caller.isTold = true

theorem queue_handle : (h.handle setup event).service.queue = h.service.queue :=
  (Service.sameButCallers_notes _ _).queue

theorem handled_handle (h : ServiceHistory) (setup : Setup) (event : ManagerEvent) :
    h.Handled setup event (h.handle setup event) where
  history := by
    have hmanager : (h.handle setup event).service.manager =
        (h.service.manager.step setup event).2 := (Service.sameButCallers_notes _ _).manager
    unfold history
    rw [hmanager]
    rfl
  nextCall := (Service.sameButCallers_notes _ _).nextCall
  callers := Service.callersBecome_notes { h.service with manager := _ } _
  heard _ hmem _ hcaller := Service.isTold_notes _ hmem hcaller

/-- What a step comes to. -/
inductive Turn (h : ServiceHistory) : Nat → ServiceHistory → Prop
  | quiet {s : Service} (unheard : h.service.Quiet s) : Turn h 0 (h.withService s)
  | called (setup : Setup) (eid : UInt8) (request : OperationRequest) :
      Turn h 0 (h.withService (h.service.call setup eid request).2)
  | taken {setup : Setup} {event : ManagerEvent} {h' : ServiceHistory}
      (queue : h.service.queue = event :: h'.service.queue) (handled : h.Handled setup event h') :
      Turn h 1 h'
  | closed {setup : Setup} {h' : ServiceHistory} (before : h.service.queue = [])
      (after : h'.service.queue = []) (handled : h.Handled setup .shutdown h') : Turn h 0 h'

theorem turn_refl (h : ServiceHistory) : h.Turn 0 h := .quiet h.service.quiet_refl

theorem turn_processNext (setup : Setup) (hwaiting : h.service.queue ≠ []) :
    h.Turn 1 (h.processNext setup) := by
  obtain ⟨event, rest, hqueue⟩ := List.exists_cons_of_ne_nil hwaiting
  have hnext : h.processNext setup =
      (h.withService { h.service with queue := rest }).handle setup event := by
    unfold processNext Service.processNext
    rw [hqueue]
    rfl
  have hhandled := (h.withService { h.service with queue := rest }).handled_handle setup event
  have hrest : (h.processNext setup).service.queue = rest := by
    rw [hnext]
    exact queue_handle
  have htaken : h.Handled setup event (h.processNext setup) := by
    rw [hnext]
    exact ⟨hhandled.history, hhandled.nextCall, hhandled.callers, hhandled.heard⟩
  exact .taken (hrest.symm ▸ hqueue) htaken

theorem turn_closeUnused (setup : Setup) (hdone : h.service.queue = []) :
    h.Turn 0 (h.closeUnused setup) := by
  unfold closeUnused Service.closeUnused
  split
  · exact .closed hdone (queue_handle.trans hdone) (h.handled_handle setup .shutdown)
  · exact turn_refl h

theorem Step.turn {k : Nat} (hstep : Step config k h h') : h.Turn k h' := by
  cases hstep with
  | call _ codec eid request => exact .called _ eid request
  | submit _ outside => exact .quiet (h.service.quiet_submit outside)
  | timeOut _ call => exact .quiet (h.service.quiet_timeOut call)
  | advance _ milliseconds => exact .quiet (Service.quiet_of_same rfl rfl rfl rfl)
  | release => exact .quiet (Service.quiet_of_same rfl rfl rfl rfl)
  | processNext _ codec waiting => exact turn_processNext _ waiting
  | closeUnused _ codec done => exact turn_closeUnused _ done

/-! ## Calls and their jobs -/

/-- The calls in a queue. -/
def callsIn (queue : List ManagerEvent) : List CallId := queue.filterMap (·.call?)

/-- Whether each call is in the queue or has got a job, and only one of these, and only once, and
    callers know the sessions of their jobs. -/
structure Enrolled (h : ServiceHistory) : Prop where
  seated : h.history.manager.Seated
  booked : h.history.manager.Booked h.history.chronicle.stranded
  numbered : h.history.Numbered
  distinct : (callsIn h.service.queue ++ h.chronicle.jobs.map (·.call)).Nodup
  given : ∀ call ∈ callsIn h.service.queue ++ h.chronicle.jobs.map (·.call),
    call.value < h.service.nextCall
  callers : ∀ call caller, h.service.callers.get? call = some caller →
    call.value < h.service.nextCall
  queued : ∀ eid request call, .perform eid request call ∈ h.service.queue →
    ∀ caller, h.service.callers.get? call = some caller → caller.eid = eid
  known : ∀ call caller id, h.service.callers.get? call = some caller → caller.session = some id →
    ∃ job ∈ h.chronicle.jobs, job.call = call ∧ job.eid = caller.eid ∧ job.session = id
  untold : ∀ call caller, h.service.callers.get? call = some caller → caller.isTold = false →
    call ∈ callsIn h.service.queue

theorem callsIn_append (queue queue' : List ManagerEvent) :
    callsIn (queue ++ queue') = callsIn queue ++ callsIn queue' := List.filterMap_append

theorem callsIn_cons (event : ManagerEvent) (rest : List ManagerEvent) :
    callsIn (event :: rest) = event.call?.toList ++ callsIn rest := by
  unfold callsIn
  rw [List.filterMap_cons]
  cases event.call? <;> rfl

theorem mem_callsIn {queue : List ManagerEvent} {eid : UInt8} {request : OperationRequest}
    (hmem : .perform eid request call ∈ queue) : call ∈ callsIn queue :=
  List.mem_filterMap.mpr ⟨_, hmem, rfl⟩

theorem enrolled_opened (disk : Table Uuid Folder) (transport : Transport) (files : LocalFiles) :
    Enrolled { service := { manager := .opened disk transport files } } where
  seated := ManagerHistory.seated_opened disk transport files
  booked := ManagerHistory.booked_opened disk transport files
  numbered := ManagerHistory.numbered_opened disk transport files
  distinct := List.nodup_nil
  given _ hmem := absurd hmem List.not_mem_nil
  callers _ _ hcaller := nomatch hcaller
  queued _ _ _ hmem := absurd hmem List.not_mem_nil
  known _ _ _ hcaller := nomatch hcaller
  untold _ _ hcaller := nomatch hcaller

namespace Enrolled

variable (he : h.Enrolled)
include he

/-- What is put in the queue without a call, or told to a caller without a session. -/
theorem quiet {s : Service} (hquiet : h.service.Quiet s) : (h.withService s).Enrolled := by
  have hhistory := history_of_quiet hquiet
  obtain ⟨more, hqueue, hnone⟩ := hquiet.queue
  have hcalls : callsIn s.queue = callsIn h.service.queue := by
    rw [hqueue, callsIn_append, show callsIn more = [] from List.filterMap_eq_nil_iff.mpr hnone,
      List.append_nil]
  exact {
    seated := hhistory ▸ he.seated
    booked := hhistory ▸ he.booked
    numbered := hhistory ▸ he.numbered
    distinct := by
      show (callsIn s.queue ++ _).Nodup
      rw [hcalls]
      exact he.distinct
    given := by
      show ∀ call ∈ callsIn s.queue ++ _, call.value < s.nextCall
      rw [hcalls, hquiet.nextCall]
      exact he.given
    callers := by
      intro call caller' hcaller'
      obtain ⟨caller, hcaller, -⟩ := hquiet.callers.before hcaller'
      show call.value < s.nextCall
      rw [hquiet.nextCall]
      exact he.callers call caller hcaller
    queued := by
      intro eid request call hmem caller' hcaller'
      obtain ⟨caller, hcaller, hbecomes⟩ := hquiet.callers.before hcaller'
      change .perform eid request call ∈ s.queue at hmem
      rw [hqueue, List.mem_append] at hmem
      rcases hmem with hold | hnew
      · exact hbecomes.eid.trans (he.queued eid request call hold caller hcaller)
      · cases hnone _ hnew
    known := by
      intro call caller' id hcaller' hid
      obtain ⟨caller, hcaller, hbecomes⟩ := hquiet.callers.before hcaller'
      rcases hbecomes.session with hsame | ⟨_, hstarted, _⟩
      · obtain ⟨job, hjob, hcall, heid, hsession⟩ :=
          he.known call caller id hcaller (hsame.symm.trans hid)
        exact ⟨job, hjob, hcall, heid.trans hbecomes.eid.symm, hsession⟩
      · exact absurd hstarted List.not_mem_nil
    untold := by
      intro call caller' hcaller' huntold
      obtain ⟨caller, hcaller, hbecomes⟩ := hquiet.callers.before hcaller'
      show call ∈ callsIn s.queue
      rw [hcalls]
      refine he.untold call caller hcaller (eq_false_of_ne_true fun htold => ?_)
      cases (hbecomes.isTold htold).symm.trans huntold }

/-- A new call gets a number that no other has. -/
theorem called (setup : Setup) (eid : UInt8) (request : OperationRequest) :
    (h.withService (h.service.call setup eid request).2).Enrolled := by
  obtain ⟨caller, heid, hsession, more, hmore, hafter⟩ := h.service.call_cases setup eid request
  rw [hafter]
  have hnew : (callsIn more).Nodup ∧ ∀ call ∈ callsIn more, call.value = h.service.nextCall := by
    rcases hmore with ⟨rfl, -⟩ | rfl
    · exact ⟨List.nodup_nil, fun _ hmem => absurd hmem List.not_mem_nil⟩
    · exact ⟨List.nodup_singleton _, fun _ hmem => List.mem_singleton.mp hmem ▸ rfl⟩
  have hcallers : ∀ call caller',
      (h.service.callers.insert ⟨h.service.nextCall⟩ caller).get? call = some caller' →
      (call = ⟨h.service.nextCall⟩ ∧ caller' = caller) ∨
        h.service.callers.get? call = some caller' := by
    intro call caller' hcaller'
    rw [Table.get?_insert] at hcaller'
    split at hcaller'
    · exact Or.inl ⟨‹_›, (Option.some.inj hcaller').symm⟩
    · exact Or.inr hcaller'
  -- For the numbers it does not matter where in the queue the call is.
  have hperm : (callsIn (h.service.queue ++ more) ++ h.chronicle.jobs.map (·.call)).Perm
      (callsIn more ++ (callsIn h.service.queue ++ h.chronicle.jobs.map (·.call))) := by
    rw [callsIn_append, List.append_assoc]
    exact List.perm_append_comm_assoc _ _ _
  exact {
    seated := he.seated
    booked := he.booked
    numbered := he.numbered
    distinct := by
      refine hperm.nodup_iff.mpr (List.nodup_append.mpr ⟨hnew.1, he.distinct, ?_⟩)
      rintro call hmem _ hold rfl
      exact Nat.ne_of_lt (he.given call hold) (hnew.2 call hmem)
    given := by
      intro call hmem
      rcases List.mem_append.mp (hperm.subset hmem) with hlast | hold
      · exact hnew.2 call hlast ▸ Nat.lt_succ_self _
      · exact Nat.lt_succ_of_lt (he.given call hold)
    callers := by
      intro call caller' hcaller'
      rcases hcallers call caller' hcaller' with ⟨rfl, -⟩ | hold
      · exact Nat.lt_succ_self _
      · exact Nat.lt_succ_of_lt (he.callers call caller' hold)
    queued := by
      intro eid' request' call hmem caller' hcaller'
      rcases List.mem_append.mp hmem with hfirst | hlast
      · rcases hcallers call caller' hcaller' with ⟨rfl, -⟩ | hold
        · exact absurd (he.given _ (List.mem_append_left _ (mem_callsIn hfirst))) (Nat.lt_irrefl _)
        · exact he.queued eid' request' call hfirst caller' hold
      · rcases hmore with ⟨rfl, -⟩ | rfl
        · exact absurd hlast List.not_mem_nil
        · cases List.mem_singleton.mp hlast
          rcases hcallers _ caller' hcaller' with ⟨-, rfl⟩ | hold
          · exact heid
          · exact absurd (he.callers _ caller' hold) (Nat.lt_irrefl _)
    known := by
      intro call caller' id hcaller' hid
      rcases hcallers call caller' hcaller' with ⟨-, rfl⟩ | hold
      · cases hsession.symm.trans hid
      · exact he.known call caller' id hold hid
    untold := by
      intro call caller' hcaller' huntold
      show call ∈ callsIn (h.service.queue ++ more)
      rw [callsIn_append]
      rcases hcallers call caller' hcaller' with ⟨rfl, rfl⟩ | hold
      · rcases hmore with ⟨-, htold⟩ | rfl
        · cases htold.symm.trans huntold
        · exact List.mem_append_right _ (List.mem_singleton_self _)
      · exact List.mem_append_left _ (he.untold call caller' hold huntold) }

/-- A call that is taken out of the queue gets a job or none. -/
theorem calls_handle {rest : List ManagerEvent} (hqueue : h.service.queue = event :: rest)
    (setup : Setup) :
    (callsIn rest ++ (h.history.take setup event).chronicle.jobs.map (·.call)).Nodup ∧
    callsIn rest ++ (h.history.take setup event).chronicle.jobs.map (·.call) ⊆
      callsIn h.service.queue ++ h.chronicle.jobs.map (·.call) := by
  have hdistinct := he.distinct
  rw [hqueue, callsIn_cons, List.append_assoc] at hdistinct ⊢
  rw [ManagerHistory.jobs_take]
  rcases ManagerHistory.begunBy_step he.seated setup event with
    ⟨-, hnone⟩ | ⟨job, request, hevent, -, -, hone, -⟩
  · rw [hnone]
    exact ⟨(List.nodup_append.mp hdistinct).2.1, List.subset_append_right _ _⟩
  · have hcall : event.call?.toList = [job.call] := by
      rw [hevent]
      rfl
    have hperm : (callsIn rest ++ job.call :: h.chronicle.jobs.map (·.call)).Perm
        (job.call :: (callsIn rest ++ h.chronicle.jobs.map (·.call))) := List.perm_middle
    rw [hcall] at hdistinct ⊢
    rw [hone]
    exact ⟨hperm.nodup_iff.mpr hdistinct, hperm.subset⟩

/-- A caller that learns its session learns that of its job. -/
theorem known_handle {rest : List ManagerEvent} (hqueue : h.service.queue = event :: rest)
    (setup : Setup) {caller : Caller} {id : SessionId}
    (hcaller : h.service.callers.get? call = some caller)
    (hid : caller.session = some id ∨
      (call, id) ∈ startedIn (h.service.manager.step setup event).1) :
    ∃ job ∈ (h.history.take setup event).chronicle.jobs,
      job.call = call ∧ job.eid = caller.eid ∧ job.session = id := by
  rw [ManagerHistory.jobs_take]
  rcases hid with hold | hnew
  · obtain ⟨job, hjob, hspec⟩ := he.known call caller id hcaller hold
    exact ⟨job, List.mem_append_right _ hjob, hspec⟩
  · rcases ManagerHistory.begunBy_step he.seated setup event with
      ⟨hnone, -⟩ | ⟨job, request, hevent, -, hstarted, hone, -⟩
    · change startedIn (h.service.manager.step setup event).1 = [] at hnone
      rw [hnone] at hnew
      exact absurd hnew List.not_mem_nil
    · change startedIn (h.service.manager.step setup event).1 = _ at hstarted
      rw [hstarted] at hnew
      -- It is the caller whose call was taken, and no other.
      obtain ⟨rfl, rfl⟩ := Prod.mk.inj (List.mem_singleton.mp hnew)
      have hfront : .perform job.eid request job.call ∈ h.service.queue := by
        rw [hqueue, ← hevent]
        exact List.mem_cons_self
      rw [hone]
      exact ⟨job, List.mem_append_left _ (List.mem_singleton_self job), rfl,
        (he.queued _ request _ hfront caller hcaller).symm, rfl⟩

/-- The manager takes the oldest event. -/
theorem handled (hhandled : h.Handled setup event h')
    (hqueue : h.service.queue = event :: h'.service.queue) : h'.Enrolled := by
  have hchronicle : h'.chronicle = (h.history.take setup event).chronicle :=
    congrArg (·.chronicle) hhandled.history
  obtain ⟨hnodup, hsubset⟩ := he.calls_handle hqueue setup
  exact {
    seated := by
      rw [hhandled.history]
      exact ManagerHistory.seated_take he.seated setup event
    booked := by
      rw [hhandled.history]
      exact ManagerHistory.booked_take he.seated he.booked setup event
    numbered := by
      rw [hhandled.history]
      exact ManagerHistory.numbered_take he.seated he.booked he.numbered setup event
    distinct := by
      rw [hchronicle]
      exact hnodup
    given := by
      rw [hchronicle, hhandled.nextCall]
      exact fun call hmem => he.given call (hsubset hmem)
    callers := by
      intro call caller' hcaller'
      obtain ⟨caller, hcaller, -⟩ := hhandled.callers.before hcaller'
      rw [hhandled.nextCall]
      exact he.callers call caller hcaller
    queued := by
      intro eid request call hmem caller' hcaller'
      obtain ⟨caller, hcaller, hbecomes⟩ := hhandled.callers.before hcaller'
      have hold : .perform eid request call ∈ h.service.queue := by
        rw [hqueue]
        exact List.mem_cons_of_mem _ hmem
      exact hbecomes.eid.trans (he.queued eid request call hold caller hcaller)
    known := by
      intro call caller' id hcaller' hid
      obtain ⟨caller, hcaller, hbecomes⟩ := hhandled.callers.before hcaller'
      have hlearned : caller.session = some id ∨
          (call, id) ∈ startedIn (h.service.manager.step setup event).1 := by
        rcases hbecomes.session with hsame | ⟨id', hstarted, hsession⟩
        · exact Or.inl (hsame.symm.trans hid)
        · cases hsession.symm.trans hid
          exact Or.inr hstarted
      obtain ⟨job, hjob, hcall, heid, hsession⟩ := he.known_handle hqueue setup hcaller hlearned
      rw [hchronicle]
      exact ⟨job, hjob, hcall, heid.trans hbecomes.eid.symm, hsession⟩
    untold := by
      intro call caller' hcaller' huntold
      obtain ⟨caller, hcaller, hbecomes⟩ := hhandled.callers.before hcaller'
      have hbefore : caller.isTold = false :=
        eq_false_of_ne_true fun htold => by cases (hbecomes.isTold htold).symm.trans huntold
      have hmem := he.untold call caller hcaller hbefore
      rw [hqueue, callsIn_cons] at hmem
      -- If its call has just been taken, it was told something.
      rcases List.mem_append.mp hmem with hfirst | hrest
      · cases event with
        | perform eid request other =>
          cases List.mem_singleton.mp hfirst
          obtain ⟨notice, hnotice, rfl⟩ :=
            h.service.manager.told_perform setup eid request call
          cases (hhandled.heard notice hnotice caller' hcaller').symm.trans huntold
        | _ => exact absurd hfirst List.not_mem_nil
      · exact hrest }

theorem turn {k : Nat} (hturn : h.Turn k h') : h'.Enrolled := by
  cases hturn with
  | quiet unheard => exact he.quiet unheard
  | called setup eid request => exact he.called setup eid request
  | taken queue handled => exact he.handled handled queue
  | closed before after handled =>
    -- As if the shutdown had been in the queue.
    have hqueue : [.shutdown] = h.service.queue ++ [.shutdown] := by rw [before, List.nil_append]
    have hasked : (h.withService { h.service with queue := [.shutdown] }).Enrolled :=
      he.quiet (Service.quiet_of_queue rfl rfl rfl hqueue (List.forall_mem_singleton.mpr rfl))
    exact hasked.handled ⟨handled.history, handled.nextCall, handled.callers, handled.heard⟩
      (after ▸ rfl)

end Enrolled

theorem Steps.enrolled {n : Nat} (hsteps : Steps config n h h') (he : h.Enrolled) :
    h'.Enrolled := by
  induction hsteps with
  | refl => exact he
  | tail _ hstep ih => exact (ih he).turn hstep.turn

theorem Reachable.enrolled (hreachable : Reachable config h) : h.Enrolled := by
  obtain ⟨n, disk, transport, files, hsteps⟩ := hreachable
  exact hsteps.enrolled (enrolled_opened disk transport files)

end ServiceHistory

end DeviceEnablement
