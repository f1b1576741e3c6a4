/-
  The downloads that a device tries.

  A device fetches dictionaries one after the other: when a download ends, or cannot begin, it tries
  the next one.  It does so in the middle of whatever has ended the download, a response or a request
  that cannot be sent.

  1. `DeviceRun.attempts`: the downloads that are tried when keys are fetched, in order.
  2. `DeviceRun.due`: the run in which a stride comes to the next dictionary, if it does, with one
     function for each function on the way there.  `DeviceRun.attempted`: the downloads that are tried
     in a stride.
  3. `tried_startSession`: what trying a download comes to.
  4. `Proceeds`: how a device goes on with a session that waits.  Where the next dictionary is due, the
     rest is `nextDictionary`; where it is not, what is queued waits for the end of another session.
  5. `Advances`: how a device goes on with a stride, as long as nothing hinders it (`advances_stride`).
-/
import DeviceEnablement.Proofs.Device.Retention

namespace DeviceEnablement

namespace DeviceRun

/-! ## What is tried -/

/-- The keys whose downloads are tried when `keys` are fetched, in order.  A dictionary that is complete
    is passed over; the first download that begins is the last one to be tried. -/
def attempts (r : DeviceRun) (setup : Setup) : List DictionaryKey → List DictionaryKey
  | [] => []
  | key :: rest =>
    let r := { r with device.dictionaryQueue := rest }
    if r.device.memory.store.containsComplete key then r.attempts setup rest
    else
      match r.startSession setup (.download key) with
      | (.ok _, _) => [key]
      | (.error _, r) => key :: r.attempts setup rest

/-- The downloads that are tried when the next dictionary is due. -/
def nextAttempts (r : DeviceRun) (setup : Setup) : List DictionaryKey :=
  match r.device.state with
  | .ready | .busy => r.attempts setup r.device.dictionaryQueue
  | _ => []

theorem nextAttempts_eq {r : DeviceRun} (setup : Setup)
    (hstate : r.device.state = .ready ∨ r.device.state = .busy) :
    r.nextAttempts setup = r.attempts setup r.device.dictionaryQueue := by
  unfold nextAttempts
  rcases hstate with hready | hbusy
  · rw [hready]
  · rw [hbusy]

/-! ## Where the next dictionary is due -/

/-- The run in which the first dictionary is due once a negotiation has ended well. -/
def equipped (r : DeviceRun) (setup : Setup) : DeviceRun :=
  if setup.config.negotiation.fetchDictionaries then r.served.queueDictionaries else r.served

theorem finishNegotiation_eq (r : DeviceRun) (setup : Setup) :
    r.finishNegotiation setup = (r.equipped setup).nextDictionary setup := rfl

def failDue (r : DeviceRun) : SessionTask → Option DeviceRun
  | .download _ => some r
  | _ => none

def finishDue (r : DeviceRun) (setup : Setup) : SessionOutput → Option DeviceRun
  | .negotiated => some (r.equipped setup)
  | .dictionary _ => some r
  | .operation _ => none

def advanceDue (r : DeviceRun) (setup : Setup) (id : SessionId) (session : Session) :
    Except Failure Step → Option DeviceRun
  | .ok (.send out) =>
    match (r.keepSession id session).dispatch id out with
    | (.ok (), _) => none
    | (.error _, r) => (r.dropSession id).failDue session.task
  | .ok (.done output) => (r.dropSession id).finishDue setup output
  | .ok .discarded => none
  | .error _ => (r.dropSession id).failDue session.task

def deliverDue (r : DeviceRun) (setup : Setup) (id : SessionId) (session : Session) :
    Except Failure Bytes → Option DeviceRun
  | .error e => r.advanceDue setup id session (.error e)
  | .ok body =>
    match session.onResponse (r.device.scope setup) r.device.memory body with
    | (result, session, memory) =>
      { r with device.memory := memory : DeviceRun }.advanceDue setup id session result

def settleDue (r : DeviceRun) (setup : Setup) (instanceId : UInt8) (request : PendingRequest)
    (message : Option Bytes) : Option DeviceRun :=
  if request.generation ≠ r.device.generation then none
  else
    match r.device.sessions.get? request.session with
    | none => none
    | some session =>
      if session.state.isAbandoned then none
      else
        r.deliverDue setup request.session session
          (bodyOf r.device.eid instanceId request.command message)

def sendWaitingDue (r : DeviceRun) (id : SessionId) (out : Outgoing) : Option DeviceRun :=
  match r.device.sessions.get? id with
  | none => none
  | some session =>
    if session.state.isTerminal then none
    else
      match r.sendNow id out with
      | (.ok (), _) => none
      | (.error _, r) => (r.dropSession id).failDue session.task

def roundDue (r : DeviceRun) : Option DeviceRun :=
  match r.device.waiting with
  | [] => none
  | (id, out) :: rest =>
    if r.device.hasCapacity then
      ({ r with device.waiting := rest } : DeviceRun).sendWaitingDue id out
    else none

/-- The run in which a stride comes to the next dictionary, if it does. -/
def due (r : DeviceRun) (setup : Setup) : Stride → Option DeviceRun
  | .ask (.handleResponse instanceId message) =>
    (r.device.pending.get? instanceId).bind fun request =>
      (r.freed instanceId).settleDue setup instanceId request message
  | .ask _ => none
  | .round => r.roundDue

/-- The downloads that are tried from there on. -/
def attemptsFrom (setup : Setup) : Option DeviceRun → List DictionaryKey
  | some r => r.nextAttempts setup
  | none => []

/-- The downloads that a device tries in a stride, in order. -/
def attempted (r : DeviceRun) (setup : Setup) (stride : Stride) : List DictionaryKey :=
  attemptsFrom setup (r.due setup stride)

end DeviceRun

/-! ## Trying a download -/

namespace DeviceRun

variable {r r' r₁ : DeviceRun} {setup : Setup} {id : SessionId} {s : Session} {key : DictionaryKey}

/-- Whether a device has tried, from `r` to `r'`, to download a dictionary: the attempt has taken the
    number of a session, and made no difference to the other dictionaries. -/
structure Tried (r : DeviceRun) (key : DictionaryKey) (r' : DeviceRun) : Prop where
  queue : r'.device.dictionaryQueue = r.device.dictionaryQueue
  next : r'.device.nextSession = r.device.nextSession + 1
  others : ∀ other, other ≠ key →
    r'.device.memory.store.get? other = r.device.memory.store.get? other

theorem Placed.tried {out : Outgoing} (h : Placed r₁ id out r') (htried : Tried r key r₁) :
    Tried r key r' := by
  cases h with
  | sent _ hsent =>
    cases hsent
    exact ⟨htried.queue, htried.next, htried.others⟩
  | queued => exact ⟨htried.queue, htried.next, htried.others⟩

/-- A download is tried whether or not it begins; when it begins, its session waits for a response. -/
theorem tried_startSession (setup : Setup)
    (hlacks : r.device.memory.store.containsComplete key = false) :
    Tried r key (r.startSession setup (.download key)).2 ∧
    ∀ id, (r.startSession setup (.download key)).1 = .ok id →
      (r.startSession setup (.download key)).2.device.sessions.get? id =
        some { state := .waiting, task := .download { key } } := by
  obtain ⟨store, hsame, -, hstart | ⟨e, hstart⟩⟩ :=
    Session.start_download hlacks (r.device.scope setup)
  · have hbegun : Tried r key (r.begun { r.device.memory with store }) := ⟨rfl, rfl, hsame.others⟩
    rw [startSession_eq, hstart]
    dsimp only
    rcases launch_cases (r.begun { r.device.memory with store }) r.newId
      { state := .waiting, task := .download { key } } (Download.request { key }) with
      ⟨r', heq, hplaced⟩ | ⟨e, host, heq, -⟩
    · rw [heq]
      refine ⟨hplaced.tried ⟨hbegun.queue, hbegun.next, hbegun.others⟩, fun id hid => ?_⟩
      cases hid
      rw [hplaced.sameCourse.sessions]
      exact (Table.get?_insert ..).trans (if_pos rfl)
    · rw [heq]
      exact ⟨⟨hbegun.queue, hbegun.next, hbegun.others⟩, fun id hid => by cases hid⟩
  · rw [startSession_eq, hstart]
    exact ⟨⟨rfl, rfl, hsame.others⟩, fun id hid => by cases hid⟩

end DeviceRun

/-! ## Going on -/

/-- Whether a task fetches the dictionary with this key. -/
def SessionTask.Fetches (task : SessionTask) (key : DictionaryKey) : Prop :=
  ∃ download, task = .download download ∧ download.key = key

namespace DeviceRun

variable {r r' r₁ : DeviceRun} {setup : Setup} {id : SessionId} {s : Session} {key : DictionaryKey}

/-- Whether a device has the same to fetch in `r'` as in `r`, and the same dictionaries, up to what the
    task fetches. -/
structure SameNeeds (task : SessionTask) (r r' : DeviceRun) : Prop where
  state : r'.device.state = r.device.state
  registry : r'.device.registry = r.device.registry
  queue : r'.device.dictionaryQueue = r.device.dictionaryQueue
  next : r'.device.nextSession = r.device.nextSession
  others : ∀ key, ¬ task.Fetches key →
    r'.device.memory.store.get? key = r.device.memory.store.get? key

theorem SameNeeds.trans {task : SessionTask} (h : SameNeeds task r r₁) (h' : SameNeeds task r₁ r') :
    SameNeeds task r r' where
  state := h'.state.trans h.state
  registry := h'.registry.trans h.registry
  queue := h'.queue.trans h.queue
  next := h'.next.trans h.next
  others := fun key hother => (h'.others key hother).trans (h.others key hother)

/-- How a device proceeds from `r` with a session of this task: the session goes on or ends, and when it
    was a download or a negotiation that has ended well, the next dictionary is due. -/
inductive Proceeds (setup : Setup) (r : DeviceRun) (id : SessionId) (task : SessionTask) :
    Option DeviceRun → DeviceRun → Prop
  | onward {r' : DeviceRun} {s' : Session} (same : SameNeeds task r r')
      (found : r'.device.sessions.get? id = some s') (waits : s'.state = .waiting)
      (fetches : ∀ key, task.Fetches key → s'.task.Fetches key) : Proceeds setup r id task none r'
  | rejected {r₁ : DeviceRun} {state : DeviceState} (stage : task.stage = .discovering)
      (same : SameNeeds task r r₁) (gone : state = .notReady ∨ state = .unreachable) :
      Proceeds setup r id task none { r₁ with device.state := state }
  | reported {r' : DeviceRun} (stage : task.stage = .ready) (same : SameNeeds task r r') :
      Proceeds setup r id task none r'
  | negotiated {r₁ : DeviceRun} (stage : task.stage = .discovering) (same : SameNeeds task r r₁) :
      Proceeds setup r id task (some (r₁.equipped setup)) ((r₁.equipped setup).nextDictionary setup)
  | ended {r₁ : DeviceRun} (stage : task.stage = .busy) (same : SameNeeds task r r₁) :
      Proceeds setup r id task (some r₁) (r₁.nextDictionary setup)

variable {task task' : SessionTask}

theorem Placed.sameNeeds {out : Outgoing} (h : Placed r₁ id out r') (hsame : SameNeeds task r r₁) :
    SameNeeds task r r' := by
  cases h with
  | sent _ hsent =>
    cases hsent
    exact ⟨hsame.state, hsame.registry, hsame.queue, hsame.next, hsame.others⟩
  | queued => exact ⟨hsame.state, hsame.registry, hsame.queue, hsame.next, hsame.others⟩

theorem Proceeds.of_same {o : Option DeviceRun} (h : Proceeds setup r₁ id task o r')
    (hsame : SameNeeds task r r₁) : Proceeds setup r id task o r' := by
  cases h with
  | onward same found waits fetches => exact .onward (hsame.trans same) found waits fetches
  | rejected stage same gone => exact .rejected stage (hsame.trans same) gone
  | reported stage same => exact .reported stage (hsame.trans same)
  | negotiated stage same => exact .negotiated stage (hsame.trans same)
  | ended stage same => exact .ended stage (hsame.trans same)

theorem proceeds_fail (hsame : SameNeeds task r r₁) (hstage : task'.stage = task.stage)
    (e : Failure) : Proceeds setup r id task (r₁.failDue task') (r₁.fail setup id task' e) := by
  cases task' with
  | negotiation phase => exact .rejected hstage.symm hsame (stateAfterNegotiation_cases e)
  | download d => exact .ended hstage.symm hsame
  | operation o =>
    exact .reported hstage.symm ⟨hsame.state, hsame.registry, hsame.queue, hsame.next, hsame.others⟩

theorem proceeds_finish (hsame : SameNeeds task r r₁) {output : SessionOutput}
    (hstage : output.stage = task.stage) :
    Proceeds setup r id task (r₁.finishDue setup output) (r₁.finish setup id output) := by
  cases output with
  | negotiated =>
    show Proceeds setup r id task (some (r₁.equipped setup)) (r₁.finishNegotiation setup)
    rw [finishNegotiation_eq]
    exact .negotiated hstage.symm hsame
  | dictionary key => exact .ended hstage.symm hsame
  | operation result =>
    exact .reported hstage.symm ⟨hsame.state, hsame.registry, hsame.queue, hsame.next, hsame.others⟩

/-- A session that has taken a step goes on if its next request is placed, and else it is over. -/
theorem proceeds_advance (hsame : SameNeeds task r r₁) {s' : Session} {result : Except Failure Step}
    (hstage : s'.task.stage = task.stage)
    (hfits : ∀ step, result = .ok step → step.Fits task.stage)
    (hsends : ∀ out, result = .ok (.send out) → s'.state = .waiting ∧
      ∀ key, task.Fetches key → s'.task.Fetches key) :
    Proceeds setup r id task (r₁.advanceDue setup id s' result) (r₁.advance setup id s' result) := by
  have hdropped : ∀ host, SameNeeds task r (({ r₁ with host } : DeviceRun).dropSession id) :=
    fun _ => ⟨hsame.state, hsame.registry, hsame.queue, hsame.next, hsame.others⟩
  cases result with
  | error e => exact proceeds_fail (hdropped r₁.host) hstage e
  | ok step =>
    cases step with
    | done output => exact proceeds_finish (hdropped r₁.host) (hfits _ rfl)
    | discarded => exact (hfits _ rfl).elim
    | send out =>
      obtain ⟨hwaits, hfetches⟩ := hsends out rfl
      unfold advance advanceDue
      dsimp only
      rcases (r₁.keepSession id s').dispatch_cases id out with
        ⟨r', heq, hplaced⟩ | ⟨e, host, heq, -⟩
      · have hkept : SameNeeds task r (r₁.keepSession id s') :=
          ⟨hsame.state, hsame.registry, hsame.queue, hsame.next, hsame.others⟩
        rw [heq]
        refine .onward (hplaced.sameNeeds hkept) ?_ hwaits hfetches
        rw [hplaced.sameCourse.sessions]
        exact (Table.get?_insert ..).trans (if_pos rfl)
      · rw [heq]
        dsimp only
        rw [dropSession_keepSession]
        exact proceeds_fail (hdropped host) hstage e

/-- What a session makes of the store when it takes a response: a download writes what it is about, and
    no other session writes anything. -/
theorem sameNeeds_onResponse (hf : r.device.Fetching) (hs : r.device.sessions.get? id = some s)
    (hwaits : s.state = .waiting) {bytes : Bytes} {result : Except Failure Step} {s' : Session}
    {memory : DeviceMemory}
    (hstep : s.onResponse (r.device.scope setup) r.device.memory bytes = (result, s', memory)) :
    SameNeeds s.task r { r with device.memory := memory } := by
  refine ⟨rfl, rfl, rfl, rfl, fun key hother => ?_⟩
  by_cases hdownload : s.task.isDownload = true
  · obtain ⟨download, htask⟩ : ∃ download, s.task = .download download := by
      cases htask : s.task with
      | download d => exact ⟨d, rfl⟩
      | negotiation | operation =>
        rw [htask] at hdownload
        cases hdownload
    obtain ⟨-, data, hgathers⟩ := hf.downloads id s hs download htask
    obtain ⟨download', hstep', -⟩ := Session.onResponse_download hwaits htask hstep
    refine (Download.sameBut_onResponse hgathers hstep').others key fun hkey => hother ?_
    exact ⟨download, htask, hkey.symm⟩
  · have hstore := Session.store_onResponse_of_other (Bool.eq_false_iff.mpr hdownload)
      (r.device.scope setup) r.device.memory bytes
    rw [hstep] at hstore
    show memory.store.get? key = _
    rw [hstore]

/-- A download that goes on is about the same dictionary. -/
theorem fetches_onResponse (hf : r.device.Fetching) (hs : r.device.sessions.get? id = some s)
    (hwaits : s.state = .waiting) {bytes : Bytes} {out : Outgoing} {s' : Session}
    {memory : DeviceMemory}
    (hstep : s.onResponse (r.device.scope setup) r.device.memory bytes =
      (.ok (.send out), s', memory)) (hfetches : s.task.Fetches key) : s'.task.Fetches key := by
  obtain ⟨download, htask, rfl⟩ := hfetches
  obtain ⟨-, data, hgathers⟩ := hf.downloads id s hs download htask
  obtain ⟨download', hstep', rfl⟩ := Session.onResponse_download hwaits htask hstep
  cases Download.heard_onResponse hgathers hstep' with
  | next hkey => exact ⟨download', rfl, hkey⟩

theorem proceeds_deliver (hf : r.device.Fetching) (hs : r.device.sessions.get? id = some s)
    (hwaits : s.state = .waiting) (body : Except Failure Bytes) :
    Proceeds setup r id s.task (r.deliverDue setup id s body) (r.deliver setup id s body) := by
  cases body with
  | error e =>
    have hnone : ∀ step, Except.error (α := Step) e ≠ .ok step := fun _ h => nomatch h
    exact proceeds_advance ⟨rfl, rfl, rfl, rfl, fun _ _ => rfl⟩ rfl
      (fun step h => absurd h (hnone step)) fun out h => absurd h (hnone _)
  | ok bytes =>
    obtain ⟨⟨result, s', memory⟩, hstep⟩ :
      ∃ result, s.onResponse (r.device.scope setup) r.device.memory bytes = result := ⟨_, rfl⟩
    have htaught := Session.taught_onResponse hwaits hstep
    have hkept : s.state.isAbandoned = false := by
      rw [hwaits]
      rfl
    unfold deliver deliverDue
    dsimp only
    rw [hstep]
    refine proceeds_advance (sameNeeds_onResponse hf hs hwaits hstep) htaught.stage_eq ?_ ?_
    · rintro step rfl
      exact htaught.fits
    · rintro out rfl
      exact ⟨Session.onResponse_send hkept hstep, fun _ => fetches_onResponse hf hs hwaits hstep⟩

/-! ## Strides -/

/-- How a device advances with a stride from `r`: no session that waits is concerned, or one of them
    proceeds. -/
inductive Advances (setup : Setup) (r : DeviceRun) : Option DeviceRun → DeviceRun → Prop
  | still {r' : DeviceRun} (state : r'.device.state = r.device.state)
      (registry : r'.device.registry = r.device.registry)
      (queue : r'.device.dictionaryQueue = r.device.dictionaryQueue)
      (next : r.device.state = .ready ∨ r'.device.nextSession = r.device.nextSession)
      (store : r'.device.memory.store = r.device.memory.store)
      (kept : ∀ id s, r.device.sessions.get? id = some s → s.state = .waiting →
        r'.device.sessions.get? id = some s) : Advances setup r none r'
  | session {id : SessionId} {s : Session} {o : Option DeviceRun} {r' : DeviceRun}
      (found : r.device.sessions.get? id = some s) (waits : s.state = .waiting)
      (proceeds : Proceeds setup r id s.task o r') : Advances setup r o r'

/-- Giving an instance id back makes no difference. -/
theorem Advances.of_freed {instanceId : UInt8} {o : Option DeviceRun}
    (h : Advances setup (r.freed instanceId) o r') : Advances setup r o r' := by
  cases h with
  | still state registry queue next store kept => exact .still state registry queue next store kept
  | session found waits proceeds =>
    exact .session found waits (proceeds.of_same ⟨rfl, rfl, rfl, rfl, fun _ _ => rfl⟩)

theorem advances_settle (setup : Setup) (ho : r.device.Orderly) (hf : r.device.Fetching)
    (instanceId : UInt8) (request : PendingRequest) (message : Option Bytes) :
    Advances setup r (r.settleDue setup instanceId request message)
      (r.settle setup instanceId request message) := by
  have hsame : Advances setup r none r := .still rfl rfl rfl (Or.inr rfl) rfl fun _ _ hs _ => hs
  unfold settle settleDue
  split
  · exact hsame
  · cases hs : r.device.sessions.get? request.session with
    | none => exact hsame
    | some s =>
      dsimp only
      split
      · rename_i habandoned
        refine .still rfl rfl rfl (Or.inr rfl) rfl fun other t ht hwaits => ?_
        refine (Table.get?_erase ..).trans ((if_neg ?_).trans ht)
        rintro rfl
        obtain rfl : s = t := Option.some.inj (hs.symm.trans ht)
        rw [hwaits] at habandoned
        cases habandoned
      · rename_i hkept
        have hwaits : s.state = .waiting := (ho.states _ s hs).resolve_right hkept
        exact .session hs hwaits (proceeds_deliver hf hs hwaits _)

/-- Whatever else waits, a request that has waited is sent, or fails its session. -/
theorem advances_sendWaiting (setup : Setup) (ho : r.device.Orderly)
    (rest : List (SessionId × Outgoing)) (id : SessionId) (out : Outgoing) :
    Advances setup r (({ r with device.waiting := rest } : DeviceRun).sendWaitingDue id out)
      (({ r with device.waiting := rest } : DeviceRun).sendWaiting setup id out) := by
  let r₁ : DeviceRun := { r with device.waiting := rest }
  have hsame : Advances setup r none r₁ := .still rfl rfl rfl (Or.inr rfl) rfl fun _ _ hs _ => hs
  show Advances setup r (r₁.sendWaitingDue id out) (r₁.sendWaiting setup id out)
  unfold sendWaiting sendWaitingDue
  cases hs : r₁.device.sessions.get? id with
  | none => exact hsame
  | some s =>
    dsimp only
    split
    · exact hsame
    · rename_i hterminal
      have hwaits : s.state = .waiting := by
        refine (ho.states _ s hs).resolve_right fun habandoned => hterminal ?_
        rw [ho.isTerminal_eq hs]
        exact habandoned
      rcases r₁.sendNow_cases id out with ⟨r', heq, hsent⟩ | ⟨e, host, heq, -⟩
      · rw [heq]
        cases hsent
        exact .still rfl rfl rfl (Or.inr rfl) rfl fun _ _ hs _ => hs
      · rw [heq]
        have hdropped : SameNeeds s.task r (({ r₁ with host } : DeviceRun).dropSession id) :=
          ⟨rfl, rfl, rfl, rfl, fun _ _ => rfl⟩
        exact .session hs hwaits (proceeds_fail hdropped rfl e)

theorem advances_round (setup : Setup) (ho : r.device.Orderly) :
    Advances setup r r.roundDue (r.round setup) := by
  have hsame : Advances setup r none r := .still rfl rfl rfl (Or.inr rfl) rfl fun _ _ hs _ => hs
  unfold round roundDue
  cases hw : r.device.waiting with
  | nil => exact hsame
  | cons oldest rest =>
    dsimp only
    split
    · exact advances_sendWaiting setup ho rest oldest.1 oldest.2
    · exact hsame

/-- An operation that begins, or cannot begin, leaves the other sessions alone. -/
theorem advances_startOperation (setup : Setup) (ho : r.device.Orderly)
    (request : OperationRequest) :
    Advances setup r none (r.startOperation setup request).2 := by
  have hsame : Advances setup r none r := .still rfl rfl rfl (Or.inr rfl) rfl fun _ _ hs _ => hs
  have hstore := congrArg DeviceMemory.store (r.memory_startOperation setup request)
  unfold startOperation at hstore ⊢
  split
  · exact hsame
  · rename_i hserving
    have hready : r.device.state = .ready := by
      simpa [DeviceState.acceptsOperations] using hserving
    rw [if_neg hserving] at hstore
    split
    · exact hsame
    · rename_i hsupported
      rw [if_neg hsupported] at hstore
      have ho' : r.counted.device.Orderly := ho.of_sessions rfl (Nat.le_refl _)
      have hlaunched := launched_startSession ho' setup
        (s := .operation request r.device.nextOperationId) rfl
      have hqueue := (r.counted.queues_startSession setup
        (.operation request r.device.nextOperationId)).1
      change (r.counted.startSession setup
        (.operation request r.device.nextOperationId)).2.device.memory.store = _ at hstore
      show Advances setup r none
        (r.counted.startSession setup (.operation request r.device.nextOperationId)).2
      generalize r.counted.startSession setup
        (.operation request r.device.nextOperationId) = result at hlaunched hqueue hstore
      cases hlaunched with
      | placed _ _ _ _ _ hplaced =>
        have hcourse := hplaced.sameCourse
        refine .still hcourse.state hcourse.registry hqueue (Or.inl hready) hstore
          fun other t ht _ => ?_
        rw [hcourse.sessions]
        refine (Table.get?_insert ..).trans ((if_neg ?_).trans ht)
        -- The number of the operation is a new one.
        rintro rfl
        rw [show r.counted.newId = ⟨r.device.nextSession⟩ from rfl, ho.get?_next] at ht
        cases ht
      | failed e hsteady =>
        refine .still hsteady.state hsteady.registry hqueue (Or.inl hready) hstore
          fun other t ht _ => ?_
        rw [hsteady.sessions]
        exact ht

end DeviceRun

/-- Whether a stride takes the device out of its course: the device is refreshed or disabled, or a
    session is given up. -/
def Stride.hinders : Stride → Bool
  | .ask .refresh | .ask .disable | .ask (.expire _) | .ask (.cancel _) => true
  | _ => false

/-- How a device advances with a stride that does not hinder it. -/
theorem DeviceHistory.advances_stride {h : DeviceHistory} (setup : Setup)
    (ho : h.run.device.Orderly) (hf : h.run.device.Fetching) {stride : Stride}
    (hfree : stride.hinders = false) :
    DeviceRun.Advances setup h.run (h.run.due setup stride) (h.stride setup stride).run := by
  cases stride with
  | round => exact DeviceRun.advances_round setup ho
  | ask call =>
    cases call with
    | refresh | disable | expire | cancel => cases hfree
    | setPayloads payloads => exact .still rfl rfl rfl (Or.inr rfl) rfl fun _ _ hs _ => hs
    | startOperation request =>
      show DeviceRun.Advances setup h.run none (h.start (h.run.startOperation setup request)).run
      rw [run_start]
      exact DeviceRun.advances_startOperation setup ho request
    | handleResponse instanceId message =>
      show DeviceRun.Advances setup h.run
        ((h.run.device.pending.get? instanceId).bind fun request =>
          (h.run.freed instanceId).settleDue setup instanceId request message)
        (h.ask setup (.handleResponse instanceId message)).run
      cases hpending : h.run.device.pending.get? instanceId with
      | none =>
        rw [ask_of_unknown hpending]
        exact .still rfl rfl rfl (Or.inr rfl) rfl fun _ _ hs _ => hs
      | some request =>
        rw [ask_of_pending hpending]
        exact (DeviceRun.advances_settle setup (DeviceRun.orderly_freed ho instanceId)
          ⟨hf.queued, hf.downloads⟩ instanceId request message).of_freed

end DeviceEnablement
