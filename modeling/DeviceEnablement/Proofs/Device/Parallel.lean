/-
  One device on two hosts.

  What a device does depends on what the host holds for its own endpoint, and on nothing else of it.
  So a device that is put to work on two hosts that agree about its endpoint does the same on both,
  and they agree again afterwards; and neither of them is changed for another endpoint.

  1. `Host.SameAt`: two hosts hold the same for an endpoint: the instance ids and the requests that
     were taken.  `Host.Within`: what is refused depends on the request alone, and what is read on
     the path alone.
  2. `Twin`: the same device on two such hosts.  `Together`: twins have gone on to twins.
  3. Each function of the device takes twins together: `together_sendNow`, `together_pump`,
     `together_handleResponse`, `together_refresh`, and so on.
-/
import DeviceEnablement.Proofs.Device.Moves

namespace DeviceEnablement

/-- The requests to an endpoint that were taken, the last one in front. -/
def Transport.requestsTo (t : Transport) (eid : UInt8) : List SentRequest :=
  t.sent.filter fun request => request.eid = eid

/-! ## Hosts -/

/-- Whether two hosts hold the same for an endpoint. -/
structure Host.SameAt (eid : UInt8) (host host' : Host) : Prop where
  pool : host'.ids.pool eid = host.ids.pool eid := by rfl
  requests : host'.transport.requestsTo eid = host.transport.requestsTo eid := by rfl

/-- What the surroundings do, whenever they are asked. -/
structure Surroundings where
  /-- Why a request is refused, if it is. -/
  refusal : SentRequest → Option Failure
  /-- The content of a local file, if it can be read. -/
  content : String → Option Bytes

/-- Whether a host has these surroundings. -/
structure Host.Within (host : Host) (w : Surroundings) : Prop where
  refusal : ∀ n request, host.transport.refusal n request = w.refusal request
  content : ∀ n path, host.files.content n path = w.content path

theorem Host.SameAt.trans {eid : UInt8} {host host' host'' : Host} (h : host.SameAt eid host')
    (h' : host'.SameAt eid host'') : host.SameAt eid host'' where
  pool := h'.pool.trans h.pool
  requests := h'.requests.trans h.requests

theorem Host.SameAt.symm {eid : UInt8} {host host' : Host} (h : host.SameAt eid host') :
    host'.SameAt eid host where
  pool := h.pool.symm
  requests := h.requests.symm

namespace InstanceIds

variable {ids ids' : InstanceIds} {eid : UInt8}

/-- From the same pool the same id is given out, or none. -/
theorem allocate_same (hpool : ids'.pool eid = ids.pool eid) :
    (∃ e, ids.allocate eid = .error e ∧ ids'.allocate eid = .error e) ∨
    ∃ id ids₁ ids₁', ids.allocate eid = .ok (id, ids₁) ∧ ids'.allocate eid = .ok (id, ids₁') ∧
      ids₁'.pool eid = ids₁.pool eid := by
  unfold allocate
  rw [hpool]
  split
  · refine Or.inr ⟨_, _, _, rfl, rfl, ?_⟩
    rw [pool_insert, pool_insert, if_pos rfl, if_pos rfl]
  · exact Or.inl ⟨_, rfl, rfl⟩

end InstanceIds

namespace DeviceRun

variable {w : Surroundings} {setup : Setup} {r r' r₁ r₁' r₂ r₂' : DeviceRun}

/-! ## Twins -/

/-- Whether a run has left all other endpoints alone. -/
structure Confined (r r' : DeviceRun) : Prop where
  eid : r'.device.eid = r.device.eid := by rfl
  uuid : r'.device.uuid = r.device.uuid := by rfl
  aside : ∀ other, other ≠ r.device.eid → r.host.SameAt other r'.host := by exact fun _ _ => {}

theorem Confined.trans (h : r.Confined r₁) (h' : r₁.Confined r₂) : r.Confined r₂ where
  eid := h'.eid.trans h.eid
  uuid := h'.uuid.trans h.uuid
  aside := fun other hother => (h.aside other hother).trans (h'.aside other (h.eid ▸ hother))

/-- `Twin w r r'`: the same device works on two hosts that hold the same for its endpoint. -/
inductive Twin (w : Surroundings) (r : DeviceRun) : DeviceRun → Prop
  | intro {host : Host} (same : r.host.SameAt r.device.eid host) (within : r.host.Within w)
      (within' : host.Within w) : Twin w r { r with host }

theorem Twin.device (h : Twin w r r') : r'.device = r.device := by
  cases h
  rfl

theorem Twin.completions (h : Twin w r r') : r'.completions = r.completions := by
  cases h
  rfl

theorem Twin.same (h : Twin w r r') : r.host.SameAt r.device.eid r'.host := by
  cases h
  assumption

theorem Twin.within (h : Twin w r r') : r.host.Within w := by
  cases h
  assumption

theorem Twin.within' (h : Twin w r r') : r'.host.Within w := by
  cases h
  assumption

/-- `Together w r r' r₁ r₁'`: the twins `r` and `r'` have gone on to the twins `r₁` and `r₁'`. -/
structure Together (w : Surroundings) (r r' r₁ r₁' : DeviceRun) : Prop where
  twin : Twin w r₁ r₁'
  confined : r.Confined r₁
  confined' : r'.Confined r₁'

theorem Together.trans (h : Together w r r' r₁ r₁') (h' : Together w r₁ r₁' r₂ r₂') :
    Together w r r' r₂ r₂' where
  twin := h'.twin
  confined := h.confined.trans h'.confined
  confined' := h.confined'.trans h'.confined'

theorem Twin.together (h : Twin w r r') : Together w r r' r r' := ⟨h, {}, {}⟩

/-- The device is changed alike for both twins, and so is what their hosts hold for its endpoint. -/
theorem Together.of_hosts {host host₁ host₁' : Host} {d : Device}
    {completions : List OperationCompletion} (heid : d.eid = r.device.eid)
    (huuid : d.uuid = r.device.uuid) (same : host₁.SameAt r.device.eid host₁')
    (within : host₁.Within w) (within' : host₁'.Within w)
    (aside : ∀ other, other ≠ r.device.eid →
      r.host.SameAt other host₁ ∧ host.SameAt other host₁') :
    Together w r { r with host } { r with device := d, completions, host := host₁ }
      { r with device := d, completions, host := host₁' } where
  twin := .intro (heid ▸ same) within within'
  confined := ⟨heid, huuid, fun other hne => (aside other hne).1⟩
  confined' := ⟨heid, huuid, fun other hne => (aside other hne).2⟩

/-- What is changed of the device alone is changed of both twins. -/
theorem Together.of_device {host : Host} (h : Twin w r { r with host }) {d : Device}
    {completions : List OperationCompletion} (heid : d.eid = r.device.eid)
    (huuid : d.uuid = r.device.uuid) :
    Together w r { r with host } { r with device := d, completions }
      { r with device := d, completions, host } :=
  .of_hosts heid huuid h.same h.within h.within' fun _ _ => ⟨{}, {}⟩

/-- `Alongside w r r' p p'`: the twins `r` and `r'` have yielded the same, and have gone on
    together. -/
def Alongside {α : Type} (w : Surroundings) (r r' : DeviceRun) (p p' : α × DeviceRun) : Prop :=
  ∃ result r₁ r₁', p = (result, r₁) ∧ p' = (result, r₁') ∧ Together w r r' r₁ r₁'

/-! ## Sending -/

/-- A request of one endpoint is refused on both hosts, or taken on both of them. -/
theorem send_same {t t' : Transport} (request : SentRequest)
    (hsame : t'.requestsTo request.eid = t.requestsTo request.eid)
    (hrefusal : t'.refusal t'.attempts request = t.refusal t.attempts request) :
    ∃ result t₁ t₁', t.send request = (result, t₁) ∧ t'.send request = (result, t₁') ∧
      t₁.refusal = t.refusal ∧ t₁'.refusal = t'.refusal ∧
      t₁'.requestsTo request.eid = t₁.requestsTo request.eid ∧
      ∀ other, other ≠ request.eid →
        t₁.requestsTo other = t.requestsTo other ∧ t₁'.requestsTo other = t'.requestsTo other := by
  unfold Transport.send
  dsimp only
  rw [hrefusal]
  split
  · exact ⟨_, _, _, rfl, rfl, rfl, rfl, hsame, fun _ _ => ⟨rfl, rfl⟩⟩
  · refine ⟨_, _, _, rfl, rfl, rfl, rfl, ?_, fun other hother => ?_⟩
    · unfold Transport.requestsTo at hsame ⊢
      dsimp only
      rw [List.filter_cons_of_pos (by simp), List.filter_cons_of_pos (by simp), hsame]
    · unfold Transport.requestsTo
      dsimp only
      rw [List.filter_cons_of_neg (by simpa using hother.symm),
        List.filter_cons_of_neg (by simpa using hother.symm)]
      exact ⟨rfl, rfl⟩

theorem together_sendNow (h : Twin w r r') (id : SessionId) (out : Outgoing) :
    Alongside w r r' (r.sendNow id out) (r'.sendNow id out) := by
  obtain @⟨host, same, within, within'⟩ := h
  unfold sendNow
  dsimp only
  rcases InstanceIds.allocate_same same.pool with
    ⟨e, hfull, hfull'⟩ | ⟨instanceId, ids, ids', hids, hids', hpool⟩
  · rw [hfull, hfull']
    exact ⟨_, _, _, rfl, rfl, (Twin.intro same within within').together⟩
  · rw [hids, hids']
    dsimp only
    -- An id that is given back is given back to the same pool.
    have hfreed : (ids'.free r.device.eid instanceId).pool r.device.eid =
        (ids.free r.device.eid instanceId).pool r.device.eid := by
      rw [InstanceIds.pool_free, InstanceIds.pool_free, hpool]
    have hother : ∀ other, other ≠ r.device.eid → ids.pool other = r.host.ids.pool other ∧
        ids'.pool other = host.ids.pool other := fun other hne =>
      ⟨InstanceIds.pool_allocate_of_ne hids hne, InstanceIds.pool_allocate_of_ne hids' hne⟩
    have hotherFreed : ∀ other, other ≠ r.device.eid →
        (ids.free r.device.eid instanceId).pool other = r.host.ids.pool other ∧
        (ids'.free r.device.eid instanceId).pool other = host.ids.pool other := by
      intro other hne
      rw [InstanceIds.pool_free_of_ne hne, InstanceIds.pool_free_of_ne hne]
      exact hother other hne
    cases out.message instanceId with
    | error e =>
      exact ⟨_, _, _, rfl, rfl, .of_hosts rfl rfl ⟨hfreed, same.requests⟩
        ⟨within.refusal, within.content⟩ ⟨within'.refusal, within'.content⟩ fun other hne =>
          ⟨⟨(hotherFreed other hne).1, rfl⟩, ⟨(hotherFreed other hne).2, rfl⟩⟩⟩
    | ok message =>
      obtain ⟨result, t, t', hsend, hsend', hrules, hrules', hsent, haside⟩ :=
        send_same { eid := r.device.eid, instanceId, message } same.requests
          ((within'.refusal _ _).trans (within.refusal _ _).symm)
      dsimp only
      rw [hsend, hsend']
      have hwithin : ∀ n request, t.refusal n request = w.refusal request :=
        fun n request => hrules ▸ within.refusal n request
      have hwithin' : ∀ n request, t'.refusal n request = w.refusal request :=
        fun n request => hrules' ▸ within'.refusal n request
      cases result with
      | error e =>
        exact ⟨_, _, _, rfl, rfl, .of_hosts rfl rfl ⟨hfreed, hsent⟩ ⟨hwithin, within.content⟩
          ⟨hwithin', within'.content⟩ fun other hne =>
            ⟨⟨(hotherFreed other hne).1, (haside other hne).1⟩,
              ⟨(hotherFreed other hne).2, (haside other hne).2⟩⟩⟩
      | ok =>
        exact ⟨_, _, _, rfl, rfl, .of_hosts rfl rfl ⟨hpool, hsent⟩ ⟨hwithin, within.content⟩
          ⟨hwithin', within'.content⟩ fun other hne =>
            ⟨⟨(hother other hne).1, (haside other hne).1⟩,
              ⟨(hother other hne).2, (haside other hne).2⟩⟩⟩

theorem together_dispatch (h : Twin w r r') (id : SessionId) (out : Outgoing) :
    Alongside w r r' (r.dispatch id out) (r'.dispatch id out) := by
  have hsent := together_sendNow h id out
  obtain ⟨same, within, within'⟩ := h
  unfold dispatch
  dsimp only
  split
  · exact hsent
  · exact ⟨_, _, _, rfl, rfl, .of_device (.intro same within within') rfl rfl⟩

/-! ## Sessions -/

/-- Twins that change their device alike, and then go on together, go on together. -/
theorem Alongside.after {α : Type} {p p' : α × DeviceRun} (hbefore : Together w r r' r₁ r₁')
    (h : Alongside w r₁ r₁' p p') : Alongside w r r' p p' := by
  obtain ⟨result, r₂, r₂', hp, hp', htogether⟩ := h
  exact ⟨result, r₂, r₂', hp, hp', hbefore.trans htogether⟩

theorem together_keepSession (h : Twin w r r') (id : SessionId) (session : Session) :
    Together w r r' (r.keepSession id session) (r'.keepSession id session) := by
  obtain ⟨same, within, within'⟩ := h
  exact .of_device (.intro same within within') rfl rfl

theorem together_dropSession (h : Twin w r r') (id : SessionId) :
    Together w r r' (r.dropSession id) (r'.dropSession id) := by
  obtain ⟨same, within, within'⟩ := h
  exact .of_device (.intro same within within') rfl rfl

theorem together_report (h : Twin w r r') (id : SessionId)
    (result : Except Failure OperationResult) :
    Together w r r' (r.report id result) (r'.report id result) := by
  obtain ⟨same, within, within'⟩ := h
  exact .of_device (.intro same within within') rfl rfl

theorem together_launch (h : Twin w r r') (id : SessionId) (session : Session) (out : Outgoing) :
    Alongside w r r' (r.launch id session out) (r'.launch id session out) := by
  have hkept := together_keepSession h id session
  obtain ⟨result, r₁, r₁', hd, hd', hdispatched⟩ := together_dispatch hkept.twin id out
  have htogether := hkept.trans hdispatched
  unfold launch
  rw [hd, hd']
  cases result with
  | ok => exact ⟨_, _, _, rfl, rfl, htogether⟩
  | error e =>
    exact ⟨_, _, _, rfl, rfl, htogether.trans (together_dropSession htogether.twin id)⟩

theorem together_startSession (h : Twin w r r') (setup : Setup) (session : Session) :
    Alongside w r r' (r.startSession setup session) (r'.startSession setup session) := by
  obtain @⟨host, same, within, within'⟩ := h
  have htwin := Twin.intro same within within'
  have hbegun : ∀ memory, Together w r { r with host } (r.begun memory)
      (({ r with host } : DeviceRun).begun memory) := fun memory => .of_device htwin rfl rfl
  rw [startSession_eq, startSession_eq]
  dsimp only
  split
  · exact ⟨_, _, _, rfl, rfl, hbegun _⟩
  · exact (together_launch (hbegun _).twin _ _ _).after (hbegun _)
  · exact ⟨_, _, _, rfl, rfl, hbegun _⟩

/-! ## Queues -/

theorem together_startDownloads (h : Twin w r r') (setup : Setup) (keys : List DictionaryKey) :
    Together w r r' (r.startDownloads setup keys) (r'.startDownloads setup keys) := by
  induction keys generalizing r r' with
  | nil =>
    obtain ⟨same, within, within'⟩ := h
    exact .of_device (.intro same within within') rfl rfl
  | cons key rest ih =>
    obtain @⟨host, same, within, within'⟩ := h
    have hturn : Together w r { r with host } { r with device.dictionaryQueue := rest }
        { r with device.dictionaryQueue := rest, host } :=
      .of_device (.intro same within within') rfl rfl
    obtain ⟨result, r₁, r₁', hs, hs', hstarted⟩ :=
      together_startSession hturn.twin setup (.download key)
    have htogether := hturn.trans hstarted
    unfold startDownloads
    dsimp only
    split
    · exact hturn.trans (ih hturn.twin)
    · rw [hs, hs']
      cases result with
      | ok id =>
        obtain ⟨same₁, within₁, within₁'⟩ := hstarted.twin
        exact htogether.trans (.of_device (.intro same₁ within₁ within₁') rfl rfl)
      | error e => exact htogether.trans (ih htogether.twin)

theorem together_nextDictionary (h : Twin w r r') (setup : Setup) :
    Together w r r' (r.nextDictionary setup) (r'.nextDictionary setup) := by
  have hdownloads := together_startDownloads h setup r.device.dictionaryQueue
  obtain ⟨same, within, within'⟩ := h
  unfold nextDictionary
  dsimp only
  split
  · exact hdownloads
  · exact hdownloads
  · exact (Twin.intro same within within').together

theorem together_fail (h : Twin w r r') (setup : Setup) (id : SessionId) (task : SessionTask)
    (e : Failure) : Together w r r' (r.fail setup id task e) (r'.fail setup id task e) := by
  cases task with
  | negotiation phase =>
    obtain ⟨same, within, within'⟩ := h
    exact .of_device (.intro same within within') rfl rfl
  | download d => exact together_nextDictionary h setup
  | operation o => exact together_report h id (.error e)

theorem together_finish (h : Twin w r r') (setup : Setup) (id : SessionId)
    (output : SessionOutput) :
    Together w r r' (r.finish setup id output) (r'.finish setup id output) := by
  cases output with
  | negotiated =>
    obtain @⟨host, same, within, within'⟩ := h
    have hready : ∀ queue, Together w r { r with host }
        { r with device := { r.device with
            registry := r.device.registry.setOperations r.device.supportedOperations
            state := .ready
            dictionaryQueue := queue } }
        { r with host, device := { r.device with
            registry := r.device.registry.setOperations r.device.supportedOperations
            state := .ready
            dictionaryQueue := queue } } :=
      fun _ => .of_device (.intro same within within') rfl rfl
    unfold finish finishNegotiation
    dsimp only
    split
    · exact (hready _).trans (together_nextDictionary (hready _).twin setup)
    · exact (hready _).trans (together_nextDictionary (hready _).twin setup)
  | dictionary key => exact together_nextDictionary h setup
  | operation result => exact together_report h id (.ok result)

theorem together_advance (h : Twin w r r') (setup : Setup) (id : SessionId) (session : Session)
    (result : Except Failure Step) :
    Together w r r' (r.advance setup id session result) (r'.advance setup id session result) := by
  have hdropped := together_dropSession h id
  cases result with
  | error e => exact hdropped.trans (together_fail hdropped.twin setup id session.task e)
  | ok step =>
    cases step with
    | send out =>
      have hkept := together_keepSession h id session
      obtain ⟨result, r₁, r₁', hd, hd', hdispatched⟩ := together_dispatch hkept.twin id out
      have htogether := hkept.trans hdispatched
      unfold advance
      dsimp only
      rw [hd, hd']
      cases result with
      | ok => exact htogether
      | error e =>
        have hdropped₁ := together_dropSession htogether.twin id
        exact htogether.trans
          (hdropped₁.trans (together_fail hdropped₁.twin setup id session.task e))
    | done output => exact hdropped.trans (together_finish hdropped.twin setup id output)
    | discarded => exact hdropped

theorem together_sendWaiting (h : Twin w r r') (setup : Setup) (id : SessionId) (out : Outgoing) :
    Together w r r' (r.sendWaiting setup id out) (r'.sendWaiting setup id out) := by
  obtain ⟨result, r₁, r₁', hs, hs', hsent⟩ := together_sendNow h id out
  obtain ⟨same, within, within'⟩ := h
  have hstay := (Twin.intro same within within').together
  unfold sendWaiting
  dsimp only
  split
  · exact hstay
  · rename_i session _
    split
    · exact hstay
    · rw [hs, hs']
      cases result with
      | ok => exact hsent
      | error e =>
        have hdropped := together_dropSession hsent.twin id
        exact hsent.trans (hdropped.trans (together_fail hdropped.twin setup id session.task e))

theorem together_pump (h : Twin w r r') (setup : Setup) :
    Together w r r' (r.pump setup) (r'.pump setup) := by
  induction r using pump.induct setup generalizing r' with
  | case1 r hcapacity hw =>
    obtain @⟨host, same, within, within'⟩ := h
    rw [pump_of_empty hw, pump_of_empty (r := { r with host }) hw]
    exact (Twin.intro same within within').together
  | case2 r hcapacity id out rest hw ih =>
    -- Whether there is room depends on the device alone, so both take the same turn.
    obtain @⟨host, same, within, within'⟩ := h
    have hturn : Together w r { r with host } { r with device.waiting := rest }
        { r with device.waiting := rest, host } :=
      .of_device (.intro same within within') rfl rfl
    have hround := hturn.trans (together_sendWaiting hturn.twin setup id out)
    rw [pump_of_cons hcapacity hw, pump_of_cons (r := { r with host }) hcapacity hw]
    exact hround.trans (ih hround.twin)
  | case3 r hfull =>
    obtain @⟨host, same, within, within'⟩ := h
    rw [pump_of_full hfull, pump_of_full (r := { r with host }) hfull]
    exact (Twin.intro same within within').together

/-! ## Calls -/

theorem together_deliver (h : Twin w r r') (setup : Setup) (id : SessionId) (session : Session)
    (body : Except Failure Bytes) :
    Together w r r' (r.deliver setup id session body) (r'.deliver setup id session body) := by
  cases body with
  | error e => exact together_advance h setup id session (.error e)
  | ok body =>
    obtain @⟨host, same, within, within'⟩ := h
    have hlearned : ∀ memory, Together w r { r with host } { r with device.memory := memory }
        { r with device.memory := memory, host } :=
      fun memory => .of_device (.intro same within within') rfl rfl
    exact (hlearned _).trans (together_advance (hlearned _).twin setup id _ _)

theorem together_settle (h : Twin w r r') (setup : Setup) (instanceId : UInt8)
    (request : PendingRequest) (message : Option Bytes) :
    Together w r r' (r.settle setup instanceId request message)
      (r'.settle setup instanceId request message) := by
  have hdropped := together_dropSession h request.session
  have hdelivered := fun session body => together_deliver h setup request.session session body
  obtain ⟨same, within, within'⟩ := h
  have hstay := (Twin.intro same within within').together
  unfold settle
  dsimp only
  split
  · exact hstay
  · split
    · exact hstay
    · split
      · exact hdropped
      · exact hdelivered _ _

theorem together_handleResponse (h : Twin w r r') (setup : Setup) (instanceId : UInt8)
    (message : Option Bytes) :
    Together w r r' (r.handleResponse setup instanceId message)
      (r'.handleResponse setup instanceId message) := by
  obtain @⟨host, same, within, within'⟩ := h
  unfold handleResponse
  dsimp only
  split
  · exact (Twin.intro same within within').together
  · rename_i request _
    have hfreed : Together w r { r with host }
        { r with
          device.pending := r.device.pending.erase instanceId
          host.ids := r.host.ids.free r.device.eid instanceId }
        { r with
          device.pending := r.device.pending.erase instanceId
          host := { host with ids := host.ids.free r.device.eid instanceId } } := by
      refine .of_hosts rfl rfl ⟨?_, same.requests⟩ ⟨within.refusal, within.content⟩
        ⟨within'.refusal, within'.content⟩ fun other hne =>
          ⟨⟨InstanceIds.pool_free_of_ne hne, rfl⟩, ⟨InstanceIds.pool_free_of_ne hne, rfl⟩⟩
      dsimp only
      rw [InstanceIds.pool_free, InstanceIds.pool_free, same.pool]
    have hsettled := hfreed.trans (together_settle hfreed.twin setup instanceId request message)
    exact hsettled.trans (together_pump hsettled.twin setup)

theorem together_disable (h : Twin w r r') : Together w r r' r.disable r'.disable := by
  obtain ⟨same, within, within'⟩ := h
  exact .of_device (.intro same within within') rfl rfl

theorem together_loadAnnotations (h : Twin w r r') (setup : Setup) :
    Together w r r' (r.loadAnnotations setup) (r'.loadAnnotations setup) := by
  obtain @⟨host, same, within, within'⟩ := h
  unfold loadAnnotations LocalFiles.read
  dsimp only
  split
  · exact (Twin.intro same within within').together
  · rw [within.content, within'.content]
    exact ⟨.intro ⟨same.pool, same.requests⟩ ⟨within.refusal, within.content⟩
      ⟨within'.refusal, within'.content⟩, {}, {}⟩

theorem together_discover (h : Twin w r r') (setup : Setup) :
    Together w r r' (r.discover setup) (r'.discover setup) := by
  obtain @⟨host, same, within, within'⟩ := h
  have hturn : Together w r { r with host } { r with device.state := .discovering }
      { r with device.state := .discovering, host } :=
    .of_device (.intro same within within') rfl rfl
  obtain ⟨result, r₁, r₁', hs, hs', hstarted⟩ := together_startSession hturn.twin setup .negotiation
  have htogether := hturn.trans hstarted
  unfold discover
  rw [hs, hs']
  cases result with
  | ok id => exact htogether
  | error e =>
    obtain ⟨same₁, within₁, within₁'⟩ := hstarted.twin
    exact htogether.trans (.of_device (.intro same₁ within₁ within₁') rfl rfl)

theorem together_loadPersisted (h : Twin w r r') :
    Together w r r' r.loadPersisted r'.loadPersisted := by
  obtain ⟨same, within, within'⟩ := h
  exact .of_device (.intro same within within') rfl rfl

theorem together_dumpRegistry (h : Twin w r r') (setup : Setup) :
    Together w r r' (r.dumpRegistry setup) (r'.dumpRegistry setup) := by
  obtain ⟨same, within, within'⟩ := h
  unfold dumpRegistry
  split
  · exact .of_device (.intro same within within') rfl rfl
  · exact (Twin.intro same within within').together

/-- Twins that have gone on together still do when their files are read and a negotiation begins. -/
theorem together_rebuild (h : Together w r r' r₁ r₁') (setup : Setup) :
    Together w r r' ((((r₁.loadAnnotations setup).loadPersisted).dumpRegistry setup).discover setup)
      ((((r₁'.loadAnnotations setup).loadPersisted).dumpRegistry setup).discover setup) := by
  have hannotations := h.trans (together_loadAnnotations h.twin setup)
  have hpersisted := hannotations.trans (together_loadPersisted hannotations.twin)
  have hdumped := hpersisted.trans (together_dumpRegistry hpersisted.twin setup)
  exact hdumped.trans (together_discover hdumped.twin setup)

theorem together_refresh (h : Twin w r r') (setup : Setup) :
    Together w r r' (r.refresh setup) (r'.refresh setup) := by
  obtain @⟨host, same, within, within'⟩ := h
  have htwin := Twin.intro same within within'
  unfold refresh cancelAll
  dsimp only
  split
  · exact .of_device htwin rfl rfl
  · refine together_rebuild ?_ setup
    exact .of_device htwin rfl rfl

theorem together_setPayloads (h : Twin w r r') (payloads : List Bytes) :
    Together w r r' (r.setPayloads payloads) (r'.setPayloads payloads) := by
  obtain ⟨same, within, within'⟩ := h
  exact .of_device (.intro same within within') rfl rfl

theorem together_startOperation (h : Twin w r r') (setup : Setup) (request : OperationRequest) :
    Alongside w r r' (r.startOperation setup request) (r'.startOperation setup request) := by
  obtain @⟨host, same, within, within'⟩ := h
  have htwin := Twin.intro same within within'
  have hcounted : Together w r { r with host }
      { r with device.nextOperationId := Device.operationIdAfter r.device.nextOperationId }
      { r with device.nextOperationId := Device.operationIdAfter r.device.nextOperationId, host } :=
    .of_device htwin rfl rfl
  unfold startOperation
  dsimp only
  split
  · exact ⟨_, _, _, rfl, rfl, htwin.together⟩
  · split
    · exact ⟨_, _, _, rfl, rfl, htwin.together⟩
    · exact (together_startSession hcounted.twin setup _).after hcounted

theorem together_abandon (h : Twin w r r') (id : SessionId) (state : SessionState) :
    Alongside w r r' (r.abandon id state) (r'.abandon id state) := by
  obtain @⟨host, same, within, within'⟩ := h
  have htwin := Twin.intro same within within'
  unfold abandon
  dsimp only
  split
  · exact ⟨_, _, _, rfl, rfl, htwin.together⟩
  · split
    · exact ⟨_, _, _, rfl, rfl, htwin.together⟩
    · split
      · exact ⟨_, _, _, rfl, rfl, .of_device htwin rfl rfl⟩
      · exact ⟨_, _, _, rfl, rfl, .of_device htwin rfl rfl⟩

end DeviceRun

end DeviceEnablement
