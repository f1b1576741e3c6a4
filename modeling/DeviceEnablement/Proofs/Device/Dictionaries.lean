/-
  What becomes of the dictionaries of a device.

  A download that fails makes the store forget its dictionary, whatever that is.  No complete one is
  lost in this way, because a download only begins for a dictionary that is not complete and no other
  session writes to the store meanwhile.

  1. `Device.Fetching`: the queue and the downloads of a device are about dictionaries of its resources,
     and each download keeps step with the store.
  2. `Device.Supplied`: what the device does not want (`Device.Wants`) stays as it is, in memory and on
     disk.  One lemma for each function of a device, from the requests up to the calls.
  3. `supplied_stride`: every stride but a refresh comes to this.
-/
import DeviceEnablement.Proofs.Device.Provisions
import DeviceEnablement.Proofs.Resource.Registry
import DeviceEnablement.Proofs.Session.Fetching

namespace DeviceEnablement

/-! ## Sessions -/

namespace Session

variable {s : Session}

/-- Only a download writes to the store when it begins. -/
theorem store_start_of_other (hother : s.task.isDownload = false) (scope : SessionScope)
    (memory : DeviceMemory) : (s.start scope memory).2.2.store = memory.store := by
  obtain ⟨state, task⟩ := s
  cases task with
  | download => cases hother
  | operation o =>
    rw [memory_start rfl]
  | negotiation phase =>
    unfold start
    split <;> rfl

/-- Only a download writes to the store when it takes a response. -/
theorem store_onResponse_of_other (hother : s.task.isDownload = false) (scope : SessionScope)
    (memory : DeviceMemory) (body : Bytes) :
    (s.onResponse scope memory body).2.2.store = memory.store := by
  obtain ⟨state, task⟩ := s
  cases task with
  | download => cases hother
  | operation o => exact store_onResponse rfl scope memory body
  | negotiation phase =>
    unfold onResponse
    split
    · rfl
    · split
      · rfl
      · show (phase.onResponse memory body).2.2.store = memory.store
        cases phase with
        | redfish =>
          unfold Negotiation.onResponse Negotiation.onRedfish
          dsimp only
          split <;> rfl
        | medium =>
          unfold Negotiation.onResponse Negotiation.onMedium
          dsimp only
          split <;> rfl

/-- Beginning makes no download of a session that is none. -/
theorem isDownload_start (s : Session) (scope : SessionScope) (memory : DeviceMemory) :
    (s.start scope memory).2.1.task.isDownload = s.task.isDownload := by
  have hstage := s.task.stage_start scope memory
  rw [SessionTask.isDownload_eq, SessionTask.isDownload_eq, ← hstage]
  unfold start
  split
  · rw [hstage]
  · split
    · rename_i heq
      rw [heq]
    · rename_i heq
      rw [heq]

/-- No response makes a download of a session, or another task of a download. -/
theorem isDownload_onResponse (s : Session) (scope : SessionScope) (memory : DeviceMemory)
    (body : Bytes) : (s.onResponse scope memory body).2.1.task.isDownload = s.task.isDownload := by
  unfold onResponse
  split
  · rfl
  · split
    · rfl
    · show (s.task.onResponse scope memory body).2.1.isDownload = _
      rw [SessionTask.isDownload_eq, SessionTask.isDownload_eq, SessionTask.stage_onResponse]

end Session

/-! ## What a device fetches -/

namespace Device

/-- Whether a task, if it is a download, fetches the dictionary of a resource and keeps step with the
    store. -/
def Admits (d : Device) (task : SessionTask) : Prop :=
  ∀ download, task = .download download →
    d.registry.Offers download.key ∧ ∃ data, download.Gathers d.memory.store data

/-- Whether a device fetches only dictionaries of its resources, and only those that it lacks. -/
structure Fetching (d : Device) : Prop where
  queued : ∀ key ∈ d.dictionaryQueue, d.registry.Offers key
  downloads : ∀ id s, d.sessions.get? id = some s → d.Admits s.task

/-- Whether a device may still fetch this dictionary. -/
def Wants (d : Device) (key : DictionaryKey) : Prop :=
  d.registry.Offers key ∧ d.memory.store.containsComplete key = false

/-- Whether this is the content of a file of the dictionary of a resource. -/
def Files (d : Device) (content : Bytes) : Prop :=
  ∃ key, d.registry.Offers key ∧ Dictionary.IsFile key content

/-- Whether a device has kept, from `d` to `d'`, every dictionary that it does not want, fetches only
    those that it lacks, and has written no other files than theirs. -/
structure Supplied (d d' : Device) : Prop where
  fetching : d'.Fetching
  offers : ∀ key, d'.registry.Offers key ↔ d.registry.Offers key
  kept : ∀ key, ¬ d.Wants key → d'.memory.store.get? key = d.memory.store.get? key
  files : Folder.Gains (fun _ => d.Files) d.memory.store.folder d'.memory.store.folder

variable {d d' d'' : Device} {id : SessionId} {s : Session}

theorem Fetching.supplied (h : d.Fetching) : Supplied d d :=
  ⟨h, fun _ => Iff.rfl, fun _ _ => rfl, Folder.gains_of_place rfl⟩

/-- What is not wanted stays unwanted. -/
theorem Supplied.wants (h : Supplied d d') {key : DictionaryKey} (hwants : d'.Wants key) :
    d.Wants key := by
  by_contra hunwanted
  have hsame := Store.containsComplete_congr (h.kept key hunwanted)
  exact hunwanted ⟨(h.offers key).mp hwants.1, hsame ▸ hwants.2⟩

theorem Supplied.trans (h : Supplied d d') (h' : Supplied d' d'') : Supplied d d'' where
  fetching := h'.fetching
  offers := fun key => (h'.offers key).trans (h.offers key)
  kept := fun key hunwanted =>
    (h'.kept key fun hwants => hunwanted (h.wants hwants)).trans (h.kept key hunwanted)
  files := by
    refine h.files.trans (h'.files.mono fun _ content hnew => ?_)
    obtain ⟨key, hoffers, hfile⟩ := hnew
    exact ⟨key, (h.offers key).mp hoffers, hfile⟩

/-- A complete dictionary is not wanted. -/
theorem Supplied.getComplete? (h : Supplied d d') {key : DictionaryKey} {dictionary : Dictionary}
    (hfound : d.memory.store.getComplete? key = some dictionary) :
    d'.memory.store.getComplete? key = some dictionary := by
  have hcomplete : d.memory.store.containsComplete key = true :=
    Store.containsComplete_iff.mpr ⟨dictionary, Store.getComplete?_eq_some.mp hfound⟩
  rw [Store.getComplete?_congr (h.kept key fun hwants => ?_)]
  · exact hfound
  · have hlacks := hwants.2
    rw [hcomplete] at hlacks
    cases hlacks

theorem admits_of_other {task : SessionTask} (hother : task.isDownload = false) :
    d.Admits task := by
  rintro download rfl
  cases hother

theorem fetching_of_empty (hsessions : d.sessions = {}) (hqueue : d.dictionaryQueue = []) :
    d.Fetching := by
  constructor
  · rw [hqueue]
    exact fun key hkey => absurd hkey List.not_mem_nil
  · intro id s hs
    rw [hsessions] at hs
    cases hs

/-- Whether two devices have the same resources, the same dictionaries, and the same ones to be
    fetched. -/
structure SameSupply (d d' : Device) : Prop where
  registry : d'.registry = d.registry := by rfl
  store : d'.memory.store = d.memory.store := by rfl
  queue : d'.dictionaryQueue = d.dictionaryQueue := by rfl

theorem SameSupply.admits (h : SameSupply d d') {task : SessionTask} (hadmits : d.Admits task) :
    d'.Admits task := by
  unfold Admits
  rw [h.registry, h.store]
  exact hadmits

/-- Sessions that the device admits make no difference to its dictionaries. -/
theorem SameSupply.supplied (h : SameSupply d d') (hf : d.Fetching)
    (hsessions : ∀ id s, d'.sessions.get? id = some s → d.Admits s.task) : Supplied d d' where
  fetching := {
    queued := by
      rw [h.queue, h.registry]
      exact hf.queued
    downloads := fun id s hs => h.admits (hsessions id s hs) }
  offers := fun key => by rw [h.registry]
  kept := fun key _ => by rw [h.store]
  files := by
    rw [h.store]
    exact Folder.gains_of_place rfl

theorem SameSupply.supplied_of_same (h : SameSupply d d') (hf : d.Fetching)
    (hsessions : d'.sessions = d.sessions) : Supplied d d' :=
  h.supplied hf fun id s hs => hf.downloads id s (hsessions ▸ hs)

/-- Another queue makes no difference if it is about the same resources. -/
theorem Fetching.supplied_queue (hf : d.Fetching) {keys : List DictionaryKey}
    (hkeys : ∀ key ∈ keys, d.registry.Offers key) :
    Supplied d { d with dictionaryQueue := keys } where
  fetching := ⟨hkeys, hf.downloads⟩
  offers := fun _ => Iff.rfl
  kept := fun _ _ => rfl
  files := Folder.gains_of_place rfl

end Device

namespace DeviceRun

open Device (Supplied)

variable {r r' : DeviceRun} {id : SessionId} {s : Session} {out : Outgoing} {setup : Setup}

/-! ## Requests -/

theorem supplied_dropSession (hf : r.device.Fetching) (id : SessionId) :
    Supplied r.device (r.dropSession id).device :=
  Device.SameSupply.supplied ⟨rfl, rfl, rfl⟩ hf fun _ s hs =>
    hf.downloads _ s (Table.of_get?_erase hs).2

theorem supplied_keepSession (hf : r.device.Fetching) (hs : r.device.Admits s.task)
    (id : SessionId) : Supplied r.device (r.keepSession id s).device := by
  refine Device.SameSupply.supplied ⟨rfl, rfl, rfl⟩ hf fun other t ht => ?_
  rcases Table.of_get?_insert ht with ⟨-, rfl⟩ | ⟨-, ht⟩
  · exact hs
  · exact hf.downloads other t ht

theorem Sent.supplied (h : Sent r id out r') (hf : r.device.Fetching) :
    Supplied r.device r'.device := by
  cases h
  exact Device.SameSupply.supplied_of_same ⟨rfl, rfl, rfl⟩ hf rfl

theorem Placed.supplied (h : Placed r id out r') (hf : r.device.Fetching) :
    Supplied r.device r'.device := by
  cases h with
  | sent _ hsent => exact hsent.supplied hf
  | queued => exact Device.SameSupply.supplied_of_same ⟨rfl, rfl, rfl⟩ hf rfl

/-! ## Sessions that begin -/

/-- A session that begins leaves the dictionaries as its first step has left them. -/
theorem supplied_startSession {result : Except Failure Step} {s' : Session} {memory : DeviceMemory}
    (hstart : s.start (r.device.scope setup) r.device.memory = (result, s', memory))
    (hbegun : Supplied r.device (r.begun memory).device)
    (hs' : (r.begun memory).device.Admits s'.task) :
    Supplied r.device (r.startSession setup s).2.device := by
  rw [startSession_eq, hstart]
  cases result with
  | error e => exact hbegun
  | ok step =>
    cases step with
    | done | discarded => exact hbegun
    | send out =>
      dsimp only
      rcases launch_cases (r.begun memory) r.newId s' out with
        ⟨r', heq, hplaced⟩ | ⟨e, host, heq, -⟩
      · have hkept := supplied_keepSession hbegun.fetching hs' r.newId
        rw [heq]
        exact hbegun.trans (hkept.trans (hplaced.supplied hkept.fetching))
      · rw [heq]
        have hdropped := supplied_dropSession hbegun.fetching r.newId
        exact hbegun.trans hdropped

/-- A session that is no download begins without any effect on the dictionaries. -/
theorem supplied_startSession_other (setup : Setup) (hf : r.device.Fetching)
    (hother : s.task.isDownload = false) :
    Supplied r.device (r.startSession setup s).2.device := by
  have hstore := Session.store_start_of_other hother (r.device.scope setup) r.device.memory
  have htask := (s.isDownload_start (r.device.scope setup) r.device.memory).trans hother
  obtain ⟨⟨result, s', memory⟩, hstart⟩ :
      ∃ result, s.start (r.device.scope setup) r.device.memory = result := ⟨_, rfl⟩
  rw [hstart] at hstore htask
  have hbegun : Device.SameSupply r.device (r.begun memory).device := { store := hstore }
  exact supplied_startSession hstart (hbegun.supplied_of_same hf rfl)
    (Device.admits_of_other htask)

/-- A download begins with nothing in the store under its key. -/
theorem supplied_startSession_download (setup : Setup) {key : DictionaryKey}
    (hf : r.device.Fetching) (hwants : r.device.Wants key) :
    Supplied r.device (r.startSession setup (.download key)).2.device := by
  obtain ⟨store, hsame, hnone, hstart⟩ :=
    Session.start_download hwants.2 (r.device.scope setup)
  have hbegun : Supplied r.device (r.begun { r.device.memory with store }).device := by
    constructor
    case fetching =>
      refine ⟨hf.queued, fun id t ht download htask => ?_⟩
      obtain ⟨hoffers, data, hgathers⟩ := hf.downloads id t ht download htask
      refine ⟨hoffers, ?_⟩
      by_cases hkey : download.key = key
      · refine ⟨[], ?_, fun _ => rfl⟩
        show store.get? download.key = none
        rw [hkey]
        exact hnone
      · refine ⟨data, ?_, hgathers.unplaced⟩
        exact (hsame.others download.key hkey).trans hgathers.held
    case offers => exact fun _ => Iff.rfl
    case kept =>
      intro other hunwanted
      refine hsame.others other ?_
      rintro rfl
      exact hunwanted hwants
    case files => exact hsame.files.mono fun _ _ hfile => ⟨key, hwants.1, hfile⟩
  have hadmits : (r.begun { r.device.memory with store }).device.Admits (.download { key }) := by
    rintro _ ⟨⟩
    exact ⟨hwants.1, [], hnone, fun _ => rfl⟩
  rcases hstart with hstart | ⟨e, hstart⟩
  · exact supplied_startSession hstart hbegun hadmits
  · exact supplied_startSession hstart hbegun hadmits

/-! ## Dictionaries to be fetched -/

theorem supplied_startDownloads (setup : Setup) (keys : List DictionaryKey)
    (hf : r.device.Fetching) (hkeys : ∀ key ∈ keys, r.device.registry.Offers key) :
    Supplied r.device (r.startDownloads setup keys).device := by
  induction keys generalizing r with
  | nil =>
    have hqueue := hf.supplied_queue hkeys
    exact hqueue.trans (Device.SameSupply.supplied_of_same ⟨rfl, rfl, rfl⟩ hqueue.fetching rfl)
  | cons key rest ih =>
    have hrest : ∀ key ∈ rest, r.device.registry.Offers key :=
      fun key hkey => hkeys key (List.mem_cons_of_mem _ hkey)
    let r₁ : DeviceRun := { r with device.dictionaryQueue := rest }
    have hqueue : Supplied r.device r₁.device := hf.supplied_queue hrest
    unfold startDownloads
    dsimp only
    split
    · exact hqueue.trans (ih (r := r₁) hqueue.fetching hrest)
    · rename_i hlacks
      rw [Bool.not_eq_true] at hlacks
      have hwants : r₁.device.Wants key := ⟨hkeys key List.mem_cons_self, hlacks⟩
      have hstarted := supplied_startSession_download setup hqueue.fetching hwants
      split
      · rename_i r₂ heq
        rw [heq] at hstarted
        have hbusy : Supplied r₂.device { r₂.device with state := .busy } :=
          Device.SameSupply.supplied_of_same ⟨rfl, rfl, rfl⟩ hstarted.fetching rfl
        exact hqueue.trans (hstarted.trans hbusy)
      · rename_i r₂ heq
        rw [heq] at hstarted
        refine hqueue.trans (hstarted.trans (ih hstarted.fetching fun key hkey => ?_))
        exact (hstarted.offers key).mpr (hrest key hkey)

theorem supplied_nextDictionary (setup : Setup) (hf : r.device.Fetching) :
    Supplied r.device (r.nextDictionary setup).device := by
  unfold nextDictionary
  split
  · exact supplied_startDownloads setup _ hf hf.queued
  · exact supplied_startDownloads setup _ hf hf.queued
  · exact hf.supplied

/-- What is queued belongs to a resource. -/
theorem offers_of_missing {d : Device} {key : DictionaryKey} (h : key ∈ missingDictionaries d) :
    d.registry.Offers key := by
  unfold missingDictionaries at h
  obtain ⟨hmem, -⟩ := List.mem_filter.mp h
  obtain ⟨resource, hresource, rfl⟩ := List.mem_map.mp hmem
  exact ⟨resource, (List.mem_filter.mp hresource).1, rfl⟩

theorem supplied_queueDictionaries (hf : r.device.Fetching) :
    Supplied r.device r.queueDictionaries.device := by
  refine hf.supplied_queue fun key hkey => ?_
  rcases List.mem_append.mp hkey with hold | hnew
  · exact hf.queued key hold
  · exact offers_of_missing (List.mem_mergeSort.mp hnew)

theorem supplied_served (hf : r.device.Fetching) : Supplied r.device r.served.device := by
  have hoffers := Registry.offers_setOperations r.device.registry r.device.supportedOperations
  constructor
  case fetching =>
    refine ⟨fun key hkey => (hoffers key).mpr (hf.queued key hkey), fun id s hs download htask => ?_⟩
    obtain ⟨hoffered, hgathers⟩ := hf.downloads id s hs download htask
    exact ⟨(hoffers _).mpr hoffered, hgathers⟩
  case offers => exact hoffers
  case kept => exact fun _ _ => rfl
  case files => exact Folder.gains_of_place rfl

theorem supplied_finishNegotiation (setup : Setup) (hf : r.device.Fetching) :
    Supplied r.device (r.finishNegotiation setup).device := by
  have hserved := supplied_served hf
  unfold finishNegotiation
  dsimp only
  split
  · have hqueued := supplied_queueDictionaries hserved.fetching
    exact hserved.trans (hqueued.trans (supplied_nextDictionary setup hqueued.fetching))
  · exact hserved.trans (supplied_nextDictionary setup hserved.fetching)

/-! ## Sessions that end or go on -/

theorem supplied_fail (setup : Setup) (hf : r.device.Fetching) (id : SessionId)
    (task : SessionTask) (e : Failure) : Supplied r.device (r.fail setup id task e).device := by
  cases task with
  | negotiation => exact Device.SameSupply.supplied_of_same ⟨rfl, rfl, rfl⟩ hf rfl
  | download => exact supplied_nextDictionary setup hf
  | operation => exact hf.supplied

theorem supplied_finish (setup : Setup) (hf : r.device.Fetching) (id : SessionId)
    (output : SessionOutput) : Supplied r.device (r.finish setup id output).device := by
  cases output with
  | negotiated => exact supplied_finishNegotiation setup hf
  | dictionary => exact supplied_nextDictionary setup hf
  | operation => exact hf.supplied

/-- A session that has taken a step ends, or takes its place again if the device admits it. -/
theorem supplied_advance {result : Except Failure Step} (hf : (r.dropSession id).device.Fetching)
    (hs : ∀ out, result = .ok (.send out) → r.device.Admits s.task) :
    Supplied (r.dropSession id).device (r.advance setup id s result).device := by
  cases result with
  | error e => exact supplied_fail setup hf id s.task e
  | ok step =>
    cases step with
    | done output => exact supplied_finish setup hf id output
    | discarded => exact hf.supplied
    | send out =>
      unfold advance
      dsimp only
      rcases (r.keepSession id s).dispatch_cases id out with ⟨r', heq, hplaced⟩ | ⟨e, host, heq, -⟩
      · have hkept : Supplied (r.dropSession id).device (r.keepSession id s).device := by
          refine Device.SameSupply.supplied ⟨rfl, rfl, rfl⟩ hf fun other t ht => ?_
          rcases Table.of_get?_insert ht with ⟨-, rfl⟩ | ⟨hne, ht⟩
          · exact hs out rfl
          · refine hf.downloads other t ?_
            exact (Table.get?_erase ..).trans ((if_neg hne).trans ht)
        rw [heq]
        exact hkept.trans (hplaced.supplied hkept.fetching)
      · rw [heq]
        dsimp only
        rw [dropSession_keepSession]
        have hfailed := supplied_fail (r := ({ r with host } : DeviceRun).dropSession id) setup hf id
          s.task e
        exact hfailed

/-- A session that is no download takes a response without any effect on the dictionaries. -/
theorem supplied_step_other (id : SessionId) {bytes : Bytes} {result : Except Failure Step}
    {s' : Session} {memory : DeviceMemory} (hf : r.device.Fetching) (hother : s.task.isDownload = false)
    (hstep : s.onResponse (r.device.scope setup) r.device.memory bytes = (result, s', memory)) :
    Supplied r.device (({ r with device.memory := memory } : DeviceRun).dropSession id).device ∧
      ({ r.device with memory } : Device).Admits s'.task := by
  have hstore := Session.store_onResponse_of_other hother (r.device.scope setup) r.device.memory bytes
  have htask := (s.isDownload_onResponse (r.device.scope setup) r.device.memory bytes).trans hother
  rw [hstep] at hstore htask
  have hsame : Device.SameSupply r.device
      (({ r with device.memory := memory } : DeviceRun).dropSession id).device :=
    { store := hstore }
  refine ⟨?_, Device.admits_of_other htask⟩
  exact hsame.supplied hf fun _ t ht => hf.downloads _ t (Table.of_get?_erase ht).2

/-- A download that takes a response is the only session, and writes to the store only what it is
    about. -/
theorem supplied_step_download {bytes : Bytes} {result : Except Failure Step} {s' : Session}
    {memory : DeviceMemory} {download : Download} (hf : r.device.Fetching)
    (hs : r.device.sessions.get? id = some s) (halone : r.device.sessions.erase id = {})
    (hwaits : s.state = .waiting) (htask : s.task = .download download)
    (hstep : s.onResponse (r.device.scope setup) r.device.memory bytes = (result, s', memory)) :
    Supplied r.device (({ r with device.memory := memory } : DeviceRun).dropSession id).device ∧
      ∀ out, result = .ok (.send out) → ({ r.device with memory } : Device).Admits s'.task := by
  obtain ⟨hoffers, data, hgathers⟩ := hf.downloads id s hs download htask
  obtain ⟨download', hdownload, rfl⟩ := Session.onResponse_download hwaits htask hstep
  have hsame := Download.sameBut_onResponse hgathers hdownload
  constructor
  · constructor
    case fetching =>
      refine ⟨hf.queued, fun other t ht => ?_⟩
      change (r.device.sessions.erase id).get? other = some t at ht
      rw [halone] at ht
      cases ht
    case offers => exact fun _ => Iff.rfl
    case kept =>
      intro other hunwanted
      refine hsame.others other ?_
      rintro rfl
      exact hunwanted ⟨hoffers, hgathers.held.containsComplete_eq⟩
    case files => exact hsame.files.mono fun _ _ hfile => ⟨download.key, hoffers, hfile⟩
  · rintro out rfl _ ⟨⟩
    cases Download.heard_onResponse hgathers hdownload with
    | next hkey hgathers' =>
      refine ⟨?_, _, hgathers'⟩
      show r.device.registry.Offers download'.key
      rw [hkey]
      exact hoffers

theorem supplied_settle (setup : Setup) (ho : r.device.Orderly) (hstaged : r.device.Staged)
    (hf : r.device.Fetching) (instanceId : UInt8) (request : PendingRequest)
    (message : Option Bytes) :
    Supplied r.device (r.settle setup instanceId request message).device := by
  unfold settle
  split
  · exact hf.supplied
  · split
    · exact hf.supplied
    · rename_i s hs
      split
      · exact supplied_dropSession hf request.session
      · rename_i hkept
        have hwaits : s.state = .waiting := (ho.states _ s hs).resolve_right hkept
        unfold deliver
        split
        · have hdropped := supplied_dropSession hf request.session
          exact hdropped.trans
            (supplied_advance hdropped.fetching fun out hsend => by cases hsend)
        · rename_i bytes _
          obtain ⟨⟨result, s', memory⟩, hstep⟩ :
              ∃ result, s.onResponse (r.device.scope setup) r.device.memory bytes = result :=
            ⟨_, rfl⟩
          rw [hstep]
          cases htask : s.task with
          | negotiation | operation =>
            have hother : s.task.isDownload = false := by
              rw [htask]
              rfl
            obtain ⟨hstepped, hadmits⟩ :=
              supplied_step_other request.session hf hother hstep
            exact hstepped.trans (supplied_advance hstepped.fetching fun _ _ => hadmits)
          | download d =>
            have hpassing : r.device.state ≠ .ready := by
              rw [← hstaged.stage _ s hs, htask]
              exact fun hready => by cases hready
            obtain ⟨hstepped, hadmits⟩ := supplied_step_download hf hs
              (hstaged.alone hs hpassing) hwaits htask hstep
            exact hstepped.trans (supplied_advance hstepped.fetching hadmits)

theorem supplied_round (setup : Setup) (hf : r.device.Fetching) :
    Supplied r.device (r.round setup).device := by
  unfold round
  split
  · exact hf.supplied
  · rename_i id out rest _
    split
    · let r₁ : DeviceRun := { r with device.waiting := rest }
      have hpopped : Supplied r.device r₁.device :=
        Device.SameSupply.supplied_of_same ⟨rfl, rfl, rfl⟩ hf rfl
      refine hpopped.trans ?_
      show Supplied r₁.device (r₁.sendWaiting setup id out).device
      unfold sendWaiting
      split
      · exact hpopped.fetching.supplied
      · split
        · exact hpopped.fetching.supplied
        · rename_i s _ _
          rcases r₁.sendNow_cases id out with ⟨r', heq, hsent⟩ | ⟨e, host, heq, -⟩
          · rw [heq]
            exact hsent.supplied hpopped.fetching
          · rw [heq]
            have hdropped := supplied_dropSession hpopped.fetching id
            have hfailed := supplied_fail (r := ({ r₁ with host } : DeviceRun).dropSession id) setup
              hdropped.fetching id s.task e
            exact hdropped.trans hfailed
    · exact hf.supplied

/-! ## Calls -/

theorem supplied_disable (r : DeviceRun) : Supplied r.device r.disable.device where
  fetching := Device.fetching_of_empty rfl rfl
  offers := fun _ => Iff.rfl
  kept := fun _ _ => rfl
  files := Folder.gains_of_place rfl

theorem supplied_startOperation (setup : Setup) (hf : r.device.Fetching)
    (request : OperationRequest) :
    Supplied r.device (r.startOperation setup request).2.device := by
  unfold startOperation
  split
  · exact hf.supplied
  · split
    · exact hf.supplied
    · have hcounted : Supplied r.device r.counted.device :=
        Device.SameSupply.supplied_of_same ⟨rfl, rfl, rfl⟩ hf rfl
      exact hcounted.trans (supplied_startSession_other setup hcounted.fetching rfl)

theorem supplied_abandon (hf : r.device.Fetching) (id : SessionId) (state : SessionState) :
    Supplied r.device (r.abandon id state).2.device := by
  have habandoned := r.abandoned_abandon id state
  generalize r.abandon id state = result at habandoned
  cases habandoned with
  | ended => exact hf.supplied
  | @marked s _ hs =>
    have hwithdrawn : Supplied r.device (r.withdrawn id).device :=
      Device.SameSupply.supplied_of_same ⟨rfl, rfl, rfl⟩ hf rfl
    exact hwithdrawn.trans (supplied_keepSession (s := { s with state }) hwithdrawn.fetching
      (hwithdrawn.fetching.downloads id s hs) id)
  | forgotten =>
    have hwithdrawn : Supplied r.device (r.withdrawn id).device :=
      Device.SameSupply.supplied_of_same ⟨rfl, rfl, rfl⟩ hf rfl
    exact hwithdrawn.trans (supplied_dropSession hwithdrawn.fetching id)

end DeviceRun

namespace DeviceHistory

open Device (Supplied)

variable {h : DeviceHistory}

/-- Every stride but a refresh keeps what the device does not want. -/
theorem supplied_stride (setup : Setup) (ho : h.run.device.Orderly)
    (hstaged : h.run.device.Staged) (hf : h.run.device.Fetching) {stride : Stride}
    (hstays : stride ≠ .ask .refresh) :
    Supplied h.run.device (h.stride setup stride).run.device := by
  cases stride with
  | round => exact DeviceRun.supplied_round setup hf
  | ask call =>
    cases call with
    | refresh => exact absurd rfl hstays
    | disable => exact h.run.supplied_disable
    | setPayloads payloads => exact Device.SameSupply.supplied_of_same ⟨rfl, rfl, rfl⟩ hf rfl
    | startOperation request =>
      show Supplied _ (h.start (h.run.startOperation setup request)).run.device
      rw [run_start]
      exact DeviceRun.supplied_startOperation setup hf request
    | expire id => exact DeviceRun.supplied_abandon hf id .timedOut
    | cancel id => exact DeviceRun.supplied_abandon hf id .cancelled
    | handleResponse instanceId message =>
      show Supplied _ (h.ask setup (.handleResponse instanceId message)).run.device
      rcases h.run_ask_response setup instanceId message with hsame | ⟨request, hsettle⟩
      · rw [hsame]
        exact hf.supplied
      · have hfreed : Supplied h.run.device (h.run.freed instanceId).device :=
          Device.SameSupply.supplied_of_same ⟨rfl, rfl, rfl⟩ hf rfl
        rw [hsettle]
        exact hfreed.trans (DeviceRun.supplied_settle setup (DeviceRun.orderly_freed ho instanceId)
          (DeviceRun.staged_freed hstaged instanceId) hfreed.fetching instanceId request message)

end DeviceHistory

end DeviceEnablement
