/-
  The order in which a device fetches its dictionaries.

  When a negotiation has ended well the dictionaries that are missing are queued, in the order of their
  resources.  From then on each of them is tried once, whatever becomes of the ones before it, and the
  device is busy until the last download that has begun is over.

  1. `mem_missing_iff`, `missing_eq`, `pairwise_missing`: which dictionaries are missing, and in which
     order.
  2. `Device.Tidy`: nothing is queued unless the device is busy (`Reachable.tidy`).
  3. `Device.Abreast`: the downloads that were tried and the ones that are queued are, in this order,
     those that were wanted; the last one that was tried runs.  `abreast_startDownloads` is the loop that
     looks for a download that can begin, `Advances.abreast` a stride.
  4. `DeviceLog.Collects`: from the end of the negotiation on, stride by stride
     (`Collects.abreast`).  `dictionaries_fetched_in_order`: what comes of it.
-/
import DeviceEnablement.Proofs.Device.Downloads
import DeviceEnablement.Proofs.Resource.Rebuild

namespace DeviceEnablement

/-! ## What is missing -/

/-- Keys in strictly ascending order of their resources are different. -/
theorem DictionaryKey.nodup_of_ascending {keys : List DictionaryKey}
    (h : keys.Pairwise fun a b => a.resourceId < b.resourceId) : keys.Nodup := by
  refine h.imp fun hlt heq => ?_
  rw [heq] at hlt
  exact UInt32.lt_irrefl _ hlt

namespace DeviceRun

variable {d : Device} {key : DictionaryKey}

/-- The missing dictionaries are those that the device wants. -/
theorem mem_missing_iff (hkeyed : d.registry.Keyed) :
    key ∈ missingDictionaries d ↔ d.Wants key := by
  constructor
  · intro hmem
    refine ⟨offers_of_missing hmem, ?_⟩
    simpa using (List.mem_filter.mp hmem).2
  · rintro ⟨⟨resource, hresource, rfl⟩, hlacks⟩
    have hmajor : resource.schemaClass = SchemaClass.major :=
      congrArg DictionaryKey.schemaClass (hkeyed.key_eq hresource)
    refine List.mem_filter.mpr ⟨List.mem_map.mpr ⟨resource, ?_, rfl⟩, ?_⟩
    · exact List.mem_filter.mpr ⟨hresource, decide_eq_true hmajor⟩
    · show (!d.memory.store.containsComplete resource.key) = true
      rw [hlacks]
      rfl

/-- The missing dictionaries are in the order of their resources, one for each. -/
theorem pairwise_missing (hkeyed : d.registry.Keyed) :
    (missingDictionaries d).Pairwise fun a b => a.resourceId < b.resourceId := by
  unfold missingDictionaries
  refine List.Pairwise.filter _ (List.pairwise_map.mpr ?_)
  exact hkeyed.pairwise_resources.filter _

/-- What is missing is told by the ids of the resources. -/
theorem missing_eq (hkeyed : d.registry.Keyed) :
    missingDictionaries d =
      ((d.registry.resources.map Resource.resourceId).map fun id =>
        (⟨id, SchemaClass.major⟩ : DictionaryKey)).filter fun key =>
          !d.memory.store.containsComplete key := by
  have hmajor (resource) (hresource : resource ∈ d.registry.resources) :
      resource.schemaClass = SchemaClass.major :=
    congrArg DictionaryKey.schemaClass (hkeyed.key_eq hresource)
  unfold missingDictionaries
  rw [List.filter_eq_self.mpr fun resource hresource => decide_eq_true (hmajor resource hresource),
    List.map_map]
  exact congrArg _ (List.map_congr_left fun resource hresource => hkeyed.key_eq hresource)

/-- They are queued as they are. -/
theorem mergeSort_missing (hkeyed : d.registry.Keyed) :
    (missingDictionaries d).mergeSort DictionaryKey.le = missingDictionaries d := by
  refine List.mergeSort_of_pairwise ((pairwise_missing hkeyed).imp fun hlt => ?_)
  exact decide_eq_true (Or.inl hlt)

end DeviceRun

/-! ## Tidiness -/

/-- Whether the resources of a device are keyed, and nothing is queued unless the device is busy. -/
structure Device.Tidy (d : Device) : Prop where
  keyed : d.registry.Keyed
  queue : d.state ≠ .busy → d.dictionaryQueue = []

namespace DeviceRun

variable {r r' r₁ : DeviceRun} {setup : Setup} {id : SessionId} {s : Session} {task : SessionTask}
  {o : Option DeviceRun}

theorem tidy_startDownloads (setup : Setup) (keys : List DictionaryKey)
    (hkeyed : r.device.registry.Keyed) : (r.startDownloads setup keys).device.Tidy := by
  induction keys generalizing r with
  | nil => exact ⟨hkeyed, fun _ => rfl⟩
  | cons key rest ih =>
    have hregistry := (({ r with device.dictionaryQueue := rest } : DeviceRun).kept_startSession
      setup (.download key)).2
    unfold startDownloads
    dsimp only
    split
    · exact ih hkeyed
    · split
      · rename_i heq
        rw [heq] at hregistry
        exact ⟨hregistry ▸ hkeyed, fun hidle => absurd rfl hidle⟩
      · rename_i heq
        rw [heq] at hregistry
        exact ih (hregistry ▸ hkeyed)

theorem tidy_nextDictionary (setup : Setup)
    (hstate : r.device.state = .ready ∨ r.device.state = .busy)
    (hkeyed : r.device.registry.Keyed) : (r.nextDictionary setup).device.Tidy := by
  rw [nextDictionary_eq setup hstate]
  exact tidy_startDownloads setup _ hkeyed

theorem SameNeeds.tidy (h : SameNeeds task r r') (htidy : r.device.Tidy) : r'.device.Tidy where
  keyed := h.registry ▸ htidy.keyed
  queue := fun hidle => h.queue.trans (htidy.queue (h.state ▸ hidle))

theorem kept_equipped (r : DeviceRun) (setup : Setup) :
    (r.equipped setup).device.state = .ready ∧
      (r.equipped setup).device.memory.store = r.device.memory.store ∧
      (r.equipped setup).device.nextSession = r.device.nextSession := by
  unfold equipped
  split <;> exact ⟨rfl, rfl, rfl⟩

theorem keyed_equipped (setup : Setup) (hkeyed : r.device.registry.Keyed) :
    (r.equipped setup).device.registry.Keyed := by
  unfold equipped
  split <;> exact hkeyed.setOperations _

theorem Proceeds.tidy (h : Proceeds setup r id task o r') (hstage : task.stage = r.device.state)
    (htidy : r.device.Tidy) : r'.device.Tidy := by
  cases h with
  | onward same => exact same.tidy htidy
  | @rejected r₁ _ hdiscovering same =>
    have hidle : r.device.state ≠ .busy := by
      rw [← hstage, hdiscovering]
      decide
    exact ⟨(same.tidy htidy).keyed, fun _ => same.queue.trans (htidy.queue hidle)⟩
  | reported _ same => exact same.tidy htidy
  | negotiated _ same =>
    exact tidy_nextDictionary setup (Or.inl (kept_equipped _ setup).1)
      (keyed_equipped setup (same.tidy htidy).keyed)
  | ended hbusy same =>
    exact tidy_nextDictionary setup (Or.inr (same.state.trans (hstage.symm.trans hbusy)))
      (same.tidy htidy).keyed

theorem Advances.tidy (h : Advances setup r o r') (hstaged : r.device.Staged)
    (htidy : r.device.Tidy) : r'.device.Tidy := by
  cases h with
  | still state registry queue =>
    exact ⟨registry ▸ htidy.keyed, fun hidle => queue.trans (htidy.queue (state ▸ hidle))⟩
  | session found _ proceeds => exact proceeds.tidy (hstaged.stage _ _ found) htidy

theorem kept_abandon (r : DeviceRun) (id : SessionId) (state : SessionState) :
    (r.abandon id state).2.device.state = r.device.state ∧
      (r.abandon id state).2.device.registry = r.device.registry ∧
      (r.abandon id state).2.device.dictionaryQueue = r.device.dictionaryQueue := by
  have habandoned := r.abandoned_abandon id state
  generalize r.abandon id state = result at habandoned
  cases habandoned with
  | ended | marked | forgotten => exact ⟨rfl, rfl, rfl⟩

theorem tidy_abandon (id : SessionId) (state : SessionState) (htidy : r.device.Tidy) :
    (r.abandon id state).2.device.Tidy := by
  obtain ⟨hstate, hregistry, hqueue⟩ := r.kept_abandon id state
  exact ⟨hregistry ▸ htidy.keyed, fun hidle => hqueue.trans (htidy.queue (hstate ▸ hidle))⟩

theorem tidy_discover (setup : Setup) (hkeyed : r.device.registry.Keyed)
    (hqueue : r.device.dictionaryQueue = []) : (r.discover setup).device.Tidy := by
  let r₁ : DeviceRun := { r with device.state := .discovering }
  have hregistry := (r₁.kept_startSession setup .negotiation).2
  have hkept := (r₁.queues_startSession setup .negotiation).1
  unfold discover
  split
  · rename_i heq
    rw [heq] at hregistry hkept
    exact ⟨hregistry ▸ hkeyed, fun _ => hkept.trans hqueue⟩
  · rename_i heq
    rw [heq] at hregistry hkept
    exact ⟨hregistry ▸ hkeyed, fun _ => hkept.trans hqueue⟩

theorem tidy_refresh (r : DeviceRun) (setup : Setup) : (r.refresh setup).device.Tidy := by
  obtain ⟨registry, hreload, hrefresh⟩ := r.refresh_cases setup
  have hkeyed : registry.Keyed := hreload ▸ r.device.registry.keyed_reload r.device.payloads []
  rcases hrefresh with hrefresh | hrefresh
  · rw [hrefresh]
    exact ⟨hkeyed, fun _ => rfl⟩
  · obtain ⟨store, files, hstores⟩ := (r.cleared registry).stores_eq setup
    rw [hrefresh, hstores]
    exact tidy_discover setup hkeyed rfl

end DeviceRun

namespace DeviceHistory

/-- Every stride keeps a device tidy. -/
theorem tidy_stride {h : DeviceHistory} (setup : Setup) (ho : h.run.device.Orderly)
    (hstaged : h.run.device.Staged) (hf : h.run.device.Fetching) (htidy : h.run.device.Tidy)
    (stride : Stride) : (h.stride setup stride).run.device.Tidy := by
  by_cases hfree : stride.hinders = false
  · exact (advances_stride setup ho hf hfree).tidy hstaged htidy
  · cases stride with
    | round => exact absurd rfl hfree
    | ask call =>
      cases call with
      | refresh => exact h.run.tidy_refresh setup
      | disable => exact ⟨htidy.keyed, fun _ => rfl⟩
      | expire id => exact DeviceRun.tidy_abandon id .timedOut htidy
      | cancel id => exact DeviceRun.tidy_abandon id .cancelled htidy
      | setPayloads | startOperation | handleResponse => exact absurd rfl hfree

end DeviceHistory

namespace DeviceLog

variable {config : Config} {others : DeviceRun → Host → Prop} {host : Host} {l : DeviceLog}

theorem Reachable.tidy (hreachable : Reachable config others host l) : l.run.device.Tidy := by
  refine hreachable.invariant (P := fun l => l.run.device.Tidy) ?_ ?_ fun _ _ _ htidy => htidy
  · exact fun _ _ _ _ _ _ => ⟨Registry.keyed_empty, fun _ => rfl⟩
  · intro l codec stride hl htidy
    exact DeviceHistory.tidy_stride { config, codec } hl.balanced.orderly hl.staged hl.fetching htidy
      stride

/-- How a log advances with a stride that does not hinder the device. -/
theorem Reachable.advances (hreachable : Reachable config others host l) (codec : Codec)
    {stride : Stride} (hfree : stride.hinders = false) :
    DeviceRun.Advances { config, codec } l.run (l.run.due { config, codec } stride)
      (l.take { config, codec } stride).run :=
  l.toDeviceHistory.advances_stride { config, codec } hreachable.balanced.orderly
    hreachable.fetching hfree

end DeviceLog

/-! ## Keeping abreast -/

/-- Whether the downloads that were tried and the ones that are queued are, in this order, those that
    were wanted.  Either all were tried and the device is ready, or it is busy with the last one that
    was tried.  Each has taken the number of a session, `first` being that of the first one. -/
structure Device.Abreast (wanted tried : List DictionaryKey) (first : Nat) (d : Device) : Prop where
  order : tried ++ d.dictionaryQueue = wanted
  lacking : ∀ key ∈ d.dictionaryQueue, d.memory.store.containsComplete key = false
  next : d.nextSession = first + tried.length
  stage : (d.state = .ready ∧ d.dictionaryQueue = []) ∨
    (d.state = .busy ∧ ∃ key id s, tried.getLast? = some key ∧ d.sessions.get? id = some s ∧
      s.state = .waiting ∧ s.task.Fetches key)

theorem SessionTask.Fetches.unique {task : SessionTask} {key key' : DictionaryKey}
    (h : task.Fetches key) (h' : task.Fetches key') : key' = key := by
  obtain ⟨download, rfl, rfl⟩ := h
  obtain ⟨_, ⟨⟩, rfl⟩ := h'
  rfl

namespace DeviceRun

variable {r r' r₁ : DeviceRun} {setup : Setup} {task : SessionTask} {o : Option DeviceRun}
  {wanted tried : List DictionaryKey} {first : Nat}

/-- Going through the queue until a download begins: each key is tried in turn. -/
theorem abreast_startDownloads (setup : Setup) (hnodup : wanted.Nodup)
    {keys : List DictionaryKey} (horder : tried ++ keys = wanted)
    (hlacking : ∀ key ∈ keys, r.device.memory.store.containsComplete key = false)
    (hnext : r.device.nextSession = first + tried.length) :
    (r.startDownloads setup keys).device.Abreast wanted (tried ++ r.attempts setup keys) first := by
  -- Along the keys: the ones that were tried grow by the key in front.
  induction keys generalizing r tried with
  | nil =>
    rw [List.append_nil] at horder
    refine ⟨?_, fun _ hkey => absurd hkey List.not_mem_nil, ?_, Or.inl ⟨rfl, rfl⟩⟩
    · show (tried ++ []) ++ [] = wanted
      rw [List.append_nil, List.append_nil, horder]
    · show r.device.nextSession = first + (tried ++ []).length
      rw [List.append_nil, hnext]
  | cons key rest ih =>
    have horder' : (tried ++ [key]) ++ rest = wanted := by
      rw [List.append_assoc]
      exact horder
    have hlacks := hlacking key List.mem_cons_self
    have hfresh : ∀ other ∈ rest, other ≠ key := by
      rintro other hother rfl
      have hkeys := (List.nodup_append.mp (horder ▸ hnodup)).2.1
      exact (List.nodup_cons.mp hkeys).1 hother
    obtain ⟨htried, hbegun⟩ := tried_startSession (r := { r with device.dictionaryQueue := rest })
      setup hlacks
    unfold startDownloads attempts
    dsimp only
    rw [if_neg (by rw [hlacks]; decide), if_neg (by rw [hlacks]; decide)]
    generalize ({ r with device.dictionaryQueue := rest } : DeviceRun).startSession setup
      (.download key) = result at htried hbegun
    obtain ⟨outcome, r'⟩ := result
    dsimp only at htried
    have hlacking' : ∀ other ∈ rest, r'.device.memory.store.containsComplete other = false := by
      intro other hother
      rw [Store.containsComplete_congr (htried.others other (hfresh other hother))]
      exact hlacking other (List.mem_cons_of_mem _ hother)
    have hnext' : r'.device.nextSession = first + (tried ++ [key]).length := by
      rw [htried.next, List.length_append]
      show r.device.nextSession + 1 = _
      rw [hnext]
      rfl
    cases outcome with
    | error e =>
      have hrest := ih horder' hlacking' hnext'
      rw [List.append_assoc] at hrest
      exact hrest
    | ok id =>
      have hqueue : r'.device.dictionaryQueue = rest := htried.queue
      refine ⟨?_, ?_, hnext',
        Or.inr ⟨rfl, key, id, _, List.getLast?_concat, hbegun id rfl, rfl, _, rfl, rfl⟩⟩
      · show (tried ++ [key]) ++ r'.device.dictionaryQueue = wanted
        rw [hqueue]
        exact horder'
      · show ∀ other ∈ r'.device.dictionaryQueue, _
        rw [hqueue]
        exact hlacking'

theorem abreast_nextDictionary (setup : Setup) (hnodup : wanted.Nodup)
    (hstate : r.device.state = .ready ∨ r.device.state = .busy)
    (horder : tried ++ r.device.dictionaryQueue = wanted)
    (hlacking : ∀ key ∈ r.device.dictionaryQueue,
      r.device.memory.store.containsComplete key = false)
    (hnext : r.device.nextSession = first + tried.length) :
    (r.nextDictionary setup).device.Abreast wanted (tried ++ r.nextAttempts setup) first := by
  rw [nextDictionary_eq setup hstate, nextAttempts_eq setup hstate]
  exact abreast_startDownloads setup hnodup horder hlacking hnext

/-- Each stride keeps a busy device abreast. -/
theorem Advances.abreast (hadvances : Advances setup r o r') (hnodup : wanted.Nodup)
    (hstaged : r.device.Staged) (hbusy : r.device.state = .busy)
    (h : r.device.Abreast wanted tried first) :
    r'.device.Abreast wanted (tried ++ attemptsFrom setup o) first := by
  obtain ⟨-, key, id, s, hlast, hs, hwaits, hfetches⟩ :=
    h.stage.resolve_left fun hready => by cases hbusy.symm.trans hready.1
  cases hadvances with
  | still state registry queue next store kept =>
    show r'.device.Abreast wanted (tried ++ []) first
    rw [List.append_nil]
    constructor
    case order => exact queue.symm ▸ h.order
    case lacking =>
      rw [queue, store]
      exact h.lacking
    case next =>
      refine (next.resolve_left fun hready => ?_).trans h.next
      cases hbusy.symm.trans hready
    case stage =>
      exact Or.inr ⟨state.trans hbusy, key, id, s, hlast, kept id s hs hwaits, hwaits, hfetches⟩
  | @session id' s' _ _ found _ proceeds =>
    -- A busy device has one session only, the download that was tried last.
    obtain rfl : id' = id := by
      have hpassing : r.device.state ≠ .ready := by
        rw [hbusy]
        decide
      have hid := hstaged.latest hpassing id s hs
      have hid' := hstaged.latest hpassing id' s' found
      exact congrArg SessionId.mk (by omega)
    obtain rfl : s = s' := Option.some.inj (hs.symm.trans found)
    have hstage : s.task.stage = .busy := (hstaged.stage id' s hs).trans hbusy
    have hlacking : ∀ r₁, SameNeeds s.task r r₁ → ∀ other ∈ r₁.device.dictionaryQueue,
        r₁.device.memory.store.containsComplete other = false := by
      intro r₁ same other hother
      rw [same.queue] at hother
      rw [Store.containsComplete_congr (same.others other fun hother' => ?_)]
      · exact h.lacking other hother
      · rw [← h.order] at hnodup
        exact (List.nodup_append.mp hnodup).2.2 key (List.mem_of_getLast? hlast) other hother
          (hfetches.unique hother').symm
    cases proceeds with
    | @onward _ s' same found' waits' fetches =>
      show r'.device.Abreast wanted (tried ++ []) first
      rw [List.append_nil]
      exact ⟨same.queue.symm ▸ h.order, hlacking _ same, same.next.trans h.next,
        Or.inr ⟨same.state.trans hbusy, key, id', s', hlast, found', waits', fetches key hfetches⟩⟩
    | rejected hother => cases hstage.symm.trans hother
    | reported hother => cases hstage.symm.trans hother
    | negotiated hother => cases hstage.symm.trans hother
    | ended _ same =>
      exact abreast_nextDictionary setup hnodup (Or.inr (same.state.trans hbusy))
        (same.queue.symm ▸ h.order) (hlacking _ same) (same.next.trans h.next)

/-- A ready device stays so, and tries nothing. -/
theorem Advances.ready (hadvances : Advances setup r o r') (hstaged : r.device.Staged)
    (hready : r.device.state = .ready) : o = none ∧ r'.device.state = .ready := by
  cases hadvances with
  | still state => exact ⟨rfl, state.trans hready⟩
  | @session id s _ _ found _ proceeds =>
    have hstage : s.task.stage = .ready := (hstaged.stage id s found).trans hready
    cases proceeds with
    | onward same => exact ⟨rfl, same.state.trans hready⟩
    | reported _ same => exact ⟨rfl, same.state.trans hready⟩
    | rejected hother => cases hstage.symm.trans hother
    | negotiated hother => cases hstage.symm.trans hother
    | ended hother => cases hstage.symm.trans hother

/-- A device that was discovering and serves now has ended its negotiation, and is equipped. -/
theorem Advances.equipped (hadvances : Advances setup r o r') (hstaged : r.device.Staged)
    (hdiscovering : r.device.state = .discovering)
    (hserves : r'.device.state = .ready ∨ r'.device.state = .busy) :
    ∃ task r₁, task.stage = .discovering ∧ SameNeeds task r r₁ ∧
      o = some (r₁.equipped setup) ∧ r' = (r₁.equipped setup).nextDictionary setup := by
  have hmoved : r'.device.state ≠ .discovering := by
    intro hstays
    rw [hstays] at hserves
    rcases hserves with hserves | hserves <;> cases hserves
  cases hadvances with
  | still state => exact absurd (state.trans hdiscovering) hmoved
  | @session id s _ _ found _ proceeds =>
    have hstage : s.task.stage = .discovering := (hstaged.stage id s found).trans hdiscovering
    cases proceeds with
    | onward same => exact absurd (same.state.trans hdiscovering) hmoved
    | rejected _ _ gone =>
      rcases gone with rfl | rfl <;> rcases hserves with hserves | hserves <;> cases hserves
    | negotiated _ same => exact ⟨s.task, _, hstage, same, rfl, rfl⟩
    | reported hother => cases hstage.symm.trans hother
    | ended hother => cases hstage.symm.trans hother

/-- A negotiation fetches nothing, so it makes no difference to what the device wants. -/
theorem wants_served (hstage : task.stage = .discovering) (hsame : SameNeeds task r r₁)
    (key : DictionaryKey) : r₁.served.device.Wants key ↔ r.device.Wants key := by
  have hoffers : r₁.served.device.registry.Offers key ↔ r.device.registry.Offers key := by
    rw [← hsame.registry]
    exact Registry.offers_setOperations r₁.device.registry r₁.device.supportedOperations key
  have hother : ¬ task.Fetches key := by
    rintro ⟨download, rfl, -⟩
    cases hstage
  have hstore : r₁.served.device.memory.store.containsComplete key =
      r.device.memory.store.containsComplete key :=
    Store.containsComplete_congr (hsame.others key hother)
  exact and_congr hoffers (by rw [hstore])

/-- An equipped device has queued what is missing. -/
theorem queue_equipped (hfetch : setup.config.negotiation.fetchDictionaries = true)
    (hidle : r.device.dictionaryQueue = []) (hkeyed : r.served.device.registry.Keyed) :
    (r.equipped setup).device.dictionaryQueue = missingDictionaries r.served.device := by
  unfold equipped
  rw [if_pos hfetch]
  show r.device.dictionaryQueue ++ (missingDictionaries r.served.device).mergeSort _ = _
  rw [hidle, mergeSort_missing hkeyed]
  rfl

/-- An equipped device is about to try what it wanted before. -/
theorem abreast_equipped (hfetch : setup.config.negotiation.fetchDictionaries = true)
    (htidy : r.device.Tidy) (hdiscovering : r.device.state = .discovering)
    (hstage : task.stage = .discovering) (hsame : SameNeeds task r r₁) :
    ∃ wanted : List DictionaryKey, wanted.Pairwise (fun a b => a.resourceId < b.resourceId) ∧
      (∀ key, key ∈ wanted ↔ r.device.Wants key) ∧
      ((r₁.equipped setup).nextDictionary setup).device.Abreast wanted
        ((r₁.equipped setup).nextAttempts setup) r.device.nextSession := by
  have hidle : r.device.dictionaryQueue = [] := htidy.queue (by rw [hdiscovering]; decide)
  have hkeyed : r₁.served.device.registry.Keyed :=
    (hsame.tidy htidy).keyed.setOperations r₁.device.supportedOperations
  have hpairwise := pairwise_missing hkeyed
  have hqueue := queue_equipped hfetch (hsame.queue.trans hidle) hkeyed
  obtain ⟨hready, hstore, hnext⟩ := r₁.kept_equipped setup
  have hlacking : ∀ key ∈ (r₁.equipped setup).device.dictionaryQueue,
      (r₁.equipped setup).device.memory.store.containsComplete key = false := by
    intro key hkey
    rw [hqueue, mem_missing_iff hkeyed] at hkey
    rw [hstore]
    exact hkey.2
  have horder : [] ++ (r₁.equipped setup).device.dictionaryQueue =
      missingDictionaries r₁.served.device := hqueue
  refine ⟨missingDictionaries r₁.served.device, hpairwise,
    fun key => (mem_missing_iff hkeyed).trans (wants_served hstage hsame key), ?_⟩
  exact abreast_nextDictionary setup (DictionaryKey.nodup_of_ascending hpairwise) (Or.inl hready)
    horder hlacking (hnext.trans hsame.next)

end DeviceRun

/-! ## From the end of a negotiation on -/

/-- No stride that hinders a device ends its negotiation. -/
theorem DeviceHistory.free_of_serves {h : DeviceHistory} {setup : Setup} {stride : Stride}
    (hdiscovering : h.run.device.state = .discovering)
    (hserves : (h.stride setup stride).run.device.state = .ready ∨
      (h.stride setup stride).run.device.state = .busy) : stride.hinders = false := by
  have habandoned : ∀ id state, ¬ ((h.run.abandon id state).2.device.state = .ready ∨
      (h.run.abandon id state).2.device.state = .busy) := by
    intro id state
    rw [(h.run.kept_abandon id state).1, hdiscovering]
    decide
  cases stride with
  | round => rfl
  | ask call =>
    cases call with
    | setPayloads | startOperation | handleResponse => rfl
    | disable => rcases hserves with hserves | hserves <;> cases hserves
    | expire id => exact absurd hserves (habandoned id .timedOut)
    | cancel id => exact absurd hserves (habandoned id .cancelled)
    | refresh =>
      have hrenewed := h.run.renewed_refresh setup
      change (h.run.refresh setup).device.state = .ready ∨
        (h.run.refresh setup).device.state = .busy at hserves
      generalize h.run.refresh setup = r at hrenewed hserves
      cases hrenewed with
      | unready => rcases hserves with hserves | hserves <;> cases hserves
      | negotiating _ hlaunched =>
        obtain ⟨s, -, -, -, hbegins⟩ := hlaunched.begins
        rw [hbegins.state] at hserves
        rcases hserves with hserves | hserves <;> cases hserves

namespace DeviceLog

/-- One step in which nothing hinders the device. -/
inductive FreeStep (config : Config) (others : DeviceRun → Host → Prop) :
    DeviceLog → DeviceLog → Prop
  | taken (l : DeviceLog) (codec : Codec) (stride : Stride) (free : stride.hinders = false) :
      FreeStep config others l (l.take { config, codec } stride)
  | elsewhere (l : DeviceLog) {host : Host} (allowed : others l.run host) :
      FreeStep config others l { l with run.host := host }

/-- Any number of steps in which nothing hinders the device. -/
abbrev FreeSteps (config : Config) (others : DeviceRun → Host → Prop) :
    DeviceLog → DeviceLog → Prop :=
  Relation.ReflTransGen (FreeStep config others)

/-- Whether a negotiation ends well in `l`, and then the device fetches dictionaries up to `l'` without
    being hindered.  `tried` are the downloads that it tries meanwhile, in order. -/
inductive Collects (config : Config) (others : DeviceRun → Host → Prop) (l : DeviceLog) :
    List DictionaryKey → DeviceLog → Prop
  | negotiated (codec : Codec) (stride : Stride)
      (discovering : l.run.device.state = .discovering)
      (serves : (l.take { config, codec } stride).run.device.state = .ready ∨
        (l.take { config, codec } stride).run.device.state = .busy) :
      Collects config others l (l.run.attempted { config, codec } stride)
        (l.take { config, codec } stride)
  | taken {tried : List DictionaryKey} {l' : DeviceLog} (before : Collects config others l tried l')
      (busy : l'.run.device.state = .busy) (codec : Codec) (stride : Stride)
      (free : stride.hinders = false) :
      Collects config others l (tried ++ l'.run.attempted { config, codec } stride)
        (l'.take { config, codec } stride)
  | elsewhere {tried : List DictionaryKey} {l' : DeviceLog}
      (before : Collects config others l tried l') {host : Host} (allowed : others l'.run host) :
      Collects config others l tried { l' with run.host := host }

variable {config : Config} {others : DeviceRun → Host → Prop} {host : Host} {l l' : DeviceLog}
  {tried : List DictionaryKey}

theorem FreeStep.step (hfree : FreeStep config others l l') : Step config others l l' := by
  cases hfree with
  | taken codec stride => exact .taken l codec stride
  | elsewhere allowed => exact .elsewhere l allowed

theorem FreeSteps.steps (hfree : FreeSteps config others l l') : Steps config others l l' :=
  Relation.ReflTransGen.mono (fun _ _ => FreeStep.step) _ _ hfree

theorem Collects.steps (hcollects : Collects config others l tried l') :
    Steps config others l l' := by
  induction hcollects with
  | negotiated codec stride => exact .single (.taken l codec stride)
  | @taken _ l' _ _ codec stride _ ih => exact ih.tail (.taken l' codec stride)
  | @elsewhere _ l' _ _ hallowed ih => exact ih.tail (.elsewhere l' hallowed)

/-- A device that fetches dictionaries keeps abreast of what it wanted when its negotiation ended. -/
theorem Collects.abreast (hreachable : Reachable config others host l)
    (hfetch : config.negotiation.fetchDictionaries = true)
    (hcollects : Collects config others l tried l') :
    ∃ wanted : List DictionaryKey, wanted.Pairwise (fun a b => a.resourceId < b.resourceId) ∧
      (∀ key, key ∈ wanted ↔ l.run.device.Wants key) ∧
      l'.run.device.Abreast wanted tried l.run.device.nextSession := by
  induction hcollects with
  | negotiated codec stride hdiscovering hserves =>
    have hadvances := hreachable.advances codec
      (DeviceHistory.free_of_serves (h := l.toDeviceHistory) hdiscovering hserves)
    obtain ⟨task, r₁, hstage, hsame, hdue, hrun⟩ :=
      hadvances.equipped hreachable.staged hdiscovering hserves
    unfold DeviceRun.attempted
    rw [hdue, hrun]
    exact DeviceRun.abreast_equipped hfetch hreachable.tidy hdiscovering hstage hsame
  | @taken tried l' hbefore hbusy codec stride hfree ih =>
    obtain ⟨wanted, hpairwise, hwants, habreast⟩ := ih
    have hreached := hreachable.steps hbefore.steps
    have hnodup : wanted.Nodup := DictionaryKey.nodup_of_ascending hpairwise
    exact ⟨wanted, hpairwise, hwants,
      (hreached.advances codec hfree).abreast hnodup hreached.staged hbusy habreast⟩
  | elsewhere _ _ ih =>
    obtain ⟨wanted, hpairwise, hwants, habreast⟩ := ih
    exact ⟨wanted, hpairwise, hwants, habreast.order, habreast.lacking, habreast.next,
      habreast.stage⟩

/-- A device that is ready stays so as long as nothing hinders it. -/
theorem Reachable.ready_of_free (hreachable : Reachable config others host l)
    (hready : l.run.device.state = .ready) (hfree : FreeSteps config others l l') :
    l'.run.device.state = .ready := by
  induction hfree with
  | refl => exact hready
  | @tail l₁ l₂ hbefore hstep ih =>
    have hreached := hreachable.steps (FreeSteps.steps hbefore)
    cases hstep with
    | taken codec stride hfree =>
      exact ((hreached.advances codec hfree).ready hreached.staged ih).2
    | elsewhere => exact ih

/-- A device that is ready tries no download as long as nothing hinders it. -/
theorem Reachable.attempted_of_ready (hreachable : Reachable config others host l)
    (hready : l.run.device.state = .ready) (codec : Codec) {stride : Stride}
    (hfree : stride.hinders = false) : l.run.attempted { config, codec } stride = [] := by
  unfold DeviceRun.attempted
  rw [((hreachable.advances codec hfree).ready hreachable.staged hready).1]
  rfl

/-- From the end of a negotiation on, as long as nothing hinders the device, whichever downloads succeed,
    fail or cannot be sent: the downloads that are tried, together with those that are left, are one for
    each resource whose dictionary was not complete, in ascending order of the resources.  What is left
    is still not complete.  Each attempt takes the number of a session, and nothing else does.  Until the
    last download that has begun is over the device is busy with the one that was tried last, which is
    its only session; then it is ready, nothing is left, and it stays ready and tries nothing more. -/
theorem dictionaries_fetched_in_order (hreachable : Reachable config others host l)
    (hfetch : config.negotiation.fetchDictionaries = true)
    (hcollects : Collects config others l tried l') :
    ∃ left : List DictionaryKey,
      (tried ++ left).Pairwise (fun a b => a.resourceId < b.resourceId) ∧
      (∀ key, key ∈ tried ++ left ↔
        (∃ resource ∈ l.run.device.registry.resources,
          key = ⟨resource.resourceId, SchemaClass.major⟩) ∧
        l.run.device.memory.store.containsComplete key = false) ∧
      (∀ key ∈ left, l'.run.device.memory.store.containsComplete key = false) ∧
      l'.run.device.nextSession = l.run.device.nextSession + tried.length ∧
      ((l'.run.device.state = .busy ∧
          ∃ key id s, tried.getLast? = some key ∧ l'.run.device.sessions.get? id = some s ∧
            s.state = .waiting ∧ s.task.Fetches key ∧
            ∀ other t, l'.run.device.sessions.get? other = some t → other = id) ∨
        (l'.run.device.state = .ready ∧ left = [] ∧
          ∀ l'', FreeSteps config others l' l'' →
            l''.run.device.state = .ready ∧
            (∀ id s, l''.run.device.sessions.get? id = some s → s.task.isDownload = false) ∧
            ∀ codec stride, stride.hinders = false →
              l''.run.attempted { config, codec } stride = [])) := by
  obtain ⟨wanted, hpairwise, hwants, horder, hlacking, hnext, hstage⟩ :=
    hcollects.abreast hreachable hfetch
  have hreached := hreachable.steps hcollects.steps
  refine ⟨l'.run.device.dictionaryQueue, horder.symm ▸ hpairwise, fun key => ?_, hlacking, hnext, ?_⟩
  · rw [horder, hwants]
    refine and_congr_left fun _ => exists_congr fun resource => and_congr_right fun hresource => ?_
    rw [hreachable.tidy.keyed.key_eq hresource]
    exact eq_comm
  · rcases hstage with ⟨hready, hidle⟩ | ⟨hbusy, key, id, s, hlast, hs, hwaits, hfetches⟩
    · refine Or.inr ⟨hready, hidle, fun l'' hfree => ?_⟩
      have hready' := hreached.ready_of_free hready hfree
      have hreached' := hreached.steps (FreeSteps.steps hfree)
      refine ⟨hready', fun id s hs => ?_, fun codec _ => hreached'.attempted_of_ready hready' codec⟩
      rw [SessionTask.isDownload_eq, hreached'.staged.stage id s hs, hready']
      rfl
    · refine Or.inl ⟨hbusy, key, id, s, hlast, hs, hwaits, hfetches, fun other t ht => ?_⟩
      have hpassing : l'.run.device.state ≠ .ready := by
        rw [hbusy]
        decide
      have hid := hreached.staged.latest hpassing id s hs
      have hother := hreached.staged.latest hpassing other t ht
      exact congrArg SessionId.mk (by omega)

/-! ## A device with three resources -/

/-- The folder of a device that keeps the dictionary of resource 2. -/
def stockedFolder : Folder :=
  { place := .listed [("dictionary_2_0.bin",
      .file (Dictionary.ofContent ⟨2, 0⟩ "dictionary_2_0.bin" [7]).encode)] }

/-- The negotiation of `readingCalls`, a download that gets no response, and one that ends well. -/
def fetchingCalls : List DeviceCall :=
  readingCalls.take 3 ++
    [.handleResponse 2 none,
      .handleResponse 3 (some [3, 6, 3, 0, 0, 7, 0, 0, 0]),
      .handleResponse 4 (some [4, 6, 49, 0, 3, 0, 0, 0, 0, 5, 0, 0, 0, 2, 0, 0, 0, 0])]

/-- The log of the first of these calls. -/
def fetchingLog (n : Nat) : DeviceLog :=
  (found annotatedSetup 8 1 ⟨0⟩
    [Registry.samplePayload 2 66, Registry.samplePayload 1 65, []] stockedFolder
    { files := { content := fun _ _ => some [1] } }).takeAll
    annotatedSetup ((fetchingCalls.take n).map .ask)

theorem reachable_fetchingLog (others : DeviceRun → Host → Prop) (n : Nat) :
    Reachable annotatedSetup.config others { files := { content := fun _ _ => some [1] } }
      (fetchingLog n) :=
  ⟨annotatedSetup.codec, 8, 1, ⟨0⟩,
    [Registry.samplePayload 2 66, Registry.samplePayload 1 65, []], stockedFolder,
    steps_takeAll others _ annotatedSetup _⟩

/-- The response that ends the negotiation. -/
def negotiatedStride : Stride := .ask (.handleResponse 1 (some [1, 6, 2, 0, 0, 4, 0, 0]))

/-- The run in which the negotiation has ended and the first dictionary is due. -/
def equippedRun : DeviceRun :=
  ((fetchingLog 2).run.due annotatedSetup negotiatedStride).get (by decide +kernel)

theorem registry_equippedRun :
    equippedRun.device.registry = (Registry.ofRecords Registry.swappedRecords []).setOperations
      equippedRun.device.supportedOperations := rfl

theorem resources_equippedRun :
    equippedRun.device.registry.resources.map Resource.resourceId = [1, 2, 9] := by
  rw [registry_equippedRun, Registry.resources_setOperations, List.map_map]
  exact (Registry.map_resourceId_ofRecords _ _).trans Registry.ascending_swappedRecords

/-- The dictionary that is kept is not queued. -/
theorem queue_equippedRun : equippedRun.device.dictionaryQueue = [⟨1, 0⟩, ⟨9, 0⟩] := by
  -- Sorting does not reduce by computation, so the queue is named here and the run goes on from there.
  have hkeyed : equippedRun.device.registry.Keyed :=
    (Registry.keyed_ofRecords Registry.swappedRecords []).setOperations _
  have hqueue : equippedRun.device.dictionaryQueue =
      (DeviceRun.missingDictionaries equippedRun.device).mergeSort DictionaryKey.le := rfl
  rw [hqueue, DeviceRun.mergeSort_missing hkeyed, DeviceRun.missing_eq hkeyed, resources_equippedRun]
  decide +kernel

/-- The run in which what was queued is being fetched. -/
def fetchingRun : DeviceRun := equippedRun.startDownloads annotatedSetup [⟨1, 0⟩, ⟨9, 0⟩]

theorem run_fetchingLog : (fetchingLog 3).run = fetchingRun := by
  have hready : equippedRun.device.state = .ready := by decide +kernel
  have hrun : (fetchingLog 3).run = equippedRun.nextDictionary annotatedSetup := rfl
  rw [hrun, DeviceRun.nextDictionary_eq annotatedSetup (Or.inl hready), queue_equippedRun]
  rfl

/-- The run after `n` more calls. -/
def fetchedRun (n : Nat) : DeviceRun :=
  (DeviceHistory.walk ⟨fetchingRun, (fetchingLog 3).ledger⟩ annotatedSetup
    (((fetchingCalls.drop 3).take n).map .ask)).run

theorem run_fetchedLog (n : Nat) : (fetchingLog (3 + n)).run = fetchedRun n := by
  have hstart : (fetchingLog 3).toDeviceHistory = ⟨fetchingRun, (fetchingLog 3).ledger⟩ := by
    rw [← run_fetchingLog]
  unfold fetchedRun
  rw [← hstart, ← toDeviceHistory_takeAll]
  unfold fetchingLog takeAll
  rw [List.take_add, List.map_append, List.foldl_append]

theorem attempted_negotiatedStride :
    (fetchingLog 2).run.attempted annotatedSetup negotiatedStride = [⟨1, 0⟩] := by
  have hready : equippedRun.device.state = .ready := by decide +kernel
  have hdue : (fetchingLog 2).run.due annotatedSetup negotiatedStride = some equippedRun :=
    (Option.some_get _).symm
  unfold DeviceRun.attempted
  rw [hdue]
  show equippedRun.nextAttempts annotatedSetup = _
  rw [DeviceRun.nextAttempts_eq annotatedSetup (Or.inl hready), queue_equippedRun]
  decide +kernel

/-- One more call, and the downloads that are tried with it. -/
theorem collects_fetchedLog_succ {others : DeviceRun → Host → Prop} {n : Nat} {call : DeviceCall}
    {tried keys : List DictionaryKey}
    (hbefore : Collects annotatedSetup.config others (fetchingLog 2) tried (fetchingLog (3 + n)))
    (hcall : fetchingCalls[3 + n]? = some call) (hfree : (Stride.ask call).hinders = false)
    (hbusy : (fetchedRun n).device.state = .busy)
    (hkeys : (fetchedRun n).attempted annotatedSetup (.ask call) = keys) :
    Collects annotatedSetup.config others (fetchingLog 2) (tried ++ keys)
      (fetchingLog (3 + (n + 1))) := by
  have hnext : fetchingLog (3 + (n + 1)) = (fetchingLog (3 + n)).take annotatedSetup (.ask call) := by
    unfold fetchingLog takeAll
    rw [← Nat.add_assoc, List.take_add_one, hcall, List.map_append, List.foldl_append]
    rfl
  rw [← run_fetchedLog] at hbusy hkeys
  rw [hnext, ← hkeys]
  exact hbefore.taken hbusy annotatedSetup.codec (.ask call) hfree

/-- The downloads of 1 and 9 are tried, the second one as soon as the first one has failed. -/
theorem collects_fetchedLog (others : DeviceRun → Host → Prop) :
    Collects annotatedSetup.config others (fetchingLog 2) [⟨1, 0⟩, ⟨9, 0⟩] (fetchingLog 4) ∧
      Collects annotatedSetup.config others (fetchingLog 2) [⟨1, 0⟩, ⟨9, 0⟩] (fetchingLog 6) := by
  have hbusy : (fetchingLog 3).run.device.state = .busy := by
    rw [run_fetchingLog]
    decide +kernel
  have hnegotiated : Collects annotatedSetup.config others (fetchingLog 2) [⟨1, 0⟩] (fetchingLog 3) :=
    attempted_negotiatedStride ▸
      .negotiated annotatedSetup.codec negotiatedStride (by decide +kernel) (Or.inr hbusy)
  have hfailed : Collects annotatedSetup.config others (fetchingLog 2) ([⟨1, 0⟩] ++ [⟨9, 0⟩])
      (fetchingLog (3 + 1)) :=
    collects_fetchedLog_succ hnegotiated rfl rfl (by decide +kernel) (by decide +kernel)
  have hreceiving : Collects annotatedSetup.config others (fetchingLog 2) ([⟨1, 0⟩, ⟨9, 0⟩] ++ [])
      (fetchingLog (3 + 2)) :=
    collects_fetchedLog_succ hfailed rfl rfl (by decide +kernel) (by decide +kernel)
  have hfetched : Collects annotatedSetup.config others (fetchingLog 2) ([⟨1, 0⟩, ⟨9, 0⟩] ++ [])
      (fetchingLog (3 + 3)) :=
    collects_fetchedLog_succ hreceiving rfl rfl (by decide +kernel) (by decide +kernel)
  exact ⟨hfailed, hfetched⟩

/-- Of three resources the second one has its dictionary.  That of the first one is tried and gets no
    response; then the device is busy with that of the third one, which is fetched.  The first one is
    still missing, and it is not tried again. -/
theorem dictionaries_fetched_in_order_unanswered :
    (fetchingLog 2).run.device.registry.resources.map Resource.resourceId = [1, 2, 9] ∧
    (∀ key, key = ⟨1, 0⟩ ∨ key = ⟨9, 0⟩ ↔
      (∃ resource ∈ (fetchingLog 2).run.device.registry.resources,
        key = ⟨resource.resourceId, SchemaClass.major⟩) ∧
      (fetchingLog 2).run.device.memory.store.containsComplete key = false) ∧
    (fetchingLog 2).run.attempted annotatedSetup negotiatedStride = [⟨1, 0⟩] ∧
    ((fetchingLog 4).run.device.state = .busy ∧
      ∃ id s, (fetchingLog 4).run.device.sessions.get? id = some s ∧ s.task.Fetches ⟨9, 0⟩ ∧
        ∀ other t, (fetchingLog 4).run.device.sessions.get? other = some t → other = id) ∧
    (fetchingLog 6).run.device.nextSession = (fetchingLog 2).run.device.nextSession + 2 ∧
    (fetchingLog 6).run.device.memory.store.containsComplete ⟨1, 0⟩ = false ∧
    (fetchingLog 6).run.device.memory.store.containsComplete ⟨9, 0⟩ = true ∧
    ∀ l'', FreeSteps annotatedSetup.config DeviceRun.LeftAlone (fetchingLog 6) l'' →
      l''.run.device.state = .ready ∧
      l''.run.attempted annotatedSetup (.ask (.handleResponse 5 none)) = [] := by
  have hreachable := reachable_fetchingLog DeviceRun.LeftAlone 2
  obtain ⟨hfailed, hfetched⟩ := collects_fetchedLog DeviceRun.LeftAlone
  have hrun₄ : (fetchingLog 4).run = fetchedRun 1 := run_fetchedLog 1
  have hrun₆ : (fetchingLog 6).run = fetchedRun 3 := run_fetchedLog 3
  have hbusy : (fetchingLog 4).run.device.state = .busy := by
    rw [hrun₄]
    decide +kernel
  have hready : (fetchingLog 6).run.device.state = .ready := by
    rw [hrun₆]
    decide +kernel
  have hids : (fetchingLog 2).run.device.registry.resources.map Resource.resourceId = [1, 2, 9] :=
    (Registry.map_resourceId_ofRecords _ _).trans Registry.ascending_swappedRecords
  obtain ⟨-, -, -, -, -, ⟨-, key, id, s, hlast, hs, -, hfetches, halone⟩ | ⟨hdone, -⟩⟩ :=
    dictionaries_fetched_in_order hreachable rfl hfailed
  case inr => cases hbusy.symm.trans hdone
  obtain ⟨left, -, hmem, -, hnext, ⟨hstill, -⟩ | ⟨-, hnone, hstays⟩⟩ :=
    dictionaries_fetched_in_order hreachable rfl hfetched
  case inl => cases hready.symm.trans hstill
  cases hlast
  subst hnone
  refine ⟨hids, fun key => ?_, attempted_negotiatedStride, ⟨hbusy, id, s, hs, hfetches, halone⟩,
    hnext, ?_, ?_, fun l'' hfree => ?_⟩
  · rw [← hmem key]
    simp
  · rw [hrun₆]
    decide +kernel
  · rw [hrun₆]
    decide +kernel
  · obtain ⟨hready', -, hnothing⟩ := hstays l'' hfree
    exact ⟨hready', hnothing annotatedSetup.codec _ rfl⟩

end DeviceLog

end DeviceEnablement
