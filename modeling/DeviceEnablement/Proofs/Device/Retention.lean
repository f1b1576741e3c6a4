/-
  Complete dictionaries are never lost.

  1. `DeviceRun.Renews`: a refresh leaves what was there under each key, or takes a complete dictionary
     from a file that it may read (`renews_refresh`).
  2. `Reachable.fetching`, `Reachable.supplied_perform`: from the strides to the calls.
  3. `CalmSteps`: steps without a refresh, in which nothing changes that the device does not want
     (`Reachable.supplied_calm`).
  4. `dictionaries_kept`: what comes of it for a whole history.
-/
import DeviceEnablement.Proofs.Device.Dictionaries

namespace DeviceEnablement

namespace DeviceRun

open Device (Supplied)

variable {r : DeviceRun} {s : Session}

/-! ## Refreshing -/

/-- A session that is no download begins without any effect on the store. -/
theorem store_startSession_of_other (hother : s.task.isDownload = false) (r : DeviceRun)
    (setup : Setup) :
    (r.startSession setup s).2.device.memory.store = r.device.memory.store := by
  rw [(r.kept_startSession setup s).1]
  exact Session.store_start_of_other hother _ _

/-- Whether a refresh may read this dictionary from a file: that of the annotations, or one that is
    kept in the folder of the device. -/
def Readable (r : DeviceRun) (setup : Setup) (d : Dictionary) : Prop :=
  (∃ path data, setup.config.storage.annotationDictionary = some path ∧
    (r.host.files.read path).1 = some data ∧
    d = .ofContent .reserved DictionaryKey.reserved.fileName data) ∨
  d.KeptIn r.device.memory.store.folder

/-- Whether `store` holds under each key what the device holds, or a complete dictionary that a refresh
    reads from a file. -/
def Renews (r : DeviceRun) (setup : Setup) (store : Store) : Prop :=
  ∀ key, store.get? key = r.device.memory.store.get? key ∨
    ∃ d, store.get? key = some d ∧ d.key = key ∧ d.complete = true ∧ r.Readable setup d

theorem renews_loadAnnotations (r : DeviceRun) (setup : Setup) :
    r.Renews setup (r.loadAnnotations setup).device.memory.store := by
  intro key
  unfold loadAnnotations
  split
  · exact Or.inl rfl
  · rename_i path hpath
    obtain ⟨⟨content, files⟩, hread⟩ : ∃ result, r.host.files.read path = result := ⟨_, rfl⟩
    rw [hread]
    dsimp only
    rcases r.device.memory.store.loadAnnotations_cases path content with hsame | ⟨data, rfl, hput⟩
    · rw [hsame]
      exact Or.inl rfl
    · rw [hput, Store.get?_insert]
      split
      · rename_i hkey
        exact Or.inr ⟨_, rfl, hkey.symm, rfl, Or.inl ⟨path, data, hpath, by rw [hread], rfl⟩⟩
      · exact Or.inl rfl

theorem place_loadAnnotations (r : DeviceRun) (setup : Setup) :
    (r.loadAnnotations setup).device.memory.store.folder.place =
      r.device.memory.store.folder.place := by
  unfold loadAnnotations
  split
  · rfl
  · rename_i path _
    obtain ⟨⟨content, files⟩, hread⟩ : ∃ result, r.host.files.read path = result := ⟨_, rfl⟩
    rw [hread]
    dsimp only
    rcases r.device.memory.store.loadAnnotations_cases path content with hsame | ⟨data, -, hput⟩
    · rw [hsame]
    · rw [hput]
      rfl

theorem renews_stores (r : DeviceRun) (setup : Setup) :
    r.Renews setup (((r.loadAnnotations setup).loadPersisted).dumpRegistry
      setup).device.memory.store := by
  have hdumped : ∀ (r : DeviceRun) (key : DictionaryKey),
      (r.dumpRegistry setup).device.memory.store.get? key = r.device.memory.store.get? key := by
    intro r key
    unfold dumpRegistry
    split <;> rfl
  have hreread := (r.loadAnnotations setup).device.memory.store.rereads_loadPersisted
  intro key
  rw [hdumped]
  rcases hreread.found key with hsame | ⟨d, hfound, hkey, hcomplete, hkept⟩
  · rw [show (r.loadAnnotations setup).loadPersisted.device.memory.store.get? key =
      (r.loadAnnotations setup).device.memory.store.get? key from hsame]
    exact r.renews_loadAnnotations setup key
  · exact Or.inr ⟨d, hfound, hkey, hcomplete, Or.inr (hkept.of_place (r.place_loadAnnotations setup))⟩

theorem store_discover (r : DeviceRun) (setup : Setup) :
    (r.discover setup).device.memory.store = r.device.memory.store := by
  have hstore := store_startSession_of_other (s := .negotiation) rfl
    ({ r with device.state := .discovering } : DeviceRun) setup
  unfold discover
  split
  · rename_i heq
    rw [heq] at hstore
    exact hstore
  · rename_i heq
    rw [heq] at hstore
    exact hstore

/-- A refresh leaves what was there, or reads it anew from a file. -/
theorem renews_refresh (r : DeviceRun) (setup : Setup) :
    r.Renews setup (r.refresh setup).device.memory.store := by
  obtain ⟨registry, -, hrefresh | hrefresh⟩ := r.refresh_cases setup
  · rw [hrefresh]
    exact fun key => Or.inl rfl
  · rw [hrefresh, store_discover]
    exact renews_stores (r.cleared registry) setup

theorem supplied_discover (setup : Setup) (hf : r.device.Fetching) :
    Supplied r.device (r.discover setup).device := by
  let r₁ : DeviceRun := { r with device.state := .discovering }
  have hturned : Supplied r.device r₁.device := Device.SameSupply.supplied_of_same {} hf rfl
  have hstarted := supplied_startSession_other (s := .negotiation) setup hturned.fetching rfl
  unfold discover
  split
  · rename_i heq
    rw [heq] at hstarted
    exact hturned.trans hstarted
  · rename_i r₂ heq
    rw [heq] at hstarted
    have hended : Supplied r₂.device { r₂.device with state := .notReady } :=
      Device.SameSupply.supplied_of_same {} hstarted.fetching rfl
    exact hturned.trans (hstarted.trans hended)

/-- While the stores are reloaded nothing is fetched. -/
theorem fetching_stores (r : DeviceRun) (setup : Setup) (registry : Registry) :
    (((((r.cleared registry).loadAnnotations setup).loadPersisted).dumpRegistry
      setup).device).Fetching := by
  obtain ⟨store, files, hstores⟩ := (r.cleared registry).stores_eq setup
  rw [hstores]
  exact Device.fetching_of_empty rfl rfl

/-- After a refresh nothing is fetched yet. -/
theorem fetching_refresh (r : DeviceRun) (setup : Setup) : (r.refresh setup).device.Fetching := by
  obtain ⟨registry, -, hrefresh | hrefresh⟩ := r.refresh_cases setup
  · rw [hrefresh]
    exact Device.fetching_of_empty rfl rfl
  · rw [hrefresh]
    exact (supplied_discover setup (r.fetching_stores setup registry)).fetching

end DeviceRun

/-! ## Histories -/

namespace DeviceLog

variable {config : Config} {others : DeviceRun → Host → Prop} {host : Host} {l : DeviceLog}

/-- A device never fetches more than it lacks. -/
theorem Reachable.fetching (hreachable : Reachable config others host l) :
    l.run.device.Fetching := by
  refine hreachable.invariant (P := fun l => l.run.device.Fetching) ?_ ?_ fun _ _ _ hf => hf
  · exact fun _ _ _ _ _ _ => Device.fetching_of_empty rfl rfl
  · intro l codec stride hl hf
    by_cases hrefresh : stride = .ask .refresh
    · subst hrefresh
      exact l.run.fetching_refresh { config, codec }
    · exact (DeviceHistory.supplied_stride { config, codec } hl.balanced.orderly hl.staged hf
        hrefresh).fetching

theorem Reachable.supplied_takeAll (hreachable : Reachable config others host l) (codec : Codec)
    (strides : List Stride) (hstays : ∀ stride ∈ strides, stride ≠ .ask .refresh) :
    Device.Supplied l.run.device (l.takeAll { config, codec } strides).run.device := by
  induction strides generalizing l with
  | nil => exact hreachable.fetching.supplied
  | cons stride rest ih =>
    have hfirst := DeviceHistory.supplied_stride { config, codec } hreachable.balanced.orderly
      hreachable.staged hreachable.fetching (hstays stride List.mem_cons_self)
    have hrest := ih (hreachable.steps (.single (.taken l codec stride)))
      fun other hother => hstays other (List.mem_cons_of_mem _ hother)
    exact hfirst.trans hrest

end DeviceLog

namespace DeviceHistory

variable {config : Config} {others : DeviceRun → Host → Prop} {host : Host}
  {h h' : DeviceHistory} {key : DictionaryKey} {d : Dictionary}

theorem Reachable.fetching (hreachable : Reachable config others host h) :
    h.run.device.Fetching := by
  obtain ⟨l, hl, rfl⟩ := DeviceLog.logged_of_reachable hreachable
  exact hl.fetching

/-- Every call but a refresh keeps what the device does not want. -/
theorem Reachable.supplied_perform (hreachable : Reachable config others host h) (codec : Codec)
    {call : DeviceCall} (hstays : call ≠ .refresh) :
    Device.Supplied h.run.device (h.perform { config, codec } call).run.device := by
  obtain ⟨l, hl, rfl⟩ := DeviceLog.logged_of_reachable hreachable
  obtain ⟨n, hwalk⟩ := l.toDeviceHistory.perform_strides { config, codec } call
  have htaken := hl.supplied_takeAll codec (.ask call :: List.replicate n .round) fun stride hmem => by
    rcases List.mem_cons.mp hmem with rfl | hround
    · exact fun heq => hstays (Stride.ask.inj heq)
    · rw [List.eq_of_mem_replicate hround]
      exact fun heq => by cases heq
  rw [hwalk, ← DeviceLog.toDeviceHistory_takeAll]
  exact htaken

/-- One step in which the device is not refreshed. -/
inductive CalmStep (config : Config) (others : DeviceRun → Host → Prop) :
    DeviceHistory → DeviceHistory → Prop
  | call (h : DeviceHistory) (codec : Codec) (call : DeviceCall) (calm : call ≠ .refresh) :
      CalmStep config others h (h.perform { config, codec } call)
  | elsewhere (h : DeviceHistory) {host : Host} (allowed : others h.run host) :
      CalmStep config others h { h with run.host := host }

/-- Any number of steps in which the device is not refreshed. -/
abbrev CalmSteps (config : Config) (others : DeviceRun → Host → Prop) :
    DeviceHistory → DeviceHistory → Prop :=
  Relation.ReflTransGen (CalmStep config others)

theorem CalmStep.step (hcalm : CalmStep config others h h') : Step config others h h' := by
  cases hcalm with
  | call codec call => exact .call h codec call
  | elsewhere allowed => exact .elsewhere h allowed

theorem CalmSteps.steps (hcalm : CalmSteps config others h h') : Steps config others h h' :=
  Relation.ReflTransGen.mono (fun _ _ => CalmStep.step) _ _ hcalm

theorem Reachable.supplied_calm (hreachable : Reachable config others host h)
    (hcalm : CalmSteps config others h h') :
    Device.Supplied h.run.device h'.run.device := by
  induction hcalm with
  | refl => exact hreachable.fetching.supplied
  | @tail h₁ h₂ hbefore hstep ih =>
    cases hstep with
    | call codec call hstays =>
      have hreached := hreachable.steps (CalmSteps.steps hbefore)
      exact ih.trans (hreached.supplied_perform codec hstays)
    | elsewhere => exact ih

/-- A refresh keeps what is complete, or reads it anew. -/
theorem kept_refresh (setup : Setup)
    (hfound : h.run.device.memory.store.getComplete? key = some d) :
    ∃ d', (h.perform setup .refresh).run.device.memory.store.getComplete? key = some d' ∧
      (d' = d ∨ h.run.Readable setup d') := by
  rcases h.run.renews_refresh setup key with hsame | ⟨d', hnew, -, hcomplete, hreadable⟩
  · exact ⟨d, (Store.getComplete?_congr hsame).trans hfound, Or.inl rfl⟩
  · exact ⟨d', Store.getComplete?_eq_some.mpr ⟨hnew, hcomplete⟩, Or.inr hreadable⟩

/-- In every history of a device: a dictionary that is complete stays complete for ever, and stays the
    same until the device is refreshed.  A refresh keeps it as well, or puts a complete one in its place
    that it reads from a file. -/
theorem dictionaries_kept (hreachable : Reachable config others host h)
    (hfound : h.run.device.memory.store.getComplete? key = some d) :
    (∀ h', Steps config others h h' →
      h'.run.device.memory.store.containsComplete key = true) ∧
    (∀ h', CalmSteps config others h h' →
      h'.run.device.memory.store.getComplete? key = some d) ∧
    (∀ codec, ∃ d',
      (h.perform { config, codec } .refresh).run.device.memory.store.getComplete? key = some d' ∧
        (d' = d ∨ h.run.Readable { config, codec } d')) := by
  refine ⟨fun h' hsteps => ?_, fun h' hcalm => ?_, fun codec => kept_refresh _ hfound⟩
  · suffices hcomplete : ∃ d', h'.run.device.memory.store.getComplete? key = some d' from
      Option.isSome_iff_exists.mpr hcomplete
    induction hsteps with
    | refl => exact ⟨d, hfound⟩
    | tail hbefore hstep ih =>
      obtain ⟨d', hd'⟩ := ih
      cases hstep with
      | elsewhere => exact ⟨d', hd'⟩
      | call codec call =>
        by_cases hrefresh : call = .refresh
        · subst hrefresh
          obtain ⟨d'', hd'', -⟩ := kept_refresh { config, codec } hd'
          exact ⟨d'', hd''⟩
        · have hsupplied := (hreachable.steps hbefore).supplied_perform codec hrefresh
          exact ⟨d', hsupplied.getComplete? hd'⟩
  · exact (hreachable.supplied_calm hcalm).getComplete? hfound

/-- The history of the first of the calls in which a dictionary is downloaded and used. -/
def readingHistory (n : Nat) : DeviceHistory :=
  (found DeviceLog.annotatedSetup 8 1 ⟨0⟩ [sampleRecord] {}
    { files := { content := fun _ _ => some [1] } }).performAll
    DeviceLog.annotatedSetup (DeviceLog.readingCalls.take n)

theorem reachable_readingHistory (others : DeviceRun → Host → Prop) (n : Nat) :
    Reachable DeviceLog.annotatedSetup.config others
      { files := { content := fun _ _ => some [1] } } (readingHistory n) :=
  ⟨DeviceLog.annotatedSetup.codec, 8, 1, ⟨0⟩, [sampleRecord], {},
    steps_performAll others _ DeviceLog.annotatedSetup _⟩

/-- The dictionary that was downloaded is there while the operation reads with it, and is complete
    after a refresh. -/
theorem dictionaries_kept_reading :
    ∃ d, (readingHistory 5).run.device.memory.store.getComplete? ⟨1, 0⟩ = some d ∧ d.data = [2] ∧
      (readingHistory 6).run.device.memory.store.getComplete? ⟨1, 0⟩ = some d ∧
      ((readingHistory 6).perform DeviceLog.annotatedSetup
        .refresh).run.device.memory.store.containsComplete ⟨1, 0⟩ = true := by
  have hdata : ((readingHistory 5).run.device.memory.store.getComplete? ⟨1, 0⟩).map (·.data) =
      some [2] := by decide +kernel
  obtain ⟨d, hfound, hd⟩ := Option.map_eq_some_iff.mp hdata
  obtain ⟨hcomplete, hsame, -⟩ :=
    dictionaries_kept (reachable_readingHistory DeviceRun.LeftAlone 5) hfound
  have hcalm : CalmSteps DeviceLog.annotatedSetup.config DeviceRun.LeftAlone (readingHistory 5)
      (readingHistory 6) :=
    .single (.call _ DeviceLog.annotatedSetup.codec (.startOperation (.read "/redfish/v1"))
      fun hrefresh => by cases hrefresh)
  exact ⟨d, hfound, hd, hsame _ hcalm, hcomplete _
    (hcalm.steps.tail (.call _ DeviceLog.annotatedSetup.codec .refresh))⟩

end DeviceHistory

end DeviceEnablement
