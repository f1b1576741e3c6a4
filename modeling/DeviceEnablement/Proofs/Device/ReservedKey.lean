/-
  The key of the annotations.

  The dictionary of annotations has a key of its own, which is that of a resource with the id 0 as
  well.  As long as no record of a device names such a resource, the key is used for nothing else.

  1. `Reachable.offered`: every operation is about a resource of its device.
  2. `Device.Spares`: no resource of a device has the reserved key, and the device has written no file
     under it.
  3. `Spared`: histories of a device that never meets a record that names the resource 0 when it is
     refreshed; so it spares the reserved key (`Spared.spares`).
  4. `reserved_key_spared`: what comes of it for queue, downloads, operations and annotations.
  5. `reserved_key_downloaded`: a device with a resource 0 takes its schema for the annotations.
-/
import DeviceEnablement.Proofs.Device.Operations
import DeviceEnablement.Proofs.Device.Retention

namespace DeviceEnablement

/-! ## Operations and resources -/

namespace DeviceLog

variable {config : Config} {others : DeviceRun → Host → Prop} {host : Host} {l : DeviceLog}

/-- Every operation is about a resource of its device. -/
theorem Reachable.offered (hreachable : Reachable config others host l) {id : SessionId}
    {o : Operation} (ho : l.run.device.operation? id = some o) :
    l.run.device.registry.Offers o.key := by
  suffices hall : ∀ id o, l.run.device.operation? id = some o →
      l.run.device.registry.Offers o.key from hall id o ho
  refine hreachable.invariant
    (P := fun l => ∀ id o, l.run.device.operation? id = some o →
      l.run.device.registry.Offers o.key)
    (fun _ _ _ _ _ _ id o ho => by cases ho) ?_ fun _ _ _ hoffered => hoffered
  intro l codec stride hl hoffered id o' ho'
  have hsupplied := DeviceHistory.supplied_stride { config, codec } hl.balanced.orderly hl.staged
    hl.fetching (DeviceHistory.ne_refresh ho')
  refine (hsupplied.offers o'.key).mpr ?_
  rcases DeviceHistory.operation?_stride hl.balanced.orderly hl.staged ho' with
    ⟨o, ho, hsubject⟩ | ⟨request, resource, -, -, hfound, hsubject⟩
  · rw [Operation.key_congr hsubject]
    exact hoffered id o ho
  · rw [Operation.key_congr hsubject]
    exact Registry.offers_of_getByUri hfound

end DeviceLog

/-! ## Refreshing -/

theorem Registry.gains_save (r : Registry) (folder : Folder) (name : String) :
    Folder.Gains (fun other _ => other = name) folder (r.save folder name).2 := by
  have hput : Folder.Gains (fun other _ => other = name) folder
      (folder.put name (Bytes.utf8 r.dump)).2 := Folder.gains_put rfl folder
  unfold save
  split
  · rename_i heq
    rw [heq] at hput
    exact hput
  · rename_i heq
    rw [heq] at hput
    exact hput

namespace DeviceRun

/-- After a refresh a device has only resources that its records name. -/
theorem named_of_refresh {r : DeviceRun} {setup : Setup} {key : DictionaryKey}
    (h : (r.refresh setup).device.registry.Offers key) :
    Registry.Named r.device.payloads key.resourceId := by
  obtain ⟨registry, hreload, hrefresh⟩ := r.refresh_cases setup
  suffices hoffers : registry.Offers key from Registry.named_of_reload (hreload ▸ hoffers)
  rcases hrefresh with hrefresh | hrefresh
  · rw [hrefresh] at h
    exact h
  · rw [hrefresh] at h
    have hdiscovered := supplied_discover setup (r.fetching_stores setup registry)
    have hoffers := (hdiscovered.offers key).mp h
    rw [(steady_stores (r.cleared registry) setup).registry] at hoffers
    exact hoffers

/-- The only file that a refresh may write is the dump of the registry. -/
theorem files_refresh (r : DeviceRun) (setup : Setup) :
    Folder.Gains (fun name _ => name = dumpName) r.device.memory.store.folder
      (r.refresh setup).device.memory.store.folder := by
  have hdumped : ∀ r : DeviceRun, Folder.Gains (fun name _ => name = dumpName)
      r.device.memory.store.folder (r.dumpRegistry setup).device.memory.store.folder := by
    intro r
    unfold dumpRegistry
    split
    · exact r.device.registry.gains_save r.device.memory.store.folder dumpName
    · exact Folder.gains_of_place rfl
  obtain ⟨registry, -, hrefresh | hrefresh⟩ := r.refresh_cases setup
  · rw [hrefresh]
    exact Folder.gains_of_place rfl
  · rw [hrefresh, store_discover]
    refine Folder.Gains.trans (Folder.gains_of_place ?_) (hdumped _)
    have hplace := (r.cleared registry).place_loadAnnotations setup
    exact ((((r.cleared registry).loadAnnotations
      setup).device.memory.store.rereads_loadPersisted).place).trans hplace

end DeviceRun

/-! ## Sparing -/

/-- Whether no dictionary under the reserved key can be read from a file with this name and content. -/
def Unreserved (name : String) (content : Bytes) : Prop :=
  Store.isDictionaryFile name = true →
    ∀ d, Dictionary.decode name content = .ok d → d.key ≠ .reserved

/-- Whether no resource has the reserved key, and the files that may hold a dictionary under it are
    those of `folder`. -/
structure Device.Spares (folder : Folder) (d : Device) : Prop where
  offers : ¬ d.registry.Offers .reserved
  files : Folder.Gains Unreserved folder d.memory.store.folder

namespace Device

variable {folder : Folder} {d d' : Device} {dictionary : Dictionary}

/-- A device that fetches only dictionaries of its resources spares the reserved key. -/
theorem Spares.supplied (h : d.Spares folder) (hsupplied : Supplied d d') : d'.Spares folder where
  offers := fun hoffers => h.offers ((hsupplied.offers .reserved).mp hoffers)
  files := by
    refine h.files.trans (hsupplied.files.mono fun name content hnew _ dictionary hdecode => ?_)
    obtain ⟨key, hoffers, original, hkey, rfl⟩ := hnew
    rw [Dictionary.key_of_decode_encode hdecode, hkey]
    rintro rfl
    exact h.offers hoffers

/-- A dictionary under the reserved key that is read from a file was there from the beginning. -/
theorem Spares.keptIn (h : d.Spares folder) (hkey : dictionary.key = .reserved)
    (hkept : dictionary.KeptIn d.memory.store.folder) : dictionary.KeptIn folder := by
  obtain ⟨hname, content, hfile, hdecode⟩ := hkept
  rcases h.files _ _ hfile with hold | hnew
  · exact ⟨hname, content, hold, hdecode⟩
  · exact absurd hkey (hnew hname dictionary hdecode)

end Device

theorem DeviceRun.spares_refresh {r : DeviceRun} {folder : Folder} (h : r.device.Spares folder)
    (hunnamed : ¬ Registry.Named r.device.payloads 0) (setup : Setup) :
    (r.refresh setup).device.Spares folder where
  offers := fun hoffers => hunnamed (named_of_refresh hoffers)
  files := by
    refine h.files.trans ((r.files_refresh setup).mono fun name content hdump hname => ?_)
    subst hdump
    exact absurd hname (by decide)

/-! ## Histories -/

namespace DeviceHistory

/-- One step, in which the device is not refreshed while one of its records names the resource 0. -/
inductive SparingStep (config : Config) (others : DeviceRun → Host → Prop) :
    DeviceHistory → DeviceHistory → Prop
  | call (h : DeviceHistory) (codec : Codec) (call : DeviceCall)
      (unnamed : call = .refresh → ¬ Registry.Named h.run.device.payloads 0) :
      SparingStep config others h (h.perform { config, codec } call)
  | elsewhere (h : DeviceHistory) {host : Host} (allowed : others h.run host) :
      SparingStep config others h { h with run.host := host }

/-- Whether a history is one of a device that was found with `folder` at an endpoint of `host`, and
    that was never refreshed while one of its records named the resource 0. -/
def Spared (config : Config) (others : DeviceRun → Host → Prop) (folder : Folder) (host : Host)
    (h : DeviceHistory) : Prop :=
  ∃ codec eid tid uuid payloads, Relation.ReflTransGen (SparingStep config others)
    (found { config, codec } eid tid uuid payloads folder host) h

variable {config : Config} {others : DeviceRun → Host → Prop} {folder : Folder} {host : Host}
  {h h' : DeviceHistory}

theorem SparingStep.step (hsparing : SparingStep config others h h') : Step config others h h' := by
  cases hsparing with
  | call codec call => exact .call h codec call
  | elsewhere allowed => exact .elsewhere h allowed

theorem Spared.reachable (hspared : Spared config others folder host h) :
    Reachable config others host h := by
  obtain ⟨codec, eid, tid, uuid, payloads, hsteps⟩ := hspared
  exact ⟨codec, eid, tid, uuid, payloads, folder,
    Relation.ReflTransGen.mono (fun _ _ => SparingStep.step) _ _ hsteps⟩

/-- The device of such a history spares the reserved key. -/
theorem Spared.spares (hspared : Spared config others folder host h) :
    h.run.device.Spares folder := by
  obtain ⟨codec, eid, tid, uuid, payloads, hsteps⟩ := hspared
  induction hsteps with
  | refl => exact ⟨Registry.not_offers_empty, Folder.gains_of_place rfl⟩
  | @tail h h' hbefore hstep ih =>
    have hspared : Spared config others folder host h :=
      ⟨codec, eid, tid, uuid, payloads, hbefore⟩
    cases hstep with
    | elsewhere => exact ⟨ih.offers, ih.files⟩
    | call codec' call hunnamed =>
      by_cases hrefresh : call = .refresh
      · subst hrefresh
        exact DeviceRun.spares_refresh ih (hunnamed rfl) { config, codec := codec' }
      · exact ih.supplied (hspared.reachable.supplied_perform codec' hrefresh)

theorem Reachable.offered (hreachable : Reachable config others host h) {id : SessionId}
    {o : Operation} (ho : h.run.device.operation? id = some o) :
    h.run.device.registry.Offers o.key := by
  obtain ⟨l, hl, rfl⟩ := DeviceLog.logged_of_reachable hreachable
  exact hl.offered ho

/-- In every history of a device that is never refreshed while one of its records names the resource
    0: no resource has the reserved key, no dictionary is to be fetched or being fetched under it, and
    no operation looks its schema up under it.  What is there under this key stays the same until the
    device is refreshed.  A refresh keeps it as well, or takes it from the file of the annotations or
    from a file that was in the folder of the device from the beginning. -/
theorem reserved_key_spared (hspared : Spared config others folder host h) :
    (∀ resource ∈ h.run.device.registry.resources, resource.key ≠ .reserved) ∧
    .reserved ∉ h.run.device.dictionaryQueue ∧
    (∀ id s download, h.run.device.sessions.get? id = some s → s.task = .download download →
      download.key ≠ .reserved) ∧
    (∀ id o, h.run.device.operation? id = some o → o.key ≠ .reserved) ∧
    (∀ codec call, call ≠ .refresh →
      (h.perform { config, codec } call).run.device.memory.store.get? .reserved =
        h.run.device.memory.store.get? .reserved) ∧
    (∀ codec d, (h.perform { config, codec } .refresh).run.device.memory.store.get? .reserved =
        some d → h.run.device.memory.store.get? .reserved = some d ∨
      (∃ path data, config.storage.annotationDictionary = some path ∧
        (h.run.host.files.read path).1 = some data ∧
        d = .ofContent .reserved DictionaryKey.reserved.fileName data) ∨
      d.KeptIn folder) := by
  have hreachable := hspared.reachable
  have hspares := hspared.spares
  have hfetching := hreachable.fetching
  refine ⟨?_, ?_, ?_, ?_, ?_, ?_⟩
  · exact fun resource hmem hkey => hspares.offers ⟨resource, hmem, hkey⟩
  · exact fun hqueued => hspares.offers (hfetching.queued _ hqueued)
  · intro id s download hs htask hkey
    have hoffers := (hfetching.downloads id s hs download htask).1
    exact hspares.offers (hkey ▸ hoffers)
  · exact fun id o ho hkey => hspares.offers (hkey ▸ hreachable.offered ho)
  · intro codec call hcalm
    exact (hreachable.supplied_perform codec hcalm).kept _ fun hwants => hspares.offers hwants.1
  · intro codec d hfound
    change (h.run.refresh { config, codec }).device.memory.store.get? .reserved = some d at hfound
    rcases h.run.renews_refresh { config, codec } .reserved with hsame | ⟨d', hnew, hkey, -, hreadable⟩
    · exact Or.inl (hsame.symm.trans hfound)
    · obtain rfl : d' = d := Option.some.inj (hnew.symm.trans hfound)
      exact Or.inr (hreadable.imp_right (hspares.keptIn hkey))

theorem sparingSteps_performAll (others : DeviceRun → Host → Prop) (h : DeviceHistory)
    (setup : Setup) (calls : List DeviceCall) (hcalm : ∀ call ∈ calls, call ≠ .refresh) :
    Relation.ReflTransGen (SparingStep setup.config others) h (h.performAll setup calls) := by
  induction calls generalizing h with
  | nil => exact .refl
  | cons call rest ih =>
    refine .head (.call h setup.codec call fun hrefresh => ?_)
      (ih _ fun other hmem => hcalm other (List.mem_cons_of_mem _ hmem))
    exact absurd hrefresh (hcalm call List.mem_cons_self)

/-- The sample record names no resource 0. -/
theorem spared_readingHistory (others : DeviceRun → Host → Prop) :
    Spared DeviceLog.annotatedSetup.config others {}
      { files := { content := fun _ _ => some [1] } } (readingHistory 6) := by
  refine ⟨DeviceLog.annotatedSetup.codec, 8, 1, ⟨0⟩, [sampleRecord], .head
    (.call _ DeviceLog.annotatedSetup.codec .refresh fun _ => by decide +kernel)
    (sparingSteps_performAll others _ DeviceLog.annotatedSetup
      (DeviceLog.readingCalls.tail.take 5) fun call hmem => ?_)⟩
  simp only [DeviceLog.readingCalls, List.tail_cons, List.take, List.mem_cons, List.not_mem_nil,
    or_false] at hmem
  rcases hmem with rfl | rfl | rfl | rfl | rfl <;> exact fun hrefresh => by cases hrefresh

/-- The operation that reads has a schema of its own, and the annotations stay when it is given up. -/
theorem reserved_key_spared_reading :
    ∃ o, (readingHistory 6).run.device.operation? ⟨3⟩ = some o ∧ o.key ≠ .reserved ∧
      ((readingHistory 6).perform DeviceLog.annotatedSetup
        (.cancel ⟨3⟩)).run.device.memory.store.get? .reserved =
          (readingHistory 6).run.device.memory.store.get? .reserved := by
  have hread : ((readingHistory 6).run.device.operation? ⟨3⟩).isSome = true := by decide +kernel
  obtain ⟨o, ho⟩ := Option.isSome_iff_exists.mp hread
  obtain ⟨-, -, -, hoperations, hkept, -⟩ :=
    reserved_key_spared (spared_readingHistory DeviceRun.LeftAlone)
  exact ⟨o, ho, hoperations _ o ho, hkept DeviceLog.annotatedSetup.codec (.cancel ⟨3⟩)
    fun hrefresh => by cases hrefresh⟩

/-- The record of a resource with the id 0. -/
def rootRecord : Bytes := 0 :: sampleRecord.tail

/-- The history of the first of the calls in which a dictionary is downloaded and used, for a device
    with the resource 0 and a controller without a file of annotations. -/
def rootHistory (n : Nat) : DeviceHistory :=
  (found fetchingSetup 8 1 ⟨0⟩ [rootRecord] {} {}).performAll fetchingSetup
    (DeviceLog.readingCalls.take n)

/-- The schema dictionary of the resource 0 is downloaded under the reserved key; then it is taken for
    the annotations, and an operation on this resource reads with it as both. -/
theorem reserved_key_downloaded :
    (∀ n, Reachable fetchingSetup.config DeviceRun.LeftAlone {} (rootHistory n)) ∧
    (∃ s, (rootHistory 3).run.device.sessions.get? ⟨2⟩ = some s ∧
      s.task = .download { key := .reserved }) ∧
    (∃ d, (rootHistory 5).run.device.memory.store.annotations? = some d ∧ d.data = [2]) ∧
    ∃ o, (rootHistory 6).run.device.operation? ⟨3⟩ = some o ∧ o.key = .reserved ∧
      ∃ dictionaries, o.dictionaries (rootHistory 6).run.device.memory.store = .ok dictionaries ∧
        dictionaries.schema = [2] ∧ dictionaries.annotations = [2] := by
  refine ⟨fun n => ⟨fetchingSetup.codec, 8, 1, ⟨0⟩, [rootRecord], {},
    steps_performAll _ _ fetchingSetup _⟩, ?_, ?_, ?_⟩
  · have htask : ((rootHistory 3).run.device.sessions.get? ⟨2⟩).map (·.task) =
        some (.download { key := .reserved }) := by decide +kernel
    exact Option.map_eq_some_iff.mp htask
  · have hdata : (rootHistory 5).run.device.memory.store.annotations?.map (·.data) =
        some [2] := by decide +kernel
    exact Option.map_eq_some_iff.mp hdata
  · have hreads : ((rootHistory 6).run.device.operation? ⟨3⟩).map (fun o =>
        (o.key, match o.dictionaries (rootHistory 6).run.device.memory.store with
          | .ok dictionaries => some (dictionaries.schema, dictionaries.annotations)
          | .error _ => none)) = some (.reserved, some ([2], [2])) := by decide +kernel
    obtain ⟨o, ho, hfacts⟩ := Option.map_eq_some_iff.mp hreads
    obtain ⟨hkey, hboth⟩ := Prod.mk.inj hfacts
    refine ⟨o, ho, hkey, ?_⟩
    split at hboth
    · rename_i dictionaries heq
      obtain ⟨hschema, hannotations⟩ := Prod.mk.inj (Option.some.inj hboth)
      exact ⟨dictionaries, heq, hschema, hannotations⟩
    · cases hboth

end DeviceHistory

end DeviceEnablement
