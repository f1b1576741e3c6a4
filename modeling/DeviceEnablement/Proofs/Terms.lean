/-
  The terms between a controller and a device, and who may change them.

  The terms are the six values that a negotiation learns: the five parameters of its first response,
  and the largest chunk of its second one.

  1. `Metadata.HasAll`, `Metadata.HasNone`: which of them are there.  `tells_learn` and
     `get?_learn_of_not_mem` say what the first response changes.
  2. `SessionTask.stage`, `opening_start`: the state that a device is in while a task runs on it, and
     the command with which the task begins.
  3. `SessionTask.Taught`: what a response makes of the metadata.  Only a negotiation changes the
     terms; an operation may change the etag, which is none of them.
  4. `Negotiation.Knows`: which terms are there in a phase of a negotiation (`Taught.knows`), and all
     of them when it has ended well (`Taught.hasAll_negotiated`).
  5. `Operation.misses_of_start`: an operation that begins lacks no metadata when the largest chunk is
     known.
-/
import DeviceEnablement.Proofs.Session

namespace DeviceEnablement

/-! ## The terms -/

namespace MetadataKey

/-- The parameters of the protocol. -/
def parameters : List MetadataKey :=
  [deviceConcurrency, deviceCapabilities, deviceFeatures, deviceSignature, deviceProvider]

/-- Everything that a negotiation learns. -/
def negotiated : List MetadataKey := parameters ++ [deviceMaxChunk]

end MetadataKey

/-- The parameters that a device tells. -/
def NegotiateRedfishResponse.told (response : NegotiateRedfishResponse) : List MetadataField :=
  [.deviceConcurrency response.concurrency, .deviceCapabilities response.capabilities,
    .deviceFeatures response.features, .deviceSignature response.signature,
    .deviceProvider response.provider.text]

theorem NegotiateRedfishResponse.keys_told (response : NegotiateRedfishResponse) :
    response.told.map MetadataField.key = MetadataKey.parameters := rfl

/-- Whether a response with this body carries this field. -/
inductive MetadataField.CarriedBy (body : Bytes) : MetadataField → Prop
  | parameter {response : NegotiateRedfishResponse} {field : MetadataField}
      (decoded : NegotiateRedfishResponse.decode body = .ok response)
      (told : field ∈ response.told) : CarriedBy body field
  | chunk {response : NegotiateMediumResponse}
      (decoded : NegotiateMediumResponse.decode body = .ok response) :
      CarriedBy body (.deviceMaxChunk response.maxChunk)

namespace Metadata

/-- Whether all of these fields are set. -/
def HasAll (m : Metadata) (keys : List MetadataKey) : Prop :=
  ∀ key ∈ keys, (m.get? key).isSome = true

/-- Whether none of these fields is set. -/
def HasNone (m : Metadata) (keys : List MetadataKey) : Prop :=
  ∀ key ∈ keys, m.get? key = none

/-- Whether the parameters are those of this response. -/
def Tells (m : Metadata) (response : NegotiateRedfishResponse) : Prop :=
  ∀ field ∈ response.told, m.get? field.key = some field

variable {m : Metadata} {response : NegotiateRedfishResponse}

theorem Tells.hasAll (h : m.Tells response) : m.HasAll MetadataKey.parameters := by
  intro key hkey
  rw [← response.keys_told, List.mem_map] at hkey
  obtain ⟨field, hfield, rfl⟩ := hkey
  rw [h field hfield]
  rfl

theorem get?_clearNegotiated (m : Metadata) : m.clearNegotiated.HasNone MetadataKey.negotiated := by
  intro key hkey
  cases key <;> first | rfl | exact absurd hkey (by decide)

/-- The etag is none of the terms. -/
theorem get?_etag (m : Metadata) (etag : Option String) {key : MetadataKey}
    (hkey : key ∈ MetadataKey.negotiated) : { m with etag }.get? key = m.get? key := by
  cases key <;> first | rfl | exact absurd hkey (by decide)

/-- As long as a device has told nothing, one request may be outstanding. -/
theorem effectiveConcurrency_of_hasNone (h : m.HasNone MetadataKey.parameters) :
    m.effectiveConcurrency = 1 := by
  have hnone : m.deviceConcurrency.map MetadataField.deviceConcurrency = none :=
    h .deviceConcurrency (by decide)
  unfold effectiveConcurrency
  rw [Option.map_eq_none_iff.mp hnone]

end Metadata

namespace Negotiation

variable {m : Metadata} {response : NegotiateRedfishResponse}

/-- The first response tells the parameters. -/
theorem tells_learn (m : Metadata) (response : NegotiateRedfishResponse) :
    (learn m response).Tells response := by
  intro field hfield
  simp only [NegotiateRedfishResponse.told, List.mem_cons, List.not_mem_nil, or_false] at hfield
  rcases hfield with rfl | rfl | rfl | rfl | rfl <;> rfl

/-- The first response tells nothing but the parameters. -/
theorem get?_learn_of_not_mem {key : MetadataKey} (hkey : key ∉ MetadataKey.parameters) :
    (learn m response).get? key = m.get? key := by
  cases key <;> first | rfl | exact absurd (by decide) hkey

/-- Which terms are there in a phase of a negotiation. -/
def Knows : Negotiation → Metadata → Prop
  | redfish, m => m.HasNone MetadataKey.negotiated
  | medium, m => m.HasAll MetadataKey.parameters

end Negotiation

/-! ## Outputs -/

/-- The state of a device on which a task runs that yields such an output. -/
def SessionOutput.stage : SessionOutput → DeviceState
  | negotiated => .discovering
  | dictionary _ => .busy
  | operation _ => .ready

/-- Whether a step may be that of a task of this stage. -/
def Step.Fits (stage : DeviceState) : Step → Prop
  | send _ => True
  | done output => output.stage = stage
  | discarded => False

/-- A download ends with a dictionary. -/
theorem Download.onResponse_fits (d : Download) (scope : SessionScope) (memory : DeviceMemory)
    (body : Bytes) {step : Step} (h : (d.onResponse scope memory body).1 = .ok step) :
    step.Fits .busy := by
  unfold onResponse at h
  split at h
  · unfold onPlace at h
    split at h
    · cases h
    · dsimp only at h
      split at h <;> cases h
      trivial
  · unfold onChunk at h
    dsimp only at h
    split at h <;> cases h
    · trivial
    · rfl

/-- An operation ends with its result. -/
theorem Operation.onResponse_fits (o : Operation) (scope : SessionScope) (memory : DeviceMemory)
    (body : Bytes) {step : Step} (h : (o.onResponse scope memory body).1 = .ok step) :
    step.Fits .ready := by
  have hsuits := o.onResponse_suits scope memory body h
  cases step with
  | send out => trivial
  | done output =>
    cases output with
    | operation result => rfl
    | negotiated | dictionary key => cases hsuits
  | discarded => exact hsuits

/-! ## First requests -/

namespace Operation

variable {o o' : Operation} {out : Outgoing}

theorem command_initRequest {flags : OperationFlags} {handle : UInt32} {inlined : Bytes}
    (h : o.initRequest flags handle inlined = .ok out) : out.command = .operationInit := by
  unfold initRequest OperationInitRequest.outgoing at h
  generalize OperationInitRequest.encode _ = encoded at h
  cases encoded with
  | error e => cases h
  | ok body =>
    cases h
    rfl

theorem command_init {metadata : Metadata} {payload : Bytes}
    (h : o.init metadata payload = (.ok out, o')) : out.command = .operationInit := by
  unfold init at h
  split at h
  · exact command_initRequest (Prod.mk.inj h).1
  · dsimp only at h
    split at h
    · cases h
    · split at h
      · split at h
        · cases h
        · exact command_initRequest (Prod.mk.inj h).1
      · exact command_initRequest (Prod.mk.inj h).1

/-- An operation that has begun waits for the response to its first request. -/
theorem start_ok {scope : SessionScope} {memory memory' : DeviceMemory} {step : Step}
    (h : o.start scope memory = (.ok step, o', memory')) :
    ∃ out, step = .send out ∧ out.command = .operationInit ∧ o'.phase = .starting := by
  unfold start at h
  split at h
  · cases h
  · dsimp only at h
    split at h
    · cases h
    · split at h
      · rename_i hinit
        cases h
        exact ⟨_, rfl, command_init hinit, rfl⟩
      · cases h

end Operation

/-! ## Missing metadata -/

/-- Whether a codec may say by itself that this field is missing. -/
def Codec.Misses (codec : Codec) (key : MetadataKey) : Prop :=
  ∃ tree dictionaries schemaClass,
    codec.encode tree dictionaries schemaClass = .error (.missingMetadata key)

namespace Operation

variable {o : Operation} {scope : SessionScope} {store : Store} {key : MetadataKey}

theorem dictionaries_ne_model (cause : ModelError) :
    o.dictionaries store ≠ .error (.model cause) := by
  intro h
  unfold dictionaries at h
  split at h
  · cases h
  · split at h <;> cases h

/-- When metadata are missing for a body, it is the codec that says so. -/
theorem misses_of_encodePayload
    (h : o.encodePayload scope store = .error (.model (.missingMetadata key))) :
    scope.codec.Misses key := by
  unfold encodePayload at h
  split at h
  · split at h <;> cases h
  · rename_i text _
    cases htree : PropertyNode.ofText text with
    | error e =>
      rw [htree] at h
      cases h
      unfold PropertyNode.ofText at htree
      split at htree <;> cases htree
    | ok tree =>
      rw [htree] at h
      cases hdictionaries : o.dictionaries store with
      | error e =>
        rw [hdictionaries] at h
        cases h
        exact absurd hdictionaries (dictionaries_ne_model _)
      | ok dictionaries =>
        rw [hdictionaries] at h
        cases hencoded : scope.codec.encode tree dictionaries o.schemaClass with
        | error e =>
          change (scope.codec.encode tree dictionaries o.schemaClass).mapError Failure.model = _
            at h
          rw [hencoded] at h
          cases h
          exact ⟨tree, dictionaries, o.schemaClass, hencoded⟩
        | ok body =>
          change (scope.codec.encode tree dictionaries o.schemaClass).mapError Failure.model = _
            at h
          rw [hencoded] at h
          cases h

theorem misses_of_prepare (h : o.prepare scope store = .error (.model (.missingMetadata key))) :
    scope.codec.Misses key := by
  have hencode : (if o.request.operation.carriesPayload then o.encodePayload scope store
      else .ok []) = .error (.model (.missingMetadata key)) → scope.codec.Misses key := by
    intro h
    split at h
    · exact misses_of_encodePayload h
    · cases h
  unfold prepare at h
  by_cases hneeds : needsDictionaries o.request.operation = true
  · rw [if_pos hneeds] at h
    cases hdictionaries : o.dictionaries store with
    | error e =>
      rw [hdictionaries] at h
      cases h
      exact absurd hdictionaries (dictionaries_ne_model _)
    | ok dictionaries =>
      rw [hdictionaries] at h
      exact hencode h
  · rw [if_neg hneeds] at h
    exact hencode h

theorem initRequest_ne_model {flags : OperationFlags} {handle : UInt32} {inlined : Bytes}
    (cause : ModelError) : o.initRequest flags handle inlined ≠ .error (.model cause) := by
  intro h
  unfold initRequest at h
  generalize OperationInitRequest.outgoing _ = request at h
  cases request with
  | error e => cases h
  | ok out => cases h

/-- The first request can be made when the largest chunk is known, as far as metadata are
    concerned. -/
theorem init_ne_model {metadata : Metadata} {payload : Bytes}
    (hchunk : metadata.deviceMaxChunk.isSome = true) (cause : ModelError) :
    (o.init metadata payload).1 ≠ .error (.model cause) := by
  obtain ⟨limit, hlimit⟩ := Option.isSome_iff_exists.mp hchunk
  unfold init
  split
  · show o.initRequest .empty 0 [] ≠ _
    exact initRequest_ne_model cause
  · rw [hlimit]
    dsimp only [Metadata.require]
    split
    · split
      · rename_i e hsize
        intro h
        cases h
        unfold chunkSize at hsize
        dsimp only at hsize
        split at hsize <;> cases hsize
      · exact initRequest_ne_model cause
    · exact initRequest_ne_model cause

/-- An operation lacks no metadata when the largest chunk is known. -/
theorem misses_of_start {memory : DeviceMemory}
    (hchunk : memory.metadata.deviceMaxChunk.isSome = true)
    (h : (o.start scope memory).1 = .error (.model (.missingMetadata key))) :
    scope.codec.Misses key := by
  unfold start at h
  split at h
  · rename_i e hfound
    cases h
    unfold Registry.getByUri Registry.idOfUri Registry.found at hfound
    split at hfound
    · split at hfound <;> cases hfound
    · rename_i e hid
      cases hfound
      split at hid <;> cases hid
  · dsimp only at h
    split at h
    · rename_i e hprepared
      cases h
      exact misses_of_prepare hprepared
    · split at h
      · cases h
      · rename_i e _ hinit
        cases h
        exact absurd (congrArg Prod.fst hinit) (init_ne_model hchunk _)

end Operation

/-! ## Responses -/

/-- A download learns nothing but the dictionary. -/
theorem Download.metadata_onResponse (d : Download) (scope : SessionScope) (memory : DeviceMemory)
    (body : Bytes) : (d.onResponse scope memory body).2.2.metadata = memory.metadata := by
  unfold onResponse
  split
  · unfold onPlace
    split
    · rfl
    · dsimp only
      split <;> rfl
  · unfold onChunk
    dsimp only
    split <;> rfl

/-- An operation learns nothing but the etag. -/
theorem Operation.metadata_onResponse (o : Operation) (scope : SessionScope)
    (memory : DeviceMemory) (body : Bytes) :
    ∃ etag, (o.onResponse scope memory body).2.2.metadata = { memory.metadata with etag } := by
  have hsame : ∃ etag, memory.metadata = { memory.metadata with etag } :=
    ⟨memory.metadata.etag, rfl⟩
  unfold onResponse
  split
  · exact hsame
  · exact hsame
  · exact hsame
  · unfold onComplete
    split
    · exact hsame
    · dsimp only
      split
      · exact hsame
      · by_cases hempty : o.etag = ""
        · rw [if_pos hempty]
          exact hsame
        · rw [if_neg hempty]
          exact ⟨some o.etag, rfl⟩

/-! ## Tasks -/

namespace SessionTask

/-- The state of a device while a task of this kind runs on it. -/
def stage : SessionTask → DeviceState
  | negotiation _ => .discovering
  | download _ => .busy
  | operation _ => .ready

/-- The command with which a task of this kind begins. -/
def firstCommand : SessionTask → Command
  | negotiation _ => .negotiateRedfishParameters
  | download _ => .getSchemaDictionary
  | operation _ => .operationInit

/-- Whether the response to the first request has not come. -/
def isOpening : SessionTask → Bool
  | negotiation phase => phase = .redfish
  | download d => d.phase = .request
  | operation o => o.phase = .starting

/-- What a response with this body makes of a task and of the metadata `m`. -/
inductive Taught (m : Metadata) (body : Bytes) :
    SessionTask → Except Failure Step → SessionTask → Metadata → Prop
  | parameters {response : NegotiateRedfishResponse} (out : Outgoing)
      (decoded : NegotiateRedfishResponse.decode body = .ok response) :
      Taught m body (.negotiation .redfish) (.ok (.send out)) (.negotiation .medium)
        (Negotiation.learn m response)
  | chunk {response : NegotiateMediumResponse}
      (decoded : NegotiateMediumResponse.decode body = .ok response) :
      Taught m body (.negotiation .medium) (.ok (.done .negotiated)) (.negotiation .medium)
        (m.set (.deviceMaxChunk response.maxChunk))
  | refused (phase : Negotiation) (e : Failure) :
      Taught m body (.negotiation phase) (.error e) (.negotiation phase) m
  | otherwise {task task' : SessionTask} {result : Except Failure Step}
      (other : task.isNegotiation = false) (stage : task'.stage = task.stage)
      (fits : ∀ step, result = .ok step → step.Fits task.stage)
      (etag : Option String) : Taught m body task result task' { m with etag }

variable {scope : SessionScope} {memory memory' : DeviceMemory} {task task' : SessionTask}
  {result : Except Failure Step} {body : Bytes}

/-- The stage tells operations from other tasks. -/
theorem isOperation_eq (task : SessionTask) :
    task.isOperation = decide (task.stage = .ready) := by
  cases task <;> rfl

theorem isNegotiation_eq (task : SessionTask) :
    task.isNegotiation = decide (task.stage = .discovering) := by
  cases task <;> rfl

theorem isDownload_eq (task : SessionTask) :
    task.isDownload = decide (task.stage = .busy) := by
  cases task <;> rfl

theorem Taught.stage_eq {m m' : Metadata} (h : Taught m body task result task' m') :
    task'.stage = task.stage := by
  cases h with
  | otherwise _ hstage => exact hstage
  | _ => rfl

/-- A response yields a step that fits the task. -/
theorem Taught.fits {m m' : Metadata} {step : Step}
    (h : Taught m body task (.ok step) task' m') : step.Fits task.stage := by
  cases h with
  | parameters => trivial
  | chunk => rfl
  | otherwise _ _ hfits => exact hfits step rfl

/-- Who is no negotiation learns nothing but the etag. -/
theorem Taught.of_other {m m' : Metadata} (h : Taught m body task result task' m')
    (hother : task.isNegotiation = false) : ∃ etag, m' = { m with etag } := by
  cases h with
  | otherwise _ _ _ etag => exact ⟨etag, rfl⟩
  | _ => cases hother

/-- The parameters are learned together. -/
theorem Taught.parameters_kept {m m' : Metadata} (h : Taught m body task result task' m')
    (hm : m.HasAll MetadataKey.parameters ∨ m.HasNone MetadataKey.parameters) :
    m'.HasAll MetadataKey.parameters ∨ m'.HasNone MetadataKey.parameters := by
  have hcongr : ∀ {m₁ : Metadata}, (∀ key ∈ MetadataKey.parameters, m₁.get? key = m.get? key) →
      m₁.HasAll MetadataKey.parameters ∨ m₁.HasNone MetadataKey.parameters := by
    intro m₁ hsame
    rcases hm with hall | hnone
    · exact Or.inl fun key hkey => by rw [hsame key hkey]; exact hall key hkey
    · exact Or.inr fun key hkey => by rw [hsame key hkey]; exact hnone key hkey
  cases h with
  | parameters => exact Or.inl (Negotiation.tells_learn m _).hasAll
  | chunk =>
    refine hcongr fun key hkey => ?_
    rw [Metadata.get?_set, if_neg]
    rintro rfl
    have hchunk : MetadataKey.deviceMaxChunk ∈ MetadataKey.parameters := hkey
    exact absurd hchunk (by decide)
  | refused => exact hm
  | otherwise _ _ _ etag =>
    exact hcongr fun key hkey => m.get?_etag etag (List.mem_append_left _ hkey)

/-- A negotiation that goes on knows the terms of its phase. -/
theorem Taught.knows {m m' : Metadata} {out : Outgoing} {phase : Negotiation}
    (h : Taught m body task (.ok (.send out)) (.negotiation phase) m') : phase.Knows m' := by
  cases h with
  | parameters => exact (Negotiation.tells_learn m _).hasAll
  | otherwise hother hstage =>
    rw [isNegotiation_eq, ← hstage] at hother
    cases hother

/-- A negotiation that has ended well has learned all terms. -/
theorem Taught.hasAll_negotiated {m m' : Metadata} {phase : Negotiation}
    (h : Taught m body (.negotiation phase) (.ok (.done .negotiated)) task' m')
    (hknows : phase.Knows m) : m'.HasAll MetadataKey.negotiated := by
  cases h with
  | chunk =>
    intro key hkey
    rw [Metadata.get?_set]
    split
    · rfl
    · rename_i hne
      rcases List.mem_append.mp hkey with hparameter | hchunk
      · exact hknows key hparameter
      · exact absurd (List.mem_singleton.mp hchunk) hne
  | otherwise hother => cases hother

/-- A term is the one that was there before, or the response carries it. -/
theorem Taught.carried {m m' : Metadata} (h : Taught m body task result task' m')
    {key : MetadataKey} (hkey : key ∈ MetadataKey.negotiated) {field : MetadataField}
    (hfield : m'.get? key = some field) :
    m.get? key = some field ∨ field.CarriedBy body := by
  cases h with
  | @parameters response _ hdecoded =>
    by_cases hparameter : key ∈ MetadataKey.parameters
    · rw [← response.keys_told, List.mem_map] at hparameter
      obtain ⟨told, htold, rfl⟩ := hparameter
      rw [Negotiation.tells_learn m response told htold, Option.some.injEq] at hfield
      exact Or.inr (.parameter hdecoded (hfield ▸ htold))
    · rw [Negotiation.get?_learn_of_not_mem hparameter] at hfield
      exact Or.inl hfield
  | chunk hdecoded =>
    rw [Metadata.get?_set] at hfield
    split at hfield
    · rw [← Option.some.inj hfield]
      exact Or.inr (.chunk hdecoded)
    · exact Or.inl hfield
  | refused => exact Or.inl hfield
  | otherwise _ _ _ etag => exact Or.inl ((m.get?_etag etag hkey).symm.trans hfield)

/-- Only the first response of a negotiation changes how many requests may be outstanding. -/
theorem Taught.effectiveConcurrency_eq {m m' : Metadata}
    (h : Taught m body task result task' m') (hlater : task ≠ .negotiation .redfish) :
    m'.effectiveConcurrency = m.effectiveConcurrency := by
  cases h with
  | parameters => exact absurd rfl hlater
  | _ => rfl

/-! ### Beginning -/

/-- Beginning teaches nothing. -/
theorem metadata_start (task : SessionTask) (scope : SessionScope) (memory : DeviceMemory) :
    (task.start scope memory).2.2.metadata = memory.metadata := by
  cases task with
  | negotiation phase => rfl
  | download d =>
    show (d.start memory).2.2.metadata = _
    unfold Download.start
    split
    · split <;> rfl
    · rfl
  | operation o =>
    show (o.start scope memory).2.2.metadata = _
    unfold Operation.start
    split
    · rfl
    · dsimp only
      split
      · rfl
      · split <;> rfl

theorem stage_start (task : SessionTask) (scope : SessionScope) (memory : DeviceMemory) :
    (task.start scope memory).2.1.stage = task.stage := by
  cases task <;> rfl

/-- The first request of a task has the command of its kind. -/
theorem opening_start {out : Outgoing} (hopening : task.isOpening = true)
    (h : task.start scope memory = (.ok (.send out), task', memory')) :
    task'.isOpening = true ∧ out.command = task'.firstCommand := by
  cases task with
  | negotiation phase =>
    cases h
    exact ⟨rfl, rfl⟩
  | download d =>
    simp only [start, Download.start] at h
    split at h
    · split at h
      · cases h
        exact ⟨hopening, rfl⟩
      · cases h
    · cases h
      exact ⟨hopening, rfl⟩
  | operation o =>
    obtain ⟨⟨result, o', memory₁⟩, hstart⟩ : ∃ result, o.start scope memory = result := ⟨_, rfl⟩
    simp only [start, hstart] at h
    cases h
    obtain ⟨_, hsend, hcommand, hphase⟩ := Operation.start_ok hstart
    cases hsend
    exact ⟨decide_eq_true hphase, hcommand⟩

/-! ### Going on -/

theorem stage_onResponse (task : SessionTask) (scope : SessionScope) (memory : DeviceMemory)
    (body : Bytes) : (task.onResponse scope memory body).2.1.stage = task.stage := by
  cases task <;> rfl

/-- Only a negotiation learns the terms. -/
theorem taught_onResponse (h : task.onResponse scope memory body = (result, task', memory')) :
    Taught memory.metadata body task result task' memory'.metadata := by
  have hstage := task.stage_onResponse scope memory body
  rw [h] at hstage
  cases task with
  | negotiation phase =>
    cases phase with
    | redfish =>
      simp only [onResponse, Negotiation.onResponse, Negotiation.onRedfish] at h
      split at h
      · cases h
        exact .refused .redfish _
      · rename_i hdecoded
        cases h
        exact .parameters _ hdecoded
    | medium =>
      simp only [onResponse, Negotiation.onResponse, Negotiation.onMedium] at h
      split at h
      · cases h
        exact .refused .medium _
      · rename_i hdecoded
        cases h
        exact .chunk hdecoded
  | download d =>
    have hsame := d.metadata_onResponse scope memory body
    simp only [onResponse, Prod.mk.injEq] at h
    rw [h.2.2] at hsame
    rw [hsame]
    refine .otherwise rfl hstage (fun step hstep => ?_) memory.metadata.etag
    exact d.onResponse_fits scope memory body (h.1.trans hstep)
  | operation o =>
    obtain ⟨etag, hetag⟩ := o.metadata_onResponse scope memory body
    simp only [onResponse, Prod.mk.injEq] at h
    rw [h.2.2] at hetag
    rw [hetag]
    refine .otherwise rfl hstage (fun step hstep => ?_) etag
    exact o.onResponse_fits scope memory body (h.1.trans hstep)

end SessionTask

/-! ## Sessions -/

namespace Session

variable {s s' : Session} {scope : SessionScope} {memory memory' : DeviceMemory} {body : Bytes}

/-- Beginning teaches nothing. -/
theorem metadata_start (s : Session) (scope : SessionScope) (memory : DeviceMemory) :
    (s.start scope memory).2.2.metadata = memory.metadata := by
  have htask := s.task.metadata_start scope memory
  unfold start
  split
  · rfl
  · split
    · rename_i heq
      rw [heq] at htask
      exact htask
    · rename_i heq
      rw [heq] at htask
      exact htask

/-- A session that has begun stays of its kind, and its first request has the command of its
    kind. -/
theorem start_send {out : Outgoing} (hopening : s.task.isOpening = true)
    (h : s.start scope memory = (.ok (.send out), s', memory')) :
    s'.state = .waiting ∧ s'.task.stage = s.task.stage ∧ s'.task.isOpening = true ∧
      out.command = s'.task.firstCommand := by
  unfold start at h
  split at h
  · cases h
  · split at h
    · rename_i step task memory₁ hstart
      cases h
      have hstage := s.task.stage_start scope memory
      rw [hstart] at hstage
      exact ⟨rfl, hstage, SessionTask.opening_start hopening hstart⟩
    · cases h

/-- What a response makes of a session that waits for it. -/
theorem taught_onResponse {result : Except Failure Step} (hw : s.state = .waiting)
    (h : s.onResponse scope memory body = (result, s', memory')) :
    SessionTask.Taught memory.metadata body s.task result s'.task memory'.metadata := by
  have hkept : ¬ s.state.isAbandoned = true := by
    rw [hw]
    exact Bool.false_ne_true
  unfold onResponse at h
  rw [if_neg hkept, if_neg (fun hne => hne hw)] at h
  cases h
  exact SessionTask.taught_onResponse rfl

end Session

end DeviceEnablement
