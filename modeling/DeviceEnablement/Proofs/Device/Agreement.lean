/-
  What a device has agreed on.

  A negotiation learns the terms in two responses.  `Device.Informed` says which of them are there: the
  parameters of the first response all or not at all; all terms while the device is ready or busy, and
  then every resource supports the operations that both sides support; and during a negotiation those
  of its phase.

  1. `Strode.informed`: every stride keeps this.
  2. `Device.SourcedBy`: each term was carried by the response to a request of the current generation,
     that is, one that was sent since the last refresh (`Strode.sourcedBy`).
  3. `misses_of_startOperation`: an operation lacks no metadata as long as the largest chunk is known,
     so only the codec or the transport may speak of missing metadata.
  4. `ready_means_negotiated` puts these together.
-/
import DeviceEnablement.Proofs.Device.Stages

namespace DeviceEnablement

/-! ## Which terms are there -/

namespace Device

/-- Whether all terms are there, and every resource supports the operations that follow from them. -/
structure Served (d : Device) : Prop where
  terms : d.memory.metadata.HasAll MetadataKey.negotiated
  operations : ∀ resource ∈ d.registry.entries.values,
    resource.operations = d.supportedOperations

/-- Whether the terms are there that should be. -/
structure Informed (d : Device) : Prop where
  parameters : d.memory.metadata.HasAll MetadataKey.parameters ∨
    d.memory.metadata.HasNone MetadataKey.parameters
  served : d.state = .ready ∨ d.state = .busy → d.Served
  phases : ∀ id s phase, d.sessions.get? id = some s → s.task = .negotiation phase →
    phase.Knows d.memory.metadata

variable {d d' : Device} {id : SessionId} {s : Session}

theorem Served.of_same (h : d.Served) (hmetadata : d'.memory.metadata = d.memory.metadata)
    (hregistry : d'.registry = d.registry) : d'.Served := by
  constructor
  · rw [hmetadata]
    exact h.terms
  · rw [hregistry]
    intro resource hresource
    unfold supportedOperations
    rw [hmetadata]
    exact h.operations resource hresource

/-- The etag is none of the terms. -/
theorem Served.of_etag (h : d.Served) {etag : Option String}
    (hmetadata : d'.memory.metadata = { d.memory.metadata with etag })
    (hregistry : d'.registry = d.registry) : d'.Served := by
  constructor
  · intro key hkey
    rw [hmetadata, Metadata.get?_etag _ etag hkey]
    exact h.terms key hkey
  · rw [hregistry]
    intro resource hresource
    unfold supportedOperations
    rw [hmetadata]
    exact h.operations resource hresource

/-- All operations are set when the terms are. -/
theorem served_of_terms (hterms : d'.memory.metadata.HasAll MetadataKey.negotiated)
    {registry : Registry}
    (hregistry : d'.registry = registry.setOperations d'.supportedOperations) : d'.Served := by
  refine ⟨hterms, fun resource hresource => ?_⟩
  rw [hregistry] at hresource
  obtain ⟨⟨k, other⟩, hother, rfl⟩ := List.mem_map.mp hresource
  obtain ⟨entry, -, heq⟩ := List.mem_map.mp hother
  rw [← (Prod.mk.inj heq).2]

theorem Served.parameters (h : d.Served) : d.memory.metadata.HasAll MetadataKey.parameters :=
  fun key hkey => h.terms key (List.mem_append_left _ hkey)

/-- Sessions that are no negotiations need no terms in particular. -/
theorem phases_of_stage (hstage : ∀ id s, d.sessions.get? id = some s →
    s.task.stage ≠ .discovering) : ∀ id s phase, d.sessions.get? id = some s →
      s.task = .negotiation phase → phase.Knows d.memory.metadata := by
  intro id s phase hs htask
  exact absurd (congrArg SessionTask.stage htask) (hstage id s hs)

namespace Informed

theorem of_same (h : d.Informed) (hsessions : ∀ id s, d'.sessions.get? id = some s →
      ∃ s₀, d.sessions.get? id = some s₀ ∧ s.task = s₀.task)
    (hmetadata : d'.memory.metadata = d.memory.metadata) (hregistry : d'.registry = d.registry)
    (hstate : d'.state = d.state) : d'.Informed where
  parameters := by
    rw [hmetadata]
    exact h.parameters
  served := by
    rw [hstate]
    exact fun hserving => (h.served hserving).of_same hmetadata hregistry
  phases := by
    intro other s phase hs htask
    obtain ⟨s₀, hs₀, hsame⟩ := hsessions other s hs
    rw [hmetadata]
    exact h.phases other s₀ phase hs₀ (hsame.symm.trans htask)

theorem of_sessions (h : d.Informed) (hsessions : d'.sessions = d.sessions)
    (hmetadata : d'.memory.metadata = d.memory.metadata) (hregistry : d'.registry = d.registry)
    (hstate : d'.state = d.state) : d'.Informed :=
  h.of_same (fun _ s hs => ⟨s, hsessions ▸ hs, rfl⟩) hmetadata hregistry hstate

theorem of_erase (h : d.Informed) (hsessions : d'.sessions = d.sessions.erase id)
    (hmetadata : d'.memory.metadata = d.memory.metadata) (hregistry : d'.registry = d.registry)
    (hstate : d'.state = d.state) : d'.Informed := by
  refine h.of_same (fun other s hs => ⟨s, ?_, rfl⟩) hmetadata hregistry hstate
  rw [hsessions] at hs
  exact (Table.of_get?_erase hs).2

/-- A device that is out of service and has no sessions need not know anything but the parameters
    together. -/
theorem of_idle (hparameters : d.memory.metadata.HasAll MetadataKey.parameters ∨
      d.memory.metadata.HasNone MetadataKey.parameters) (hsessions : d.sessions = {})
    (hstate : d.state = .notReady ∨ d.state = .unreachable ∨ d.state = .disabled) :
    d.Informed where
  parameters := hparameters
  served hserving := by
    rcases hstate with hstate | hstate | hstate <;> rw [hstate] at hserving <;>
      rcases hserving with hserving | hserving <;> cases hserving
  phases other s phase hs := by
    rw [hsessions] at hs
    cases hs

/-- A device that serves operations and has no negotiation is informed. -/
theorem of_served (hserved : d.Served) (hstage : ∀ id s, d.sessions.get? id = some s →
    s.task.stage ≠ .discovering) : d.Informed where
  parameters := Or.inl hserved.parameters
  served _ := hserved
  phases := phases_of_stage hstage

end Informed

end Device

namespace DeviceRun

variable {r r' : DeviceRun} {id : SessionId} {s : Session} {outcome : Except Failure SessionOutput}

/-! ### When sessions end -/

theorem Fetched.informed (h : Fetched r r') (hempty : r.device.sessions = {})
    (hserved : r.device.Served) : r'.device.Informed := by
  cases h with
  | @idle r₁ hsteady =>
    refine .of_served (hserved.of_same hsteady.metadata hsteady.registry) fun id s hs => ?_
    change r₁.device.sessions.get? id = some s at hs
    rw [hsteady.sessions, hempty] at hs
    cases hs
  | @begun r₁ r₂ id₂ hsteady hlaunched =>
    obtain ⟨s₂, -, hstage, -, hbegins⟩ := hlaunched.begins
    refine .of_served (hserved.of_same (hbegins.metadata.trans hsteady.metadata)
      (hbegins.registry.trans hsteady.registry)) fun id s hs => ?_
    change r₂.device.sessions.get? id = some s at hs
    rw [hbegins.sessions, hsteady.sessions, hempty] at hs
    rcases Table.of_get?_insert hs with ⟨-, rfl⟩ | ⟨-, hs⟩
    · rw [hstage]
      decide
    · cases hs

/-- What follows the end of a session finds the terms that it needs. -/
theorem Aftermath.informed (h : Aftermath r outcome r') (hinformed : r.device.Informed)
    (hempty : r.device.state ≠ .ready → r.device.sessions = {})
    (hterms : r.device.state = .discovering → outcome = .ok .negotiated →
      r.device.memory.metadata.HasAll MetadataKey.negotiated) : r'.device.Informed := by
  have hpassing : ∀ {state : DeviceState}, r.device.state = state → state ≠ .ready →
      r.device.sessions = {} := fun heq hne => hempty (heq ▸ hne)
  cases h with
  | reported => exact hinformed.of_sessions rfl rfl rfl rfl
  | @rejected hstate e _ =>
    refine .of_idle hinformed.parameters (hpassing hstate (by decide)) ?_
    rcases stateAfterNegotiation_cases e with hnotReady | hunreachable
    · exact Or.inl hnotReady
    · exact Or.inr (Or.inl hunreachable)
  | negotiated hstate hsucceeded hfetched =>
    exact hfetched.informed (hpassing hstate (by decide))
      (Device.served_of_terms (hterms hstate hsucceeded) rfl)
  | fetched hstate hfetched =>
    exact hfetched.informed (hpassing hstate (by decide)) (hinformed.served (Or.inr hstate))

/-! ### Answers and rounds -/

/-- The session of a negotiation is the only one. -/
theorem stage_of_other (hstaged : r.device.Staged) (hs : r.device.sessions.get? id = some s)
    {other : SessionId} (hne : other ≠ id) {t : Session}
    (ht : r.device.sessions.get? other = some t) : t.task.stage ≠ .discovering := by
  intro hdiscovering
  have hstate : r.device.state ≠ .ready := by
    rw [← hstaged.stage other t ht, hdiscovering]
    decide
  have hgone : (r.device.sessions.erase id).get? other = some t := by
    rw [Table.get?_erase, if_neg hne]
    exact ht
  rw [hstaged.alone hs hstate] at hgone
  cases hgone

/-- Who is ready or busy learns no terms. -/
theorem served_of_taught {bytes : Bytes} {result : Except Failure Step} {task' : SessionTask}
    {m' : Metadata} {d : Device} (hinformed : r.device.Informed) (hstaged : r.device.Staged)
    (hs : r.device.sessions.get? id = some s)
    (htaught : SessionTask.Taught r.device.memory.metadata bytes s.task result task' m')
    (hmetadata : d.memory.metadata = m') (hregistry : d.registry = r.device.registry)
    (hserving : r.device.state = .ready ∨ r.device.state = .busy) : d.Served := by
  have hother : s.task.isNegotiation = false := by
    rw [SessionTask.isNegotiation_eq, hstaged.stage id s hs]
    rcases hserving with hstate | hstate <;> rw [hstate] <;> rfl
  obtain ⟨etag, rfl⟩ := htaught.of_other hother
  exact (hinformed.served hserving).of_etag hmetadata hregistry

/-- A session that ends leaves the device informed, whatever it has learned. -/
theorem informed_of_learned {body : Except Failure Bytes} {memory : DeviceMemory} {host : Host}
    (hinformed : r.device.Informed) (hstaged : r.device.Staged)
    (hs : r.device.sessions.get? id = some s)
    (hlearned : Learned r.device.memory.metadata body s.task outcome memory.metadata) :
    (({ r with host, device.memory := memory } : DeviceRun).dropSession id).device.Informed := by
  have hget : ∀ other t, (r.device.sessions.erase id).get? other = some t →
      t.task.stage ≠ .discovering := by
    intro other t ht
    obtain ⟨hne, ht⟩ := Table.of_get?_erase ht
    exact stage_of_other hstaged hs hne ht
  generalize hm : memory.metadata = m' at hlearned
  cases hlearned with
  | nothing => exact hinformed.of_erase rfl hm rfl rfl
  | taught _ htaught _ =>
    refine ⟨?_, fun hserving => ?_, Device.phases_of_stage hget⟩
    · show memory.metadata.HasAll _ ∨ memory.metadata.HasNone _
      rw [hm]
      exact htaught.parameters_kept hinformed.parameters
    · exact served_of_taught hinformed hstaged hs htaught hm rfl hserving

/-- A negotiation that has ended well has learned all terms. -/
theorem Learned.hasAll {body : Except Failure Bytes} {m' : Metadata}
    (h : Learned r.device.memory.metadata body s.task outcome m') (hinformed : r.device.Informed)
    (hs : r.device.sessions.get? id = some s) (hstage : s.task.stage = .discovering)
    (hsucceeded : outcome = .ok .negotiated) : m'.HasAll MetadataKey.negotiated := by
  cases htask : s.task with
  | negotiation phase =>
    cases h with
    | nothing => cases hsucceeded
    | taught _ htaught hresult =>
      rw [htask, hresult _ hsucceeded] at htaught
      exact htaught.hasAll_negotiated (hinformed.phases id s phase hs htask)
  | download d | operation o =>
    rw [htask] at hstage
    cases hstage

theorem Settled.informed {request : PendingRequest} {body : Except Failure Bytes}
    (h : Settled r request body r') (hinformed : r.device.Informed) (hstaged : r.device.Staged) :
    r'.device.Informed := by
  cases h with
  | ignored => exact hinformed
  | late => exact hinformed.of_erase rfl rfl rfl rfl
  | @continued s s' bytes memory out _ _ hs _ _ htaught _ hplaced =>
    have hsame := hplaced.sameCourse
    have hmetadata : r'.device.memory.metadata = memory.metadata := hsame.metadata
    refine ⟨?_, fun hserving => ?_, fun other t phase ht htask => ?_⟩
    · rw [hmetadata]
      exact htaught.parameters_kept hinformed.parameters
    · rw [hsame.state] at hserving
      exact served_of_taught hinformed hstaged hs htaught hmetadata hsame.registry hserving
    · rw [hsame.sessions] at ht
      rw [hmetadata]
      rcases Table.of_get?_insert ht with ⟨-, rfl⟩ | ⟨hne, ht⟩
      · rw [htask] at htaught
        exact htaught.knows
      · exact absurd (congrArg SessionTask.stage htask) (stage_of_other hstaged hs hne ht)
  | @ended s memory host _ _ _ hs _ hlearned _ haftermath =>
    refine haftermath.informed (informed_of_learned hinformed hstaged hs hlearned) ?_ ?_
    · exact fun hpassing => hstaged.alone hs hpassing
    · intro hstate hsucceeded
      exact hlearned.hasAll hinformed hs ((hstaged.stage _ s hs).trans hstate) hsucceeded

theorem Rounded.informed (h : Rounded r r') (hinformed : r.device.Informed)
    (hstaged : r.device.Staged) : r'.device.Informed := by
  cases h with
  | resting => exact hinformed
  | skipped => exact hinformed.of_sessions rfl rfl rfl rfl
  | released _ _ _ _ hsent =>
    have hsame := hsent.sameCourse
    exact hinformed.of_sessions hsame.sessions hsame.metadata hsame.registry hsame.state
  | unsent _ hs _ _ haftermath =>
    refine haftermath.informed (hinformed.of_erase rfl rfl rfl rfl) ?_ ?_
    · exact fun hpassing => hstaged.alone hs hpassing
    · intro _ hsucceeded
      cases hsucceeded

/-! ### Calls -/

/-- After a refresh nothing is known, and nothing is assumed to be. -/
theorem Renewed.informed (h : Renewed r r') : r'.device.Informed := by
  have hnone := Metadata.get?_clearNegotiated r.device.memory.metadata
  have hparameters : r.device.memory.metadata.clearNegotiated.HasNone MetadataKey.parameters :=
    fun key hkey => hnone key (List.mem_append_left _ hkey)
  cases h with
  | @unready registry r₁ hsteady =>
    have hmetadata : r₁.device.memory.metadata = r.device.memory.metadata.clearNegotiated :=
      hsteady.metadata
    refine .of_idle (Or.inr ?_) hsteady.sessions (Or.inl rfl)
    show r₁.device.memory.metadata.HasNone _
    rw [hmetadata]
    exact hparameters
  | @negotiating registry r₁ r₂ _ hsteady hlaunched =>
    obtain ⟨s₂, -, hstage, hopening, hbegins⟩ := hlaunched.begins
    have hmetadata : r'.device.memory.metadata = r.device.memory.metadata.clearNegotiated :=
      hbegins.metadata.trans hsteady.metadata
    refine ⟨?_, fun hserving => ?_, fun id s phase hs htask => ?_⟩
    · rw [hmetadata]
      exact Or.inr hparameters
    · rw [hbegins.state] at hserving
      rcases hserving with hstate | hstate <;> cases hstate
    · rw [hbegins.sessions] at hs
      rcases Table.of_get?_insert hs with ⟨-, rfl⟩ | ⟨-, hs⟩
      · rw [htask] at hopening
        obtain rfl : phase = .redfish := of_decide_eq_true hopening
        rw [hmetadata]
        exact hnone
      · change r₁.device.sessions.get? id = some s at hs
        rw [hsteady.sessions] at hs
        cases hs

end DeviceRun

namespace DeviceHistory

variable {h h' : DeviceHistory}

theorem Called.informed (hcalled : Called h h') (hinformed : h.run.device.Informed)
    (hstaged : h.run.device.Staged) : h'.run.device.Informed := by
  cases hcalled with
  | steady hsteady =>
    exact hinformed.of_sessions hsteady.sessions hsteady.metadata hsteady.registry hsteady.state
  | disabled => exact .of_idle hinformed.parameters rfl (Or.inr (Or.inr rfl))
  | renewed hrenewed => exact hrenewed.informed
  | @operating r₁ r₂ _ hready hsteady hlaunched =>
    obtain ⟨s₂, -, hstage, -, hbegins⟩ := hlaunched.begins
    have hserved := (hinformed.served (Or.inl hready)).of_same
      (hbegins.metadata.trans hsteady.metadata) (hbegins.registry.trans hsteady.registry)
    refine .of_served hserved fun id s hs => ?_
    change r₂.device.sessions.get? id = some s at hs
    rw [hbegins.sessions, hsteady.sessions] at hs
    rcases Table.of_get?_insert hs with ⟨-, rfl⟩ | ⟨-, hs⟩
    · rw [hstage]
      decide
    · rw [hstaged.stage id s hs, hready]
      decide
  | @abandoned id state _ _ habandoned =>
    cases habandoned with
    | ended => exact hinformed
    | @marked s _ hs =>
      refine hinformed.of_same (fun other t ht => ?_) rfl rfl rfl
      change (h.run.device.sessions.insert id { s with state }).get? other = some t at ht
      rcases Table.of_get?_insert ht with ⟨rfl, rfl⟩ | ⟨-, ht⟩
      · exact ⟨s, hs, rfl⟩
      · exact ⟨t, ht, rfl⟩
    | forgotten => exact hinformed.of_erase rfl rfl rfl rfl

/-- Every stride keeps what is known where it should be. -/
theorem Strode.informed {answer : Option Answer} (hstrode : Strode h answer h')
    (hinformed : h.run.device.Informed) (hstaged : h.run.device.Staged) :
    h'.run.device.Informed := by
  cases hstrode with
  | called hcalled => exact hcalled.informed hinformed hstaged
  | settled _ hsettled =>
    exact hsettled.informed (hinformed.of_sessions rfl rfl rfl rfl)
      ⟨hstaged.stage, hstaged.latest⟩
  | rounded hrounded => exact hrounded.informed hinformed hstaged

end DeviceHistory

theorem Config.hasNone_metadata (c : Config) : c.metadata.HasNone MetadataKey.negotiated := by
  intro key hkey
  cases key <;> first | rfl | exact absurd hkey (by decide)

namespace DeviceLog

variable {config : Config} {others : DeviceRun → Host → Prop} {host : Host} {l : DeviceLog}

theorem Reachable.informed (hreachable : Reachable config others host l) :
    l.run.device.Informed := by
  refine hreachable.invariant (P := fun l => l.run.device.Informed) ?_ ?_ fun _ _ _ hinformed =>
    hinformed.of_sessions rfl rfl rfl rfl
  · intro setup _ _ _ _ _
    refine .of_idle (Or.inr fun key hkey => ?_) rfl (Or.inl rfl)
    exact setup.config.hasNone_metadata key (List.mem_append_left _ hkey)
  · intro l codec stride hl hinformed
    exact (hl.strode { config, codec } stride).informed hinformed hl.staged

end DeviceLog

/-! ## Where the terms come from -/

/-- Whether each term was carried by the response to a request of the current generation, unless the
    device is disabled. -/
def Device.SourcedBy (answers : List Answer) (d : Device) : Prop :=
  d.state ≠ .disabled → ∀ key ∈ MetadataKey.negotiated, ∀ field,
    d.memory.metadata.get? key = some field →
      ∃ answer ∈ answers, answer.request.generation = d.generation ∧
        ∃ bytes, answer.body = .ok bytes ∧ field.CarriedBy bytes

namespace Device

variable {d d' : Device} {answers answers' : List Answer}

theorem SourcedBy.of_same (h : d.SourcedBy answers)
    (hmetadata : d'.memory.metadata = d.memory.metadata)
    (hgeneration : d'.generation = d.generation) (hstate : d.state ≠ .disabled)
    (hanswers : answers ⊆ answers') : d'.SourcedBy answers' := by
  intro _ key hkey field hfield
  rw [hmetadata] at hfield
  obtain ⟨answer, hmem, hcurrent, hcarried⟩ := h hstate key hkey field hfield
  exact ⟨answer, hanswers hmem, hcurrent.trans hgeneration.symm, hcarried⟩

/-- What a device does without learning anything. -/
theorem SourcedBy.of_steady (h : d.SourcedBy answers)
    (hmetadata : d'.memory.metadata = d.memory.metadata)
    (hgeneration : d'.generation = d.generation) (hstate : d'.state = d.state) :
    d'.SourcedBy answers :=
  fun hserving => h.of_same hmetadata hgeneration (hstate ▸ hserving) (List.Subset.refl _) hserving

theorem sourcedBy_of_nothing (hnone : d.memory.metadata.HasNone MetadataKey.negotiated) :
    d.SourcedBy answers := by
  intro _ key hkey field hfield
  rw [hnone key hkey] at hfield
  cases hfield

end Device

namespace DeviceRun

variable {r r' : DeviceRun} {s : Session} {answers : List Answer}
  {outcome : Except Failure SessionOutput}

theorem Fetched.terms (h : Fetched r r') :
    r'.device.memory.metadata = r.device.memory.metadata ∧
      r'.device.generation = r.device.generation := by
  cases h with
  | idle hsteady => exact ⟨hsteady.metadata, hsteady.generation⟩
  | begun hsteady hlaunched =>
    obtain ⟨_, -, -, -, hbegins⟩ := hlaunched.begins
    exact ⟨hbegins.metadata.trans hsteady.metadata, hbegins.generation.trans hsteady.generation⟩

/-- What follows the end of a session changes no terms, and no session ends on a disabled device. -/
theorem Aftermath.terms (h : Aftermath r outcome r') :
    r.device.state ≠ .disabled ∧ r'.device.memory.metadata = r.device.memory.metadata ∧
      r'.device.generation = r.device.generation := by
  cases h with
  | reported hstate =>
    rw [hstate]
    exact ⟨by decide, rfl, rfl⟩
  | rejected hstate =>
    rw [hstate]
    exact ⟨by decide, rfl, rfl⟩
  | negotiated hstate _ hfetched =>
    rw [hstate]
    exact ⟨by decide, hfetched.terms⟩
  | fetched hstate hfetched =>
    rw [hstate]
    exact ⟨by decide, hfetched.terms⟩

/-- What a session has learned when it ends was there before, or the response carries it. -/
theorem Learned.carried {m m' : Metadata} {body : Except Failure Bytes} {task : SessionTask}
    (h : Learned m body task outcome m') {key : MetadataKey}
    (hkey : key ∈ MetadataKey.negotiated) {field : MetadataField}
    (hfield : m'.get? key = some field) :
    m.get? key = some field ∨ ∃ bytes, body = .ok bytes ∧ field.CarriedBy bytes := by
  cases h with
  | nothing => exact Or.inl hfield
  | taught hbody htaught _ =>
    rcases htaught.carried hkey hfield with hold | hcarried
    · exact Or.inl hold
    · exact Or.inr ⟨_, hbody, hcarried⟩

/-- Terms that were there before, or that the answer to a current request carries, have a source. -/
theorem sourcedBy_of_answer {request : PendingRequest} {body : Except Failure Bytes} {m' : Metadata}
    {d : Device} (hsourced : r.device.SourcedBy answers)
    (hcurrent : request.generation = r.device.generation)
    (hserving : r.device.state ≠ .disabled)
    (hcarried : ∀ key ∈ MetadataKey.negotiated, ∀ field, m'.get? key = some field →
      r.device.memory.metadata.get? key = some field ∨
        ∃ bytes, body = .ok bytes ∧ field.CarriedBy bytes)
    (hmetadata : d.memory.metadata = m') (hgeneration : d.generation = r.device.generation) :
    d.SourcedBy ({ request, body } :: answers) := by
  intro _ key hkey field hfield
  rw [hmetadata] at hfield
  rw [hgeneration]
  rcases hcarried key hkey field hfield with hold | hnew
  · obtain ⟨answer, hmem, hsource⟩ := hsourced hserving key hkey field hold
    exact ⟨answer, List.mem_cons_of_mem _ hmem, hsource⟩
  · exact ⟨_, List.mem_cons_self, hcurrent, hnew⟩

theorem Settled.sourcedBy {request : PendingRequest} {body : Except Failure Bytes}
    (h : Settled r request body r') (hstaged : r.device.Staged)
    (hsourced : r.device.SourcedBy answers) :
    r'.device.SourcedBy ({ request, body } :: answers) := by
  have hmore : answers ⊆ { request, body } :: answers := List.subset_cons_self ..
  cases h with
  | ignored => exact fun hserving => hsourced.of_same rfl rfl hserving hmore hserving
  | late => exact fun hserving => hsourced.of_same rfl rfl hserving hmore hserving
  | @continued s s' bytes memory _ _ hcurrent hs _ hbody htaught _ hplaced =>
    have hsame := hplaced.sameCourse
    have hserving : r.device.state ≠ .disabled := by
      rw [← hstaged.stage _ s hs]
      cases s.task <;> exact (fun hstage => by cases hstage)
    refine sourcedBy_of_answer hsourced hcurrent hserving (fun key hkey field hfield => ?_)
      hsame.metadata hsame.generation
    rcases htaught.carried hkey hfield with hold | hcarried
    · exact Or.inl hold
    · exact Or.inr ⟨bytes, hbody, hcarried⟩
  | ended hcurrent _ _ hlearned _ haftermath =>
    obtain ⟨hserving, hmetadata, hgeneration⟩ := haftermath.terms
    exact sourcedBy_of_answer hsourced hcurrent hserving
      (fun key hkey field hfield => hlearned.carried hkey hfield) hmetadata hgeneration

theorem Rounded.sourcedBy (h : Rounded r r') (hsourced : r.device.SourcedBy answers) :
    r'.device.SourcedBy answers := by
  cases h with
  | resting => exact hsourced
  | skipped => exact hsourced.of_steady rfl rfl rfl
  | released _ _ _ _ hsent =>
    have hsame := hsent.sameCourse
    exact hsourced.of_steady hsame.metadata hsame.generation hsame.state
  | unsent _ _ _ _ haftermath =>
    obtain ⟨hserving, hmetadata, hgeneration⟩ := haftermath.terms
    exact hsourced.of_same hmetadata hgeneration hserving (List.Subset.refl _)

theorem Renewed.sourcedBy (h : Renewed r r') : r'.device.SourcedBy answers := by
  have hnone := Metadata.get?_clearNegotiated r.device.memory.metadata
  have hcleared : ∀ {d : Device}, d.memory.metadata = r.device.memory.metadata.clearNegotiated →
      d.SourcedBy answers :=
    fun hmetadata => Device.sourcedBy_of_nothing (hmetadata ▸ hnone)
  cases h with
  | unready hsteady => exact hcleared hsteady.metadata
  | negotiating hsteady hlaunched =>
    obtain ⟨_, -, -, -, hbegins⟩ := hlaunched.begins
    exact hcleared (hbegins.metadata.trans hsteady.metadata)

end DeviceRun

namespace DeviceHistory

variable {h h' : DeviceHistory} {answers : List Answer}

theorem Called.sourcedBy (hcalled : Called h h') (hsourced : h.run.device.SourcedBy answers) :
    h'.run.device.SourcedBy answers := by
  cases hcalled with
  | steady hsteady =>
    exact hsourced.of_steady hsteady.metadata hsteady.generation hsteady.state
  | disabled => exact fun hserving => absurd rfl hserving
  | renewed hrenewed => exact hrenewed.sourcedBy
  | operating _ hsteady hlaunched =>
    obtain ⟨_, -, -, -, hbegins⟩ := hlaunched.begins
    exact hsourced.of_steady (hbegins.metadata.trans hsteady.metadata)
      (hbegins.generation.trans hsteady.generation) (hbegins.state.trans hsteady.state)
  | abandoned _ habandoned =>
    cases habandoned with
    | ended => exact hsourced
    | marked => exact hsourced.of_steady rfl rfl rfl
    | forgotten => exact hsourced.of_steady rfl rfl rfl

/-- Every stride keeps the terms to what the answers of the current generation carry. -/
theorem Strode.sourcedBy {answer : Option Answer} (hstrode : Strode h answer h')
    (hstaged : h.run.device.Staged) (hsourced : h.run.device.SourcedBy answers) :
    h'.run.device.SourcedBy (answer.toList ++ answers) := by
  cases hstrode with
  | called hcalled => exact hcalled.sourcedBy hsourced
  | settled _ hsettled =>
    exact hsettled.sourcedBy ⟨hstaged.stage, hstaged.latest⟩ (hsourced.of_steady rfl rfl rfl)
  | rounded hrounded => exact hrounded.sourcedBy hsourced

end DeviceHistory

namespace DeviceLog

variable {config : Config} {others : DeviceRun → Host → Prop} {host : Host} {l : DeviceLog}

theorem Reachable.sourcedBy (hreachable : Reachable config others host l) :
    l.run.device.SourcedBy l.answers := by
  refine hreachable.invariant (P := fun l => l.run.device.SourcedBy l.answers) ?_ ?_
    fun _ _ _ hsourced => hsourced
  · exact fun setup _ _ _ _ _ => Device.sourcedBy_of_nothing setup.config.hasNone_metadata
  · intro l codec stride hl hsourced
    exact (hl.strode { config, codec } stride).sourcedBy hl.staged hsourced

end DeviceLog

/-! ## Missing metadata -/

/-- Whether a transport may say that this field is missing when it refuses a request. -/
def Transport.Misses (t : Transport) (key : MetadataKey) : Prop :=
  ∃ attempt request, t.refusal attempt request = some (.model (.missingMetadata key))

namespace DeviceRun

variable {r : DeviceRun} {id : SessionId} {out : Outgoing} {key : MetadataKey}

theorem misses_of_sendNow (h : (r.sendNow id out).1 = .error (.model (.missingMetadata key))) :
    r.host.transport.Misses key := by
  unfold sendNow at h
  dsimp only at h
  split at h
  · rename_i e hallocate
    cases h
    unfold InstanceIds.allocate at hallocate
    split at hallocate <;> cases hallocate
  · split at h
    · cases h
    · split at h
      · rename_i e transport hsend
        cases h
        unfold Transport.send at hsend
        dsimp only at hsend
        split at hsend
        · rename_i hrefusal
          cases hsend
          exact ⟨_, _, hrefusal⟩
        · cases hsend
      · cases h

theorem misses_of_launch {s : Session}
    (h : (r.launch id s out).1 = .error (.model (.missingMetadata key))) :
    r.host.transport.Misses key := by
  have hdispatch : ((r.keepSession id s).dispatch id out).1 =
      .error (.model (.missingMetadata key)) := by
    unfold launch at h
    split at h
    · cases h
    · rename_i heq
      rw [heq]
      cases h
      rfl
  unfold dispatch at hdispatch
  split at hdispatch
  · have hsent : (r.keepSession id s).host.transport.Misses key := misses_of_sendNow hdispatch
    exact hsent
  · cases hdispatch

/-- A session begins as its task does. -/
theorem result_start_operation (request : OperationRequest) (operationId : UInt16)
    (scope : SessionScope) (memory : DeviceMemory) :
    ((Session.operation request operationId).start scope memory).1 =
      (({ request, operationId } : Operation).start scope memory).1 := by
  show (Session.start { task := .operation { request, operationId } } scope memory).1 = _
  unfold Session.start
  rw [if_neg (fun hidle => hidle rfl)]
  rcases hstart : ({ request, operationId } : Operation).start scope memory with
    ⟨_ | step, o, memory'⟩
  all_goals simp only [SessionTask.start, hstart]

/-- An operation that begins lacks no metadata when the terms are there. -/
theorem misses_of_startSession {setup : Setup} {request : OperationRequest} {operationId : UInt16}
    (hterms : r.device.memory.metadata.HasAll MetadataKey.negotiated)
    (h : (r.startSession setup (.operation request operationId)).1 =
      .error (.model (.missingMetadata key))) :
    setup.codec.Misses key ∨ r.host.transport.Misses key := by
  have hchunk : r.device.memory.metadata.deviceMaxChunk.isSome = true := by
    have hset := hterms .deviceMaxChunk (by decide)
    exact (Option.isSome_map ..).symm.trans hset
  have hresult := result_start_operation request operationId (r.device.scope setup) r.device.memory
  rw [startSession_eq] at h
  split at h
  · rename_i e s' memory hstart
    rw [hstart] at hresult
    cases h
    have hmisses : (r.device.scope setup).codec.Misses key :=
      Operation.misses_of_start hchunk hresult.symm
    exact Or.inl hmisses
  · rename_i out s' memory _
    have hlaunched : (r.begun memory).host.transport.Misses key := misses_of_launch h
    exact Or.inr hlaunched
  · cases h

/-- A device that is ready lacks no metadata for an operation. -/
theorem misses_of_startOperation {setup : Setup} {request : OperationRequest}
    (hterms : r.device.memory.metadata.HasAll MetadataKey.negotiated)
    (h : (r.startOperation setup request).1 = .error (.model (.missingMetadata key))) :
    setup.codec.Misses key ∨ r.host.transport.Misses key := by
  unfold startOperation at h
  split at h
  · cases h
  · split at h
    · cases h
    · let r₁ : DeviceRun := { r with
        device.nextOperationId := Device.operationIdAfter r.device.nextOperationId }
      have hmisses : setup.codec.Misses key ∨ r₁.host.transport.Misses key :=
        misses_of_startSession hterms h
      exact hmisses

end DeviceRun

/-! ## Results -/

namespace DeviceLog

variable {config : Config} {others : DeviceRun → Host → Prop} {host : Host} {l : DeviceLog}

/-- In every log of a device, and so in every history, whatever others do to its host: if the device
    is ready or busy, all terms are set and every resource supports the operations that both sides
    support.  The five parameters of the first response are set together.  An operation that a ready
    device refuses to begin for want of metadata is one of which the codec or the transport says so
    by itself.  And whatever term is set, it was carried by the response to a request that was sent
    since the last refresh, unless the device is disabled, and then it has no sessions. -/
theorem ready_means_negotiated (hreachable : Reachable config others host l) :
    (l.run.device.state = .ready ∨ l.run.device.state = .busy →
      l.run.device.memory.metadata.HasAll MetadataKey.negotiated ∧
      ∀ resource ∈ l.run.device.registry.entries.values,
        resource.operations = l.run.device.supportedOperations) ∧
    (l.run.device.memory.metadata.HasAll MetadataKey.parameters ∨
      l.run.device.memory.metadata.HasNone MetadataKey.parameters) ∧
    (l.run.device.state = .ready → ∀ codec request key,
      (l.run.startOperation { config, codec } request).1 =
        .error (.model (.missingMetadata key)) →
      codec.Misses key ∨ l.run.host.transport.Misses key) ∧
    (l.run.device.state ≠ .disabled → ∀ key ∈ MetadataKey.negotiated, ∀ field,
      l.run.device.memory.metadata.get? key = some field →
        ∃ answer ∈ l.answers, answer.request.generation = l.run.device.generation ∧
          ∃ bytes, answer.body = .ok bytes ∧ field.CarriedBy bytes) ∧
    (l.run.device.state = .disabled → l.run.device.sessions = {}) := by
  have hinformed := hreachable.informed
  refine ⟨fun hserving => ?_, hinformed.parameters, fun hready codec request key hmissing => ?_,
    hreachable.sourcedBy, fun hdisabled => ?_⟩
  · have hserved := hinformed.served hserving
    exact ⟨hserved.terms, hserved.operations⟩
  · have hserved := hinformed.served (Or.inl hready)
    exact DeviceRun.misses_of_startOperation hserved.terms hmissing
  · refine Table.eq_empty_of_missing fun id => ?_
    cases hs : l.run.device.sessions.get? id with
    | none => rfl
    | some s =>
      have hstage := (hreachable.staged.stage id s hs).trans hdisabled
      cases htask : s.task <;> rw [htask] at hstage <;> cases hstage

/-- In the sample the device is ready: its resource supports three operations, and the number of
    requests that it takes was carried by the first response. -/
theorem ready_means_negotiated_sample :
    sampleLog.run.device.state = .ready ∧
    sampleLog.run.device.memory.metadata.HasAll MetadataKey.negotiated ∧
    (∀ resource ∈ sampleLog.run.device.registry.entries.values,
      resource.operations = [.head, .read, .update]) ∧
    (∀ request key, (sampleLog.run.startOperation DeviceHistory.sampleSetup request).1 =
      .error (.model (.missingMetadata key)) → sampleLog.run.host.transport.Misses key) ∧
    ∃ answer ∈ sampleLog.answers, answer.request.generation = 1 ∧
      ∃ bytes, answer.body = .ok bytes ∧
        (MetadataField.deviceConcurrency 1).CarriedBy bytes := by
  have hstate : sampleLog.run.device.state = .ready := by decide +kernel
  have hgeneration : sampleLog.run.device.generation = 1 := by decide +kernel
  have hoperations : sampleLog.run.device.supportedOperations = [.head, .read, .update] := by
    decide +kernel
  have hconcurrency : sampleLog.run.device.memory.metadata.get? .deviceConcurrency =
      some (.deviceConcurrency 1) := by decide +kernel
  obtain ⟨hserved, -, hmissing, hsource, -⟩ :=
    ready_means_negotiated (reachable_sampleLog DeviceRun.Respected)
  obtain ⟨hterms, hresources⟩ := hserved (Or.inl hstate)
  rw [hoperations] at hresources
  rw [hgeneration] at hsource
  refine ⟨hstate, hterms, hresources, fun request key herror => ?_, ?_⟩
  · rcases hmissing hstate _ request key herror with ⟨_, _, _, hcodec⟩ | htransport
    · cases hcodec
    · exact htransport
  · exact hsource (by rw [hstate]; decide) .deviceConcurrency (by decide) _ hconcurrency

end DeviceLog

end DeviceEnablement
