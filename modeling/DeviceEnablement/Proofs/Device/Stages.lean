/-
  The state of a device and its sessions.

  A negotiation belongs to the state `discovering`, a download to `busy`, and an operation to `ready`.
  Every session of a device belongs to its state, and in the first two states there is one session at
  the most, the latest one (`Device.Staged`).  So a device leaves these states when that session ends.
  If the session is given up instead, nothing moves the device on.

  1. `Strode.staged`: every stride keeps the sessions in their state, since the table is empty
     whenever the state changes (`Staged.alone`).
  2. `Watched`: in the two passing states the latest session is live, or was given up.
  3. `passing_state_watched`: so it is in every history, and `given_up_in_passing_state` shows a device
     that is left in such a state without anything that could move it on.
-/
import DeviceEnablement.Proofs.Device.Outcomes

namespace DeviceEnablement

/-! ## Sessions and states -/

namespace Device

variable {d d' : Device} {id : SessionId} {s : Session}

theorem staged_of_empty (hsessions : d.sessions = {}) : d.Staged := by
  have hnone : ∀ id s, d.sessions.get? id ≠ some s := by
    intro id s hs
    rw [hsessions] at hs
    cases hs
  exact ⟨fun id s hs => absurd hs (hnone id s), fun _ id s hs => absurd hs (hnone id s)⟩

theorem Staged.of_same (h : d.Staged) (hsessions : d'.sessions = d.sessions)
    (hstate : d'.state = d.state) (hnext : d.state = .ready ∨ d'.nextSession = d.nextSession) :
    d'.Staged := by
  constructor
  · rw [hsessions, hstate]
    exact h.stage
  · rw [hsessions, hstate]
    intro hstate id s hs
    rw [hnext.resolve_left hstate]
    exact h.latest hstate id s hs

theorem Staged.of_erase (h : d.Staged) (hsessions : d'.sessions = d.sessions.erase id)
    (hstate : d'.state = d.state) (hnext : d'.nextSession = d.nextSession) : d'.Staged := by
  constructor
  · intro other s hs
    rw [hsessions] at hs
    rw [hstate]
    exact h.stage other s (Table.of_get?_erase hs).2
  · intro hpassing other s hs
    rw [hsessions] at hs
    rw [hstate] at hpassing
    rw [hnext]
    exact h.latest hpassing other s (Table.of_get?_erase hs).2

/-- A session that is replaced by one of its kind belongs to the same state. -/
theorem Staged.of_replaced (h : d.Staged) (hs : d.sessions.get? id = some s) {s' : Session}
    (hkind : s'.task.stage = s.task.stage) (hsessions : d'.sessions = d.sessions.insert id s')
    (hstate : d'.state = d.state) (hnext : d'.nextSession = d.nextSession) : d'.Staged := by
  constructor
  · intro other t ht
    rw [hsessions] at ht
    rw [hstate]
    rcases Table.of_get?_insert ht with ⟨-, rfl⟩ | ⟨-, ht⟩
    · exact hkind.trans (h.stage id s hs)
    · exact h.stage other t ht
  · intro hpassing other t ht
    rw [hsessions] at ht
    rw [hstate] at hpassing
    rw [hnext]
    rcases Table.of_get?_insert ht with ⟨rfl, -⟩ | ⟨-, ht⟩
    · exact h.latest hpassing other s hs
    · exact h.latest hpassing other t ht

/-- Unless a device is ready, it has one session at the most. -/
theorem Staged.alone (h : d.Staged) (hs : d.sessions.get? id = some s)
    (hpassing : d.state ≠ .ready) : d.sessions.erase id = {} := by
  refine Table.eq_empty_of_missing fun other => ?_
  rw [Table.get?_erase]
  split
  · rfl
  · rename_i hne
    cases ht : d.sessions.get? other with
    | none => rfl
    | some t =>
      have hid := h.latest hpassing id s hs
      have hother := h.latest hpassing other t ht
      have hsame : other.value = id.value := by omega
      exact absurd (congrArg SessionId.mk hsame) hne

end Device

namespace DeviceRun

variable {r r' : DeviceRun} {id : SessionId} {s : Session} {d : Device}

/-- A session that begins is the only one, if there was none before. -/
theorem Begins.staged_of_empty (hbegins : Begins r id s r') (hempty : r.device.sessions = {})
    (hsessions : d.sessions = r'.device.sessions) (hnext : d.nextSession = r'.device.nextSession)
    (hstage : s.task.stage = d.state) : d.Staged := by
  have honly : ∀ other t, d.sessions.get? other = some t → other = id ∧ t = s := by
    intro other t ht
    rw [hsessions, hbegins.sessions, hempty] at ht
    rcases Table.of_get?_insert ht with hsame | ⟨-, ht⟩
    · exact hsame
    · cases ht
  constructor
  · intro other t ht
    obtain ⟨-, rfl⟩ := honly other t ht
    exact hstage
  · intro _ other t ht
    obtain ⟨rfl, -⟩ := honly other t ht
    rw [hnext, hbegins.next, hbegins.number]
    rfl

/-- An operation that begins joins others. -/
theorem Begins.staged_of_ready (hbegins : Begins r id s r') (hstaged : r.device.Staged)
    (hready : r.device.state = .ready) (hstage : s.task.stage = .ready) : r'.device.Staged := by
  have hready' : r'.device.state = .ready := hbegins.state.trans hready
  constructor
  · intro other t ht
    rw [hbegins.sessions] at ht
    rw [hready']
    rcases Table.of_get?_insert ht with ⟨-, rfl⟩ | ⟨-, ht⟩
    · exact hstage
    · exact (hstaged.stage other t ht).trans hready
  · exact fun hpassing => absurd hready' hpassing

theorem Fetched.staged (h : Fetched r r') (hempty : r.device.sessions = {}) :
    r'.device.Staged := by
  cases h with
  | idle hsteady => exact Device.staged_of_empty (hsteady.sessions.trans hempty)
  | begun hsteady hlaunched =>
    obtain ⟨s, -, hstage, -, hbegins⟩ := hlaunched.begins
    exact hbegins.staged_of_empty (hsteady.sessions.trans hempty) rfl rfl hstage

theorem Aftermath.staged {outcome : Except Failure SessionOutput} (h : Aftermath r outcome r')
    (hstaged : r.device.Staged)
    (hempty : r.device.state ≠ .ready → r.device.sessions = {}) : r'.device.Staged := by
  have hpassing : ∀ {state : DeviceState}, r.device.state = state → state ≠ .ready →
      r.device.sessions = {} := fun heq hne => hempty (heq ▸ hne)
  cases h with
  | reported => exact hstaged.of_same rfl rfl (Or.inr rfl)
  | rejected hstate => exact Device.staged_of_empty (hpassing hstate (by decide))
  | negotiated hstate _ hfetched => exact hfetched.staged (hpassing hstate (by decide))
  | fetched hstate hfetched => exact hfetched.staged (hpassing hstate (by decide))

/-- When a session ends, what follows finds the others in their state. -/
theorem Aftermath.staged_of_dropped {outcome : Except Failure SessionOutput}
    (h : Aftermath (r.dropSession id) outcome r') (hstaged : r.device.Staged)
    (hs : r.device.sessions.get? id = some s) : r'.device.Staged :=
  h.staged (hstaged.of_erase rfl rfl rfl) fun hpassing => hstaged.alone hs hpassing

theorem Settled.staged {request : PendingRequest} {body : Except Failure Bytes}
    (h : Settled r request body r') (hstaged : r.device.Staged) : r'.device.Staged := by
  cases h with
  | ignored => exact hstaged
  | late => exact hstaged.of_erase rfl rfl rfl
  | continued _ hs _ _ htaught _ hplaced =>
    have hsame := hplaced.sameCourse
    exact hstaged.of_replaced hs htaught.stage_eq hsame.sessions hsame.state hsame.next
  | @ended s memory host _ _ _ hs _ _ _ haftermath =>
    have hlearned : ({ r with host, device.memory := memory } : DeviceRun).device.Staged :=
      hstaged.of_same rfl rfl (Or.inr rfl)
    exact haftermath.staged_of_dropped hlearned hs

theorem Rounded.staged (h : Rounded r r') (hstaged : r.device.Staged) : r'.device.Staged := by
  cases h with
  | resting => exact hstaged
  | skipped => exact hstaged.of_same rfl rfl (Or.inr rfl)
  | released _ _ _ _ hsent =>
    have hsame := hsent.sameCourse
    exact hstaged.of_same hsame.sessions hsame.state (Or.inr hsame.next)
  | @unsent _ _ _ rest _ host _ _ hs _ _ haftermath =>
    have hpopped : ({ r with host, device.waiting := rest } : DeviceRun).device.Staged :=
      hstaged.of_same rfl rfl (Or.inr rfl)
    exact haftermath.staged_of_dropped hpopped hs

theorem Renewed.staged (h : Renewed r r') : r'.device.Staged := by
  cases h with
  | unready hsteady => exact Device.staged_of_empty hsteady.sessions
  | negotiating hsteady hlaunched =>
    obtain ⟨s, -, hstage, -, hbegins⟩ := hlaunched.begins
    exact hbegins.staged_of_empty hsteady.sessions rfl rfl (hstage.trans hbegins.state.symm)

end DeviceRun

namespace DeviceHistory

variable {h h' : DeviceHistory}

theorem Called.staged (hcalled : Called h h') (hstaged : h.run.device.Staged) :
    h'.run.device.Staged := by
  cases hcalled with
  | steady hsteady hnext => exact hstaged.of_same hsteady.sessions hsteady.state hnext
  | disabled => exact Device.staged_of_empty rfl
  | renewed hrenewed => exact hrenewed.staged
  | operating hready hsteady hlaunched =>
    obtain ⟨s, -, hstage, -, hbegins⟩ := hlaunched.begins
    have hsteadied := hstaged.of_same hsteady.sessions hsteady.state (Or.inl hready)
    exact hbegins.staged_of_ready hsteadied (hsteady.state.trans hready) hstage
  | @abandoned _ state _ _ habandoned =>
    cases habandoned with
    | ended => exact hstaged
    | @marked s _ hs =>
      have hkind : ({ s with state } : Session).task.stage = s.task.stage := rfl
      exact hstaged.of_replaced hs hkind rfl rfl rfl
    | forgotten => exact hstaged.of_erase rfl rfl rfl

/-- Every stride keeps the sessions in the state to which they belong. -/
theorem Strode.staged {answer : Option Answer} (hstrode : Strode h answer h')
    (hstaged : h.run.device.Staged) : h'.run.device.Staged := by
  cases hstrode with
  | called hcalled => exact hcalled.staged hstaged
  | settled _ hsettled => exact hsettled.staged ⟨hstaged.stage, hstaged.latest⟩
  | rounded hrounded => exact hrounded.staged hstaged

end DeviceHistory

namespace DeviceLog

variable {config : Config} {others : DeviceRun → Host → Prop} {host : Host} {l : DeviceLog}

theorem Reachable.staged (hreachable : Reachable config others host l) : l.run.device.Staged := by
  refine hreachable.invariant (P := fun l => l.run.device.Staged) ?_ ?_ fun _ _ _ hstaged => hstaged
  · exact fun _ _ _ _ _ _ => Device.staged_of_empty rfl
  · intro l codec stride hl hstaged
    exact (l.toDeviceHistory.strode_stride _ hl.balanced.orderly hstaged stride).staged hstaged

/-- What each stride of a log comes to. -/
theorem Reachable.strode (hreachable : Reachable config others host l) (setup : Setup)
    (stride : Stride) :
    DeviceHistory.Strode l.toDeviceHistory (l.run.answer? stride)
      (l.toDeviceHistory.stride setup stride) :=
  l.toDeviceHistory.strode_stride setup hreachable.balanced.orderly hreachable.staged stride

end DeviceLog

/-! ## Passing states -/

/-- Whether a device is in this state only until a session ends. -/
def DeviceState.isPassing : DeviceState → Bool
  | discovering | busy => true
  | _ => false

namespace DeviceHistory

variable {h h' : DeviceHistory}

/-- Whether the latest session, which is no operation, is live or was given up as long as the device
    is in a passing state. -/
def Watched (h : DeviceHistory) : Prop :=
  h.run.device.state.isPassing = true → ∃ id : SessionId, id.value + 1 = h.run.device.nextSession ∧
    id ∉ h.ledger.started ∧
    (id ∈ h.ledger.givenUp ∨ ∃ s, h.run.device.sessions.get? id = some s ∧ s.state = .waiting)

/-- A device in a lasting state need not be watched. -/
theorem watched_of_lasting (hstate : h.run.device.state.isPassing = false) : h.Watched := by
  intro hpassing
  rw [hstate] at hpassing
  cases hpassing

/-- As long as the latest session stays as it is, the device is watched. -/
theorem Watched.of_same (hw : h.Watched) (hstate : h'.run.device.state = h.run.device.state)
    (hnext : h'.run.device.nextSession = h.run.device.nextSession)
    (hledger : h'.ledger.started = h.ledger.started ∧ h.ledger.givenUp ⊆ h'.ledger.givenUp)
    (hsessions : ∀ id s, h.run.device.sessions.get? id = some s → s.state = .waiting →
      id ∈ h'.ledger.givenUp ∨ ∃ s', h'.run.device.sessions.get? id = some s' ∧
        s'.state = .waiting) : h'.Watched := by
  intro hpassing
  rw [hstate] at hpassing
  obtain ⟨id, hlatest, hother, hgone | ⟨s, hs, hwaits⟩⟩ := hw hpassing
  · exact ⟨id, hlatest.trans hnext.symm, hledger.1.symm ▸ hother, Or.inl (hledger.2 hgone)⟩
  · exact ⟨id, hlatest.trans hnext.symm, hledger.1.symm ▸ hother, hsessions id s hs hwaits⟩

/-- When a session is given up, and the others stay as they are, the device is watched. -/
theorem Watched.of_givenUp (hw : h.Watched) {id : SessionId}
    (hstate : h'.run.device.state = h.run.device.state)
    (hnext : h'.run.device.nextSession = h.run.device.nextSession)
    (hstarted : h'.ledger.started = h.ledger.started)
    (hgivenUp : h'.ledger.givenUp = id :: h.ledger.givenUp)
    (hothers : ∀ other, other ≠ id →
      h'.run.device.sessions.get? other = h.run.device.sessions.get? other) : h'.Watched := by
  refine hw.of_same hstate hnext ⟨hstarted, ?_⟩ fun other s hs hwaits => ?_
  · rw [hgivenUp]
    exact List.subset_cons_self ..
  · by_cases hother : other = id
    · rw [hgivenUp, hother]
      exact Or.inl List.mem_cons_self
    · rw [hothers other hother]
      exact Or.inr ⟨s, hs, hwaits⟩

variable {r r₁ : DeviceRun} {id : SessionId} {s : Session}

/-- A device is watched by a session that has just begun. -/
theorem watched_of_begins (hbalanced : h.Balanced) (hwaits : s.state = .waiting)
    (hbegins : DeviceRun.Begins r₁ id s r)
    (hgrown : h.run.device.nextSession ≤ r₁.device.nextSession)
    (hledger : h'.ledger.started = h.ledger.started)
    (hsessions : h'.run.device.sessions = r.device.sessions)
    (hnext : h'.run.device.nextSession = r.device.nextSession) : h'.Watched := by
  intro _
  refine ⟨id, ?_, ?_, Or.inr ⟨s, ?_, hwaits⟩⟩
  · rw [hnext, hbegins.next, hbegins.number]
    rfl
  · rw [hledger, hbegins.number]
    intro hstarted
    have hlt : r₁.device.nextSession < h.run.device.nextSession :=
      hbalanced.startedNumbers _ hstarted
    omega
  · rw [hsessions, hbegins.sessions, Table.get?_insert, if_pos rfl]

theorem watched_fetched (hbalanced : h.Balanced) (hfetched : DeviceRun.Fetched r₁ r)
    (hgrown : h.run.device.nextSession ≤ r₁.device.nextSession)
    (hledger : h'.ledger.started = h.ledger.started) (hrun : h'.run = r) : h'.Watched := by
  cases hfetched with
  | idle => exact watched_of_lasting (by rw [hrun]; rfl)
  | begun hsteady hlaunched =>
    obtain ⟨s, hwaits, -, -, hbegins⟩ := hlaunched.begins
    exact watched_of_begins hbalanced hwaits hbegins (Nat.le_trans hgrown hsteady.next) hledger
      (by rw [hrun]) (by rw [hrun])

/-- When a session ends, the device turns to a lasting state or the next session begins. -/
theorem watched_aftermath (hbalanced : h.Balanced) {outcome : Except Failure SessionOutput}
    (haftermath : DeviceRun.Aftermath r₁ outcome r)
    (hgrown : h.run.device.nextSession ≤ r₁.device.nextSession)
    (hledger : h'.ledger.started = h.ledger.started) (hrun : h'.run = r) : h'.Watched := by
  cases haftermath with
  | reported hready =>
    refine watched_of_lasting ?_
    rw [hrun]
    show r₁.device.state.isPassing = false
    rw [hready]
    rfl
  | @rejected _ e _ =>
    refine watched_of_lasting ?_
    rw [hrun]
    show (DeviceRun.stateAfterNegotiation e).isPassing = false
    rcases DeviceRun.stateAfterNegotiation_cases e with hstate | hstate <;> rw [hstate] <;> rfl
  | negotiated _ _ hfetched => exact watched_fetched hbalanced hfetched hgrown hledger hrun
  | fetched _ hfetched => exact watched_fetched hbalanced hfetched hgrown hledger hrun

theorem Called.watched (hcalled : Called h h') (hbalanced : h.Balanced) (hw : h.Watched) :
    h'.Watched := by
  cases hcalled with
  | @steady r hsteady hnext =>
    intro hpassing
    have hstate : h.run.device.state.isPassing = true := by
      rw [← hsteady.state]
      exact hpassing
    have hsame : r.device.nextSession = h.run.device.nextSession := by
      refine hnext.resolve_left fun hready => ?_
      rw [hready] at hstate
      cases hstate
    obtain ⟨id, hlatest, hother, hlive⟩ := hw hstate
    refine ⟨id, hlatest.trans hsame.symm, hother, ?_⟩
    show _ ∨ ∃ s, r.device.sessions.get? id = some s ∧ _
    rw [hsteady.sessions]
    exact hlive
  | disabled => exact watched_of_lasting rfl
  | renewed hrenewed =>
    cases hrenewed with
    | unready => exact watched_of_lasting rfl
    | negotiating hsteady hlaunched =>
      obtain ⟨s, hwaits, -, -, hbegins⟩ := hlaunched.begins
      exact watched_of_begins hbalanced hwaits hbegins hsteady.next rfl rfl rfl
  | @operating r₁ r₂ id hready hsteady hlaunched =>
    obtain ⟨s, -, -, -, hbegins⟩ := hlaunched.begins
    refine watched_of_lasting ?_
    show r₂.device.state.isPassing = false
    rw [hbegins.state, hsteady.state, hready]
    rfl
  | @abandoned id state _ _ habandoned =>
    cases habandoned with
    | ended => exact hw
    | marked =>
      refine hw.of_givenUp rfl rfl rfl rfl fun other hne => ?_
      exact (Table.get?_insert ..).trans (if_neg hne)
    | forgotten =>
      refine hw.of_givenUp rfl rfl rfl rfl fun other hne => ?_
      exact (Table.get?_erase ..).trans (if_neg hne)

theorem Strode.watched {answer : Option Answer} (hstrode : Strode h answer h')
    (hbalanced : h.Balanced) (hw : h.Watched) : h'.Watched := by
  cases hstrode with
  | called hcalled => exact hcalled.watched hbalanced hw
  | @settled instanceId request body r _ hsettled =>
    cases hsettled with
    | ignored =>
      exact hw.of_same rfl rfl ⟨rfl, List.Subset.refl _⟩ fun _ s hs hwaits => Or.inr ⟨s, hs, hwaits⟩
    | @late s₀ _ hs₀ habandoned =>
      -- The session that is forgotten was given up, so it is not the live one.
      refine hw.of_same rfl rfl ⟨rfl, List.Subset.refl _⟩ fun other s hs hwaits => ?_
      refine Or.inr ⟨s, ?_, hwaits⟩
      show (h.run.device.sessions.erase request.session).get? other = some s
      rw [Table.get?_erase, if_neg]
      · exact hs
      · rintro rfl
        obtain rfl := Option.some.inj (hs₀.symm.trans hs)
        rw [hwaits] at habandoned
        cases habandoned
    | @continued _ s' _ _ _ _ _ _ _ _ _ hwaits' hplaced =>
      have hsame := hplaced.sameCourse
      refine hw.of_same hsame.state hsame.next ⟨rfl, List.Subset.refl _⟩ fun other s hs hwaits => ?_
      show _ ∨ ∃ s', r.device.sessions.get? other = some s' ∧ s'.state = .waiting
      rw [hsame.sessions]
      show _ ∨ ∃ t, (h.run.device.sessions.insert request.session s').get? other = some t ∧ _
      rw [Table.get?_insert]
      split
      · exact Or.inr ⟨s', rfl, hwaits'⟩
      · exact Or.inr ⟨s, hs, hwaits⟩
    | ended _ _ _ _ _ haftermath =>
      exact watched_aftermath hbalanced haftermath (Nat.le_refl _) rfl rfl
  | @rounded r hrounded =>
    cases hrounded with
    | resting => exact hw
    | skipped =>
      exact hw.of_same rfl rfl ⟨rfl, List.Subset.refl _⟩ fun _ s hs hwaits => Or.inr ⟨s, hs, hwaits⟩
    | released _ _ _ _ hsent =>
      have hsame := hsent.sameCourse
      refine hw.of_same hsame.state hsame.next ⟨rfl, List.Subset.refl _⟩ fun other s hs hwaits => ?_
      have hfound : r.device.sessions.get? other = some s := by
        rw [hsame.sessions]
        exact hs
      exact Or.inr ⟨s, hfound, hwaits⟩
    | unsent _ _ _ _ haftermath =>
      exact watched_aftermath hbalanced haftermath (Nat.le_refl _) rfl rfl

end DeviceHistory

namespace DeviceLog

variable {config : Config} {others : DeviceRun → Host → Prop} {host : Host} {l : DeviceLog}

theorem Reachable.watched (hreachable : Reachable config others host l) : l.Watched := by
  refine hreachable.invariant (P := fun l => l.Watched) ?_ ?_ fun _ _ _ hw => hw
  · exact fun _ _ _ _ _ _ => DeviceHistory.watched_of_lasting rfl
  · intro l codec stride hl hw
    exact (hl.strode { config, codec } stride).watched hl.balanced hw

end DeviceLog

namespace DeviceHistory

variable {config : Config} {others : DeviceRun → Host → Prop} {host : Host} {h : DeviceHistory}

/-- In a passing state the latest session is live, belongs to the state and has its request, unless
    it was given up. -/
theorem Reachable.watched (hreachable : Reachable config DeviceRun.Respected host h)
    (hpassing : h.run.device.state.isPassing = true) :
    ∃ id : SessionId, id.value + 1 = h.run.device.nextSession ∧ id ∉ h.ledger.started ∧
      (id ∈ h.ledger.givenUp ∨ ∃ s, h.run.device.sessions.get? id = some s ∧ s.state = .waiting ∧
        s.task.stage = h.run.device.state ∧
        h.run.device.outstandingOf id + h.run.device.queuedOf id = 1) := by
  obtain ⟨l, hl, rfl⟩ := DeviceLog.logged_of_reachable hreachable
  obtain ⟨id, hlatest, hother, hgone | ⟨s, hs, hwaits⟩⟩ := hl.watched hpassing
  · exact ⟨id, hlatest, hother, Or.inl hgone⟩
  · have hone := (hreachable.sound.coherent.of_found hs).1
    exact ⟨id, hlatest, hother, Or.inr ⟨s, hs, hwaits, hl.staged.stage id s hs, hone⟩⟩

/-- In every history in which others respect the device: while the device is discovering, the latest
    session is a negotiation that waits for the response to its one request, which is outstanding or
    held back; while the device is busy, it is a download that does so.  The only exception is that
    this session, which is none of the operations that callers have started, was given up. -/
theorem passing_state_watched (hreachable : Reachable config DeviceRun.Respected host h) :
    (h.run.device.state = .discovering →
      ∃ id : SessionId, id.value + 1 = h.run.device.nextSession ∧ id ∉ h.ledger.started ∧
        (id ∈ h.ledger.givenUp ∨ ∃ s, h.run.device.sessions.get? id = some s ∧
          s.state = .waiting ∧ s.task.isNegotiation = true ∧
          h.run.device.outstandingOf id + h.run.device.queuedOf id = 1)) ∧
    (h.run.device.state = .busy →
      ∃ id : SessionId, id.value + 1 = h.run.device.nextSession ∧ id ∉ h.ledger.started ∧
        (id ∈ h.ledger.givenUp ∨ ∃ s, h.run.device.sessions.get? id = some s ∧
          s.state = .waiting ∧ s.task.isDownload = true ∧
          h.run.device.outstandingOf id + h.run.device.queuedOf id = 1)) := by
  constructor
  · intro hstate
    obtain ⟨id, hlatest, hother, hgone | ⟨s, hs, hwaits, hstage, hone⟩⟩ :=
      hreachable.watched (by rw [hstate]; rfl)
    · exact ⟨id, hlatest, hother, Or.inl hgone⟩
    · have hkind : s.task.isNegotiation = true := by
        rw [SessionTask.isNegotiation_eq, hstage, hstate]
        rfl
      exact ⟨id, hlatest, hother, Or.inr ⟨s, hs, hwaits, hkind, hone⟩⟩
  · intro hstate
    obtain ⟨id, hlatest, hother, hgone | ⟨s, hs, hwaits, hstage, hone⟩⟩ :=
      hreachable.watched (by rw [hstate]; rfl)
    · exact ⟨id, hlatest, hother, Or.inl hgone⟩
    · have hkind : s.task.isDownload = true := by
        rw [SessionTask.isDownload_eq, hstage, hstate]
        rfl
      exact ⟨id, hlatest, hother, Or.inr ⟨s, hs, hwaits, hkind, hone⟩⟩

/-- The history in which these calls are made to a device with the sample record. -/
def sampleRun (setup : Setup) (calls : List DeviceCall) : DeviceHistory :=
  (found setup 8 1 ⟨0⟩ [sampleRecord] {} {}).performAll setup calls

theorem reachable_sampleRun (others : DeviceRun → Host → Prop) (setup : Setup)
    (calls : List DeviceCall) : Reachable setup.config others {} (sampleRun setup calls) :=
  ⟨setup.codec, 8, 1, ⟨0⟩, [sampleRecord], {}, steps_performAll others _ setup calls⟩

/-- A device that was just refreshed is discovering, and its negotiation is live. -/
theorem passing_state_watched_refreshed :
    (sampleRun sampleSetup [.refresh]).run.device.state = .discovering ∧
    ∃ s, (sampleRun sampleSetup [.refresh]).run.device.sessions.get? ⟨1⟩ = some s ∧
      s.state = .waiting ∧ s.task.isNegotiation = true := by
  have hstate : (sampleRun sampleSetup [.refresh]).run.device.state = .discovering := by
    decide +kernel
  have hnext : (sampleRun sampleSetup [.refresh]).run.device.nextSession = 2 := by decide +kernel
  have hnobody : (sampleRun sampleSetup [.refresh]).ledger.givenUp = [] := by decide +kernel
  obtain ⟨⟨n⟩, hlatest, -, hgone | ⟨s, hs, hwaits, hkind, -⟩⟩ :=
    (passing_state_watched (reachable_sampleRun _ sampleSetup [.refresh])).1 hstate
  · rw [hnobody] at hgone
    cases hgone
  · rw [hnext] at hlatest
    obtain rfl : n = 1 := Nat.succ.inj hlatest
    exact ⟨hstate, s, hs, hwaits, hkind⟩

/-- The sample, for a controller that fetches dictionaries. -/
def fetchingSetup : Setup :=
  { sampleSetup with config := { negotiation := { fetchDictionaries := true } } }

/-- A negotiation that is given up, and whose response does not come, leaves the device discovering
    without any session or request; a download leaves it busy in the same way. -/
theorem given_up_in_passing_state :
    (∃ h, Reachable sampleSetup.config DeviceRun.Respected {} h ∧
      h.run.device.state = .discovering ∧ h.run.device.sessions.isEmpty = true ∧
      h.run.device.pending.isEmpty = true ∧ h.run.device.waiting.isEmpty = true) ∧
    (∃ h, Reachable fetchingSetup.config DeviceRun.Respected {} h ∧
      h.run.device.state = .busy ∧ h.run.device.sessions.isEmpty = true ∧
      h.run.device.pending.isEmpty = true ∧ h.run.device.waiting.isEmpty = true) := by
  constructor
  · refine ⟨sampleRun sampleSetup [.refresh, .expire ⟨1⟩, .handleResponse 0 none],
      reachable_sampleRun _ _ _, ?_, ?_, ?_, ?_⟩ <;> decide +kernel
  · refine ⟨sampleRun fetchingSetup
      [.refresh,
        .handleResponse 0 (some [0, 6, 1, 0, 1, 0, 19, 0, 239, 190, 173, 222, 2, 7, 118, 101, 110,
          100, 111, 114, 0]),
        .handleResponse 1 (some [1, 6, 2, 0, 0, 4, 0, 0]), .cancel ⟨2⟩, .handleResponse 2 none],
      reachable_sampleRun _ _ _, ?_, ?_, ?_, ?_⟩ <;> decide +kernel

end DeviceHistory

end DeviceEnablement
