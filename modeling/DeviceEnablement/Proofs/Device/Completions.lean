/-
  Every operation ends once.

  The callers of a device know which operations they have started and which sessions they have given
  up.  `Balanced` ties this to what the device has reported and what it still owes: the report of an
  operation is due as long as it runs, and then it is made or the operation was given up.

  `operations_accounted`: each operation that was started is live, or was reported once, or was
  given up, and only one of these; nothing else is ever reported.
-/
import DeviceEnablement.Proofs.Device.Reports

namespace DeviceEnablement.DeviceHistory

/-- Whether reports and the books of the callers agree. -/
structure Balanced (h : DeviceHistory) : Prop where
  orderly : h.run.device.Orderly
  startedNumbers : ∀ id ∈ h.ledger.started, id.value < h.run.device.nextSession
  givenUpNumbers : ∀ id ∈ h.ledger.givenUp, id.value < h.run.device.nextSession
  distinct : h.ledger.started.Nodup
  operations : ∀ id ∈ h.ledger.started, ∀ s, h.run.device.sessions.get? id = some s →
    s.task.isOperation = true
  /-- An operation that was started is due one report, unless it was given up. -/
  tally : ∀ id, h.run.dues id +
      (if id ∈ h.ledger.started ∧ id ∈ h.ledger.givenUp then 1 else 0) =
    if id ∈ h.ledger.started then 1 else 0

variable {h : DeviceHistory}

theorem balanced_found (setup : Setup) (eid tid : UInt8) (uuid : Uuid) (payloads : List Bytes)
    (folder : Folder) (host : Host) :
    (found setup eid tid uuid payloads folder host).Balanced where
  orderly := Device.orderly_of_empty rfl
  startedNumbers _ hid := absurd hid List.not_mem_nil
  givenUpNumbers _ hid := absurd hid List.not_mem_nil
  distinct := List.nodup_nil
  operations _ hid := absurd hid List.not_mem_nil
  tally _ := rfl

namespace Balanced

variable (hb : h.Balanced)
include hb

theorem operations_since {r : DeviceRun} (hs : h.run.Since r) :
    ∀ id ∈ h.ledger.started, ∀ s, r.device.sessions.get? id = some s →
      s.task.isOperation = true := by
  intro id hid s hfound
  obtain ⟨s₀, hs₀, htask⟩ := hs.tasks id s hfound (hb.startedNumbers id hid)
  rw [htask]
  exact hb.operations id hid s₀ hs₀

/-- What is faithful to the reports keeps the balance. -/
theorem faithful {r : DeviceRun} (hf : h.run.Faithful r) (answered : Nat) :
    Balanced { run := r, ledger := { h.ledger with answered } } where
  orderly := hf.orderly
  startedNumbers id hid := Nat.lt_of_lt_of_le (hb.startedNumbers id hid) hf.next
  givenUpNumbers id hid := Nat.lt_of_lt_of_le (hb.givenUpNumbers id hid) hf.next
  distinct := hb.distinct
  operations := hb.operations_since hf.toSince
  tally id := by
    rw [hf.dues id]
    exact hb.tally id

/-- The number of the next session is not in the books. -/
theorem newId_not_mem :
    h.run.newId ∉ h.ledger.started ∧ h.run.newId ∉ h.ledger.givenUp := by
  constructor
  · exact fun hid => Nat.lt_irrefl _ (hb.startedNumbers _ hid)
  · exact fun hid => Nat.lt_irrefl _ (hb.givenUpNumbers _ hid)

/-- The tally after an operation has begun: it owes its report. -/
theorem tally_start {r : DeviceRun} (hdues : ∀ id, r.dues id =
      h.run.dues id + if id = h.run.newId then 1 else 0) (id : SessionId) :
    r.dues id +
        (if id ∈ h.run.newId :: h.ledger.started ∧ id ∈ h.ledger.givenUp then 1 else 0) =
      if id ∈ h.run.newId :: h.ledger.started then 1 else 0 := by
  have htally := hb.tally id
  obtain ⟨hstarted, hgivenUp⟩ := hb.newId_not_mem
  rw [hdues id]
  by_cases he : id = h.run.newId
  · subst he
    simp only [hstarted, hgivenUp, and_false, if_false, List.mem_cons_self, if_true] at htally ⊢
    omega
  · simpa [he] using htally

/-- An operation that begins is written down, and its report is due. -/
theorem start {setup : Setup} {s : Session} {result : Except Failure SessionId × DeviceRun}
    (hs : DeviceRun.Started setup h.run s result) (htask : s.task.isOperation = true) :
    (h.start result).Balanced := by
  have hsince := DeviceRun.since_started hb.orderly hs
  have hdues := DeviceRun.dues_started hb.orderly hs
  obtain ⟨result, r⟩ := result
  cases result with
  | error e => exact hb.faithful { toSince := hsince, dues := hdues } h.ledger.answered
  | ok id =>
    obtain ⟨rfl, hlt, s', hs', htask'⟩ := hs.found rfl
    refine ⟨hsince.orderly, ?_, ?_, ?_, ?_, hb.tally_start fun id => ?_⟩
    · intro id hid
      rcases List.mem_cons.mp hid with rfl | hid
      · exact hlt
      · exact Nat.lt_of_lt_of_le (hb.startedNumbers id hid) hsince.next
    · exact fun id hid => Nat.lt_of_lt_of_le (hb.givenUpNumbers id hid) hsince.next
    · exact List.nodup_cons.mpr ⟨hb.newId_not_mem.1, hb.distinct⟩
    · intro id hid s'' hs''
      rcases List.mem_cons.mp hid with rfl | hid
      · obtain rfl := Option.some.inj (hs'.symm.trans hs'')
        rw [htask', htask]
      · exact hb.operations_since hsince id hid s'' hs''
    · refine (hdues id).trans ?_
      simp [Except.toOption, htask, eq_comm]

/-- An operation that was started, and that is live, runs. -/
theorem runs_of_live {id : SessionId} (hid : id ∈ h.ledger.started) {s : Session}
    (hs : h.run.device.sessions.get? id = some s) (hlive : s.state.isTerminal = false) :
    h.run.device.runs id = true := by
  rw [DeviceRun.runs_of_found hs, hb.operations id hid s hs, ← hb.orderly.isTerminal_eq hs, hlive]
  rfl

/-- The tally after a live session was given up: if it is an operation, it owes nothing any more. -/
theorem tally_giveUp {r : DeviceRun} {id : SessionId} {s : Session}
    (hs : h.run.device.sessions.get? id = some s) (hlive : s.state.isTerminal = false)
    (hdues : ∀ other, h.run.dues other =
      r.dues other + if other = id ∧ h.run.device.runs id = true then 1 else 0)
    (other : SessionId) :
    r.dues other +
        (if other ∈ h.ledger.started ∧ other ∈ id :: h.ledger.givenUp then 1 else 0) =
      if other ∈ h.ledger.started then 1 else 0 := by
  have htally := hb.tally other
  rw [hdues other] at htally
  by_cases he : other = id
  · subst he
    by_cases hstarted : other ∈ h.ledger.started
    · -- Its report was still due, so it was not given up before.
      simp only [hstarted, hb.runs_of_live hstarted hs hlive, and_self, if_true, true_and]
        at htally
      rw [if_pos ⟨hstarted, List.mem_cons_self⟩, if_pos hstarted]
      omega
    · simp only [hstarted, false_and, if_false] at htally ⊢
      omega
  · simpa [he] using htally

/-- A session that is given up is written down, and no report is due any more. -/
theorem giveUp (id : SessionId) {state : SessionState} (ha : state.isAbandoned = true) :
    (h.giveUp id (h.run.abandon id state)).Balanced := by
  have hsince := DeviceRun.since_abandon hb.orderly id ha
  have hdues := DeviceRun.dues_abandon h.run id ha
  have hfound := (DeviceRun.abandoned_abandon h.run id state).found
  generalize h.run.abandon id state = result at hsince hdues hfound ⊢
  obtain ⟨given, r⟩ := result
  cases given with
  | false =>
    refine hb.faithful { toSince := hsince, dues := fun other => ?_ } h.ledger.answered
    have hsame := hdues other
    rw [if_neg (fun hand => by cases hand.1)] at hsame
    exact hsame.symm
  | true =>
    obtain ⟨s, hs, hlive⟩ := hfound rfl
    refine ⟨hsince.orderly, ?_, ?_, hb.distinct, hb.operations_since hsince,
      hb.tally_giveUp hs hlive fun other => ?_⟩
    · exact fun other hother => Nat.lt_of_lt_of_le (hb.startedNumbers other hother) hsince.next
    · intro other hother
      rcases List.mem_cons.mp hother with rfl | hother
      · exact Nat.lt_of_lt_of_le (hb.orderly.numbers other s hs) hsince.next
      · exact Nat.lt_of_lt_of_le (hb.givenUpNumbers other hother) hsince.next
    · refine (hdues other).trans ?_
      simp [DeviceHistory.giveUp]

theorem event {h' : DeviceHistory} (hevent : Event h h') : h'.Balanced := by
  have ho := hb.orderly
  cases hevent with
  | learned hresembles => exact hb.faithful (hresembles.sameSessions.faithful ho) _
  | cancelled state => exact hb.faithful (DeviceRun.faithful_cancelAll ho state) _
  | negotiation hstarted => exact hb.faithful (DeviceRun.faithful_started ho hstarted rfl) _
  | operation hstarted => exact hb.start hstarted rfl
  | givenUp id habandoned => exact hb.giveUp id habandoned
  | answered _ hanswered => exact hb.faithful (DeviceRun.faithful_answered ho hanswered) _
  | moved hmove => exact hb.faithful (DeviceRun.faithful_move ho hmove) _

end Balanced

/-! ## Reachable histories -/

section Reachable

variable {config : Config} {others : DeviceRun → Host → Prop} {host : Host}

theorem Reachable.balanced (hreachable : Reachable config others host h) : h.Balanced :=
  hreachable.invariant (fun setup eid tid uuid payloads folder =>
      balanced_found setup eid tid uuid payloads folder host)
    (fun _ _ hevent hb => hb.event hevent)
    (fun _ _ _ hb => ⟨hb.orderly, hb.startedNumbers, hb.givenUpNumbers, hb.distinct,
      hb.operations, hb.tally⟩)

/-- What was given up, or is not an operation, is never reported. -/
theorem Balanced.not_reported (hb : h.Balanced) {id : SessionId}
    (hid : id ∈ h.ledger.givenUp ∨ id ∉ h.ledger.started) : id ∉ h.run.reported := by
  have htally := hb.tally id
  unfold DeviceRun.dues at htally
  rw [← List.count_eq_zero]
  by_cases hstarted : id ∈ h.ledger.started
  · have hgivenUp := hid.resolve_right (not_not_intro hstarted)
    simp only [hstarted, hgivenUp, and_self, if_true] at htally
    omega
  · simp only [hstarted, false_and, if_false] at htally
    omega

/-- An operation that was started is live, or reported, or given up. -/
theorem Balanced.standing (hb : h.Balanced) {id : SessionId} (hid : id ∈ h.ledger.started) :
    (h.run.device.isLive id = true ∧ id ∉ h.run.reported ∧ id ∉ h.ledger.givenUp) ∨
    (h.run.device.isLive id = false ∧ h.run.reported.count id = 1 ∧ id ∉ h.ledger.givenUp) ∨
    (h.run.device.isLive id = false ∧ id ∉ h.run.reported ∧ id ∈ h.ledger.givenUp) := by
  have htally := hb.tally id
  unfold DeviceRun.dues at htally
  rw [hb.orderly.runs_eq_isLive (hb.operations id hid), if_pos hid] at htally
  simp only [hid, true_and] at htally
  rw [← List.count_eq_zero]
  by_cases hgivenUp : id ∈ h.ledger.givenUp
  · rw [if_pos hgivenUp] at htally
    cases hlive : h.run.device.isLive id with
    | true =>
      rw [hlive, if_pos rfl] at htally
      omega
    | false => exact Or.inr (Or.inr ⟨rfl, by omega, hgivenUp⟩)
  · rw [if_neg hgivenUp] at htally
    cases hlive : h.run.device.isLive id with
    | true =>
      rw [hlive, if_pos rfl] at htally
      exact Or.inl ⟨rfl, by omega, hgivenUp⟩
    | false =>
      rw [hlive, if_neg Bool.false_ne_true] at htally
      exact Or.inr (Or.inl ⟨rfl, by omega, hgivenUp⟩)

/-- In every history of a device, whatever others do to its host: each operation that was started is
    live, or was reported exactly once, or was given up, and only one of these.  What was given up
    is never reported later on, and nothing but operations that were started is reported. -/
theorem operations_accounted (hreachable : Reachable config others host h) :
    h.ledger.started.Nodup ∧
    (∀ id ∈ h.ledger.started,
      (h.run.device.isLive id = true ∧ id ∉ h.run.reported ∧ id ∉ h.ledger.givenUp) ∨
      (h.run.device.isLive id = false ∧ h.run.reported.count id = 1 ∧ id ∉ h.ledger.givenUp) ∨
      (h.run.device.isLive id = false ∧ id ∉ h.run.reported ∧ id ∈ h.ledger.givenUp)) ∧
    (∀ h', Steps config others h h' → ∀ id ∈ h.ledger.givenUp, id ∉ h'.run.reported) ∧
    (∀ id ∈ h.run.reported, id ∈ h.ledger.started) := by
  have hb := hreachable.balanced
  refine ⟨hb.distinct, fun id hid => hb.standing hid, ?_, ?_⟩
  · intro h' hsteps id hid
    exact (hreachable.steps hsteps).balanced.not_reported (Or.inl (givenUp_of_steps hsteps hid))
  · intro id hid
    refine Decidable.byContradiction fun hstarted => ?_
    exact hb.not_reported (Or.inr hstarted) hid

end Reachable

/-- In the sample the fourth operation runs, the first one was reported, and the other two were
    given up and are never heard of again. -/
theorem operations_accounted_sample :
    sampleHistory.ledger.started = [⟨5⟩, ⟨4⟩, ⟨3⟩, ⟨2⟩] ∧
    sampleHistory.ledger.givenUp = [⟨3⟩, ⟨4⟩] ∧
    sampleHistory.run.reported = [⟨2⟩] ∧
    sampleHistory.run.device.isLive ⟨5⟩ = true ∧
    ∀ h', Steps sampleSetup.config (fun _ _ => True) sampleHistory h' →
      ∀ id ∈ sampleHistory.ledger.givenUp, id ∉ h'.run.reported :=
  ⟨by decide +kernel, by decide +kernel, by decide +kernel, by decide +kernel,
    (operations_accounted (reachable_sample fun _ _ => True)).2.2.1⟩

end DeviceEnablement.DeviceHistory
