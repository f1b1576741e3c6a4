/-
  The reports of a device.

  The end of an operation is reported once, unless the operation was given up.  `DeviceRun.dues`
  counts for a session the reports that were made and the one that is still due; whatever a device
  does by itself leaves these numbers alone (`Faithful`), since a report is made when and only when
  a running operation is forgotten.

  1. `faithful_closed`: closing a session.
  2. `dues_started`: a session that begins is due a report if it is an operation.
  3. `faithful_move`, `faithful_answered`: moves, and answers to requests.
  4. `faithful_cancelAll`: cancelling everything reports every operation that runs.
  5. `dues_abandon`: giving a session up takes off the report that is due.
-/
import DeviceEnablement.Proofs.Device.Sessions

namespace DeviceEnablement.DeviceRun

/-- The reports about a session that were made, and the one that is due if it runs. -/
def dues (r : DeviceRun) (id : SessionId) : Nat :=
  r.reported.count id + if r.device.runs id then 1 else 0

/-- What holds between a run and a later one: sessions stay in order, none changes its kind, and
    reports stay made. -/
structure Since (r r' : DeviceRun) : Prop where
  orderly : r'.device.Orderly
  next : r.device.nextSession ≤ r'.device.nextSession
  tasks : ∀ id s', r'.device.sessions.get? id = some s' → id.value < r.device.nextSession →
    ∃ s, r.device.sessions.get? id = some s ∧ s'.task.isOperation = s.task.isOperation
  reports : r.completions <+: r'.completions

/-- What holds between a run and a later one, when no operation begins or is given up. -/
structure Faithful (r r' : DeviceRun) : Prop extends Since r r' where
  dues : ∀ id, r'.dues id = r.dues id

variable {setup : Setup} {r r' r'' : DeviceRun} {id : SessionId} {s : Session}

theorem Since.trans (h : Since r r') (h' : Since r' r'') : Since r r'' where
  orderly := h'.orderly
  next := Nat.le_trans h.next h'.next
  tasks := by
    intro id s'' hs'' hid
    obtain ⟨s', hs', htask'⟩ := h'.tasks id s'' hs'' (Nat.lt_of_lt_of_le hid h.next)
    obtain ⟨s, hs, htask⟩ := h.tasks id s' hs' hid
    exact ⟨s, hs, htask'.trans htask⟩
  reports := h.reports.trans h'.reports

theorem Faithful.trans (h : Faithful r r') (h' : Faithful r' r'') : Faithful r r'' where
  toSince := h.toSince.trans h'.toSince
  dues id := (h'.dues id).trans (h.dues id)

/-! ## Changes of the sessions -/

theorem runs_of_found (hs : r.device.sessions.get? id = some s) :
    r.device.runs id = (s.task.isOperation && !s.state.isAbandoned) := by
  unfold Device.runs
  rw [hs]
  rfl

theorem runs_dropSession (r : DeviceRun) (id other : SessionId) :
    (r.dropSession id).device.runs other = if other = id then false else r.device.runs other := by
  unfold Device.runs dropSession
  rw [Table.get?_erase]
  split <;> rfl

theorem runs_keepSession (r : DeviceRun) (id other : SessionId) (s : Session) :
    (r.keepSession id s).device.runs other =
      if other = id then s.task.isOperation && !s.state.isAbandoned else r.device.runs other := by
  unfold Device.runs keepSession
  rw [Table.get?_insert]
  split <;> rfl

theorem SameSessions.dues (h : SameSessions r r') (id : SessionId) : r'.dues id = r.dues id := by
  unfold DeviceRun.dues reported Device.runs
  rw [h.completions, h.sessions]

theorem SameSessions.faithful (h : SameSessions r r') (ho : r.device.Orderly) : Faithful r r' where
  orderly := ho.of_sessions h.sessions (Nat.le_of_eq h.next.symm)
  next := Nat.le_of_eq h.next.symm
  tasks := by
    rw [h.sessions]
    exact fun id s hs _ => ⟨s, hs, rfl⟩
  reports := h.completions ▸ List.prefix_refl _
  dues := h.dues

theorem since_dropSession (ho : r.device.Orderly) (id : SessionId) :
    Since r (r.dropSession id) where
  orderly := ho.of_erase rfl (Nat.le_refl _)
  next := Nat.le_refl _
  tasks := by
    intro other s hs _
    change (r.device.sessions.erase id).get? other = some s at hs
    rw [Table.get?_erase] at hs
    split at hs
    · cases hs
    · exact ⟨s, hs, rfl⟩
  reports := List.prefix_refl _

theorem dues_dropSession (r : DeviceRun) (id other : SessionId) :
    r.dues other = (r.dropSession id).dues other +
      if other = id ∧ r.device.runs id = true then 1 else 0 := by
  unfold dues
  rw [runs_dropSession]
  show r.reported.count other + _ = r.reported.count other + _ + _
  by_cases he : other = id
  · subst he
    simp
  · simp [he]

theorem dues_report (r : DeviceRun) (id other : SessionId)
    (result : Except Failure OperationResult) :
    (r.report id result).dues other = r.dues other + if other = id then 1 else 0 := by
  have hreported : (r.report id result).reported = r.reported ++ [id] := List.map_append
  unfold dues
  rw [hreported, List.count_append, List.count_singleton]
  show _ + _ + (if r.device.runs other then 1 else 0) = _
  simp only [beq_iff_eq, eq_comm (a := id)]
  omega

/-- A session that goes on stays of its kind. -/
theorem faithful_keepSession (ho : r.device.Orderly) (hs : r.device.sessions.get? id = some s)
    {s' : Session} (hw : s'.state = .waiting) (ha : s.state.isAbandoned = false)
    (htask : s'.task.isOperation = s.task.isOperation) : Faithful r (r.keepSession id s') where
  orderly := ho.of_insert rfl (Nat.le_refl _) (Or.inl hw) (ho.numbers id s hs)
  next := Nat.le_refl _
  tasks := by
    intro other s'' hs'' _
    change (r.device.sessions.insert id s').get? other = some s'' at hs''
    rw [Table.get?_insert] at hs''
    split at hs''
    · rename_i he
      cases hs''
      exact ⟨s, he ▸ hs, htask⟩
    · exact ⟨s'', hs'', rfl⟩
  reports := List.prefix_refl _
  dues := by
    intro other
    unfold DeviceRun.dues
    rw [runs_keepSession]
    split
    · rename_i he
      rw [he, runs_of_found hs, hw, ha, htask]
      rfl
    · rfl

/-- A session that is closed is forgotten, and reported if a report is due. -/
theorem faithful_closed (ho : r.device.Orderly) (hs : r.device.sessions.get? id = some s)
    (h : Closed r id s r') : Faithful r r' := by
  have hsince := since_dropSession ho id
  have hdrop := dues_dropSession r id
  have hruns := runs_of_found hs
  cases h with
  | silent hsilent =>
    have hnot : r.device.runs id = false := by
      rw [hruns]
      rcases hsilent with h | h <;> simp [h]
    refine { toSince := hsince, dues := fun other => ?_ }
    rw [hdrop other, if_neg (by simp [hnot]), Nat.add_zero]
  | reported hoperation hkept result =>
    have hyes : r.device.runs id = true := by simp [hruns, hoperation, hkept]
    refine { toSince := { hsince with reports := ⟨_, rfl⟩ }, dues := fun other => ?_ }
    rw [dues_report, hdrop other]
    simp [hyes]

/-! ## Sessions that begin -/

/-- A session that begins has a number of its own, and leaves the others as they are. -/
theorem since_keepSession_begun (ho : r.device.Orderly) (memory : DeviceMemory)
    (hw : s.state = .waiting) : Since r ((r.begun memory).keepSession r.newId s) where
  orderly := ho.of_insert rfl (Nat.le_succ _) (Or.inl hw) (Nat.lt_succ_self _)
  next := Nat.le_succ _
  tasks := by
    intro id s' hs' hid
    have hne : id ≠ r.newId := by
      rintro rfl
      exact Nat.lt_irrefl _ hid
    change (r.device.sessions.insert r.newId s).get? id = some s' at hs'
    rw [Table.get?_insert, if_neg hne] at hs'
    exact ⟨s', hs', rfl⟩
  reports := List.prefix_refl _

theorem since_started {result : Except Failure SessionId × DeviceRun} (ho : r.device.Orderly)
    (h : Started setup r s result) : Since r result.2 := by
  have hbegun : ∀ memory host, Since r { r.begun memory with host } := fun memory host =>
    { orderly := ho.of_sessions rfl (Nat.le_succ _)
      next := Nat.le_succ _
      tasks := fun id s hs _ => ⟨s, hs, rfl⟩
      reports := List.prefix_refl _ }
  cases h with
  | @placed _ _ memory _ hstep hplaced =>
    have hkept := since_keepSession_begun ho memory (Session.start_ok hstep).1
    exact hkept.trans (hplaced.sameSessions.faithful hkept.orderly).toSince
  | refused e memory => exact hbegun memory r.host
  | @unsent e memory host =>
    have hsince := hbegun memory host
    exact hsince.trans (since_dropSession hsince.orderly _)

/-- A session that has begun got the next number, and is there. -/
theorem Started.found {result : Except Failure SessionId × DeviceRun}
    (h : Started setup r s result) (hid : result.1 = .ok id) :
    id = r.newId ∧ id.value < result.2.device.nextSession ∧
      ∃ s', result.2.device.sessions.get? id = some s' ∧
        s'.task.isOperation = s.task.isOperation := by
  cases h with
  | @placed _ s' _ _ hstep hplaced =>
    obtain rfl := Except.ok.inj hid
    have hsame := hplaced.sameSessions
    refine ⟨rfl, ?_, s', ?_, (Session.start_ok hstep).2⟩
    · rw [hsame.next]
      exact Nat.lt_succ_self _
    · rw [hsame.sessions]
      show (r.device.sessions.insert r.newId s').get? r.newId = some s'
      rw [Table.get?_insert, if_pos rfl]
  | refused => cases hid
  | unsent => cases hid

/-- A session that begins is due a report if it is an operation. -/
theorem dues_started {result : Except Failure SessionId × DeviceRun} (ho : r.device.Orderly)
    (h : Started setup r s result) (id : SessionId) :
    result.2.dues id = r.dues id +
      if result.1.toOption = some id ∧ s.task.isOperation = true then 1 else 0 := by
  have hnew : r.device.runs r.newId = false := by
    unfold Device.runs newId
    rw [ho.get?_next]
    rfl
  cases h with
  | placed hstep hplaced =>
    -- The new session runs if it is an operation; under its number nothing ran before.
    obtain ⟨hw, htask⟩ := Session.start_ok hstep
    rw [hplaced.sameSessions.dues]
    unfold dues
    rw [runs_keepSession, hw, htask]
    show r.reported.count id + (if (if id = r.newId then _ else r.device.runs id) then 1 else 0) = _
    by_cases he : id = r.newId
    · subst he
      simp [hnew, Except.toOption, SessionState.isAbandoned]
    · simp [he, Except.toOption, Ne.symm he]
  | refused e memory => rfl
  | @unsent e memory host =>
    have hdrop := dues_dropSession { r.begun memory with host } r.newId id
    rw [if_neg (fun hand => by cases hnew.symm.trans hand.2), Nat.add_zero] at hdrop
    exact hdrop.symm

/-- No report is due for a session that is no operation. -/
theorem faithful_started {result : Except Failure SessionId × DeviceRun} (ho : r.device.Orderly)
    (h : Started setup r s result) (htask : s.task.isOperation = false) :
    Faithful r result.2 where
  toSince := since_started ho h
  dues id := by rw [dues_started ho h id, if_neg (by simp [htask]), Nat.add_zero]

/-! ## Moves and answers -/

theorem faithful_move (ho : r.device.Orderly) (h : Move setup r r') : Faithful r r' := by
  cases h with
  | turn => exact SameSessions.faithful {} ho
  | download hstarted => exact faithful_started ho hstarted rfl
  | released _ _ _ hsent =>
    have hsame := hsent.sameSessions
    exact SameSessions.faithful ⟨hsame.sessions, hsame.next, hsame.completions⟩ ho
  | @unsent _ id _ rest s host _ hs _ _ hclosed =>
    have hpopped : Faithful r { r with host, device.waiting := rest } :=
      SameSessions.faithful {} ho
    exact hpopped.trans (faithful_closed hpopped.orderly hs hclosed)
  | skipped => exact SameSessions.faithful {} ho

theorem faithful_moves (ho : r.device.Orderly) (h : Moves setup r r') : Faithful r r' := by
  induction h with
  | refl => exact SameSessions.faithful {} ho
  | tail _ hmove ih => exact ih.trans (faithful_move ih.orderly hmove)

theorem faithful_answered {instanceId : UInt8} {request : PendingRequest} (ho : r.device.Orderly)
    (h : Answered setup (r.freed instanceId) request r') : Faithful r r' := by
  cases h with
  | stale => exact SameSessions.faithful {} ho
  | orphan => exact SameSessions.faithful {} ho
  | @continued s s' memory _ _ _ _ hs ha hstep hplaced =>
    have hfreed : Faithful r { r.freed instanceId with device.memory := memory } :=
      SameSessions.faithful {} ho
    have hkept := faithful_keepSession hfreed.orderly hs (Session.onResponse_send ha hstep) ha
      (Session.isOperation_onResponse hstep)
    exact hfreed.trans (hkept.trans (hplaced.sameSessions.faithful hkept.orderly))
  | @closed s memory host _ _ hs _ hclosed =>
    have hfreed : Faithful r { r.freed instanceId with host, device.memory := memory } :=
      SameSessions.faithful {} ho
    exact hfreed.trans (faithful_closed hfreed.orderly hs hclosed)

/-! ## Cancelling -/

/-- What cancelling reports: each operation that is live. -/
theorem reported_cancelled (sessions : Table SessionId Session) (state : SessionState) :
    (sessions.entries.filterMap fun entry => cancelled? state entry.1 entry.2).map
        OperationCompletion.session =
      (sessions.filter fun _ s => s.task.isOperation && !s.state.isTerminal).keys := by
  unfold Table.keys Table.filter
  dsimp only
  induction sessions.entries with
  | nil => rfl
  | cons entry rest ih =>
    rw [List.filterMap_cons, List.filter_cons]
    by_cases hruns : (entry.2.task.isOperation && !entry.2.state.isTerminal) = true
    · rw [if_pos hruns, show cancelled? state entry.1 entry.2 = some _ from if_pos hruns]
      exact congrArg (entry.1 :: ·) ih
    · rw [if_neg hruns, show cancelled? state entry.1 entry.2 = none from if_neg hruns]
      exact ih

theorem faithful_cancelAll (ho : r.device.Orderly) (state : SessionState) :
    Faithful r (r.cancelAll state) where
  orderly := Device.orderly_of_empty rfl
  next := Nat.le_refl _
  tasks := by
    intro id s hs
    cases hs
  reports := List.prefix_append ..
  dues := by
    intro id
    have hreported : (r.cancelAll state).reported = r.reported ++
        (r.device.sessions.filter fun _ s => s.task.isOperation && !s.state.isTerminal).keys := by
      rw [← reported_cancelled _ state]
      exact List.map_append
    have hruns : r.device.runs id =
        (r.device.sessions.get? id).any fun s => s.task.isOperation && !s.state.isTerminal := by
      cases hs : r.device.sessions.get? id with
      | none => exact congrArg (Option.any _) hs
      | some s => rw [runs_of_found hs, Option.any_some, ho.isTerminal_eq hs]
    have hnone : (r.cancelAll state).device.runs id = false := rfl
    unfold DeviceRun.dues
    rw [hreported, List.count_append, Table.count_keys_filter, hnone, ← hruns]
    simp

/-! ## Giving up -/

/-- A session that is given up stays of its kind. -/
theorem since_abandon (ho : r.device.Orderly) (id : SessionId) {state : SessionState}
    (ha : state.isAbandoned = true) : Since r (r.abandon id state).2 := by
  have habandoned := abandoned_abandon r id state
  generalize r.abandon id state = result at habandoned
  cases habandoned with
  | ended => exact (SameSessions.faithful {} ho).toSince
  | @marked s _ hs _ _ _ =>
    exact {
      orderly := ho.of_insert rfl (Nat.le_refl _) (Or.inr ha) (ho.numbers id s hs)
      next := Nat.le_refl _
      tasks := by
        intro other s' hs' _
        change (r.device.sessions.insert id { s with state }).get? other = some s' at hs'
        rw [Table.get?_insert] at hs'
        split at hs'
        · rename_i he
          cases hs'
          exact ⟨s, he ▸ hs, rfl⟩
        · exact ⟨s', hs', rfl⟩
      reports := List.prefix_refl _ }
  | forgotten =>
    have hwithdrawn : Faithful r (r.withdrawn id) := SameSessions.faithful {} ho
    exact hwithdrawn.toSince.trans (since_dropSession hwithdrawn.orderly id)

/-- Giving a session up takes off the report that is due. -/
theorem dues_abandon (r : DeviceRun) (id : SessionId) {state : SessionState}
    (ha : state.isAbandoned = true) (other : SessionId) :
    r.dues other = (r.abandon id state).2.dues other +
      if (r.abandon id state).1 = true ∧ other = id ∧ r.device.runs id = true then 1 else 0 := by
  have habandoned := abandoned_abandon r id state
  generalize r.abandon id state = result at habandoned
  have hsame : SameSessions r (r.withdrawn id) := {}
  cases habandoned with
  | ended => simp
  | @marked s =>
    unfold dues
    rw [runs_keepSession, ha]
    show r.reported.count other + _ = r.reported.count other +
      (if (if other = id then _ else r.device.runs other) then 1 else 0) + _
    by_cases he : other = id
    · subst he
      simp
    · simp [he]
  | forgotten =>
    rw [← hsame.dues other, dues_dropSession (r.withdrawn id) id other]
    simp [show (r.withdrawn id).device.runs id = r.device.runs id from rfl]

end DeviceEnablement.DeviceRun
