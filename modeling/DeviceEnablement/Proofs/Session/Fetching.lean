/-
  The download of a dictionary, from its first request to its end.

  1. `Download.storeChunk_more`, `storeChunk_last`, `storeChunk_nothing`: the store as sink of a
     transfer, of which `data` has arrived so far (`Store.Holds`).
  2. `Download.Gathers`: a download and the store agree on what has arrived.  It begins with nothing
     (`start_cases`); each response adds its chunk, completes the dictionary, or makes the store forget
     it (`Heard`, `heard_onResponse`).  The last chunk ends it in any case (`onResponse_last`).
  3. `Dialogue.Fetches`: the invariant of a whole dialogue; from it `dictionary_gathered`.
-/
import DeviceEnablement.Proofs.Dictionary.Store
import DeviceEnablement.Proofs.Session.Awaiting
import DeviceEnablement.Proofs.Session.Result
import DeviceEnablement.Proofs.Transfer.Receiving

namespace DeviceEnablement

open Store (SameBut fragment)

namespace Download

variable {s s' : Store} {key : DictionaryKey} {data : Bytes} {body : Bytes}

/-! ## The store as sink -/

/-- A chunk that is not the last one is appended. -/
theorem storeChunk_more (h : s.Holds key data) (chunk : Bytes) :
    ∃ s', storeChunk key s chunk false = (.ok (), s') ∧ SameBut key s s' ∧
      s'.Holds key (data ++ chunk) := by
  by_cases hchunk : chunk = []
  · subst hchunk
    refine ⟨s, rfl, .refl key s, ?_⟩
    rw [List.append_nil]
    exact h
  · have hstore : store key s chunk false = (.ok (), s.insert (fragment key (data ++ chunk))) := by
      unfold store
      rw [if_neg (fun hempty => hchunk (List.isEmpty_iff.mp hempty)),
        Store.addChunk_eq h hchunk false]
      rfl
    refine ⟨s.insert (fragment key (data ++ chunk)), ?_,
      s.sameBut_insert (fragment key (data ++ chunk)), ?_⟩
    · unfold storeChunk
      rw [hstore]
    · exact s.holds_insert (List.append_ne_nil_of_right_ne_nil data hchunk)

/-- The last chunk completes the dictionary, whether or not its file can be written. -/
theorem storeChunk_last {chunk : Bytes} (h : s.Holds key data) (hdata : data ++ chunk ≠ []) :
    ∃ s', storeChunk key s chunk true = (.ok (), s') ∧ SameBut key s s' ∧
      s'.get? key = some (.ofContent key key.fileName (data ++ chunk)) := by
  have hstore : store key s chunk true = s.finish (fragment key (data ++ chunk)) := by
    unfold store
    by_cases hchunk : chunk = []
    · subst hchunk
      rw [List.append_nil] at hdata ⊢
      exact Store.complete_eq h hdata
    · rw [if_neg (fun hempty => hchunk (List.isEmpty_iff.mp hempty))]
      exact Store.addChunk_eq h hchunk true
  have hsame := s.sameBut_finish (fragment key (data ++ chunk))
  have hfound : (s.finish (fragment key (data ++ chunk))).2.get? key =
      some (.ofContent key key.fileName (data ++ chunk)) := by
    rw [Store.get?_finish]
    exact if_pos rfl
  obtain ⟨⟨result, s'⟩, hfinish⟩ : ∃ result, s.finish (fragment key (data ++ chunk)) = result :=
    ⟨_, rfl⟩
  rw [hfinish] at hstore hsame hfound
  refine ⟨s', ?_, hsame, hfound⟩
  unfold storeChunk
  rw [hstore]
  cases result with
  | ok => rfl
  | error e =>
    have hcomplete : s'.containsComplete key = true :=
      Store.containsComplete_iff.mpr ⟨_, hfound, rfl⟩
    dsimp only
    rw [hcomplete]
    rfl

/-- A dictionary of which nothing arrives cannot be completed. -/
theorem storeChunk_nothing (h : s.Holds key []) :
    ∃ e, storeChunk key s [] true = (.error e, s) := by
  have hlacks := h.containsComplete_eq
  obtain ⟨e, hstore⟩ := Store.complete_nothing h
  refine ⟨.store e, ?_⟩
  unfold storeChunk
  rw [show store key s [] true = (.error e, s) from hstore]
  dsimp only
  rw [hlacks]
  rfl

theorem sameBut_storeChunk (h : s.Holds key data) (chunk : Bytes) (last : Bool) :
    SameBut key s (storeChunk key s chunk last).2 := by
  cases last with
  | false =>
    obtain ⟨s', heq, hsame, -⟩ := storeChunk_more h chunk
    rw [heq]
    exact hsame
  | true =>
    by_cases hdata : data ++ chunk = []
    · obtain ⟨rfl, rfl⟩ := List.append_eq_nil_iff.mp hdata
      obtain ⟨e, heq⟩ := storeChunk_nothing h
      rw [heq]
      exact .refl key s
    · obtain ⟨s', heq, hsame, -⟩ := storeChunk_last h hdata
      rw [heq]
      exact hsame

/-- A transfer that goes wrong makes the store forget the dictionary, and no other one. -/
theorem sink_error {r r' : Receiver} {e : Failure} (h : s.Holds key data)
    (hstep : r.onResponse (sink key) s body = (.error e, r', s')) :
    SameBut key s s' ∧ s'.get? key = none := by
  obtain ⟨s₁, rfl, hs₁⟩ := Receiver.onResponse_error hstep
  have hsame : SameBut key s s₁ := by
    rcases hs₁ with rfl | ⟨chunk, last, rfl⟩
    · exact .refl key s₁
    · exact sameBut_storeChunk h chunk last
  refine ⟨hsame.trans (s₁.sameBut_reset key), ?_⟩
  show (s₁.reset key).2.get? key = none
  rw [Store.get?_reset]
  exact if_pos rfl

/-- A transfer that goes on, or ends well, has put its chunk into the store. -/
theorem sink_ok {r r' : Receiver} {progress : Progress} (h : s.Holds key data)
    (hstep : r.onResponse (sink key) s body = (.ok progress, r', s')) :
    ∃ response, MultipartReceiveResponse.decode body = .ok response ∧
      r'.maxChunk = r.maxChunk ∧ SameBut key s s' ∧
      (progress = .next (r'.request .nextPart) ∧ s'.Holds key (data ++ response.data) ∨
        progress = .complete ∧ data ++ response.data ≠ [] ∧
          s'.get? key = some (.ofContent key key.fileName (data ++ response.data))) := by
  obtain ⟨response, s₁, hdecode, htaken, -, hlimit, hprogress⟩ := Receiver.onResponse_ok hstep
  refine ⟨response, hdecode, hlimit, ?_⟩
  change storeChunk key s response.data response.flag.isEnd = (.ok (), s₁) at htaken
  rcases hprogress with ⟨hnext, hmore, rfl⟩ | ⟨hcomplete, hlast, hs'⟩
  · rw [hmore] at htaken
    obtain ⟨s₂, heq, hsame, hheld⟩ := storeChunk_more h response.data
    rw [htaken] at heq
    cases heq
    exact ⟨hsame, Or.inl ⟨hnext, hheld⟩⟩
  · rw [hlast] at htaken
    obtain rfl : s' = s₁ := hs'
    by_cases hdata : data ++ response.data = []
    · obtain ⟨rfl, hnothing⟩ := List.append_eq_nil_iff.mp hdata
      obtain ⟨e, heq⟩ := storeChunk_nothing h
      rw [hnothing, heq] at htaken
      cases htaken
    · obtain ⟨s₂, heq, hsame, hfound⟩ := storeChunk_last h hdata
      rw [htaken] at heq
      cases heq
      exact ⟨hsame, Or.inr ⟨hcomplete, hdata, hfound⟩⟩

/-! ## Keeping step -/

/-- The bytes of the dictionary that a response carries. -/
def chunk (d : Download) (body : Bytes) : Bytes :=
  match d.phase with
  | .request => []
  | .receiving _ =>
    match MultipartReceiveResponse.decode body with
    | .ok response => response.data
    | .error _ => []

/-- Whether the store holds these bytes for a download, and none before its place is known. -/
structure Gathers (d : Download) (s : Store) (data : Bytes) : Prop where
  held : s.Holds d.key data
  unplaced : d.phase = .request → data = []

/-- Whether a download accepts no larger chunks than this. -/
def Limited (d : Download) (max : Nat) : Prop :=
  ∀ receiver, d.phase = .receiving receiver → receiver.maxChunk = max

/-- What a response makes of a download and of the store, if `arrived` is what has arrived with it. -/
inductive Heard (d : Download) (arrived : Bytes) :
    Except Failure Step → Download → Store → Prop
  | next {out : Outgoing} {d' : Download} {s' : Store} (key_eq : d'.key = d.key)
      (gathers : d'.Gathers s' arrived) : Heard d arrived (.ok (.send out)) d' s'
  | complete {d' : Download} {s' : Store} (nonempty : arrived ≠ [])
      (found : s'.get? d.key = some (.ofContent d.key d.key.fileName arrived)) :
      Heard d arrived (.ok (.done (.dictionary d.key))) d' s'
  | failed {e : Failure} {d' : Download} {s' : Store} (missing : s'.get? d.key = none) :
      Heard d arrived (.error e) d' s'

variable {d d' : Download} {scope : SessionScope} {memory memory' : DeviceMemory}
  {result : Except Failure Step}

/-- A download begins with nothing in the store, or it cannot begin and there is nothing either. -/
theorem start_cases (d : Download) {memory : DeviceMemory}
    (hlacks : memory.store.containsComplete d.key = false) :
    ∃ store, SameBut d.key memory.store store ∧ store.get? d.key = none ∧
      (d.start memory = (.ok (.send d.request), d, { memory with store }) ∨
        ∃ e, d.start memory = (.error e, d, { memory with store })) := by
  unfold start
  split
  · have hsame := memory.store.sameBut_reset d.key
    have hnone : (memory.store.reset d.key).2.get? d.key = none := by
      rw [Store.get?_reset]
      exact if_pos rfl
    obtain ⟨⟨result, store⟩, hreset⟩ : ∃ result, memory.store.reset d.key = result := ⟨_, rfl⟩
    rw [hreset] at hsame hnone ⊢
    refine ⟨store, hsame, hnone, ?_⟩
    cases result with
    | ok => exact Or.inl rfl
    | error e => exact Or.inr ⟨.store e, rfl⟩
  · rename_i hwhole
    refine ⟨memory.store, .refl _ _, ?_, Or.inl rfl⟩
    cases hfound : memory.store.get? d.key with
    | none => rfl
    | some dictionary =>
      -- What is there is neither complete nor incomplete.
      unfold isPartial at hwhole
      rw [hfound] at hwhole
      have hcomplete : dictionary.complete = true := by simpa using hwhole
      rw [Store.containsComplete_iff.mpr ⟨dictionary, hfound, hcomplete⟩] at hlacks
      cases hlacks

theorem sameBut_onResponse (h : d.Gathers memory.store data)
    (hstep : d.onResponse scope memory body = (result, d', memory')) :
    SameBut d.key memory.store memory'.store := by
  unfold onResponse at hstep
  split at hstep
  · unfold onPlace at hstep
    split at hstep
    · cases hstep
      exact .refl _ _
    · dsimp only at hstep
      split at hstep <;> cases hstep <;> exact .refl _ _
  · rename_i receiver _
    obtain ⟨⟨result₁, receiver', store⟩, hreceiver⟩ :
        ∃ result, receiver.onResponse (sink d.key) memory.store body = result := ⟨_, rfl⟩
    have hsame : SameBut d.key memory.store store := by
      cases result₁ with
      | error e => exact (sink_error h.held hreceiver).1
      | ok progress =>
        obtain ⟨_, -, -, hsame, -⟩ := sink_ok h.held hreceiver
        exact hsame
    unfold onChunk at hstep
    rw [hreceiver] at hstep
    dsimp only at hstep
    split at hstep <;> cases hstep <;> exact hsame

/-- A download goes on with one more chunk in the store, has completed the dictionary with it, or has
    failed and nothing is left. -/
theorem heard_onResponse (h : d.Gathers memory.store data)
    (hstep : d.onResponse scope memory body = (result, d', memory')) :
    d.Heard (data ++ d.chunk body) result d' memory'.store := by
  unfold onResponse at hstep
  split at hstep
  · rename_i hphase
    have hnothing := h.unplaced hphase
    subst hnothing
    have hchunk : d.chunk body = [] := by
      unfold chunk
      rw [hphase]
    rw [hchunk]
    unfold onPlace at hstep
    split at hstep
    · cases hstep
      exact .failed (Store.holds_nothing.mp h.held)
    · dsimp only at hstep
      split at hstep
      · cases hstep
        exact .next rfl ⟨h.held, fun _ => rfl⟩
      · cases hstep
        exact .failed (Store.holds_nothing.mp h.held)
  · rename_i receiver hphase
    obtain ⟨⟨result₁, receiver', store⟩, hreceiver⟩ :
        ∃ result, receiver.onResponse (sink d.key) memory.store body = result := ⟨_, rfl⟩
    unfold onChunk at hstep
    rw [hreceiver] at hstep
    cases result₁ with
    | error e =>
      cases hstep
      exact .failed (sink_error h.held hreceiver).2
    | ok progress =>
      obtain ⟨response, hdecode, -, -, hprogress⟩ := sink_ok h.held hreceiver
      have hchunk : d.chunk body = response.data := by
        unfold chunk
        rw [hphase]
        dsimp only
        rw [hdecode]
      rw [hchunk]
      rcases hprogress with ⟨rfl, hheld⟩ | ⟨rfl, hdata, hfound⟩
      · cases hstep
        exact .next rfl ⟨hheld, fun hrequest => by cases hrequest⟩
      · cases hstep
        exact .complete hdata hfound

/-- The last chunk ends a download: well, unless nothing has arrived at all. -/
theorem onResponse_last (scope : SessionScope) {receiver : Receiver}
    {response : MultipartReceiveResponse} (h : d.Gathers memory.store data)
    (hphase : d.phase = .receiving receiver) (hstate : receiver.state = .inProgress)
    (hdecode : MultipartReceiveResponse.decode body = .ok response)
    (hlast : response.flag.isEnd = true) (hsize : response.data.length ≤ receiver.maxChunk) :
    (data ++ response.data ≠ [] →
      (d.onResponse scope memory body).1 = .ok (.done (.dictionary d.key))) ∧
    (data ++ response.data = [] → ∃ e, (d.onResponse scope memory body).1 = .error e) := by
  obtain ⟨⟨result, receiver', store⟩, hreceiver⟩ :
      ∃ result, receiver.onResponse (sink d.key) memory.store body = result := ⟨_, rfl⟩
  unfold onResponse
  rw [hphase]
  dsimp only
  unfold onChunk
  constructor
  · intro hdata
    obtain ⟨s₁, htaken, -, -⟩ := storeChunk_last h.held hdata
    have hresult : result = .ok .complete := by
      have htaken' : (sink d.key).data memory.store response.data true = (.ok (), s₁) := htaken
      have hcomplete := Receiver.onResponse_last hstate hdecode hsize hlast htaken'
      rw [hreceiver] at hcomplete
      exact hcomplete
    rw [hreceiver, hresult]
  · intro hdata
    obtain ⟨rfl, hnothing⟩ := List.append_eq_nil_iff.mp hdata
    obtain ⟨e, hrefused⟩ := storeChunk_nothing h.held
    have hresult : result = .error e := by
      have hoffered : (sink d.key).data memory.store response.data response.flag.isEnd =
          (.error e, memory.store) := by
        rw [hnothing, hlast]
        exact hrefused
      have hfailed := Receiver.onResponse_refused hstate hdecode hsize hoffered
      rw [hreceiver] at hfailed
      exact hfailed
    rw [hreceiver, hresult]
    exact ⟨e, rfl⟩

theorem limited_onResponse {out : Outgoing} (h : d.Gathers memory.store data)
    (hlimited : d.Limited scope.maxReceive)
    (hstep : d.onResponse scope memory body = (.ok (.send out), d', memory')) :
    d'.Limited scope.maxReceive := by
  unfold onResponse at hstep
  split at hstep
  · unfold onPlace at hstep
    split at hstep
    · cases hstep
    · rename_i response _
      dsimp only at hstep
      split at hstep
      · rename_i receiver hstart
        cases hstep
        rintro _ ⟨⟩
        unfold Receiver.start at hstart
        split at hstart
        · cases hstart
        · split at hstart
          · cases hstart
          · cases hstart
            rfl
      · cases hstep
  · rename_i receiver hphase
    unfold onChunk at hstep
    obtain ⟨⟨result₁, receiver', store⟩, hreceiver⟩ :
        ∃ result, receiver.onResponse (sink d.key) memory.store body = result := ⟨_, rfl⟩
    rw [hreceiver] at hstep
    cases result₁ with
    | error e => cases hstep
    | ok progress =>
      obtain ⟨_, -, hlimit, -, -⟩ := sink_ok h.held hreceiver
      cases progress with
      | complete => cases hstep
      | next =>
        cases hstep
        rintro _ ⟨⟩
        exact hlimit.trans (hlimited receiver hphase)

end Download

/-! ## Dialogues -/

/-- The response that says where a dictionary can be fetched carries nothing of it. -/
theorem Exchange.result_place {out : Outgoing} (hcommand : out.command = .getSchemaDictionary)
    (body : Bytes) : (⟨out, body⟩ : Exchange).result = [] := by
  unfold result command
  rw [hcommand]

namespace Download

/-- What a response carries of a dictionary is what it carries of a result. -/
theorem result_eq_chunk {d : Download} {out : Outgoing} (hawaits : (SessionTask.download d).Awaits out)
    (body : Bytes) : (⟨out, body⟩ : Exchange).result = d.chunk body := by
  have hcommand : out.command = d.phase.awaited := hawaits.command
  unfold chunk
  cases hphase : d.phase with
  | request =>
    rw [hphase] at hcommand
    exact Exchange.result_place hcommand body
  | receiving receiver =>
    rw [hphase] at hcommand
    unfold Exchange.result Exchange.command
    rw [hcommand]
    rfl

end Download

namespace Session

variable {s s' : Session} {scope : SessionScope} {memory memory' : DeviceMemory} {d : Download}
  {result : Except Failure Step}

/-- A download begins as its task does. -/
theorem start_download {key : DictionaryKey} (hlacks : memory.store.containsComplete key = false)
    (scope : SessionScope) :
    ∃ store, SameBut key memory.store store ∧ store.get? key = none ∧
      ((Session.download key).start scope memory =
          (.ok (.send (Download.request { key })),
            { state := .waiting, task := .download { key } }, { memory with store }) ∨
        ∃ e, (Session.download key).start scope memory =
          (.error e, { task := .download { key } }, { memory with store })) := by
  obtain ⟨store, hsame, hnone, heq⟩ :=
    Download.start_cases { key } hlacks
  refine ⟨store, hsame, hnone, ?_⟩
  unfold download start SessionTask.start
  dsimp only
  rw [if_neg (fun hne => hne rfl)]
  rcases heq with heq | ⟨e, heq⟩
  · rw [heq]
    exact Or.inl rfl
  · rw [heq]
    exact Or.inr ⟨e, rfl⟩

/-- A download that waits takes a response as its task does. -/
theorem onResponse_download {body : Bytes} (hwaits : s.state = .waiting)
    (htask : s.task = .download d)
    (hstep : s.onResponse scope memory body = (result, s', memory')) :
    ∃ d', d.onResponse scope memory body = (result, d', memory') ∧
      s' = { state := stateAfter .waiting result, task := .download d' } := by
  obtain ⟨⟨result₁, d', memory₁⟩, hd⟩ : ∃ result, d.onResponse scope memory body = result :=
    ⟨_, rfl⟩
  have hkept : ¬ s.state.isAbandoned = true := by
    rw [hwaits]
    exact Bool.false_ne_true
  unfold onResponse at hstep
  rw [if_neg hkept, if_neg (fun hne => hne hwaits)] at hstep
  simp only [htask, SessionTask.onResponse, hd, hwaits] at hstep
  cases hstep
  exact ⟨d', hd, rfl⟩

end Session

namespace Dialogue

/-- How a download stands whose store held what `before` holds under the other keys. -/
inductive Fetches (key : DictionaryKey) (scope : SessionScope) (before : Store) (d : Dialogue) :
    Prop
  | waits {out : Outgoing} {download : Download} (standing : d.standing = .awaiting out)
      (task : d.session.task = .download download) (key_eq : download.key = key)
      (state : d.session.state.isAbandoned = true ∨ d.session.state = .waiting)
      (awaits : d.session.task.Awaits out) (limited : download.Limited scope.maxReceive)
      (gathers : download.Gathers d.memory.store d.arrived)
      (alike : SameBut key before d.memory.store) : Fetches key scope before d
  | completed (standing : d.standing = .done (.dictionary key)) (nonempty : d.arrived ≠ [])
      (found : d.memory.store.get? key = some (.ofContent key key.fileName d.arrived))
      (alike : SameBut key before d.memory.store) : Fetches key scope before d
  | failed {e : Failure} (standing : d.standing = .failed e)
      (missing : d.memory.store.get? key = none) (alike : SameBut key before d.memory.store) :
      Fetches key scope before d

variable {key : DictionaryKey} {scope : SessionScope} {before : Store} {memory : DeviceMemory}
  {d : Dialogue}

theorem Fetches.alike (h : d.Fetches key scope before) : SameBut key before d.memory.store := by
  cases h with
  | waits _ _ _ _ _ _ _ alike => exact alike
  | completed _ _ _ alike => exact alike
  | failed _ _ alike => exact alike

theorem fetches_opening (hlacks : memory.store.containsComplete key = false) :
    (opening (.download key) scope memory).Fetches key scope memory.store := by
  obtain ⟨store, hsame, hnone, hstart | ⟨e, hstart⟩⟩ := Session.start_download hlacks scope
  · unfold opening
    rw [hstart]
    exact .waits rfl rfl rfl (Or.inr rfl) (Session.start_awaits rfl hstart)
      (fun _ hphase => by cases hphase) ⟨hnone, fun _ => rfl⟩ hsame
  · unfold opening
    rw [hstart]
    exact .failed rfl hnone hsame

theorem Fetches.hear (h : d.Fetches key scope before) (body : Bytes) :
    (d.hear scope body).Fetches key scope before := by
  cases h with
  | completed standing nonempty found alike =>
    rw [hear_ended (by rw [standing]; exact fun _ heq => by cases heq)]
    exact .completed standing nonempty found alike
  | failed standing missing alike =>
    rw [hear_ended (by rw [standing]; exact fun _ heq => by cases heq)]
    exact .failed standing missing alike
  | @waits out download standing task key_eq state awaits limited gathers alike =>
    rcases state with hgone | hwaits
    · rw [hear_abandoned hgone]
      exact .waits standing task key_eq (Or.inl hgone) awaits limited gathers alike
    · obtain ⟨⟨result, s', memory'⟩, hstep⟩ :
          ∃ result, d.session.onResponse scope d.memory body = result := ⟨_, rfl⟩
      obtain ⟨download', hdownload, hs'⟩ := Session.onResponse_download hwaits task hstep
      have hheard := Download.heard_onResponse gathers hdownload
      have hsame := Download.sameBut_onResponse gathers hdownload
      rw [key_eq] at hsame
      have halike := alike.trans hsame
      have hchunk := Download.result_eq_chunk (task ▸ awaits) body
      have harrived : (d.exchanges ++ [(⟨out, body⟩ : Exchange)]).flatMap Exchange.result =
          d.arrived ++ download.chunk body := by
        rw [List.flatMap_append, List.flatMap_singleton, hchunk]
        rfl
      rw [← harrived] at hheard
      unfold Dialogue.hear
      rw [standing]
      dsimp only
      rw [hstep]
      cases hheard with
      | next hkey hgathers =>
        have hkept : d.session.state.isAbandoned = false := by
          rw [hwaits]
          rfl
        subst hs'
        exact .waits rfl rfl (hkey.trans key_eq) (Or.inr rfl)
          (Session.onResponse_awaits hkept hstep)
          (Download.limited_onResponse gathers limited hdownload) hgathers halike
      | complete hdata hfound =>
        rw [key_eq] at hfound ⊢
        exact .completed rfl hdata hfound halike
      | failed hnone =>
        rw [key_eq] at hnone
        exact .failed rfl hnone halike

theorem Fetches.giveUp {state : SessionState} (h : d.Fetches key scope before)
    (hstate : state.isAbandoned = true) : (d.giveUp state).Fetches key scope before := by
  unfold Dialogue.giveUp
  split
  · exact h
  · cases h with
    | completed standing nonempty found alike => exact .completed standing nonempty found alike
    | failed standing missing alike => exact .failed standing missing alike
    | waits standing task key_eq _ awaits limited gathers alike =>
      exact .waits standing task key_eq (Or.inl hstate) awaits limited gathers alike

/-- Whatever happens to a download, it keeps step with the store. -/
theorem fetches_dialogue (hlacks : memory.store.containsComplete key = false)
    (scope : SessionScope) (occurrences : List Occurrence) :
    ((Session.download key).dialogue scope memory occurrences).Fetches key scope memory.store := by
  refine afterAll_induction (fun d occurrence h => ?_) (fetches_opening hlacks) occurrences
  cases occurrence with
  | response body => exact h.hear body
  | expired => exact h.giveUp rfl
  | cancelled => exact h.giveUp rfl

/-- The last chunk ends a download that has not been given up: well, unless nothing has arrived. -/
theorem Fetches.hear_last (h : d.Fetches key scope before)
    (hkept : d.session.state.isAbandoned = false) {out : Outgoing}
    (hstanding : d.standing = .awaiting out) (hcommand : out.command = .multipartReceive)
    {body : Bytes} {response : MultipartReceiveResponse}
    (hdecode : MultipartReceiveResponse.decode body = .ok response)
    (hlast : response.flag.isEnd = true) (hsize : response.data.length ≤ scope.maxReceive) :
    (d.arrived ++ response.data ≠ [] → (d.hear scope body).standing = .done (.dictionary key)) ∧
    (d.arrived ++ response.data = [] → ∃ e, (d.hear scope body).standing = .failed e) := by
  cases h with
  | completed standing =>
    rw [hstanding] at standing
    cases standing
  | failed standing =>
    rw [hstanding] at standing
    cases standing
  | @waits out' download standing task key_eq state awaits limited gathers alike =>
    rw [hstanding] at standing
    cases standing
    have hwaits : d.session.state = .waiting := by
      refine state.resolve_left fun hgone => ?_
      rw [hkept] at hgone
      cases hgone
    rw [task] at awaits
    have hawaited : out.command = download.phase.awaited := awaits.command
    obtain ⟨receiver, hphase⟩ : ∃ receiver, download.phase = .receiving receiver := by
      cases hphase : download.phase with
      | receiving receiver => exact ⟨receiver, rfl⟩
      | request =>
        rw [hphase, hcommand] at hawaited
        cases hawaited
    obtain ⟨⟨result, s', memory'⟩, hstep⟩ :
        ∃ result, d.session.onResponse scope d.memory body = result := ⟨_, rfl⟩
    obtain ⟨download', hdownload, -⟩ := Session.onResponse_download hwaits task hstep
    have hends := Download.onResponse_last scope gathers hphase
      (awaits.underway.download hphase) hdecode hlast (by rw [limited receiver hphase]; exact hsize)
    rw [hdownload, key_eq] at hends
    rw [standing_hear hstanding scope body, hstep]
    refine ⟨fun hdata => ?_, fun hdata => ?_⟩
    · rw [show result = .ok (.done (.dictionary key)) from hends.1 hdata]
      rfl
    · obtain ⟨e, he⟩ := hends.2 hdata
      rw [show result = .error e from he]
      exact ⟨e, rfl⟩

end Dialogue

/-- How a download comes out that began with this store. -/
structure Download.Gathered (key : DictionaryKey) (scope : SessionScope) (before : Store)
    (d : Dialogue) : Prop where
  /-- A download that has ended well has completed the dictionary: it consists of the bytes that have
      arrived, and there are some. -/
  completed : ∀ output, d.standing = .done output → output = .dictionary key ∧ d.arrived ≠ [] ∧
    d.memory.store.get? key = some (.ofContent key key.fileName d.arrived)
  /-- A download that has failed leaves nothing of the dictionary. -/
  failed : ∀ e, d.standing = .failed e → d.memory.store.get? key = none
  /-- No other dictionary is ever changed. -/
  alike : ∀ other, other ≠ key → d.memory.store.get? other = before.get? other
  /-- The last chunk, empty or not, ends the download: well if anything has arrived, and else not. -/
  last : d.session.state.isAbandoned = false → ∀ out body response, d.standing = .awaiting out →
    out.command = .multipartReceive → MultipartReceiveResponse.decode body = .ok response →
    response.flag.isEnd = true → response.data.length ≤ scope.maxReceive →
    (d.arrived ++ response.data ≠ [] → (d.hear scope body).standing = .done (.dictionary key)) ∧
    (d.arrived ++ response.data = [] → ∃ e, (d.hear scope body).standing = .failed e)

/-- A download of a dictionary that is not complete yields exactly the bytes of this transfer, or
    leaves nothing of the dictionary, whatever has been left of an earlier one and whether or not files
    can be written and removed. -/
theorem Download.dictionary_gathered {key : DictionaryKey} {memory : DeviceMemory}
    (hlacks : memory.store.containsComplete key = false) (scope : SessionScope)
    (occurrences : List Occurrence) :
    Gathered key scope memory.store
      ((Session.download key).dialogue scope memory occurrences) := by
  have hfetches := Dialogue.fetches_dialogue hlacks scope occurrences
  generalize (Session.download key).dialogue scope memory occurrences = d at hfetches
  constructor
  case completed =>
    intro output hdone
    cases hfetches with
    | waits standing | failed standing =>
      rw [hdone] at standing
      cases standing
    | completed standing nonempty found =>
      rw [hdone] at standing
      cases standing
      exact ⟨rfl, nonempty, found⟩
  case failed =>
    intro e hfailed
    cases hfetches with
    | waits standing | completed standing =>
      rw [hfailed] at standing
      cases standing
    | failed _ missing => exact missing
  case alike => exact hfetches.alike.others
  case last =>
    intro hkept out body response hstanding hcommand hdecode hlast hsize
    exact hfetches.hear_last hkept hstanding hcommand hdecode hlast hsize

/-- A controller that takes at most 16 bytes. -/
def Download.sampleScope : SessionScope where
  registry := {}
  codec := {
    encode := fun _ _ _ => .error (.encode "")
    decode := fun _ _ => .error (.decode "") }
  maxReceive := 16

/-- A dictionary of which two bytes have been left over, in a folder that can be accessed only once. -/
def Download.leftover : DeviceMemory where
  metadata := {}
  store := {
    uuid := ⟨0⟩
    dictionaries := Table.empty.insert ⟨1, 1⟩ (fragment ⟨1, 1⟩ [9, 9])
    folder := { place := .listed [], fails := fun access => access ≠ 0 } }

/-- The place of a dictionary, a chunk of one byte, and an empty chunk at the end. -/
def Download.sampleResponses : List Occurrence :=
  [.response [0, 0, 7, 0, 0, 0],
    .response [0, 0, 1, 0, 0, 0, 1, 0, 0, 0, 2],
    .response [0, 2, 0, 0, 0, 0, 4, 0, 0, 0, 0, 0, 0, 0]]

/-- The byte that arrives makes up the dictionary; what was left over is gone, and so is the file that
    could not be written. -/
theorem Download.dictionary_gathered_leftover :
    leftover.store.get? ⟨1, 1⟩ = some (fragment ⟨1, 1⟩ [9, 9]) ∧
    ∃ d, d = (Session.download ⟨1, 1⟩).dialogue sampleScope leftover sampleResponses ∧
      d.standing = .done (.dictionary ⟨1, 1⟩) ∧ d.memory.store.folder.place = .listed [] ∧
      d.memory.store.get? ⟨1, 1⟩ =
        some (.ofContent ⟨1, 1⟩ "dictionary_1_1.bin" [2]) := by
  refine ⟨rfl, _, rfl, ?_⟩
  have hlacks : leftover.store.containsComplete ⟨1, 1⟩ = false := by decide +kernel
  have hgathered := dictionary_gathered hlacks sampleScope sampleResponses
  have harrived : ((Session.download ⟨1, 1⟩).dialogue sampleScope leftover
      sampleResponses).arrived = [2] := by decide +kernel
  have hdone : ((Session.download ⟨1, 1⟩).dialogue sampleScope leftover
      sampleResponses).standing = .done (.dictionary ⟨1, 1⟩) := by decide +kernel
  obtain ⟨-, -, hfound⟩ := hgathered.completed _ hdone
  rw [harrived] at hfound
  refine ⟨hdone, by decide +kernel, hfound.trans ?_⟩
  decide +kernel

end DeviceEnablement
