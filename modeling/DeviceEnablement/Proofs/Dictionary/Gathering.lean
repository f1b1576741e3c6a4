/-
  How dictionaries gather.

  A store does not remember how its dictionaries came about.  We write down every call with what was
  answered, for all keys in one log, and read off the log what the store must hold: under each key the
  payloads of the calls that were not rejected since the key was reset, one after the other.  A call
  that fails because its file cannot be written is not rejected: the dictionary has grown before.

  1. `taken`, `contents`, `completed`: what a log says about a key.
  2. `Store.Tracks`: the store holds what the log says.  A call is rejected and changes nothing, or
     leaves its key as the longer log has it (`Tracks.outcome`), so every sequence of calls is kept
     track of (`Tracks.calls`).
  3. `Accounted`: this, and what any next call would come to.
  4. `gathered_as_logged`: a store that was empty is accounted for, whatever it is asked and however
     its disk fails.
-/
import DeviceEnablement.Proofs.Dictionary.Persistence
import DeviceEnablement.Proofs.Table
import Mathlib.Data.List.DropRight

namespace DeviceEnablement

/-! ## Calls and answers -/

namespace StoreCall

/-- The key that a call is about. -/
def key : StoreCall → DictionaryKey
  | addChunk key _ _ _ => key
  | complete key => key
  | reset key => key

/-- What a call adds under a key: its payload, without the last byte if that is a check. -/
def content? (key : DictionaryKey) : StoreCall → Option Bytes
  | addChunk other payload hasChecksum _ =>
    if other = key then some (if hasChecksum then payload.dropLast else payload) else none
  | complete _ => none
  | reset _ => none

/-- Whether a call is the last one for a key. -/
def completes (key : DictionaryKey) : StoreCall → Bool
  | addChunk other _ _ isFinal => other = key && isFinal
  | complete other => other = key
  | reset _ => false

/-- Whether a call resets a key. -/
def resets (key : DictionaryKey) : StoreCall → Bool
  | reset other => other = key
  | addChunk _ _ _ _ => false
  | complete _ => false

end StoreCall

/-- Whether a call was refused before anything was done: a file that cannot be accessed comes after. -/
def StoreError.isRejection : StoreError → Bool
  | io _ => false
  | _ => true

/-- A call and what was answered. -/
structure StoreAnswer where
  call : StoreCall
  result : Except StoreError Unit

/-- Whether a call was rejected. -/
def StoreAnswer.rejected (a : StoreAnswer) : Bool :=
  match a.result with
  | .ok () => false
  | .error e => e.isRejection

/-! ## What a log says -/

/-- The calls since a key was reset that were not rejected, those about other keys included. -/
def taken (key : DictionaryKey) (log : List StoreAnswer) : List StoreCall :=
  ((log.rtakeWhile fun a => !a.call.resets key).filter fun a => !a.rejected).map (·.call)

/-- What these calls have added under the key, piece by piece. -/
def contents (key : DictionaryKey) (log : List StoreAnswer) : List Bytes :=
  (taken key log).filterMap (·.content? key)

/-- Whether one of these calls was the last one for the key. -/
def completed (key : DictionaryKey) (log : List StoreAnswer) : Bool :=
  (taken key log).any (·.completes key)

variable {key : DictionaryKey} {log : List StoreAnswer} {a : StoreAnswer} {call : StoreCall}

theorem taken_reset (h : a.call.resets key = true) : taken key (log ++ [a]) = [] := by
  unfold taken
  rw [List.rtakeWhile_concat_neg _ _ _ (by simp [h])]
  rfl

theorem taken_rejected (h : a.call.resets key = false) (hrejected : a.rejected = true) :
    taken key (log ++ [a]) = taken key log := by
  unfold taken
  rw [List.rtakeWhile_concat_pos _ _ _ (by simp [h]), List.filter_append]
  simp [hrejected]

theorem taken_accepted (h : a.call.resets key = false) (haccepted : a.rejected = false) :
    taken key (log ++ [a]) = taken key log ++ [a.call] := by
  unfold taken
  rw [List.rtakeWhile_concat_pos _ _ _ (by simp [h]), List.filter_append, List.map_append]
  simp [haccepted]

theorem completes_addChunk (key : DictionaryKey) (payload : Bytes) (hasChecksum isFinal : Bool) :
    (StoreCall.addChunk key payload hasChecksum isFinal).completes key = isFinal := by
  show (decide (key = key) && isFinal) = isFinal
  rw [decide_eq_true rfl, Bool.true_and]

theorem resets_reset (key : DictionaryKey) : (StoreCall.reset key).resets key = true :=
  decide_eq_true rfl

theorem resets_of_other (h : call.key ≠ key) : call.resets key = false := by
  cases call with
  | reset other => exact decide_eq_false h
  | addChunk _ _ _ _ => rfl
  | complete _ => rfl

theorem content?_of_other (h : call.key ≠ key) : call.content? key = none := by
  cases call with
  | addChunk _ _ _ _ => exact if_neg h
  | complete _ => rfl
  | reset _ => rfl

theorem completes_of_other (h : call.key ≠ key) : call.completes key = false := by
  cases call with
  | addChunk other _ _ isFinal =>
    have hother : decide (other = key) = false := decide_eq_false h
    show (decide (other = key) && isFinal) = false
    rw [hother, Bool.false_and]
  | complete _ => exact decide_eq_false h
  | reset _ => rfl

theorem contents_reset (h : a.call.resets key = true) : contents key (log ++ [a]) = [] := by
  unfold contents
  rw [taken_reset h]
  rfl

theorem completed_reset (h : a.call.resets key = true) : completed key (log ++ [a]) = false := by
  unfold completed
  rw [taken_reset h]
  rfl

theorem contents_rejected (h : a.call.resets key = false) (hrejected : a.rejected = true) :
    contents key (log ++ [a]) = contents key log := by
  unfold contents
  rw [taken_rejected h hrejected]

theorem completed_rejected (h : a.call.resets key = false) (hrejected : a.rejected = true) :
    completed key (log ++ [a]) = completed key log := by
  unfold completed
  rw [taken_rejected h hrejected]

theorem contents_accepted (h : a.call.resets key = false) (haccepted : a.rejected = false) :
    contents key (log ++ [a]) = contents key log ++ (a.call.content? key).toList := by
  unfold contents
  rw [taken_accepted h haccepted, List.filterMap_append]
  cases hcontent : a.call.content? key with
  | none => simp [hcontent]
  | some content => simp [hcontent]

theorem completed_accepted (h : a.call.resets key = false) (haccepted : a.rejected = false) :
    completed key (log ++ [a]) = (completed key log || a.call.completes key) := by
  unfold completed
  rw [taken_accepted h haccepted, List.any_append]
  simp

/-- A call about another key says nothing about this one. -/
theorem contents_other (h : a.call.key ≠ key) : contents key (log ++ [a]) = contents key log := by
  cases hrejected : a.rejected with
  | true => exact contents_rejected (resets_of_other h) hrejected
  | false =>
    rw [contents_accepted (resets_of_other h) hrejected, content?_of_other h]
    exact List.append_nil _

theorem completed_other (h : a.call.key ≠ key) :
    completed key (log ++ [a]) = completed key log := by
  cases hrejected : a.rejected with
  | true => exact completed_rejected (resets_of_other h) hrejected
  | false =>
    rw [completed_accepted (resets_of_other h) hrejected, completes_of_other h, Bool.or_false]

/-- The dictionary that a log says there is. -/
def drafted (key : DictionaryKey) (log : List StoreAnswer) : Dictionary :=
  { key, data := (contents key log).flatten, complete := completed key log, file := key.fileName }

theorem drafted_accepted (h : a.call.resets key = false) (haccepted : a.rejected = false) :
    drafted key (log ++ [a]) =
      { drafted key log with
        data := (contents key log).flatten ++ (a.call.content? key).getD []
        complete := completed key log || a.call.completes key } := by
  unfold drafted
  rw [contents_accepted h haccepted, completed_accepted h haccepted, List.flatten_append]
  cases a.call.content? key with
  | none => rfl
  | some content => simp

/-- One more chunk, which may be the last one. -/
theorem drafted_addChunk {payload : Bytes} {hasChecksum isFinal : Bool}
    {result : Except StoreError Unit} (hopen : completed key log = false)
    (haccepted : StoreAnswer.rejected
      ⟨.addChunk key payload hasChecksum isFinal, result⟩ = false) :
    contents key (log ++ [⟨.addChunk key payload hasChecksum isFinal, result⟩]) ≠ [] ∧
    drafted key (log ++ [⟨.addChunk key payload hasChecksum isFinal, result⟩]) =
      { drafted key log with
        data := (contents key log).flatten ++ Store.chunkContent payload hasChecksum
        complete := isFinal } := by
  have hcontent : (StoreCall.addChunk key payload hasChecksum isFinal).content? key =
      some (Store.chunkContent payload hasChecksum) := if_pos rfl
  constructor
  · rw [contents_accepted rfl haccepted, hcontent]
    exact List.append_ne_nil_of_right_ne_nil _ (List.cons_ne_nil _ _)
  · rw [drafted_accepted rfl haccepted, hcontent, completes_addChunk, hopen]
    rfl

/-- A dictionary of which something has come is completed as it is. -/
theorem drafted_complete {result : Except StoreError Unit} (hsome : (contents key log).flatten ≠ [])
    (haccepted : StoreAnswer.rejected ⟨.complete key, result⟩ = false) :
    contents key (log ++ [⟨.complete key, result⟩]) ≠ [] ∧
    drafted key (log ++ [⟨.complete key, result⟩]) = (drafted key log).markComplete := by
  have hlast : (StoreCall.complete key).completes key = true := decide_eq_true rfl
  constructor
  · rw [contents_accepted rfl haccepted]
    intro hnothing
    rw [(List.append_eq_nil_iff.mp hnothing).1] at hsome
    exact hsome rfl
  · rw [drafted_accepted rfl haccepted, hlast, Bool.or_true]
    show { drafted key log with
      data := (contents key log).flatten ++ [], complete := true : Dictionary } = _
    rw [List.append_nil]
    rfl

/-- Whether a log leaves a reason to reject a call. -/
def StoreCall.RejectedAfter (log : List StoreAnswer) : StoreCall → Prop
  | addChunk key payload _ _ => payload = [] ∨ completed key log = true
  | complete key => (contents key log).flatten = [] ∨ completed key log = true
  | reset _ => False

/-- What is complete is closed to every call but a reset. -/
theorem rejectedAfter_of_completed (hcompleted : completed call.key log = true)
    (hresets : call.resets call.key = false) : call.RejectedAfter log := by
  cases call with
  | addChunk key payload hasChecksum isFinal => exact Or.inr hcompleted
  | complete key => exact Or.inr hcompleted
  | reset key => exact absurd (hresets.symm.trans (resets_reset key)) Bool.false_ne_true

/-! ## Stores -/

namespace Store

variable {s s' : Store} {payload : Bytes}

/-- The calls with their answers, one after the other. -/
def logged (s : Store) : List StoreCall → List StoreAnswer
  | [] => []
  | call :: rest => ⟨call, (s.answer call).1⟩ :: (s.answer call).2.logged rest

/-- What is finished was not rejected: the file is written last. -/
theorem rejected_finish (s : Store) (d : Dictionary) (call : StoreCall) :
    StoreAnswer.rejected ⟨call, (s.finish d).1⟩ = false := by
  unfold finish save Dictionary.save
  dsimp only
  split
  · rfl
  · rfl

theorem rejected_reset (s : Store) (key : DictionaryKey) (call : StoreCall) :
    StoreAnswer.rejected ⟨call, (s.reset key).1⟩ = false := by
  unfold reset Dictionary.removeFile
  dsimp only
  split
  · rfl
  · rfl

/-- Whether a store holds under a key what a log says.  Nothing is complete of which nothing has come. -/
structure HoldsAs (s : Store) (log : List StoreAnswer) (key : DictionaryKey) : Prop where
  get?_eq : s.get? key = if contents key log = [] then none else some (drafted key log)
  begun : completed key log = true → contents key log ≠ []

/-- What holds after one log holds after another one that says the same of the key. -/
theorem HoldsAs.congr {log' : List StoreAnswer} (h : s.HoldsAs log key)
    (hget : s'.get? key = s.get? key) (hcontents : contents key log' = contents key log)
    (hcompleted : completed key log' = completed key log) : s'.HoldsAs log' key := by
  constructor
  · unfold drafted
    rw [hget, h.get?_eq, hcontents, hcompleted]
    rfl
  · rw [hcontents, hcompleted]
    exact h.begun

/-- Whether a store holds under every key what a log says. -/
def Tracks (s : Store) (log : List StoreAnswer) : Prop := ∀ key, s.HoldsAs log key

namespace Tracks

/-- What a chunk is appended to. -/
theorem getD_eq (h : s.Tracks log) (key : DictionaryKey) :
    (s.get? key).getD (.new key key.fileName) = drafted key log := by
  rw [(h key).get?_eq]
  split
  · rename_i hnothing
    have hopen : completed key log = false := by
      rw [Bool.eq_false_iff]
      intro hcompleted
      exact (h key).begun hcompleted hnothing
    unfold drafted
    rw [hnothing, hopen]
    rfl
  · rfl

theorem get?_of_completed (h : s.Tracks log) (hcompleted : completed key log = true) :
    s.get? key = some (drafted key log) :=
  (h key).get?_eq.trans (if_neg ((h key).begun hcompleted))

theorem containsComplete_eq (h : s.Tracks log) (key : DictionaryKey) :
    s.containsComplete key = completed key log := by
  rw [Bool.eq_iff_iff, containsComplete_iff]
  constructor
  · rintro ⟨d, hd, hcomplete⟩
    rw [(h key).get?_eq] at hd
    split at hd
    · cases hd
    · cases hd
      exact hcomplete
  · intro hcompleted
    exact ⟨_, h.get?_of_completed hcompleted, hcompleted⟩

theorem data_eq (h : s.Tracks log) (key : DictionaryKey) :
    ((s.get? key).map (·.data)).getD [] = (contents key log).flatten := by
  rw [(h key).get?_eq]
  split
  · rename_i hnothing
    rw [hnothing]
    rfl
  · rfl

theorem get?_eq_none_iff (h : s.Tracks log) (key : DictionaryKey) :
    s.get? key = none ↔ contents key log = [] := by
  rw [(h key).get?_eq]
  split
  · rename_i hnothing
    exact iff_of_true rfl hnothing
  · rename_i hsomething
    exact iff_of_false (Option.some_ne_none _) hsomething

/-! ### What a call comes to -/

/-- A complete dictionary takes nothing more. -/
theorem addChunk_full (h : s.Tracks log) (hcompleted : completed key log = true)
    (hpayload : payload ≠ []) (hasChecksum isFinal : Bool) :
    s.addChunk key payload hasChecksum isFinal = (.error (.complete key), s) := by
  have hfull : (drafted key log).append (chunkContent payload hasChecksum) =
      .error (.complete key) := if_pos hcompleted
  have hthere : s.dictionaries.get? (drafted key log).key = some (drafted key log) :=
    h.get?_of_completed hcompleted
  have hsame : s.insert (drafted key log) = s := by
    unfold insert
    rw [Table.insert_of_get? hthere]
  unfold addChunk
  rw [if_neg (mt List.isEmpty_iff.mp hpayload)]
  dsimp only
  rw [h.getD_eq, hfull, hsame]

/-- What has arrived of any other grows by the content of the chunk, whether or not its file can be
    written.  Only the file of the last chunk is. -/
theorem addChunk_more (h : s.Tracks log) (hopen : completed key log = false)
    (hpayload : payload ≠ []) (hasChecksum isFinal : Bool) :
    (∀ call, StoreAnswer.rejected ⟨call, (s.addChunk key payload hasChecksum isFinal).1⟩ = false) ∧
    (isFinal = false → (s.addChunk key payload hasChecksum isFinal).1 = .ok ()) ∧
    ∀ other, (s.addChunk key payload hasChecksum isFinal).2.get? other =
      if other = key then some { drafted key log with
        data := (contents key log).flatten ++ chunkContent payload hasChecksum, complete := isFinal }
      else s.get? other := by
  have hmore : (drafted key log).append (chunkContent payload hasChecksum) =
      .ok { drafted key log with
        data := (contents key log).flatten ++ chunkContent payload hasChecksum } :=
    if_neg (Bool.eq_false_iff.mp hopen)
  unfold addChunk
  rw [if_neg (mt List.isEmpty_iff.mp hpayload)]
  dsimp only
  rw [h.getD_eq, hmore]
  cases isFinal with
  | true => exact ⟨s.rejected_finish _, (nomatch ·), fun other => s.get?_finish _ other⟩
  | false =>
    refine ⟨fun call => rfl, fun _ => rfl, fun other => (s.get?_insert _ other).trans ?_⟩
    unfold drafted
    rw [hopen]

/-- A dictionary of which something has arrived can be completed once. -/
theorem complete_cases (h : s.Tracks log) (key : DictionaryKey) :
    (((contents key log).flatten = [] ∨ completed key log = true) ∧ s.complete key =
      (.error (.invalidArgument s!"no partial data to complete for dictionary {key.text}"), s)) ∨
    ((contents key log).flatten ≠ [] ∧ completed key log = false ∧
      s.complete key = s.finish (drafted key log)) := by
  unfold complete
  rw [(h key).get?_eq]
  by_cases hnothing : contents key log = []
  · left
    rw [if_pos hnothing, hnothing]
    exact ⟨Or.inl rfl, rfl⟩
  · rw [if_neg hnothing]
    have hpartial : (!(drafted key log).data.isEmpty && !(drafted key log).complete) = true ↔
        (contents key log).flatten ≠ [] ∧ completed key log = false := by
      rw [Bool.and_eq_true, Bool.not_eq_true', Bool.not_eq_true', ← Bool.not_eq_true,
        List.isEmpty_iff]
      exact Iff.rfl
    dsimp only
    split
    · rename_i hopen
      obtain ⟨hsome, hopen⟩ := hpartial.mp hopen
      exact Or.inr ⟨hsome, hopen, rfl⟩
    · rename_i hclosed
      rw [hpartial, not_and_or, not_not, Bool.not_eq_false] at hclosed
      exact Or.inl ⟨hclosed, rfl⟩

end Tracks

/-- Whether a store takes nothing more under a key: neither another chunk nor another completion. -/
structure Closed (s : Store) (key : DictionaryKey) : Prop where
  chunk : ∀ payload hasChecksum isFinal, payload ≠ [] →
    s.addChunk key payload hasChecksum isFinal = (.error (.complete key), s)
  completion : s.complete key =
    (.error (.invalidArgument s!"no partial data to complete for dictionary {key.text}"), s)

/-- What a call can come to: it is rejected and changes nothing, or the dictionary under its key is from
    now on the one that the log says, or there is none any more. -/
inductive Outcome (s s' : Store) (log : List StoreAnswer) (a : StoreAnswer) : Prop
  | refused (rejected : a.rejected = true) (resets : a.call.resets a.call.key = false) (same : s' = s)
  | grown (accepted : a.rejected = false) (begun : contents a.call.key (log ++ [a]) ≠ [])
    (get?_eq : ∀ key, s'.get? key =
      if key = a.call.key then some (drafted a.call.key (log ++ [a])) else s.get? key)
  | cleared (accepted : a.rejected = false) (resets : a.call.resets a.call.key = true)
    (get?_eq : ∀ key, s'.get? key = if key = a.call.key then none else s.get? key)

/-- Only what is about its key is changed by a call. -/
theorem Outcome.others (h : Outcome s s' log a) (hother : a.call.key ≠ key) :
    s'.get? key = s.get? key := by
  cases h with
  | refused _ _ same => rw [same]
  | grown _ _ get?_eq => rw [get?_eq, if_neg hother.symm]
  | cleared _ _ get?_eq => rw [get?_eq, if_neg hother.symm]

/-- A rejected call changes nothing. -/
theorem Outcome.same_of_rejected (h : Outcome s s' log a) (hrejected : a.rejected = true) :
    s' = s := by
  cases h with
  | refused _ _ same => exact same
  | grown accepted _ _ => exact absurd (accepted.symm.trans hrejected) Bool.false_ne_true
  | cleared accepted _ _ => exact absurd (accepted.symm.trans hrejected) Bool.false_ne_true

/-- The store still holds what the log says. -/
theorem Outcome.tracks (h : s.Tracks log) (houtcome : Outcome s s' log a) :
    s'.Tracks (log ++ [a]) := by
  intro key
  by_cases hkey : a.call.key = key
  · subst hkey
    cases houtcome with
    | refused rejected resets same =>
      exact (h _).congr (by rw [same]) (contents_rejected resets rejected)
        (completed_rejected resets rejected)
    | grown _ begun get?_eq =>
      refine ⟨?_, fun _ => begun⟩
      rw [get?_eq, if_pos rfl, if_neg begun]
    | cleared _ resets get?_eq =>
      constructor
      · rw [get?_eq, if_pos rfl, contents_reset resets]
        rfl
      · rw [completed_reset resets]
        exact (nomatch ·)
  · exact (h key).congr (houtcome.others hkey) (contents_other hkey) (completed_other hkey)

namespace Tracks

/-- Each call has one of these outcomes. -/
theorem outcome (h : s.Tracks log) (call : StoreCall) :
    Outcome s (s.answer call).2 log ⟨call, (s.answer call).1⟩ := by
  cases call with
  | addChunk key payload hasChecksum isFinal =>
    show Outcome s (s.addChunk key payload hasChecksum isFinal).2 log
      ⟨_, (s.addChunk key payload hasChecksum isFinal).1⟩
    by_cases hpayload : payload = []
    · subst hpayload
      exact .refused rfl rfl rfl
    · cases hcompleted : completed key log with
      | true =>
        rw [h.addChunk_full hcompleted hpayload]
        exact .refused rfl rfl rfl
      | false =>
        obtain ⟨haccepted, -, hget⟩ := h.addChunk_more hcompleted hpayload hasChecksum isFinal
        obtain ⟨hbegun, hdrafted⟩ := drafted_addChunk hcompleted (haccepted _)
        refine .grown (haccepted _) hbegun fun other => ?_
        rw [hget, ← hdrafted]
        rfl
  | complete key =>
    show Outcome s (s.complete key).2 log ⟨_, (s.complete key).1⟩
    rcases h.complete_cases key with ⟨-, hrejected⟩ | ⟨hsome, -, hfinished⟩
    · rw [hrejected]
      exact .refused rfl rfl rfl
    · rw [hfinished]
      have haccepted := s.rejected_finish (drafted key log) (.complete key)
      obtain ⟨hbegun, hdrafted⟩ := drafted_complete hsome haccepted
      refine .grown haccepted hbegun fun other => ?_
      rw [get?_finish, ← hdrafted]
      rfl
  | reset key =>
    exact .cleared (s.rejected_reset key _) (resets_reset key) fun other => get?_reset s key other

/-- A call is rejected exactly when the log leaves a reason for it. -/
theorem rejected_iff (h : s.Tracks log) (call : StoreCall) :
    StoreAnswer.rejected ⟨call, (s.answer call).1⟩ = true ↔ call.RejectedAfter log := by
  cases call with
  | addChunk key payload hasChecksum isFinal =>
    show StoreAnswer.rejected ⟨_, (s.addChunk key payload hasChecksum isFinal).1⟩ = true ↔
      payload = [] ∨ completed key log = true
    by_cases hpayload : payload = []
    · subst hpayload
      exact ⟨fun _ => Or.inl rfl, fun _ => rfl⟩
    · rw [or_iff_right hpayload]
      cases hcompleted : completed key log with
      | true =>
        rw [h.addChunk_full hcompleted hpayload]
        exact ⟨fun _ => rfl, fun _ => rfl⟩
      | false =>
        rw [(h.addChunk_more hcompleted hpayload hasChecksum isFinal).1]
  | complete key =>
    show StoreAnswer.rejected ⟨_, (s.complete key).1⟩ = true ↔
      (contents key log).flatten = [] ∨ completed key log = true
    rcases h.complete_cases key with ⟨hreason, hrejected⟩ | ⟨hsome, hopen, hfinished⟩
    · rw [hrejected]
      exact ⟨fun _ => hreason, fun _ => rfl⟩
    · rw [hfinished, rejected_finish, or_iff_right hsome, hopen]
  | reset key =>
    show StoreAnswer.rejected ⟨_, (s.reset key).1⟩ = true ↔ False
    rw [rejected_reset]
    exact iff_false_intro Bool.false_ne_true

/-- Nothing more is taken of what is complete. -/
theorem closed (h : s.Tracks log) (hcompleted : completed key log = true) : s.Closed key where
  chunk payload hasChecksum isFinal hpayload :=
    h.addChunk_full hcompleted hpayload hasChecksum isFinal
  completion := by
    rcases h.complete_cases key with ⟨-, hrejected⟩ | ⟨-, hopen, -⟩
    · exact hrejected
    · exact absurd (hopen.symm.trans hcompleted) Bool.false_ne_true

/-- A file that cannot be accessed is the one of a dictionary that has been completed. -/
theorem completes_of_io (h : s.Tracks log) {e : FileError}
    (hresets : call.resets call.key = false) (hfailed : (s.answer call).1 = .error (.io e)) :
    call.completes call.key = true := by
  cases call with
  | addChunk key payload hasChecksum isFinal =>
    change (s.addChunk key payload hasChecksum isFinal).1 = .error (.io e) at hfailed
    by_cases hpayload : payload = []
    · subst hpayload
      cases hfailed
    · cases hcompleted : completed key log with
      | true =>
        rw [h.addChunk_full hcompleted hpayload] at hfailed
        cases hfailed
      | false =>
        cases isFinal with
        | true => exact completes_addChunk key payload hasChecksum true
        | false =>
          rw [(h.addChunk_more hcompleted hpayload hasChecksum false).2.1 rfl] at hfailed
          cases hfailed
  | complete key => exact decide_eq_true rfl
  | reset key => exact absurd (hresets.symm.trans (resets_reset key)) Bool.false_ne_true

/-- The dictionary whose file cannot be written is complete all the same. -/
theorem complete_of_io (h : s.Tracks log) {e : FileError}
    (hresets : call.resets call.key = false) (hfailed : (s.answer call).1 = .error (.io e)) :
    (s.answer call).2.containsComplete call.key = true := by
  have haccepted : StoreAnswer.rejected ⟨call, (s.answer call).1⟩ = false := by
    unfold StoreAnswer.rejected
    rw [hfailed]
    rfl
  rw [((h.outcome call).tracks h).containsComplete_eq, completed_accepted hresets haccepted,
    h.completes_of_io hresets hfailed, Bool.or_true]

/-! ### What a sequence of calls comes to -/

/-- Every sequence of calls is kept track of. -/
theorem calls (h : s.Tracks log) (cs : List StoreCall) :
    (s.calls cs).Tracks (log ++ s.logged cs) := by
  induction cs generalizing s log with
  | nil =>
    rw [logged, List.append_nil]
    exact h
  | cons call rest ih =>
    have hrest := ih ((h.outcome call).tracks h)
    rw [List.append_assoc] at hrest
    exact hrest

/-- Nothing but a reset changes a complete dictionary. -/
theorem kept (h : s.Tracks log) (hcompleted : completed key log = true) {more : List StoreCall}
    (hmore : .reset key ∉ more) :
    (s.calls more).get? key = s.get? key ∧ completed key (log ++ s.logged more) = true := by
  induction more generalizing s log with
  | nil =>
    rw [logged, List.append_nil]
    exact ⟨rfl, hcompleted⟩
  | cons call rest ih =>
    rw [List.mem_cons, not_or] at hmore
    have houtcome := h.outcome call
    have hresets : call.resets key = false := by
      cases call with
      | addChunk _ _ _ _ => rfl
      | complete _ => rfl
      | reset other => exact decide_eq_false fun hother => hmore.1 (hother ▸ rfl)
    have hstill : completed key (log ++ [⟨call, (s.answer call).1⟩]) = true := by
      cases hrejected : StoreAnswer.rejected ⟨call, (s.answer call).1⟩ with
      | true => exact (completed_rejected hresets hrejected).trans hcompleted
      | false => rw [completed_accepted hresets hrejected, hcompleted, Bool.true_or]
    have hsame : (s.answer call).2.get? key = s.get? key := by
      by_cases hother : call.key = key
      · subst hother
        have hrejected := (h.rejected_iff call).mpr (rejectedAfter_of_completed hcompleted hresets)
        rw [houtcome.same_of_rejected hrejected]
      · exact houtcome.others hother
    obtain ⟨hkept, hlast⟩ := ih (houtcome.tracks h) hstill hmore.2
    rw [List.append_assoc] at hlast
    exact ⟨hkept.trans hsame, hlast⟩

end Tracks

/-- An empty store that has not been asked for anything. -/
theorem tracks_nothing (uuid : Uuid) (folder : Folder) : Tracks { uuid, folder } [] :=
  fun _ => ⟨rfl, (nomatch ·)⟩

/-! ## The account of a store -/

/-- Whether a log accounts for what a store holds and for its answer to any next call. -/
structure Accounted (s : Store) (log : List StoreAnswer) : Prop where
  /-- What has come under a key since it was reset, in this order. -/
  data : ∀ key, ((s.get? key).map (·.data)).getD [] = (contents key log).flatten
  /-- Something is there exactly when something has come, be it a chunk without content. -/
  absent : ∀ key, s.get? key = none ↔ contents key log = []
  complete : ∀ key, s.containsComplete key = completed key log
  rejected : ∀ call,
    StoreAnswer.rejected ⟨call, (s.answer call).1⟩ = true ↔ call.RejectedAfter log
  unchanged : ∀ call, call.RejectedAfter log → (s.answer call).2 = s
  empty : ∀ key hasChecksum isFinal, s.addChunk key [] hasChecksum isFinal =
    (.error (.invalidArgument s!"empty chunk for dictionary {key.text}"), s)
  /-- Nothing changes a complete dictionary until it is reset. -/
  closed : ∀ key more, completed key log = true → .reset key ∉ more →
    (s.calls more).get? key = s.get? key ∧ (s.calls more).Closed key
  /-- A file that cannot be written is the one of a dictionary that is complete in memory. -/
  failed : ∀ call e, call.resets call.key = false → (s.answer call).1 = .error (.io e) →
    (s.answer call).2.containsComplete call.key = true
  others : ∀ call key, call.key ≠ key → (s.answer call).2.get? key = s.get? key

/-- Whatever a store that was empty is asked, and whichever of its files cannot be accessed, it holds
    under each key what was taken since the key was reset. -/
theorem gathered_as_logged (uuid : Uuid) (folder : Folder) (cs : List StoreCall) :
    Accounted (calls { uuid, folder } cs) (logged { uuid, folder } cs) := by
  have h : (calls { uuid, folder } cs).Tracks (logged { uuid, folder } cs) :=
    (tracks_nothing uuid folder).calls cs
  constructor
  case data => exact h.data_eq
  case absent => exact h.get?_eq_none_iff
  case complete => exact h.containsComplete_eq
  case rejected => exact h.rejected_iff
  case unchanged =>
    intro call hreason
    exact (h.outcome call).same_of_rejected ((h.rejected_iff call).mpr hreason)
  case empty =>
    intro key hasChecksum isFinal
    rfl
  case closed =>
    intro key more hcompleted hmore
    obtain ⟨hkept, hstill⟩ := h.kept hcompleted hmore
    exact ⟨hkept, (h.calls more).closed hstill⟩
  case failed =>
    intro call e hresets hfailed
    exact h.complete_of_io hresets hfailed
  case others =>
    intro call key hother
    exact (h.outcome call).others hother

/-- Two chunks of one key with one of another in between; no file can be written, and the last chunk
    comes too late. -/
example : contents ⟨1, 0⟩ (logged { uuid := ⟨0x1234⟩, folder := { fails := fun _ => true } }
    [.addChunk ⟨1, 0⟩ [0x01, 0xff] true false, .addChunk ⟨2, 0⟩ [0x02] false false,
      .addChunk ⟨1, 0⟩ [0x03] false true, .addChunk ⟨1, 0⟩ [0x04] false false]) =
    [[0x01], [0x03]] := by decide

/-- An empty chunk is refused as an empty one even where a dictionary is complete. -/
theorem empty_chunk_of_complete :
    completed ⟨1, 0⟩ (logged { uuid := ⟨0x1234⟩ } [.addChunk ⟨1, 0⟩ [0x01] false true]) = true ∧
    ((calls { uuid := ⟨0x1234⟩ } [.addChunk ⟨1, 0⟩ [0x01] false true]).addChunk
      ⟨1, 0⟩ [] false false).1 = .error (.invalidArgument "empty chunk for dictionary (1, 0)") ∧
    ((calls { uuid := ⟨0x1234⟩ } [.addChunk ⟨1, 0⟩ [0x01] false true]).addChunk
      ⟨1, 0⟩ [] false false).1 ≠ .error (.complete ⟨1, 0⟩) := by
  refine ⟨?_, ?_, ?_⟩
  · decide
  · rfl
  · intro h
    cases h

end Store

end DeviceEnablement
