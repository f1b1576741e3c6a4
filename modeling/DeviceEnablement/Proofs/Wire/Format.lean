/-
  Readers that go with writers.

  A writer may refuse a value, and a reader may refuse bytes.  They go together (`Reader.Reads`)
  when the writer takes exactly the values that fit, the reader gives each of them back whatever
  follows it, and the reader yields no value that does not fit.  The last point is what makes a
  value that was read from foreign bytes one that can be written again.

  1. `Reader.bind_eq_ok_iff`, `bind_eq_ok_iff`: what a sequence of steps has come to, step by step.
  2. `Reader.Reads.encodesAll_iff`, `manyOnto_append`, `fits_of_manyOnto`: elements one behind the
     other.
  3. `Reader.eq_cons_of_u8`, `Reader.eq_append_of_u32`, `Reader.eq_append_of_take`: what was read
     stood in front of the rest.
  4. `Bytes.zero_mem_utf8_iff`: a text holds a NUL exactly when its UTF-8 form holds a zero.
-/
import DeviceEnablement.Resource.Record

namespace DeviceEnablement

variable {α β : Type}

/-! ## Words -/

/-- A byte is what is left of a number with this remainder. -/
theorem Bytes.ofNat_of_mod {n : Nat} {b : UInt8} (h : n % 256 = b.toNat) : UInt8.ofNat n = b := by
  rw [← UInt8.toNat_inj, UInt8.toNat_ofNat']
  exact h

/-- Writing the word with these bytes gives the bytes back. -/
theorem Bytes.ofU16_toU16 (a b : UInt8) : ofU16 (toU16 a b) = [a, b] := by
  have ha := a.toNat_lt
  have hb := b.toNat_lt
  have hword : (toU16 a b).toNat = a.toNat + 256 * b.toNat := by
    unfold toU16
    rw [UInt16.toNat_ofNat']
    omega
  unfold ofU16
  rw [hword, ofNat_of_mod (b := a) (by omega), ofNat_of_mod (b := b) (by omega)]

/-- Writing the word with these bytes gives the bytes back. -/
theorem Bytes.ofU32_toU32 (a b c d : UInt8) : ofU32 (toU32 a b c d) = [a, b, c, d] := by
  have ha := a.toNat_lt
  have hb := b.toNat_lt
  have hc := c.toNat_lt
  have hd := d.toNat_lt
  have hword : (toU32 a b c d).toNat =
      a.toNat + 256 * b.toNat + 65536 * c.toNat + 16777216 * d.toNat := by
    unfold toU32
    rw [UInt32.toNat_ofNat']
    omega
  unfold ofU32
  rw [hword, ofNat_of_mod (b := a) (by omega), ofNat_of_mod (b := b) (by omega),
    ofNat_of_mod (b := c) (by omega), ofNat_of_mod (b := d) (by omega)]

/-- Words are told apart by their bytes. -/
theorem Bytes.ofU32_injective {w w' : UInt32} (h : ofU32 w = ofU32 w') : w = w' := by
  have hread := congrArg (fun bytes => Reader.u32 (bytes ++ [])) h
  rw [Reader.u32_append, Reader.u32_append] at hread
  exact Except.ok.inj (congrArg Prod.fst hread)

/-! ## Sequences -/

/-- A sequence of two steps succeeds when both of them do. -/
theorem bind_eq_ok_iff {ε : Type} {first : Except ε α} {next : α → Except ε β} {value : β} :
    first >>= next = .ok value ↔ ∃ a, first = .ok a ∧ next a = .ok value := by
  constructor
  · intro h
    cases first with
    | error e => cases h
    | ok a => exact ⟨a, rfl, h⟩
  · rintro ⟨a, rfl, h⟩
    exact h

namespace Reader

/-- Two readers, one behind the other, yield a value when both of them do. -/
theorem bind_eq_ok_iff {first : Reader α} {next : α → Reader β} {bytes rest : Bytes} {value : β} :
    (first >>= next) bytes = (.ok value, rest) ↔
      ∃ a middle, first bytes = (.ok a, middle) ∧ next a middle = (.ok value, rest) := by
  constructor
  · intro h
    obtain ⟨⟨result, middle⟩, hfirst⟩ : ∃ result, first bytes = result := ⟨_, rfl⟩
    cases result with
    | error e =>
      rw [bind_error hfirst] at h
      cases h
    | ok a =>
      rw [bind_ok hfirst] at h
      exact ⟨a, middle, hfirst, h⟩
  · rintro ⟨a, middle, hfirst, hnext⟩
    rw [bind_ok hfirst, hnext]

/-- What was taken has the length that was asked for. -/
theorem length_of_take {count : Nat} {bytes head rest : Bytes}
    (htake : take count bytes = (.ok head, rest)) : head.length = count := by
  unfold take at htake
  dsimp only at htake
  split at htake
  · rename_i hlength
    cases htake
    exact hlength
  · cases htake

theorem u8_cons (b : UInt8) (rest : Bytes) : u8 (b :: rest) = (.ok b, rest) := rfl

/-! ### Back to the bytes -/

theorem eq_cons_of_u8 {bytes rest : Bytes} {b : UInt8} (h : u8 bytes = (.ok b, rest)) :
    bytes = b :: rest := by
  cases bytes with
  | nil => cases h
  | cons a tail =>
    cases h
    rfl

theorem eq_append_of_u32 {bytes rest : Bytes} {w : UInt32} (h : u32 bytes = (.ok w, rest)) :
    bytes = Bytes.ofU32 w ++ rest := by
  rcases bytes with _ | ⟨a, _ | ⟨b, _ | ⟨c, _ | ⟨d, tail⟩⟩⟩⟩
  · cases h
  · cases h
  · cases h
  · cases h
  · cases h
    rw [Bytes.ofU32_toU32]
    rfl

theorem eq_append_of_take {count : Nat} {bytes head rest : Bytes}
    (h : take count bytes = (.ok head, rest)) : bytes = head ++ rest := by
  unfold take at h
  dsimp only at h
  split at h
  · cases h
    exact (List.take_append_drop ..).symm
  · cases h

/-- A check that has succeeded has taken nothing. -/
theorem ofExcept_eq_ok_iff {result : Except MessageError α} {bytes rest : Bytes} {value : α} :
    ofExcept result bytes = (.ok value, rest) ↔ result = .ok value ∧ bytes = rest := by
  unfold ofExcept
  rw [Prod.mk.injEq]

/-! ## Readers and writers -/

/-- Whether `read` goes with `encode`, and exactly the values that fit can be written. -/
structure Reads (read : Reader α) (encode : α → Except MessageError Bytes) (fits : α → Prop) :
    Prop where
  encodes_iff : ∀ value, (∃ bytes, encode value = .ok bytes) ↔ fits value
  read_append : ∀ {value bytes}, encode value = .ok bytes →
    ∀ rest, read (bytes ++ rest) = (.ok value, rest)
  fits_of_read : ∀ {bytes value rest}, read bytes = (.ok value, rest) → fits value

variable {read : Reader α} {encode : α → Except MessageError Bytes} {fits : α → Prop}

/-- Elements can be written one behind the other when each of them can. -/
theorem Reads.encodesAll_iff (h : Reads read encode fits) (acc : List Bytes) (values : List α) :
    (∃ bytes, ResourceRecord.encodeAllOnto encode acc values = .ok bytes) ↔
      ∀ value ∈ values, fits value := by
  induction values generalizing acc with
  | nil => exact ⟨fun _ _ hmem => absurd hmem List.not_mem_nil, fun _ => ⟨_, rfl⟩⟩
  | cons value rest ih =>
    rw [List.forall_mem_cons, ← h.encodes_iff value]
    unfold ResourceRecord.encodeAllOnto
    cases encode value with
    | error e =>
      dsimp only
      constructor
      · rintro ⟨bytes, hbytes⟩
        cases hbytes
      · rintro ⟨⟨bytes, hbytes⟩, -⟩
        cases hbytes
    | ok bytes =>
      dsimp only
      rw [ih (bytes :: acc)]
      exact ⟨fun hrest => ⟨⟨bytes, rfl⟩, hrest⟩, And.right⟩

/-- Elements that were written one behind the other are read back in order. -/
theorem Reads.manyOnto_append (h : Reads read encode fits) {acc : List Bytes} {values : List α}
    {bytes : Bytes} (hencode : ResourceRecord.encodeAllOnto encode acc values = .ok bytes) :
    ∃ body, bytes = acc.reverse.flatten ++ body ∧
      ∀ before rest, manyOnto read before values.length (body ++ rest) =
        (.ok (before.reverse ++ values), rest) := by
  induction values generalizing acc with
  | nil =>
    cases hencode
    refine ⟨[], (List.append_nil _).symm, fun before rest => ?_⟩
    rw [List.append_nil]
    rfl
  | cons value values ih =>
    unfold ResourceRecord.encodeAllOnto at hencode
    split at hencode
    · rename_i piece hpiece
      obtain ⟨body, rfl, hbody⟩ := ih hencode
      refine ⟨piece ++ body, ?_, fun before rest => ?_⟩
      · rw [List.reverse_cons, List.flatten_append, List.flatten_singleton, List.append_assoc]
      · rw [List.length_cons, List.append_assoc]
        unfold manyOnto
        rw [h.read_append hpiece]
        dsimp only
        rw [hbody (value :: before) rest, List.reverse_cons, List.append_assoc,
          List.singleton_append]
    · cases hencode

/-- What was read one behind the other are that many elements, and each of them fits. -/
theorem Reads.fits_of_manyOnto (h : Reads read encode fits) {before values : List α} {count : Nat}
    {bytes rest : Bytes} (hread : manyOnto read before count bytes = (.ok values, rest)) :
    ∃ new, values = before.reverse ++ new ∧ new.length = count ∧ ∀ value ∈ new, fits value := by
  induction count generalizing before bytes with
  | zero =>
    cases hread
    exact ⟨[], (List.append_nil _).symm, rfl, fun _ hmem => absurd hmem List.not_mem_nil⟩
  | succ count ih =>
    unfold manyOnto at hread
    split at hread
    · rename_i value middle hvalue
      obtain ⟨new, rfl, hcount, hnew⟩ := ih hread
      refine ⟨value :: new, ?_, congrArg Nat.succ hcount,
        List.forall_mem_cons.mpr ⟨h.fits_of_read hvalue, hnew⟩⟩
      rw [List.reverse_cons, List.append_assoc, List.singleton_append]
    · cases hread

end Reader

/-! ## Text -/

namespace Bytes

/-- Only NUL has a zero in its UTF-8 form. -/
theorem zero_mem_utf8EncodeChar_iff (c : Char) : 0 ∈ String.utf8EncodeChar c ↔ c = '\x00' := by
  have hzero : ∀ n, n < 256 → ((0 : UInt8) = .ofNat n ↔ n = 0) := by
    intro n hn
    rw [← UInt8.toNat_inj, UInt8.toNat_ofNat_of_lt' hn, eq_comm]
    rfl
  have hnul : c = '\x00' ↔ c.val.toNat = 0 := by
    rw [← Char.toNat_inj]
    rfl
  rw [hnul]
  unfold String.utf8EncodeChar
  dsimp only
  -- All bytes of a longer form are at least 128.
  split
  · rw [List.mem_singleton, hzero _ (by omega)]
  · split
    · simp only [List.mem_cons, List.not_mem_nil, or_false]
      rw [hzero _ (by omega), hzero _ (by omega)]
      omega
    · split
      · simp only [List.mem_cons, List.not_mem_nil, or_false]
        rw [hzero _ (by omega), hzero _ (by omega), hzero _ (by omega)]
        omega
      · simp only [List.mem_cons, List.not_mem_nil, or_false]
        rw [hzero _ (by omega), hzero _ (by omega), hzero _ (by omega), hzero _ (by omega)]
        omega

/-- The UTF-8 form of a text consists of the forms of its characters. -/
theorem utf8_eq_flatMap (text : String) :
    utf8 text = text.toList.flatMap String.utf8EncodeChar := by
  unfold utf8
  rw [← String.utf8Encode_toList, List.utf8Encode, List.data_toByteArray]

/-- A text holds a NUL exactly when its UTF-8 form holds a zero. -/
theorem zero_mem_utf8_iff (text : String) : 0 ∈ utf8 text ↔ '\x00' ∈ text.toList := by
  rw [utf8_eq_flatMap, List.mem_flatMap]
  simp only [zero_mem_utf8EncodeChar_iff]
  exact ⟨fun ⟨c, hmem, hc⟩ => hc ▸ hmem, fun hmem => ⟨_, hmem, rfl⟩⟩

end Bytes

end DeviceEnablement
