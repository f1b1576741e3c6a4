/-
  Responses with a text.

  A text is written as it is, with a NUL behind it, and read up to the first NUL.  So a text is read
  back exactly when it has no NUL of its own, and nothing in the writer sees to that: it refuses a text
  for its length alone.

  1. `VarString.untilNul`: a text up to its first NUL; `untilNul_eq_iff` says when that is all of it.
  2. `VarString.consumes_read`: this is what is read of a text, and no part of the written form is
     taken for a text.
  3. `Reader.consumes_afterSuccess`: the fields of a response behind the code of success.
  4. `texts_read_back`: both responses that carry a text, and `provider_with_nul` one that is not read
     back.
-/
import DeviceEnablement.Message.Response
import DeviceEnablement.Proofs.Wire.Truncation
import Mathlib.Data.List.TakeWhile

namespace DeviceEnablement

open Reader (Consumes)

/-! ## Texts -/

/-- What stands in front of the first zero is the form of the characters in front of the first NUL. -/
theorem Bytes.takeWhile_utf8 (text : String) :
    (utf8 text ++ [0]).takeWhile (· ≠ 0) =
      utf8 (String.ofList (text.toList.takeWhile (· ≠ '\x00'))) := by
  rw [utf8_eq_flatMap, utf8_eq_flatMap, String.toList_ofList]
  induction text.toList with
  | nil => rfl
  | cons c tail ih =>
    rw [List.flatMap_cons, List.append_assoc]
    by_cases hc : c = '\x00'
    · rw [List.takeWhile_cons_of_neg (by simpa using hc), hc]
      rfl
    · have hforms : ∀ b ∈ String.utf8EncodeChar c, decide (b ≠ 0) = true := by
        intro b hb
        refine decide_eq_true fun hzero => hc ?_
        exact (zero_mem_utf8EncodeChar_iff c).mp (hzero ▸ hb)
      rw [List.takeWhile_append_of_pos hforms, ih, List.takeWhile_cons_of_pos (by simpa using hc),
        List.flatMap_cons]

namespace VarString

variable {s : VarString} {bytes : Bytes}

/-- The text up to its first NUL. -/
def untilNul (s : VarString) : VarString :=
  { s with text := .ofList (s.text.toList.takeWhile (· ≠ '\x00')) }

/-- A text ends at its first NUL exactly when it has none. -/
theorem untilNul_eq_iff : s.untilNul = s ↔ '\x00' ∉ s.text.toList := by
  have htext : s.untilNul = s ↔ s.text.toList.takeWhile (· ≠ '\x00') = s.text.toList := by
    constructor
    · intro h
      exact String.toList_ofList.symm.trans (congrArg (·.text.toList) h)
    · intro h
      unfold untilNul
      rw [h, String.ofList_toList]
  rw [htext, List.takeWhile_eq_self_iff]
  constructor
  · intro h hmem
    exact of_decide_eq_true (h _ hmem) rfl
  · intro h c hmem
    exact decide_eq_true fun hc => h (hc ▸ hmem)

/-- A text is written when its length, the NUL behind it included, fits in a byte, and then all of it
    is written. -/
theorem encode_ok_iff : s.encode = .ok bytes ↔
    (Bytes.utf8 s.text).length < 255 ∧
      bytes = s.format :: .ofNat ((Bytes.utf8 s.text).length + 1) :: (Bytes.utf8 s.text ++ [0]) := by
  unfold encode
  dsimp only
  split
  · rename_i hlong
    exact ⟨(nomatch ·), fun h => absurd h.1 (by omega)⟩
  · rename_i hfits
    rw [Except.ok.injEq, eq_comm, and_iff_right (by omega)]

theorem encodes_iff : (∃ bytes, s.encode = .ok bytes) ↔ (Bytes.utf8 s.text).length < 255 :=
  ⟨fun ⟨_, h⟩ => (encode_ok_iff.mp h).1, fun hfits => ⟨_, encode_ok_iff.mpr ⟨hfits, rfl⟩⟩⟩

/-- What is read of a text ends at its first NUL; the bytes behind that one are passed over. -/
theorem consumes_read (hencode : s.encode = .ok bytes) : Consumes read s.untilNul bytes := by
  obtain ⟨hfits, rfl⟩ := encode_ok_iff.mp hencode
  have hlength : (UInt8.ofNat ((Bytes.utf8 s.text).length + 1)).toNat =
      (Bytes.utf8 s.text ++ [0]).length := by
    rw [UInt8.toNat_ofNat_of_lt' (Nat.succ_lt_succ hfits), List.length_append,
      List.length_singleton]
  refine (Reader.consumes_u8 s.format).bind ((Reader.consumes_u8 _).bind ?_)
  rw [hlength]
  refine (Reader.consumes_take _).followedBy fun rest => ?_
  rw [Bytes.takeWhile_utf8, Bytes.text?_utf8]
  rfl

end VarString

/-! ## Responses -/

/-- Behind the code of success a response is read field by field. -/
theorem Reader.consumes_afterSuccess {α : Type} {fields : Reader α} {value : α} {written : Bytes}
    (h : Consumes fields value written) :
    Consumes (afterSuccess fields) value (CompletionCode.success.toByte :: written) :=
  (consumes_u8 _).bind h

/-- A response that is consumed is decoded, whatever follows it. -/
theorem Reader.Consumes.run_append {α : Type} {read : Reader α} {value : α} {written : Bytes}
    (h : Consumes read value written) (rest : Bytes) : read.run (written ++ rest) = .ok value :=
  congrArg Prod.fst (h.read_append rest)

namespace NegotiateRedfishResponse

variable {r : NegotiateRedfishResponse} {bytes : Bytes}

theorem encode_ok_iff : r.encode = .ok bytes ↔ ∃ provider, r.provider.encode = .ok provider ∧
    [CompletionCode.success.toByte, r.concurrency, r.capabilities.bits]
      ++ Bytes.ofU16 r.features.bits ++ Bytes.ofU32 r.signature ++ provider = bytes := by
  unfold encode
  rw [bind_eq_ok_iff]
  exact exists_congr fun _ => and_congr_right fun _ => ⟨Except.ok.inj, congrArg _⟩

/-- Only the length of the name decides whether the response is written. -/
theorem encodes_iff :
    (∃ bytes, r.encode = .ok bytes) ↔ (Bytes.utf8 r.provider.text).length < 255 := by
  simp only [encode_ok_iff, ← VarString.encodes_iff]
  exact ⟨fun ⟨_, _, h, _⟩ => ⟨_, h⟩, fun ⟨_, h⟩ => ⟨_, _, h, rfl⟩⟩

theorem consumes (hencode : r.encode = .ok bytes) :
    Consumes (Reader.afterSuccess fields) { r with provider := r.provider.untilNul } bytes := by
  obtain ⟨provider, hprovider, rfl⟩ := encode_ok_iff.mp hencode
  refine Reader.consumes_afterSuccess ?_
  exact (Reader.consumes_u8 _).bind <| (Reader.consumes_u8 _).bind <| (Reader.consumes_u16 _).bind <|
    (Reader.consumes_u32 _).bind <| (VarString.consumes_read hprovider).map _

end NegotiateRedfishResponse

namespace OperationInitResponse

variable {r : OperationInitResponse} {bytes : Bytes}

theorem encode_ok_iff : r.encode = .ok bytes ↔ ∃ etag, r.etag.encode = .ok etag ∧
    [CompletionCode.success.toByte, r.status.toByte, r.percentage] ++ Bytes.ofU32 r.seconds
      ++ [r.flags] ++ Bytes.ofU32 r.resultHandle ++ [r.permissions]
      ++ Bytes.ofU32 (.ofNat r.payload.length) ++ etag ++ r.payload = bytes := by
  unfold encode
  rw [bind_eq_ok_iff]
  exact exists_congr fun _ => and_congr_right fun _ => ⟨Except.ok.inj, congrArg _⟩

/-- Only the length of the tag decides whether the response is written. -/
theorem encodes_iff : (∃ bytes, r.encode = .ok bytes) ↔ (Bytes.utf8 r.etag.text).length < 255 := by
  simp only [encode_ok_iff, ← VarString.encodes_iff]
  exact ⟨fun ⟨_, _, h, _⟩ => ⟨_, h⟩, fun ⟨_, h⟩ => ⟨_, _, h, rfl⟩⟩

/-- The length of the payload is read before the tag, and the payload behind it.  Of the status there is
    only the byte. -/
theorem consumes_written (hpayload : r.payload.length < UInt32.size)
    (hencode : r.encode = .ok bytes) :
    Consumes (Reader.afterSuccess fields)
      { r with status := .ofByte r.status.toByte, etag := r.etag.untilNul } bytes := by
  obtain ⟨etag, hetag, rfl⟩ := encode_ok_iff.mp hencode
  have hcount : (UInt32.ofNat r.payload.length).toNat = r.payload.length :=
    UInt32.toNat_ofNat_of_lt' hpayload
  refine Reader.consumes_afterSuccess ?_
  refine (Reader.consumes_u8 _).bind <| (Reader.consumes_u8 _).bind <|
    (Reader.consumes_u32 _).bind <| (Reader.consumes_u8 _).bind <| (Reader.consumes_u32 _).bind <|
    (Reader.consumes_u8 _).bind <| (Reader.consumes_u32 _).bind <|
    (VarString.consumes_read hetag).bind ?_
  rw [hcount]
  exact (Reader.consumes_take _).map _

/-- A status that is written as the byte of another one is not read back. -/
theorem consumes (hstatus : ∃ byte, OperationStatus.ofByte byte = r.status)
    (hpayload : r.payload.length < UInt32.size) (hencode : r.encode = .ok bytes) :
    Consumes (Reader.afterSuccess fields) { r with etag := r.etag.untilNul } bytes := by
  have hread : OperationStatus.ofByte r.status.toByte = r.status := by
    obtain ⟨byte, hbyte⟩ := hstatus
    rw [← hbyte, OperationStatus.toByte_ofByte]
  have hwritten := consumes_written hpayload hencode
  rwa [hread] at hwritten

end OperationInitResponse

/-- A response whose text was cut at the first NUL is what it was exactly when there is no NUL. -/
theorem cut_eq_iff {ρ : Type} (text : ρ → VarString) {cut r : ρ}
    (htext : text cut = (text r).untilNul) (hsame : (text r).untilNul = text r → cut = r) :
    Except.ok (ε := MessageError) cut = .ok r ↔ '\x00' ∉ (text r).text.toList := by
  rw [← VarString.untilNul_eq_iff]
  constructor
  · intro h
    exact htext.symm.trans (congrArg text (Except.ok.inj h))
  · intro h
    rw [hsame h]

/-- What becomes of a response with a text.  It is written exactly when the text has at most 254 bytes.
What is read of the written form, whatever follows it, is the response with its text up to the first
NUL, so the response itself is read back exactly when there is no NUL in the text. -/
theorem texts_read_back (n : NegotiateRedfishResponse) (r : OperationInitResponse)
    (hstatus : ∃ byte, OperationStatus.ofByte byte = r.status)
    (hpayload : r.payload.length < UInt32.size) :
    (((∃ bytes, n.encode = .ok bytes) ↔ (Bytes.utf8 n.provider.text).length < 255) ∧
      ∀ bytes, n.encode = .ok bytes → ∀ rest,
        NegotiateRedfishResponse.decode (bytes ++ rest) =
          .ok { n with provider := n.provider.untilNul } ∧
        (NegotiateRedfishResponse.decode (bytes ++ rest) = .ok n ↔
          '\x00' ∉ n.provider.text.toList)) ∧
    ((∃ bytes, r.encode = .ok bytes) ↔ (Bytes.utf8 r.etag.text).length < 255) ∧
      ∀ bytes, r.encode = .ok bytes → ∀ rest,
        OperationInitResponse.decode (bytes ++ rest) = .ok { r with etag := r.etag.untilNul } ∧
        (OperationInitResponse.decode (bytes ++ rest) = .ok r ↔ '\x00' ∉ r.etag.text.toList) := by
  refine ⟨⟨NegotiateRedfishResponse.encodes_iff, fun bytes hencode rest => ?_⟩,
    OperationInitResponse.encodes_iff, fun bytes hencode rest => ?_⟩
  · have hread := (NegotiateRedfishResponse.consumes hencode).run_append rest
    refine ⟨hread, ?_⟩
    rw [NegotiateRedfishResponse.decode, hread]
    exact cut_eq_iff NegotiateRedfishResponse.provider rfl fun h => by rw [h]
  · have hread := (OperationInitResponse.consumes hstatus hpayload hencode).run_append rest
    refine ⟨hread, ?_⟩
    rw [OperationInitResponse.decode, hread]
    exact cut_eq_iff OperationInitResponse.etag rfl fun h => by rw [h]

/-- The answer of a device to the negotiation. -/
def namedDevice : NegotiateRedfishResponse :=
  { concurrency := 1, capabilities := ⟨0⟩, features := ⟨0x13⟩, signature := 0xdeadbeef,
    provider := ⟨VarString.Format.ascii, "vendor"⟩ }

/-- The bytes of `namedDevice`. -/
def namedBytes : Bytes :=
  [0, 1, 0, 0x13, 0, 0xef, 0xbe, 0xad, 0xde, 1, 7, 0x76, 0x65, 0x6e, 0x64, 0x6f, 0x72, 0]

/-- The start of an operation whose result comes with it, under a tag that is no ASCII. -/
def taggedResult : OperationInitResponse :=
  { status := .completed, percentage := 100, seconds := 0, flags := 1, resultHandle := 0,
    permissions := 63, etag := ⟨VarString.Format.utf8, "é7"⟩, payload := [0xf1, 0x00, 0x02] }

/-- The bytes of `taggedResult`. -/
def taggedBytes : Bytes :=
  [0, 5, 100, 0, 0, 0, 0, 1, 0, 0, 0, 0, 63, 3, 0, 0, 0, 2, 4, 0xc3, 0xa9, 0x37, 0, 0xf1, 0x00, 0x02]

/-- A name and a result under its tag are read back, and two more bytes behind them do not matter. -/
theorem texts_read_back_tagged :
    namedDevice.encode = .ok namedBytes ∧
      NegotiateRedfishResponse.decode (namedBytes ++ [0xaa, 0xbb]) = .ok namedDevice ∧
      taggedResult.encode = .ok taggedBytes ∧
      OperationInitResponse.decode (taggedBytes ++ [0xaa, 0xbb]) = .ok taggedResult :=
  have hnamed : namedDevice.encode = .ok namedBytes := rfl
  have htagged : taggedResult.encode = .ok taggedBytes := rfl
  have hread := texts_read_back namedDevice taggedResult ⟨5, rfl⟩ (by decide)
  ⟨hnamed, (hread.1.2 namedBytes hnamed [0xaa, 0xbb]).2.mpr (by decide),
    htagged, (hread.2.2 taggedBytes htagged [0xaa, 0xbb]).2.mpr (by decide)⟩

/-- The response of a device whose name has a NUL in the middle. -/
def splitName : NegotiateRedfishResponse :=
  { concurrency := 1, capabilities := ⟨0⟩, features := ⟨0x13⟩, signature := 0,
    provider := ⟨VarString.Format.utf8, "a\x00b"⟩ }

/-- The bytes of `splitName`. -/
def splitNameBytes : Bytes := [0, 1, 0, 0x13, 0, 0, 0, 0, 0, 2, 4, 0x61, 0, 0x62, 0]

/-- A name with a NUL is written without an error, and another name is read. -/
theorem provider_with_nul :
    splitName.encode = .ok splitNameBytes ∧
      NegotiateRedfishResponse.decode splitNameBytes =
        .ok { splitName with provider := ⟨VarString.Format.utf8, "a"⟩ } ∧
      NegotiateRedfishResponse.decode splitNameBytes ≠ .ok splitName :=
  ⟨rfl, rfl, by decide⟩

end DeviceEnablement
