import BitcoinCash.Proofs.CashAddr.Spelling

/-! # What is wrong with a payload

  The text of a payload, whatever its bytes are, is read again as far as the payload itself. Its
  case, its characters, its checksum and its padding are in order, so that a failure is about the
  payload.

  - **Symbols** that are written are read again (`decodeSymbols_spell`), and so are the bytes that
    they stand for (`decodeWithPrefix_encode`).
  - **The version byte** is looked at before the length of the hash. It is refused if it stands for
    no kind of address (`StandsForNoKind`).
  - **`decode_encode`** is the main statement.
-/

namespace BitcoinCash

/-! ## The version byte -/

/-- The top bit of a version byte is set, or bits 6 to 3 hold a type above 1. -/
def StandsForNoKind (version : UInt8) : Prop :=
  version.toNat.testBit 7 = true ∨ 1 < version.toNat / 8 % 16

instance (version : UInt8) : Decidable (StandsForNoKind version) :=
  inferInstanceAs (Decidable (_ ∨ _))

/-- **A version byte is refused** exactly if it stands for no kind, and otherwise its low three bits
    are the code of a size. -/
theorem parseVersionByte_cases (version : UInt8) :
    (StandsForNoKind version ∧
      parseVersionByte version = .error (.unknownVersionByte version)) ∨
    (¬StandsForNoKind version ∧
      ∃ kind, parseVersionByte version = .ok (kind, .ofCode version)) := by
  -- There are only 256 version bytes to look at.
  have hall : ∀ version : UInt8,
      (StandsForNoKind version ∧
        parseVersionByte version = .error (.unknownVersionByte version)) ∨
      (¬StandsForNoKind version ∧
        (parseVersionByte version = .ok (.pubKeyHash, .ofCode version) ∨
          parseVersionByte version = .ok (.scriptHash, .ofCode version))) := by
    decide +kernel
  rcases hall version with ⟨hnone, hparse⟩ | ⟨hsome, hparse | hparse⟩
  · exact .inl ⟨hnone, hparse⟩
  · exact .inr ⟨hsome, _, hparse⟩
  · exact .inr ⟨hsome, _, hparse⟩

namespace CashAddr

/-! ## Written texts are read again -/

section Written

variable {cashPrefix : Text}

/-- **Symbols that are written are read again**, under the prefix that they were written for. -/
theorem decodeSymbols_spell (hascii : cashPrefix.IsSmallAscii) (defaultPrefix : Text)
    (ss : List Symbol) :
    decodeSymbols defaultPrefix (spell cashPrefix ss) = .ok (cashPrefix, ss) := by
  have hsmall := isSmallAscii_spell hascii ss
  have hcolon : ':' ∈ spell cashPrefix ss := List.mem_append_right _ List.mem_cons_self
  refine decodeSymbols_eq_ok_iff.mpr ⟨hsmall.mixesCase_eq, ?_⟩
  rw [fullText, if_pos hcolon, hsmall.lower_eq]

/-- **A payload that is written is read again**, and only then it is taken apart. -/
theorem decodeWithPrefix_encode (hascii : cashPrefix.IsSmallAscii) (defaultPrefix : Text)
    (payload : Bytes) :
    decodeWithPrefix defaultPrefix (encode cashPrefix payload) =
      splitPayload cashPrefix payload := by
  unfold decodeWithPrefix encode
  simp only [decodeSymbols_spell hascii, symbolsToBytes_bytesToSymbols]

end Written

/-! ## The answer -/

/-- A version byte that stands for no kind is refused, whatever follows it. -/
theorem splitPayload_of_standsForNoKind {version : UInt8} (h : StandsForNoKind version)
    (cashPrefix : Text) (hash : Bytes) :
    splitPayload cashPrefix (version :: hash) = .error (.unknownVersionByte version) := by
  rcases parseVersionByte_cases version with ⟨-, hparse⟩ | ⟨hsome, -⟩
  · simp only [splitPayload, hparse]
  · exact absurd h hsome

/-- A version byte that stands for a kind declares the length of the hash. -/
theorem splitPayload_of_not_standsForNoKind {version : UInt8} (h : ¬StandsForNoKind version)
    (cashPrefix : Text) (hash : Bytes) :
    splitPayload cashPrefix (version :: hash) =
      if hash.length = (HashSize.ofCode version).byteLength then .ok ⟨cashPrefix, version, hash⟩
      else .error (.hashSizeMismatch hash.length) := by
  rcases parseVersionByte_cases version with ⟨hnone, -⟩ | ⟨-, kind, hparse⟩
  · exact absurd hnone h
  · simp only [splitPayload, hparse]

/-- **Reading a written payload says what is wrong with it.** An empty payload has no hash. Then the
    version byte counts, which has to stand for a kind of address, and then the length of the hash,
    which has to be the declared one. If both are as they should be, the prefix, the version byte
    and the hash are read again. There is never a failure of case, of a character, of the checksum
    or of the padding. -/
theorem decode_encode {cashPrefix : Text} (hascii : cashPrefix.IsSmallAscii) (payload : Bytes) :
    (payload = [] → decode (encode cashPrefix payload) = .error (.hashSizeMismatch 0)) ∧
    (∀ version hash, payload = version :: hash →
      (StandsForNoKind version →
        decode (encode cashPrefix payload) = .error (.unknownVersionByte version)) ∧
      (¬StandsForNoKind version →
        (hash.length ≠ (HashSize.ofCode version).byteLength →
          decode (encode cashPrefix payload) = .error (.hashSizeMismatch (payload.length - 1))) ∧
        (hash.length = (HashSize.ofCode version).byteLength →
          decode (encode cashPrefix payload) = .ok ⟨cashPrefix, version, hash⟩))) ∧
    ∀ e, decode (encode cashPrefix payload) = .error e →
      e ≠ .mixedCase ∧ (∀ c, e ≠ .invalidCharacter c) ∧ e ≠ .checksumMismatch ∧
        e ≠ .invalidPadding ∧ e ≠ .excessPadding := by
  have hread : decode (encode cashPrefix payload) = splitPayload cashPrefix payload :=
    decodeWithPrefix_encode hascii defaultPrefix payload
  rw [hread]
  refine ⟨?_, ?_, ?_⟩
  · intro hempty
    rw [hempty]
    rfl
  · intro version hash hpayload
    rw [hpayload]
    refine ⟨fun hnone => splitPayload_of_standsForNoKind hnone cashPrefix hash, ?_⟩
    intro hsome
    rw [splitPayload_of_not_standsForNoKind hsome]
    exact ⟨fun hlen => if_neg hlen, fun hlen => if_pos hlen⟩
  · intro e he
    rcases error_of_splitPayload he with ⟨version, rfl⟩ | ⟨length, rfl⟩
    · simp
    · simp

/-- Payloads under a prefix that has a colon itself: without a version byte, with the reserved bit,
    with the type 2, with a hash that is five bytes too long, and in order. -/
theorem decode_encode_named_colon :
    decode (encode "a:b".toList []) = .error (.hashSizeMismatch 0) ∧
    decode (encode "a:b".toList (0x80 :: List.replicate 20 0x00)) =
      .error (.unknownVersionByte 0x80) ∧
    decode (encode "a:b".toList (0x10 :: List.replicate 7 0xff)) =
      .error (.unknownVersionByte 0x10) ∧
    decode (encode "a:b".toList (0x00 :: List.replicate 25 0x42)) =
      .error (.hashSizeMismatch 25) ∧
    decode (encode "a:b".toList (0x0f :: List.replicate 64 0x42)) =
      .ok ⟨"a:b".toList, 0x0f, List.replicate 64 0x42⟩ := by
  have hascii : Text.IsSmallAscii "a:b".toList := by decide
  refine ⟨?_, ?_, ?_, ?_, ?_⟩
  · exact (decode_encode hascii []).1 rfl
  · exact ((decode_encode hascii _).2.1 _ _ rfl).1 (by decide)
  · exact ((decode_encode hascii _).2.1 _ _ rfl).1 (by decide)
  · exact (((decode_encode hascii _).2.1 _ _ rfl).2 (by decide)).1 (by decide)
  · exact (((decode_encode hascii _).2.1 _ _ rfl).2 (by decide)).2 (by decide)

end CashAddr

end BitcoinCash
