import BitcoinCash.CashAddr.Codec

/-! # Version bytes and payloads

  A version byte is accepted exactly if it is the one of a kind and a size, and a payload exactly
  if its first byte is accepted and the others are as many as it declares.
  What is refused is refused for one of these two reasons.
-/

namespace BitcoinCash

/-- The version byte of a kind and a size declares them. -/
theorem parseVersionByte_versionByte (kind : AddressKind) (size : HashSize) :
    parseVersionByte (versionByte kind size) = .ok (kind, size) := by
  cases kind <;> cases size <;> rfl

/-- A version byte that is accepted is the one of the kind and the size that it declares. -/
theorem versionByte_of_parseVersionByte {version : UInt8} {kind : AddressKind} {size : HashSize}
    (h : parseVersionByte version = .ok (kind, size)) : versionByte kind size = version := by
  -- There are only 256 version bytes to look at.
  have hall : ∀ n < 256, ∀ p, (parseVersionByte (UInt8.ofNat n)).toOption = some p →
      versionByte p.1 p.2 = UInt8.ofNat n := by
    decide +kernel
  have hn := hall version.toNat version.toNat_lt (kind, size)
  rw [UInt8.ofNat_toNat, h] at hn
  exact hn rfl

/-- A version byte that is refused is named in the failure. -/
theorem error_of_parseVersionByte {version : UInt8} {e : AddressError}
    (h : parseVersionByte version = .error e) : e = .unknownVersionByte version := by
  unfold parseVersionByte at h
  split at h
  · cases h
    rfl
  · split at h
    · cases h
    · cases h
    · cases h
      rfl

namespace HashSize

theorem ofLength?_eq_some_iff {n : Nat} {size : HashSize} :
    ofLength? n = some size ↔ size.byteLength = n := by
  constructor
  · intro h
    exact beq_iff_eq.mp (List.find?_some (p := fun s : HashSize => s.byteLength == n) h)
  · rintro rfl
    cases size <;> rfl

end HashSize

namespace CashAddr

/-- A payload is accepted exactly if it is a version byte that is accepted and a hash of the
    length that it declares. -/
theorem splitPayload_eq_ok_iff {cashPrefix : Text} {payload : Bytes} {d : Decoded} :
    splitPayload cashPrefix payload = .ok d ↔
      cashPrefix = d.cashPrefix ∧ payload = d.version :: d.hash ∧
        ∃ kind size, parseVersionByte d.version = .ok (kind, size) ∧
          d.hash.length = size.byteLength := by
  constructor
  · intro h
    cases payload with
    | nil => simp [splitPayload] at h
    | cons version hash =>
      rw [splitPayload] at h
      split at h
      · simp at h
      · next kind size hparse =>
        split at h
        · next hlen =>
          cases h
          exact ⟨rfl, rfl, kind, size, hparse, hlen⟩
        · simp at h
  · rintro ⟨rfl, rfl, kind, size, hparse, hlen⟩
    simp only [splitPayload, hparse, hlen, if_true]

/-- A payload is refused for its version byte or for the length of its hash. -/
theorem error_of_splitPayload {cashPrefix : Text} {payload : Bytes} {e : AddressError}
    (h : splitPayload cashPrefix payload = .error e) :
    (∃ version, e = .unknownVersionByte version) ∨ ∃ length, e = .hashSizeMismatch length := by
  cases payload with
  | nil =>
    cases h
    exact .inr ⟨0, rfl⟩
  | cons version hash =>
    unfold splitPayload at h
    cases hparse : parseVersionByte version with
    | error e' =>
      simp only [hparse, Except.error.injEq] at h
      rw [← h]
      exact .inl ⟨version, error_of_parseVersionByte hparse⟩
    | ok parts =>
      simp only [hparse] at h
      split at h
      · cases h
      · cases h
        exact .inr ⟨hash.length, rfl⟩

end CashAddr

end BitcoinCash
