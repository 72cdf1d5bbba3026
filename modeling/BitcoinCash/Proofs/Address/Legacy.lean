import BitcoinCash.Proofs.Address.Acceptance

/-! # Legacy texts and addresses

  For each network, legacy texts and addresses with a hash of 20 bytes stand for each other.

  - **Version bytes**: a network takes its two version bytes for the kinds that they were made
    for, unless they are the same; then both stand for a public key
    (`kindOfVersion?_legacyVersion`).
  - **`ofLegacy_toLegacy`** is the main statement: what is read is written again as it was, what
    is written is read again, and hashes of another size are never written.
-/

namespace BitcoinCash

/-! ## Version bytes -/

namespace Profile

/-- **The kind of a version byte** is the kind that it was made for, or that of a public key if the
    network has only one version byte. -/
theorem kindOfVersion?_legacyVersion (n : Profile) (kind : AddressKind) :
    n.kindOfVersion? (n.legacyVersion kind) =
      some (if n.pubKeyHashVersion = n.scriptHashVersion then .pubKeyHash else kind) := by
  unfold kindOfVersion?
  cases kind with
  | pubKeyHash =>
    show (if n.pubKeyHashVersion = n.pubKeyHashVersion then _ else _) = _
    rw [if_pos rfl, ite_self]
  | scriptHash =>
    show (if n.scriptHashVersion = n.pubKeyHashVersion then _ else
      if n.scriptHashVersion = n.scriptHashVersion then _ else _) = _
    by_cases hsame : n.pubKeyHashVersion = n.scriptHashVersion
    · rw [if_pos hsame.symm, if_pos hsame]
    · rw [if_neg (Ne.symm hsame), if_pos rfl, if_neg hsame]

/-- With two version bytes, each kind has its own. -/
theorem kindOfVersion?_of_ne {n : Profile} {kind : AddressKind}
    (h : n.pubKeyHashVersion ≠ n.scriptHashVersion ∨ kind = .pubKeyHash) :
    n.kindOfVersion? (n.legacyVersion kind) = some kind := by
  rw [kindOfVersion?_legacyVersion]
  rcases h with hne | rfl
  · rw [if_neg hne]
  · rw [ite_self]

end Profile

namespace Address

/-! ## The size of the hash -/

/-- In a consistent address, the hash has 20 bytes exactly if that is the declared size. -/
theorem IsConsistent.size_eq_bytes20_iff {a : Address} (h : a.IsConsistent) :
    a.size = .bytes20 ↔ a.hash.length = 20 := by
  unfold IsConsistent at h
  rw [h]
  constructor
  · intro hsize
    rw [hsize]
    rfl
  · intro hlen
    exact HashSize.byteLength_inj hlen

/-- What is written for an address, if anything is. -/
theorem toLegacy_eq_ok_iff {a : Address} {text : Text} :
    a.toLegacy = .ok text ↔
      a.size = .bytes20 ∧ text = Base58.encodeCheck (a.network.legacyVersion a.kind) a.hash := by
  unfold toLegacy
  by_cases h20 : a.size = .bytes20
  · rw [if_pos h20, Except.ok.injEq, eq_comm]
    exact (and_iff_right h20).symm
  · rw [if_neg h20]
    simp [h20]

/-- A hash of another size is not written. -/
theorem toLegacy_of_length_ne {a : Address} (h : a.IsConsistent) (hlen : a.hash.length ≠ 20) :
    a.toLegacy = .error (.nonStandardHashLength a.hash.length) := by
  unfold toLegacy
  have hsize : a.size ≠ .bytes20 := fun hsize => hlen (h.size_eq_bytes20_iff.mp hsize)
  rw [if_neg hsize]

/-- With a single version byte, an address of a script has the text of the address of a public key
    with the same hash. -/
theorem toLegacy_pubKeyHash {a : Address}
    (h : a.network.pubKeyHashVersion = a.network.scriptHashVersion) :
    toLegacy { a with kind := .pubKeyHash } = a.toLegacy := by
  have hversion : a.network.legacyVersion .pubKeyHash = a.network.legacyVersion a.kind := by
    cases a.kind with
    | pubKeyHash => rfl
    | scriptHash => exact h
  unfold toLegacy
  rw [← hversion]

/-! ## There and back -/

/-- **Legacy texts and addresses stand for each other.** A text that is read is the text of the
    address, which is on the network and has a hash of 20 bytes. The text of each such address is
    read as the address, but for an address of a script on a network with a single version byte,
    which is read as the address of a public key. Hashes of other sizes have no legacy text. -/
theorem ofLegacy_toLegacy (n : Profile) :
    (∀ text a, ofLegacy n text = .ok a →
      a.network = n ∧ a.IsConsistent ∧ a.hash.length = 20 ∧ a.toLegacy = .ok text) ∧
    (∀ a : Address, a.network = n → a.IsConsistent → a.hash.length = 20 →
      ∃ text, a.toLegacy = .ok text ∧
        (n.pubKeyHashVersion ≠ n.scriptHashVersion ∨ a.kind = .pubKeyHash →
          ofLegacy n text = .ok a) ∧
        (n.pubKeyHashVersion = n.scriptHashVersion ∧ a.kind = .scriptHash →
          ofLegacy n text = .ok { a with kind := .pubKeyHash })) ∧
    (∀ a : Address, a.network = n → a.IsConsistent → a.hash.length ≠ 20 →
      a.toLegacy = .error (.nonStandardHashLength a.hash.length)) := by
  refine ⟨?_, ?_, ?_⟩
  · intro text a hok
    obtain ⟨hnetwork, hsize, htext, -⟩ := ofLegacy_eq_ok_iff.mp hok
    have h20 := (toLegacy_eq_ok_iff.mp htext).1
    exact ⟨hnetwork, hsize, hsize.size_eq_bytes20_iff.mp h20, htext⟩
  · rintro a rfl hsize hlen
    have htext := toLegacy_of_bytes20 (hsize.size_eq_bytes20_iff.mpr hlen)
    refine ⟨_, htext, ?_, ?_⟩
    · -- The version byte is taken for the kind of the address.
      intro hkind
      exact ofLegacy_eq_ok_iff.mpr ⟨rfl, hsize, htext, Profile.kindOfVersion?_of_ne hkind⟩
    · -- The version byte is also the one of a public key, which comes first.
      rintro ⟨hsame, -⟩
      refine ofLegacy_eq_ok_iff.mpr ⟨rfl, hsize, ?_, Profile.kindOfVersion?_of_ne (.inr rfl)⟩
      rw [toLegacy_pubKeyHash hsame, htext]
  · intro a _ hsize hlen
    exact toLegacy_of_length_ne hsize hlen

/-- On a network with a single version byte, a script hash and a public key hash have one text, and
    it is read as the latter. On the production network, a script hash is read again as it was. -/
theorem ofLegacy_toLegacy_single_version :
    let single : Profile := { Profile.mainnet with scriptHashVersion := 0x00 }
    let hash : Bytes := List.replicate 20 0x5a
    (∃ text, toLegacy ⟨single, .scriptHash, .bytes20, hash⟩ = .ok text ∧
      ofLegacy single text = .ok ⟨single, .pubKeyHash, .bytes20, hash⟩ ∧
      toLegacy ⟨single, .pubKeyHash, .bytes20, hash⟩ = .ok text) ∧
    (∃ text, toLegacy ⟨.mainnet, .scriptHash, .bytes20, hash⟩ = .ok text ∧
      ofLegacy .mainnet text = .ok ⟨.mainnet, .scriptHash, .bytes20, hash⟩) ∧
    toLegacy ⟨single, .scriptHash, .bytes24, List.replicate 24 0x5a⟩ =
      .error (.nonStandardHashLength 24) := by
  intro single hash
  obtain ⟨hback, hforth, hother⟩ := ofLegacy_toLegacy single
  refine ⟨?_, ?_, ?_⟩
  · obtain ⟨text, htext, -, hscript⟩ :=
      hforth ⟨single, .scriptHash, .bytes20, hash⟩ rfl (by decide) (by decide)
    have hread := hscript ⟨rfl, rfl⟩
    obtain ⟨-, -, -, hagain⟩ := hback text _ hread
    exact ⟨text, htext, hread, hagain⟩
  · obtain ⟨text, htext, hread, -⟩ := (ofLegacy_toLegacy .mainnet).2.1
      ⟨.mainnet, .scriptHash, .bytes20, hash⟩ rfl (by decide) (by decide)
    exact ⟨text, htext, hread (.inl (by decide))⟩
  · exact hother ⟨single, .scriptHash, .bytes24, List.replicate 24 0x5a⟩ rfl (by decide) (by decide)

end Address

end BitcoinCash
