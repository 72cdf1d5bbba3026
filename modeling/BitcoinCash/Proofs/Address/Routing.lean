import BitcoinCash.Proofs.Address.Dispatch

/-! # Texts are sent where they are read

  `classifyWith?` tells the network of a text from less than `parseWith` looks at: of CashAddr text it
  checks no payload, and of Base58 text no checksum. On every text that gives an address, both find
  the same network.

  - **With a prefix** both look it up (`classifyWith?_of_splitLast?`).
  - **Without one** both take the first network with a checksum that fits, and then the only network
    of the version byte (`classifyLegacy?_of_parseLegacy`).
-/

namespace BitcoinCash

/-- The version byte of a Base58Check text is the first of its bytes. -/
theorem Base58.exists_decodeRaw {text : Text} {version : UInt8} {payload : Bytes}
    (h : decodeCheck text = .ok (version, payload)) :
    ∃ rest, decodeRaw text = .ok (version :: rest) := by
  unfold decodeCheck at h
  cases hraw : decodeRaw text with
  | error e =>
    rw [hraw] at h
    cases h
  | ok bs =>
    rw [hraw] at h
    have hsplit : bs = version :: payload ++ checksum (version :: payload) :=
      splitCheck_eq_ok_iff.mp h
    exact ⟨payload ++ checksum (version :: payload), congrArg Except.ok hsplit⟩

namespace Address

variable {registry : Registry} {text : Text} {a : Address}

/-- A text that is an address on a network has a checksum that fits. -/
theorem hasCashChecksum_of_ofCashAddr {n : Profile} (h : ofCashAddr n text = .ok a) :
    hasCashChecksum n text = true :=
  hasCashChecksum_eq_true_iff.mpr (decodeSymbols_of_ofCashAddr h)

/-- A text with a prefix belongs to the network for which it is read. -/
theorem classifyWith?_of_splitLast? {cashPrefix body : Text}
    (hsplit : Text.splitLast? ':' text = some (cashPrefix, body))
    (h : parseWith registry none text = .ok a) :
    classifyWith? registry text = some a.network := by
  obtain ⟨hn, hok⟩ := networkOfPrefix_of_parseWith hsplit h
  unfold classifyWith?
  simp only [hsplit, networkOfPrefix_none_eq_ok_iff.mp hn]
  exact if_pos (hasCashChecksum_of_ofCashAddr hok)

/-- A Base58Check text belongs to the network for which it is read. -/
theorem classifyLegacy?_of_parseLegacy (h : parseLegacy registry none text = .ok a) :
    classifyLegacy? registry text = some a.network := by
  unfold parseLegacy at h
  cases hcheck : Base58.decodeCheck text with
  | error e =>
    simp only [hcheck] at h
    cases h
  | ok parts =>
    simp only [hcheck] at h
    cases hn : networkOfVersion registry none parts.1 with
    | error e =>
      simp only [hn] at h
      cases h
    | ok n =>
      simp only [hn] at h
      obtain ⟨rest, hraw⟩ := Base58.exists_decodeRaw hcheck
      have hunique := networkOfVersion_none_eq_ok_iff.mp hn
      have hnetwork : a.network = n := (ofLegacyParts_eq_ok_iff.mp h).1
      unfold classifyLegacy?
      simp only [hraw]
      rw [hunique, hnetwork]

/-- A bare text belongs to the network for which it is read. -/
theorem classifyWith?_of_bare (hbare : ':' ∉ text) (h : parseWith registry none text = .ok a) :
    classifyWith? registry text = some a.network := by
  have hcandidates : candidates registry none = registry.profiles := rfl
  rw [parseWith_of_bare_eq registry none hbare, hcandidates] at h
  unfold classifyWith?
  simp only [Text.splitLast?_eq_none_iff.mpr hbare]
  cases hfirst : registry.profiles.find? (hasCashChecksum · text) with
  | some n =>
    simp only [hfirst] at h
    have hnetwork : a.network = n := (ofCashAddr_eq_ok_iff.mp h).2.1
    rw [hnetwork]
  | none =>
    simp only [hfirst] at h
    exact classifyLegacy?_of_parseLegacy h

/-- **Routing agrees with parsing.** A text that gives an address belongs to the network of that
    address. So a text that belongs to no network gives no address, and a text that belongs to a
    network gives no address on another one. -/
theorem classifyWith?_of_parseWith (registry : Registry) (text : Text) :
    (∀ a, parseWith registry none text = .ok a →
      classifyWith? registry text = some a.network) ∧
    (classifyWith? registry text = none → ∃ e, parseWith registry none text = .error e) ∧
    ∀ n, classifyWith? registry text = some n →
      ∀ a, parseWith registry none text = .ok a → a.network = n := by
  have hagree : ∀ a, parseWith registry none text = .ok a →
      classifyWith? registry text = some a.network := by
    intro a h
    by_cases hcolon : ':' ∈ text
    · cases hsplit : Text.splitLast? ':' text with
      | none => exact absurd hcolon (Text.splitLast?_eq_none_iff.mp hsplit)
      | some parts => exact classifyWith?_of_splitLast? hsplit h
    · exact classifyWith?_of_bare hcolon h
  refine ⟨hagree, ?_, ?_⟩
  · intro hnone
    cases hparse : parseWith registry none text with
    | error e => exact ⟨e, rfl⟩
    | ok a =>
      rw [hagree a hparse] at hnone
      cases hnone
  · intro n hn a hparse
    rw [hagree a hparse] at hn
    exact Option.some.inj hn

/-- A legacy text of the public test network, with the local chain in the registry and without it. -/
theorem classifyWith?_of_parseWith_testnet :
    ∃ (r : Registry) (a : Address), r.profiles = [.mainnet, .testnet, .regtest] ∧
      parseWith .standard none "mrLC19Je2BuWQDkWSTriGYPyQJXKkkBmCx".toList = .ok a ∧
      classifyWith? .standard "mrLC19Je2BuWQDkWSTriGYPyQJXKkkBmCx".toList = some a.network ∧
      classifyWith? r "mrLC19Je2BuWQDkWSTriGYPyQJXKkkBmCx".toList = none ∧
      ∃ e, parseWith r none "mrLC19Je2BuWQDkWSTriGYPyQJXKkkBmCx".toList = .error e := by
  let r : Registry := ⟨[.mainnet, .testnet, .regtest], by decide⟩
  let a : Address := ⟨.testnet, .pubKeyHash, .bytes20,
    [0x76, 0xa0, 0x40, 0x53, 0xbd, 0xa0, 0xa8, 0x8b, 0xda, 0x51, 0x77, 0xb8, 0x6a, 0x15, 0xc3, 0xb2,
      0x9f, 0x55, 0x98, 0x73]⟩
  have hparse : parseWith .standard none "mrLC19Je2BuWQDkWSTriGYPyQJXKkkBmCx".toList = .ok a := by
    decide +kernel
  have hnone : classifyWith? r "mrLC19Je2BuWQDkWSTriGYPyQJXKkkBmCx".toList = none := by
    decide +kernel
  refine ⟨r, a, rfl, hparse, ?_, hnone, ?_⟩
  · exact (classifyWith?_of_parseWith .standard _).1 a hparse
  · exact (classifyWith?_of_parseWith r _).2.1 hnone

end Address

end BitcoinCash
