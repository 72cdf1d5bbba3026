import BitcoinCash.Json.Decode
import BitcoinCash.Proofs.Address.Formats
import BitcoinCash.Proofs.Address.Parsing
import BitcoinCash.Proofs.CashAddr.Domain

/-! # Addresses stay on their network

  An encoder reads texts for one network only, and the texts of other networks are not among them.

  - **Two networks that accept one CashAddr text** have prefixes with the same register
    (`prefixRegister_eq_of_ofCashAddr`): with a prefix in the text they have that prefix, and without
    one they are in the same checksum domain.
  - **A CashAddr text is never a legacy text**, so an encoder that refuses it as the one refuses it
    altogether (`Encoder.read_foreign`).
  - **`Encoder.read_isolated`** is the main statement, on the shipped networks. What is written for an
    address is read again without a given network exactly for the production network.
-/

namespace BitcoinCash

namespace Address

/-- A bare text is accepted only for networks with a prefix in small letters. -/
theorem lower_cashPrefix_of_ofCashAddr {n : Profile} {text : Text} {a : Address}
    (hbare : ':' ∉ text) (h : ofCashAddr n text = .ok a) : n.cashPrefix.lower = n.cashPrefix := by
  obtain ⟨-, hnetwork, -, hfull⟩ := ofCashAddr_eq_ok_iff.mp h
  have hprefix := CashAddr.eq_lower_of_fullText hbare hfull
  rw [hnetwork] at hprefix
  exact hprefix.symm

/-- The prefix that a text names is the one of the network for which it is accepted. -/
theorem exists_lower_eq_spell {n : Profile} {text : Text} {a : Address} (hcolon : ':' ∈ text)
    (h : ofCashAddr n text = .ok a) : ∃ ss, text.lower = CashAddr.spell n.cashPrefix ss := by
  obtain ⟨-, hnetwork, -, hfull⟩ := ofCashAddr_eq_ok_iff.mp h
  rw [CashAddr.fullText, if_pos hcolon, toCashAddr, hnetwork] at hfull
  exact ⟨_, hfull⟩

/-- **Networks that accept one CashAddr text** have prefixes with the same register. -/
theorem prefixRegister_eq_of_ofCashAddr {n m : Profile} {text : Text} {a b : Address}
    (h : ofCashAddr n text = .ok a) (h' : ofCashAddr m text = .ok b) :
    CashAddr.prefixRegister n.cashPrefix = CashAddr.prefixRegister m.cashPrefix := by
  by_cases hcolon : ':' ∈ text
  · -- The text names the prefix of both.
    obtain ⟨ss, hss⟩ := exists_lower_eq_spell hcolon h
    obtain ⟨ss', hss'⟩ := exists_lower_eq_spell hcolon h'
    rw [hss] at hss'
    rw [(CashAddr.spell_inj hss').1]
  · -- The checksum of the text fits under both.
    obtain ⟨r, hread⟩ := decodeSymbols_of_ofCashAddr h
    obtain ⟨r', hread'⟩ := decodeSymbols_of_ofCashAddr h'
    have hsame := CashAddr.prefixRegister_eq_of_decodeSymbols hcolon hread hread'
    rwa [lower_cashPrefix_of_ofCashAddr hcolon h, lower_cashPrefix_of_ofCashAddr hcolon h'] at hsame

/-- **The CashAddr text of an address** is read for its network, whatever the registry is. -/
theorem parseWith_toCashAddr {a : Address} (hascii : a.network.cashPrefix.IsSmallAscii)
    (ha : a.IsConsistent) (registry : Registry) :
    parseWith registry (some a.network) a.toCashAddr = .ok a := by
  have hown : ofCashAddr a.network a.toCashAddr = .ok a :=
    ofCashAddr_of_mem_cashAddrSpellings hascii ha _ List.mem_cons_self
  rw [parseWith_of_splitLast? (splitLast?_toCashAddr a)
    (networkOfPrefix_some (asciiCaseEq_self _)), hown]

end Address

namespace Encoder

open Address

/-- An encoder reads what is accepted for its network in one of the two formats. -/
theorem accepted_of_read {e : Encoder} {text : Text} {a : Address} (h : e.read text = .ok a) :
    ofCashAddr e.network text = .ok a ∨ ofLegacy e.network text = .ok a := by
  obtain ⟨n, hn, hok⟩ := accepted_of_parseWith h
  have hown : n = e.network := List.mem_singleton.mp hn
  rw [hown] at hok
  exact hok

/-- **An encoder stays on its network.** -/
theorem network_of_read {e : Encoder} {text : Text} {a : Address} (h : e.read text = .ok a) :
    a.network = e.network := by
  rcases accepted_of_read h with hcash | hlegacy
  · exact (ofCashAddr_eq_ok_iff.mp hcash).2.1
  · exact (ofLegacy_eq_ok_iff.mp hlegacy).1

/-- The CashAddr text of an address is read by the encoder of its network. -/
theorem read_toCashAddr {a : Address} (hascii : a.network.cashPrefix.IsSmallAscii)
    (ha : a.IsConsistent) : read ⟨a.network⟩ a.toCashAddr = .ok a :=
  parseWith_toCashAddr hascii ha (.single a.network)

/-- **An encoder refuses the texts of other networks**, if the registers of the two prefixes are
    different. -/
theorem read_foreign {e : Encoder} {b : Address} (hascii : b.network.cashPrefix.IsSmallAscii)
    (hb : b.IsConsistent) (hne : CashAddr.prefixRegister b.network.cashPrefix ≠
      CashAddr.prefixRegister e.network.cashPrefix) :
    ∀ text ∈ b.cashAddrSpellings, ∃ failure, e.read text = .error failure := by
  intro text htext
  have hown := ofCashAddr_of_mem_cashAddrSpellings hascii hb text htext
  cases hread : e.read text with
  | error failure => exact ⟨failure, rfl⟩
  | ok a =>
    rcases accepted_of_read hread with hcash | hlegacy
    · -- As CashAddr it would be in both checksum domains.
      exact absurd (prefixRegister_eq_of_ofCashAddr hown hcash) hne
    · -- As a legacy text it would be short.
      exact absurd hown ((looksLegacy_of_ofLegacy hlegacy).ofCashAddr_ne_ok _ _)

/-- On the shipped networks, an encoder refuses the texts of the other two. -/
theorem read_shipped_foreign {e : Encoder} (he : e.network ∈ Profile.shipped) {b : Address}
    (hb : b.IsConsistent) (hshipped : b.network ∈ Profile.shipped) (hne : b.network ≠ e.network) :
    ∀ text ∈ b.cashAddrSpellings, ∃ failure, e.read text = .error failure :=
  read_foreign (CashAddr.isSmallAscii_of_mem_shipped _ hshipped) hb
    (CashAddr.prefixRegister_shipped_ne _ hshipped _ he hne)

/-- Without a given network, the CashAddr text of an address on a shipped network is read if that is
    the production network, and refused otherwise. -/
theorem ofText_toCashAddr {a : Address} (ha : a.IsConsistent)
    (hshipped : a.network ∈ Profile.shipped) :
    (a.network = .mainnet → ofText a.toCashAddr = .ok a) ∧
      (a.network ≠ .mainnet → ∃ failure, ofText a.toCashAddr = .error failure) := by
  constructor
  · intro hmain
    have hread := read_toCashAddr (CashAddr.isSmallAscii_of_mem_shipped _ hshipped) ha
    rw [hmain] at hread
    exact hread
  · intro hne
    exact read_shipped_foreign (e := .mainnet) (by decide) ha hshipped hne _ List.mem_cons_self

/-- The JSON form holds the CashAddr text and nothing else. -/
theorem ofJson_toJson (a : Address) :
    Address.ofJson a.toJson = (ofText a.toCashAddr).mapError .address :=
  rfl

/-- **Encoders are isolated from each other.** Each of the three encoders gives addresses of its own
    network only, and it refuses all four spellings of the CashAddr text of an address on one of the
    other two networks. So what is written for an address, as text or as JSON, is read again as the
    address exactly if the address is on the production network, and is refused otherwise. -/
theorem read_isolated :
    (∀ e ∈ [Encoder.mainnet, Encoder.testnet, Encoder.regtest],
      (∀ text a, e.read text = .ok a → a.network = e.network) ∧
      ∀ b : Address, b.IsConsistent → b.network ∈ Profile.shipped → b.network ≠ e.network →
        ∀ text ∈ b.cashAddrSpellings, ∃ failure, e.read text = .error failure) ∧
    ∀ a : Address, a.IsConsistent → a.network ∈ Profile.shipped →
      (ofText a.toCashAddr = .ok a ↔ a.network = .mainnet) ∧
      (ofJson a.toJson = .ok a ↔ a.network = .mainnet) ∧
      (a.network ≠ .mainnet →
        (∃ failure, ofText a.toCashAddr = .error failure) ∧
        ∃ failure, ofJson a.toJson = .error failure) := by
  refine ⟨?_, ?_⟩
  · intro e he
    have hshipped : e.network ∈ Profile.shipped := List.mem_map_of_mem (f := Encoder.network) he
    exact ⟨fun text a h => network_of_read h, fun b hb hb' hne =>
      read_shipped_foreign hshipped hb hb' hne⟩
  · intro a ha hshipped
    obtain ⟨hmain, hother⟩ := ofText_toCashAddr ha hshipped
    rw [ofJson_toJson]
    by_cases hnetwork : a.network = .mainnet
    · have hread := hmain hnetwork
      rw [hread]
      exact ⟨iff_of_true rfl hnetwork, iff_of_true rfl hnetwork, fun hne => absurd hnetwork hne⟩
    · obtain ⟨failure, hread⟩ := hother hnetwork
      rw [hread]
      refine ⟨iff_of_false ?_ hnetwork, iff_of_false ?_ hnetwork, fun _ => ⟨⟨_, rfl⟩, _, rfl⟩⟩
      · simp
      · simp [Except.mapError]

/-- A script hash of 64 bytes on the public test network is not read for the other two networks, and
    on the production network it is read. A legacy text of the public test network is read for the
    local chain, which has the same version bytes, but as an address of the local chain. -/
theorem read_isolated_testnet :
    let b : Address := ⟨.testnet, .scriptHash, .bytes64, List.replicate 64 0x5a⟩
    let c : Address := { b with network := .mainnet }
    (∀ text ∈ b.cashAddrSpellings, (∃ failure, Encoder.mainnet.read text = .error failure) ∧
      ∃ failure, Encoder.regtest.read text = .error failure) ∧
    (∃ failure, ofJson b.toJson = .error failure) ∧
    ofText c.toCashAddr = .ok c ∧ ofJson c.toJson = .ok c ∧
    ∃ a, Encoder.regtest.read "mrLC19Je2BuWQDkWSTriGYPyQJXKkkBmCx".toList = .ok a ∧
      a.network = .regtest := by
  intro b c
  obtain ⟨hencoders, hforms⟩ := read_isolated
  have hmain := (hencoders .mainnet (by simp)).2 b rfl (by decide) (by decide)
  have hreg := hencoders .regtest (by simp)
  obtain ⟨htext, hjson, -⟩ := hforms c rfl (by decide)
  have hlegacy : Encoder.regtest.read "mrLC19Je2BuWQDkWSTriGYPyQJXKkkBmCx".toList =
      .ok ⟨.regtest, .pubKeyHash, .bytes20, [0x76, 0xa0, 0x40, 0x53, 0xbd, 0xa0, 0xa8, 0x8b, 0xda,
        0x51, 0x77, 0xb8, 0x6a, 0x15, 0xc3, 0xb2, 0x9f, 0x55, 0x98, 0x73]⟩ := by
    decide +kernel
  refine ⟨?_, ?_, htext.mpr rfl, hjson.mpr rfl, _, hlegacy, hreg.1 _ _ hlegacy⟩
  · intro text hspelling
    exact ⟨hmain text hspelling, hreg.2 b rfl (by decide) (by decide) text hspelling⟩
  · exact ((hforms b rfl (by decide)).2.2 (by decide)).2

end Encoder

end BitcoinCash
