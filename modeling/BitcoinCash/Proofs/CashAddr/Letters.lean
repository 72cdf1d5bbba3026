import BitcoinCash.Proofs.CashAddr.Misspelling

/-! # The letters of an address

  An address that names its prefix is spelled in small letters or in capital letters, and there is one
  exception to the second: the Kelvin sign, a letter beyond the alphabet, is read as a `K`.

  - **`decodeWithPrefix_plainLetters`**: no text is read differently if a `K` is put in the place of
    each Kelvin sign.
  - **`plainLetter_mem_of_decode`**: the characters of an accepted body are those of the alphabet,
    their capital letters, and Kelvin signs.
  - **`decode_spellings`** is the main statement. **`decode_kelvin`** is the third spelling of an
    address.
-/

namespace BitcoinCash.CashAddr

/-- **A Kelvin sign is read as a `K`**, wherever it stands. -/
theorem decodeWithPrefix_plainLetters (defaultPrefix text : Text) :
    decodeWithPrefix defaultPrefix text.plainLetters = decodeWithPrefix defaultPrefix text :=
  decodeWithPrefix_congr (Text.mixesCase_plainLetters text) (Text.lower_plainLetters text)
    defaultPrefix

/-- The characters of a symbol are the one in the alphabet, the capital form of it, and the Kelvin
    sign. -/
theorem plainLetter_mem_of_lower {c : Char} {s : Symbol} (h : Text.lower [c] = [s.char]) :
    Text.plainLetter c ∈ Symbol.charset ∨
      Text.plainLetter c ∈ Text.asciiUpper Symbol.charset := by
  have hspelling : ∀ s : Symbol, (s.char ∈ Symbol.charset ∧ s.char ≠ Text.kelvin) ∧
      s.char.toUpper ∈ Text.asciiUpper Symbol.charset ∧ s.char.toUpper ≠ Text.kelvin := by
    decide +kernel
  obtain ⟨⟨hsmall, hne⟩, hcapital, hne'⟩ := hspelling s
  unfold Text.plainLetter
  rcases eq_of_lower h with rfl | rfl | ⟨rfl, -⟩
  · exact .inl (by rwa [if_neg hne])
  · exact .inr (by rwa [if_neg hne'])
  · exact .inr (by decide +kernel)

/-- **The characters of an accepted body**, whatever its prefix is and whether the text names it. -/
theorem plainLetter_mem_of_decode {defaultPrefix front body : Text} {d : Decoded}
    (hfront : IsFront front) (hbody : ':' ∉ body)
    (hok : decodeWithPrefix defaultPrefix (front ++ body) = .ok d) {c : Char} (hc : c ∈ body) :
    Text.plainLetter c ∈ Symbol.charset ∨
      Text.plainLetter c ∈ Text.asciiUpper Symbol.charset := by
  obtain ⟨p, ss, hsplit, -⟩ := exists_isAccepted hok
  have hss : Spells body ss := spells_of_splitPrefix hfront hbody hsplit
  have hsymbol : Text.lower [c] ∈ ss.map ([·.char]) :=
    hss ▸ List.mem_map_of_mem (f := (Text.lower [·])) hc
  obtain ⟨s, -, hs⟩ := List.mem_map.mp hsymbol
  exact plainLetter_mem_of_lower hs.symm

/-- **The spellings of an address.** An address that names a prefix in small ASCII letters, as those of
    the shipped networks are, is written in small letters or in capital letters. There is no third
    spelling but for the Kelvin sign, which may stand for any `K` of the second.

    - A text is accepted exactly if it is one of these spellings of what is read.
    - A text is refused if its body has a character that is neither in the alphabet nor a capital
      letter of the alphabet nor the Kelvin sign, whether or not it names a prefix.
    - A text with Kelvin signs is read like the text with a `K` in the place of each of them. -/
theorem decode_spellings (text : Text) :
    (':' ∈ text → ∀ d : Decoded, d.cashPrefix.IsSmallAscii →
      (decode text = .ok d ↔
        (∃ kind size, parseVersionByte d.version = .ok (kind, size) ∧
          d.hash.length = size.byteLength) ∧
        (text = encode d.cashPrefix (d.version :: d.hash) ∨
          text.plainLetters = (encode d.cashPrefix (d.version :: d.hash)).asciiUpper))) ∧
    (∀ front body, text = front ++ body → IsFront front → ':' ∉ body →
      (∃ c ∈ body, c ∉ Symbol.charset ∧ c ∉ Text.asciiUpper Symbol.charset ∧ c ≠ Text.kelvin) →
      ∃ e, decode text = .error e) ∧
    decode text.plainLetters = decode text := by
  refine ⟨?_, ?_, decodeWithPrefix_plainLetters defaultPrefix text⟩
  · intro hcolon d hprefix
    have hwritten : (encode d.cashPrefix (d.version :: d.hash)).IsSmallAscii :=
      isSmallAscii_spell hprefix _
    rw [decode, decodeWithPrefix_eq_ok_iff_fullText, fullText, if_pos hcolon,
      ← Text.mixesCase_and_lower_eq_iff hwritten]
    exact and_left_comm
  · intro front body htext hfront hbody hforeign
    obtain ⟨c, hc, hsmall, hcapital, hkelvin⟩ := hforeign
    cases hread : decode text with
    | error e => exact ⟨e, rfl⟩
    | ok d =>
      exfalso
      have hletter := plainLetter_mem_of_decode hfront hbody (htext ▸ hread) hc
      rw [Text.plainLetter, if_neg hkelvin] at hletter
      exact hletter.elim hsmall hcapital

/-- A public test network address in capital letters is one of the spellings, and with a `B` in its
    body it is refused. -/
theorem decode_spellings_testnet :
    let d : Decoded := ⟨"bchtest".toList, 0x00,
      [0x76, 0xa0, 0x40, 0x53, 0xbd, 0xa0, 0xa8, 0x8b, 0xda, 0x51, 0x77, 0xb8, 0x6a, 0x15, 0xc3,
        0xb2, 0x9f, 0x55, 0x98, 0x73]⟩
    decode "BCHTEST:QPM2QSZNHKS23Z7629MMS6S4CWEF74VCWVQCW003AP".toList = .ok d ∧
      ∃ e, decode "BCHTEST:QPM2QSZNHKS23Z7629MMS6S4CWEF74VCWVQCW003AB".toList = .error e := by
  intro d
  refine ⟨?_, ?_⟩
  · apply ((decode_spellings _).1 (by decide) d (by decide)).mpr
    exact ⟨⟨.pubKeyHash, .bytes20, by decide, by decide⟩, .inr (by decide +kernel)⟩
  · apply (decode_spellings _).2.1 "BCHTEST:".toList
      "QPM2QSZNHKS23Z7629MMS6S4CWEF74VCWVQCW003AB".toList (by decide)
    · exact .inr ⟨"BCHTEST".toList, by decide⟩
    · decide
    · exact ⟨'B', by decide, by decide, by decide, by decide⟩

/-- A third spelling of an address of the production network, with a character that is neither in the
    alphabet nor a capital letter of it. -/
theorem decode_kelvin :
    let text := "BITCOINCASH:QPM2QSZNH".toList ++
      Text.kelvin :: "S23Z7629MMS6S4CWEF74VCWVY22GDX6A".toList
    let d : Decoded := ⟨defaultPrefix, 0x00,
      [0x76, 0xa0, 0x40, 0x53, 0xbd, 0xa0, 0xa8, 0x8b, 0xda, 0x51, 0x77, 0xb8, 0x6a, 0x15, 0xc3,
        0xb2, 0x9f, 0x55, 0x98, 0x73]⟩
    decode text = .ok d ∧ text ≠ encode d.cashPrefix (d.version :: d.hash) ∧
      text ≠ (encode d.cashPrefix (d.version :: d.hash)).asciiUpper ∧
      Text.kelvin ∉ Symbol.charset ∧ Text.kelvin ∉ Text.asciiUpper Symbol.charset := by
  decide +kernel

end BitcoinCash.CashAddr
