import BitcoinCash.Proofs.Address.Legacy

/-! # Two formats without a common text

  No text is an address in both formats, whatever the networks are. The two alphabets have most of
  their characters in common, so the reason is a matter of size.

  - **CashAddr** texts without a prefix have at least 42 characters, none of which is a `1`
    (`CashAddr.exists_symbols_of_decodeWithPrefix`).
  - **Legacy** texts are made of 25 bytes. Without a `1` in front, all their characters are digits
    of one number, and 35 digits in base 58 are enough for 25 bytes (`looksLegacy_of_ofLegacy`).
-/

namespace BitcoinCash

/-! ## The length of a base-58 text -/

namespace Base58

theorem ofBigEndian_lt (bs : Bytes) : Bytes.ofBigEndian bs < 256 ^ bs.length := by
  have hdigits : ∀ d ∈ (bs.map UInt8.toNat).reverse, d < 256 := by
    intro d hd
    obtain ⟨b, -, rfl⟩ := List.mem_map.mp (List.mem_reverse.mp hd)
    exact b.toNat_lt
  have hlt := Nat.ofDigits_lt_base_pow_length (by decide) hdigits
  rwa [List.length_reverse, List.length_map, ← ofDigits_eq_reverse, ← ofBigEndian_eq] at hlt

/-- The characters of a written text are digits. -/
theorem exists_digit_of_mem_encode {bs : Bytes} {c : Char} (h : c ∈ encode bs) :
    ∃ d < 58, digitChar d = c := by
  rw [encode_eq_rebase] at h
  obtain ⟨d, hd, rfl⟩ := List.mem_map.mp h
  exact ⟨d, rebase_lt 256 _ _ d hd, rfl⟩

/-- **Without a `1` in front**, a text has no more characters than the number of its bytes can have
    digits. -/
theorem length_encode_le {bs : Bytes} {k : Nat} (hhead : (encode bs).head? ≠ some '1')
    (hk : 256 ^ bs.length ≤ 58 ^ k) : (encode bs).length ≤ k := by
  unfold encode at hhead ⊢
  cases hzeros : bs.takeWhile (· == 0) with
  | cons b zeros =>
    -- A zero byte in front is written as a `1`.
    rw [hzeros] at hhead
    exact absurd rfl hhead
  | nil =>
    have hlt : Bytes.ofBigEndian bs < 58 ^ k := Nat.lt_of_lt_of_le (ofBigEndian_lt bs) hk
    rw [List.map_nil, List.nil_append, List.length_map, digits_eq_reverse, List.length_reverse]
    exact (Nat.digits_length_le_iff (by decide) _).mpr hlt

end Base58

/-! ## The length of a CashAddr text -/

theorem HashSize.twenty_le_byteLength (size : HashSize) : 20 ≤ size.byteLength := by
  cases size <;> decide

/-- **A bare CashAddr text** is spelled with at least 42 symbols: 34 for the version byte and a hash
    of 20 bytes or more, and eight for the checksum. -/
theorem CashAddr.exists_symbols_of_decodeWithPrefix {defaultPrefix text : Text} {d : Decoded}
    (h : decodeWithPrefix defaultPrefix text = .ok d) (hcolon : ':' ∉ text) :
    ∃ ss : List Symbol, text.lower = ss.map Symbol.char ∧ 42 ≤ ss.length := by
  obtain ⟨-, ⟨kind, size, -, hsize⟩, hfull⟩ := decodeWithPrefix_eq_ok_iff_fullText.mp h
  rw [fullText, if_neg hcolon, encode, spell] at hfull
  obtain ⟨-, hbody⟩ := Text.append_sep_inj (Text.colon_not_mem_lower hcolon)
    (colon_not_mem_map_char _) hfull
  refine ⟨_, hbody, ?_⟩
  obtain ⟨pad, -, hroom⟩ := length_bytesToSymbols (d.version :: d.hash)
  have hhash : 20 ≤ d.hash.length := by
    rw [hsize]
    exact size.twenty_le_byteLength
  rw [List.length_cons] at hroom
  rw [List.length_append, length_checksum]
  show 42 ≤ _ + 8
  omega

namespace Address

/-! ## No common text -/

/-- **The look of a legacy text**: ASCII characters without a colon, and a `1` in front or else at
    most 35 characters. -/
structure LooksLegacy (text : Text) : Prop where
  /-- All characters are ASCII. -/
  ascii : ∀ c ∈ text, c.toNat < 0x80
  /-- There is no prefix. -/
  no_colon : ':' ∉ text
  /-- A text without a zero byte in front is short. -/
  short : text.head? ≠ some '1' → text.length ≤ 35

/-- A legacy text is written for 25 bytes: a version byte, a hash of 20 bytes and a checksum of
    four. -/
theorem looksLegacy_of_ofLegacy {n : Profile} {text : Text} {a : Address}
    (h : ofLegacy n text = .ok a) : LooksLegacy text := by
  obtain ⟨-, hsize, htext, -⟩ := ofLegacy_eq_ok_iff.mp h
  obtain ⟨h20, rfl⟩ := toLegacy_eq_ok_iff.mp htext
  have hdigit : ∀ d < 58, (Base58.digitChar d).toNat < 0x80 ∧ Base58.digitChar d ≠ ':' := by
    decide +kernel
  unfold Base58.encodeCheck
  constructor
  · intro c hc
    obtain ⟨d, hd, rfl⟩ := Base58.exists_digit_of_mem_encode hc
    exact (hdigit d hd).1
  · intro hc
    obtain ⟨d, hd, hcolon⟩ := Base58.exists_digit_of_mem_encode hc
    exact (hdigit d hd).2 hcolon
  · intro hhead
    apply Base58.length_encode_le hhead
    have hbytes : (a.network.legacyVersion a.kind :: a.hash ++
        Base58.checksum (a.network.legacyVersion a.kind :: a.hash)).length = 25 := by
      rw [List.length_append, List.length_cons, Base58.length_checksum,
        hsize.size_eq_bytes20_iff.mp h20]
    rw [hbytes]
    decide

/-- A text that looks like a legacy text is no CashAddr text, under whichever prefix. -/
theorem LooksLegacy.decodeWithPrefix_ne_ok {text : Text} (h : LooksLegacy text)
    (defaultPrefix : Text) (d : CashAddr.Decoded) :
    CashAddr.decodeWithPrefix defaultPrefix text ≠ .ok d := by
  intro hok
  obtain ⟨ss, hss, hlong⟩ := CashAddr.exists_symbols_of_decodeWithPrefix hok h.no_colon
  rw [Text.lower_of_ascii h.ascii, Text.asciiLower] at hss
  have hlen : text.length = ss.length := by
    have hmap := congrArg List.length hss
    rwa [List.length_map, List.length_map] at hmap
  -- No symbol is spelled with a `1`, so there is none in front.
  have hone : ∀ s : CashAddr.Symbol, s.char ≠ Char.toLower '1' := by decide +kernel
  have hhead : text.head? ≠ some '1' := by
    intro hfirst
    have hmap := congrArg List.head? hss
    rw [List.head?_map, List.head?_map, hfirst] at hmap
    cases ss with
    | nil => simp at hmap
    | cons s ss => exact hone s (Option.some.inj hmap).symm
  have hshort := h.short hhead
  omega

theorem LooksLegacy.ofCashAddr_ne_ok {text : Text} (h : LooksLegacy text) (n : Profile)
    (a : Address) : ofCashAddr n text ≠ .ok a :=
  fun hok => h.decodeWithPrefix_ne_ok _ _ (ofCashAddr_eq_ok_iff_decodeWithPrefix.mp hok).2

/-- **The two formats have no text in common**, whatever the networks are. -/
theorem not_ofCashAddr_and_ofLegacy (n m : Profile) (text : Text) :
    ¬((∃ a, ofCashAddr n text = .ok a) ∧ ∃ b, ofLegacy m text = .ok b) := by
  rintro ⟨⟨a, hcash⟩, b, hlegacy⟩
  have hlooks := looksLegacy_of_ofLegacy hlegacy
  exact hlooks.ofCashAddr_ne_ok n a hcash

end Address

end BitcoinCash
