import BitcoinCash.Proofs.CashAddr.Payload

/-! # Symbols that are no whole number of bytes

  Any list of symbols can be written, whether or not it stands for bytes, and it is read again as it
  was. What it stands for is decided by the bits that are left after the last whole byte, of which there
  are five for each symbol modulo eight.

  - **Whether they are zero** (`IsZeroPadded`) can be seen from the last symbol, whose lowest bits
    these are (`symbolsToBytes_of_nonzero`, `isZeroPadded_of_dvd`).
  - **`decode_encodeSymbols`** is the main statement.
-/

namespace BitcoinCash.CashAddr

/-! ## Symbols as bytes -/

/-- A symbol in a byte of its own. -/
def Symbol.toByte (s : Symbol) : UInt8 :=
  UInt8.ofNat s.toNat

theorem toNat_toByte (s : Symbol) : s.toByte.toNat = s.toNat := by
  rw [Symbol.toByte, UInt8.toNat_ofNat', Nat.mod_eq_of_lt (Nat.lt_trans s.isLt (by decide))]

/-- The bits of symbols are the lowest five of each of their bytes. -/
theorem flatMap_map_toByte (ss : List Symbol) :
    (ss.map Symbol.toByte).flatMap (fun v => bitsOf 5 v.toNat) = symbolBits ss := by
  rw [List.flatMap_map]
  simp only [toNat_toByte]
  rfl

/-- A byte above 31 is no symbol. -/
theorem ofByte?_of_large {b : UInt8} (h : 31 < b) : Symbol.ofByte? b = none := by
  have hall : ∀ b : UInt8, 31 < b → Symbol.ofByte? b = none := by decide +kernel
  exact hall b h

/-- A byte up to 31 is the byte of a symbol. -/
theorem ofByte?_of_le {b : UInt8} (h : b ≤ 31) :
    Symbol.ofByte? b = some (Symbol.lowBits b) ∧ (Symbol.lowBits b).toByte = b := by
  have hall : ∀ b : UInt8, b ≤ 31 →
      Symbol.ofByte? b = some (Symbol.lowBits b) ∧ (Symbol.lowBits b).toByte = b := by
    decide +kernel
  exact hall b h

/-- **The first value above 31** is refused by name. -/
theorem encodeSymbols_of_large {before : Bytes} {bad : UInt8} (hbefore : ∀ v ∈ before, v ≤ 31)
    (hbad : 31 < bad) (cashPrefix : Text) (after : Bytes) :
    encodeSymbols cashPrefix (before ++ bad :: after) = .error (.invalidSymbol bad) := by
  have hfirst : (before ++ bad :: after).find? (fun v => (Symbol.ofByte? v).isNone) = some bad := by
    refine List.find?_eq_some_iff_append.mpr ⟨?_, before, after, rfl, ?_⟩
    · rw [ofByte?_of_large hbad]
      rfl
    · intro v hv
      rw [(ofByte?_of_le (hbefore v hv)).1]
      rfl
  unfold encodeSymbols
  simp only [hfirst]

/-- **Values up to 31** are written as the symbols that they are. -/
theorem exists_encodeSymbols {values : Bytes} (h : ∀ v ∈ values, v ≤ 31) (cashPrefix : Text) :
    ∃ ss : List Symbol, ss.map Symbol.toByte = values ∧
      encodeSymbols cashPrefix values = .ok (spell cashPrefix ss) := by
  have hbytes : (values.map Symbol.lowBits).map Symbol.toByte = values := by
    rw [List.map_map]
    exact (List.map_congr_left fun v hv => (ofByte?_of_le (h v hv)).2).trans (List.map_id' values)
  have hnone : values.find? (fun v => (Symbol.ofByte? v).isNone) = none := by
    rw [List.find?_eq_none]
    intro v hv
    rw [(ofByte?_of_le (h v hv)).1]
    exact Bool.false_ne_true
  have hsymbols : values.filterMap Symbol.ofByte? = values.map Symbol.lowBits := by
    rw [← List.filterMap_eq_map]
    exact List.filterMap_congr fun v hv => (ofByte?_of_le (h v hv)).1
  refine ⟨values.map Symbol.lowBits, hbytes, ?_⟩
  unfold encodeSymbols
  simp only [hnone, hsymbols]

/-! ## The bits that are left -/

/-- As many bits are left as there are zeros after the bytes. -/
theorem left_eq_of_symbolBits {ss : List Symbol} {bs : Bytes} {pad : Nat} (hpad : pad < 5)
    (h : symbolBits ss = Bytes.bits bs ++ List.replicate pad false) : 5 * ss.length % 8 = pad := by
  have hlen := congrArg List.length h
  rw [length_symbolBits, List.length_append, length_bits, List.length_replicate] at hlen
  omega

/-- The lowest bits of the last symbol are the last bits of all. -/
theorem exists_symbolBits_append {ss : List Symbol} {last : Symbol} (h : ss.getLast? = some last)
    {r : Nat} (hr : r ≤ 5) : ∃ front, symbolBits ss = front ++ bitsOf r last.toNat := by
  obtain ⟨init, rfl⟩ := List.getLast?_eq_some_iff.mp h
  have hsplit : bitsOf (5 - r + r) last.toNat =
      bitsOf (5 - r) (last.toNat >>> r) ++ bitsOf r last.toNat := bitsOf_add _ _ _
  rw [Nat.sub_add_cancel hr] at hsplit
  refine ⟨symbolBits init ++ bitsOf (5 - r) (last.toNat >>> r), ?_⟩
  rw [symbolBits_append, symbolBits_cons, symbolBits_nil, List.append_nil, hsplit,
    List.append_assoc]

/-- **Five bits or more are left.** -/
theorem symbolsToBytes_of_excess {ss : List Symbol} (h : 5 ≤ 5 * ss.length % 8) :
    symbolsToBytes ss = .error .excessPadding := by
  cases hbytes : symbolsToBytes ss with
  | ok bs =>
    obtain ⟨pad, hpad, hbits⟩ := (symbolsToBytes_eq_ok_iff ss bs).mp hbytes
    have hleft := left_eq_of_symbolBits hpad hbits
    omega
  | error e =>
    rw [error_of_symbolsToBytes hbytes, if_pos h]

/-- **The bits that are left are not all zero.** -/
theorem symbolsToBytes_of_nonzero {ss : List Symbol} {last : Symbol} (hlast : ss.getLast? = some last)
    (hfew : 5 * ss.length % 8 < 5) (h : ¬2 ^ (5 * ss.length % 8) ∣ last.toNat) :
    symbolsToBytes ss = .error .invalidPadding := by
  cases hbytes : symbolsToBytes ss with
  | ok bs =>
    exfalso
    obtain ⟨pad, hpad, hbits⟩ := (symbolsToBytes_eq_ok_iff ss bs).mp hbytes
    rw [left_eq_of_symbolBits hpad hbits] at h
    obtain ⟨front, hfront⟩ := exists_symbolBits_append hlast (Nat.le_of_lt hpad)
    rw [hfront] at hbits
    have hzeros := (List.append_inj' hbits (by simp)).2
    exact h (Nat.dvd_of_mod_eq_zero (bitsOf_eq_replicate_iff.mp hzeros))
  | error e =>
    rw [error_of_symbolsToBytes hbytes, if_neg (Nat.not_le.mpr hfew)]

/-! ## Whole bytes -/

/-- Any bits are those of a number. -/
theorem exists_bitsOf_eq (bits : List Bool) : ∃ n, bitsOf bits.length n = bits := by
  induction bits using List.reverseRecOn with
  | nil => exact ⟨0, rfl⟩
  | append_singleton bits b ih =>
    obtain ⟨n, hn⟩ := ih
    refine ⟨Nat.bit b n, ?_⟩
    have hhigh : Nat.bit b n >>> 1 = n := by simp
    have hlow : bitsOf 1 (Nat.bit b n) = [b] := by
      simp [bitsOf]
    rw [List.length_append, List.length_singleton, bitsOf_add, hhigh, hn, hlow]

/-- **Any bits whose count is a multiple of eight** are those of a byte string. -/
theorem exists_bits_eq {bits : List Bool} {count : Nat} (h : bits.length = 8 * count) :
    ∃ bs : Bytes, bs.length = count ∧ bs.bits = bits := by
  induction count generalizing bits with
  | zero =>
    refine ⟨[], rfl, ?_⟩
    rw [bits_nil, List.length_eq_zero_iff.mp h]
  | succ count ih =>
    obtain ⟨n, hn⟩ := exists_bitsOf_eq (bits.take 8)
    obtain ⟨bs, hlen, hbits⟩ := @ih (bits.drop 8) (by rw [List.length_drop, h]; omega)
    have height : (bits.take 8).length = 8 := by
      rw [List.length_take, h]
      omega
    refine ⟨UInt8.ofNat n :: bs, by rw [List.length_cons, hlen], ?_⟩
    rw [height] at hn
    rw [bits_cons, bitsOf_toNat_ofNat_byte, hn, hbits, List.take_append_drop]

/-- Fewer than five bits are left after the last whole byte, and they are all zero. -/
def IsZeroPadded (ss : List Symbol) : Prop :=
  5 * ss.length % 8 < 5 ∧
    (symbolBits ss).drop (8 * (5 * ss.length / 8)) = List.replicate (5 * ss.length % 8) false

instance (ss : List Symbol) : Decidable (IsZeroPadded ss) :=
  inferInstanceAs (Decidable (_ ∧ _))

/-- Symbols with zero padding stand for their whole bytes. -/
theorem IsZeroPadded.exists_bytes {ss : List Symbol} (h : IsZeroPadded ss) :
    ∃ payload : Bytes, payload.bits = (symbolBits ss).take (8 * (5 * ss.length / 8)) ∧
      symbolsToBytes ss = .ok payload := by
  obtain ⟨hfew, hzeros⟩ := h
  have hwhole : ((symbolBits ss).take (8 * (5 * ss.length / 8))).length =
      8 * (5 * ss.length / 8) := by
    rw [List.length_take, length_symbolBits]
    omega
  obtain ⟨payload, -, hpayload⟩ := exists_bits_eq hwhole
  refine ⟨payload, hpayload, (symbolsToBytes_eq_ok_iff ss payload).mpr ⟨_, hfew, ?_⟩⟩
  rw [hpayload, ← hzeros, List.take_append_drop]

/-- The padding can be seen from the last symbol, whose lowest bits it is. -/
theorem isZeroPadded_of_dvd {ss : List Symbol} (hfew : 5 * ss.length % 8 < 5)
    (h : ∀ last, ss.getLast? = some last → 2 ^ (5 * ss.length % 8) ∣ last.toNat) :
    IsZeroPadded ss := by
  refine ⟨hfew, ?_⟩
  obtain ⟨r, hr⟩ : ∃ r, 5 * ss.length % 8 = r := ⟨_, rfl⟩
  rw [hr] at hfew h ⊢
  have hlen : ((symbolBits ss).drop (8 * (5 * ss.length / 8))).length = r := by
    rw [List.length_drop, length_symbolBits]
    omega
  cases hlast : ss.getLast? with
  | none =>
    -- Without symbols nothing is left.
    have hnil : ss = [] := List.getLast?_eq_none_iff.mp hlast
    rw [hnil] at hr ⊢
    rw [← hr]
    rfl
  | some last =>
    obtain ⟨front, hfront⟩ := exists_symbolBits_append hlast (Nat.le_of_lt hfew)
    have hsplit := List.take_append_drop (8 * (5 * ss.length / 8)) (symbolBits ss)
    conv at hsplit => rhs; rw [hfront]
    rw [(List.append_inj' hsplit (by rw [hlen, length_bitsOf])).2, bitsOf_eq_replicate_iff]
    exact Nat.mod_eq_zero_of_dvd (h last hlast)

/-- **The bits that are left are all zero**: the symbols stand for their whole bytes. -/
theorem exists_symbolsToBytes {ss : List Symbol} (hfew : 5 * ss.length % 8 < 5)
    (h : ∀ last, ss.getLast? = some last → 2 ^ (5 * ss.length % 8) ∣ last.toNat) :
    ∃ payload : Bytes, payload.bits = (symbolBits ss).take (8 * (5 * ss.length / 8)) ∧
      symbolsToBytes ss = .ok payload :=
  (isZeroPadded_of_dvd hfew h).exists_bytes

/-! ## The answer -/

section Written

variable {cashPrefix : Text} {ss : List Symbol}

/-- A failure to find bytes is the answer. -/
theorem decode_spell_of_error (hascii : cashPrefix.IsSmallAscii) {e : AddressError}
    (h : symbolsToBytes ss = .error e) : decode (spell cashPrefix ss) = .error e := by
  unfold decode decodeWithPrefix
  simp only [decodeSymbols_spell hascii, h]

/-- Symbols that stand for bytes are the symbols of these bytes, so that they have the same text. -/
theorem spell_eq_encode {payload : Bytes} (h : symbolsToBytes ss = .ok payload) :
    spell cashPrefix ss = encode cashPrefix payload := by
  rw [encode, bytesToSymbols_of_symbolsToBytes h]

end Written

/-- **Any symbols are read again, and their padding is judged exactly.** Values are written if none of
    them is above 31; otherwise the first one that is above is named. What is written is read again as
    the same prefix and symbols. As a payload, it is read according to the bits that are left after the
    last whole byte.

    - If five bits or more are left, there are symbols too many.
    - If fewer are left, but the last symbol is not a multiple of the power of two that they make up,
      they are not all zero.
    - Otherwise the answer is the one for the payload of the whole bytes. -/
theorem decode_encodeSymbols {cashPrefix : Text} (hascii : cashPrefix.IsSmallAscii) (values : Bytes) :
    (∀ before bad after, values = before ++ bad :: after → (∀ v ∈ before, v ≤ 31) → 31 < bad →
      encodeSymbols cashPrefix values = .error (.invalidSymbol bad)) ∧
    ((∀ v ∈ values, v ≤ 31) → ∃ text ss, encodeSymbols cashPrefix values = .ok text ∧
      ss.map Symbol.toByte = values ∧
      (∀ defaultPrefix, decodeSymbols defaultPrefix text = .ok (cashPrefix, ss)) ∧
      (5 ≤ 5 * values.length % 8 → decode text = .error .excessPadding) ∧
      (5 * values.length % 8 < 5 →
        (∀ last, values.getLast? = some last → ¬2 ^ (5 * values.length % 8) ∣ last.toNat →
          decode text = .error .invalidPadding) ∧
        ((∀ last, values.getLast? = some last → 2 ^ (5 * values.length % 8) ∣ last.toNat) →
          ∃ payload : Bytes,
            payload.bits = (values.flatMap fun v => bitsOf 5 v.toNat).take
              (8 * (5 * values.length / 8)) ∧
            decode text = decode (encode cashPrefix payload)))) := by
  constructor
  · intro before bad after hvalues hbefore hbad
    rw [hvalues]
    exact encodeSymbols_of_large hbefore hbad cashPrefix after
  · intro hsmall
    obtain ⟨ss, hbytes, htext⟩ := exists_encodeSymbols hsmall cashPrefix
    have hcount : values.length = ss.length := by rw [← hbytes, List.length_map]
    have hlast : values.getLast? = ss.getLast?.map Symbol.toByte := by
      rw [← hbytes, List.getLast?_map]
    have hbits : (values.flatMap fun v => bitsOf 5 v.toNat) = symbolBits ss := by
      rw [← hbytes, flatMap_map_toByte]
    refine ⟨_, ss, htext, hbytes, fun defaultPrefix => decodeSymbols_spell hascii defaultPrefix ss,
      ?_, ?_⟩
    · intro hmany
      rw [hcount] at hmany
      exact decode_spell_of_error hascii (symbolsToBytes_of_excess hmany)
    · rw [hcount, hlast, hbits]
      intro hfew
      refine ⟨?_, ?_⟩
      · intro last hvalue hbad
        obtain ⟨s, hs, rfl⟩ := Option.map_eq_some_iff.mp hvalue
        rw [toNat_toByte] at hbad
        exact decode_spell_of_error hascii (symbolsToBytes_of_nonzero hs hfew hbad)
      · intro hgood
        have hdvd : ∀ s, ss.getLast? = some s → 2 ^ (5 * ss.length % 8) ∣ s.toNat := by
          intro s hs
          rw [← toNat_toByte]
          exact hgood s.toByte (by rw [hs]; rfl)
        obtain ⟨payload, hpayload, hok⟩ := exists_symbolsToBytes hfew hdvd
        exact ⟨payload, hpayload, by rw [spell_eq_encode hok]⟩

/-- Under a prefix that has a colon itself: a value that is too large, a symbol that is too few for a
    byte, two symbols with a bit that is left, and two symbols that are a byte and two zeros. -/
theorem decode_encodeSymbols_named_colon :
    encodeSymbols "a:b".toList [0x01, 0x20, 0x21] = .error (.invalidSymbol 0x20) ∧
    (∃ text, encodeSymbols "a:b".toList [0x00] = .ok text ∧
      decode text = .error .excessPadding) ∧
    (∃ text ss, encodeSymbols "a:b".toList [0x00, 0x01] = .ok text ∧
      ss.map Symbol.toByte = [0x00, 0x01] ∧
      decodeSymbols defaultPrefix text = .ok ("a:b".toList, ss) ∧
      decode text = .error .invalidPadding) ∧
    ∃ text payload, encodeSymbols "a:b".toList [0x00, 0x04] = .ok text ∧
      Bytes.bits payload = [false, false, false, false, false, false, false, true] ∧
      decode text = decode (encode "a:b".toList payload) := by
  have hascii : Text.IsSmallAscii "a:b".toList := by decide
  refine ⟨?_, ?_, ?_, ?_⟩
  · exact (decode_encodeSymbols hascii _).1 [0x01] 0x20 [0x21] rfl (by simp) (by decide)
  · obtain ⟨text, -, htext, -, -, hmany, -⟩ := (decode_encodeSymbols hascii [0x00]).2 (by simp)
    exact ⟨text, htext, hmany (by decide)⟩
  · obtain ⟨text, ss, htext, hbytes, hread, -, hfew⟩ :=
      (decode_encodeSymbols hascii [0x00, 0x01]).2 (by simp)
    exact ⟨text, ss, htext, hbytes, hread defaultPrefix,
      (hfew (by decide)).1 0x01 rfl (by decide)⟩
  · obtain ⟨text, -, htext, -, -, -, hfew⟩ :=
      (decode_encodeSymbols hascii [0x00, 0x04]).2 (by simp)
    have hfour : ∀ last, [0x00, 0x04].getLast? = some last →
        2 ^ (5 * [(0x00 : UInt8), 0x04].length % 8) ∣ UInt8.toNat last := by
      intro last hlast
      rw [← Option.some.inj hlast]
      decide
    obtain ⟨payload, hpayload, hsame⟩ := (hfew (by decide)).2 hfour
    exact ⟨text, payload, htext, hpayload, hsame⟩

end BitcoinCash.CashAddr
