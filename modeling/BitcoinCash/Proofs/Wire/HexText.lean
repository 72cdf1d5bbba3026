import BitcoinCash.Proofs.Text.Hexadecimal
import BitcoinCash.Proofs.Wire.Canonical

/-! # Hexadecimal forms agree with wire forms

  The hexadecimal text of a script or an output says what the bytes say that its digits stand for,
  and it says nothing else.

  - **`Wire.HexAgrees`** collects what this means for a type: which texts are read and as what, which
    digits are written again, what happens to texts that are not hexadecimal, and which texts are
    read back.
  - **`Wire.hexAgrees_of`** derives it from the wire layer: a reading takes the wire form of what it
    gives, and a value within the limit is taken off the front.
  - **`Wire.hexAgrees_script_and_txOut`** is the main statement.
-/

namespace BitcoinCash

/-! ## Markers -/

namespace Hex

/-- What may stand in front of the digits. -/
def markers : List Text :=
  [[], "0x".toList, "0X".toList]

/-- The digits after a marker are all that is left, and digits have no marker among them. -/
theorem withoutMarker_append {marker d : Text} (hmarker : marker ∈ markers)
    (hdigits : ∀ c ∈ d, c ∈ digits) : withoutMarker (marker ++ d) = d := by
  have hnone : withoutMarker d = d := by
    fun_cases withoutMarker d with
    | case1 t => exact absurd (hdigits 'x' (by simp)) (by decide)
    | case2 t => exact absurd (hdigits 'X' (by simp)) (by decide)
    | case3 t => rfl
  simp only [markers, List.mem_cons, List.not_mem_nil, or_false] at hmarker
  rcases hmarker with rfl | rfl | rfl
  · exact hnone
  · rfl
  · rfl

/-- **What is written is read back**, with any marker and in either case. -/
theorem decode_append {marker d : Text} {bs : Bytes} (hmarker : marker ∈ markers)
    (hd : d.asciiCaseEq (encode bs) = true) : decode (marker ++ d) = .ok bs := by
  have hlower : d.asciiLower = encode bs := by
    rw [← asciiLower_encode bs]
    exact eq_of_beq hd
  rw [decode_eq_ok_iff, withoutMarker_append hmarker (mem_digits_of_asciiLower hlower)]
  exact hlower

end Hex

/-! ## Texts and bytes -/

namespace Wire

/-- **The hexadecimal form of a type agrees with its wire form.** -/
structure HexAgrees {α : Type} [BEq α] (read : Reading Bytes α)
    (ofHex : Text → Except WireError α) (toHex : α → Text) (wireLength : α → Nat)
    (script : α → Script) : Prop where
  /-- A text gives a value exactly if it is hexadecimal and the bytes that its digits stand for
      give that value. -/
  ok_iff : ∀ text x, ofHex text = .ok x ↔
    Hex.IsHexText text ∧
      ∃ bs, Hex.encode bs = (Hex.withoutMarker text).asciiLower ∧ readFrom read bs = .ok x
  /-- If they do not give a value, the text is refused for the same reason. -/
  eq_readFrom : ∀ text bs, Hex.encode bs = (Hex.withoutMarker text).asciiLower →
    ofHex text = readFrom read bs
  /-- The value is written as the first digits, in small letters. -/
  toHex_eq : ∀ text x, ofHex text = .ok x →
    toHex x = (Hex.withoutMarker text).asciiLower.take (2 * wireLength x)
  /-- A text that is not hexadecimal is refused for that. -/
  of_not_hex : ∀ text, ¬Hex.IsHexText text → ∃ e, ofHex text = .error (.fromHexError e)
  /-- A value with a script within the limit is read back from its digits, with any marker and in
      either case. -/
  read_back : ∀ x, (script x).length ≤ maxVectorLength.toNat →
    ∀ marker ∈ Hex.markers, ∀ digits, digits.asciiCaseEq (toHex x) = true →
      ∃ y, ofHex (marker ++ digits) = .ok y ∧ (y == x) = true

section HexAgrees

variable {α : Type} {read : Reading Bytes α}

/-- The bytes of a text decide. -/
theorem readHex_eq_readFrom {text : Text} {bs : Bytes}
    (h : Hex.encode bs = (Hex.withoutMarker text).asciiLower) :
    readHex read text = readFrom read bs := by
  rw [readHex, Hex.decode_eq_ok_iff.mpr h.symm]

/-- A text without bytes is refused. -/
theorem readHex_of_not_isHexText {text : Text} (h : ¬Hex.IsHexText text) :
    ∃ e, readHex read text = .error (.fromHexError e) := by
  cases hdecode : Hex.decode text with
  | error e =>
    refine ⟨e, ?_⟩
    rw [readHex, hdecode]
  | ok bs => exact absurd (Hex.isHexText_iff.mpr ⟨bs, Hex.decode_eq_ok_iff.mp hdecode⟩) h

theorem readHex_eq_ok_iff {text : Text} {x : α} :
    readHex read text = .ok x ↔
      Hex.IsHexText text ∧
        ∃ bs, Hex.encode bs = (Hex.withoutMarker text).asciiLower ∧ readFrom read bs = .ok x := by
  constructor
  · intro h
    by_cases hhex : Hex.IsHexText text
    · obtain ⟨bs, hbs⟩ := Hex.isHexText_iff.mp hhex
      rw [readHex_eq_readFrom hbs.symm] at h
      exact ⟨hhex, bs, hbs.symm, h⟩
    · obtain ⟨e, he⟩ := @readHex_of_not_isHexText α read _ hhex
      rw [he] at h
      cases h
  · intro ⟨_, bs, hbs, hread⟩
    rw [readHex_eq_readFrom hbs, hread]

/-- **The hexadecimal form follows the wire form** of a type whose readings take the wire forms of
    what they give. -/
theorem hexAgrees_of [BEq α] {toWire : α → Bytes} {wireLength : α → Nat} {script : α → Script}
    (hread : ∀ {x bs rest}, read.run bs = (.ok x, rest) → bs = toWire x ++ rest)
    (hlength : ∀ x, (toWire x).length = wireLength x)
    (htakes : ∀ x, (script x).length ≤ maxVectorLength.toNat →
      ∃ y, read.Takes (toWire x) y ∧ (y == x) = true) :
    HexAgrees read (readHex read) (fun x => Hex.encode (toWire x)) wireLength script where
  ok_iff _ _ := readHex_eq_ok_iff
  eq_readFrom _ _ := readHex_eq_readFrom
  of_not_hex _ := readHex_of_not_isHexText
  toHex_eq text x h := by
    obtain ⟨-, bs, hbs, hok⟩ := readHex_eq_ok_iff.mp h
    have hform : bs = toWire x ++ (read.run bs).2 := hread (Prod.ext hok rfl)
    -- The digits of the wire form are in front of those of what was left alone.
    rw [← hbs, hform, Hex.encode_append, ← hlength, ← Hex.length_encode, List.take_left]
  read_back x hlimit marker hmarker digits hdigits := by
    obtain ⟨y, hy, hsame⟩ := htakes x hlimit
    have hrun := hy []
    rw [List.append_nil] at hrun
    refine ⟨y, ?_, hsame⟩
    rw [readHex, Hex.decode_append hmarker hdigits]
    show (read.run (toWire x)).1 = .ok y
    rw [hrun]

end HexAgrees

/-- **The hexadecimal forms of scripts and of outputs agree with their wire forms.** Outputs are
    compared by value and script. -/
theorem hexAgrees_script_and_txOut :
    HexAgrees Script.read Script.ofHex Script.toHex Script.wireLength id ∧
      HexAgrees TxOut.read TxOut.ofHex TxOut.toHex TxOut.wireLength TxOut.script := by
  constructor
  · apply @hexAgrees_of _ _ _ Script.toWire
    · intro s bs rest h
      rw [Script.toWire_eq]
      exact (Script.run_read_eq_ok_iff.mp h).2
    · intro s
      rw [Script.toWire_eq, length_vectorBytes]
      rfl
    · intro s hlimit
      refine ⟨s, ?_, beq_self_eq_true s⟩
      rw [Script.toWire_eq]
      exact Script.takes_read hlimit
  · refine @hexAgrees_of _ _ _ TxOut.toWire _ _ ?_ TxOut.length_toWire ?_
    · intro out bs rest h
      exact (TxOut.run_read_eq_ok_iff.mp h).2.2
    · intro out hlimit
      exact ⟨TxOut.new out.value out.script, TxOut.takes_read hlimit, TxOut.new_beq out⟩

/-- The null output from capital letters behind a marker, with a byte too many, and the digits that
    are written for it; a script that is cut short, one with an odd number of digits, and one that is
    read back from capital letters. -/
theorem hexAgrees_null_and_dataCarrier :
    TxOut.ofHex "0XFFFFFFFFFFFFFFFF00AB".toList = .ok .null ∧
      TxOut.null.toHex = "ffffffffffffffff00".toList ∧
      Script.ofHex "03aA".toList = .error .truncatedInput ∧
      (∃ e, Script.ofHex "036a01a".toList = .error (.fromHexError e)) ∧
      ∃ s, Script.ofHex "0x036A01AB".toList = .ok s ∧ (s == Script.dataCarrier [0xab]) = true := by
  obtain ⟨hscript, hout⟩ := hexAgrees_script_and_txOut
  have hnull : TxOut.ofHex "0XFFFFFFFFFFFFFFFF00AB".toList = .ok .null := by
    have hdigits : Hex.encode (TxOut.null.toWire ++ [0xab]) =
        (Hex.withoutMarker "0XFFFFFFFFFFFFFFFF00AB".toList).asciiLower := by
      rw [TxOut.toWire_eq]
      decide
    rw [hout.ok_iff]
    refine ⟨Hex.isHexText_iff.mpr ⟨_, hdigits.symm⟩, _, hdigits, ?_⟩
    rw [readFrom, TxOut.takes_read (by decide)]
    rfl
  have hshort : Script.read.run [0x03, 0xaa] = (.error .truncatedInput, ([] : Bytes)) := by
    have hbytes : (Reading.bytes 3).run [0xaa] = (.error .truncatedInput, ([] : Bytes)) :=
      Reading.run_bytes_of_lt (by decide)
    exact run_bind_error ((run_bind_ok (CompactSize.takes_read 3 [0xaa])).trans hbytes)
  have hcarrier : (Script.dataCarrier [0xab]).toHex = "036a01ab".toList := by
    rw [Script.toHex, Script.toWire_eq]
    decide
  have hcapitals : Text.asciiCaseEq "036A01AB".toList (Script.dataCarrier [0xab]).toHex = true := by
    rw [hcarrier]
    decide
  refine ⟨hnull, hout.toHex_eq _ _ hnull, ?_, ?_, ?_⟩
  · rw [hscript.eq_readFrom _ [0x03, 0xaa] (by decide), readFrom, hshort]
  · exact hscript.of_not_hex _ fun h => absurd h.even (by decide)
  · exact hscript.read_back _ (by decide) "0x".toList (by decide) _ hcapitals

end Wire

end BitcoinCash
