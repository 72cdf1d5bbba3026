import BitcoinCash.Proofs.Wire.Verdict

/-! # Final verdicts

  What a reader says of the bytes that have arrived so far stands when more of them arrive, unless
  it says that bytes are missing. These can then be supplied.

  - **A length that is cut short** can be completed to one within the limit, unless it has the
    marker of nine bytes, and so can a byte vector (`Wire.exists_vectorBytes_of_isCutVector`) and
    an output (`TxOut.exists_takes_of_isCut`).
  - **`TxOut.run_append`**: more bytes do not change a verdict.
  - **`TxOut.consumed_of_violation`**: what breaks a rule is found before a byte of the script is
    taken.
  - **`TxOut.read_final`** is the main statement.
-/

namespace BitcoinCash

/-! ## Lengths that are cut short -/

namespace CompactSize

/-- The first byte announces the width. -/
theorem widthOfFirst_of_head?_encode {n : UInt64} {first : UInt8}
    (h : (encode n).head? = some first) : widthOfFirst first = width n := by
  unfold encode at h
  cases hmarker : marker? (width n) with
  | none =>
    rw [hmarker] at h
    cases h
    rw [(marker?_eq_none hmarker).2.1, (marker?_eq_none hmarker).1]
  | some m =>
    rw [hmarker] at h
    cases h
    exact (marker?_eq_some hmarker).1

/-- No length within the limit begins with the marker of nine bytes. -/
theorem head?_encode_ne {n : UInt64} (h : n ≤ Wire.maxVectorLength) :
    (encode n).head? ≠ some 0xff := by
  intro hfirst
  have hwide : 9 = width n := widthOfFirst_of_head?_encode hfirst
  have hlimit : n.toNat ≤ 0x02000000 := UInt64.le_iff_toNat_le.mp h
  have hsmall : n ≤ 0xffffffff := UInt64.le_iff_toNat_le.mpr (Nat.le_trans hlimit (by decide))
  unfold width at hwide
  rw [if_pos hsmall] at hwide
  split at hwide
  · cases hwide
  · split at hwide <;> cases hwide

/-- **A marker with too few bytes** is completed by zeros and a last byte, if with that byte the
    number is as wide as the marker says and within the limit. -/
theorem exists_encode_of_marker {declared : Nat} {m : UInt8} {body : Bytes} (high : UInt8)
    (hm : marker? declared = some m) (hshort : body.length + 1 < declared)
    (hfits : ∀ k, 256 ^ (declared - 2) * high.toNat ≤ k →
      k < 256 ^ (declared - 2) * (high.toNat + 1) →
        declared ≤ width (UInt64.ofNat k) ∧ UInt64.ofNat k ≤ Wire.maxVectorLength) :
    ∃ more n, m :: body ++ more = encode n ∧ n ≤ Wire.maxVectorLength := by
  let low := body ++ List.replicate (declared - 2 - body.length) 0
  have hlow : low.length = declared - 2 := by
    rw [List.length_append, List.length_replicate]
    omega
  have hvalue : Bytes.ofLittleEndian (low ++ [high]) =
      Bytes.ofLittleEndian low + 256 ^ (declared - 2) * high.toNat := by
    rw [Bytes.ofLittleEndian_append, hlow]
    rfl
  have hlt := Bytes.ofLittleEndian_lt low
  rw [hlow] at hlt
  obtain ⟨hwide, hlimit⟩ := hfits (Bytes.ofLittleEndian (low ++ [high]))
    (by rw [hvalue]; omega) (by rw [hvalue, Nat.mul_succ]; omega)
  have hlength : (low ++ [high]).length = declared - 1 := by
    rw [List.length_append, hlow, List.length_singleton]
    omega
  refine ⟨List.replicate (declared - 2 - body.length) 0 ++ [high], _, ?_, hlimit⟩
  rw [encode_ofLittleEndian hm hlength hwide, List.cons_append, ← List.append_assoc]

/-- Within the limit, the ranges of numbers of three and of five bytes. -/
theorem le_width_ofNat {k : Nat} (h : k ≤ 0x02000000) :
    (0xfc < k → 3 ≤ width (UInt64.ofNat k)) ∧ (0xffff < k → 5 ≤ width (UInt64.ofNat k)) ∧
      UInt64.ofNat k ≤ Wire.maxVectorLength := by
  have hword : 0x02000000 < UInt64.size := by decide
  have hk : (UInt64.ofNat k).toNat = k := UInt64.toNat_ofNat_of_lt' (by omega)
  have hwidth := width_cases (UInt64.ofNat k)
  rw [hk] at hwidth
  refine ⟨by omega, by omega, UInt64.le_iff_toNat_le.mpr ?_⟩
  rw [hk]
  exact h

/-- **A length that is cut short can be completed**, unless it has the marker of nine bytes. -/
theorem exists_encode_of_isCut {bs : Bytes} (h : IsCut bs) (hne : bs.head? ≠ some 0xff) :
    ∃ more n, bs ++ more = encode n ∧ n ≤ Wire.maxVectorLength := by
  cases bs with
  | nil => exact ⟨[0], 0, by decide, by decide⟩
  | cons first body =>
    have hshort := h first rfl
    rw [List.length_cons] at hshort
    have hm : marker? (widthOfFirst first) = some first := marker?_widthOfFirst (by omega)
    generalize widthOfFirst first = declared at hm hshort
    unfold marker? at hm
    split at hm
    · -- With `ff` as the second byte, the number does not fit into one.
      cases hm
      refine exists_encode_of_marker 0xff rfl hshort fun k hle hlt => ?_
      have hlow : 0xff00 ≤ k := hle
      have hhigh : k < 0x10000 := hlt
      have hwidth := le_width_ofNat (k := k) (by omega)
      exact ⟨hwidth.1 (by omega), hwidth.2.2⟩
    · -- With `01` as the fourth byte, the number does not fit into two, and it is within the limit.
      cases hm
      refine exists_encode_of_marker 0x01 rfl hshort fun k hle hlt => ?_
      have hlow : 0x01000000 ≤ k := hle
      have hhigh : k < 0x02000000 := hlt
      have hwidth := le_width_ofNat (k := k) (by omega)
      exact ⟨hwidth.2.1 (by omega), hwidth.2.2⟩
    · cases hm
      exact absurd rfl hne
    · cases hm

end CompactSize

/-! ## Byte vectors that are cut short -/

namespace Wire

/-- A length within the limit, with no more bytes behind it than it says, is completed by zeros. -/
theorem exists_vectorBytes_of_encode {n : UInt64} (data : Bytes) (hlimit : n ≤ maxVectorLength)
    (hle : data.length ≤ n.toNat) :
    ∃ more v, CompactSize.encode n ++ data ++ more = vectorBytes v ∧
      v.length ≤ maxVectorLength.toNat := by
  let v := data ++ List.replicate (n.toNat - data.length) 0
  have hlen : v.length = n.toNat := by
    rw [List.length_append, List.length_replicate]
    omega
  refine ⟨List.replicate (n.toNat - data.length) 0, v, ?_, ?_⟩
  · rw [vectorBytes, hlen, UInt64.ofNat_toNat, List.append_assoc]
  · rw [hlen]
    exact UInt64.le_iff_toNat_le.mp hlimit

/-- **A byte vector that is cut short can be completed**, unless it is cut within a length with the
    marker of nine bytes. -/
theorem exists_vectorBytes_of_isCutVector {bs : Bytes} (h : IsCutVector bs)
    (hwide : ¬(bs.head? = some 0xff ∧ bs.length < 9)) :
    ∃ more v, bs ++ more = vectorBytes v ∧ v.length ≤ maxVectorLength.toNat := by
  rcases h with hcut | ⟨n, data, hbs, hlimit, hshort⟩
  · have hne : bs.head? ≠ some 0xff := fun hfirst => hwide ⟨hfirst, hcut _ hfirst⟩
    obtain ⟨more, n, hlength, hlimit⟩ := CompactSize.exists_encode_of_isCut hcut hne
    obtain ⟨zeros, v, hv, hle⟩ := exists_vectorBytes_of_encode [] hlimit (Nat.zero_le _)
    rw [List.append_nil] at hv
    exact ⟨more ++ zeros, v, by rw [← List.append_assoc, hlength, hv], hle⟩
  · rw [hbs]
    exact exists_vectorBytes_of_encode data hlimit (Nat.le_of_lt hshort)

end Wire

/-! ## Outputs that are cut short -/

namespace TxOut

/-- **The bytes end within a length with the marker of nine bytes.** -/
def EndsInWideLength (bs : Bytes) : Prop :=
  bs[8]? = some 0xff ∧ bs.length < 17

/-- **An output that is cut short can be completed**, unless the bytes end within a length with the
    marker of nine bytes. -/
theorem exists_takes_of_isCut {bs : Bytes} (h : IsCut bs) (hwide : ¬EndsInWideLength bs) :
    ∃ more out, Reading.Takes read (bs ++ more) out := by
  have htakes : ∀ value v, value.length = 8 → v.length ≤ Wire.maxVectorLength.toNat →
      ∃ out, Reading.Takes read (value ++ Wire.vectorBytes v) out := by
    intro value v hvalue hv
    obtain ⟨number, hnumber⟩ := exists_takes_readInt64 hvalue
    exact ⟨_, hnumber.bind (((Wire.takes_readVector hv).map Script.mk).map (new number))⟩
  rcases h with hshort | ⟨value, rest, hbs, hlen, hcut⟩
  · -- Zeros complete the value, and the script is empty.
    have hvalue : (bs ++ List.replicate (8 - bs.length) 0).length = 8 := by
      rw [List.length_append, List.length_replicate]
      omega
    obtain ⟨out, hout⟩ := htakes _ [] hvalue (Nat.zero_le _)
    rw [List.append_assoc] at hout
    exact ⟨_, out, hout⟩
  · -- The value is there, and the script can be completed.
    have hrest : ¬(rest.head? = some 0xff ∧ rest.length < 9) := by
      intro hmarker
      obtain ⟨hfirst, hshort⟩ := hmarker
      apply hwide
      refine ⟨?_, ?_⟩
      · rw [hbs, List.getElem?_append_right (Nat.le_of_eq hlen), hlen, ← List.head?_eq_getElem?]
        exact hfirst
      · rw [hbs, List.length_append]
        omega
    obtain ⟨more, v, hmore, hv⟩ := Wire.exists_vectorBytes_of_isCutVector hcut hrest
    obtain ⟨out, hout⟩ := htakes value v hlen hv
    refine ⟨more, out, ?_⟩
    rw [hbs, List.append_assoc, hmore]
    exact hout

/-- No output within the limit has the marker of nine bytes behind its value. -/
theorem getElem?_toWire_ne {out : TxOut} (h : out.script.length ≤ Wire.maxVectorLength.toNat)
    (rest : Bytes) : (out.toWire ++ rest)[8]? ≠ some 0xff := by
  have hlimit := (CompactSize.le_width_ofNat h).2.2
  have hfirst := CompactSize.head?_encode_ne hlimit
  have hvalue := Bytes.length_littleEndian 8 out.value.toUInt64.toNat
  have hlen := CompactSize.length_encode (UInt64.ofNat out.script.length)
  have hwidth := CompactSize.width_cases (UInt64.ofNat out.script.length)
  rw [toWire_eq, List.append_assoc, List.getElem?_append_right (Nat.le_of_eq hvalue), hvalue,
    Wire.vectorBytes, List.append_assoc]
  show (CompactSize.encode (UInt64.ofNat out.script.length) ++ _)[0]? ≠ some 0xff
  rw [List.getElem?_append_left (by omega), ← List.head?_eq_getElem?]
  exact hfirst

/-! ## Final verdicts -/

/-- The bytes are missing that the reader says are missing. -/
theorem isCut_of_truncated {bs : Bytes} (h : Wire.readFrom read bs = .error .truncatedInput) :
    IsCut bs := by
  rcases read_cases bs with hcut | ⟨value, field, rest, v, hbs, -, -, hrefuse⟩ |
    ⟨taken, rest, out, hbs, hread⟩
  · exact hcut
  · rw [hbs, hrefuse.readFrom rest] at h
    cases h
  · rw [hbs, hread.decides.readFrom rest] at h
    cases h

/-- **More bytes do not change a verdict**, unless it says that bytes are missing. -/
theorem run_append {bs : Bytes} (h : Wire.readFrom read bs ≠ .error .truncatedInput)
    (more : Bytes) :
    read.run (bs ++ more) = (Wire.readFrom read bs, (read.run bs).2 ++ more) := by
  rcases read_cases bs with hcut | ⟨value, field, rest, v, hbs, -, -, hrefuse⟩ |
    ⟨taken, rest, out, hbs, hread⟩
  · rw [Wire.readFrom, run_read_of_isCut hcut] at h
    exact absurd rfl h
  · rw [hbs]
    exact hrefuse.run_append more
  · rw [hbs]
    exact hread.decides.run_append more

/-- **What breaks a rule is found early**: the value and all bytes of the length of the script are
    taken, and nothing else is. -/
theorem consumed_of_violation {bs : Bytes} {v : Violation}
    (h : Wire.readFrom read bs = .error (.protocolViolation v)) :
    ∃ first, bs[8]? = some first ∧
      Wire.consumed read bs = 8 + CompactSize.widthOfFirst first ∧
      (read.run bs).2 = bs.drop (8 + CompactSize.widthOfFirst first) := by
  rcases read_cases bs with hcut | ⟨value, field, rest, v, hbs, hvalue, hfield, hrefuse⟩ |
    ⟨taken, rest, out, hbs, hread⟩
  · rw [Wire.readFrom, run_read_of_isCut hcut] at h
    cases h
  · obtain ⟨first, body, hform, hlength⟩ := hfield
    have htaken : (value ++ field).length = 8 + CompactSize.widthOfFirst first := by
      rw [List.length_append, hvalue, hform, List.length_cons, hlength]
    obtain ⟨hcount, -, hleft⟩ := Wire.consumed_append (hrefuse rest)
    rw [← hbs] at hcount hleft
    refine ⟨first, ?_, ?_, ?_⟩
    · rw [hbs, List.append_assoc, List.getElem?_append_right (Nat.le_of_eq hvalue), hvalue, hform]
      rfl
    · rw [hcount, htaken]
    · rw [hleft, hcount, htaken]
  · rw [hbs, hread.decides.readFrom rest] at h
    cases h

/-- **Verdicts are final, unless bytes are missing.**

    - A byte string is read as an output, or it breaks a rule of the format, or bytes are missing.
    - If it is read, or if it breaks a rule, more bytes do not change this, and they are left behind
      those that were left. What breaks a rule is found when the value and the length of the script
      are taken, and nothing else is.
    - If bytes are missing, they are missing from every shorter piece of the byte string, and with
      the right bytes it is read, unless it ends within a length with the marker of nine bytes. -/
theorem read_final (bs : Bytes) :
    ((∃ out, Wire.readFrom read bs = .ok out) ∨
      (∃ v, Wire.readFrom read bs = .error (.protocolViolation v)) ∨
      Wire.readFrom read bs = .error .truncatedInput) ∧
    (∀ out, Wire.readFrom read bs = .ok out →
      ∀ more, read.run (bs ++ more) = (.ok out, (read.run bs).2 ++ more)) ∧
    (∀ v, Wire.readFrom read bs = .error (.protocolViolation v) →
      (∀ more, read.run (bs ++ more) =
        (.error (.protocolViolation v), (read.run bs).2 ++ more)) ∧
      ∃ first, bs[8]? = some first ∧
        Wire.consumed read bs = 8 + CompactSize.widthOfFirst first ∧
        (read.run bs).2 = bs.drop (8 + CompactSize.widthOfFirst first)) ∧
    (Wire.readFrom read bs = .error .truncatedInput →
      (∀ front, front <+: bs → Wire.readFrom read front = .error .truncatedInput) ∧
      ((∃ more out, Wire.readFrom read (bs ++ more) = .ok out) ↔ ¬EndsInWideLength bs)) := by
  refine ⟨?_, ?_, ?_, ?_⟩
  · rcases read_cases bs with hcut | ⟨value, field, rest, v, hbs, -, -, hrefuse⟩ |
      ⟨taken, rest, out, hbs, hread⟩
    · exact .inr (.inr (by rw [Wire.readFrom, run_read_of_isCut hcut]))
    · exact .inr (.inl ⟨v, by rw [hbs, hrefuse.readFrom rest]⟩)
    · exact .inl ⟨out, by rw [hbs, hread.decides.readFrom rest]⟩
  · intro out hok more
    have hfinal : Wire.readFrom read bs ≠ .error .truncatedInput := by
      rw [hok]
      simp
    rw [run_append hfinal, hok]
  · intro v hviolation
    have hfinal : Wire.readFrom read bs ≠ .error .truncatedInput := by
      rw [hviolation]
      simp
    refine ⟨fun more => ?_, consumed_of_violation hviolation⟩
    rw [run_append hfinal, hviolation]
  · intro htruncated
    refine ⟨?_, ?_, ?_⟩
    · -- Any other verdict on the front would be the one on all bytes.
      intro front hfront
      obtain ⟨more, hmore⟩ := hfront
      apply Classical.byContradiction
      intro hfinal
      rw [← hmore, Wire.readFrom, run_append hfinal] at htruncated
      exact hfinal htruncated
    · intro hcompleted hwide
      obtain ⟨more, out, hok⟩ := hcompleted
      obtain ⟨hmarker, -⟩ := hwide
      rcases hrun : read.run (bs ++ more) with ⟨result, rest⟩
      have hresult : result = .ok out := by rw [← hok, Wire.readFrom, hrun]
      rw [hresult] at hrun
      obtain ⟨-, hlimit, hform⟩ := run_read_eq_ok_iff.mp hrun
      have hnever := getElem?_toWire_ne hlimit rest
      have hlong : 8 < bs.length := (List.getElem?_eq_some_iff.mp hmarker).1
      rw [← hform, List.getElem?_append_left hlong] at hnever
      exact hnever hmarker
    · intro hwide
      obtain ⟨more, out, hread⟩ := exists_takes_of_isCut (isCut_of_truncated htruncated) hwide
      have hok := hread.decides.readFrom []
      rw [List.append_nil] at hok
      exact ⟨more, out, hok⟩

/-- Behind a value: a length of three bytes that fits into one is refused for good; one that ends
    after the marker `fe` and a byte can be completed, and the value alone is not enough; one that
    ends after the marker `ff` and a byte cannot be completed. -/
theorem read_final_lengths :
    let value : Bytes := List.replicate 8 0
    (∀ more, read.run (value ++ [0xfd, 0x05, 0x00] ++ more) =
      (.error (.protocolViolation (.nonMinimal 5 3)), more)) ∧
    Wire.consumed read (value ++ [0xfd, 0x05, 0x00]) = 11 ∧
    (∃ more out, Wire.readFrom read (value ++ [0xfe, 0xff] ++ more) = .ok out) ∧
    Wire.readFrom read value = .error .truncatedInput ∧
    ∀ more out, Wire.readFrom read (value ++ [0xff, 0x01] ++ more) ≠ .ok out := by
  intro value
  have hvalue : Reading.Takes Wire.readInt64 value 0 := Wire.takes_readInt64 0
  have hfield : CompactSize.read.run [0xfd, 0x05, 0x00] =
      (.error (.protocolViolation (.nonMinimal 5 3)), ([] : Bytes)) := by
    have hrun := @CompactSize.run_read_field 0xfd [0x05, 0x00] rfl []
    exact hrun.trans rfl
  have hrefused : read.run (value ++ [0xfd, 0x05, 0x00]) =
      (.error (.protocolViolation (.nonMinimal 5 3)), []) :=
    (run_bind_ok (hvalue _)).trans (run_bind_error (run_bind_error (run_bind_error hfield)))
  have hcut : ∀ bs, CompactSize.IsCut bs →
      Wire.readFrom read (value ++ bs) = .error .truncatedInput := by
    intro bs hbs
    have houtput : IsCut (value ++ bs) := .inr ⟨value, bs, rfl, rfl, .inl hbs⟩
    rw [Wire.readFrom, run_read_of_isCut houtput]
  have hfour : Wire.readFrom read (value ++ [0xfe, 0xff]) = .error .truncatedInput :=
    hcut _ fun first hfirst => by cases hfirst; decide
  have height : Wire.readFrom read (value ++ [0xff, 0x01]) = .error .truncatedInput :=
    hcut _ fun first hfirst => by cases hfirst; decide
  obtain ⟨-, -, hviolation, -⟩ := read_final (value ++ [0xfd, 0x05, 0x00])
  obtain ⟨hmore, first, hfirst, hconsumed, -⟩ :=
    hviolation (.nonMinimal 5 3) (by rw [Wire.readFrom, hrefused])
  obtain ⟨hfront, hcompletes⟩ := (read_final (value ++ [0xfe, 0xff])).2.2.2 hfour
  obtain ⟨-, hnever⟩ := (read_final (value ++ [0xff, 0x01])).2.2.2 height
  refine ⟨?_, ?_, ?_, ?_, ?_⟩
  · intro more
    rw [hmore more, hrefused]
    rfl
  · cases hfirst
    exact hconsumed
  · exact hcompletes.mpr fun hwide => absurd hwide.1 (by decide)
  · exact hfront value (List.prefix_append value _)
  · intro more out hok
    exact hnever.mp ⟨more, out, hok⟩ ⟨by decide, by decide⟩

end TxOut

end BitcoinCash
