import BitcoinCash.Proofs.Wire.RoundTrip

/-! # One wire form for each value

  A byte string from which a value is read begins with the bytes that are written for that value,
  and these are the ones that the reading takes.

  - **`run_bind_eq_ok_iff`** takes a computation apart: it succeeds exactly if its steps do.
  - **Each reader** has one lemma that ends in `eq_ok_iff`: it gives a value exactly on the byte
    strings that begin with the wire form of that value. For compact sizes this is the rule that no
    number is longer than it has to be (`CompactSize.run_read_eq_ok_iff`).
  - **`TxOut.read_canonical`** is the main statement: an output that is read is written again as it
    was, so that equal outputs have the same bytes.
-/

namespace BitcoinCash

/-! ## Computations that succeed -/

section Run

variable {σ α β : Type} {s s' s'' : σ}

/-- **A computation of two steps succeeds** exactly if the first one does and the second one does
    from there. -/
theorem run_bind_eq_ok_iff {x : ExceptT WireError (StateM σ) α}
    {f : α → ExceptT WireError (StateM σ) β} {b : β} :
    (x >>= f).run s = (.ok b, s'') ↔
      ∃ a s', x.run s = (.ok a, s') ∧ (f a).run s' = (.ok b, s'') := by
  constructor
  · intro h
    rcases hx : x.run s with ⟨result, s'⟩
    cases result with
    | ok a =>
      rw [run_bind_ok hx] at h
      exact ⟨a, s', rfl, h⟩
    | error e =>
      rw [run_bind_error hx] at h
      cases h
  · intro ⟨a, s', hx, hf⟩
    rw [run_bind_ok hx, hf]

/-- A result that is there already leaves the state alone. -/
theorem run_pure_eq_ok_iff {a b : α} :
    (pure a : ExceptT WireError (StateM σ) α).run s = (.ok b, s') ↔ a = b ∧ s = s' := by
  show ((Except.ok a : Except WireError α), s) = (.ok b, s') ↔ _
  rw [Prod.mk.injEq, Except.ok.injEq]

/-- A refusal is no success. -/
theorem run_throw_ne_ok {e : WireError} {a : α} :
    (throw e : ExceptT WireError (StateM σ) α).run s ≠ (.ok a, s') := by
  show ((Except.error e : Except WireError α), s) ≠ (.ok a, s')
  simp

end Run

namespace Reading

variable {bs rest : Bytes}

/-- The bytes that are asked for are the first ones. -/
theorem run_bytes_eq_ok_iff {n : Nat} {taken : Bytes} :
    (Reading.bytes n).run bs = (.ok taken, rest) ↔ taken.length = n ∧ bs = taken ++ rest := by
  constructor
  · intro h
    change getBytes n bs = _ at h
    rw [getBytes_bytes] at h
    split at h
    · next hle =>
      cases h
      exact ⟨List.length_take_of_le hle, (List.take_append_drop n bs).symm⟩
    · simp at h
  · intro ⟨hlen, hbs⟩
    rw [hbs]
    exact takes_bytes hlen rest

theorem run_byte_eq_ok_iff {b : UInt8} :
    Reading.byte.run bs = (.ok b, rest) ↔ bs = b :: rest := by
  constructor
  · intro h
    obtain ⟨taken, left, hbytes, hpure⟩ := run_bind_eq_ok_iff.mp h
    obtain ⟨hlen, hbs⟩ := run_bytes_eq_ok_iff.mp hbytes
    obtain ⟨hb, hleft⟩ := run_pure_eq_ok_iff.mp hpure
    obtain ⟨c, hc⟩ := List.length_eq_one_iff.mp hlen
    rw [hc] at hb
    rw [hbs, hc, hleft, ← hb]
    rfl
  · intro h
    rw [h]
    exact takes_byte b rest

end Reading

/-! ## Compact sizes -/

namespace CompactSize

/-- A first byte that announces more bytes is the marker of the width that it announces. -/
theorem marker?_widthOfFirst {first : UInt8} (h : 1 < widthOfFirst first) :
    marker? (widthOfFirst first) = some first := by
  unfold widthOfFirst at h ⊢
  by_cases h1 : first ≤ 0xfc
  · rw [if_pos h1] at h
    exact absurd h (by decide)
  rw [if_neg h1]
  by_cases h2 : first = 0xfd
  · rw [if_pos h2, h2]
    rfl
  rw [if_neg h2]
  by_cases h3 : first = 0xfe
  · rw [if_pos h3, h3]
    rfl
  rw [if_neg h3]
  -- Of the bytes above `fc`, only `ff` is left.
  have hff : first = 0xff := by
    apply UInt8.toNat.inj
    have hlow : ¬first.toNat ≤ 0xfc := fun hle => h1 (UInt8.le_iff_toNat_le.mpr hle)
    have hfd : first.toNat ≠ 0xfd := fun heq => h2 (UInt8.toNat.inj heq)
    have hfe : first.toNat ≠ 0xfe := fun heq => h3 (UInt8.toNat.inj heq)
    have hlt := first.toNat_lt
    show first.toNat = 0xff
    omega
  rw [hff]
  rfl

/-- A first byte that announces nothing more is not a marker. -/
theorem le_of_widthOfFirst {first : UInt8} (h : ¬1 < widthOfFirst first) : first ≤ 0xfc := by
  by_cases hsmall : first ≤ 0xfc
  · exact hsmall
  -- Any other byte announces at least two more.
  unfold widthOfFirst at h
  rw [if_neg hsmall] at h
  split at h
  · exact absurd (by decide) h
  · split at h <;> exact absurd (by decide) h

/-- A first byte that announces nothing more is the whole form of its number. -/
theorem encode_toUInt64 {first : UInt8} (h : ¬1 < widthOfFirst first) :
    encode first.toUInt64 = [first] := by
  have hsmall := le_of_widthOfFirst h
  have hwidth : width first.toUInt64 = 1 := by
    unfold width
    apply if_pos
    rw [UInt64.le_iff_toNat_le, UInt8.toNat_toUInt64]
    exact UInt8.le_iff_toNat_le.mp hsmall
  unfold encode
  rw [hwidth]
  show [first.toUInt64.toUInt8] = [first]
  rw [UInt8.toUInt8_toUInt64]

/-- A number that fits into the bytes after a marker is not wider than the marker says. -/
theorem width_le_of_lt {declared : Nat} {m : UInt8} {n : UInt64} (hm : marker? declared = some m)
    (hn : n.toNat < 256 ^ (declared - 1)) : width n ≤ declared := by
  unfold marker? at hm
  split at hm
  · have hle : n ≤ 0xffff := UInt64.le_iff_toNat_le.mpr (Nat.le_of_lt_succ hn)
    unfold width
    rw [if_pos hle]
    split <;> decide
  · have hle : n ≤ 0xffffffff := UInt64.le_iff_toNat_le.mpr (Nat.le_of_lt_succ hn)
    unfold width
    rw [if_pos hle]
    split
    · decide
    · split <;> decide
  · exact width_le n
  · simp at hm

/-- **A marker and the bytes after it** are the form of their number, if that number is as wide as
    the marker says. -/
theorem encode_ofLittleEndian {declared : Nat} {m : UInt8} {body : Bytes}
    (hm : marker? declared = some m) (hlen : body.length = declared - 1)
    (hwide : declared ≤ width (UInt64.ofNat (Bytes.ofLittleEndian body))) :
    encode (UInt64.ofNat (Bytes.ofLittleEndian body)) = m :: body := by
  have hfits : Bytes.ofLittleEndian body < 256 ^ (declared - 1) := by
    rw [← hlen]
    exact Bytes.ofLittleEndian_lt body
  have hword : 256 ^ (declared - 1) ≤ UInt64.size := by
    unfold marker? at hm
    split at hm
    · decide
    · decide
    · decide
    · simp at hm
  have hnumber : (UInt64.ofNat (Bytes.ofLittleEndian body)).toNat = Bytes.ofLittleEndian body :=
    UInt64.toNat_ofNat_of_lt' (Nat.lt_of_lt_of_le hfits hword)
  have hwidth : width (UInt64.ofNat (Bytes.ofLittleEndian body)) = declared := by
    apply Nat.le_antisymm _ hwide
    apply width_le_of_lt hm
    rw [hnumber]
    exact hfits
  unfold encode
  rw [hwidth, hm, hnumber, ← hlen, Bytes.littleEndian_ofLittleEndian]

/-- A number passes the check of its width exactly if it is wide enough. -/
theorem run_checkWidth_eq_ok_iff {declared : Nat} {m n : UInt64} {bs rest : Bytes} :
    (checkWidth declared m).run bs = (.ok n, rest) ↔
      declared ≤ width m ∧ m = n ∧ bs = rest := by
  unfold checkWidth
  by_cases hnarrow : width m < declared
  · rw [if_pos hnarrow]
    constructor
    · intro h
      exact absurd h run_throw_ne_ok
    · intro ⟨hwide, _⟩
      omega
  · rw [if_neg hnarrow, run_pure_eq_ok_iff]
    constructor
    · intro h
      exact ⟨Nat.le_of_not_lt hnarrow, h⟩
    · intro h
      exact h.2

/-- **A compact size is read exactly from its own form**, which is the shortest one. -/
theorem run_read_eq_ok_iff {n : UInt64} {bs rest : Bytes} :
    read.run bs = (.ok n, rest) ↔ bs = encode n ++ rest := by
  constructor
  · intro h
    rw [read_eq] at h
    obtain ⟨first, left, hbyte, hmore⟩ := run_bind_eq_ok_iff.mp h
    have hbs : bs = first :: left := Reading.run_byte_eq_ok_iff.mp hbyte
    by_cases hmarked : 1 < widthOfFirst first
    · -- The first byte is a marker, and the number stands behind it.
      rw [if_pos hmarked] at hmore
      obtain ⟨body, left', hbody, hcheck⟩ := run_bind_eq_ok_iff.mp hmore
      obtain ⟨hlen, hleft⟩ := Reading.run_bytes_eq_ok_iff.mp hbody
      obtain ⟨hwide, hn, hrest⟩ := run_checkWidth_eq_ok_iff.mp hcheck
      have hform := encode_ofLittleEndian (marker?_widthOfFirst hmarked) hlen hwide
      rw [hbs, hleft, hrest, ← hn, hform]
      rfl
    · -- The first byte is the number.
      rw [if_neg hmarked] at hmore
      obtain ⟨-, hn, hrest⟩ := run_checkWidth_eq_ok_iff.mp hmore
      rw [hbs, hrest, ← hn, encode_toUInt64 hmarked]
      rfl
  · intro h
    rw [h]
    exact takes_read n rest

end CompactSize

/-! ## Integers and byte vectors -/

namespace Wire

variable {bs rest : Bytes}

theorem run_readUInt64_eq_ok_iff {n : UInt64} :
    readUInt64.run bs = (.ok n, rest) ↔ bs = Bytes.littleEndian 8 n.toNat ++ rest := by
  constructor
  · intro h
    obtain ⟨taken, left, hbytes, hpure⟩ := run_bind_eq_ok_iff.mp h
    obtain ⟨hlen, hbs⟩ := Reading.run_bytes_eq_ok_iff.mp hbytes
    obtain ⟨hn, hleft⟩ := run_pure_eq_ok_iff.mp hpure
    have hfits : Bytes.ofLittleEndian taken < UInt64.size := by
      have hlt := Bytes.ofLittleEndian_lt taken
      rw [hlen] at hlt
      exact hlt
    have hform : Bytes.littleEndian 8 n.toNat = taken := by
      rw [← hn, UInt64.toNat_ofNat_of_lt' hfits, ← hlen, Bytes.littleEndian_ofLittleEndian]
    rw [hbs, hform, hleft]
  · intro h
    rw [h]
    exact takes_readUInt64 n rest

theorem run_readInt64_eq_ok_iff {v : Int64} :
    readInt64.run bs = (.ok v, rest) ↔ bs = Bytes.littleEndian 8 v.toUInt64.toNat ++ rest := by
  constructor
  · intro h
    obtain ⟨n, left, hread, hpure⟩ := run_bind_eq_ok_iff.mp h
    obtain ⟨hv, hleft⟩ := run_pure_eq_ok_iff.mp hpure
    rw [run_readUInt64_eq_ok_iff.mp hread, hleft, ← hv]
    rfl
  · intro h
    rw [h]
    exact takes_readInt64 v rest

/-- **A byte vector is read exactly from its own form**, and only if it is within the limit. -/
theorem run_readVector_eq_ok_iff {v : Bytes} :
    readVector.run bs = (.ok v, rest) ↔
      v.length ≤ maxVectorLength.toNat ∧ bs = vectorBytes v ++ rest := by
  constructor
  · intro h
    obtain ⟨declared, left, hread, hmore⟩ := run_bind_eq_ok_iff.mp h
    have hbs := CompactSize.run_read_eq_ok_iff.mp hread
    by_cases hlimit : maxVectorLength < declared
    · rw [if_pos hlimit] at hmore
      exact absurd hmore run_throw_ne_ok
    · rw [if_neg hlimit] at hmore
      obtain ⟨hlen, hleft⟩ := Reading.run_bytes_eq_ok_iff.mp hmore
      have hdeclared : UInt64.ofNat v.length = declared := by
        rw [hlen, UInt64.ofNat_toNat]
      refine ⟨?_, ?_⟩
      · rw [hlen]
        exact UInt64.le_iff_toNat_le.mp (UInt64.not_lt.mp hlimit)
      · rw [hbs, hleft, vectorBytes, hdeclared, List.append_assoc]
  · intro h
    obtain ⟨hlimit, hbs⟩ := h
    rw [hbs]
    exact takes_readVector hlimit rest

end Wire

/-! ## Scripts and outputs -/

namespace Script

theorem run_read_eq_ok_iff {s : Script} {bs rest : Bytes} :
    read.run bs = (.ok s, rest) ↔
      s.length ≤ Wire.maxVectorLength.toNat ∧ bs = Wire.vectorBytes s.bytes ++ rest := by
  constructor
  · intro h
    obtain ⟨v, left, hread, hpure⟩ := run_bind_eq_ok_iff.mp h
    obtain ⟨hs, hleft⟩ := run_pure_eq_ok_iff.mp hpure
    rw [← hs, ← hleft]
    exact Wire.run_readVector_eq_ok_iff.mp hread
  · intro ⟨hlimit, hbs⟩
    rw [hbs]
    exact takes_read hlimit rest

end Script

namespace TxOut

/-- **An output is read exactly from its wire form.** Its script is within the limit, and nothing is
    remembered of it yet. -/
theorem run_read_eq_ok_iff {out : TxOut} {bs rest : Bytes} :
    read.run bs = (.ok out, rest) ↔
      out.remembered = none ∧ out.script.length ≤ Wire.maxVectorLength.toNat ∧
        bs = out.toWire ++ rest := by
  constructor
  · intro h
    obtain ⟨value, left, hvalue, hmore⟩ := run_bind_eq_ok_iff.mp h
    obtain ⟨script, left', hscript, hpure⟩ := run_bind_eq_ok_iff.mp hmore
    obtain ⟨hout, hrest⟩ := run_pure_eq_ok_iff.mp hpure
    obtain ⟨hlimit, hleft⟩ := Script.run_read_eq_ok_iff.mp hscript
    have hbs := Wire.run_readInt64_eq_ok_iff.mp hvalue
    rw [← hout]
    refine ⟨rfl, hlimit, ?_⟩
    rw [toWire_eq, hbs, hleft, hrest, List.append_assoc]
    rfl
  · intro ⟨hnew, hlimit, hbs⟩
    have hout : new out.value out.script = out := by
      unfold new
      rw [← hnew]
    rw [hbs, takes_read hlimit rest, hout]

/-- The bytes of an output depend on what its equality looks at. -/
theorem toWire_eq_of_beq {out out' : TxOut} (h : (out == out') = true) :
    out.toWire = out'.toWire := by
  change (out.value == out'.value && out.script == out'.script) = true at h
  obtain ⟨hvalue, hscript⟩ := Bool.and_eq_true_iff.mp h
  rw [toWire_eq, toWire_eq, eq_of_beq hvalue, eq_of_beq hscript]

end TxOut

/-! ## What a reading takes -/

namespace Wire

/-- The count of bytes that a reading takes off the front of a byte string. -/
def consumed {α : Type} (reading : Reading Bytes α) (bs : Bytes) : Nat :=
  bs.length - (reading.run bs).2.length

section Consumed

variable {α : Type} {reading : Reading Bytes α} {result : Except WireError α}

/-- A verdict comes with some bytes that are left. -/
theorem exists_run_of_readFrom {bs : Bytes} (h : readFrom reading bs = result) :
    ∃ rest, reading.run bs = (result, rest) :=
  ⟨(reading.run bs).2, Prod.ext h rfl⟩

/-- **What is not left has been taken.** -/
theorem consumed_append {taken rest : Bytes} (h : reading.run (taken ++ rest) = (result, rest)) :
    consumed reading (taken ++ rest) = taken.length ∧
      (taken ++ rest).take (consumed reading (taken ++ rest)) = taken ∧
      (reading.run (taken ++ rest)).2 = (taken ++ rest).drop (consumed reading (taken ++ rest)) := by
  have hcount : consumed reading (taken ++ rest) = taken.length := by
    rw [consumed, h, List.length_append]
    exact Nat.add_sub_cancel _ _
  refine ⟨hcount, ?_, ?_⟩
  · rw [hcount, List.take_left]
  · rw [h, hcount, List.drop_left]

end Consumed

end Wire

namespace TxOut

/-- An output that is read takes its wire form and leaves what follows it. -/
theorem consumed_of_readFrom {out : TxOut} {bs : Bytes} (h : Wire.readFrom read bs = .ok out) :
    Wire.consumed read bs = out.wireLength ∧
      bs.take (Wire.consumed read bs) = out.toWire ∧
      (read.run bs).2 = bs.drop (Wire.consumed read bs) := by
  obtain ⟨rest, hrun⟩ := Wire.exists_run_of_readFrom h
  obtain ⟨-, -, rfl⟩ := run_read_eq_ok_iff.mp hrun
  rw [← length_toWire]
  exact Wire.consumed_append hrun

/-- **Outputs have one wire form.** An output that is read from a byte string is as long as the bytes
    that the reading takes, writing it gives exactly these bytes again, and those that follow are
    left. Two byte strings that give equal outputs therefore agree on what is taken of them. -/
theorem read_canonical :
    (∀ (bs : Bytes) (out : TxOut), Wire.readFrom read bs = .ok out →
      out.wireLength = Wire.consumed read bs ∧
      out.write.run [] =
        (.ok (Wire.consumed read bs), bs.take (Wire.consumed read bs)) ∧
      (read.run bs).2 = bs.drop (Wire.consumed read bs)) ∧
    ∀ (bs bs' : Bytes) (out out' : TxOut), Wire.readFrom read bs = .ok out →
      Wire.readFrom read bs' = .ok out' → (out == out') = true →
        bs.take (Wire.consumed read bs) = bs'.take (Wire.consumed read bs') := by
  constructor
  · intro bs out h
    obtain ⟨hcount, htaken, hleft⟩ := consumed_of_readFrom h
    refine ⟨hcount.symm, ?_, hleft⟩
    rw [htaken, hcount, out.puts_write [], List.nil_append]
  · intro bs bs' out out' h h' hsame
    obtain ⟨-, htaken, -⟩ := consumed_of_readFrom h
    obtain ⟨-, htaken', -⟩ := consumed_of_readFrom h'
    rw [htaken, htaken', toWire_eq_of_beq hsame]

/-- A data carrier with other bytes behind it each time. -/
theorem read_canonical_dataCarrier :
    let form : Bytes := [0, 0, 0, 0, 0, 0, 0, 0, 0x04, 0x6a, 0x02, 0x01, 0x02]
    Wire.readFrom read (form ++ [0xab]) = .ok (dataCarrier [1, 2]) ∧
      (dataCarrier [1, 2]).wireLength = Wire.consumed read (form ++ [0xab]) ∧
      (form ++ [0xab]).take (Wire.consumed read (form ++ [0xab])) =
        (form ++ [0xcd, 0xef]).take (Wire.consumed read (form ++ [0xcd, 0xef])) := by
  intro form
  have hform : (dataCarrier [1, 2]).toWire = form := by
    rw [toWire_eq]
    decide
  have hread : ∀ rest, Wire.readFrom read (form ++ rest) = .ok (dataCarrier [1, 2]) := by
    intro rest
    rw [← hform, Wire.readFrom, takes_read (by decide) rest]
    rfl
  refine ⟨hread _, (read_canonical.1 _ _ (hread _)).1, ?_⟩
  exact read_canonical.2 _ _ _ _ (hread _) (hread _) (by decide)

end TxOut

end BitcoinCash
