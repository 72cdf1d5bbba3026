import BitcoinCash.Bytes.Lemmas
import BitcoinCash.Wire.HexForm

/-! # What is written is read back

  Each value of the wire format is read back from the bytes that are written for it, whatever
  bytes follow, and those that follow are left alone.

  - **`Reading.Takes`** says that a computation takes exactly the given bytes off the front of any
    byte string that begins with them. It is kept by `>>=`, so each reader needs one line for each
    of its parts.
  - **`Writing.Puts`** says the same of a computation that appends.
  - **The parts of an output**, from compact sizes up, each have one lemma `puts_write` and one
    lemma `takes_read`. A script beyond the limit is refused as soon as its length is read
    (`TxOut.run_read_of_limit_lt`).
-/

namespace BitcoinCash

/-! ## Running step by step -/

section Run

variable {σ α β : Type} {s s' : σ}

/-- A step that succeeds hands its result and its state on. -/
theorem run_bind_ok {x : ExceptT WireError (StateM σ) α} {f : α → ExceptT WireError (StateM σ) β}
    {a : α} (h : x.run s = (.ok a, s')) : (x >>= f).run s = (f a).run s' := by
  show (ExceptT.bindCont f (x.run s).1).run (x.run s).2 = _
  rw [h]
  rfl

/-- A step that fails ends the computation. -/
theorem run_bind_error {x : ExceptT WireError (StateM σ) α} {f : α → ExceptT WireError (StateM σ) β}
    {e : WireError} (h : x.run s = (.error e, s')) : (x >>= f).run s = (.error e, s') := by
  show (ExceptT.bindCont f (x.run s).1).run (x.run s).2 = _
  rw [h]
  rfl

end Run

section Predicates

variable {α β : Type}

/-- **The computation takes exactly `bs`** off the front and gives `a`, whatever follows. -/
def Reading.Takes (x : Reading Bytes α) (bs : Bytes) (a : α) : Prop :=
  ∀ rest, x.run (bs ++ rest) = (.ok a, rest)

/-- **The computation appends exactly `bs`** and gives `a`, whatever is there already. -/
def Writing.Puts (x : Writing Bytes α) (bs : Bytes) (a : α) : Prop :=
  ∀ s, x.run s = (.ok a, s ++ bs)

theorem Reading.Takes.pure (a : α) : Reading.Takes (pure a) [] a := fun _ => rfl

theorem Writing.Puts.pure (a : α) : Writing.Puts (pure a) [] a := by
  intro s
  rw [List.append_nil]
  rfl

/-- One computation after the other takes one string after the other. -/
theorem Reading.Takes.bind {x : Reading Bytes α} {f : α → Reading Bytes β} {bs bs' : Bytes} {a : α}
    {b : β} (hx : Takes x bs a) (hf : Takes (f a) bs' b) : Takes (x >>= f) (bs ++ bs') b := by
  intro rest
  rw [List.append_assoc, run_bind_ok (hx (bs' ++ rest))]
  exact hf rest

/-- One computation after the other appends one string after the other. -/
theorem Writing.Puts.bind {x : Writing Bytes α} {f : α → Writing Bytes β} {bs bs' : Bytes} {a : α}
    {b : β} (hx : Puts x bs a) (hf : Puts (f a) bs' b) : Puts (x >>= f) (bs ++ bs') b := by
  intro s
  rw [run_bind_ok (hx s), hf (s ++ bs), List.append_assoc]

/-- The result may be converted after the last byte. -/
theorem Reading.Takes.map {x : Reading Bytes α} {bs : Bytes} {a : α} (hx : Takes x bs a)
    (g : α → β) : Takes (x >>= fun y => Pure.pure (g y)) bs (g a) := by
  have h := hx.bind (f := fun y => Pure.pure (g y)) (Takes.pure (g a))
  rwa [List.append_nil] at h

theorem Writing.Puts.map {x : Writing Bytes α} {bs : Bytes} {a : α} (hx : Puts x bs a)
    (g : α → β) : Puts (x >>= fun y => Pure.pure (g y)) bs (g a) := by
  have h := hx.bind (f := fun y => Pure.pure (g y)) (Puts.pure (g a))
  rwa [List.append_nil] at h

theorem Reading.takes_bytes {n : Nat} {bs : Bytes} (h : bs.length = n) :
    Takes (Reading.bytes n) bs bs := by
  intro rest
  show getBytes n (bs ++ rest) = _
  rw [getBytes_bytes, List.length_append, if_pos (by omega), ← h, List.take_left, List.drop_left]

/-- Fewer bytes than are asked for are not enough. -/
theorem Reading.run_bytes_of_lt {n : Nat} {bs : Bytes} (h : bs.length < n) :
    (Reading.bytes n).run bs = (.error .truncatedInput, []) := by
  show getBytes n bs = _
  rw [getBytes_bytes, if_neg (Nat.not_le_of_lt h)]

theorem Reading.takes_byte (b : UInt8) : Takes Reading.byte [b] b :=
  have hlen : [b].length = 1 := rfl
  (takes_bytes hlen).map fun bs => bs.headD 0

theorem Writing.puts_once (bs : Bytes) : Puts (Writing.once bs) bs bs.length := putOnce_bytes bs

theorem Writing.puts_all (bs : Bytes) : Puts (Writing.all bs) bs () := putAll_bytes bs

end Predicates

/-! ## Compact sizes -/

namespace CompactSize

/-- **The four widths**, each with the greatest number that is written in it. -/
theorem width_cases (n : UInt64) :
    (width n = 1 ∧ n.toNat ≤ 0xfc) ∨ (width n = 3 ∧ n.toNat ≤ 0xffff) ∨
      (width n = 5 ∧ n.toNat ≤ 0xffffffff) ∨ width n = 9 := by
  unfold width
  by_cases h1 : n ≤ 0xfc
  · exact .inl ⟨if_pos h1, UInt64.le_iff_toNat_le.mp h1⟩
  rw [if_neg h1]
  by_cases h2 : n ≤ 0xffff
  · exact .inr (.inl ⟨if_pos h2, UInt64.le_iff_toNat_le.mp h2⟩)
  rw [if_neg h2]
  by_cases h3 : n ≤ 0xffffffff
  · exact .inr (.inr (.inl ⟨if_pos h3, UInt64.le_iff_toNat_le.mp h3⟩))
  · exact .inr (.inr (.inr (if_neg h3)))

/-- No number is wider than nine bytes. -/
theorem width_le (n : UInt64) : width n ≤ 9 := by
  have hwidth := width_cases n
  omega

/-- A number without a marker is its own only byte. -/
theorem marker?_eq_none {n : UInt64} (h : marker? (width n) = none) :
    width n = 1 ∧ widthOfFirst n.toUInt8 = 1 ∧ n.toUInt8.toUInt64 = n := by
  rcases width_cases n with ⟨hw, hn⟩ | ⟨hw, -⟩ | ⟨hw, -⟩ | hw
  · have hlow : n.toUInt8.toNat = n.toNat := by
      rw [UInt64.toNat_toUInt8]
      omega
    refine ⟨hw, if_pos (UInt8.le_iff_toNat_le.mpr ?_), UInt64.toNat.inj ?_⟩
    · rw [hlow]
      exact hn
    · rw [UInt8.toNat_toUInt64, hlow]
  -- Any other width has a marker.
  all_goals
    rw [hw] at h
    exact absurd h (by decide)

/-- A number with a marker fits into the bytes that the marker announces. -/
theorem marker?_eq_some {n : UInt64} {m : UInt8} (h : marker? (width n) = some m) :
    widthOfFirst m = width n ∧ 1 < width n ∧ n.toNat < 256 ^ (width n - 1) := by
  have hn64 := n.toNat_lt
  rcases width_cases n with ⟨hw, -⟩ | ⟨hw, hn⟩ | ⟨hw, hn⟩ | hw
  all_goals
    rw [hw] at h ⊢
    cases h
  · exact ⟨rfl, by decide, by omega⟩
  · exact ⟨rfl, by decide, by omega⟩
  · exact ⟨rfl, by decide, by omega⟩

/-- The marker and what follows it are as long as the width says. -/
theorem length_cons_littleEndian {n : UInt64} {m : UInt8} (h : marker? (width n) = some m) :
    (m :: Bytes.littleEndian (width n - 1) n.toNat).length = width n := by
  have hlt := (marker?_eq_some h).2.1
  rw [List.length_cons, Bytes.length_littleEndian]
  omega

@[simp] theorem length_encode (n : UInt64) : (encode n).length = width n := by
  unfold encode
  cases h : marker? (width n) with
  | none => exact (marker?_eq_none h).1.symm
  | some m => exact length_cons_littleEndian h

/-- Writing a compact size appends its bytes. -/
theorem puts_write (n : UInt64) : Writing.Puts (write n) (encode n) (width n) := by
  unfold write encode
  cases h : marker? (width n) with
  | none =>
    rw [(marker?_eq_none h).1]
    exact Writing.puts_once [n.toUInt8]
  | some m =>
    have hlen : 1 + (Bytes.littleEndian (width n - 1) n.toNat).length = width n := by
      rw [Nat.add_comm]
      exact length_cons_littleEndian h
    have hbody := (Writing.puts_once (Bytes.littleEndian (width n - 1) n.toNat)).map (1 + ·)
    rw [hlen] at hbody
    exact (Writing.puts_once [m]).bind hbody

/-- The end of a reader: a number that was declared too wide is refused. -/
def checkWidth {σ : Type} (declared : Nat) (n : UInt64) : Reading σ UInt64 :=
  if width n < declared then throw (.protocolViolation (.nonMinimal n declared)) else pure n

/-- A reader reads the first byte, as many more as it announces, and checks the width. -/
theorem read_eq {σ : Type} [ByteSource σ] :
    (read : Reading σ UInt64) = Reading.byte >>= fun first =>
      if 1 < widthOfFirst first then
        Reading.bytes (widthOfFirst first - 1) >>= fun body =>
          checkWidth (widthOfFirst first) (UInt64.ofNat (Bytes.ofLittleEndian body))
      else checkWidth (widthOfFirst first) first.toUInt64 := rfl

/-- The written width passes the check. -/
theorem takes_checkWidth (n : UInt64) : Reading.Takes (checkWidth (width n) n) [] n := by
  unfold checkWidth
  rw [if_neg (Nat.lt_irrefl _)]
  exact .pure n

/-- **A compact size is read back**, and nothing more is read. -/
theorem takes_read (n : UInt64) : Reading.Takes read (encode n) n := by
  rw [read_eq]
  unfold encode
  cases h : marker? (width n) with
  | none =>
    -- The only byte says one byte, so nothing more is read.
    obtain ⟨hn, hfirst, hvalue⟩ := marker?_eq_none h
    have hcheck := takes_checkWidth n
    rw [hn] at hcheck
    show Reading.Takes _ ([n.toUInt8] ++ []) n
    refine (Reading.takes_byte n.toUInt8).bind ?_
    rw [hfirst, if_neg (Nat.lt_irrefl 1), hvalue]
    exact hcheck
  | some m =>
    -- The marker says how many bytes follow, and the number fits into them.
    obtain ⟨hfirst, hlt, hfits⟩ := marker?_eq_some h
    have hbody := Reading.takes_bytes (Bytes.length_littleEndian (width n - 1) n.toNat)
    show Reading.Takes _ ([m] ++ Bytes.littleEndian (width n - 1) n.toNat) n
    refine (Reading.takes_byte m).bind ?_
    rw [hfirst, if_pos hlt, ← List.append_nil (Bytes.littleEndian (width n - 1) n.toNat)]
    refine hbody.bind ?_
    rw [Bytes.ofLittleEndian_littleEndian hfits, UInt64.ofNat_toNat]
    exact takes_checkWidth n

end CompactSize

/-! ## Integers and byte vectors -/

namespace Wire

theorem puts_writeUInt64 (n : UInt64) :
    Writing.Puts (writeUInt64 n) (Bytes.littleEndian 8 n.toNat) 8 := by
  have h := Writing.puts_once (Bytes.littleEndian 8 n.toNat)
  rwa [Bytes.length_littleEndian] at h

theorem takes_readUInt64 (n : UInt64) :
    Reading.Takes readUInt64 (Bytes.littleEndian 8 n.toNat) n := by
  have hbytes := Reading.takes_bytes (Bytes.length_littleEndian 8 n.toNat)
  have h := hbytes.map fun bs => UInt64.ofNat (Bytes.ofLittleEndian bs)
  rwa [Bytes.ofLittleEndian_littleEndian n.toNat_lt, UInt64.ofNat_toNat] at h

theorem takes_readInt64 (v : Int64) :
    Reading.Takes readInt64 (Bytes.littleEndian 8 v.toUInt64.toNat) v :=
  (takes_readUInt64 v.toUInt64).map UInt64.toInt64

/-- The bytes of a byte vector. -/
def vectorBytes (bs : Bytes) : Bytes :=
  CompactSize.encode (UInt64.ofNat bs.length) ++ bs

@[simp] theorem length_vectorBytes (bs : Bytes) :
    (vectorBytes bs).length = CompactSize.width (UInt64.ofNat bs.length) + bs.length := by
  rw [vectorBytes, List.length_append, CompactSize.length_encode]

theorem puts_writeVector (bs : Bytes) :
    Writing.Puts (writeVector bs) (vectorBytes bs)
      (CompactSize.width (UInt64.ofNat bs.length) + bs.length) :=
  (CompactSize.puts_write _).bind ((Writing.puts_all bs).map fun _ =>
    CompactSize.width (UInt64.ofNat bs.length) + bs.length)

/-- **A byte vector within the limit is read back.** -/
theorem takes_readVector {bs : Bytes} (h : bs.length ≤ maxVectorLength.toNat) :
    Reading.Takes readVector (vectorBytes bs) bs := by
  have hdeclared : (UInt64.ofNat bs.length).toNat = bs.length :=
    UInt64.toNat_ofNat_of_lt' (Nat.lt_of_le_of_lt h maxVectorLength.toNat_lt)
  have hle : ¬ maxVectorLength < UInt64.ofNat bs.length := by
    rw [UInt64.lt_iff_toNat_lt, hdeclared]
    omega
  refine (CompactSize.takes_read _).bind ?_
  rw [if_neg hle]
  exact Reading.takes_bytes hdeclared.symm

/-- **A byte vector beyond the limit is refused**, and none of its bytes is read. -/
theorem run_readVector_of_limit_lt {bs : Bytes} (hlimit : maxVectorLength.toNat < bs.length)
    (hsize : bs.length < UInt64.size) (rest : Bytes) :
    readVector.run (vectorBytes bs ++ rest) =
      (.error (.protocolViolation (.lengthTooLarge (UInt64.ofNat bs.length) maxVectorLength)),
        bs ++ rest) := by
  have hdeclared : (UInt64.ofNat bs.length).toNat = bs.length := UInt64.toNat_ofNat_of_lt' hsize
  have hlt : maxVectorLength < UInt64.ofNat bs.length := by
    rw [UInt64.lt_iff_toNat_lt, hdeclared]
    exact hlimit
  unfold readVector vectorBytes
  rw [List.append_assoc, run_bind_ok (CompactSize.takes_read _ _), if_pos hlt]
  rfl

end Wire

/-! ## Scripts and outputs -/

namespace Script

theorem puts_write (s : Script) :
    Writing.Puts s.write (Wire.vectorBytes s.bytes) s.wireLength :=
  Wire.puts_writeVector s.bytes

theorem toWire_eq (s : Script) : s.toWire = Wire.vectorBytes s.bytes := by
  unfold toWire Wire.written
  rw [s.puts_write []]
  rfl

theorem takes_read {s : Script} (h : s.length ≤ Wire.maxVectorLength.toNat) :
    Reading.Takes read (Wire.vectorBytes s.bytes) s :=
  (Wire.takes_readVector h).map Script.mk

end Script

namespace TxOut

/-- Writing an output appends its value and its script. -/
theorem puts_write_parts (out : TxOut) :
    Writing.Puts out.write
      (Bytes.littleEndian 8 out.value.toUInt64.toNat ++ Wire.vectorBytes out.script.bytes)
      out.wireLength :=
  (Wire.puts_writeUInt64 out.value.toUInt64).bind (out.script.puts_write.map (8 + ·))

theorem toWire_eq (out : TxOut) :
    out.toWire =
      Bytes.littleEndian 8 out.value.toUInt64.toNat ++ Wire.vectorBytes out.script.bytes := by
  unfold toWire Wire.written
  rw [puts_write_parts out []]
  rfl

/-- **Writing an output** succeeds, appends its wire form and reports the length of it. -/
theorem puts_write (out : TxOut) : Writing.Puts out.write out.toWire out.wireLength := by
  rw [toWire_eq]
  exact puts_write_parts out

@[simp] theorem length_toWire (out : TxOut) : out.toWire.length = out.wireLength := by
  rw [toWire_eq, List.length_append, Bytes.length_littleEndian, Wire.length_vectorBytes]
  rfl

/-- **An output is read back**, with nothing remembered of its script. -/
theorem takes_read {out : TxOut} (h : out.script.length ≤ Wire.maxVectorLength.toNat) :
    Reading.Takes read out.toWire (new out.value out.script) := by
  rw [toWire_eq]
  exact (Wire.takes_readInt64 out.value).bind ((Script.takes_read h).map (new out.value))

/-- What is remembered of a script makes no difference between outputs. -/
theorem new_beq (out : TxOut) : (new out.value out.script == out) = true := by
  show (out.value == out.value && out.script == out.script) = true
  rw [beq_self_eq_true, beq_self_eq_true]
  rfl

/-- **An output with a script beyond the limit is refused.** -/
theorem run_read_of_limit_lt {out : TxOut} (hlimit : Wire.maxVectorLength.toNat < out.script.length)
    (hsize : out.script.length < UInt64.size) (rest : Bytes) :
    read.run (out.toWire ++ rest) =
      (.error (.protocolViolation
        (.lengthTooLarge (UInt64.ofNat out.script.length) Wire.maxVectorLength)),
        out.script.bytes ++ rest) := by
  rw [toWire_eq, List.append_assoc]
  unfold read
  rw [run_bind_ok (Wire.takes_readInt64 out.value _)]
  -- The script is a byte vector, and its refusal ends both computations around it.
  exact run_bind_error (run_bind_error (Wire.run_readVector_of_limit_lt hlimit hsize rest))

end TxOut

end BitcoinCash
