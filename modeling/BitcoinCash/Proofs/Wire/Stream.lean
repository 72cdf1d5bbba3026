import BitcoinCash.Proofs.Wire.RoundTrip
import Mathlib.Algebra.GroupWithZero.Nat

/-! # Streams of outputs

  Outputs are written one after another without anything between them, and a reader finds where
  each of them ends.

  - **`TxOut.writeAll`** writes a list of outputs.
  - **`Wire.readEach`** reads a number of times and notes how many bytes each reading took.
  - **A stream is read back** output by output, and what follows it is left alone
    (`TxOut.readEach_writeAll`).
-/

namespace BitcoinCash

/-! ## Reading several times -/

namespace Wire

variable {α ι : Type}

/-- Reads `n` times from what is left each time. Every reading is noted with its result and the
    count of the bytes that it took, be it a success or not. -/
def readEach (reading : Reading Bytes α) :
    (n : Nat) → Bytes → List (Except WireError α × Nat) × Bytes
  | 0, bs => ([], bs)
  | n + 1, bs =>
    let (result, rest) := reading.run bs
    let (results, left) := readEach reading n rest
    ((result, bs.length - rest.length) :: results, left)

/-- **One step**: a reading that takes exactly `bs` leaves the others what follows. -/
theorem readEach_succ_of_takes {reading : Reading Bytes α} {bs : Bytes} {a : α}
    (h : reading.Takes bs a) (n : Nat) (rest : Bytes) :
    readEach reading (n + 1) (bs ++ rest) =
      ((.ok a, bs.length) :: (readEach reading n rest).1, (readEach reading n rest).2) := by
  have hcount : (bs ++ rest).length - rest.length = bs.length := by
    rw [List.length_append]
    omega
  rw [readEach, h rest]
  show ((Except.ok a, (bs ++ rest).length - rest.length) :: _, _) = _
  rw [hcount]

/-- **The whole run**: forms that are taken one by one are also taken in a row. -/
theorem readEach_flatMap {reading : Reading Bytes α} {form : ι → Bytes} {value : ι → α}
    {xs : List ι} (h : ∀ x ∈ xs, reading.Takes (form x) (value x)) (trailing : Bytes) :
    readEach reading xs.length (xs.flatMap form ++ trailing) =
      (xs.map fun x => (.ok (value x), (form x).length), trailing) := by
  induction xs with
  | nil => rfl
  | cons x xs ih =>
    have hx : reading.Takes (form x) (value x) := h x (List.mem_cons_self ..)
    have hxs := ih fun y hy => h y (List.mem_cons_of_mem _ hy)
    rw [List.flatMap_cons, List.append_assoc, List.length_cons, readEach_succ_of_takes hx, hxs]
    rfl

end Wire

/-! ## Outputs in a row -/

namespace TxOut

/-- Writes outputs one after another. The result is the count of bytes that were accepted. -/
def writeAll {σ : Type} [ByteSink σ] : List TxOut → Writing σ Nat
  | [] => pure 0
  | out :: outs => do
    let a ← out.write
    let b ← writeAll outs
    return a + b

/-- Writing outputs appends their wire forms in order. -/
theorem puts_writeAll (outs : List TxOut) :
    Writing.Puts (writeAll outs) (outs.flatMap toWire) (outs.map wireLength).sum := by
  induction outs with
  | nil => exact .pure 0
  | cons out outs ih => exact out.puts_write.bind (ih.map (out.wireLength + ·))

theorem run_writeAll (outs : List TxOut) :
    (writeAll outs).run [] = (.ok (outs.map wireLength).sum, outs.flatMap toWire) :=
  puts_writeAll outs []

theorem map_new_beq (outs : List TxOut) :
    ((outs.map fun out => new out.value out.script) == outs) = true := by
  induction outs with
  | nil => rfl
  | cons out outs ih =>
    show (new out.value out.script == out && _ == outs) = true
    rw [new_beq, ih]
    rfl

/-- **Streams of outputs lose nothing and end by themselves.**

    - Outputs with scripts within the limit are all written, and as many readings give the same
      outputs back. Each takes the wire length of its output, and the last one stops where the
      trailing bytes begin.
    - An output with a script beyond the limit is written too, but it is not read back. Scripts of
      2^64 bytes and more, whose lengths no machine word holds, do not exist. -/
theorem readEach_writeAll :
    (∀ (outs : List TxOut) (trailing : Bytes),
      (∀ out ∈ outs, out.script.length ≤ Wire.maxVectorLength.toNat) →
        (writeAll outs).run [] =
          (.ok (outs.map wireLength).sum, Wire.written (writeAll outs)) ∧
        Wire.readEach read outs.length (Wire.written (writeAll outs) ++ trailing) =
          (outs.map fun out => (.ok (new out.value out.script), out.wireLength), trailing) ∧
        ((outs.map fun out => new out.value out.script) == outs) = true) ∧
    ∀ out : TxOut, Wire.maxVectorLength.toNat < out.script.length →
      out.script.length < UInt64.size →
        out.write.run [] = (.ok out.wireLength, out.toWire) ∧
        Wire.readFrom read out.toWire =
          .error (.protocolViolation
            (.lengthTooLarge (UInt64.ofNat out.script.length) Wire.maxVectorLength)) := by
  constructor
  · -- Within the limit, each wire form is taken by one reading.
    intro outs trailing hlimit
    have hwritten : Wire.written (writeAll outs) = outs.flatMap toWire := by
      rw [Wire.written, run_writeAll]
    have hread := Wire.readEach_flatMap
      (fun out hout => takes_read (hlimit out hout)) trailing
    rw [hwritten]
    refine ⟨run_writeAll outs, ?_, map_new_beq outs⟩
    simpa only [length_toWire] using hread
  · -- Beyond the limit, the reading ends at the length.
    intro out hlimit hsize
    have hrefused := run_read_of_limit_lt hlimit hsize []
    rw [List.append_nil] at hrefused
    refine ⟨out.puts_write [], ?_⟩
    rw [Wire.readFrom, hrefused]

/-- Two outputs in a row with a byte behind them, and an output with one byte too many. -/
theorem readEach_writeAll_null_dataCarrier :
    Wire.readEach read 2 (Wire.written (writeAll [null, dataCarrier [1, 2]]) ++ [0xab]) =
        ([(.ok null, 9), (.ok (dataCarrier [1, 2]), 13)], [0xab]) ∧
      Wire.readFrom read (new 5 ⟨List.replicate 0x02000001 0⟩).toWire =
        .error (.protocolViolation (.lengthTooLarge 0x02000001 0x02000000)) := by
  constructor
  · exact (readEach_writeAll.1 [null, dataCarrier [1, 2]] [0xab] (by decide)).2.1
  · have hlength : (new 5 ⟨List.replicate 0x02000001 0⟩).script.length = 0x02000001 :=
      List.length_replicate
    have hlimit : Wire.maxVectorLength.toNat < 0x02000001 := by decide
    have hsize : 0x02000001 < UInt64.size := by decide
    rw [← hlength] at hlimit hsize
    have hrefused := (readEach_writeAll.2 _ hlimit hsize).2
    rw [hlength] at hrefused
    exact hrefused

end TxOut

end BitcoinCash
