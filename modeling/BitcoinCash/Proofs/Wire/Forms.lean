import BitcoinCash.Proofs.Wire.Verdict

/-! # The forms of a compact size

  Most numbers can be spelled in several ways, behind any marker that leaves enough bytes for them. A
  writer takes the shortest form, and a reader takes no other one.

  - **`CompactSize.IsForm`** says what the forms of a number are, without a word on how they are
    written or read. Every byte string begins with one of them, or it ends within one
    (`isCut_or_isForm`).
  - **`CompactSize.IsForm.run_read`**: a form is read as the number that it spells, unless it is too
    long.
  - **`CompactSize.read_shortest`** is the main statement.
-/

namespace BitcoinCash.CompactSize

/-! ## Forms -/

/-- The three markers, each with the count of bytes that follow it. -/
def markerBytes : List (UInt8 × Nat) :=
  [(0xfd, 2), (0xfe, 4), (0xff, 8)]

/-- **The forms of a number**, be they as short as they can be or not. -/
inductive IsForm : Bytes → UInt64 → Prop
  /-- A byte up to `fc` spells itself. -/
  | byte {b : UInt8} (hb : b ≤ 0xfc) : IsForm [b] b.toUInt64
  /-- A marker stands in front of any number that fits into the bytes which it announces. -/
  | marked {m : UInt8} {count : Nat} (hm : (m, count) ∈ markerBytes) {n : UInt64}
      (hn : n.toNat < 256 ^ count) : IsForm (m :: Bytes.littleEndian count n.toNat) n

/-- **The tables agree**: what a writer and a reader know of a marker. -/
theorem marker?_eq_some_iff {m : UInt8} {count : Nat} :
    marker? (count + 1) = some m ↔ (m, count) ∈ markerBytes := by
  constructor
  · intro h
    unfold marker? at h
    split at h
    · next hcount =>
      cases h
      rw [Nat.succ.inj hcount]
      decide
    · next hcount =>
      cases h
      rw [Nat.succ.inj hcount]
      decide
    · next hcount =>
      cases h
      rw [Nat.succ.inj hcount]
      decide
    · cases h
  · have hall : ∀ entry ∈ markerBytes, marker? (entry.2 + 1) = some entry.1 := by decide
    exact hall (m, count)

theorem widthOfFirst_of_mem {m : UInt8} {count : Nat} (h : (m, count) ∈ markerBytes) :
    widthOfFirst m = count + 1 ∧ 1 < widthOfFirst m := by
  have hall : ∀ entry ∈ markerBytes,
      widthOfFirst entry.1 = entry.2 + 1 ∧ 1 < widthOfFirst entry.1 := by decide
  exact hall (m, count) h

namespace IsForm

variable {form : Bytes} {n : UInt64}

/-- A form has all the bytes that its first one announces, and they say its number. -/
theorem exists_field (h : IsForm form n) :
    ∃ first body, form = first :: body ∧ body.length + 1 = widthOfFirst first ∧
      fieldNumber first body = n := by
  cases h with
  | @byte b hb =>
    have hone : widthOfFirst b = 1 := if_pos hb
    refine ⟨b, [], rfl, hone.symm, ?_⟩
    rw [fieldNumber, hone, if_neg (Nat.lt_irrefl 1)]
  | @marked m count hm _ hn =>
    obtain ⟨hfirst, hmarked⟩ := widthOfFirst_of_mem hm
    refine ⟨m, _, rfl, ?_, ?_⟩
    · rw [Bytes.length_littleEndian, hfirst]
    · rw [fieldNumber, if_pos hmarked, Bytes.ofLittleEndian_littleEndian hn, UInt64.ofNat_toNat]

/-- **A form is read as its number**, once its length has been checked. -/
theorem run_read (h : IsForm form n) (rest : Bytes) :
    read.run (form ++ rest) = (checkWidth form.length n).run rest := by
  obtain ⟨first, body, hform, hlength, hnumber⟩ := h.exists_field
  rw [hform, run_read_field hlength, hnumber, List.length_cons, hlength]

/-- A form that is longer than it has to be is refused. -/
theorem run_read_of_width_lt (h : IsForm form n) (hlong : width n < form.length) (rest : Bytes) :
    read.run (form ++ rest) =
      (.error (.protocolViolation (.nonMinimal n form.length)), rest) := by
  rw [h.run_read rest, checkWidth, if_pos hlong]
  rfl

/-- **No form is shorter than the width of its number.** -/
theorem width_le_length (h : IsForm form n) : width n ≤ form.length := by
  cases h with
  | @byte b hb =>
    have hone : widthOfFirst b = 1 := if_pos hb
    have hform : encode b.toUInt64 = [b] := encode_toUInt64 (by rw [hone]; exact Nat.lt_irrefl 1)
    have hlength : width b.toUInt64 = [b].length := by rw [← length_encode, hform]
    exact Nat.le_of_eq hlength
  | @marked m count hm _ hn =>
    rw [List.length_cons, Bytes.length_littleEndian]
    exact width_le_of_lt (marker?_eq_some_iff.mpr hm) hn

end IsForm

/-- What is written for a number is one of its forms. -/
theorem isForm_encode (n : UInt64) : IsForm (encode n) n := by
  unfold encode
  cases hmarker : marker? (width n) with
  | none =>
    obtain ⟨-, hfirst, hvalue⟩ := marker?_eq_none hmarker
    have hsmall : n.toUInt8 ≤ 0xfc :=
      le_of_widthOfFirst (by rw [hfirst]; exact Nat.lt_irrefl 1)
    have hform := IsForm.byte hsmall
    rwa [hvalue] at hform
  | some m =>
    obtain ⟨-, hlt, hfits⟩ := marker?_eq_some hmarker
    refine .marked (marker?_eq_some_iff.mp ?_) hfits
    rwa [Nat.sub_add_cancel (Nat.le_of_lt hlt)]

/-- All bytes that a marker announces spell a number. -/
theorem isForm_ofLittleEndian {m : UInt8} {body : Bytes} (hm : (m, body.length) ∈ markerBytes) :
    IsForm (m :: body) (UInt64.ofNat (Bytes.ofLittleEndian body)) := by
  -- No marker announces more bytes than there are in a number.
  have hword : ∀ entry ∈ markerBytes, 256 ^ entry.2 ≤ UInt64.size := by decide
  have hfits := Bytes.ofLittleEndian_lt body
  have hnumber : (UInt64.ofNat (Bytes.ofLittleEndian body)).toNat = Bytes.ofLittleEndian body :=
    UInt64.toNat_ofNat_of_lt' (Nat.lt_of_lt_of_le hfits (hword (m, body.length) hm))
  rw [← hnumber] at hfits
  have hform := IsForm.marked hm hfits
  rwa [hnumber, Bytes.littleEndian_ofLittleEndian] at hform

/-- **A byte string begins with a form**, or it ends within one. -/
theorem isCut_or_isForm (bs : Bytes) :
    IsCut bs ∨ ∃ form rest n, bs = form ++ rest ∧ IsForm form n := by
  rcases isCut_or_isField bs with hcut | ⟨field, rest, hbs, first, body, hfield, hlength⟩
  · exact .inl hcut
  right
  rw [hfield] at hbs
  by_cases hmarked : 1 < widthOfFirst first
  · have hmarker := marker?_widthOfFirst hmarked
    rw [← hlength] at hmarker
    exact ⟨_, rest, _, hbs, isForm_ofLittleEndian (marker?_eq_some_iff.mp hmarker)⟩
  · -- A byte without a marker stands alone.
    have hbody : body = [] := List.length_eq_zero_iff.mp (by omega)
    rw [hbody] at hbs
    exact ⟨_, rest, _, hbs, .byte (le_of_widthOfFirst hmarked)⟩

/-! ## The shortest form -/

/-- All that is written for a number is its shortest form. -/
theorem written_write (n : UInt64) : Wire.written (write n) = encode n := by
  rw [Wire.written, puts_write n []]
  rfl

/-- **Compact sizes have one form that counts**, over the whole range of numbers.

    - What is written for a number is a form of it, and none is shorter. It is read back, whatever
      follows it, and nothing more is taken.
    - What is taken when a number is read is what is written for that number.
    - A form that is longer than it has to be breaks a rule of the format, and never gives a value.
    - A byte string that begins with no form of any number is cut short. -/
theorem read_shortest :
    (∀ (n : UInt64) (trailing : Bytes),
      (write n).run [] = (.ok (width n), Wire.written (write n)) ∧
      IsForm (Wire.written (write n)) n ∧
      (∀ form, IsForm form n → width n ≤ form.length) ∧
      read.run (Wire.written (write n) ++ trailing) = (.ok n, trailing) ∧
      Wire.consumed read (Wire.written (write n) ++ trailing) = width n) ∧
    (∀ (bs : Bytes) (n : UInt64), Wire.readFrom read bs = .ok n →
      bs.take (Wire.consumed read bs) = Wire.written (write n) ∧
      (read.run bs).2 = bs.drop (Wire.consumed read bs)) ∧
    (∀ (form rest : Bytes) (n : UInt64), IsForm form n → width n < form.length →
      read.run (form ++ rest) =
        (.error (.protocolViolation (.nonMinimal n form.length)), rest)) ∧
    ∀ bs : Bytes, (∀ form rest n, bs = form ++ rest → ¬IsForm form n) →
      Wire.readFrom read bs = .error .truncatedInput := by
  refine ⟨?_, ?_, ?_, ?_⟩
  · intro n trailing
    have hread : read.run (encode n ++ trailing) = (.ok n, trailing) := takes_read n trailing
    rw [written_write]
    refine ⟨puts_write n [], isForm_encode n, fun form hform => hform.width_le_length, hread, ?_⟩
    rw [(Wire.consumed_append hread).1, length_encode]
  · intro bs n hok
    obtain ⟨rest, hrun⟩ := Wire.exists_run_of_readFrom hok
    have hbs := run_read_eq_ok_iff.mp hrun
    rw [written_write, hbs]
    exact (Wire.consumed_append (hbs ▸ hrun)).2
  · intro form rest n hform hlong
    exact hform.run_read_of_width_lt hlong rest
  · -- What begins with no form has begun with a marker, or it is empty.
    intro bs hnone
    rcases isCut_or_isForm bs with hcut | ⟨form, rest, n, hbs, hform⟩
    · rw [Wire.readFrom, run_read_of_isCut hcut]
    · exact absurd hform (hnone form rest n hbs)

/-- The number 252 behind the marker `fe`, the greatest number of all with two bytes behind it, and the
    empty string. -/
theorem read_shortest_markers :
    read.run ([0xfe, 0xfc, 0, 0, 0, 7] : Bytes) =
        (.error (.protocolViolation (.nonMinimal 0xfc 5)), [7]) ∧
      read.run (List.replicate 9 0xff ++ [7, 8] : Bytes) = (.ok 0xffffffffffffffff, [7, 8]) ∧
      (List.replicate 9 0xff ++ [7, 8] : Bytes).take
          (Wire.consumed read (List.replicate 9 0xff ++ [7, 8])) =
        Wire.written (write 0xffffffffffffffff) ∧
      Wire.readFrom read [] = .error .truncatedInput := by
  obtain ⟨hwritten, htaken, hlong, hcut⟩ := read_shortest
  have hform : IsForm [0xfe, 0xfc, 0, 0, 0] 0xfc :=
    @IsForm.marked 0xfe 4 (by decide) 0xfc (by decide)
  have hgreatest : Wire.written (write 0xffffffffffffffff) = List.replicate 9 0xff := by
    rw [written_write]
    decide
  have hread := (hwritten 0xffffffffffffffff [7, 8]).2.2.2.1
  rw [hgreatest] at hread
  refine ⟨hlong _ [7] _ hform (by decide), hread, (htaken _ _ (congrArg Prod.fst hread)).1, ?_⟩
  apply hcut
  intro form rest n hempty hform
  obtain ⟨first, body, hfirst, -⟩ := hform.exists_field
  rw [hfirst] at hempty
  cases hempty

end BitcoinCash.CompactSize
