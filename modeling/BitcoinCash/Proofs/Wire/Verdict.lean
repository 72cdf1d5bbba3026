import BitcoinCash.Proofs.Wire.Canonical

/-! # Verdicts on a byte string

  What a reader says of a byte string is decided by some bytes at the front, or bytes are missing.

  - **`Reading.Decides`** says that a computation takes exactly the given bytes off the front of any
    byte string that begins with them, and gives the verdict, be it a value or a refusal. It is
    `Reading.Takes` with refusals.
  - **`CompactSize.IsField`** and **`CompactSize.IsCut`**: a byte string begins with all bytes of a
    compact size, minimal or not, or it ends within them. `Wire.IsCutVector` and `TxOut.IsCut` say
    the latter of byte vectors and of outputs.
  - **Each reader** has one lemma that ends in `cases`. The byte string is cut short, or the bytes
    up to the length decide against the value, or the value is there and all its bytes decide for
    it.
-/

namespace BitcoinCash

/-! ## Deciding -/

namespace Reading

variable {α β : Type}

/-- **The computation decides on `taken`**: it takes exactly these bytes off the front and gives the
    verdict, whatever follows. -/
def Decides (x : Reading Bytes α) (taken : Bytes) (verdict : Except WireError α) : Prop :=
  ∀ more, x.run (taken ++ more) = (verdict, more)

/-- To take bytes and give a value is one way to decide. -/
theorem Takes.decides {x : Reading Bytes α} {taken : Bytes} {a : α} (hx : Takes x taken a) :
    Decides x taken (.ok a) := hx

/-- The verdict of a second computation is the one of both. -/
theorem Takes.decides_bind {x : Reading Bytes α} {f : α → Reading Bytes β} {taken taken' : Bytes}
    {a : α} {verdict : Except WireError β} (hx : Takes x taken a)
    (hf : Decides (f a) taken' verdict) : Decides (x >>= f) (taken ++ taken') verdict := by
  intro more
  rw [List.append_assoc, run_bind_ok (hx (taken' ++ more))]
  exact hf more

/-- A refusal of the first computation is one of both. -/
theorem Decides.bind_error {x : Reading Bytes α} {f : α → Reading Bytes β} {taken : Bytes}
    {e : WireError} (hx : Decides x taken (.error e)) : Decides (x >>= f) taken (.error e) :=
  fun more => run_bind_error (hx more)

theorem Decides.readFrom {x : Reading Bytes α} {taken : Bytes} {verdict : Except WireError α}
    (hx : Decides x taken verdict) (rest : Bytes) : Wire.readFrom x (taken ++ rest) = verdict := by
  rw [Wire.readFrom, hx rest]

/-- A verdict does not change when more bytes arrive, and these are left behind the others. -/
theorem Decides.run_append {x : Reading Bytes α} {taken rest : Bytes}
    {verdict : Except WireError α} (hx : Decides x taken verdict) (more : Bytes) :
    x.run (taken ++ rest ++ more) =
      (Wire.readFrom x (taken ++ rest), (x.run (taken ++ rest)).2 ++ more) := by
  rw [hx.readFrom rest, List.append_assoc, hx (rest ++ more), hx rest]

/-- Too few bytes are there, or the first `n` stand in front of the others. -/
theorem length_lt_or_exists_append (n : Nat) (bs : Bytes) :
    bs.length < n ∨ ∃ taken rest, bs = taken ++ rest ∧ taken.length = n := by
  by_cases hle : n ≤ bs.length
  · exact .inr ⟨bs.take n, bs.drop n, (List.take_append_drop n bs).symm,
      List.length_take_of_le hle⟩
  · exact .inl (Nat.lt_of_not_le hle)

end Reading

/-! ## Compact sizes -/

namespace CompactSize

/-- **All bytes of a compact size**, be it as short as it can be or not. -/
def IsField (field : Bytes) : Prop :=
  ∃ first body, field = first :: body ∧ body.length + 1 = widthOfFirst first

/-- **A compact size that is cut short**: there is no first byte, or there are fewer bytes than it
    announces. -/
def IsCut (bs : Bytes) : Prop :=
  ∀ first, bs.head? = some first → bs.length < widthOfFirst first

theorem widthOfFirst_pos (first : UInt8) : 0 < widthOfFirst first := by
  unfold widthOfFirst
  split
  · decide
  · split
    · decide
    · split <;> decide

/-- A byte string begins with all bytes of a compact size, or it ends within them. -/
theorem isCut_or_isField (bs : Bytes) :
    IsCut bs ∨ ∃ field rest, bs = field ++ rest ∧ IsField field := by
  cases bs with
  | nil =>
    left
    intro first hfirst
    cases hfirst
  | cons first body =>
    have hpos := widthOfFirst_pos first
    by_cases hle : widthOfFirst first - 1 ≤ body.length
    · right
      refine ⟨first :: body.take (widthOfFirst first - 1), body.drop (widthOfFirst first - 1), ?_,
        first, body.take (widthOfFirst first - 1), rfl, ?_⟩
      · rw [List.cons_append, List.take_append_drop]
      · rw [List.length_take_of_le hle]
        omega
    · left
      intro first' hfirst
      cases hfirst
      rw [List.length_cons]
      omega

/-- A compact size that is cut short is not read. -/
theorem run_read_of_isCut {bs : Bytes} (h : IsCut bs) :
    read.run bs = (.error .truncatedInput, []) := by
  rw [read_eq]
  cases bs with
  | nil =>
    exact run_bind_error (run_bind_error (Reading.run_bytes_of_lt (Nat.zero_lt_one)))
  | cons first body =>
    have hshort := h first rfl
    rw [List.length_cons] at hshort
    have hmarked : 1 < widthOfFirst first := by omega
    have hfirst : Reading.byte.run (first :: body) = (.ok first, body) :=
      Reading.takes_byte first body
    rw [run_bind_ok hfirst, if_pos hmarked]
    exact run_bind_error (Reading.run_bytes_of_lt (by omega))

/-- The number that a first byte and the bytes which it announces say. -/
def fieldNumber (first : UInt8) (body : Bytes) : UInt64 :=
  if 1 < widthOfFirst first then UInt64.ofNat (Bytes.ofLittleEndian body) else first.toUInt64

/-- Once all bytes of a compact size are there, only its width is checked. -/
theorem run_read_field {first : UInt8} {body : Bytes}
    (hlength : body.length + 1 = widthOfFirst first) (more : Bytes) :
    read.run (first :: body ++ more) =
      (checkWidth (widthOfFirst first) (fieldNumber first body)).run more := by
  have hfirst : Reading.byte.run (first :: body ++ more) = (.ok first, body ++ more) :=
    Reading.takes_byte first _
  rw [read_eq, run_bind_ok hfirst]
  unfold fieldNumber
  by_cases hmarked : 1 < widthOfFirst first
  · have hbody : body.length = widthOfFirst first - 1 := by omega
    rw [if_pos hmarked, if_pos hmarked, run_bind_ok (Reading.takes_bytes hbody more)]
  · have hbody : body = [] := List.length_eq_zero_iff.mp (by omega)
    rw [if_neg hmarked, if_neg hmarked, hbody, List.nil_append]

/-- **All bytes of a compact size decide**: they are read, or they break the rule of the shortest
    form. -/
theorem read_cases {field : Bytes} (h : IsField field) :
    (∃ n, Reading.Takes read field n) ∨
      ∃ v, Reading.Decides read field (.error (.protocolViolation v)) := by
  obtain ⟨first, body, hfield, hlength⟩ := h
  rw [hfield]
  by_cases hnarrow : width (fieldNumber first body) < widthOfFirst first
  · right
    refine ⟨.nonMinimal (fieldNumber first body) (widthOfFirst first), fun more => ?_⟩
    rw [run_read_field hlength, checkWidth, if_pos hnarrow]
    rfl
  · left
    refine ⟨fieldNumber first body, fun more => ?_⟩
    rw [run_read_field hlength, checkWidth, if_neg hnarrow]
    rfl

end CompactSize

/-! ## Byte vectors -/

namespace Wire

open CompactSize (IsField)

/-- **A byte vector that is cut short**, within its length or within its bytes. -/
def IsCutVector (bs : Bytes) : Prop :=
  CompactSize.IsCut bs ∨ ∃ n data, bs = CompactSize.encode n ++ data ∧ n ≤ maxVectorLength ∧
    data.length < n.toNat

/-- A byte vector that is cut short is not read. -/
theorem run_readVector_of_isCutVector {bs : Bytes} (h : IsCutVector bs) :
    readVector.run bs = (.error .truncatedInput, []) := by
  rcases h with hcut | ⟨n, data, hbs, hlimit, hshort⟩
  · exact run_bind_error (CompactSize.run_read_of_isCut hcut)
  · rw [hbs]
    unfold readVector
    rw [run_bind_ok (CompactSize.takes_read n data), if_neg (UInt64.not_lt.mpr hlimit)]
    exact Reading.run_bytes_of_lt hshort

/-- **Byte vectors**: bytes are missing, or the length decides against it, or all of it is there. -/
theorem readVector_cases (bs : Bytes) :
    IsCutVector bs ∨
      (∃ field rest v, bs = field ++ rest ∧ IsField field ∧
        Reading.Decides readVector field (.error (.protocolViolation v))) ∨
      ∃ taken rest data, bs = taken ++ rest ∧ Reading.Takes readVector taken data := by
  rcases CompactSize.isCut_or_isField bs with hcut | ⟨field, rest, hbs, hfield⟩
  · exact .inl (.inl hcut)
  rcases CompactSize.read_cases hfield with ⟨n, hread⟩ | ⟨v, hrefuse⟩
  · have hform : field = CompactSize.encode n := by
      have hfield := CompactSize.run_read_eq_ok_iff.mp (hread [])
      rwa [List.append_nil, List.append_nil] at hfield
    by_cases hlimit : maxVectorLength < n
    · -- The length is beyond the limit.
      right; left
      have hrefuse : Reading.Decides readVector (field ++ [])
          (.error (.protocolViolation (.lengthTooLarge n maxVectorLength))) := by
        apply hread.decides_bind
        rw [if_pos hlimit]
        exact fun more => rfl
      rw [List.append_nil] at hrefuse
      exact ⟨field, rest, _, hbs, hfield, hrefuse⟩
    · -- The length is accepted, and as many bytes follow or not.
      rcases Reading.length_lt_or_exists_append n.toNat rest with
        hshort | ⟨data, left, hrest, hlen⟩
      · left; right
        exact ⟨n, rest, by rw [hbs, hform], UInt64.not_lt.mp hlimit, hshort⟩
      · right; right
        refine ⟨field ++ data, left, data, ?_, hread.bind ?_⟩
        · rw [hbs, hrest, List.append_assoc]
        · rw [if_neg hlimit]
          exact Reading.takes_bytes hlen
  · exact .inr (.inl ⟨field, rest, v, hbs, hfield, hrefuse.bind_error⟩)

end Wire

/-! ## Outputs -/

namespace TxOut

open CompactSize (IsField)

/-- **An output that is cut short**, within its value or within its script. -/
def IsCut (bs : Bytes) : Prop :=
  bs.length < 8 ∨ ∃ value rest, bs = value ++ rest ∧ value.length = 8 ∧ Wire.IsCutVector rest

/-- Any eight bytes are a value. -/
theorem exists_takes_readInt64 {value : Bytes} (h : value.length = 8) :
    ∃ v, Reading.Takes Wire.readInt64 value v :=
  ⟨_, ((Reading.takes_bytes h).map _).map _⟩

/-- An output that is cut short is not read. -/
theorem run_read_of_isCut {bs : Bytes} (h : IsCut bs) :
    read.run bs = (.error .truncatedInput, []) := by
  rcases h with hshort | ⟨value, rest, hbs, hlen, hcut⟩
  · exact run_bind_error (run_bind_error (run_bind_error (Reading.run_bytes_of_lt hshort)))
  · obtain ⟨number, hvalue⟩ := exists_takes_readInt64 hlen
    rw [hbs]
    unfold read
    rw [run_bind_ok (hvalue rest)]
    exact run_bind_error (run_bind_error (Wire.run_readVector_of_isCutVector hcut))

/-- **Outputs**: bytes are missing, or the length of the script decides against it, or all of it is
    there. -/
theorem read_cases (bs : Bytes) :
    IsCut bs ∨
      (∃ value field rest v, bs = value ++ field ++ rest ∧ value.length = 8 ∧ IsField field ∧
        Reading.Decides read (value ++ field) (.error (.protocolViolation v))) ∨
      ∃ taken rest out, bs = taken ++ rest ∧ Reading.Takes read taken out := by
  rcases Reading.length_lt_or_exists_append 8 bs with hshort | ⟨value, rest, hbs, hlen⟩
  · exact .inl (.inl hshort)
  obtain ⟨number, hvalue⟩ := exists_takes_readInt64 hlen
  rcases Wire.readVector_cases rest with hcut | ⟨field, left, v, hrest, hfield, hrefuse⟩ |
    ⟨taken, left, data, hrest, hdata⟩
  · exact .inl (.inr ⟨value, rest, hbs, hlen, hcut⟩)
  · right; left
    refine ⟨value, field, left, v, ?_, hlen, hfield, ?_⟩
    · rw [hbs, hrest, List.append_assoc]
    · exact hvalue.decides_bind hrefuse.bind_error.bind_error
  · right; right
    refine ⟨value ++ taken, left, new number ⟨data⟩, ?_, ?_⟩
    · rw [hbs, hrest, List.append_assoc]
    · exact hvalue.bind ((hdata.map Script.mk).map (new number))

end TxOut

end BitcoinCash
