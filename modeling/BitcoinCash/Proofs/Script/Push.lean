import BitcoinCash.Bytes.Lemmas
import BitcoinCash.Script.Shape
import Mathlib.Tactic.SplitIfs

/-! # Pushes and the data they carry

  Which scripts carry data, and which of them is the shortest one for given data.

  - **`IsPushHeader`** has one case for each of the four forms in which a length can stand in front of
    data, and **`Carries`** puts a script together: the opcode, such a header, the data, and
    anything after them.
  - **`push_inj`**: the data of a push can be told from the push, whichever of the four forms it
    has.
  - **`readPush?_eq_some_iff`**: a push is read exactly if it has one of these forms, complete.
  - **Accesses**: `opReturnDataChecked` takes bytes by position and fails at a position that is
    beyond the end. It never does (`opReturnDataChecked_eq`).
  - **`opReturnData?_eq_some_iff_carries`** and **`opReturnData?_dataCarrier`** are the main
    statements: which data a script has, and that the script that is built for data has these data
    and is not longer than it has to be.
-/

namespace BitcoinCash.Script

/-! ## The four forms -/

/-- **What stands in front of `n` bytes of data**, in one of the four forms of a push. -/
inductive IsPushHeader (n : Nat) : Bytes → Prop
  /-- The opcode is the length. -/
  | direct (h : n ≤ 75) : IsPushHeader n [UInt8.ofNat n]
  /-- The length is in one byte. -/
  | one (h : n < 256 ^ 1) : IsPushHeader n (opPushData1 :: Bytes.littleEndian 1 n)
  /-- The length is in two bytes. -/
  | two (h : n < 256 ^ 2) : IsPushHeader n (opPushData2 :: Bytes.littleEndian 2 n)
  /-- The length is in four bytes. -/
  | four (h : n < 256 ^ 4) : IsPushHeader n (opPushData4 :: Bytes.littleEndian 4 n)

/-- A script that carries data begins with the opcode for that and a push of the data, complete and in
    any of its forms. -/
def Carries (s : Script) (data : Bytes) : Prop :=
  ∃ header rest, IsPushHeader data.length header ∧ s.bytes = opReturn :: (header ++ (data ++ rest))

/-- No form has room for a longer length than the last one. -/
theorem IsPushHeader.lt {n : Nat} {header : Bytes} (h : IsPushHeader n header) : n < 256 ^ 4 := by
  cases h <;> omega

/-- How long the shortest form is. -/
theorem length_pushHeader (n : Nat) : (pushHeader n).length =
    if n ≤ 75 then 1 else if n ≤ 0xff then 2 else if n ≤ 0xffff then 3 else 5 := by
  have h75 : opPushBytes75.toNat = 75 := rfl
  unfold pushHeader
  rw [h75]
  split
  · rfl
  · split
    · rfl
    · split <;> rfl

/-- The header that is written has one of the forms, if the length fits in the last of them. -/
theorem isPushHeader_pushHeader {n : Nat} (h : n < 256 ^ 4) : IsPushHeader n (pushHeader n) := by
  have h75 : opPushBytes75.toNat = 75 := rfl
  unfold pushHeader
  rw [h75]
  by_cases h1 : n ≤ 75
  · rw [if_pos h1]
    exact .direct h1
  rw [if_neg h1]
  by_cases h2 : n ≤ 0xff
  · rw [if_pos h2]
    exact .one (by omega)
  rw [if_neg h2]
  by_cases h3 : n ≤ 0xffff
  · rw [if_pos h3]
    exact .two (by omega)
  rw [if_neg h3]
  exact .four h

/-- **The header that is written is the shortest** for its length. -/
theorem length_pushHeader_le {n : Nat} {header : Bytes} (h : IsPushHeader n header) :
    (pushHeader n).length ≤ header.length := by
  rw [length_pushHeader]
  cases h with
  | direct h => simp [h]
  | one h =>
    simp only [List.length_cons, Bytes.length_littleEndian]
    split_ifs <;> omega
  | two h =>
    simp only [List.length_cons, Bytes.length_littleEndian]
    split_ifs <;> omega
  | four h =>
    simp only [List.length_cons, Bytes.length_littleEndian]
    split_ifs <;> omega

/-- Longer data make a longer push: the header does not get shorter. -/
theorem length_push_lt {data data' : Bytes} (h : data.length < data'.length) :
    (push data).length < (push data').length := by
  unfold push
  rw [List.length_append, List.length_append, length_pushHeader, length_pushHeader]
  split_ifs <;> omega

/-- **A push says what it pushes**, even data that are too long for the length field. -/
theorem push_inj {data data' : Bytes} (h : push data = push data') : data = data' := by
  have hsame : data.length = data'.length := by
    rcases Nat.lt_trichotomy data.length data'.length with hlt | heq | hlt
    · exact absurd (length_push_lt hlt) (by rw [h]; exact Nat.lt_irrefl _)
    · exact heq
    · exact absurd (length_push_lt hlt) (by rw [h]; exact Nat.lt_irrefl _)
  unfold push at h
  rw [hsame] at h
  exact List.append_cancel_left h

/-! ## Reading -/

theorem takeExactly?_eq_some_iff {n : Nat} {bs data : Bytes} :
    takeExactly? n bs = some data ↔ data.length = n ∧ ∃ rest, bs = data ++ rest := by
  unfold takeExactly?
  constructor
  · intro h
    split at h
    · next hle =>
      cases h
      exact ⟨List.length_take_of_le hle, bs.drop n, (List.take_append_drop n bs).symm⟩
    · simp at h
  · intro ⟨hlen, rest, hbs⟩
    have hle : n ≤ bs.length := by simp [hbs, ← hlen]
    rw [if_pos hle, hbs, List.take_left' hlen]

/-- Data whose length is in front of them are read exactly if the length fits. -/
theorem readSized?_eq_some_iff {width : Nat} {bs data : Bytes} :
    readSized? width bs = some data ↔ data.length < 256 ^ width ∧
      ∃ rest, bs = Bytes.littleEndian width data.length ++ (data ++ rest) := by
  unfold readSized?
  constructor
  · intro h
    split at h
    · next field hfield =>
      obtain ⟨hwidth, after, rfl⟩ := takeExactly?_eq_some_iff.mp hfield
      rw [List.drop_left' hwidth] at h
      obtain ⟨hlen, rest, rfl⟩ := takeExactly?_eq_some_iff.mp h
      rw [hlen, ← hwidth, Bytes.littleEndian_ofLittleEndian]
      exact ⟨Bytes.ofLittleEndian_lt field, rest, rfl⟩
    · simp at h
  · intro ⟨hlt, rest, hbs⟩
    have hwidth := Bytes.length_littleEndian width data.length
    have hfield : takeExactly? width bs = some (Bytes.littleEndian width data.length) :=
      takeExactly?_eq_some_iff.mpr ⟨hwidth, _, hbs⟩
    rw [hfield, hbs]
    show takeExactly? _ (List.drop width _) = some data
    rw [List.drop_left' hwidth, Bytes.ofLittleEndian_littleEndian hlt]
    exact takeExactly?_eq_some_iff.mpr ⟨rfl, rest, rfl⟩

/-- The first byte says which form a push has. -/
theorem readPush?_cons (op : UInt8) (rest : Bytes) :
    readPush? (op :: rest) =
      if op ≤ opPushBytes75 then takeExactly? op.toNat rest
      else if op = opPushData1 then readSized? 1 rest
      else if op = opPushData2 then readSized? 2 rest
      else if op = opPushData4 then readSized? 4 rest
      else none := rfl

/-- **A push is read in every form that is complete**, and in no other. -/
theorem readPush?_eq_some_iff {bs data : Bytes} :
    readPush? bs = some data ↔
      ∃ header rest, IsPushHeader data.length header ∧ bs = header ++ (data ++ rest) := by
  constructor
  · intro h
    cases bs with
    | nil => simp [readPush?] at h
    | cons op bs =>
      rw [readPush?_cons] at h
      -- The opcode decides in which form the length is.
      by_cases h75 : op ≤ opPushBytes75
      · rw [if_pos h75] at h
        obtain ⟨hlen, rest, rfl⟩ := takeExactly?_eq_some_iff.mp h
        have hle : data.length ≤ 75 := by
          rw [hlen]
          exact UInt8.le_iff_toNat_le.mp h75
        refine ⟨_, rest, .direct hle, ?_⟩
        rw [hlen, UInt8.ofNat_toNat]
        rfl
      rw [if_neg h75] at h
      by_cases h1 : op = opPushData1
      · rw [if_pos h1] at h
        obtain ⟨hlt, rest, rfl⟩ := readSized?_eq_some_iff.mp h
        exact ⟨_, rest, .one hlt, by rw [h1, List.cons_append]⟩
      rw [if_neg h1] at h
      by_cases h2 : op = opPushData2
      · rw [if_pos h2] at h
        obtain ⟨hlt, rest, rfl⟩ := readSized?_eq_some_iff.mp h
        exact ⟨_, rest, .two hlt, by rw [h2, List.cons_append]⟩
      rw [if_neg h2] at h
      by_cases h4 : op = opPushData4
      · rw [if_pos h4] at h
        obtain ⟨hlt, rest, rfl⟩ := readSized?_eq_some_iff.mp h
        exact ⟨_, rest, .four hlt, by rw [h4, List.cons_append]⟩
      · rw [if_neg h4] at h
        cases h
  · intro ⟨header, rest, hheader, hbs⟩
    cases hheader with
    | direct h =>
      have hcode : (UInt8.ofNat data.length).toNat = data.length := by
        rw [UInt8.toNat_ofNat']
        omega
      have h75 : UInt8.ofNat data.length ≤ opPushBytes75 := by
        rw [UInt8.le_iff_toNat_le, hcode]
        exact h
      rw [hbs, List.singleton_append, readPush?_cons, if_pos h75, hcode]
      exact takeExactly?_eq_some_iff.mpr ⟨rfl, rest, rfl⟩
    | one h =>
      rw [hbs, List.cons_append, readPush?_cons, if_neg (by decide), if_pos rfl]
      exact readSized?_eq_some_iff.mpr ⟨h, rest, rfl⟩
    | two h =>
      rw [hbs, List.cons_append, readPush?_cons, if_neg (by decide), if_neg (by decide),
        if_pos rfl]
      exact readSized?_eq_some_iff.mpr ⟨h, rest, rfl⟩
    | four h =>
      rw [hbs, List.cons_append, readPush?_cons, if_neg (by decide), if_neg (by decide),
        if_neg (by decide), if_pos rfl]
      exact readSized?_eq_some_iff.mpr ⟨h, rest, rfl⟩

/-- The data of a script are those that it carries. -/
theorem opReturnData?_eq_some_iff {s : Script} {data : Bytes} :
    s.opReturnData? = some data ↔ s.Carries data := by
  obtain ⟨bs⟩ := s
  cases bs with
  | nil => simp [opReturnData?, isOpReturn, Carries]
  | cons op bs =>
    by_cases hop : op = opReturn
    · have hread : opReturnData? ⟨op :: bs⟩ = readPush? bs := by simp [opReturnData?, isOpReturn, hop]
      rw [hread, readPush?_eq_some_iff]
      simp [Carries, hop]
    · simp [opReturnData?, isOpReturn, Carries, hop]

/-! ## Accesses -/

/-- An access at a position that a byte string does not reach. -/
structure OutOfBounds where
  /-- The position. -/
  position : Nat
  /-- The length of the byte string. -/
  length : Nat

/-- The byte at a position. -/
def byteAt (bs : Bytes) (i : Nat) : Except OutOfBounds UInt8 :=
  match bs[i]? with
  | some b => .ok b
  | none => .error ⟨i, bs.length⟩

/-- The bytes from a position on. -/
def bytesAfter (bs : Bytes) (start : Nat) : Except OutOfBounds Bytes :=
  if start ≤ bs.length then .ok (bs.drop start) else .error ⟨start, bs.length⟩

/-- Data whose length is in the first `width` bytes. Once it is known that there are so many, each of
    them is accessed by its position, and what follows them is cut off. -/
def readSizedChecked (width : Nat) (bs : Bytes) : Except OutOfBounds (Option Bytes) :=
  match takeExactly? width bs with
  | none => .ok none
  | some field => do
    let digits ← (List.range width).mapM (byteAt field)
    let rest ← bytesAfter bs width
    return takeExactly? (Bytes.ofLittleEndian digits) rest

/-- The data of a push. -/
def readPushChecked : Bytes → Except OutOfBounds (Option Bytes)
  | [] => .ok none
  | op :: rest =>
    if op ≤ opPushBytes75 then .ok (takeExactly? op.toNat rest)
    else if op = opPushData1 then
      match rest with
      | [] => .ok none
      | n :: rest => .ok (takeExactly? n.toNat rest)
    else if op = opPushData2 then readSizedChecked 2 rest
    else if op = opPushData4 then readSizedChecked 4 rest
    else .ok none

/-- The data of the first push of a script that carries data, which begins after its first byte. -/
def opReturnDataChecked (s : Script) : Except OutOfBounds (Option Bytes) :=
  if s.isOpReturn then do readPushChecked (← bytesAfter s.bytes 1) else .ok none

/-- Accesses at positions within a byte string give its bytes. -/
theorem mapM_byteAt_of_lt {field : Bytes} {positions : List Nat}
    (h : ∀ i ∈ positions, i < field.length) :
    positions.mapM (byteAt field) = .ok (positions.map fun i => field.getD i 0) := by
  induction positions with
  | nil => rfl
  | cons i positions ih =>
    have hi : i < field.length := h i List.mem_cons_self
    have hbyte : byteAt field i = .ok (field.getD i 0) := by simp [byteAt, hi]
    rw [List.mapM_cons, hbyte, ih fun j hj => h j (List.mem_cons_of_mem _ hj)]
    rfl

/-- All positions of a byte string are within it. -/
theorem mapM_byteAt (field : Bytes) :
    (List.range field.length).mapM (byteAt field) = .ok field := by
  have hall : ((List.range field.length).map fun i => field.getD i 0) = field := by
    apply List.ext_getElem (by simp)
    intro i hi hi'
    simp [hi']
  rw [mapM_byteAt_of_lt fun i hi => List.mem_range.mp hi, hall]

theorem bytesAfter_of_le {bs : Bytes} {start : Nat} (h : start ≤ bs.length) :
    bytesAfter bs start = .ok (bs.drop start) :=
  if_pos h

theorem readSizedChecked_eq (width : Nat) (bs : Bytes) :
    readSizedChecked width bs = .ok (readSized? width bs) := by
  unfold readSizedChecked readSized?
  cases hfield : takeExactly? width bs with
  | none => rfl
  | some field =>
    -- There are `width` bytes, so that the positions below `width` are there.
    obtain ⟨hwidth, rest, hbs⟩ := takeExactly?_eq_some_iff.mp hfield
    have hle : width ≤ bs.length := by simp [hbs, ← hwidth]
    have hdigits := mapM_byteAt field
    rw [hwidth] at hdigits
    simp only [hdigits, bytesAfter_of_le hle]
    rfl

/-- A length in one byte is that byte. -/
theorem readSized?_one (bs : Bytes) :
    readSized? 1 bs = match bs with
      | [] => none
      | n :: rest => takeExactly? n.toNat rest := by
  cases bs with
  | nil => rfl
  | cons n rest => simp [readSized?, takeExactly?, Bytes.ofLittleEndian]

theorem readPushChecked_eq (bs : Bytes) : readPushChecked bs = .ok (readPush? bs) := by
  cases bs with
  | nil => rfl
  | cons op bs =>
    simp only [readPushChecked, readPush?_cons, readSizedChecked_eq, readSized?_one]
    split_ifs
    · rfl
    · cases bs <;> rfl
    · rfl
    · rfl
    · rfl

/-- **No access is out of bounds**, whatever the script is. -/
theorem opReturnDataChecked_eq (s : Script) : opReturnDataChecked s = .ok s.opReturnData? := by
  unfold opReturnDataChecked opReturnData?
  by_cases hdata : s.isOpReturn = true
  · -- The opcode is there, so that the rest begins within the script.
    have hlen : 1 ≤ s.bytes.length := by
      cases hbytes : s.bytes with
      | nil => simp [isOpReturn, hbytes] at hdata
      | cons op bs => simp
    rw [if_pos hdata, if_pos hdata, bytesAfter_of_le hlen]
    exact readPushChecked_eq _
  · rw [if_neg hdata, if_neg hdata]

/-! ## Data carriers -/

/-- **The data of a script.** A script has data exactly if it carries them: after the opcode comes a
    complete push, in any of its forms, and then anything. Every other script has none. None of the
    accesses by which they are found is out of bounds. -/
theorem opReturnData?_eq_some_iff_carries (s : Script) :
    (∀ data, s.opReturnData? = some data ↔ s.Carries data) ∧
    ((∀ data, ¬s.Carries data) → s.opReturnData? = none) ∧
    opReturnDataChecked s = .ok s.opReturnData? := by
  refine ⟨fun data => opReturnData?_eq_some_iff, ?_, opReturnDataChecked_eq s⟩
  intro hnone
  rw [Option.eq_none_iff_forall_ne_some]
  intro data hdata
  exact hnone data (opReturnData?_eq_some_iff.mp hdata)

/-- The script for some data, with anything after it, carries the data, unless they are too long for
    the length field. -/
theorem carries_dataCarrier_append {data : Bytes} (h : data.length < 256 ^ 4) (more : Bytes) :
    Carries ⟨(dataCarrier data).bytes ++ more⟩ data := by
  refine ⟨pushHeader data.length, more, isPushHeader_pushHeader h, ?_⟩
  simp [dataCarrier, push]

/-- No script that carries some data is shorter than the one that is built for them. -/
theorem length_dataCarrier_le {s : Script} {data : Bytes} (h : s.Carries data) :
    (dataCarrier data).length ≤ s.length := by
  obtain ⟨header, rest, hheader, hbytes⟩ := h
  have hle := length_pushHeader_le hheader
  simp only [length, hbytes, dataCarrier, push, List.length_cons, List.length_append]
  omega

/-- **Data carriers carry their data in the shortest way.** The data are found again exactly if there
    are fewer than 2^32 bytes of them, and then also if anything follows the script, and no shorter
    script has the same data. -/
theorem opReturnData?_dataCarrier (data : Bytes) :
    ((dataCarrier data).opReturnData? = some data ↔ data.length < 2 ^ 32) ∧
    (data.length < 2 ^ 32 →
      (∀ more, opReturnData? ⟨(dataCarrier data).bytes ++ more⟩ = some data) ∧
      ∀ s : Script, s.opReturnData? = some data → (dataCarrier data).length ≤ s.length) := by
  have hfound : data.length < 2 ^ 32 →
      ∀ more, opReturnData? ⟨(dataCarrier data).bytes ++ more⟩ = some data := by
    intro hlt more
    exact opReturnData?_eq_some_iff.mpr (carries_dataCarrier_append hlt more)
  refine ⟨⟨?_, ?_⟩, ?_⟩
  · intro h
    obtain ⟨header, rest, hheader, -⟩ := opReturnData?_eq_some_iff.mp h
    exact hheader.lt
  · intro hlt
    -- Nothing follows the script.
    have hnothing := hfound hlt []
    rwa [List.append_nil] at hnothing
  · intro hlt
    exact ⟨hfound hlt, fun s hs => length_dataCarrier_le (opReturnData?_eq_some_iff.mp hs)⟩

/-- Eighty bytes are found again in front of another byte, and no script with less than three bytes
    beside them has them. -/
theorem opReturnData?_dataCarrier_eighty :
    let data : Bytes := List.replicate 80 0x11
    data.length < 2 ^ 32 ∧
      opReturnData? ⟨(dataCarrier data).bytes ++ [0xcc]⟩ = some data ∧
      ∀ s : Script, s.opReturnData? = some data → 83 ≤ s.length := by
  intro data
  have hlt : data.length < 2 ^ 32 := by simp [data]
  have hlen : (dataCarrier data).length = 83 := by decide
  obtain ⟨hmore, hshortest⟩ := (opReturnData?_dataCarrier data).2 hlt
  rw [hlen] at hshortest
  exact ⟨hlt, hmore [0xcc], hshortest⟩

end BitcoinCash.Script
