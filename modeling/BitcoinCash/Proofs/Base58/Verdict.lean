import BitcoinCash.Proofs.Base58.Canonical
import BitcoinCash.Proofs.Script.Push

/-! # What is wrong with a Base58Check text

  Each text that is not written for a version byte and a payload has one failure, and the text says
  which.

  - **`IsVerdict`** is the answer that a text has to get, given what is written for a version byte and a
    payload.
  - **Slices**: `decodeCheckWith` takes a byte string apart by position and fails at a position that is
    beyond the end. It never does, because a text of five bytes or more is a version byte, a payload and
    four more bytes (`splitCheckWith_framed`).
  - **Any hash** will do, as long as it has 32 bytes. Nothing else is known of it here.
  - **`isVerdict_decodeCheck`** is the main statement.
-/

namespace BitcoinCash.Base58

open Script (OutOfBounds byteAt bytesAfter bytesAfter_of_le)

/-! ## The alphabet -/

/-- The characters that are digits are those of the alphabet. -/
theorem exists_digitValue?_iff {c : Char} : (∃ d, digitValue? c = some d) ↔ c ∈ alphabet := by
  rw [← Option.isSome_iff_exists, digitValue?, List.isSome_idxOf?]

/-- **A text over the alphabet** stands for bytes. -/
theorem exists_decode {t : Text} (h : ∀ c ∈ t, c ∈ alphabet) : ∃ data, decode t = .ok data := by
  have hforeign : firstForeign? t = none :=
    firstForeign?_eq_none_iff.mpr fun c hc => exists_digitValue?_iff.mpr (h c hc)
  exact ⟨bytesOf t, by rw [decode, hforeign]⟩

/-- Only a text over the alphabet stands for bytes. -/
theorem mem_alphabet_of_decode {t : Text} {data : Bytes} (h : decode t = .ok data) :
    ∀ c ∈ t, c ∈ alphabet := by
  unfold decode at h
  cases hforeign : firstForeign? t with
  | some c =>
    rw [hforeign] at h
    cases h
  | none =>
    intro c hc
    exact exists_digitValue?_iff.mp (firstForeign?_eq_none_iff.mp hforeign c hc)

/-- The same of one character. -/
theorem mem_alphabet_of_split {t before after : Text} {c : Char} {data : Bytes}
    (h : decode t = .ok data) (hsplit : t = before ++ c :: after) : c ∈ alphabet := by
  refine mem_alphabet_of_decode h c ?_
  rw [hsplit]
  exact List.mem_append_right _ List.mem_cons_self

/-! ## Slices -/

/-- The bytes before a position. -/
def bytesBefore (bs : Bytes) (stop : Nat) : Except OutOfBounds Bytes :=
  if stop ≤ bs.length then .ok (bs.take stop) else .error ⟨stop, bs.length⟩

/-- The Base58Check text of a version byte and a payload, with a checksum from any hash. -/
def encodeCheckWith (hash : Bytes → Digest 32) (version : UInt8) (payload : Bytes) : Text :=
  encode (version :: payload ++ (hash (version :: payload)).bytes.take 4)

/-- The version byte and the payload of a byte string. Its last four bytes are cut off by their
    position and compared with the first four of the hash, and what is in front of them is cut after its
    first byte. -/
def splitCheckWith (hash : Bytes → Digest 32) (data : Bytes) :
    Except OutOfBounds (Except AddressError (UInt8 × Bytes)) :=
  if data.length < 5 then .ok (.error (.tooShort data.length))
  else do
    let body ← bytesBefore data (data.length - 4)
    let check ← bytesAfter data (data.length - 4)
    let expected ← bytesBefore (hash body).bytes 4
    if expected = check then
      let version ← byteAt body 0
      let payload ← bytesAfter body 1
      return .ok (version, payload)
    else return .error .checksumMismatch

/-- The version byte and the payload of a Base58Check text. The characters are looked at first, and
    then the digits are read, which looks at them again. -/
def decodeCheckWith (hash : Bytes → Digest 32) (t : Text) :
    Except OutOfBounds (Except AddressError (UInt8 × Bytes)) :=
  match t.find? (!alphabet.contains ·) with
  | some c => .ok (.error (.invalidCharacter c))
  | none =>
    match decode t with
    | .error _ => .ok (.error .unrecognizedFormat)
    | .ok data => splitCheckWith hash data

theorem bytesBefore_of_le {bs : Bytes} {stop : Nat} (h : stop ≤ bs.length) :
    bytesBefore bs stop = .ok (bs.take stop) :=
  if_pos h

variable {hash : Bytes → Digest 32}

/-- Five bytes or more are a version byte, a payload and four more bytes. -/
theorem exists_framed {data : Bytes} (h : 5 ≤ data.length) :
    ∃ version payload check, data = version :: payload ++ check ∧ check.length = 4 := by
  cases data with
  | nil => cases h
  | cons version rest =>
    have hrest : 4 ≤ rest.length := Nat.le_of_succ_le_succ h
    refine ⟨version, rest.take (rest.length - 4), rest.drop (rest.length - 4), ?_, ?_⟩
    · rw [List.cons_append, List.take_append_drop]
    · rw [List.length_drop]
      omega

/-- **No slice is out of bounds**: the byte string is cut after the payload. -/
theorem splitCheckWith_framed {version : UInt8} {payload check : Bytes} (h : check.length = 4) :
    splitCheckWith hash (version :: payload ++ check) =
      .ok (if (hash (version :: payload)).bytes.take 4 = check then .ok (version, payload)
        else .error .checksumMismatch) := by
  have hlen : (version :: payload ++ check).length - 4 = (version :: payload).length := by
    rw [List.length_append, h, Nat.add_sub_cancel]
  have henough : ¬(version :: payload ++ check).length < 5 := by
    rw [List.length_append, List.length_cons, h]
    omega
  have hcut : (version :: payload).length ≤ (version :: payload ++ check).length := by
    rw [List.length_append]
    exact Nat.le_add_right _ _
  have hhash : 4 ≤ (hash (version :: payload)).bytes.length := by
    rw [Digest.length_bytes]
    decide
  have hversion : byteAt (version :: payload) 0 = .ok version := rfl
  have hpayload : bytesAfter (version :: payload) 1 = .ok payload :=
    bytesAfter_of_le (Nat.le_add_left _ _)
  unfold splitCheckWith
  rw [if_neg henough, hlen, bytesBefore_of_le hcut, bytesAfter_of_le hcut, List.take_left,
    List.drop_left]
  show (bytesBefore (hash (version :: payload)).bytes 4 >>= _) = _
  rw [bytesBefore_of_le hhash, hversion, hpayload]
  by_cases hcheck : (hash (version :: payload)).bytes.take 4 = check
  · rw [if_pos hcheck]
    exact if_pos hcheck
  · rw [if_neg hcheck]
    exact if_neg hcheck

/-! ## Verdicts -/

/-- **The answer for a text**, given what is written for a version byte and a payload. It depends on the
    text alone, and there is one for each text (`IsVerdict.unique`). -/
structure IsVerdict (write : UInt8 → Bytes → Text) (t : Text)
    (answer : Except AddressError (UInt8 × Bytes)) : Prop where
  /-- What is written is accepted, and nothing else. -/
  eq_ok_iff (version : UInt8) (payload : Bytes) :
    answer = .ok (version, payload) ↔ t = write version payload
  /-- The first character outside the alphabet is named. -/
  of_foreign {before after : Text} {c : Char} : t = before ++ c :: after →
    (∀ d ∈ before, d ∈ alphabet) → c ∉ alphabet → answer = .error (.invalidCharacter c)
  /-- A text over the alphabet stands for bytes. Fewer than five of them are too few, and otherwise the
      checksum is wrong, unless the text is a written one. -/
  of_digits : (∀ c ∈ t, c ∈ alphabet) → ∃ data, decode t = .ok data ∧
    (data.length < 5 → answer = .error (.tooShort data.length)) ∧
    (5 ≤ data.length → (∀ version payload, t ≠ write version payload) →
      answer = .error .checksumMismatch)
  /-- The format is never in question. -/
  recognized : answer ≠ .error .unrecognizedFormat

/-- A text with a character outside the alphabet is refused for the first one. -/
theorem decodeCheckWith_of_foreign {before after : Text} {c : Char}
    (hbefore : ∀ d ∈ before, d ∈ alphabet) (hc : c ∉ alphabet) :
    decodeCheckWith hash (before ++ c :: after) = .ok (.error (.invalidCharacter c)) := by
  have hfirst : (before ++ c :: after).find? (!alphabet.contains ·) = some c := by
    refine List.find?_eq_some_iff_append.mpr ⟨by simpa using hc, before, after, rfl, ?_⟩
    intro d hd
    simpa using hbefore d hd
  unfold decodeCheckWith
  simp only [hfirst]

/-- **The second look at the characters** finds nothing that the first one did not find. -/
theorem decodeCheckWith_of_decode {t : Text} {data : Bytes} (h : decode t = .ok data) :
    decodeCheckWith hash t = splitCheckWith hash data := by
  have hnone : t.find? (!alphabet.contains ·) = none := by
    rw [List.find?_eq_none]
    intro c hc
    simpa using mem_alphabet_of_decode h c hc
  unfold decodeCheckWith
  simp only [hnone, h]

/-- A text is over the alphabet, or there is a first character that is not in it. -/
theorem digits_or_foreign (t : Text) : (∀ c ∈ t, c ∈ alphabet) ∨
    ∃ before c after, t = before ++ c :: after ∧ (∀ d ∈ before, d ∈ alphabet) ∧ c ∉ alphabet := by
  cases hfirst : t.find? (!alphabet.contains ·) with
  | none => exact .inl fun c hc => by simpa using List.find?_eq_none.mp hfirst c hc
  | some c =>
    obtain ⟨hc, before, after, hsplit, hbefore⟩ := List.find?_eq_some_iff_append.mp hfirst
    refine .inr ⟨before, c, after, hsplit, ?_, by simpa using hc⟩
    intro d hd
    simpa using hbefore d hd

/-- **There is one answer** for each text. -/
theorem IsVerdict.unique {write : UInt8 → Bytes → Text} {t : Text}
    {answer answer' : Except AddressError (UInt8 × Bytes)} (h : IsVerdict write t answer)
    (h' : IsVerdict write t answer') : answer = answer' := by
  rcases digits_or_foreign t with hall | ⟨before, c, after, hsplit, hbefore, hc⟩
  · obtain ⟨data, hdata, hshort, hlong⟩ := h.of_digits hall
    obtain ⟨data', hdata', hshort', hlong'⟩ := h'.of_digits hall
    obtain rfl := Except.ok.inj (hdata.symm.trans hdata')
    by_cases hlen : data.length < 5
    · rw [hshort hlen, hshort' hlen]
    · by_cases hwritten : ∃ version payload, t = write version payload
      · obtain ⟨version, payload, htext⟩ := hwritten
        rw [(h.eq_ok_iff version payload).mpr htext, (h'.eq_ok_iff version payload).mpr htext]
      · have hother : ∀ version payload, t ≠ write version payload := fun version payload htext =>
          hwritten ⟨version, payload, htext⟩
        rw [hlong (Nat.le_of_not_lt hlen) hother, hlong' (Nat.le_of_not_lt hlen) hother]
  · rw [h.of_foreign hsplit hbefore hc, h'.of_foreign hsplit hbefore hc]

/-- What is written is over the alphabet. -/
theorem mem_alphabet_of_encode {bs : Bytes} : ∀ c ∈ encode bs, c ∈ alphabet :=
  mem_alphabet_of_decode (decode_eq_ok_iff.mpr rfl)

/-- What is written has a version byte and four bytes of checksum. -/
theorem five_le_of_decode_encodeCheckWith {version : UInt8} {payload data : Bytes}
    (h : decode (encodeCheckWith hash version payload) = .ok data) : 5 ≤ data.length := by
  have hdata : decode (encodeCheckWith hash version payload) =
      .ok (version :: payload ++ (hash (version :: payload)).bytes.take 4) :=
    decode_eq_ok_iff.mpr rfl
  obtain rfl := Except.ok.inj (h.symm.trans hdata)
  have hcheck : ((hash (version :: payload)).bytes.take 4).length = 4 := by
    rw [List.length_take, Digest.length_bytes]
    rfl
  rw [List.length_append, hcheck, List.length_cons]
  omega

/-- A text with a character outside the alphabet gets the answer that it has to get. -/
theorem isVerdict_of_foreign {before after : Text} {c : Char} (hbefore : ∀ d ∈ before, d ∈ alphabet)
    (hc : c ∉ alphabet) :
    IsVerdict (encodeCheckWith hash) (before ++ c :: after) (.error (.invalidCharacter c)) := by
  have hmem : c ∈ before ++ c :: after := List.mem_append_right _ List.mem_cons_self
  refine ⟨?_, ?_, fun hall => absurd (hall c hmem) hc, nofun⟩
  · -- What is written has no such character.
    intro version payload
    refine iff_of_false nofun fun h => hc ?_
    rw [h] at hmem
    exact mem_alphabet_of_encode c hmem
  · intro before' after' c' hsplit hbefore' hc'
    have h : decodeCheckWith hash (before ++ c :: after) = .ok (.error (.invalidCharacter c')) := by
      rw [hsplit]
      exact decodeCheckWith_of_foreign hbefore' hc'
    exact Except.ok.inj ((decodeCheckWith_of_foreign hbefore hc).symm.trans h)

/-- Fewer than five bytes get the answer that they have to get. -/
theorem isVerdict_of_short {t : Text} {data : Bytes} (hdata : decode t = .ok data)
    (hshort : data.length < 5) :
    IsVerdict (encodeCheckWith hash) t (.error (.tooShort data.length)) := by
  refine ⟨?_, ?_, fun _ => ⟨data, hdata, fun _ => rfl, ?_⟩, nofun⟩
  · intro version payload
    refine iff_of_false nofun fun h => ?_
    rw [h] at hdata
    exact Nat.not_lt.mpr (five_le_of_decode_encodeCheckWith hdata) hshort
  · intro before after c hsplit _ hc
    exact absurd (mem_alphabet_of_split hdata hsplit) hc
  · intro hlong
    exact absurd hshort (Nat.not_lt.mpr hlong)

/-- A version byte, a payload and four more bytes get the answer that they have to get. -/
theorem isVerdict_of_framed {t : Text} {version : UInt8} {payload check : Bytes}
    (hdata : decode t = .ok (version :: payload ++ check)) (hcheck : check.length = 4) :
    IsVerdict (encodeCheckWith hash) t
      (if (hash (version :: payload)).bytes.take 4 = check then .ok (version, payload)
        else .error .checksumMismatch) := by
  have htext : t = encode (version :: payload ++ check) := decode_eq_ok_iff.mp hdata
  have hwritten (version' : UInt8) (payload' : Bytes) : t = encodeCheckWith hash version' payload' ↔
      (version' = version ∧ payload' = payload) ∧
        (hash (version :: payload)).bytes.take 4 = check := by
    have hhash : ((hash (version' :: payload')).bytes.take 4).length = check.length := by
      rw [List.length_take, Digest.length_bytes, hcheck]
      rfl
    rw [encodeCheckWith, ← decode_eq_ok_iff, hdata, Except.ok.injEq]
    constructor
    · intro h
      obtain ⟨hbody, hlast⟩ := List.append_inj' h hhash.symm
      obtain ⟨rfl, rfl⟩ := List.cons.inj hbody
      exact ⟨⟨rfl, rfl⟩, hlast.symm⟩
    · intro h
      obtain ⟨⟨rfl, rfl⟩, hlast⟩ := h
      rw [hlast]
  refine ⟨?_, ?_, fun _ => ⟨_, hdata, ?_, ?_⟩, ?_⟩
  · intro version' payload'
    rw [hwritten]
    split
    · next h => simp [h, eq_comm]
    · next h => simp [h]
  · intro before after c hsplit _ hc
    exact absurd (mem_alphabet_of_split hdata hsplit) hc
  · intro hshort
    rw [List.length_append, hcheck, List.length_cons] at hshort
    omega
  · intro _ hother
    have hne : (hash (version :: payload)).bytes.take 4 ≠ check := fun h =>
      hother version payload ((hwritten version payload).mpr ⟨⟨rfl, rfl⟩, h⟩)
    rw [if_neg hne]
  · split <;> nofun

/-- **Every text gets the answer that it has to get**, whatever the hash is, and no slice is out of
    bounds on the way. -/
theorem exists_isVerdict (hash : Bytes → Digest 32) (t : Text) :
    ∃ answer, decodeCheckWith hash t = .ok answer ∧ IsVerdict (encodeCheckWith hash) t answer := by
  rcases digits_or_foreign t with hall | ⟨before, c, after, rfl, hbefore, hc⟩
  · obtain ⟨data, hdata⟩ := exists_decode hall
    rw [decodeCheckWith_of_decode hdata]
    by_cases hshort : data.length < 5
    · exact ⟨_, if_pos hshort, isVerdict_of_short hdata hshort⟩
    · obtain ⟨version, payload, check, rfl, hcheck⟩ := exists_framed (Nat.le_of_not_lt hshort)
      exact ⟨_, splitCheckWith_framed hcheck, isVerdict_of_framed hdata hcheck⟩
  · exact ⟨_, decodeCheckWith_of_foreign hbefore hc, isVerdict_of_foreign hbefore hc⟩

/-! ## The codec of the addresses -/

/-- Byte strings are taken apart in the same way by pattern and by position. -/
theorem splitCheckWith_hash256 (data : Bytes) :
    splitCheckWith hash256 data = .ok (splitCheck data) := by
  by_cases hshort : data.length < 5
  · rw [splitCheckWith, if_pos hshort]
    cases data with
    | nil => rfl
    | cons version rest =>
      have hrest : rest.length < 4 := Nat.lt_of_succ_lt_succ hshort
      rw [splitCheck, if_pos hrest, List.length_cons]
  · obtain ⟨version, payload, check, rfl, hcheck⟩ := exists_framed (Nat.le_of_not_lt hshort)
    have hcut : (payload ++ check).length - 4 = payload.length := by
      rw [List.length_append, hcheck, Nat.add_sub_cancel]
    have henough : ¬(payload ++ check).length < 4 := by
      rw [List.length_append, hcheck]
      omega
    rw [splitCheckWith_framed hcheck, List.cons_append, splitCheck, if_neg henough]
    simp only [hcut, List.take_left, List.drop_left]
    rfl

/-- **`decodeCheck` is this reader**, with the hash that the addresses have. -/
theorem decodeCheckWith_hash256 (t : Text) :
    decodeCheckWith hash256 t = .ok (decodeCheck t) := by
  rw [decodeCheck, decodeRaw]
  rcases digits_or_foreign t with hall | ⟨before, c, after, rfl, hbefore, hc⟩
  · obtain ⟨data, hdata⟩ := exists_decode hall
    rw [decodeCheckWith_of_decode hdata, splitCheckWith_hash256, hdata]
    rfl
  · have hfirst : firstForeign? (before ++ c :: after) = some c := by
      refine List.find?_eq_some_iff_append.mpr ⟨?_, before, after, rfl, ?_⟩
      · rw [Option.isNone_iff_eq_none, Option.eq_none_iff_forall_ne_some]
        intro d hd
        exact hc (exists_digitValue?_iff.mp ⟨d, hd⟩)
      · intro d hd
        obtain ⟨value, hvalue⟩ := exists_digitValue?_iff.mpr (hbefore d hd)
        rw [hvalue]
        rfl
    rw [decodeCheckWith_of_foreign hbefore hc, decode, hfirst]
    rfl

/-- **Base58Check is a canonical codec, and its failures are exact.** A text is accepted exactly if it
    is written for a version byte and a payload, and each other text fails in the one way that its
    characters, its length and its checksum leave. The reader that cuts by position gives the same
    answer, so that it never cuts beyond the end, and with another hash in both directions the same
    holds of it. -/
theorem isVerdict_decodeCheck (t : Text) :
    IsVerdict encodeCheck t (decodeCheck t) ∧
      decodeCheckWith hash256 t = .ok (decodeCheck t) ∧
      ∀ hash : Bytes → Digest 32, ∃ answer,
        decodeCheckWith hash t = .ok answer ∧ IsVerdict (encodeCheckWith hash) t answer := by
  obtain ⟨answer, hanswer, hverdict⟩ := exists_isVerdict hash256 t
  have hsame : decodeCheck t = answer :=
    Except.ok.inj ((decodeCheckWith_hash256 t).symm.trans hanswer)
  rw [hsame]
  exact ⟨hverdict, hanswer, fun hash => exists_isVerdict hash t⟩

/-- Four bytes have no room for a version byte and a checksum. -/
example : decodeCheck "1Ldp".toList = .error (.tooShort 4) := by decide +kernel

end BitcoinCash.Base58
