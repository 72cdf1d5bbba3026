import BitcoinCash.Base58.Check
import Mathlib.Data.List.TakeWhile
import Mathlib.Data.Nat.Digits.Lemmas

/-! # One text for each byte string

  Base 58 and Base58Check texts are accepted exactly if they are written for some bytes.

  - **`rebase`** takes digits from one base to another. Zeros in front are kept as they are, and
    the rest is one number, so that going there and back changes nothing (`rebase_rebase`).
  - **`decode_eq_ok_iff`** says that a text is read as the bytes that it is written for.
  - **`decodeCheck_eq_ok_iff`** says the same of a version byte and a payload with a checksum.
-/

namespace BitcoinCash

/-- A failure that is reported as another one leaves a success as it is. -/
theorem except_mapError_eq_ok_iff {ε ε' α : Type} {x : Except ε α} {f : ε → ε'} {a : α} :
    x.mapError f = .ok a ↔ x = .ok a := by
  cases x <;> simp [Except.mapError]

namespace Base58

/-! ## Digits -/

variable {b : Nat}

theorem digitsOnto_eq (base : 1 < b) (n : Nat) (tail : List Nat) :
    digitsOnto b base n tail = (Nat.digits b n).reverse ++ tail := by
  induction n using Nat.strongRecOn generalizing tail with
  | ind n ih =>
    rw [digitsOnto]
    split
    · next h => rw [h, Nat.digits_zero]; rfl
    · next h =>
      have hsmaller : n / b < n := Nat.div_lt_self (Nat.pos_of_ne_zero h) base
      rw [ih (n / b) hsmaller, Nat.digits_def' base (Nat.pos_of_ne_zero h), List.reverse_cons,
        List.append_assoc]
      rfl

/-- The digits are those of the library, which come lowest first. -/
theorem digits_eq_reverse (base : 1 < b) (n : Nat) : digits b base n = (Nat.digits b n).reverse := by
  rw [digits, digitsOnto_eq, List.append_nil]

theorem ofDigits_append_singleton (b : Nat) (ds : List Nat) (d : Nat) :
    ofDigits b (ds ++ [d]) = b * ofDigits b ds + d := by
  rw [ofDigits, List.foldl_append]
  rfl

theorem ofDigits_eq_reverse (b : Nat) (ds : List Nat) :
    ofDigits b ds = Nat.ofDigits b ds.reverse := by
  induction ds using List.reverseRecOn with
  | nil => rfl
  | append_singleton ds d ih =>
    rw [ofDigits_append_singleton, ih, List.reverse_append, List.reverse_singleton,
      List.singleton_append, Nat.ofDigits_cons]
    exact Nat.add_comm _ _

theorem ofDigits_digits (base : 1 < b) (n : Nat) : ofDigits b (digits b base n) = n := by
  rw [ofDigits_eq_reverse, digits_eq_reverse, List.reverse_reverse, Nat.ofDigits_digits]

theorem digits_lt (base : 1 < b) (n : Nat) : ∀ d ∈ digits b base n, d < b := by
  intro d hd
  rw [digits_eq_reverse, List.mem_reverse] at hd
  exact Nat.digits_lt_base base hd

/-- Digits that do not begin with a zero are the digits of their number. -/
theorem digits_ofDigits (base : 1 < b) {ds : List Nat} (hds : ∀ d ∈ ds, d < b)
    (hhead : ds.head? ≠ some 0) : digits b base (ofDigits b ds) = ds := by
  rw [digits_eq_reverse, ofDigits_eq_reverse, Nat.digits_ofDigits b base, List.reverse_reverse]
  · intro d hd
    exact hds d (List.mem_reverse.mp hd)
  · -- The last digit of the reversed list is the first one here.
    intro hne hlast
    have hnil : ds ≠ [] := by simpa using hne
    rw [List.getLast_reverse] at hlast
    exact hhead (by rw [List.head?_eq_some_head hnil, hlast])

/-- The digits of a number do not begin with a zero. -/
theorem head?_digits_ne (base : 1 < b) (n : Nat) : (digits b base n).head? ≠ some 0 := by
  rw [digits_eq_reverse, List.head?_reverse]
  by_cases h : n = 0
  · rw [h, Nat.digits_zero]
    simp
  · rw [List.getLast?_eq_some_getLast (Nat.digits_ne_nil_iff_ne_zero.mpr h), ne_eq,
      Option.some.injEq]
    exact Nat.getLast_digit_ne_zero b h

/-! ## Zeros in front -/

/-- The count of zeros that a list of digits begins with. -/
def zerosInFront (ds : List Nat) : Nat :=
  (ds.takeWhile (· == 0)).length

theorem zerosInFront_replicate (k : Nat) {ds : List Nat} (h : ds.head? ≠ some 0) :
    zerosInFront (List.replicate k 0 ++ ds) = k := by
  have hds : ds.takeWhile (· == 0) = [] := by
    cases ds with
    | nil => rfl
    | cons d ds =>
      have hd : d ≠ 0 := by simpa using h
      exact List.takeWhile_cons_of_neg (by simpa using hd)
  rw [zerosInFront, List.takeWhile_append_of_pos (by simp), hds, List.append_nil,
    List.length_replicate]

theorem ofDigits_replicate (b k : Nat) (ds : List Nat) :
    ofDigits b (List.replicate k 0 ++ ds) = ofDigits b ds := by
  rw [ofDigits_eq_reverse, List.reverse_append, List.reverse_replicate,
    Nat.ofDigits_append_replicate_zero, ofDigits_eq_reverse]

/-- Digits are their zeros in front and the digits of their number. -/
theorem replicate_append_digits (base : 1 < b) {ds : List Nat} (hds : ∀ d ∈ ds, d < b) :
    List.replicate (zerosInFront ds) 0 ++ digits b base (ofDigits b ds) = ds := by
  have hzeros : ds.takeWhile (· == 0) = List.replicate (zerosInFront ds) 0 := by
    rw [zerosInFront, List.eq_replicate_iff]
    exact ⟨rfl, fun d hd => by simpa using List.mem_takeWhile_imp hd⟩
  have hsplit : List.replicate (zerosInFront ds) 0 ++ ds.dropWhile (· == 0) = ds := by
    rw [← hzeros, List.takeWhile_append_dropWhile]
  have hhead : (ds.dropWhile (· == 0)).head? ≠ some 0 := by
    intro h
    simpa [h] using List.head?_dropWhile_not (· == 0) ds
  have hrest : ∀ d ∈ ds.dropWhile (· == 0), d < b := fun d hd =>
    hds d ((List.dropWhile_suffix _).subset hd)
  conv => lhs; rw [← hsplit]
  rw [zerosInFront_replicate _ hhead, ofDigits_replicate, digits_ofDigits base hrest hhead, hsplit]

/-- **Digits in another base**: as many zeros in front, and then the same number. -/
def rebase (b b' : Nat) (base' : 1 < b') (ds : List Nat) : List Nat :=
  List.replicate (zerosInFront ds) 0 ++ digits b' base' (ofDigits b ds)

theorem rebase_lt (b : Nat) {b' : Nat} (base' : 1 < b') (ds : List Nat) :
    ∀ d ∈ rebase b b' base' ds, d < b' := by
  intro d hd
  rcases List.mem_append.mp hd with h | h
  · rw [List.eq_of_mem_replicate h]
    exact Nat.lt_trans Nat.zero_lt_one base'
  · exact digits_lt base' _ d h

/-- **There and back** is nothing. -/
theorem rebase_rebase {b' : Nat} (base : 1 < b) (base' : 1 < b') {ds : List Nat}
    (hds : ∀ d ∈ ds, d < b) : rebase b' b base (rebase b b' base' ds) = ds := by
  rw [rebase, rebase, zerosInFront_replicate _ (head?_digits_ne base' _), ofDigits_replicate,
    ofDigits_digits, replicate_append_digits base hds]

/-! ## Characters -/

theorem digitValue?_digitChar {d : Nat} (h : d < 58) : digitValue? (digitChar d) = some d := by
  revert d
  decide +kernel

theorem digitValue?_eq_some_iff {c : Char} {d : Nat} :
    digitValue? c = some d ↔ d < 58 ∧ digitChar d = c := by
  constructor
  · intro h
    obtain ⟨hlt, hc, -⟩ := List.idxOf?_eq_some_iff.mp h
    refine ⟨hlt, ?_⟩
    rw [digitChar, List.getD_eq_getElem?_getD, List.getElem?_eq_getElem hlt, Option.getD_some, hc]
  · rintro ⟨hlt, rfl⟩
    exact digitValue?_digitChar hlt

theorem firstForeign?_eq_none_iff {t : Text} :
    firstForeign? t = none ↔ ∀ c ∈ t, ∃ d, digitValue? c = some d := by
  rw [firstForeign?, List.find?_eq_none]
  apply forall₂_congr
  intro c _
  rw [Bool.not_eq_true, Option.isNone_eq_false_iff, Option.isSome_iff_exists]

theorem filterMap_map_digitChar {ds : List Nat} (h : ∀ d ∈ ds, d < 58) :
    (ds.map digitChar).filterMap digitValue? = ds := by
  induction ds with
  | nil => rfl
  | cons d ds ih =>
    rw [List.map_cons, List.filterMap_cons_some (digitValue?_digitChar (h d List.mem_cons_self)),
      ih fun d hd => h d (List.mem_cons_of_mem _ hd)]

/-- A text over the alphabet is spelled by the values of its characters. -/
theorem map_digitChar_filterMap {t : Text} (h : ∀ c ∈ t, ∃ d, digitValue? c = some d) :
    (t.filterMap digitValue?).map digitChar = t := by
  induction t with
  | nil => rfl
  | cons c t ih =>
    obtain ⟨d, hd⟩ := h c List.mem_cons_self
    rw [List.filterMap_cons_some hd, List.map_cons, (digitValue?_eq_some_iff.mp hd).2,
      ih fun c hc => h c (List.mem_cons_of_mem _ hc)]

theorem filterMap_digitValue?_lt (t : Text) : ∀ d ∈ t.filterMap digitValue?, d < 58 := by
  intro d hd
  obtain ⟨c, -, hc⟩ := List.mem_filterMap.mp hd
  exact (digitValue?_eq_some_iff.mp hc).1

/-! ## Texts and bytes -/

theorem ofBigEndian_eq (bs : Bytes) : Bytes.ofBigEndian bs = ofDigits 256 (bs.map UInt8.toNat) := by
  rw [Bytes.ofBigEndian, ofDigits, List.foldl_map]

theorem zerosInFront_bytes (bs : Bytes) :
    zerosInFront (bs.map UInt8.toNat) = (bs.takeWhile (· == 0)).length := by
  have hzero : (fun b : UInt8 => b.toNat == 0) = (· == 0) := by
    funext b
    rw [Bool.eq_iff_iff, beq_iff_eq, beq_iff_eq]
    exact UInt8.toNat_inj (b := 0)
  rw [zerosInFront, List.takeWhile_map, List.length_map]
  exact congrArg (fun p => (bs.takeWhile p).length) hzero

/-- Writing takes the bytes to base 58. -/
theorem encode_eq_rebase (bs : Bytes) :
    encode bs = (rebase 256 58 (by decide) (bs.map UInt8.toNat)).map digitChar := by
  rw [encode, rebase, List.map_append, List.map_replicate, List.map_const', ofBigEndian_eq,
    zerosInFront_bytes]
  rfl

/-- Reading takes the digits to base 256. -/
theorem bytesOf_eq_rebase (t : Text) :
    bytesOf t = (rebase 58 256 (by decide) (t.filterMap digitValue?)).map UInt8.ofNat := by
  rw [bytesOf, rebase, List.map_append, List.map_replicate, List.map_const']
  rfl

theorem map_toNat_map_ofNat {ds : List Nat} (h : ∀ d ∈ ds, d < 256) :
    (ds.map UInt8.ofNat).map UInt8.toNat = ds := by
  rw [List.map_map]
  exact (List.map_congr_left fun d hd => UInt8.toNat_ofNat_of_lt' (h d hd)).trans (List.map_id' ds)

theorem map_ofNat_map_toNat (bs : Bytes) : (bs.map UInt8.toNat).map UInt8.ofNat = bs := by
  rw [List.map_map]
  exact List.map_id'' (fun b => UInt8.ofNat_toNat) bs

/-- **A text is read as the bytes that it is written for**, and as nothing else. -/
theorem decode_eq_ok_iff {t : Text} {bs : Bytes} : decode t = .ok bs ↔ t = encode bs := by
  constructor
  · intro h
    rw [decode] at h
    split at h
    · simp at h
    · next hforeign =>
      -- All characters are digits, so no part of the text is lost on the way to base 256.
      cases h
      rw [encode_eq_rebase, bytesOf_eq_rebase, map_toNat_map_ofNat (rebase_lt 58 _ _),
        rebase_rebase _ _ (filterMap_digitValue?_lt t),
        map_digitChar_filterMap (firstForeign?_eq_none_iff.mp hforeign)]
  · rintro rfl
    have hbytes : ∀ d ∈ bs.map UInt8.toNat, d < 256 := by
      intro d hd
      obtain ⟨b, -, rfl⟩ := List.mem_map.mp hd
      exact b.toNat_lt
    have hdigits : ∀ d ∈ rebase 256 58 (by decide) (bs.map UInt8.toNat), d < 58 :=
      rebase_lt 256 _ _
    have hforeign : firstForeign? (encode bs) = none := by
      rw [firstForeign?_eq_none_iff, encode_eq_rebase]
      intro c hc
      obtain ⟨d, hd, rfl⟩ := List.mem_map.mp hc
      exact ⟨d, digitValue?_digitChar (hdigits d hd)⟩
    rw [decode, hforeign, bytesOf_eq_rebase, encode_eq_rebase, filterMap_map_digitChar hdigits,
      rebase_rebase _ _ hbytes, map_ofNat_map_toNat]

/-! ## Checksums -/

@[simp] theorem length_checksum (body : Bytes) : (checksum body).length = 4 := by
  rw [checksum, List.length_take, (hash256 body).length_bytes]
  rfl

/-- Bytes are taken apart exactly if the last four of them are the checksum of the others. -/
theorem splitCheck_eq_ok_iff {bs : Bytes} {version : UInt8} {payload : Bytes} :
    splitCheck bs = .ok (version, payload) ↔
      bs = version :: payload ++ checksum (version :: payload) := by
  constructor
  · intro h
    cases bs with
    | nil => simp [splitCheck] at h
    | cons first rest =>
      rw [splitCheck] at h
      split at h
      · simp at h
      · dsimp only at h
        split at h
        · -- The payload is what stands before the last four bytes.
          next hcheck =>
          cases h
          rw [hcheck, List.cons_append, List.take_append_drop]
        · simp at h
  · rintro rfl
    have hlen : (payload ++ checksum (version :: payload)).length - 4 = payload.length := by
      rw [List.length_append, length_checksum, Nat.add_sub_cancel]
    have henough : ¬(payload ++ checksum (version :: payload)).length < 4 := by
      rw [List.length_append, length_checksum]
      omega
    rw [List.cons_append, splitCheck, if_neg henough]
    simp only [hlen, List.take_left, List.drop_left, if_true]

/-- **A Base58Check text is read as the version byte and the payload that it is written for.** -/
theorem decodeCheck_eq_ok_iff {t : Text} {version : UInt8} {payload : Bytes} :
    decodeCheck t = .ok (version, payload) ↔ t = encodeCheck version payload := by
  have hraw : ∀ bs, decodeRaw t = .ok bs ↔ t = encode bs := by
    intro bs
    rw [← decode_eq_ok_iff, decodeRaw, except_mapError_eq_ok_iff]
  rw [encodeCheck, ← hraw, decodeCheck]
  cases decodeRaw t with
  | error e => simp [bind, Except.bind]
  | ok bs =>
    rw [Except.ok.injEq, ← splitCheck_eq_ok_iff]
    rfl

end Base58

end BitcoinCash
