import BitcoinCash.Proofs.CashAddr.Spelling

/-! # Bursts of damage

  The checksum detects every change that stays within eight places in a row, in bodies of any
  length.

  - **Nothing is lost**: different registers stay different, whatever is taken in
    (`absorb_left_inj`), and up to eight symbols are told apart by the register after them
    (`absorb_right_inj`).
  - **`eq_of_verifies_burst`** puts the two together: two lists that pass under one prefix and
    agree outside of eight places agree in these places, too.
  - **`decodeSymbols_burst`** is the main statement, on texts. The letters of the bodies may be in
    either case. A capital sigma in the prefix then needs some care, because its small form depends
    on the letters after it.
-/

namespace BitcoinCash.CashAddr

/-! ## The register forgets nothing -/

/-- The symbol that leaves the register at the top comes back as the lowest symbol of what it
    adds: the divisor ends in one. -/
theorem feedback_mod (top : UInt8) (h : top.toNat < 32) :
    (feedback top).toNat % 32 = top.toNat := by
  have hall : ∀ n < 32, (feedback (UInt8.ofNat n)).toNat % 32 = n := by decide +kernel
  have hn := hall top.toNat h
  rwa [UInt8.ofNat_toNat] at hn

/-- Only the zero register becomes zero when it takes in a zero. -/
theorem eq_zero_of_step_eq_zero {r : UInt64} (hr : r.toNat < 2 ^ 40) (h : step r 0 = 0) : r = 0 := by
  have hstep : step r 0 = ((r &&& 0x07ffffffff) <<< 5) ^^^ feedback (r >>> 35).toUInt8 := by
    show (((r &&& 0x07ffffffff) <<< 5) ^^^ (0 : UInt64)) ^^^ feedback (r >>> 35).toUInt8 = _
    rw [UInt64.xor_zero]
  -- What is kept and what is added cancel, so they are the same.
  have hcancel : (r &&& 0x07ffffffff) <<< 5 = feedback (r >>> 35).toUInt8 := by
    rw [hstep] at h
    exact UInt64.xor_eq_zero_iff.mp h
  -- The lowest symbol of what is kept is zero, so the top symbol is zero.
  have htop : (r >>> 35).toUInt8.toNat = 0 := by
    have hlt : (r >>> 35).toUInt8.toNat < 32 := by
      rw [toNat_top hr]
      exact Nat.div_lt_of_lt_mul hr
    rw [← feedback_mod _ hlt, ← hcancel, toNat_kept, Nat.mul_mod_right]
  have hzero : (r >>> 35).toUInt8 = 0 := UInt8.toNat.inj htop
  -- Then nothing is added, so what is kept is zero, too.
  have hkept : r.toNat % 2 ^ 35 = 0 := by
    have hmul : 32 * (r.toNat % 2 ^ 35) = 0 := by
      rw [← toNat_kept, hcancel, hzero, feedback_zero]
      rfl
    exact (Nat.mul_eq_zero.mp hmul).resolve_left (by decide)
  rw [toNat_top hr] at htop
  apply UInt64.toNat.inj
  rw [← Nat.div_add_mod r.toNat (2 ^ 35), htop, hkept]
  rfl

/-- **A step is injective** in the register. -/
theorem step_inj {r r' : UInt64} (hr : r.toNat < 2 ^ 40) (hr' : r'.toNat < 2 ^ 40) {s : Symbol}
    (h : step r s = step r' s) : r = r' := by
  have hsum : (r ^^^ r').toNat < 2 ^ 40 := by
    rw [UInt64.toNat_xor]
    exact Nat.xor_lt_two_pow hr hr'
  -- By linearity, the sum of the two registers takes in the symbol zero and becomes zero.
  have hzero : step (r ^^^ r') 0 = 0 := by
    have hself : s ^^^ s = 0 := BitVec.xor_self
    rw [← hself, step_xor, h, UInt64.xor_self]
  exact UInt64.xor_eq_zero_iff.mp (eq_zero_of_step_eq_zero hsum hzero)

/-- **Different registers stay different**, whatever they take in. -/
theorem absorb_left_inj {r r' : UInt64} (hr : r.toNat < 2 ^ 40) (hr' : r'.toNat < 2 ^ 40)
    {ss : List Symbol} (h : absorb r ss = absorb r' ss) : r = r' := by
  induction ss generalizing r r' with
  | nil => exact h
  | cons s ss ih =>
    have hnext : step r s = step r' s := ih (step_lt r s) (step_lt r' s) h
    exact step_inj hr hr' hnext

/-- **Up to eight symbols are told apart** by the register after them, whatever it was before. -/
theorem absorb_right_inj {r : UInt64} {ss ts : List Symbol} (hlen : ss.length = ts.length)
    (hshort : ss.length ≤ checksumLength) (h : absorb r ss = absorb r ts) : ss = ts := by
  rw [absorb_eq_xor r ss, absorb_eq_xor r ts, hlen] at h
  have hzero : absorb 0 ss = absorb 0 ts := (UInt64.xor_right_inj _).mp h
  have hnat : ofSymbols ss = ofSymbols ts := by
    rw [← toNat_absorb_zero hshort, ← toNat_absorb_zero (hlen ▸ hshort), hzero]
  rw [← symbolsOf_ofSymbols hlen, hnat, symbolsOf_ofSymbols rfl]

/-- **A burst is detected.** If two lists of symbols pass under one prefix, and agree outside of at
    most eight places in a row, then they are the same. -/
theorem eq_of_verifies_burst {cashPrefix : Text} {before burst burst' after : List Symbol}
    (hlen : burst.length = burst'.length) (hshort : burst.length ≤ checksumLength)
    (h : verifies cashPrefix (before ++ burst ++ after) = true)
    (h' : verifies cashPrefix (before ++ burst' ++ after) = true) : burst = burst' := by
  have hregister : ∀ ss, verifies cashPrefix (before ++ ss ++ after) = true →
      absorb (absorb (absorb (prefixRegister cashPrefix) before) ss) after = 1 := by
    intro ss hss
    have hpass := verifies_iff_absorb.mp hss
    rwa [absorb_append, absorb_append] at hpass
  have hstart : (absorb (prefixRegister cashPrefix) before).toNat < 2 ^ 40 :=
    absorb_lt _ (prefixRegister_lt cashPrefix) before
  -- What comes after the burst leaves the registers different, so they were the same before it.
  have hsame := absorb_left_inj (absorb_lt _ hstart burst) (absorb_lt _ hstart burst')
    ((hregister burst h).trans (hregister burst' h').symm)
  exact absorb_right_inj hlen hshort hsame

/-! ## Texts with a burst of damage -/

/-- **A burst of damage**: two different bodies over the alphabet, with room for a checksum and of
    the same length, that differ only within some eight places in a row. -/
structure IsBurst (body body' : Text) : Prop where
  /-- The body is spelled with symbols. -/
  mem_charset : ∀ c ∈ body, c ∈ Symbol.charset
  /-- So is the damaged body. -/
  mem_charset' : ∀ c ∈ body', c ∈ Symbol.charset
  /-- There is room for a checksum. -/
  checksumLength_le : checksumLength ≤ body.length
  /-- Nothing is inserted or left out. -/
  length_eq : body.length = body'.length
  /-- Something is changed. -/
  ne : body ≠ body'
  /-- All changes are in the window of eight places from `start` on. -/
  window : ∃ start, ∀ i, body[i]? ≠ body'[i]? → start ≤ i ∧ i < start + checksumLength

theorem exists_char_of_mem_charset {c : Char} (h : c ∈ Symbol.charset) :
    ∃ s : Symbol, s.char = c := by
  obtain ⟨i, hi⟩ := Option.isSome_iff_exists.mp (List.isSome_idxOf?.mpr h)
  have hs : Symbol.ofChar? c = some (BitVec.ofNat 5 i) := by
    rw [Symbol.ofChar?, hi]
    rfl
  exact ⟨_, char_of_ofChar? hs⟩

/-- A text over the alphabet is spelled with symbols. -/
theorem exists_map_char {t : Text} (h : ∀ c ∈ t, c ∈ Symbol.charset) :
    ∃ ss : List Symbol, t = ss.map Symbol.char := by
  induction t with
  | nil => exact ⟨[], rfl⟩
  | cons c t ih =>
    obtain ⟨s, hs⟩ := exists_char_of_mem_charset (h c List.mem_cons_self)
    obtain ⟨ss, hss⟩ := ih fun c hc => h c (List.mem_cons_of_mem _ hc)
    exact ⟨s :: ss, by rw [List.map_cons, hs, ← hss]⟩

namespace IsBurst

variable {body body' : Text}

theorem symm (h : IsBurst body body') : IsBurst body' body where
  mem_charset := h.mem_charset'
  mem_charset' := h.mem_charset
  checksumLength_le := h.length_eq ▸ h.checksumLength_le
  length_eq := h.length_eq.symm
  ne := h.ne.symm
  window := by
    obtain ⟨start, hwindow⟩ := h.window
    exact ⟨start, fun i hi => hwindow i hi.symm⟩

/-- In front of the window and after it the two bodies are the same. -/
theorem exists_take_drop (h : IsBurst body body') : ∃ start, body.take start = body'.take start ∧
    body.drop (start + checksumLength) = body'.drop (start + checksumLength) := by
  obtain ⟨start, hwindow⟩ := h.window
  refine ⟨start, ?_, ?_⟩
  · apply List.ext_getElem?
    intro i
    rw [List.getElem?_take, List.getElem?_take]
    by_cases hi : i < start
    · rw [if_pos hi, if_pos hi]
      by_contra hne
      have hinside := (hwindow i hne).1
      omega
    · rw [if_neg hi, if_neg hi]
  · apply List.ext_getElem?
    intro i
    rw [List.getElem?_drop, List.getElem?_drop]
    by_contra hne
    have hinside := (hwindow _ hne).2
    omega

/-- The symbols of the two bodies do not both pass, whatever the prefix. -/
theorem not_verifies (h : IsBurst body body') {ss ts : List Symbol}
    (hbody : body = ss.map Symbol.char) (hbody' : body' = ts.map Symbol.char) {cashPrefix : Text}
    (hss : verifies cashPrefix ss = true) : verifies cashPrefix ts = false := by
  obtain ⟨start, hfront, hback⟩ := h.exists_take_drop
  have hlen : ss.length = ts.length := by
    have hsame := h.length_eq
    rwa [hbody, hbody', List.length_map, List.length_map] at hsame
  -- The front and the back are the same symbols.
  rw [hbody, hbody', ← List.map_take, ← List.map_take] at hfront
  rw [hbody, hbody', ← List.map_drop, ← List.map_drop] at hback
  have hsplit : ∀ us : List Symbol, us = us.take start ++ (us.drop start).take checksumLength ++
      us.drop (start + checksumLength) := by
    intro us
    rw [List.append_assoc, ← List.drop_drop, List.take_append_drop, List.take_append_drop]
  by_contra hts
  rw [Bool.not_eq_false, hsplit ts, ← map_char_inj hfront, ← map_char_inj hback] at hts
  rw [hsplit ss] at hss
  have hburst : (ss.drop start).take checksumLength = (ts.drop start).take checksumLength := by
    refine eq_of_verifies_burst ?_ (List.length_take_le _ _) hss hts
    rw [List.length_take, List.length_take, List.length_drop, List.length_drop, hlen]
  -- So the window holds the same symbols, too, and nothing is changed.
  have hsame : ss = ts := by
    rw [hsplit ss, hsplit ts, hburst, map_char_inj hfront, map_char_inj hback]
  exact h.ne (by rw [hbody, hbody', hsame])

end IsBurst

/-- A text that is accepted does not mix the cases. -/
theorem mixesCase_of_decodeSymbols_eq_ok {defaultPrefix text : Text} {r : Text × List Symbol}
    (h : decodeSymbols defaultPrefix text = .ok r) : text.mixesCase = false :=
  (decodeSymbols_eq_ok_iff.mp h).1

/-- Once a text is cut into prefix and symbols, the checksum decides. -/
theorem decodeSymbols_of_splitPrefix {defaultPrefix text cashPrefix : Text} {ss : List Symbol}
    (hcase : text.mixesCase = false)
    (hsplit : splitPrefix defaultPrefix text = (cashPrefix, ss.map Symbol.char))
    (hlen : checksumLength ≤ ss.length) :
    decodeSymbols defaultPrefix text =
      if verifies cashPrefix ss then .ok (cashPrefix, ss.take (ss.length - checksumLength))
      else .error .checksumMismatch := by
  simp only [decodeSymbols, hcase, Bool.false_eq_true, if_false, hsplit,
    readSymbols_eq_ok_iff.mpr rfl, if_neg (Nat.not_lt.mpr hlen)]

/-- **Damage is refused** wherever the two texts are read as the bodies under one prefix. -/
theorem decodeSymbols_of_isBurst {body body' defaultPrefix text text' cashPrefix : Text}
    (h : IsBurst body body') (hcase : text'.mixesCase = false)
    (hsplit : splitPrefix defaultPrefix text = (cashPrefix, body))
    (hsplit' : splitPrefix defaultPrefix text' = (cashPrefix, body')) {r : Text × List Symbol}
    (hok : decodeSymbols defaultPrefix text = .ok r) :
    decodeSymbols defaultPrefix text' = .error .checksumMismatch := by
  obtain ⟨ss, hss⟩ := exists_map_char h.mem_charset
  obtain ⟨ts, hts⟩ := exists_map_char h.mem_charset'
  have hlen : checksumLength ≤ ss.length := by
    have hroom := h.checksumLength_le
    rwa [hss, List.length_map] at hroom
  have hlen' : checksumLength ≤ ts.length := by
    have hroom := h.symm.checksumLength_le
    rwa [hts, List.length_map] at hroom
  have hcase' := mixesCase_of_decodeSymbols_eq_ok hok
  rw [hss] at hsplit
  rw [hts] at hsplit'
  -- The text is accepted, so its symbols pass, and the damaged ones do not.
  have hpass : verifies cashPrefix ss = true := by
    by_contra hfail
    rw [decodeSymbols_of_splitPrefix hcase' hsplit hlen, if_neg hfail] at hok
    simp at hok
  have hfail : ¬verifies cashPrefix ts = true := by
    rw [h.not_verifies hss hts hpass]
    exact Bool.false_ne_true
  rw [decodeSymbols_of_splitPrefix hcase hsplit' hlen', if_neg hfail]

/-! ## Bare texts and texts with a prefix -/

/-- Bodies over the alphabet are small ASCII text without a colon. -/
theorem isSmallAscii_of_mem_charset {t : Text} (h : ∀ c ∈ t, c ∈ Symbol.charset) :
    t.IsSmallAscii := by
  obtain ⟨ss, rfl⟩ := exists_map_char h
  exact isSmallAscii_map_char ss

/-- So is what stands after the prefix, the colon included. -/
theorem isSmallAscii_colon_cons {t : Text} (h : ∀ c ∈ t, c ∈ Symbol.charset) :
    Text.IsSmallAscii (':' :: t) :=
  List.forall_mem_cons.mpr ⟨by decide, isSmallAscii_of_mem_charset h⟩

theorem colon_not_mem_of_mem_charset {t : Text} (h : ∀ c ∈ t, c ∈ Symbol.charset) : ':' ∉ t := by
  obtain ⟨ss, rfl⟩ := exists_map_char h
  exact colon_not_mem_map_char ss

/-- **A body in letters of either case** is read in small letters, whatever comes before it. -/
theorem lowerFrom_of_asciiLower {t body : Text} (ht : t.asciiLower = body)
    (h : ∀ c ∈ body, c ∈ Symbol.charset) (before : Text) : Text.lowerFrom before t = body := by
  have hascii : ∀ c ∈ t, c.toNat < 0x80 := by
    apply Text.ascii_of_asciiLower
    rw [ht]
    exact fun c hc => (isSmallAscii_of_mem_charset h c hc).1
  rw [Text.lowerFrom_of_ascii hascii, ht]

/-- There is no colon in it. -/
theorem colon_not_mem_of_asciiLower {t body : Text} (ht : t.asciiLower = body)
    (h : ∀ c ∈ body, c ∈ Symbol.charset) : ':' ∉ t := by
  rw [← Text.colon_mem_lower_iff, Text.lower, lowerFrom_of_asciiLower ht h]
  exact colon_not_mem_of_mem_charset h

/-- A bare body is read as it is. -/
theorem splitPrefix_bare {t body : Text} (ht : t.asciiLower = body)
    (h : ∀ c ∈ body, c ∈ Symbol.charset) (defaultPrefix : Text) :
    splitPrefix defaultPrefix t = (defaultPrefix.lower, body) := by
  have hlower : t.lower = body := lowerFrom_of_asciiLower ht h []
  rw [splitPrefix_of_bare (colon_not_mem_of_asciiLower ht h), hlower]

/-- A body without small letters begins with a digit, so no word goes on in it. -/
theorem startsCased_colon_cons {body : Text} (h : ∀ c ∈ body, c ∈ Symbol.charset)
    (hsmall : ∀ c ∈ body, Text.isLowercase c = false) : Text.startsCased (':' :: body) = false := by
  have hcolon : Text.isCaseIgnorable ':' = true := by decide +kernel
  have hdigit : ∀ s : Symbol, Text.isLowercase s.char = false →
      Text.isCaseIgnorable s.char = false ∧ Text.isCased s.char = false := by
    decide +kernel
  rw [Text.startsCased_cons, if_pos hcolon]
  cases body with
  | nil => rfl
  | cons c rest =>
    obtain ⟨s, rfl⟩ := exists_char_of_mem_charset (h c List.mem_cons_self)
    obtain ⟨hignore, hcased⟩ := hdigit s (hsmall _ List.mem_cons_self)
    rw [Text.startsCased_cons, hignore, hcased]
    rfl

/-- A capital sigma in a prefix leaves no small letters to a body that goes with it. -/
theorem no_sigma_or_startsCased {named body : Text} (h : ∀ c ∈ body, c ∈ Symbol.charset)
    (hcase : Text.mixesCase (named ++ ':' :: body) = false) :
    (∀ c ∈ named, c.toNat ≠ 0x3a3) ∨ Text.startsCased (':' :: body) = false := by
  by_cases hnone : ∀ c ∈ named, c.toNat ≠ 0x3a3
  · exact .inl hnone
  · right
    push Not at hnone
    obtain ⟨c, hc, hcode⟩ := hnone
    have hupper : Text.isUppercase c = true := by
      have hsigma : Text.isUppercase (Char.ofNat 0x3a3) = true := by decide +kernel
      rwa [← hcode, Char.ofNat_toNat] at hsigma
    apply startsCased_colon_cons h
    intro d hd
    by_contra hlower
    rw [Text.mixesCase_eq_false_iff, not_and] at hcase
    exact hcase ⟨d, by simp [hd], by simpa using hlower⟩ ⟨c, by simp [hc], hupper⟩

/-- **The prefix is read alike** in front of two bodies, if it has no capital sigma, or if a word goes
    on in both bodies or in neither. -/
theorem exists_splitPrefix_append {t t' body body' : Text} (ht : t.asciiLower = body)
    (ht' : t'.asciiLower = body') (h : ∀ c ∈ body, c ∈ Symbol.charset)
    (h' : ∀ c ∈ body', c ∈ Symbol.charset) {named : Text}
    (hsigma : (∀ c ∈ named, c.toNat ≠ 0x3a3) ∨
      Text.startsCased (':' :: t) = Text.startsCased (':' :: t')) (defaultPrefix : Text) :
    ∃ cashPrefix, splitPrefix defaultPrefix (named ++ ':' :: t) = (cashPrefix, body) ∧
      splitPrefix defaultPrefix (named ++ ':' :: t') = (cashPrefix, body') := by
  obtain ⟨small, hs, hs'⟩ := Text.exists_lowerFrom_append hsigma []
  have hread : ∀ t body : Text, t.asciiLower = body → (∀ c ∈ body, c ∈ Symbol.charset) →
      Text.lowerFrom [] (named ++ ':' :: t) =
        small ++ Text.lowerFrom (named.reverse ++ []) (':' :: t) →
      splitPrefix defaultPrefix (named ++ ':' :: t) = (small, body) := by
    intro t body ht hbody hlower
    have hcolon : Text.lowerFrom (named.reverse ++ []) (':' :: t) = ':' :: body :=
      congrArg (':' :: ·) (lowerFrom_of_asciiLower ht hbody _)
    rw [splitPrefix_eq_iff (colon_not_mem_of_mem_charset hbody), fullText, if_pos (by simp),
      Text.lower, hlower, hcolon]
  exact ⟨small, hread t body ht h hs, hread t' body' ht' h' hs'⟩

section Burst

variable {body body' t t' : Text}

/-- **Damage of a bare body** is refused, in letters of either case. -/
theorem decodeSymbols_bare_of_isBurst (h : IsBurst body body') (ht : t.asciiLower = body)
    (ht' : t'.asciiLower = body') (hcase : t'.mixesCase = false) {cashPrefix : Text}
    {r : Text × List Symbol} (hok : decodeSymbols cashPrefix t = .ok r) :
    decodeSymbols cashPrefix t' = .error .checksumMismatch :=
  decodeSymbols_of_isBurst h hcase (splitPrefix_bare ht h.mem_charset cashPrefix)
    (splitPrefix_bare ht' h.mem_charset' cashPrefix) hok

/-- **Damage after a prefix** is refused, too, if the prefix is read alike. -/
theorem decodeSymbols_named_of_isBurst (h : IsBurst body body') (ht : t.asciiLower = body)
    (ht' : t'.asciiLower = body') {named : Text}
    (hsigma : (∀ c ∈ named, c.toNat ≠ 0x3a3) ∨
      Text.startsCased (':' :: t) = Text.startsCased (':' :: t'))
    (hcase : Text.mixesCase (named ++ ':' :: t') = false) {defaultPrefix : Text}
    {r : Text × List Symbol} (hok : decodeSymbols defaultPrefix (named ++ ':' :: t) = .ok r) :
    decodeSymbols defaultPrefix (named ++ ':' :: t') = .error .checksumMismatch := by
  obtain ⟨read, hsplit, hsplit'⟩ :=
    exists_splitPrefix_append ht ht' h.mem_charset h.mem_charset' hsigma defaultPrefix
  exact decodeSymbols_of_isBurst h hcase hsplit hsplit' hok

end Burst

/-- The first letters of two small bodies make no difference to a prefix that goes with both: a capital
    sigma in it leaves no small letters to them. -/
theorem no_sigma_or_startsCased_eq {named body body' : Text} (h : ∀ c ∈ body, c ∈ Symbol.charset)
    (h' : ∀ c ∈ body', c ∈ Symbol.charset)
    (hcase : Text.mixesCase (named ++ ':' :: body) = false)
    (hcase' : Text.mixesCase (named ++ ':' :: body') = false) :
    (∀ c ∈ named, c.toNat ≠ 0x3a3) ∨
      Text.startsCased (':' :: body) = Text.startsCased (':' :: body') := by
  rcases no_sigma_or_startsCased h hcase with hnone | hstart
  · exact .inl hnone
  · rcases no_sigma_or_startsCased h' hcase' with hnone | hstart'
    · exact .inl hnone
    · exact .inr (hstart.trans hstart'.symm)

/-- **Bursts of damage are detected**, in bodies of any length and under every prefix.

    - If a body is accepted, then the damaged one has the wrong checksum. Texts that name their prefix
      are never both accepted, and the damage is a wrong checksum in them, too, if the prefix has no
      capital letters.
    - The letters of the two bodies may as well be in the other case, all or some of them. If the
      damaged text does not mix the cases, then the damage is a wrong checksum in it, also after a
      prefix without a capital sigma. -/
theorem decodeSymbols_burst {body body' : Text} (h : IsBurst body body') (cashPrefix : Text) :
    (∀ r, decodeSymbols cashPrefix body = .ok r →
      decodeSymbols cashPrefix body' = .error .checksumMismatch) ∧
    (∀ defaultPrefix, ¬((∃ r, decodeSymbols defaultPrefix (cashPrefix ++ ':' :: body) = .ok r) ∧
      ∃ r, decodeSymbols defaultPrefix (cashPrefix ++ ':' :: body') = .ok r)) ∧
    ((∀ c ∈ cashPrefix, Text.isUppercase c = false) → ∀ defaultPrefix r,
      decodeSymbols defaultPrefix (cashPrefix ++ ':' :: body) = .ok r →
        decodeSymbols defaultPrefix (cashPrefix ++ ':' :: body') = .error .checksumMismatch) ∧
    ∀ t t' : Text, t.asciiLower = body → t'.asciiLower = body' →
      (t'.mixesCase = false → ∀ r, decodeSymbols cashPrefix t = .ok r →
        decodeSymbols cashPrefix t' = .error .checksumMismatch) ∧
      ('Σ' ∉ cashPrefix → Text.mixesCase (cashPrefix ++ ':' :: t') = false → ∀ defaultPrefix r,
        decodeSymbols defaultPrefix (cashPrefix ++ ':' :: t) = .ok r →
          decodeSymbols defaultPrefix (cashPrefix ++ ':' :: t') = .error .checksumMismatch) := by
  have hbody : body.asciiLower = body := (isSmallAscii_of_mem_charset h.mem_charset).asciiLower_eq
  have hsmall' := isSmallAscii_of_mem_charset h.mem_charset'
  have hnamed : ∀ defaultPrefix r, Text.mixesCase (cashPrefix ++ ':' :: body') = false →
      decodeSymbols defaultPrefix (cashPrefix ++ ':' :: body) = .ok r →
        decodeSymbols defaultPrefix (cashPrefix ++ ':' :: body') = .error .checksumMismatch := by
    intro defaultPrefix r hcase hok
    have hsigma := no_sigma_or_startsCased_eq h.mem_charset h.mem_charset'
      (mixesCase_of_decodeSymbols_eq_ok hok) hcase
    exact decodeSymbols_named_of_isBurst h hbody hsmall'.asciiLower_eq hsigma hcase hok
  refine ⟨?_, ?_, ?_, ?_⟩
  · -- A body alone has no capital letters.
    intro r hok
    exact decodeSymbols_bare_of_isBurst h hbody hsmall'.asciiLower_eq hsmall'.mixesCase_eq hok
  · -- If the damaged text is accepted, then it does not mix the cases.
    rintro defaultPrefix ⟨⟨r, hok⟩, r', hok'⟩
    rw [hnamed defaultPrefix r (mixesCase_of_decodeSymbols_eq_ok hok') hok] at hok'
    simp at hok'
  · intro hprefix defaultPrefix r hok
    refine hnamed defaultPrefix r ?_ hok
    apply Text.mixesCase_of_no_upper
    intro c hc
    rcases List.mem_append.mp hc with hc | hc
    · exact hprefix c hc
    · exact (isSmallAscii_colon_cons h.mem_charset').isUppercase_eq c hc
  · intro t t' ht ht'
    refine ⟨fun hcase r hok => decodeSymbols_bare_of_isBurst h ht ht' hcase hok, ?_⟩
    intro hnone hcase defaultPrefix r hok
    have hsigma : ∀ c ∈ cashPrefix, c.toNat ≠ 0x3a3 := by
      intro c hc hcode
      rw [Text.toNat_eq_sigma_iff.mp hcode] at hc
      exact hnone hc
    exact decodeSymbols_named_of_isBurst h ht ht' (.inl hsigma) hcase hok

/-- Eight symbols in the middle of a payload are overwritten, in small and in capital letters. -/
theorem decodeSymbols_overwritten_payload :
    ∃ body body' : Text, IsBurst body body' ∧
      (∃ r, decodeSymbols defaultPrefix body = .ok r) ∧
      decodeSymbols defaultPrefix body' = .error .checksumMismatch ∧
      decodeSymbols [] (defaultPrefix ++ ':' :: body') = .error .checksumMismatch ∧
      (∃ r, decodeSymbols defaultPrefix body.asciiUpper = .ok r) ∧
      decodeSymbols defaultPrefix body'.asciiUpper = .error .checksumMismatch := by
  let payload : Bytes := [0x00,
    0x76, 0xa0, 0x40, 0x53, 0xbd, 0xa0, 0xa8, 0x8b, 0xda, 0x51, 0x77, 0xb8, 0x6a, 0x15, 0xc3,
    0xb2, 0x9f, 0x55, 0x98, 0x73]
  let body : Text := "qpm2qsznhks23z7629mms6s4cwef74vcwvy22gdx6a".toList
  let body' : Text := "qpm2qsznhkllllllllmms6s4cwef74vcwvy22gdx6a".toList
  have hburst : IsBurst body body' := by
    have hchars : body.all Symbol.charset.contains = true ∧
        body'.all Symbol.charset.contains = true := by
      decide +kernel
    have hlen : body.length = 42 ∧ body'.length = 42 := by decide +kernel
    have hinside : ∀ i < 42, body[i]? ≠ body'[i]? → 10 ≤ i ∧ i < 10 + checksumLength := by
      decide +kernel
    refine ⟨by simpa using hchars.1, by simpa using hchars.2, ?_, ?_, ?_, 10, ?_⟩
    · rw [hlen.1]
      decide
    · rw [hlen.1, hlen.2]
    · decide +kernel
    · intro i hi
      by_cases hlt : i < 42
      · exact hinside i hlt hi
      · rw [List.getElem?_eq_none (by omega), List.getElem?_eq_none (by omega)] at hi
        exact absurd rfl hi
  obtain ⟨hbare, -, hnamed, hspelled⟩ := decodeSymbols_burst hburst defaultPrefix
  have hsmall : defaultPrefix.IsSmallAscii := by decide
  have hok : decodeSymbols defaultPrefix body = .ok (defaultPrefix, bytesToSymbols payload) := by
    decide +kernel
  have hok' : decodeSymbols [] (defaultPrefix ++ ':' :: body) =
      .ok (defaultPrefix, bytesToSymbols payload) := by
    decide +kernel
  have hcapital : decodeSymbols defaultPrefix body.asciiUpper =
      .ok (defaultPrefix, bytesToSymbols payload) := by
    decide +kernel
  have hbody := (isSmallAscii_of_mem_charset hburst.mem_charset).asciiLower_asciiUpper
  have hbody' := isSmallAscii_of_mem_charset hburst.mem_charset'
  have hdamaged := (hspelled _ _ hbody hbody'.asciiLower_asciiUpper).1 hbody'.mixesCase_asciiUpper
  exact ⟨body, body', hburst, ⟨_, hok⟩, hbare _ hok, hnamed hsmall.isUppercase_eq [] _ hok',
    ⟨_, hcapital⟩, hdamaged _ hcapital⟩

end BitcoinCash.CashAddr
