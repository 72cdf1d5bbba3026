import BitcoinCash.Proofs.CashAddr.Burst
import BitcoinCash.Proofs.CashAddr.Distance
import BitcoinCash.Proofs.Text.Kelvin

/-! # Misspelled addresses

  One or two wrong symbols in an address are a wrong checksum, wherever they are.

  - **A body is read character by character** (`lowerFrom_eq_map_char_iff`), and no character of it
    but the first has a say in how the prefix is read (`startsCased_of_spells`).
  - **Accepted bodies** are short enough for two wrong symbols not to cancel, and begin with `q` or
    `p` (`IsAccepted`).
  - **A capital sigma** in the prefix has another small form if no letter follows. So a digit in
    place of the first symbol can change a symbol of the prefix, too, at any distance, but only in
    its lowest bit (`exists_residue_expandPrefix`), which does not make up for the digit.
  - **`decode_misspelled`** is the main statement.
-/

namespace BitcoinCash.CashAddr

/-! ## The characters of a symbol -/

/-- On its own a character has its small form, and a capital sigma the one inside a word. -/
theorem lower_singleton (c : Char) :
    Text.lower [c] = if c.toNat = 0x3a3 then ['σ'] else Text.lowerChar c := by
  rw [Text.lower, Text.lowerFrom, Text.lowerFrom, List.append_nil]
  rfl

/-- A character that stands for a symbol is no capital sigma. -/
theorem lowerChar_of_lower {c : Char} {s : Symbol} (h : Text.lower [c] = [s.char]) :
    c.toNat ≠ 0x3a3 ∧ Text.lowerChar c = [s.char] := by
  have hsigma : ∀ s : Symbol, 'σ' ≠ s.char := by decide +kernel
  rw [lower_singleton] at h
  split at h
  · exact absurd (List.singleton_inj.mp h) (hsigma s)
  · next hc => exact ⟨hc, h⟩

/-- One character has two small forms, and no symbol is spelled with the first of them. -/
theorem lowerChar_cases (c : Char) :
    (∃ d, Text.lowerChar c = [d]) ∨ Text.lowerChar c = ['i', Char.ofNat 0x307] := by
  unfold Text.lowerChar
  split
  · exact .inl ⟨_, rfl⟩
  · split
    · exact .inr rfl
    · exact .inl ⟨_, rfl⟩

/-- The characters of a body stand for symbols, each for one, in small or in capital letters. -/
def Spells (body : Text) (ss : List Symbol) : Prop :=
  body.map (Text.lower [·]) = ss.map ([·.char])

/-- The first character that is read is the first symbol. -/
theorem lower_of_lowerFrom_cons {before after : Text} {c : Char} {ss : List Symbol}
    (h : Text.lowerFrom before (c :: after) = ss.map Symbol.char) :
    ∃ s rest, ss = s :: rest ∧ Text.lower [c] = [s.char] ∧
      Text.lowerFrom (c :: before) after = rest.map Symbol.char := by
  have hnone : ∀ s : Symbol, s.char ∉ ['σ', 'ς', 'i'] := by decide +kernel
  by_cases hc : c.toNat = 0x3a3
  · -- No symbol is spelled with a sigma.
    exfalso
    rw [Text.toNat_eq_sigma_iff.mp hc] at h
    obtain ⟨a, ha, hlower⟩ := Text.exists_lowerFrom_sigma before after
    obtain ⟨s, rest, -, hs, -⟩ := List.map_eq_cons_iff.mp (hlower ▸ h).symm
    rw [← hs] at ha
    exact hnone s (List.mem_append_left ['i'] ha)
  · rw [Text.lowerFrom, if_neg hc] at h
    rcases lowerChar_cases c with ⟨d, hd⟩ | hd
    · rw [hd] at h
      obtain ⟨s, rest, hss, hs, hrest⟩ := List.map_eq_cons_iff.mp h.symm
      exact ⟨s, rest, hss, by rw [lower_singleton, if_neg hc, hd, hs], hrest.symm⟩
    · -- None is spelled with an `i` either.
      exfalso
      rw [hd] at h
      obtain ⟨s, rest, -, hs, -⟩ := List.map_eq_cons_iff.mp h.symm
      exact hnone s (by rw [hs]; decide)

/-- **A body is read character by character**, whatever comes before it. -/
theorem lowerFrom_eq_map_char_iff {before body : Text} {ss : List Symbol} :
    Text.lowerFrom before body = ss.map Symbol.char ↔ Spells body ss := by
  induction body generalizing before ss with
  | nil =>
    rw [Spells, Text.lowerFrom, List.map_nil, eq_comm, List.map_eq_nil_iff, eq_comm (a := []),
      List.map_eq_nil_iff]
  | cons c body ih =>
    constructor
    · intro h
      obtain ⟨s, rest, rfl, hs, hrest⟩ := lower_of_lowerFrom_cons h
      exact List.cons_eq_cons.mpr ⟨hs, ih.mp hrest⟩
    · intro h
      cases ss with
      | nil => cases h
      | cons s rest =>
        obtain ⟨hs, hrest⟩ := List.cons_eq_cons.mp h
        obtain ⟨hc, hlower⟩ := lowerChar_of_lower hs
        rw [Text.lowerFrom, if_neg hc, hlower, ih.mpr hrest]
        rfl

namespace Spells

variable {body : Text} {ss : List Symbol}

theorem length_eq (h : Spells body ss) : body.length = ss.length := by
  have hlen := congrArg List.length h
  rwa [List.length_map, List.length_map] at hlen

theorem lower_getElem (h : Spells body ss) {i : Nat} (hi : i < body.length)
    (hi' : i < ss.length) : Text.lower [body[i]] = [ss[i].char] := by
  have hplace := congrArg (·[i]?) h
  simpa [hi, hi'] using hplace

theorem set (h : Spells body ss) {c : Char} {s : Symbol} (hs : Text.lower [c] = [s.char])
    (i : Nat) : Spells (body.set i c) (ss.set i s) := by
  rw [Spells, List.map_set, List.map_set, hs, h]

/-- A body has no colon, since no symbol is spelled with one. -/
theorem colon_not_mem (h : Spells body ss) : ':' ∉ body := by
  rw [← Text.colon_mem_lower_iff, Text.lower, lowerFrom_eq_map_char_iff.mpr h]
  exact colon_not_mem_map_char ss

end Spells

/-! ## The case of the first character -/

/-- A symbol has two characters, or three if it is spelled with a `k`. -/
theorem eq_of_lower {c : Char} {s : Symbol} (h : Text.lower [c] = [s.char]) :
    c = s.char ∨ c = s.char.toUpper ∨ c = Text.kelvin ∧ s.char = 'k' := by
  have hrange : ∀ s : Symbol, s.char.toNat < 0x80 := by decide +kernel
  obtain ⟨-, hlower⟩ := lowerChar_of_lower h
  -- Read as a plain letter, the character is ASCII, and it has the same small form.
  have hascii : (Text.plainLetter c).toNat < 0x80 := by
    apply Text.plainLetter_ascii
    rw [hlower]
    exact List.forall_mem_singleton.mpr (hrange s)
  have hsmall : (Text.plainLetter c).toLower = s.char := by
    rw [← Text.plainLetter_congr (f := Text.lowerChar) (by decide +kernel), Text.lowerChar,
      if_pos hascii] at hlower
    exact List.singleton_inj.mp hlower
  have hfold : Text.plainLetter c = s.char ∨ Text.plainLetter c = s.char.toUpper := by
    rw [← hsmall]
    exact Text.of_ascii (P := fun c => c = c.toLower ∨ c = c.toLower.toUpper) (by decide) hascii
  by_cases hkelvin : c = Text.kelvin
  · refine .inr (.inr ⟨hkelvin, ?_⟩)
    rw [← hsmall, hkelvin]
    decide
  · rw [Text.plainLetter, if_neg hkelvin] at hfold
    exact hfold.imp_right .inl

/-- **What stands for a letter is a letter**: the characters of a symbol are cased exactly if it is
    spelled with a letter, and none of them is passed over. -/
theorem isCased_of_lower {c : Char} {s : Symbol} (h : Text.lower [c] = [s.char]) :
    Text.isCaseIgnorable c = false ∧ Text.isCased c = s.char.isAlpha := by
  have hspelling : ∀ s : Symbol, ∀ upper : Bool,
      let c := if upper then s.char.toUpper else s.char
      c.toNat < 0x80 ∧ c.isAlphanum = true ∧ c.isAlpha = s.char.isAlpha := by
    decide +kernel
  have hascii : ∀ {c : Char}, c.toNat < 0x80 ∧ c.isAlphanum = true ∧ c.isAlpha = s.char.isAlpha →
      Text.isCaseIgnorable c = false ∧ Text.isCased c = s.char.isAlpha := by
    rintro c ⟨hc, halphanum, halpha⟩
    refine ⟨?_, by rw [Text.isCased, if_pos hc, halpha]⟩
    by_contra hignore
    have hpunctuation := Text.isAlphanum_of_isCaseIgnorable hc (by simpa using hignore)
    rw [halphanum] at hpunctuation
    cases hpunctuation
  rcases eq_of_lower h with rfl | rfl | ⟨rfl, hk⟩
  · exact hascii (hspelling s false)
  · exact hascii (hspelling s true)
  · rw [hk]
    decide +kernel

theorem startsCased_of_spells {body : Text} {first : Symbol} {rest : List Symbol}
    (h : Spells body (first :: rest)) : Text.startsCased (':' :: body) = first.char.isAlpha := by
  have hcolon : Text.isCaseIgnorable ':' = true := by decide +kernel
  cases body with
  | nil => cases h
  | cons c body =>
    obtain ⟨hignore, hcased⟩ := isCased_of_lower (List.cons_eq_cons.mp h).1
    rw [Text.startsCased_cons, if_pos hcolon, Text.startsCased_cons, hignore, hcased]
    rfl

/-! ## Accepted bodies -/

/-- The first symbol of a payload that is accepted is the type of the address. -/
theorem exists_bytesToSymbols_cons {version : UInt8} {kind : AddressKind} {size : HashSize}
    (h : parseVersionByte version = .ok (kind, size)) (hash : Bytes) :
    ∃ rest, bytesToSymbols (version :: hash) = Symbol.lowBits kind.typeBits :: rest := by
  have hfirst : takeSymbols (pushBits 0 8 (versionByte kind size).toNat) 8 =
      [Symbol.lowBits kind.typeBits] := by
    cases kind <;> cases size <;> decide +kernel
  rw [bytesToSymbols, symbolsFrom, ← versionByte_of_parseVersionByte h, hfirst]
  exact ⟨_, rfl⟩

/-- What is known of the symbols of an accepted text. -/
structure IsAccepted (cashPrefix : Text) (ss : List Symbol) : Prop where
  /-- The checksum fits. -/
  verifies : verifies cashPrefix ss = true
  /-- There is room for a checksum. -/
  checksumLength_le : checksumLength ≤ ss.length
  /-- The longest payload is a version byte and a hash of 64 bytes. -/
  length_le : ss.length ≤ 112
  /-- The first symbol is the type of the address. -/
  first : ∃ kind rest, ss = Symbol.lowBits (AddressKind.typeBits kind) :: rest

/-- **What is known of an accepted text**: its prefix and its symbols. -/
theorem exists_isAccepted {defaultPrefix text : Text} {d : Decoded}
    (h : decodeWithPrefix defaultPrefix text = .ok d) :
    ∃ cashPrefix ss, splitPrefix defaultPrefix text = (cashPrefix, ss.map Symbol.char) ∧
      IsAccepted cashPrefix ss := by
  obtain ⟨-, ⟨kind, size, hparse, hlen⟩, hfull⟩ := decodeWithPrefix_eq_ok_iff_fullText.mp h
  have hsplit := (splitPrefix_eq_iff (colon_not_mem_map_char _)).mpr hfull
  refine ⟨_, _, hsplit, verifies_checksum _ _, ?_, ?_, ?_⟩
  · rw [List.length_append, length_checksum]
    exact Nat.le_add_left _ _
  · obtain ⟨pad, hpad, hsymbols⟩ := length_bytesToSymbols (d.version :: d.hash)
    have hsize : size.byteLength ≤ 64 := by cases size <;> decide
    rw [List.length_cons, hlen] at hsymbols
    rw [List.length_append, length_checksum, checksumLength]
    omega
  · obtain ⟨rest, hrest⟩ := exists_bytesToSymbols_cons hparse d.hash
    exact ⟨kind, rest ++ _, by rw [hrest, List.cons_append]⟩

/-! ## The prefix in front of two bodies -/

/-- **A capital sigma in the prefix** has two small forms, which differ in the lowest bit of one of
    the symbols that the prefix contributes. -/
theorem exists_residue_expandPrefix (front back : Text) {a a' : Char} (ha : a ∈ ['σ', 'ς'])
    (ha' : a' ∈ ['σ', 'ς']) :
    (expandPrefix (front ++ a :: back)).length = (expandPrefix (front ++ a' :: back)).length ∧
    ∃ d ∈ [(0 : Symbol), 1], ∃ k, residue (expandPrefix (front ++ a :: back)) +
      residue (expandPrefix (front ++ a' :: back)) = d.toResidue * Residue.x ^ k := by
  have hsigma : ∀ a ∈ ['σ', 'ς'], ∃ low ∈ [(2 : Symbol), 3],
      (String.utf8EncodeChar a).map Symbol.lowBits = [15, low] := by
    intro a ha
    rcases List.mem_pair.mp ha with rfl | rfl
    · exact ⟨3, by decide, by decide⟩
    · exact ⟨2, by decide, by decide⟩
  have hexpand : ∀ {a : Char} {low : Symbol},
      (String.utf8EncodeChar a).map Symbol.lowBits = [15, low] →
      expandPrefix (front ++ a :: back) =
        (Text.utf8 front).map Symbol.lowBits ++ 15 :: low :: expandPrefix back := by
    intro a low h
    simp [expandPrefix, Text.utf8, h]
  have hdifference : ∀ low ∈ [(2 : Symbol), 3], ∀ low' ∈ [(2 : Symbol), 3],
      low ^^^ low' ∈ [(0 : Symbol), 1] := by
    decide
  obtain ⟨low, hlow, h⟩ := hsigma a ha
  obtain ⟨low', hlow', h'⟩ := hsigma a' ha'
  rw [hexpand h, hexpand h']
  refine ⟨by simp, low ^^^ low', hdifference low hlow low' hlow', (expandPrefix back).length, ?_⟩
  rw [residue_append, residue_append, residue_cons, residue_cons, residue_cons, residue_cons,
    Symbol.toResidue_xor]
  simp only [List.length_cons]
  -- All other symbols are there twice.
  linear_combination (residue ((Text.utf8 front).map Symbol.lowBits) *
    Residue.x ^ ((expandPrefix back).length + 1 + 1) +
    (15 : Symbol).toResidue * Residue.x ^ ((expandPrefix back).length + 1) +
    residue (expandPrefix back)) * (CharTwo.two_eq_zero : (2 : Residue) = 0)

/-- The prefix that is named is cut off in small letters. -/
theorem splitPrefix_named {named body small before : Text} (hbody : ':' ∉ body)
    (h : Text.lowerFrom [] (named ++ ':' :: body) = small ++ Text.lowerFrom before (':' :: body))
    (defaultPrefix : Text) :
    splitPrefix defaultPrefix (named ++ ':' :: body) =
      (small, Text.lowerFrom (':' :: before) body) := by
  have hcolon : Text.lowerFrom before (':' :: body) = ':' :: Text.lowerFrom (':' :: before) body :=
    rfl
  rw [splitPrefix_eq_iff (mt (Text.colon_mem_lowerFrom_iff _ _).mp hbody), fullText,
    if_pos (by simp), Text.lower, h, hcolon]

/-- What stands in front of a body: nothing, or a prefix and a colon. -/
def IsFront (front : Text) : Prop :=
  front = [] ∨ ∃ named, front = named ++ [':']

/-- **Two bodies after the same front** are read alike, but for a capital sigma in the prefix that is
    followed by a letter in one of them only. -/
theorem exists_splitPrefix_pair {front body body' : Text} (hfront : IsFront front)
    (hbody : ':' ∉ body) (hbody' : ':' ∉ body') (defaultPrefix : Text) :
    ∃ p p' before, splitPrefix defaultPrefix (front ++ body) = (p, Text.lowerFrom before body) ∧
      splitPrefix defaultPrefix (front ++ body') = (p', Text.lowerFrom before body') ∧
      (p = p' ∨ Text.startsCased (':' :: body) ≠ Text.startsCased (':' :: body') ∧
        ∃ front back, ∃ a ∈ ['σ', 'ς'], ∃ a' ∈ ['σ', 'ς'],
          p = front ++ a :: back ∧ p' = front ++ a' :: back) := by
  rcases hfront with rfl | ⟨named, rfl⟩
  · -- Bare bodies are read under the default prefix.
    exact ⟨_, _, [], splitPrefix_of_bare hbody defaultPrefix,
      splitPrefix_of_bare hbody' defaultPrefix, .inl rfl⟩
  · obtain ⟨small, small', h, h', hsmall⟩ :=
      Text.exists_lowerFrom_append_sigma named (':' :: body) (':' :: body') []
    rw [List.append_assoc, List.append_assoc, List.singleton_append, List.singleton_append]
    exact ⟨small, small', _, splitPrefix_named hbody h defaultPrefix,
      splitPrefix_named hbody' h' defaultPrefix, hsmall⟩

/-- The symbols that are read are those of the body. -/
theorem spells_of_splitPrefix {front body defaultPrefix cashPrefix : Text} {ss : List Symbol}
    (hfront : IsFront front) (hbody : ':' ∉ body)
    (h : splitPrefix defaultPrefix (front ++ body) = (cashPrefix, ss.map Symbol.char)) :
    Spells body ss := by
  obtain ⟨p, -, before, hsplit, -, -⟩ := exists_splitPrefix_pair hfront hbody hbody defaultPrefix
  rw [hsplit, Prod.mk.injEq] at h
  exact lowerFrom_eq_map_char_iff.mp h.2

/-! ## Replaced symbols -/

/-- A character is replaced by one that stands for another symbol, each of them in either case. -/
def IsOtherSymbol (old new : Char) : Prop :=
  ∃ s : Symbol, Text.lower [new] = [s.char] ∧ Text.lower [old] ≠ [s.char]

/-- **A misspelling** of a body: one or two symbols are replaced by other ones. -/
inductive IsMisspelling (body : Text) : Text → Prop
  /-- One symbol is wrong. -/
  | one {i : Nat} {c : Char} (hi : i < body.length) (hc : IsOtherSymbol body[i] c) :
    IsMisspelling body (body.set i c)
  /-- Two symbols are wrong. -/
  | two {i j : Nat} {c d : Char} (hi : i < body.length) (hj : j < body.length) (hij : i ≠ j)
    (hc : IsOtherSymbol body[i] c) (hd : IsOtherSymbol body[j] d) :
    IsMisspelling body ((body.set i c).set j d)

theorem IsOtherSymbol.exists_ne {body : Text} {ss : List Symbol} (hss : Spells body ss) {i : Nat}
    {c : Char} {hi : i < body.length} (h : IsOtherSymbol body[i] c) :
    ∃ s : Symbol, Text.lower [c] = [s.char] ∧ ∃ hi : i < ss.length, ss[i] ≠ s := by
  obtain ⟨s, hs, hne⟩ := h
  have hi' : i < ss.length := hss.length_eq ▸ hi
  refine ⟨s, hs, hi', ?_⟩
  rintro rfl
  exact hne (hss.lower_getElem hi hi')

/-- The symbols of a misspelled body. -/
theorem IsMisspelling.exists_spells {body body' : Text} {ss : List Symbol} (hss : Spells body ss)
    (h : IsMisspelling body body') :
    ∃ i j s t, ∃ (hi : i < ss.length) (hj : j < ss.length), ss[i] ≠ s ∧ ss[j] ≠ t ∧
      Spells body' ((ss.set i s).set j t) := by
  cases h with
  | one hi hc =>
    obtain ⟨s, hs, hi', hne⟩ := hc.exists_ne hss
    exact ⟨_, _, s, s, hi', hi', hne, hne, by rw [List.set_set]; exact hss.set hs _⟩
  | two hi hj hij hc hd =>
    obtain ⟨s, hs, hi', hne⟩ := hc.exists_ne hss
    obtain ⟨t, ht, hj', hne'⟩ := hd.exists_ne hss
    exact ⟨_, _, s, t, hi', hj', hne, hne', (hss.set hs _).set ht _⟩

/-! ## The answer -/

/-- Two lists that pass, with prefixes that contribute equally many symbols, differ by what the
    prefixes do. -/
theorem residue_add_of_verifies {p p' : Text} {ss ss' : List Symbol}
    (hexpand : (expandPrefix p).length = (expandPrefix p').length) (hlen : ss.length = ss'.length)
    (h : verifies p ss = true) (h' : verifies p' ss' = true) :
    residue ss + residue ss' =
      (residue (expandPrefix p) + residue (expandPrefix p')) * Residue.x ^ ss.length := by
  have hpass : ∀ {q : Text} {ts : List Symbol}, verifies q ts = true →
      residue (registerSymbols 1 ++ (expandPrefix q ++ ts)) = residue (registerSymbols 1) := by
    intro q ts hq
    have habsorb := verifies_iff_absorb.mp hq
    rw [prefixRegister, ← absorb_append] at habsorb
    rw [← residue_absorb (by decide), habsorb]
  have hsame := (hpass h).trans (hpass h').symm
  rw [residue_append, residue_append, residue_append, residue_append, List.length_append,
    List.length_append, hexpand, ← hlen] at hsame
  -- All of the sum is there twice but for the prefixes and the symbols.
  linear_combination hsame + (residue ss' - residue (expandPrefix p) * Residue.x ^ ss.length) *
    (CharTwo.two_eq_zero : (2 : Residue) = 0)

/-- **The case of the first symbol** of an accepted body does not change if its lowest bit does: the
    types of address are both spelled with letters. -/
theorem startsCased_of_set {cashPrefix body body' : Text} {ss : List Symbol} {j : Nat} {t : Symbol}
    (hacc : IsAccepted cashPrefix ss) (hss : Spells body ss) (hss' : Spells body' (ss.set j t))
    (hj : j < ss.length) (hd : ss[j] ^^^ t = 1) :
    Text.startsCased (':' :: body) = Text.startsCased (':' :: body') := by
  have hletter : ∀ kind, (Symbol.lowBits (AddressKind.typeBits kind)).char.isAlpha = true ∧
      (Symbol.lowBits kind.typeBits ^^^ 1).char.isAlpha = true := by
    intro kind
    cases kind <;> decide +kernel
  obtain ⟨kind, rest, rfl⟩ := hacc.first
  rw [startsCased_of_spells hss]
  cases j with
  | zero =>
    have ht : t = Symbol.lowBits kind.typeBits ^^^ 1 := by
      rw [← hd, List.getElem_cons_zero, ← BitVec.xor_assoc, BitVec.xor_self, BitVec.zero_xor]
    rw [List.set_cons_zero] at hss'
    rw [startsCased_of_spells hss', ht, (hletter kind).1, (hletter kind).2]
  | succ j =>
    rw [List.set_cons_succ] at hss'
    rw [startsCased_of_spells hss']

/-- **A misspelled body does not pass**, not even if a capital sigma in the prefix is read in another
    way because of it. -/
theorem exists_not_verifies {front body body' defaultPrefix p : Text} {ss : List Symbol}
    (hfront : IsFront front) (hbody : ':' ∉ body)
    (hsplit : splitPrefix defaultPrefix (front ++ body) = (p, ss.map Symbol.char))
    (hacc : IsAccepted p ss) (hwrong : IsMisspelling body body') :
    ∃ p' ss', splitPrefix defaultPrefix (front ++ body') = (p', ss'.map Symbol.char) ∧
      checksumLength ≤ ss'.length ∧ ¬verifies p' ss' = true := by
  have hss := spells_of_splitPrefix hfront hbody hsplit
  obtain ⟨i, j, s, t, hi, hj, hs, ht, hss'⟩ := hwrong.exists_spells hss
  obtain ⟨q, p', before, hread, hread', hsame⟩ :=
    exists_splitPrefix_pair hfront hbody hss'.colon_not_mem defaultPrefix
  -- The prefix of the accepted text is known already.
  rw [hsplit, Prod.mk.injEq] at hread
  obtain ⟨rfl, -⟩ := hread
  rw [lowerFrom_eq_map_char_iff.mpr hss'] at hread'
  have hlen : ((ss.set i s).set j t).length = ss.length := by
    rw [List.length_set, List.length_set]
  have hshort : ss.length ≤ 1025 := hacc.length_le.trans (by decide)
  refine ⟨p', _, hread', hlen ▸ hacc.checksumLength_le, ?_⟩
  intro hpass
  rcases hsame with rfl | ⟨hstart, left, right, a, ha, a', ha', rfl, rfl⟩
  · -- The prefix is the same, so that nothing helps the two symbols to cancel.
    have hsum := residue_add_of_verifies rfl hlen.symm hacc.verifies hpass
    rw [CharTwo.add_self_eq_zero, zero_mul, ← zero_mul (Residue.x ^ 0),
      ← Symbol.toResidue_zero] at hsum
    obtain ⟨-, hzero⟩ := eq_of_residue_set_set hshort hi hj hs ht hsum
    exact ht (BitVec.xor_eq_zero_iff.mp hzero)
  · -- One symbol of the prefix may differ, but then the first one of the body is still a letter.
    obtain ⟨hexpand, d, hd, k, hresidue⟩ := exists_residue_expandPrefix left right ha ha'
    have hsum := residue_add_of_verifies hexpand hlen.symm hacc.verifies hpass
    rw [hresidue, mul_assoc, ← pow_add] at hsum
    obtain ⟨rfl, hdifference⟩ := eq_of_residue_set_set hshort hi hj hs ht hsum
    rcases List.mem_pair.mp hd with rfl | rfl
    · exact ht (BitVec.xor_eq_zero_iff.mp hdifference)
    · rw [List.set_set] at hss'
      exact hstart (startsCased_of_set hacc hss hss' hj hdifference)

/-- **One or two wrong symbols are detected.** A body that is accepted has at most 112 symbols, and if
    one or two of them, anywhere, are replaced by other ones, then the checksum is wrong, as long as
    the text does not mix the cases. It does not matter whether the text names its prefix. -/
theorem decode_misspelled {front body : Text} (hfront : IsFront front) (hbody : ':' ∉ body)
    {d : Decoded} (hok : decode (front ++ body) = .ok d) :
    body.length ≤ 112 ∧ ∀ body', IsMisspelling body body' →
      Text.mixesCase (front ++ body') = false →
        decode (front ++ body') = .error .checksumMismatch := by
  obtain ⟨p, ss, hsplit, hacc⟩ := exists_isAccepted hok
  have hss := spells_of_splitPrefix hfront hbody hsplit
  refine ⟨hss.length_eq ▸ hacc.length_le, ?_⟩
  intro body' hwrong hcase
  obtain ⟨p', ss', hread, hlen, hfail⟩ := exists_not_verifies hfront hbody hsplit hacc hwrong
  have hsymbols := decodeSymbols_of_splitPrefix hcase hread hlen
  rw [if_neg hfail] at hsymbols
  simp only [decode, decodeWithPrefix, hsymbols]

/-- The first and the last symbol of a text in capital letters are wrong. -/
theorem decode_misspelled_capitals :
    let front := "BITCOINCASH:".toList
    let body := "QPM2QSZNHKS23Z7629MMS6S4CWEF74VCWVY22GDX6A".toList
    let body' := "2PM2QSZNHKS23Z7629MMS6S4CWEF74VCWVY22GDX6L".toList
    (∃ d, decode (front ++ body) = .ok d) ∧ IsMisspelling body body' ∧
      decode (front ++ body') = .error .checksumMismatch := by
  intro front body body'
  have hok : decode (front ++ body) = .ok ⟨defaultPrefix, 0x00,
      [0x76, 0xa0, 0x40, 0x53, 0xbd, 0xa0, 0xa8, 0x8b, 0xda, 0x51, 0x77, 0xb8, 0x6a, 0x15, 0xc3,
        0xb2, 0x9f, 0x55, 0x98, 0x73]⟩ := by
    decide +kernel
  have hfront : IsFront front := .inr ⟨"BITCOINCASH".toList, by decide⟩
  have hwrong : IsMisspelling body body' := by
    have hreplaced : body' = (body.set 0 '2').set 41 'L' := by decide
    rw [hreplaced]
    exact .two (by decide) (by decide) (by decide) ⟨10, by decide +kernel, by decide +kernel⟩
      ⟨31, by decide +kernel, by decide +kernel⟩
  exact ⟨⟨_, hok⟩, hwrong,
    (decode_misspelled hfront (by decide) hok).2 body' hwrong (by decide +kernel)⟩

end BitcoinCash.CashAddr
