import BitcoinCash.Proofs.Address.Growth

/-! # Looking up a prefix

  A registry refuses a prefix that comes twice, letter for letter, but it is searched without regard to
  the case of ASCII letters. The two agree on prefixes without capital letters, and on no others that
  differ in case alone.

  - **`IsUnambiguous`**: no text is the prefix of two networks in this sense. It is the same to say
    that each network is found by its own prefix, in any casing (`isUnambiguous_iff_byPrefix?`).
  - **`isUnambiguous_of_ofList`** is the main statement: when the look-up in an accepted list is
    unambiguous. **`byPrefix?_of_capitals`** is a list in which it is not.
-/

namespace BitcoinCash.Registry

/-- No text is the prefix of two registered networks, up to the case of ASCII letters. -/
def IsUnambiguous (r : Registry) : Prop :=
  ∀ text : Text, ∀ n ∈ r.profiles, ∀ m ∈ r.profiles,
    n.cashPrefix.asciiCaseEq text = true → m.cashPrefix.asciiCaseEq text = true → n = m

variable {r : Registry}

/-- Two texts that are both a third one, up to case, have the same small form. -/
theorem asciiLower_eq_of_asciiCaseEq {s t text : Text} (hs : s.asciiCaseEq text = true)
    (ht : t.asciiCaseEq text = true) : s.asciiLower = t.asciiLower :=
  (beq_iff_eq.mp hs).trans (beq_iff_eq.mp ht).symm

/-- Registered networks are told apart by their prefixes. -/
theorem eq_of_cashPrefix_eq {n m : Profile} (hn : n ∈ r.profiles) (hm : m ∈ r.profiles)
    (h : n.cashPrefix = m.cashPrefix) : n = m :=
  List.inj_on_of_nodup_map r.nodup_prefixes hn hm h

/-- **A look-up that finds a network** finds the first one with the prefix. -/
theorem byPrefix?_eq_some_iff {text : Text} {n : Profile} :
    r.byPrefix? text = some n ↔ n.cashPrefix.asciiCaseEq text = true ∧
      ∃ before after, r.profiles = before ++ n :: after ∧
        ∀ m ∈ before, m.cashPrefix.asciiCaseEq text = false := by
  unfold byPrefix?
  rw [List.find?_eq_some_iff_append]
  simp only [Bool.not_eq_true']

/-- **Small forms decide**: the look-up is unambiguous exactly if the prefixes stay different in small
    letters. -/
theorem isUnambiguous_iff_nodup :
    r.IsUnambiguous ↔ (r.profiles.map fun n => n.cashPrefix.asciiLower).Nodup := by
  constructor
  · intro h
    have hdistinct : r.profiles.Nodup := List.Nodup.of_map _ r.nodup_prefixes
    apply hdistinct.map_on
    intro n hn m hm hsame
    -- The prefix of the one network is, up to case, the prefix of the other one.
    exact h n.cashPrefix n hn m hm (beq_self_eq_true _) (beq_iff_eq.mpr hsame.symm)
  · intro h text n hn m hm hnt hmt
    exact List.inj_on_of_nodup_map h hn hm (asciiLower_eq_of_asciiCaseEq hnt hmt)

/-- **Found by its own prefix**: the look-up is unambiguous exactly if it finds each network by its own
    prefix, in any casing. -/
theorem isUnambiguous_iff_byPrefix? :
    r.IsUnambiguous ↔ ∀ n ∈ r.profiles, ∀ text : Text, n.cashPrefix.asciiCaseEq text = true →
      r.byPrefix? text = some n := by
  constructor
  · intro h n hn text hnt
    -- The look-up finds some network with the prefix, and there is only one.
    cases hfind : r.byPrefix? text with
    | none =>
      rw [byPrefix?, List.find?_eq_none] at hfind
      exact absurd hnt (hfind n hn)
    | some m =>
      have hm : m ∈ r.profiles := List.mem_of_find?_eq_some hfind
      have hmt := (byPrefix?_eq_some_iff.mp hfind).1
      rw [h text m hm n hn hmt hnt]
  · intro h text n hn m hm hnt hmt
    have hfound := h n hn text hnt
    rw [h m hm text hmt] at hfound
    exact (Option.some.inj hfound).symm

/-- Without capital letters, prefixes that differ at all stay different in small letters. -/
theorem isUnambiguous_of_no_upper
    (h : ∀ n ∈ r.profiles, ∀ c ∈ n.cashPrefix, c.isUpper = false) : r.IsUnambiguous := by
  intro text n hn m hm hnt hmt
  have hsame := asciiLower_eq_of_asciiCaseEq hnt hmt
  rw [Text.asciiLower_of_no_upper (h n hn), Text.asciiLower_of_no_upper (h m hm)] at hsame
  exact eq_of_cashPrefix_eq hn hm hsame

/-- **When a look-up by prefix is unambiguous.** In a list of networks that a registry accepts, no text
    is the prefix of two of them exactly if their prefixes stay different in small letters, and exactly
    if each of them is found by its own prefix in any casing. This is so if no prefix has a capital
    letter. In any case a look-up finds the first network with the prefix, if there is one. -/
theorem isUnambiguous_of_ofList {profiles : List Profile} (h : ofList profiles = .ok r) :
    (r.IsUnambiguous ↔ (profiles.map fun n => n.cashPrefix.asciiLower).Nodup) ∧
    (r.IsUnambiguous ↔ ∀ n ∈ profiles, ∀ text : Text, n.cashPrefix.asciiCaseEq text = true →
      r.byPrefix? text = some n) ∧
    ((∀ n ∈ profiles, ∀ c ∈ n.cashPrefix, c.isUpper = false) → r.IsUnambiguous) ∧
    ∀ (text : Text) (n : Profile), r.byPrefix? text = some n ↔
      n.cashPrefix.asciiCaseEq text = true ∧ ∃ before after, profiles = before ++ n :: after ∧
        ∀ m ∈ before, m.cashPrefix.asciiCaseEq text = false := by
  rw [← profiles_of_ofList h]
  exact ⟨isUnambiguous_iff_nodup, isUnambiguous_iff_byPrefix?, isUnambiguous_of_no_upper,
    fun _ _ => byPrefix?_eq_some_iff⟩

/-- The shipped networks are found by their prefixes, in capital letters as well. -/
theorem isUnambiguous_of_ofList_shipped :
    ∃ r, ofList [.mainnet, .testnet, .regtest] = .ok r ∧ r.IsUnambiguous ∧
      r.byPrefix? "BchTest".toList = some .testnet := by
  have haccepted : ofList [.mainnet, .testnet, .regtest] =
      .ok ⟨[.mainnet, .testnet, .regtest], by decide⟩ := rfl
  have hascii : ∀ n ∈ [Profile.mainnet, .testnet, .regtest], n.cashPrefix.IsSmallAscii := by decide
  obtain ⟨-, hfound, hsmall, -⟩ := isUnambiguous_of_ofList haccepted
  have hunambiguous := hsmall fun n hn c hc => (hascii n hn c hc).2
  exact ⟨_, haccepted, hunambiguous, hfound.mp hunambiguous .testnet (by decide) _ (by decide)⟩

/-- **A prefix in capital letters** is accepted next to its small form. It is then the prefix of two
    networks, and the network that has it letter for letter is not the one that is found. -/
theorem byPrefix?_of_capitals :
    ∃ (n : Profile) (r : Registry), n.cashPrefix = "BCHTEST".toList ∧
      ofList [.testnet, n] = .ok r ∧ ¬r.IsUnambiguous ∧
      r.byPrefix? n.cashPrefix = some .testnet ∧ n ≠ .testnet := by
  let n : Profile := ⟨"upper".toList, .other, 28, 40, "BCHTEST".toList⟩
  let r : Registry := ⟨[.testnet, n], by decide⟩
  have haccepted : ofList [.testnet, n] = .ok r := rfl
  have hne : n ≠ .testnet := by decide
  refine ⟨n, r, rfl, haccepted, ?_, rfl, hne⟩
  intro h
  exact hne (h n.cashPrefix n (by decide) .testnet (by decide) (by decide) (by decide))

end BitcoinCash.Registry
