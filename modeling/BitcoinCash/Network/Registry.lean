import BitcoinCash.Network.Profile

/-! # Registries

  The networks that a reader of addresses is willing to recognise, in the order in which they are
  tried.

  - **Prefixes** are pairwise different; a list in which one comes twice is refused.
  - **Version bytes** may be shared, so a look-up by version byte comes in two forms: the first
    network that uses it, and the only one.
-/

namespace BitcoinCash

/-- The first text of a list that has come before, given those that came before the list. -/
def firstRepeated? (seen : List Text) : List Text → Option Text
  | [] => none
  | t :: ts => if t ∈ seen then some t else firstRepeated? (t :: seen) ts

/-- A list in which nothing has come before has no repetition. -/
theorem nodup_of_firstRepeated?_eq_none {seen ts : List Text}
    (h : firstRepeated? seen ts = none) : ts.Nodup ∧ ∀ t ∈ ts, t ∉ seen := by
  induction ts generalizing seen with
  | nil => simp
  | cons t ts ih =>
    rw [firstRepeated?] at h
    split at h
    · simp at h
    · next hseen =>
      obtain ⟨hnodup, hfresh⟩ := ih h
      refine ⟨List.nodup_cons.mpr ⟨fun hmem => hfresh t hmem (by simp), hnodup⟩, ?_⟩
      intro u hu
      rcases List.mem_cons.mp hu with rfl | hu
      · exact hseen
      · exact fun hmem => hfresh u hu (List.mem_cons_of_mem _ hmem)

/-- The networks to recognise, in the order in which they are tried. -/
structure Registry where
  /-- The networks. -/
  profiles : List Profile
  /-- No two of them have the same prefix. -/
  nodup_prefixes : (profiles.map (·.cashPrefix)).Nodup

namespace Registry

/-- A registry of the given networks, unless one of them has the prefix of an earlier one. -/
def ofList (profiles : List Profile) : Except AddressError Registry :=
  match h : firstRepeated? [] (profiles.map (·.cashPrefix)) with
  | some repeated => .error (.duplicateProfile repeated)
  | none => .ok ⟨profiles, (nodup_of_firstRepeated?_eq_none h).1⟩

/-- The registry of one network. -/
def single (n : Profile) : Registry :=
  ⟨[n], by simp⟩

/-- The registry of the production network and the public test network. -/
def standard : Registry :=
  ⟨[.mainnet, .testnet], by decide⟩

/-- The first network with a prefix, whatever the case of its ASCII letters. -/
def byPrefix? (r : Registry) (cashPrefix : Text) : Option Profile :=
  r.profiles.find? (·.cashPrefix.asciiCaseEq cashPrefix)

/-- The first network that uses a version byte. -/
def byVersion? (r : Registry) (version : UInt8) : Option Profile :=
  r.profiles.find? (·.usesVersion version)

/-- The only network that uses a version byte. -/
def uniqueByVersion? (r : Registry) (version : UInt8) : Option Profile :=
  match r.profiles.filter (·.usesVersion version) with
  | [n] => some n
  | _ => none

/-- Does any network use a version byte? -/
def knowsVersion (r : Registry) (version : UInt8) : Bool :=
  (r.byVersion? version).isSome

end Registry

end BitcoinCash
