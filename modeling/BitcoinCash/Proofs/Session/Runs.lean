import BitcoinCash.Proofs.Address.Consistency
import BitcoinCash.Proofs.TxOut.Memory
import BitcoinCash.Session

/-! # Runs of sessions

  However long a session goes on, and whatever fails in it, what it holds can be relied on.

  - **`Change`** says once what a step can do to a session. Everything else is derived from it.
  - **`IsSound`** is the invariant: the address is one that can be obtained, so that its size is the
    one of its hash, and the output is faithful to its script. A step keeps it (`IsSound.step`), and
    so does a run of any number of steps (`IsSound.run`).
  - **A step that fails** leaves everything as it was (`advance_cases`), so a run is the one of the
    steps that succeed (`foldlM_succeeding`). A step fails without the address or the output that it
    works on (`step_of_no_address`, `step_of_no_output`).
  - **`holds_of_run`** is the main statement.
-/

namespace BitcoinCash.Session

variable {registry : Registry} {s s' : Session}

/-! ## What a step does -/

/-- **What a step does to a session**, if it succeeds. -/
inductive Change (s : Session) : Session → Prop
  /-- Nothing: a copy of the output is the output. -/
  | same : Change s s
  /-- It puts an address in the place of the old one. -/
  | address {a : Address} (h : a.IsObtained) : Change s { s with address := some a }
  /-- It puts a fresh output in the place of the old one. -/
  | output {out : TxOut} (h : out.IsFresh) : Change s { s with output := some out }
  /-- It asks the output for an address. -/
  | ask {out : TxOut} {query : Query} {n : Profile} {a : Address} (hout : s.output = some out)
      (ha : (query.ask out n).1 = some a) : Change s ⟨some a, some (query.ask out n).2⟩

theorem demand_eq_ok_iff {α : Type} {o : Option α} {a : α} : demand o = .ok a ↔ o = some a := by
  cases o <;> simp [demand]

/-- Nothing is done without what is demanded. -/
theorem demand_bind_of_none {α β : Type} {o : Option α} (h : o = none) (rest : α → Except Failure β) :
    (demand o >>= rest) = .error .nothing := by
  rw [h]
  rfl

/-- An address that is not refused is taken. -/
theorem change_of_withAddress {x : Except AddressError Address}
    (hx : ∀ a, x = .ok a → a.IsObtained) (h : s.withAddress x = .ok s') : Change s s' := by
  cases x with
  | error e => cases h
  | ok a =>
    cases h
    exact .address (hx a rfl)

/-- What is made of a recipe is fresh. -/
theorem isFresh_of_make {recipe : TxOut.Recipe} {out : TxOut} (h : recipe.make = .ok out) :
    out.IsFresh := by
  cases recipe with
  | new value script =>
    cases h
    exact .new value script
  | null =>
    cases h
    exact .null
  | dataCarrier data =>
    cases h
    exact .dataCarrier data
  | payToPubKey value key =>
    cases h
    exact .payToPubKey value key
  | payTo value n kind hash =>
    change (Address.new n kind hash).map (TxOut.payTo value) = .ok out at h
    cases hnew : Address.new n kind hash with
    | error e =>
      rw [hnew] at h
      cases h
    | ok a =>
      rw [hnew] at h
      cases h
      exact .payTo value a

/-- **A step does nothing else.** -/
theorem change_of_step {step : Step} (h : s.step registry step = .ok s') : Change s s' := by
  cases step with
  | parse network text => exact change_of_withAddress (fun _ ha => .text (.either ha)) h
  | new n kind hash => exact change_of_withAddress (fun _ ha => .hash ha) h
  | respell spelling network =>
    obtain ⟨a, -, hread⟩ := except_bind_eq_ok_iff.mp h
    refine change_of_withAddress (fun b hb => ?_) hread
    obtain ⟨text, -, hparse⟩ := except_bind_eq_ok_iff.mp hb
    exact .text (.either hparse)
  | viaScript n =>
    obtain ⟨a, -, hrest⟩ := except_bind_eq_ok_iff.mp h
    obtain ⟨b, hb, hs'⟩ := except_bind_eq_ok_iff.mp hrest
    cases hs'
    exact .address (.script (demand_eq_ok_iff.mp hb))
  | viaJson =>
    obtain ⟨a, -, hrest⟩ := except_bind_eq_ok_iff.mp h
    obtain ⟨b, hb, hs'⟩ := except_bind_eq_ok_iff.mp hrest
    cases hs'
    exact .address (.json (except_mapError_eq_ok_iff.mp hb))
  | wrap n =>
    obtain ⟨a, -, hs'⟩ := except_bind_eq_ok_iff.mp h
    cases hs'
    exact .address (.redeemScript n _)
  | classify =>
    obtain ⟨a, -, hrest⟩ := except_bind_eq_ok_iff.mp h
    obtain ⟨n, -, hnew⟩ := except_bind_eq_ok_iff.mp hrest
    exact change_of_withAddress (fun _ hb => .hash hb) hnew
  | pay value =>
    obtain ⟨a, -, hs'⟩ := except_bind_eq_ok_iff.mp h
    cases hs'
    exact .output (.payTo value a)
  | make recipe =>
    obtain ⟨out, hout, hs'⟩ := except_bind_eq_ok_iff.mp h
    cases hs'
    exact .output (isFresh_of_make (except_mapError_eq_ok_iff.mp hout))
  | copyOutput =>
    obtain ⟨out, hout, hs'⟩ := except_bind_eq_ok_iff.mp h
    cases hs'
    rw [← demand_eq_ok_iff.mp hout]
    exact .same
  | outputViaHex =>
    obtain ⟨out, -, hrest⟩ := except_bind_eq_ok_iff.mp h
    obtain ⟨out', hread, hs'⟩ := except_bind_eq_ok_iff.mp hrest
    cases hs'
    exact .output (.ofHex (except_mapError_eq_ok_iff.mp hread))
  | outputViaJson =>
    obtain ⟨out, -, hrest⟩ := except_bind_eq_ok_iff.mp h
    obtain ⟨out', hread, hs'⟩ := except_bind_eq_ok_iff.mp hrest
    cases hs'
    exact .output (.ofJson (except_mapError_eq_ok_iff.mp hread))
  | addressOf query n =>
    obtain ⟨out, hout, hrest⟩ := except_bind_eq_ok_iff.mp h
    obtain ⟨a, ha, hs'⟩ := except_bind_eq_ok_iff.mp hrest
    cases hs'
    exact .ask (demand_eq_ok_iff.mp hout) (demand_eq_ok_iff.mp ha)

/-- Does a step work on the address? -/
def Step.needsAddress : Step → Bool
  | respell _ _ | viaScript _ | viaJson | wrap _ | classify | pay _ => true
  | _ => false

/-- Does a step work on the output? -/
def Step.needsOutput : Step → Bool
  | copyOutput | outputViaHex | outputViaJson | addressOf _ _ => true
  | _ => false

/-- **A step fails without the address** that it works on. -/
theorem step_of_no_address {step : Step} (hstep : step.needsAddress = true)
    (h : s.address = none) : s.step registry step = .error .nothing := by
  cases step with
  | respell spelling network => exact demand_bind_of_none h _
  | viaScript n => exact demand_bind_of_none h _
  | viaJson => exact demand_bind_of_none h _
  | wrap n => exact demand_bind_of_none h _
  | classify => exact demand_bind_of_none h _
  | pay value => exact demand_bind_of_none h _
  | _ => cases hstep

/-- **A step fails without the output** that it works on. -/
theorem step_of_no_output {step : Step} (hstep : step.needsOutput = true)
    (h : s.output = none) : s.step registry step = .error .nothing := by
  cases step with
  | copyOutput => exact demand_bind_of_none h _
  | outputViaHex => exact demand_bind_of_none h _
  | outputViaJson => exact demand_bind_of_none h _
  | addressOf query n => exact demand_bind_of_none h _
  | _ => cases hstep

/-- **A step that fails** leaves everything as it was. -/
theorem advance_cases (registry : Registry) (s : Session) (step : Step) :
    (∃ s', s.step registry step = .ok s' ∧ s.advance registry step = (s', none)) ∨
      ∃ failure, s.step registry step = .error failure ∧
        s.advance registry step = (s, some failure) := by
  unfold advance
  cases s.step registry step with
  | ok s' => exact .inl ⟨s', rfl, rfl⟩
  | error failure => exact .inr ⟨failure, rfl, rfl⟩

/-! ## The invariant -/

/-- **What can be relied on in a session.** -/
structure IsSound (s : Session) : Prop where
  /-- The address is one that can be obtained. -/
  address : ∀ a, s.address = some a → a.IsObtained
  /-- The output remembers nothing or the shape of its script. -/
  output : ∀ out, s.output = some out → out.IsFaithful

/-- A session that holds nothing. -/
theorem isSound_empty : IsSound empty := ⟨nofun, nofun⟩

/-- An address of an output is one that can be obtained. -/
theorem Query.isObtained_of_ask {query : Query} {out : TxOut} {n : Profile} {a : Address}
    (h : (query.ask out n).1 = some a) : a.IsObtained := by
  cases query with
  | any => exact .output h
  | pubKeyHash => exact .pubKeyOutput h
  | scriptHash => exact .scriptOutput h

/-- Whichever address a faithful output is asked for, it learns the shape of its script. -/
theorem Query.ask_snd (query : Query) {out : TxOut} (h : out.IsFaithful) (n : Profile) :
    (query.ask out n).2 = out.informed := by
  have hsame : (query.ask out n).2 = (out.addressFor n).2 := by cases query <;> rfl
  rw [hsame, TxOut.addressFor_eq h]

namespace IsSound

/-- No change makes a session hold something wrong. -/
theorem change (h : s.IsSound) (hs : Change s s') : s'.IsSound := by
  cases hs with
  | same => exact h
  | address ha =>
    refine ⟨fun b hb => ?_, h.output⟩
    cases hb
    exact ha
  | output hfresh =>
    refine ⟨h.address, fun out hout => ?_⟩
    cases hout
    exact .inl hfresh.remembered_eq
  | ask hout ha =>
    constructor
    · intro b hb
      cases hb
      exact Query.isObtained_of_ask ha
    · intro out hout'
      cases hout'
      rw [Query.ask_snd _ (h.output _ hout)]
      exact TxOut.isFaithful_informed _

/-- **A step keeps what can be relied on**, whether it succeeds or fails. -/
theorem step (h : s.IsSound) (registry : Registry) (step : Step) :
    (s.advance registry step).1.IsSound := by
  rcases advance_cases registry s step with ⟨s', hstep, hs'⟩ | ⟨failure, -, hs'⟩
  · rw [hs']
    exact h.change (change_of_step hstep)
  · rw [hs']
    exact h

end IsSound

/-! ## Runs -/

/-- The session after a number of steps. Those that fail are passed over. -/
def run (registry : Registry) (s : Session) (steps : List Step) : Session :=
  steps.foldl (fun s step => (s.advance registry step).1) s

/-- The steps of a run that succeed. -/
def succeeding (registry : Registry) (s : Session) : List Step → List Step
  | [] => []
  | step :: steps =>
    match s.advance registry step with
    | (s', none) => step :: s'.succeeding registry steps
    | (s', some _) => s'.succeeding registry steps

/-- **A run keeps what can be relied on.** -/
theorem IsSound.run (h : s.IsSound) (registry : Registry) (steps : List Step) :
    (s.run registry steps).IsSound := by
  induction steps generalizing s with
  | nil => exact h
  | cons step steps ih => exact ih (h.step registry step)

/-- **A run is the run of the steps that succeed**, one after another and without a failure. -/
theorem foldlM_succeeding (registry : Registry) (s : Session) (steps : List Step) :
    (s.succeeding registry steps).foldlM (Session.step registry) s =
      .ok (s.run registry steps) := by
  induction steps generalizing s with
  | nil => rfl
  | cons step steps ih =>
    have hrun : s.run registry (step :: steps) = (s.advance registry step).1.run registry steps := rfl
    rw [hrun, succeeding]
    rcases advance_cases registry s step with ⟨s', hstep, hs'⟩ | ⟨failure, -, hs'⟩
    · rw [hs', List.foldlM_cons, hstep]
      exact ih s'
    · rw [hs']
      exact ih s

/-! ## What a session holds -/

/-- An address that is written as CashAddr text and read again for its network is the same. -/
theorem step_respell {a : Address} (ha : s.address = some a) (hsize : a.IsConsistent)
    (hascii : a.network.cashPrefix.IsSmallAscii) (registry : Registry) :
    s.step registry (.respell .cashAddr (some a.network)) = .ok s := by
  obtain ⟨address, output⟩ := s
  cases ha
  show withAddress _ (Address.parseWith registry (some a.network) a.toCashAddr) = _
  rw [Address.parseWith_toCashAddr hascii hsize]
  rfl

/-- **Whatever a session has done**, what it holds can be relied on.

    - The address has the size of its hash, and its version byte is accepted and stands for its kind
      and its size. If its network has a prefix in small ASCII letters, then writing the address and
      reading it again for its network is a step that changes nothing.
    - The output answers every question as its script does by itself.
    - The steps that have failed could as well have been left out. -/
theorem holds_of_run (registry : Registry) (steps : List Step) :
    let s := empty.run registry steps
    (∀ a, s.address = some a →
      a.size.byteLength = a.hash.length ∧ parseVersionByte a.version = .ok (a.kind, a.size) ∧
      (a.network.cashPrefix.IsSmallAscii → ∀ registry,
        s.step registry (.respell .cashAddr (some a.network)) = .ok s)) ∧
    (∀ out, s.output = some out → ∀ q, (out.ask q).1 = TxOut.Question.answer out.script q) ∧
    (empty.succeeding registry steps).foldlM (Session.step registry) empty = .ok s := by
  intro s
  have hsound : s.IsSound := isSound_empty.run registry steps
  refine ⟨?_, ?_, foldlM_succeeding registry empty steps⟩
  · intro a ha
    have hsize := (hsound.address a ha).isConsistent
    exact ⟨hsize.symm, a.parseVersionByte_version,
      fun hascii registry => step_respell ha hsize hascii registry⟩
  · intro out hout q
    rw [TxOut.ask_eq (hsound.output out hout)]

/-- A hash of three bytes is refused, and the steps after it go on with the address before it. -/
example :
    (empty.run .standard [.new .testnet .scriptHash (List.replicate 20 0x5a),
      .new .mainnet .pubKeyHash [1, 2, 3], .pay 1000, .addressOf .any .regtest]).address =
      some ⟨.regtest, .scriptHash, .bytes20, List.replicate 20 0x5a⟩ := by
  decide +kernel

end BitcoinCash.Session
