import BitcoinCash.Json.Decode
import BitcoinCash.Proofs.Address.Scripts
import BitcoinCash.Proofs.Wire.Canonical

/-! # What outputs remember

  An output finds out the shape of its script on the first question and remembers it. No answer ever
  depends on that.

  - **`IsFresh`** says where outputs come from: they are built, or read from bytes or JSON. A fresh
    output remembers nothing.
  - **`Question.answer`** is the answer that a script gives by itself. An output that `IsFaithful`
    gives the same one and stays faithful (`ask_eq`).
  - **`Reached`** collections of outputs come about by making outputs, copying them, and asking them
    anything in any order. All outputs in them are faithful (`isFaithful_of_reached`).
  - **`answers_of_reached`** is the main statement.
-/

namespace BitcoinCash

/-- A computation of two steps succeeds exactly if both do. -/
theorem except_bind_eq_ok_iff {ε α β : Type} {x : Except ε α} {f : α → Except ε β} {b : β} :
    (x >>= f) = .ok b ↔ ∃ a, x = .ok a ∧ f a = .ok b := by
  cases x with
  | error e => simp [bind, Except.bind]
  | ok a => simp [bind, Except.bind]

namespace TxOut

/-! ## Fresh outputs -/

/-- **An output as it comes into being**: built from its parts, or read. -/
inductive IsFresh : TxOut → Prop
  /-- Built from a value and a script. -/
  | new (value : Int64) (script : Script) : IsFresh (new value script)
  /-- Built for an address. -/
  | payTo (value : Int64) (address : Address) : IsFresh (payTo value address)
  /-- Built for a public key. -/
  | payToPubKey (value : Int64) (key : Bytes) : IsFresh (payToPubKey value key)
  /-- The output that stands for none. -/
  | null : IsFresh null
  /-- Built for data to carry. -/
  | dataCarrier (data : Bytes) : IsFresh (dataCarrier data)
  /-- Read from a source. -/
  | read {σ : Type} [ByteSource σ] {s s' : σ} {out : TxOut} (h : read.run s = (.ok out, s')) :
    IsFresh out
  /-- Read from the hexadecimal text of its wire form. -/
  | ofHex {text : Text} {out : TxOut} (h : ofHex text = .ok out) : IsFresh out
  /-- Read from its JSON form. -/
  | ofJson {v : Json} {out : TxOut} (h : ofJson v = .ok out) : IsFresh out

theorem remembered_of_read {σ : Type} [ByteSource σ] {s s' : σ} {out : TxOut}
    (h : read.run s = (.ok out, s')) : out.remembered = none := by
  obtain ⟨value, s₁, -, hrest⟩ := run_bind_eq_ok_iff.mp h
  obtain ⟨script, s₂, -, hnew⟩ := run_bind_eq_ok_iff.mp hrest
  obtain ⟨hout, -⟩ := run_pure_eq_ok_iff.mp hnew
  rw [← hout]
  rfl

theorem remembered_of_ofHex {text : Text} {out : TxOut} (h : ofHex text = .ok out) :
    out.remembered = none := by
  unfold ofHex Wire.readHex at h
  split at h
  · cases h
  · next bs hbs => exact remembered_of_read (s := bs) (Prod.ext h rfl)

theorem remembered_of_ofMembers {members : List (Text × Json)} {out : TxOut}
    (h : ofMembers members = .ok out) : out.remembered = none := by
  obtain ⟨script, -, hrest⟩ := except_bind_eq_ok_iff.mp h
  obtain ⟨value, -, hnew⟩ := except_bind_eq_ok_iff.mp hrest
  -- A member that is missing is refused.
  cases value with
  | none => cases hnew
  | some value =>
    cases script with
    | none => cases hnew
    | some script =>
      cases hnew
      rfl

theorem remembered_of_ofItems {items : List Json} {out : TxOut} (h : ofItems items = .ok out) :
    out.remembered = none := by
  cases items with
  | nil => cases h
  | cons v rest =>
    obtain ⟨value, -, hrest⟩ := except_bind_eq_ok_iff.mp h
    cases rest with
    | nil => cases hrest
    | cons s more =>
      obtain ⟨script, -, hnew⟩ := except_bind_eq_ok_iff.mp hrest
      split at hnew
      · cases hnew
        rfl
      · cases hnew

/-- **A fresh output remembers nothing**, wherever it comes from. -/
theorem IsFresh.remembered_eq {out : TxOut} (h : IsFresh out) : out.remembered = none := by
  cases h with
  | new => rfl
  | payTo => rfl
  | payToPubKey => rfl
  | null => rfl
  | dataCarrier => rfl
  | read h => exact remembered_of_read h
  | ofHex h => exact remembered_of_ofHex h
  | @ofJson v _ h =>
    unfold TxOut.ofJson at h
    split at h
    · exact remembered_of_ofMembers h
    · exact remembered_of_ofItems h
    · cases h

/-! ## Questions and answers -/

/-- **What is remembered is true**: it is the shape of the script. -/
def IsFaithful (out : TxOut) : Prop :=
  out.remembered = none ∨ out.remembered = some out.script.shape

/-- A question that an output answers by the shape of its script. -/
inductive Question
  /-- What is the shape? -/
  | shape
  /-- Does the output carry data? -/
  | isOpReturn
  /-- What is the address on a network? -/
  | address (network : Profile)
  /-- What is the address, if it stands for a public key? -/
  | pubKeyAddress (network : Profile)
  /-- What is the address, if it stands for a redeem script? -/
  | scriptAddress (network : Profile)

/-- An answer. -/
inductive Answer
  /-- A shape. -/
  | shape (shape : Script.Shape)
  /-- Yes or no. -/
  | flag (yes : Bool)
  /-- An address, or that there is none. -/
  | address (address : Option Address)

/-- The answer of an output, and the output after it. -/
def ask (out : TxOut) : Question → Answer × TxOut
  | .shape => out.shape.map .shape id
  | .isOpReturn => out.isOpReturn.map .flag id
  | .address n => (out.addressFor n).map .address id
  | .pubKeyAddress n => (out.pubKeyAddressFor n).map .address id
  | .scriptAddress n => (out.scriptAddressFor n).map .address id

/-- The answer that a script gives by itself. -/
def Question.answer (s : Script) : Question → Answer
  | shape => .shape s.shape
  | isOpReturn => .flag s.isOpReturn
  | address n => .address (Address.ofScript? n s)
  | pubKeyAddress n => .address ((Address.ofScript? n s).filter (·.kind = .pubKeyHash))
  | scriptAddress n => .address ((Address.ofScript? n s).filter (·.kind = .scriptHash))

/-- The output that knows the shape of its script. -/
def informed (out : TxOut) : TxOut :=
  { out with remembered := some out.script.shape }

@[simp] theorem informed_value (out : TxOut) : out.informed.value = out.value := rfl

@[simp] theorem informed_script (out : TxOut) : out.informed.script = out.script := rfl

@[simp] theorem informed_remembered (out : TxOut) :
    out.informed.remembered = some out.script.shape := rfl

theorem isFaithful_informed (out : TxOut) : out.informed.IsFaithful := .inr rfl

section Faithful

variable {out : TxOut}

theorem shape_eq (h : out.IsFaithful) : out.shape = (out.script.shape, out.informed) := by
  obtain ⟨value, script, remembered⟩ := out
  rcases h with h | h
  · change remembered = none at h
    rw [h]
    rfl
  · change remembered = some script.shape at h
    rw [h]
    rfl

theorem isOpReturn_eq (h : out.IsFaithful) :
    out.isOpReturn = (out.script.isOpReturn, out.informed) := by
  have hanswer : decide (out.script.shape = .opReturn) = out.script.isOpReturn := by
    rw [Bool.eq_iff_iff, decide_eq_true_iff]
    exact Script.shape_eq_opReturn_iff
  simp only [isOpReturn, shape_eq h, hanswer]

theorem addressFor_eq (h : out.IsFaithful) (n : Profile) :
    out.addressFor n = (Address.ofScript? n out.script, out.informed) := by
  simp only [addressFor, shape_eq h, Address.ofScript?]

/-- **A faithful output answers as its script does**, and it knows the shape afterwards. -/
theorem ask_eq (h : out.IsFaithful) (q : Question) :
    out.ask q = (q.answer out.script, out.informed) := by
  cases q with
  | shape => simp only [ask, shape_eq h, Question.answer, Prod.map, id]
  | isOpReturn => simp only [ask, isOpReturn_eq h, Question.answer, Prod.map, id]
  | address n => simp only [ask, addressFor_eq h, Question.answer, Prod.map, id]
  | pubKeyAddress n =>
    simp only [ask, pubKeyAddressFor, addressFor_eq h, Question.answer, Prod.map, id]
  | scriptAddress n =>
    simp only [ask, scriptAddressFor, addressFor_eq h, Question.answer, Prod.map, id]

end Faithful

/-! ## Collections of outputs -/

/-- **One step** with a collection of outputs. -/
inductive Step : List TxOut → List TxOut → Prop
  /-- An output is made. -/
  | make {pool : List TxOut} {out : TxOut} (h : IsFresh out) : Step pool (out :: pool)
  /-- An output is copied, with what it remembers. -/
  | copy {pool : List TxOut} {out : TxOut} (h : out ∈ pool) : Step pool (out :: pool)
  /-- An output is asked. -/
  | ask {before after : List TxOut} {out : TxOut} (q : Question) :
    Step (before ++ out :: after) (before ++ (out.ask q).2 :: after)

/-- **The collections that come about**, in any number of steps. -/
inductive Reached : List TxOut → Prop
  /-- At first there is nothing. -/
  | nothing : Reached []
  /-- One more step. -/
  | step {pool pool' : List TxOut} (h : Reached pool) (hs : Step pool pool') : Reached pool'

/-- No step makes an output remember something wrong. -/
theorem isFaithful_of_step {pool pool' : List TxOut} (hs : Step pool pool')
    (h : ∀ out ∈ pool, out.IsFaithful) : ∀ out ∈ pool', out.IsFaithful := by
  cases hs with
  | make hfresh => exact List.forall_mem_cons.mpr ⟨.inl hfresh.remembered_eq, h⟩
  | copy hmem => exact List.forall_mem_cons.mpr ⟨h _ hmem, h⟩
  | @ask before after out q =>
    -- Only the output that is asked changes, and it learns the shape of its own script.
    have hout := h out (by simp)
    rw [ask_eq hout]
    intro other hother
    rcases List.mem_append.mp hother with hbefore | hrest
    · exact h other (List.mem_append_left _ hbefore)
    · rcases List.mem_cons.mp hrest with rfl | hafter
      · exact isFaithful_informed out
      · exact h other (List.mem_append_right _ (List.mem_cons_of_mem _ hafter))

/-- **No output ever remembers something wrong.** -/
theorem isFaithful_of_reached {pool : List TxOut} (h : Reached pool) :
    ∀ out ∈ pool, out.IsFaithful := by
  induction h with
  | nothing => simp
  | step _ hs ih => exact isFaithful_of_step hs ih

/-! ## The answers -/

/-- Value and script decide whether two outputs are the same. -/
theorem beq_eq_true_iff (out other : TxOut) :
    (out == other) = true ↔ out.value = other.value ∧ out.script = other.script := by
  show (out.value == other.value && out.script == other.script) = true ↔ _
  rw [Bool.and_eq_true, beq_iff_eq, beq_iff_eq]

/-- An address stands for a public key or for a redeem script, and not for both. -/
theorem filter_kind (a : Address) :
    (some a).filter (·.kind = .pubKeyHash) = some a ∧
        (some a).filter (·.kind = .scriptHash) = none ∨
      (some a).filter (·.kind = .pubKeyHash) = none ∧
        (some a).filter (·.kind = .scriptHash) = some a := by
  cases hkind : a.kind with
  | pubKeyHash => exact .inl (by simp [Option.filter, hkind])
  | scriptHash => exact .inr (by simp [Option.filter, hkind])

/-- A script that carries data stands for no address. -/
theorem ofScript?_of_isOpReturn {s : Script} (h : s.isOpReturn = true) (n : Profile) :
    Address.ofScript? n s = none := by
  rw [Address.ofScript?, Script.shape_eq_opReturn_iff.mpr h]
  rfl

/-- **What an output remembers never changes an answer.** However outputs have been made, copied and
    asked, each of them has the following properties.

    - It remembers nothing or the shape of its script.
    - It answers every question as the output of the same value and script does that has just been
      made, and keeps value and script: it has the shape of the script, carries data if the script
      does, and has the addresses of the script.
    - If it carries data, then it has no address on any network. If it has an address, then this is
      the address of a public key or of a redeem script, and not both, and otherwise it is neither.
    - It equals every output of the same value and script, whatever that one remembers, and no
      other. -/
theorem answers_of_reached {pool : List TxOut} (h : Reached pool) {out : TxOut}
    (hout : out ∈ pool) :
    (out.remembered = none ∨ out.remembered = some out.script.shape) ∧
    (∀ q, (out.ask q).1 = ((new out.value out.script).ask q).1 ∧
      (out.ask q).2.value = out.value ∧ (out.ask q).2.script = out.script) ∧
    out.shape.1 = out.script.shape ∧
    out.isOpReturn.1 = out.script.isOpReturn ∧
    (∀ n, (out.addressFor n).1 = Address.ofScript? n out.script) ∧
    (out.isOpReturn.1 = true → ∀ n, (out.addressFor n).1 = none) ∧
    (∀ n a, (out.addressFor n).1 = some a →
      (out.pubKeyAddressFor n).1 = some a ∧ (out.scriptAddressFor n).1 = none ∨
        (out.pubKeyAddressFor n).1 = none ∧ (out.scriptAddressFor n).1 = some a) ∧
    (∀ n, (out.addressFor n).1 = none →
      (out.pubKeyAddressFor n).1 = none ∧ (out.scriptAddressFor n).1 = none) ∧
    ∀ other : TxOut, (out == other) = true ↔
      out.value = other.value ∧ out.script = other.script := by
  have hfaithful : out.IsFaithful := isFaithful_of_reached h out hout
  -- The two other accessors only look at the kind of the address.
  have hkinds : ∀ n,
      (out.pubKeyAddressFor n).1 = (out.addressFor n).1.filter (·.kind = .pubKeyHash) ∧
      (out.scriptAddressFor n).1 = (out.addressFor n).1.filter (·.kind = .scriptHash) :=
    fun n => ⟨rfl, rfl⟩
  refine ⟨hfaithful, ?_, ?_, ?_, ?_, ?_, ?_, ?_, beq_eq_true_iff out⟩
  · intro q
    have hnew : (new out.value out.script).IsFaithful := .inl rfl
    rw [ask_eq hfaithful, ask_eq hnew]
    exact ⟨rfl, rfl, rfl⟩
  · rw [shape_eq hfaithful]
  · rw [isOpReturn_eq hfaithful]
  · intro n
    rw [addressFor_eq hfaithful]
  · intro hdata n
    rw [isOpReturn_eq hfaithful] at hdata
    rw [addressFor_eq hfaithful]
    exact ofScript?_of_isOpReturn hdata n
  · intro n a ha
    rw [(hkinds n).1, (hkinds n).2, ha]
    exact filter_kind a
  · intro n hnone
    rw [(hkinds n).1, (hkinds n).2, hnone]
    exact ⟨rfl, rfl⟩

/-- An output is asked for its shape and copied. The copy has the address of the script on another
    network, and it equals the output that nobody has asked. -/
theorem answers_of_reached_copied :
    let hash : Digest 20 := ⟨List.replicate 20 0x5a, by decide⟩
    let paid := payTo 1000 (Address.standard .testnet .scriptHash hash)
    let copy := (paid.ask .shape).2
    Reached [copy, copy] ∧ copy.remembered = some (.scriptHash hash) ∧
      (copy.addressFor .regtest).1 = some (Address.standard .regtest .scriptHash hash) ∧
      (copy == paid) = true := by
  intro hash paid copy
  have hmade : Reached [paid] := .step .nothing (.make (.payTo _ _))
  have hasked : Reached [copy] := .step hmade (@Step.ask [] [] paid .shape)
  have hcopied : Reached [copy, copy] := .step hasked (.copy (by simp))
  have hmem : copy ∈ [copy, copy] := List.mem_cons_self
  obtain ⟨-, -, -, -, haddress, -, -, -, hbeq⟩ := answers_of_reached hcopied hmem
  have hfresh : paid.IsFaithful := .inl rfl
  have hcopy : copy = paid.informed := congrArg Prod.snd (ask_eq hfresh .shape)
  have hscript : paid.script = (Address.standard .regtest .scriptHash hash).script :=
    (Address.script_withNetwork (Address.standard .testnet .scriptHash hash) .regtest).symm
  have hshape : paid.script.shape = .scriptHash hash := Script.shape_eq_scriptHash_iff.mpr hscript
  refine ⟨hcopied, ?_, ?_, (hbeq paid).mpr ?_⟩
  · rw [hcopy, informed_remembered, hshape]
  · rw [haddress, hcopy, informed_script, hscript]
    exact Address.ofScript?_script_standard .regtest .scriptHash hash
  · simp [hcopy]

end TxOut

end BitcoinCash
