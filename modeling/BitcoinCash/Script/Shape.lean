import BitcoinCash.Digest.Width
import BitcoinCash.Script.Push

/-! # The standard shapes of scripts

  Two shapes stand for an address, one carries data, and all other scripts are non-standard.

  - **Building** a script does not look at the length of a hash: only those of 20 bytes give a
    shape that is recognised.
  - **Recognising** a script looks at the first opcode, then at the length, then at the bytes
    around the hash.
-/

namespace BitcoinCash.Script

/-- The shape of a script. -/
inductive Shape
  /-- Pays to the holder of the key with the hash. -/
  | pubKeyHash (hash : Digest 20)
  /-- Pays to the redeem script with the hash. -/
  | scriptHash (hash : Digest 20)
  /-- Carries data. -/
  | opReturn
  /-- Anything else. -/
  | nonStandard
  deriving DecidableEq

/-- The hash of a shape that stands for an address. -/
def Shape.hash? : Shape → Option (Digest 20)
  | pubKeyHash h => some h
  | scriptHash h => some h
  | opReturn => none
  | nonStandard => none

/-! ## Building -/

/-- Pays to the holder of a key, by the hash of the key. -/
def payToPubKeyHash (hash : Bytes) : Script :=
  ⟨[opDup, opHash160] ++ push hash ++ [opEqualVerify, opCheckSig]⟩

/-- Pays to a redeem script, by its hash. -/
def payToScriptHash (hash : Bytes) : Script :=
  ⟨[opHash160] ++ push hash ++ [opEqual]⟩

/-- Pays to the holder of a key, by the key itself. -/
def payToPubKey (key : Bytes) : Script :=
  ⟨push key ++ [opCheckSig]⟩

/-- Carries data in a single push. -/
def dataCarrier (data : Bytes) : Script :=
  ⟨opReturn :: push data⟩

/-! ## Recognising -/

/-- Does the script carry data? -/
def isOpReturn (s : Script) : Bool :=
  s.bytes.head? == some opReturn

/-- The data of the first push of a script that carries data. -/
def opReturnData? (s : Script) : Option Bytes :=
  if s.isOpReturn then readPush? (s.bytes.drop 1) else none

/-- The 20 bytes between an opening and a closing byte string that make up the rest. -/
def between? (opening closing bs : Bytes) : Option (Digest 20) :=
  if bs.take opening.length = opening ∧ bs.drop (opening.length + 20) = closing then
    Digest.ofBytes? 20 ((bs.drop opening.length).take 20)
  else none

/-- The shape of a script. -/
def shape (s : Script) : Shape :=
  if s.isOpReturn then .opReturn
  else
    match between? [opDup, opHash160, 0x14] [opEqualVerify, opCheckSig] s.bytes with
    | some hash => .pubKeyHash hash
    | none =>
      match between? [opHash160, 0x14] [opEqual] s.bytes with
      | some hash => .scriptHash hash
      | none => .nonStandard

end BitcoinCash.Script
