import BitcoinCash.Address.Basic
import BitcoinCash.Wire.Format

/-! # Outputs

  An output binds a value to a locking script.

  - **The shape of the script** is found out on first use and kept in the output. A query gives its
    answer together with the output that remembers it.
  - **Equality** looks at value and script only, never at what is remembered.
  - **On the wire** an output is its value and its script.
-/

namespace BitcoinCash

/-- An output. -/
structure TxOut where
  /-- The value in satoshis. -/
  value : Int64
  /-- The locking script. -/
  script : Script
  /-- The shape of the script, once somebody has asked for it. -/
  remembered : Option Script.Shape

namespace TxOut

/-- Value and script decide whether two outputs are the same. -/
instance : BEq TxOut where
  beq a b := a.value == b.value && a.script == b.script

/-! ## Construction -/

/-- An output of a value and a script. -/
def new (value : Int64) (script : Script) : TxOut :=
  ⟨value, script, none⟩

/-- An output that pays to an address. -/
def payTo (value : Int64) (address : Address) : TxOut :=
  new value address.script

/-- An output that pays to a public key. -/
def payToPubKey (value : Int64) (key : Bytes) : TxOut :=
  new value (.payToPubKey key)

/-- The output that stands for none: value −1 and an empty script. -/
def null : TxOut :=
  new (-1) .empty

/-- An output without value that carries data. -/
def dataCarrier (data : Bytes) : TxOut :=
  new 0 (.dataCarrier data)

/-! ## Queries -/

/-- The shape of the script, and the output that remembers it. -/
def shape (out : TxOut) : Script.Shape × TxOut :=
  match out.remembered with
  | some shape => (shape, out)
  | none => (out.script.shape, { out with remembered := some out.script.shape })

/-- Does the output carry data? -/
def isOpReturn (out : TxOut) : Bool × TxOut :=
  let (shape, out) := out.shape
  (shape = .opReturn, out)

/-- The data that the output carries. -/
def opReturnData? (out : TxOut) : Option Bytes :=
  out.script.opReturnData?

/-- The address on a network that the output pays to. -/
def addressFor (out : TxOut) (network : Profile) : Option Address × TxOut :=
  let (shape, out) := out.shape
  (Address.ofShape? network shape, out)

/-- The address, if it stands for a public key. -/
def pubKeyAddressFor (out : TxOut) (network : Profile) : Option Address × TxOut :=
  let (address, out) := out.addressFor network
  (address.filter (·.kind = .pubKeyHash), out)

/-- The address, if it stands for a redeem script. -/
def scriptAddressFor (out : TxOut) (network : Profile) : Option Address × TxOut :=
  let (address, out) := out.addressFor network
  (address.filter (·.kind = .scriptHash), out)

/-! ## Wire form -/

/-- The count of bytes of the wire form. -/
def wireLength (out : TxOut) : Nat :=
  8 + out.script.wireLength

/-- Reads an output. -/
def read {σ : Type} [ByteSource σ] : Reading σ TxOut := do
  let value ← Wire.readInt64
  let script ← Script.read
  return new value script

/-- Writes an output. The result is the count of bytes that were accepted. -/
def write {σ : Type} [ByteSink σ] (out : TxOut) : Writing σ Nat := do
  let a ← Wire.writeInt64 out.value
  let b ← out.script.write
  return a + b

end TxOut

end BitcoinCash
