import BitcoinCash.TxOut

/-! # Recipes for outputs

  The ways to make an output, as data.
-/

namespace BitcoinCash.TxOut

/-- A way to make an output. -/
inductive Recipe
  /-- From a value and a script. -/
  | new (value : Int64) (script : Script)
  /-- The output that stands for none. -/
  | null
  /-- From data to carry. -/
  | dataCarrier (data : Bytes)
  /-- From a value and a public key. -/
  | payToPubKey (value : Int64) (key : Bytes)
  /-- From a value and the parts of an address. -/
  | payTo (value : Int64) (network : Profile) (kind : AddressKind) (hash : Bytes)

/-- The output of a recipe. The parts of an address may not fit together. -/
def Recipe.make : Recipe → Except AddressError TxOut
  | new value script => .ok (TxOut.new value script)
  | null => .ok TxOut.null
  | dataCarrier data => .ok (TxOut.dataCarrier data)
  | payToPubKey value key => .ok (TxOut.payToPubKey value key)
  | payTo value network kind hash => (Address.new network kind hash).map (TxOut.payTo value)

end BitcoinCash.TxOut
