import BitcoinCash.Address.Parse

/-! # Encoders

  An encoder is bound to one network. It turns scripts into addresses of that network and
  addresses into scripts, and it reads texts for that network only.
-/

namespace BitcoinCash

/-- The encoder of a network. -/
structure Encoder where
  /-- The network. -/
  network : Profile

namespace Encoder

/-- The encoder of the production network. -/
def mainnet : Encoder := ⟨.mainnet⟩

/-- The encoder of the public test network. -/
def testnet : Encoder := ⟨.testnet⟩

/-- The encoder of a local chain for tests. -/
def regtest : Encoder := ⟨.regtest⟩

/-- The address that a script pays to. -/
def encode (e : Encoder) (s : Script) : Except AddressError Address :=
  match Address.ofScript? e.network s with
  | some a => .ok a
  | none => .error .unknownScriptType

/-- The script that pays to an address. -/
def decode (_ : Encoder) (a : Address) : Script :=
  a.script

/-- Reads a text in either format for the network. -/
def read (e : Encoder) (text : Text) : Except AddressError Address :=
  Address.parseWith (.single e.network) (some e.network) text

end Encoder

/-- Reads a text for the production network. -/
def Address.ofText (text : Text) : Except AddressError Address :=
  Encoder.mainnet.read text

/-- The script that pays to the address of a text, read for the production network. -/
def Script.ofAddressText (text : Text) : Except AddressError Script :=
  (Address.ofText text).map Encoder.mainnet.decode

end BitcoinCash
