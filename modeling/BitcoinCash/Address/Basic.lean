import BitcoinCash.Base58.Check
import BitcoinCash.CashAddr.Codec
import BitcoinCash.Network.Registry
import BitcoinCash.Script.Shape

/-! # Addresses

  An address is a network, a kind and a hash. It has two texts: CashAddr, for hashes of all eight
  sizes, and the legacy Base58Check text, for hashes of 20 bytes only. It also has a script, the
  one that pays to it.

  Two addresses are equal if their networks, kinds and hashes are.
-/

namespace BitcoinCash

/-- An address. -/
structure Address where
  /-- The network it belongs to. -/
  network : Profile
  /-- What the hash is a hash of. -/
  kind : AddressKind
  /-- The size that its version byte declares. -/
  size : HashSize
  /-- The hash. -/
  hash : Bytes
  deriving DecidableEq, Repr

namespace Address

/-! ## Construction -/

/-- The address of a hash, if CashAddr has a size for it. -/
def new (network : Profile) (kind : AddressKind) (hash : Bytes) : Except AddressError Address :=
  match HashSize.ofLength? hash.length with
  | some size => .ok ⟨network, kind, size, hash⟩
  | none => .error (.hashSizeMismatch hash.length)

/-- The address of a hash of 20 bytes. -/
def standard (network : Profile) (kind : AddressKind) (hash : Digest 20) : Address :=
  ⟨network, kind, .bytes20, hash.bytes⟩

/-- The address of a public key. -/
def ofPubKey (network : Profile) (key : Bytes) : Address :=
  standard network .pubKeyHash (hash160 key)

/-- The address of a redeem script. -/
def ofRedeemScript (network : Profile) (script : Bytes) : Address :=
  standard network .scriptHash (hash160 script)

/-- The address that a shape stands for. -/
def ofShape? (network : Profile) : Script.Shape → Option Address
  | .pubKeyHash hash => some (standard network .pubKeyHash hash)
  | .scriptHash hash => some (standard network .scriptHash hash)
  | .opReturn => none
  | .nonStandard => none

/-- The address that a script pays to. -/
def ofScript? (network : Profile) (s : Script) : Option Address :=
  ofShape? network s.shape

/-! ## Properties -/

/-- The version byte of the CashAddr text. -/
def version (a : Address) : UInt8 :=
  versionByte a.kind a.size

/-- Does it stand for a public key? -/
def isPubKeyHash (a : Address) : Bool :=
  a.kind = .pubKeyHash

/-- Does it stand for a redeem script? -/
def isScriptHash (a : Address) : Bool :=
  a.kind = .scriptHash

/-- Does it belong to a production network? -/
def isMainnet (a : Address) : Bool :=
  a.network.kind = .main

/-- Does it belong to a test-like network? -/
def isTestnet (a : Address) : Bool :=
  a.network.isTestLike

/-! ## Rendering -/

/-- The script that pays to it. -/
def script (a : Address) : Script :=
  match a.kind with
  | .pubKeyHash => .payToPubKeyHash a.hash
  | .scriptHash => .payToScriptHash a.hash

/-- The CashAddr text. -/
def toCashAddr (a : Address) : Text :=
  CashAddr.encode a.network.cashPrefix (a.version :: a.hash)

/-- The legacy text, which only hashes of 20 bytes have. -/
def toLegacy (a : Address) : Except AddressError Text :=
  if a.size = .bytes20 then
    .ok (Base58.encodeCheck (a.network.legacyVersion a.kind) a.hash)
  else .error (.nonStandardHashLength a.hash.length)

end Address

end BitcoinCash
