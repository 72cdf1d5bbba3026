import BitcoinCash.CashAddr.Codec

/-! # Networks

  What tells the addresses of one network from those of another: two version bytes for legacy
  addresses and a prefix for CashAddr.
-/

namespace BitcoinCash

/-- What a network is used for. -/
inductive NetworkKind
  /-- Production. -/
  | main
  /-- The public test network. -/
  | test
  /-- Any other network, such as a local chain for tests. -/
  | other
  deriving DecidableEq, Repr

/-- The address constants of a network. -/
structure Profile where
  /-- A short name for people. -/
  name : Text
  /-- What the network is used for. -/
  kind : NetworkKind
  /-- The version byte of legacy addresses of public keys. -/
  pubKeyHashVersion : UInt8
  /-- The version byte of legacy addresses of scripts. -/
  scriptHashVersion : UInt8
  /-- The prefix of CashAddr addresses, meant to be in small letters. -/
  cashPrefix : Text
  deriving DecidableEq, Repr

namespace Profile

/-- Every network that is not for production is test-like. -/
def isTestLike (n : Profile) : Bool :=
  n.kind ≠ .main

/-- The version byte of legacy addresses of a kind. -/
def legacyVersion (n : Profile) : AddressKind → UInt8
  | .pubKeyHash => n.pubKeyHashVersion
  | .scriptHash => n.scriptHashVersion

/-- The kind of legacy address that a version byte stands for. If both version bytes of a network
    are the same, it stands for an address of a public key. -/
def kindOfVersion? (n : Profile) (version : UInt8) : Option AddressKind :=
  if version = n.pubKeyHashVersion then some .pubKeyHash
  else if version = n.scriptHashVersion then some .scriptHash
  else none

/-- Does the network use a version byte for either kind? -/
def usesVersion (n : Profile) (version : UInt8) : Bool :=
  (n.kindOfVersion? version).isSome

/-- The production network. Its prefix is the one of CashAddr texts that name none. -/
def mainnet : Profile :=
  ⟨"mainnet".toList, .main, 0x00, 0x05, CashAddr.defaultPrefix⟩

/-- The public test network. -/
def testnet : Profile :=
  ⟨"testnet".toList, .test, 0x6f, 0xc4, "bchtest".toList⟩

/-- A local chain for tests. It shares its version bytes with the public test network. -/
def regtest : Profile :=
  ⟨"regtest".toList, .other, 0x6f, 0xc4, "bchreg".toList⟩

end Profile

end BitcoinCash
