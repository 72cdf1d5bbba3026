import BitcoinCash.Address.Error

/-! # The version byte

  The first byte of a CashAddr payload says what the rest is.

  - **Bit 7** is reserved and zero.
  - **Bits 6 to 3** are the kind of address: 0 for a key hash, 1 for a script hash.
  - **Bits 2 to 0** are a code for the length of the hash.
-/

namespace BitcoinCash

/-- What the hash of an address is a hash of. -/
inductive AddressKind
  /-- Of a public key. -/
  | pubKeyHash
  /-- Of a redeem script. -/
  | scriptHash
  deriving DecidableEq, Repr

/-- The hash lengths that a version byte can declare. -/
inductive HashSize
  | bytes20
  | bytes24
  | bytes28
  | bytes32
  | bytes40
  | bytes48
  | bytes56
  | bytes64
  deriving DecidableEq, Repr

namespace AddressKind

/-- The kind as a number in the version byte. -/
def typeBits : AddressKind → UInt8
  | pubKeyHash => 0
  | scriptHash => 1

end AddressKind

namespace HashSize

/-- All sizes, in the order of their codes. -/
def all : List HashSize :=
  [bytes20, bytes24, bytes28, bytes32, bytes40, bytes48, bytes56, bytes64]

/-- The size whose code is the low three bits of a byte. -/
def ofCode (code : UInt8) : HashSize :=
  match (code &&& 0x07).toNat with
  | 0 => bytes20
  | 1 => bytes24
  | 2 => bytes28
  | 3 => bytes32
  | 4 => bytes40
  | 5 => bytes48
  | 6 => bytes56
  | _ => bytes64

/-- The code of a size in the version byte. -/
def code : HashSize → UInt8
  | bytes20 => 0
  | bytes24 => 1
  | bytes28 => 2
  | bytes32 => 3
  | bytes40 => 4
  | bytes48 => 5
  | bytes56 => 6
  | bytes64 => 7

/-- The length of a hash of that size in bytes. -/
def byteLength : HashSize → Nat
  | bytes20 => 20
  | bytes24 => 24
  | bytes28 => 28
  | bytes32 => 32
  | bytes40 => 40
  | bytes48 => 48
  | bytes56 => 56
  | bytes64 => 64

/-- The size of a hash of `n` bytes, if there is one. -/
def ofLength? (n : Nat) : Option HashSize :=
  all.find? (·.byteLength == n)

end HashSize

/-- The version byte of a kind and a size. -/
def versionByte (kind : AddressKind) (size : HashSize) : UInt8 :=
  (kind.typeBits <<< 3) ||| size.code

/-- The kind and the size that a version byte declares. -/
def parseVersionByte (version : UInt8) : Except AddressError (AddressKind × HashSize) :=
  if version &&& 0x80 ≠ 0 then .error (.unknownVersionByte version)
  else
    match ((version >>> 3) &&& 0x0f).toNat with
    | 0 => .ok (.pubKeyHash, .ofCode version)
    | 1 => .ok (.scriptHash, .ofCode version)
    | _ => .error (.unknownVersionByte version)

end BitcoinCash
