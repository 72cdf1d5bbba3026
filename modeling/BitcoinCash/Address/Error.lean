import BitcoinCash.Hex
import BitcoinCash.Text.Quoted

/-! # Why an address is refused

  One type for the failures of both address formats, of scripts without an address, and of
  registries. Each failure is a cause with its data; `AddressError.message` is the only place that
  holds wording.
-/

namespace BitcoinCash

/-- How an address and the networks it is read for disagree. -/
inductive NetworkMismatch
  /-- The text names the prefix `got`, the network has `expected`. -/
  | foreignPrefix (expected got : Text)
  /-- No registered network has the prefix. -/
  | unknownPrefix (got : Text)
  /-- No registered network uses the version byte. -/
  | unknownVersion (version : UInt8)
  /-- The network called `network` does not use the version byte. -/
  | foreignVersion (version : UInt8) (network : Text)
  deriving DecidableEq, Repr

/-- Why a text, a script or a list of networks is refused. -/
inductive AddressError
  /-- A character outside the alphabet of the format. -/
  | invalidCharacter (c : Char)
  /-- A symbol value above 31 was to be written. -/
  | invalidSymbol (value : UInt8)
  /-- The checksum does not fit the rest of the text. -/
  | checksumMismatch
  /-- The bits that fill up the last symbol are not all zero. -/
  | invalidPadding
  /-- There is at least one symbol too many for a whole number of bytes. -/
  | excessPadding
  /-- The version byte has its reserved bit set or names no kind of address. -/
  | unknownVersionByte (version : UInt8)
  /-- The hash has `length` bytes, which is not a length that is allowed here. -/
  | hashSizeMismatch (length : Nat)
  /-- The text has small and capital letters. -/
  | mixedCase
  /-- The address belongs to another network than the one it is read for. -/
  | prefixMismatch (mismatch : NetworkMismatch)
  /-- The text is in neither format. -/
  | unrecognizedFormat
  /-- The text stands for `length` bytes, too few for a version byte and a checksum. -/
  | tooShort (length : Nat)
  /-- The script has none of the shapes that an address stands for. -/
  | unknownScriptType
  /-- A hash of `length` bytes has no legacy form. -/
  | nonStandardHashLength (length : Nat)
  /-- Several registered networks use the version byte. -/
  | ambiguousNetwork (version : UInt8)
  /-- Two networks of a registry have the same prefix. -/
  | duplicateProfile (networkPrefix : Text)
  deriving DecidableEq, Repr

/-- A byte with its marker and two digits, such as `0x0f`. -/
def markedHex (b : UInt8) : Text :=
  ['0', 'x'] ++ Hex.ofByte b

namespace NetworkMismatch

/-- The wording of a mismatch. -/
def message : NetworkMismatch → Text
  | foreignPrefix expected got => "expected ".toList ++ expected ++ ", got ".toList ++ got
  | unknownPrefix got => "unknown prefix ".toList ++ got
  | unknownVersion v => "no known network uses version byte ".toList ++ markedHex v
  | foreignVersion v network =>
    "version byte ".toList ++ markedHex v ++ " is not used by ".toList ++ network

end NetworkMismatch

namespace AddressError

/-- The wording of a failure. -/
def message : AddressError → Text
  | invalidCharacter c => "Invalid character: ".toList ++ Text.quoteChar c
  | invalidSymbol v => "Invalid 5-bit symbol: ".toList ++ Text.decimal v.toNat
  | checksumMismatch => "Checksum mismatch".toList
  | invalidPadding => "Non-zero padding bits".toList
  | excessPadding => "Excess padding bits".toList
  | unknownVersionByte v => "Unknown version byte: ".toList ++ markedHex v
  | hashSizeMismatch n =>
    "Hash of ".toList ++ Text.decimal n ++ " bytes does not match the declared size".toList
  | mixedCase => "Mixed-case address".toList
  | prefixMismatch m => "Network mismatch: ".toList ++ m.message
  | unrecognizedFormat => "Unrecognized address format".toList
  | tooShort n => "Base58 payload of ".toList ++ Text.decimal n ++ " bytes is too short".toList
  | unknownScriptType => "Non-standard script, no address".toList
  | nonStandardHashLength n =>
    "Legacy addresses require a 20-byte hash, got ".toList ++ Text.decimal n ++ " bytes".toList
  | ambiguousNetwork v =>
    "Version byte ".toList ++ markedHex v ++ " is shared by several networks".toList
  | duplicateProfile p => "Duplicate network prefix: ".toList ++ p

end AddressError

end BitcoinCash
