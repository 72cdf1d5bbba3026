import BitcoinCash.CashAddr.Checksum
import BitcoinCash.CashAddr.Regroup
import BitcoinCash.CashAddr.Version
import BitcoinCash.Text.Case

/-! # CashAddr text

  A prefix, a colon, and symbols, the last eight of which are a checksum.

  - **Writing** takes symbols, or a payload of bytes, as they are; it does not ask whether they
    make sense.
  - **Reading symbols** checks, in this order, that the letters are all small or all capital, that
    each character after the last colon stands for a symbol, and that the checksum fits. A text
    without a colon is read under a prefix given beforehand.
  - **Reading a payload** goes on to the padding, the version byte, and the length of the hash.
-/

namespace BitcoinCash.CashAddr

/-! ## Writing -/

/-- The text of a prefix and symbols, with their checksum. -/
def spell (cashPrefix : Text) (symbols : List Symbol) : Text :=
  cashPrefix ++ ':' :: (symbols ++ checksum cashPrefix symbols).map Symbol.char

/-- The text of a prefix and raw symbol values, one byte each. -/
def encodeSymbols (cashPrefix : Text) (values : Bytes) : Except AddressError Text :=
  match values.find? (fun v => (Symbol.ofByte? v).isNone) with
  | some bad => .error (.invalidSymbol bad)
  | none => .ok (spell cashPrefix (values.filterMap Symbol.ofByte?))

/-- The text of a prefix and a payload. -/
def encode (cashPrefix : Text) (payload : Bytes) : Text :=
  spell cashPrefix (bytesToSymbols payload)

/-! ## Reading -/

/-- The symbols of a text, or the first character that stands for none. -/
def readSymbols : Text → Except AddressError (List Symbol)
  | [] => .ok []
  | c :: t =>
    match Symbol.ofChar? c with
    | none => .error (.invalidCharacter c)
    | some s => (readSymbols t).map (s :: ·)

/-- The prefix of a text in small letters, and what follows it. The prefix of a text without a
    colon is `defaultPrefix`. -/
def splitPrefix (defaultPrefix text : Text) : Text × Text :=
  match Text.splitLast? ':' text.lower with
  | some parts => parts
  | none => (defaultPrefix.lower, text.lower)

/-- The prefix of a text and its symbols without the checksum. -/
def decodeSymbols (defaultPrefix text : Text) : Except AddressError (Text × List Symbol) :=
  if text.mixesCase then .error .mixedCase
  else
    let (cashPrefix, body) := splitPrefix defaultPrefix text
    match readSymbols body with
    | .error e => .error e
    | .ok symbols =>
      if symbols.length < checksumLength then .error .checksumMismatch
      else if verifies cashPrefix symbols then
        .ok (cashPrefix, symbols.take (symbols.length - checksumLength))
      else .error .checksumMismatch

/-- What a CashAddr text says. -/
structure Decoded where
  /-- The prefix in small letters. -/
  cashPrefix : Text
  /-- The version byte. -/
  version : UInt8
  /-- The hash. -/
  hash : Bytes
  deriving DecidableEq, Repr

/-- A payload taken apart: a version byte, and a hash of the length that it declares. -/
def splitPayload (cashPrefix : Text) : Bytes → Except AddressError Decoded
  | [] => .error (.hashSizeMismatch 0)
  | version :: hash =>
    match parseVersionByte version with
    | .error e => .error e
    | .ok (_, size) =>
      if hash.length = size.byteLength then .ok ⟨cashPrefix, version, hash⟩
      else .error (.hashSizeMismatch hash.length)

/-- Reads a text whose prefix, if it has no colon, is `defaultPrefix`. -/
def decodeWithPrefix (defaultPrefix text : Text) : Except AddressError Decoded :=
  match decodeSymbols defaultPrefix text with
  | .error e => .error e
  | .ok (cashPrefix, symbols) =>
    match symbolsToBytes symbols with
    | .error e => .error e
    | .ok payload => splitPayload cashPrefix payload

/-- The prefix of a text that names none. -/
def defaultPrefix : Text := "bitcoincash".toList

/-- Reads a text; one without a prefix is read under the default one. -/
def decode (text : Text) : Except AddressError Decoded :=
  decodeWithPrefix defaultPrefix text

end BitcoinCash.CashAddr
