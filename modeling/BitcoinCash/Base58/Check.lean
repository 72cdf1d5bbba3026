import BitcoinCash.Address.Error
import BitcoinCash.Base58
import BitcoinCash.Digest.Hash

/-! # Base58Check

  A version byte and a payload, followed by a checksum: the first four bytes of their `hash256`.
  The whole is written in base 58.

  Failures come in a fixed order: a character outside the alphabet, fewer than five bytes, and
  then a checksum that does not fit.
-/

namespace BitcoinCash.Base58

/-- The four checksum bytes of a byte string. -/
def checksum (body : Bytes) : Bytes :=
  (hash256 body).bytes.take 4

/-- The Base58Check text of a version byte and a payload. -/
def encodeCheck (version : UInt8) (payload : Bytes) : Text :=
  let body := version :: payload
  encode (body ++ checksum body)

/-- The bytes of a base-58 text, without a look at any checksum. -/
def decodeRaw (t : Text) : Except AddressError Bytes :=
  (decode t).mapError .invalidCharacter

/-- Takes a byte string apart into a version byte, a payload, and a checksum that has to fit. -/
def splitCheck : Bytes → Except AddressError (UInt8 × Bytes)
  | [] => .error (.tooShort 0)
  | version :: rest =>
    if rest.length < 4 then .error (.tooShort (rest.length + 1))
    else
      let payload := rest.take (rest.length - 4)
      if checksum (version :: payload) = rest.drop (rest.length - 4) then .ok (version, payload)
      else .error .checksumMismatch

/-- The version byte and the payload of a Base58Check text. -/
def decodeCheck (t : Text) : Except AddressError (UInt8 × Bytes) :=
  decodeRaw t >>= splitCheck

end BitcoinCash.Base58
