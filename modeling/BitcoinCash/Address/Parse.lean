import BitcoinCash.Address.Basic

/-! # Reading addresses

  A text is read for one network, or for whichever network of a registry it fits.

  - **An explicit prefix** decides the network, and the text is CashAddr.
  - **A bare text** is tried as CashAddr under each candidate in order. Once a checksum fits, the
    answer is final, good or bad. If none does, the text is tried as Base58Check, and its version
    byte decides the network.
-/

namespace BitcoinCash.Address

/-! ## For one network -/

/-- Reads a CashAddr text for a network. A bare text is read under the prefix of the network, and
    an explicit prefix has to be that one. -/
def ofCashAddr (network : Profile) (text : Text) : Except AddressError Address :=
  match CashAddr.decodeWithPrefix network.cashPrefix text with
  | .error e => .error e
  | .ok decoded =>
    if decoded.cashPrefix ≠ network.cashPrefix then
      .error (.prefixMismatch (.foreignPrefix network.cashPrefix decoded.cashPrefix))
    else
      match parseVersionByte decoded.version with
      | .error e => .error e
      | .ok (kind, _) => new network kind decoded.hash

/-- The address of a version byte and a payload of 20 bytes. -/
def ofLegacyParts (network : Profile) (version : UInt8) (payload : Bytes) :
    Except AddressError Address :=
  match network.kindOfVersion? version with
  | none => .error (.prefixMismatch (.foreignVersion version network.name))
  | some kind =>
    if payload.length ≠ 20 then .error (.hashSizeMismatch payload.length)
    else new network kind payload

/-- Reads a legacy text for a network. -/
def ofLegacy (network : Profile) (text : Text) : Except AddressError Address :=
  match Base58.decodeCheck text with
  | .error e => .error e
  | .ok (version, payload) => ofLegacyParts network version payload

/-! ## For a registry -/

/-- The network that an explicit prefix stands for: the given one, whose prefix it has to be, or
    else a registered one. The case of ASCII letters makes no difference. -/
def networkOfPrefix (registry : Registry) (network : Option Profile) (cashPrefix : Text) :
    Except AddressError Profile :=
  match network with
  | some n =>
    if n.cashPrefix.asciiCaseEq cashPrefix then .ok n
    else .error (.prefixMismatch (.foreignPrefix n.cashPrefix cashPrefix))
  | none =>
    match registry.byPrefix? cashPrefix with
    | some n => .ok n
    | none => .error (.prefixMismatch (.unknownPrefix cashPrefix))

/-- The network that a version byte stands for: the given one, or else the only registered one
    that uses it. -/
def networkOfVersion (registry : Registry) (network : Option Profile) (version : UInt8) :
    Except AddressError Profile :=
  match network with
  | some n => .ok n
  | none =>
    match registry.uniqueByVersion? version with
    | some n => .ok n
    | none =>
      if registry.knowsVersion version then .error (.ambiguousNetwork version)
      else .error (.prefixMismatch (.unknownVersion version))

/-- The networks under whose prefixes a bare text is tried. -/
def candidates (registry : Registry) : Option Profile → List Profile
  | some n => [n]
  | none => registry.profiles

/-- Failures after which a bare text may still be CashAddr under another prefix, or Base58Check:
    those that come before a checksum fits. -/
def leavesOpen : AddressError → Bool
  | .mixedCase => true
  | .invalidCharacter _ => true
  | .checksumMismatch => true
  | _ => false

/-- Tries a bare text as CashAddr under one network after another. There is no answer if no
    checksum fits. -/
def tryCashAddr (text : Text) : List Profile → Option (Except AddressError Address)
  | [] => none
  | n :: ns =>
    match ofCashAddr n text with
    | .ok a => some (.ok a)
    | .error e => if leavesOpen e then tryCashAddr text ns else some (.error e)

/-- Reads a bare text as Base58Check. -/
def parseLegacy (registry : Registry) (network : Option Profile) (text : Text) :
    Except AddressError Address :=
  match Base58.decodeCheck text with
  | .error _ => .error .unrecognizedFormat
  | .ok (version, payload) =>
    match networkOfVersion registry network version with
    | .error e => .error e
    | .ok n => ofLegacyParts n version payload

/-- Reads a text in either format, for the given network or for one of a registry. -/
def parseWith (registry : Registry) (network : Option Profile) (text : Text) :
    Except AddressError Address :=
  match Text.splitLast? ':' text with
  | some (cashPrefix, _) =>
    match networkOfPrefix registry network cashPrefix with
    | .error e => .error e
    | .ok n => ofCashAddr n text
  | none =>
    match tryCashAddr text (candidates registry network) with
    | some answer => answer
    | none => parseLegacy registry network text

/-- Reads a text in either format, for the given network or for one of the standard registry. -/
def parse (network : Option Profile) (text : Text) : Except AddressError Address :=
  parseWith .standard network text

end BitcoinCash.Address
