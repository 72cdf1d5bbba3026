import BitcoinCash.Address.Parse

/-! # The network of a text

  A quick look at a text to find out where to send it. CashAddr text is told by its checksum
  alone and Base58 text by its first byte alone; whether the rest makes an address is left open.
-/

namespace BitcoinCash.Address

/-- Does a text have a CashAddr checksum that fits, under a network's prefix if it is bare? -/
def hasCashChecksum (n : Profile) (text : Text) : Bool :=
  match CashAddr.decodeSymbols n.cashPrefix text with
  | .ok _ => true
  | .error _ => false

/-- The network whose version byte a Base58 text begins with, if only one uses it. -/
def classifyLegacy? (registry : Registry) (text : Text) : Option Profile :=
  match Base58.decodeRaw text with
  | .ok (version :: _) => registry.uniqueByVersion? version
  | _ => none

/-- The registered network that a text belongs to; there is none if no network fits, or if several
    share its version byte. -/
def classifyWith? (registry : Registry) (text : Text) : Option Profile :=
  match Text.splitLast? ':' text with
  | some (cashPrefix, _) => (registry.byPrefix? cashPrefix).filter (hasCashChecksum · text)
  | none =>
    match registry.profiles.find? (hasCashChecksum · text) with
    | some n => some n
    | none => classifyLegacy? registry text

/-- The network of the standard registry that a text belongs to. -/
def classify? (text : Text) : Option Profile :=
  classifyWith? .standard text

end BitcoinCash.Address
