import BitcoinCash.CashAddr.Symbol

/-! # The CashAddr checksum

  A register of forty bits, eight symbols, takes in one symbol after another. It holds the
  remainder of the polynomial read so far by a fixed polynomial of degree eight over the field
  with 32 elements.

  - **`step`** multiplies the register by `x`, adds the new symbol, and takes away the multiple of
    the divisor that the symbol pushed out at the top calls for. The five generators are that
    multiple for the five bits of the symbol.
  - **`polymod`** starts from 1, takes in all symbols, and is zero for a text whose checksum fits.
-/

namespace BitcoinCash.CashAddr

/-- What the bits of the symbol that leaves the register add to it, lowest bit first. -/
def generators : List UInt64 :=
  [0x98f2bc8e61, 0x79b76d99e2, 0xf33e5fb3c4, 0xae2eabe2a8, 0x1e4f43e470]

/-- The sum of the generators of those bits of `top` that are set. -/
def feedback (top : UInt8) : UInt64 :=
  generators.zipIdx.foldl (fun r (g, i) => if top.toNat.testBit i then r ^^^ g else r) 0

/-- The register after one more symbol. -/
def step (register : UInt64) (s : Symbol) : UInt64 :=
  let top := (register >>> 35).toUInt8
  (((register &&& 0x07ffffffff) <<< 5) ^^^ UInt64.ofNat s.toNat) ^^^ feedback top

/-- The register after more symbols. -/
def absorb (register : UInt64) (symbols : List Symbol) : UInt64 :=
  symbols.foldl step register

/-- The checksum function. -/
def polymod (symbols : List Symbol) : UInt64 :=
  absorb 1 symbols ^^^ 1

/-- What a prefix contributes: the low five bits of each of its bytes, and a zero after them. -/
def expandPrefix (cashPrefix : Text) : List Symbol :=
  cashPrefix.utf8.map Symbol.lowBits ++ [0]

/-- The count of checksum symbols. -/
def checksumLength : Nat := 8

/-- The eight symbols of a register, highest first. -/
def registerSymbols (register : UInt64) : List Symbol :=
  (List.range checksumLength).map fun i =>
    BitVec.ofNat 5 (register >>> UInt64.ofNat (5 * (checksumLength - 1 - i))).toNat

/-- The checksum of a prefix and symbols: put after them, it makes `polymod` zero. -/
def checksum (cashPrefix : Text) (symbols : List Symbol) : List Symbol :=
  registerSymbols
    (polymod (expandPrefix cashPrefix ++ symbols ++ List.replicate checksumLength 0))

/-- Does a prefix with symbols, the last eight of which are a checksum, pass? -/
def verifies (cashPrefix : Text) (symbols : List Symbol) : Bool :=
  polymod (expandPrefix cashPrefix ++ symbols) == 0

end BitcoinCash.CashAddr
