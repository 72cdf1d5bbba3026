import BitcoinCash.Address.Error
import BitcoinCash.CashAddr.Symbol

/-! # Bytes as symbols

  A byte string and a list of symbols are the same bits in groups of eight and of five, highest
  bit first.

  - **From bytes to symbols** the last group is filled up with zero bits.
  - **From symbols to bytes** fewer than five bits may be left over, and they have to be zero.

  Both directions go through a window on the last twelve bits read. It never has to hold more:
  at most four bits wait from before when eight new ones come in.
-/

namespace BitcoinCash.CashAddr

/-- The window after `width` more bits, which are the number `value`. -/
def pushBits (window width value : Nat) : Nat :=
  ((window <<< width) ||| value) &&& 0xfff

/-- The whole groups of five among the last `waiting` bits of a window. -/
def takeSymbols (window waiting : Nat) : List Symbol :=
  if waiting < 5 then []
  else BitVec.ofNat 5 (window >>> (waiting - 5)) :: takeSymbols window (waiting - 5)

/-- The symbols of the last `waiting` bits of a window and of the bytes that follow. -/
def symbolsFrom (window waiting : Nat) : Bytes → List Symbol
  | [] => if waiting = 0 then [] else [BitVec.ofNat 5 (window <<< (5 - waiting))]
  | b :: bs =>
    let window := pushBits window 8 b.toNat
    takeSymbols window (waiting + 8) ++ symbolsFrom window ((waiting + 8) % 5) bs

/-- The symbols of a byte string. -/
def bytesToSymbols (bs : Bytes) : List Symbol :=
  symbolsFrom 0 0 bs

/-- The bytes of the last `waiting` bits of a window and of the symbols that follow. -/
def bytesFrom (window waiting : Nat) : List Symbol → Except AddressError Bytes
  | [] =>
    if 5 ≤ waiting then .error .excessPadding
    else if window % (1 <<< waiting) ≠ 0 then .error .invalidPadding
    else .ok []
  | s :: ss =>
    let window := pushBits window 5 s.toNat
    if 8 ≤ waiting + 5 then
      (bytesFrom window (waiting + 5 - 8) ss).map (UInt8.ofNat (window >>> (waiting + 5 - 8)) :: ·)
    else bytesFrom window (waiting + 5) ss

/-- The bytes of a list of symbols. -/
def symbolsToBytes (symbols : List Symbol) : Except AddressError Bytes :=
  bytesFrom 0 0 symbols

end BitcoinCash.CashAddr
