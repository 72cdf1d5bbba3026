import BitcoinCash.Hex
import BitcoinCash.Text.Quoted

/-! # Failures on the wire

  - **`Fault`** is what a source or a sink reports of itself.
  - **`WireError`** is why a value could not be read or written. A source that ends too early and
    a fault that says so are the same failure.
-/

namespace BitcoinCash

/-- What a source or a sink reports instead of doing its work. -/
inductive Fault
  /-- The input ended although more was promised. -/
  | unexpectedEnd
  /-- The call was interrupted and may be made again. -/
  | interrupted
  /-- A sink takes nothing more. -/
  | writeZero
  /-- Anything else, in the reporter's own words. -/
  | other (message : Text)
  deriving DecidableEq, Repr

/-- How an input breaks the rules of the format. -/
inductive Violation
  /-- The number is written in `width` bytes although fewer are enough. -/
  | nonMinimal (number : UInt64) (width : Nat)
  /-- The declared length is above the limit. -/
  | lengthTooLarge (declared limit : UInt64)
  deriving DecidableEq, Repr

/-- Why a value could not be read or written. -/
inductive WireError
  /-- The input ends before the value does. -/
  | truncatedInput
  /-- The input breaks a rule of the format. -/
  | protocolViolation (violation : Violation)
  /-- A source or a sink failed. -/
  | ioError (fault : Fault)
  /-- The text is not hexadecimal. -/
  | fromHexError (error : Hex.DecodeError)
  deriving DecidableEq, Repr

/-- A failure of a source or a sink as a failure to read or to write. -/
def WireError.ofFault : Fault → WireError
  | .unexpectedEnd => .truncatedInput
  | f => .ioError f

/-! ## Wording -/

/-- The wording of a fault. -/
def Fault.message : Fault → Text
  | unexpectedEnd => "unexpected end of file".toList
  | interrupted => "operation interrupted".toList
  | writeZero => "failed to write whole buffer".toList
  | other message => message

/-- The wording of a violation. -/
def Violation.message : Violation → Text
  | nonMinimal number width =>
    "non-minimal compact int: ".toList ++ Text.decimal number.toNat ++ " encoded in ".toList ++
      Text.decimal width ++ " bytes".toList
  | lengthTooLarge declared limit =>
    "declared length ".toList ++ Text.decimal declared.toNat ++ " exceeds maximum ".toList ++
      Text.decimal limit.toNat

/-- The wording of what is wrong with a hexadecimal text. A byte is shown as the character with
    its number. -/
def Hex.DecodeError.message : Hex.DecodeError → Text
  | oddLength => "odd number of digits".toList
  | invalidDigit byte index =>
    "invalid character ".toList ++ Text.quoteChar (Char.ofNat byte.toNat) ++ " at position ".toList
      ++ Text.decimal index

/-- The wording of a failure to read or to write. -/
def WireError.message : WireError → Text
  | truncatedInput => "Input ended before the expected number of bytes could be read".toList
  | protocolViolation v => "Protocol violation: ".toList ++ v.message
  | ioError f => f.message
  | fromHexError e => e.message

end BitcoinCash
