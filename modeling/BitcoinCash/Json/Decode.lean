import BitcoinCash.Address.Encoder
import BitcoinCash.Json.Parser
import BitcoinCash.Json.Position
import BitcoinCash.Wire.HexForm

/-! # JSON forms

  - **An address** is a string that holds its CashAddr text; any text of the production network is
    read.
  - **A script** is a string that holds the hexadecimal text of its wire form.
  - **An output** is an object with the members `value` and `script_pubkey`, or an array of the
    two. In an object the script is looked at first, because its name comes first, but a missing
    value is reported before a missing script. Other members make no difference.
-/

namespace BitcoinCash

namespace Json

/-- What was expected in place of a value. -/
inductive Expectation
  /-- A string. -/
  | string
  /-- A signed integer of 64 bits. -/
  | int64
  /-- An output. -/
  | output
  /-- An array of the two parts of an output. -/
  | outputParts
  /-- An array that has no more items than that. -/
  | fewerItems
  deriving DecidableEq, Repr

/-- Why a JSON value is refused. -/
inductive DecodeError
  /-- The value is of another type. -/
  | invalidType (found : Json) (expected : Expectation)
  /-- The value is of the right type but out of range. -/
  | invalidValue (found : Json) (expected : Expectation)
  /-- An array has the wrong length. -/
  | invalidLength (length : Nat) (expected : Expectation)
  /-- An object lacks a member. -/
  | missingField (name : Text)
  /-- A string is not an address. -/
  | address (error : AddressError)
  /-- A string is not the wire form of a script. -/
  | wire (error : WireError)

/-- The wording of an expectation. -/
def Expectation.message : Expectation → Text
  | string => "a string".toList
  | int64 => "i64".toList
  | output => "struct TxOut".toList
  | outputParts => "struct TxOut with 2 elements".toList
  | fewerItems => "fewer elements in array".toList

/-- The wording of a refusal. A position at the end of the wording of an address or a wire form is
    written anew. -/
def DecodeError.message : DecodeError → Text
  | invalidType found expected =>
    "invalid type: ".toList ++ found.describe ++ ", expected ".toList ++ expected.message
  | invalidValue found expected =>
    "invalid value: ".toList ++ found.describe ++ ", expected ".toList ++ expected.message
  | invalidLength length expected =>
    "invalid length ".toList ++ Text.decimal length ++ ", expected ".toList ++ expected.message
  | missingField name => "missing field `".toList ++ name ++ ['\x60']
  | address e => restatePosition e.message
  | wire e => restatePosition e.message

/-- The text of a string. -/
def asString : Json → Except DecodeError Text
  | str t => .ok t
  | v => .error (.invalidType v .string)

/-- The number of a signed integer of 64 bits. -/
def asInt64 : Json → Except DecodeError Int64
  | int n => if n ≤ Int64.maxValue.toInt then .ok (Int64.ofInt n) else .error (.invalidValue (int n) .int64)
  | v => .error (.invalidType v .int64)

end Json

open Json (DecodeError)

/-! ## Addresses -/

/-- An address as a JSON value. -/
def Address.toJson (a : Address) : Json :=
  .str a.toCashAddr

/-- The address of a JSON value, on the production network. -/
def Address.ofJson (v : Json) : Except DecodeError Address :=
  match v.asString with
  | .error e => .error e
  | .ok t => (Address.ofText t).mapError .address

/-! ## Scripts -/

/-- A script as a JSON value. -/
def Script.toJson (s : Script) : Json :=
  .str s.toHex

/-- The script of a JSON value. -/
def Script.ofJson (v : Json) : Except DecodeError Script :=
  match v.asString with
  | .error e => .error e
  | .ok t => (Script.ofHex t).mapError .wire

/-! ## Outputs -/

namespace TxOut

/-- The name of the member that holds the value. -/
def valueName : Text := "value".toList

/-- The name of the member that holds the script. -/
def scriptName : Text := "script_pubkey".toList

/-- An output as a JSON value. -/
def toJson (out : TxOut) : Json :=
  .obj [(valueName, .int out.value.toInt), (scriptName, out.script.toJson)]

/-- The output of the members of an object. -/
def ofMembers (members : List (Text × Json)) : Except DecodeError TxOut := do
  let script ← (Json.member? members scriptName).mapM Script.ofJson
  let value ← (Json.member? members valueName).mapM Json.asInt64
  match value, script with
  | none, _ => throw (.missingField valueName)
  | _, none => throw (.missingField scriptName)
  | some value, some script => return new value script

/-- The output of the items of an array. -/
def ofItems : List Json → Except DecodeError TxOut
  | [] => .error (.invalidLength 0 .outputParts)
  | v :: rest => do
    let value ← v.asInt64
    match rest with
    | [] => throw (.invalidLength 1 .outputParts)
    | s :: more =>
      let script ← Script.ofJson s
      if more.isEmpty then return new value script
      else throw (.invalidLength (more.length + 2) .fewerItems)

/-- The output of a JSON value. -/
def ofJson : Json → Except DecodeError TxOut
  | .obj members => ofMembers members
  | .arr items => ofItems items
  | v => .error (.invalidType v .output)

end TxOut

end BitcoinCash
