import BitcoinCash.Address.Classify
import BitcoinCash.Json.Decode
import BitcoinCash.TxOut.Recipe

/-! # Sessions

  A session works on an address and an output. A step makes one of them from what it is given, or
  sends it through one of its forms and back.

  - **A step that fails** leaves both as they were.
  - **A step that needs** an address or an output which is not there fails, and so does one whose
    question has no answer.
-/

namespace BitcoinCash

/-- The address and the output that a session holds. -/
structure Session where
  /-- The address, once there is one. -/
  address : Option Address
  /-- The output, once there is one. -/
  output : Option TxOut

namespace Session

/-- A session that holds nothing yet. -/
def empty : Session := ⟨none, none⟩

/-- Why a step fails. -/
inductive Failure
  /-- What the step needs is not there, or its question has no answer. -/
  | nothing
  /-- An address is refused. -/
  | address (error : AddressError)
  /-- A wire form is refused. -/
  | wire (error : WireError)
  /-- A JSON form is refused. -/
  | json (error : Json.DecodeError)

/-- How the text of an address is changed before it is read again. -/
inductive Spelling
  /-- The CashAddr text as it is. -/
  | cashAddr
  /-- The CashAddr text in ASCII capital letters. -/
  | upper
  /-- The CashAddr text without its prefix. -/
  | bare
  /-- The legacy text. -/
  | legacy

/-- Which address of an output is asked for. -/
inductive Query
  /-- The address of either kind. -/
  | any
  /-- The address of a public key. -/
  | pubKeyHash
  /-- The address of a redeem script. -/
  | scriptHash

/-- One step of a session. -/
inductive Step
  /-- Reads an address. -/
  | parse (network : Option Profile) (text : Text)
  /-- Makes an address of its parts. -/
  | new (network : Profile) (kind : AddressKind) (hash : Bytes)
  /-- Writes the address and reads it again. -/
  | respell (spelling : Spelling) (network : Option Profile)
  /-- Takes the address on a network of the script that pays to the address. -/
  | viaScript (network : Profile)
  /-- Sends the address through its JSON form. -/
  | viaJson
  /-- Takes the address of the script that pays to the address, as a redeem script. -/
  | wrap (network : Profile)
  /-- Moves the address to the network that its CashAddr text is classified to. -/
  | classify
  /-- Makes an output that pays to the address. -/
  | pay (value : Int64)
  /-- Makes an output. -/
  | make (recipe : TxOut.Recipe)
  /-- Copies the output. -/
  | copyOutput
  /-- Sends the output through its hexadecimal form. -/
  | outputViaHex
  /-- Sends the output through its JSON form. -/
  | outputViaJson
  /-- Takes the address that the output pays to. -/
  | addressOf (query : Query) (network : Profile)

/-- A text in one of the spellings of an address. -/
def Spelling.text (a : Address) : Spelling → Except AddressError Text
  | cashAddr => .ok a.toCashAddr
  | upper => .ok (Text.asciiUpper a.toCashAddr)
  | bare =>
    match Text.splitLast? ':' a.toCashAddr with
    | some (_, body) => .ok body
    | none => .ok a.toCashAddr
  | legacy => a.toLegacy

/-- The answer of an output to a query, and the output that remembers its shape. -/
def Query.ask (out : TxOut) (network : Profile) : Query → Option Address × TxOut
  | any => out.addressFor network
  | pubKeyHash => out.pubKeyAddressFor network
  | scriptHash => out.scriptAddressFor network

/-- What is there, or a failure. -/
def demand {α : Type} : Option α → Except Failure α
  | some a => .ok a
  | none => .error .nothing

/-- The session with another address, unless that is refused. -/
def withAddress (s : Session) (a : Except AddressError Address) : Except Failure Session :=
  (a.map fun a => { s with address := some a }).mapError .address

/-- The session after a step, or why the step fails. -/
def step (registry : Registry) (s : Session) : Step → Except Failure Session
  | .parse network text => s.withAddress (Address.parseWith registry network text)
  | .new network kind hash => s.withAddress (Address.new network kind hash)
  | .respell spelling network => do
    let a ← demand s.address
    s.withAddress ((spelling.text a).bind (Address.parseWith registry network))
  | .viaScript network => do
    let a ← demand s.address
    let b ← demand (Address.ofScript? network a.script)
    return { s with address := some b }
  | .viaJson => do
    let a ← demand s.address
    let b ← (Address.ofJson a.toJson).mapError .json
    return { s with address := some b }
  | .wrap network => do
    let a ← demand s.address
    return { s with address := some (Address.ofRedeemScript network a.script.bytes) }
  | .classify => do
    let a ← demand s.address
    let n ← demand (Address.classifyWith? registry a.toCashAddr)
    s.withAddress (Address.new n a.kind a.hash)
  | .pay value => do
    let a ← demand s.address
    return { s with output := some (TxOut.payTo value a) }
  | .make recipe => do
    let out ← recipe.make.mapError .address
    return { s with output := some out }
  | .copyOutput => do
    let out ← demand s.output
    return { s with output := some out }
  | .outputViaHex => do
    let out ← demand s.output
    let out ← (TxOut.ofHex out.toHex).mapError .wire
    return { s with output := some out }
  | .outputViaJson => do
    let out ← demand s.output
    let out ← (TxOut.ofJson out.toJson).mapError .json
    return { s with output := some out }
  | .addressOf query network => do
    let out ← demand s.output
    let (answer, out) := query.ask out network
    let a ← demand answer
    return { address := some a, output := some out }

/-- The session after a step, which is the same as before if the step fails, and the failure. -/
def advance (registry : Registry) (s : Session) (step : Step) : Session × Option Failure :=
  match s.step registry step with
  | .ok s' => (s', none)
  | .error f => (s, some f)

end Session

end BitcoinCash
