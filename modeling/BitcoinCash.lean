import BitcoinCash.Address.Basic
import BitcoinCash.Address.Classify
import BitcoinCash.Address.Encoder
import BitcoinCash.Address.Error
import BitcoinCash.Address.Parse
import BitcoinCash.Base58
import BitcoinCash.Base58.Check
import BitcoinCash.Bytes
import BitcoinCash.Bytes.Lemmas
import BitcoinCash.CashAddr.Checksum
import BitcoinCash.CashAddr.Codec
import BitcoinCash.CashAddr.Regroup
import BitcoinCash.CashAddr.Symbol
import BitcoinCash.CashAddr.Version
import BitcoinCash.Decimal.Shortest
import BitcoinCash.Digest.Blockwise
import BitcoinCash.Digest.Hash
import BitcoinCash.Digest.Ripemd160
import BitcoinCash.Digest.Sha256
import BitcoinCash.Digest.Width
import BitcoinCash.Hex
import BitcoinCash.Json.Decode
import BitcoinCash.Json.Number
import BitcoinCash.Json.Parser
import BitcoinCash.Json.Position
import BitcoinCash.Json.Value
import BitcoinCash.Network.Profile
import BitcoinCash.Network.Registry
import BitcoinCash.Proofs.Address.Acceptance
import BitcoinCash.Proofs.Address.Casing
import BitcoinCash.Proofs.Address.Consistency
import BitcoinCash.Proofs.Address.Dispatch
import BitcoinCash.Proofs.Address.Formats
import BitcoinCash.Proofs.Address.Growth
import BitcoinCash.Proofs.Address.Inference
import BitcoinCash.Proofs.Address.Legacy
import BitcoinCash.Proofs.Address.Networks
import BitcoinCash.Proofs.Address.Order
import BitcoinCash.Proofs.Address.Parsing
import BitcoinCash.Proofs.Address.Routing
import BitcoinCash.Proofs.Address.Scripts
import BitcoinCash.Proofs.Base58.Canonical
import BitcoinCash.Proofs.Base58.Verdict
import BitcoinCash.Proofs.CashAddr.Bits
import BitcoinCash.Proofs.CashAddr.Burst
import BitcoinCash.Proofs.CashAddr.Checksum
import BitcoinCash.Proofs.CashAddr.Distance
import BitcoinCash.Proofs.CashAddr.Division
import BitcoinCash.Proofs.CashAddr.Domain
import BitcoinCash.Proofs.CashAddr.Field
import BitcoinCash.Proofs.CashAddr.Letters
import BitcoinCash.Proofs.CashAddr.Misspelling
import BitcoinCash.Proofs.CashAddr.Padding
import BitcoinCash.Proofs.CashAddr.Payload
import BitcoinCash.Proofs.CashAddr.Register
import BitcoinCash.Proofs.CashAddr.Remainder
import BitcoinCash.Proofs.CashAddr.Spelling
import BitcoinCash.Proofs.CashAddr.Version
import BitcoinCash.Proofs.CashAddr.Window
import BitcoinCash.Proofs.Digest.Streaming
import BitcoinCash.Proofs.Network.Lookup
import BitcoinCash.Proofs.Script.Push
import BitcoinCash.Proofs.Session.Runs
import BitcoinCash.Proofs.Text.Case
import BitcoinCash.Proofs.Text.Hexadecimal
import BitcoinCash.Proofs.Text.Kelvin
import BitcoinCash.Proofs.TxOut.Memory
import BitcoinCash.Proofs.Wire.Canonical
import BitcoinCash.Proofs.Wire.Count
import BitcoinCash.Proofs.Wire.Delivery
import BitcoinCash.Proofs.Wire.Final
import BitcoinCash.Proofs.Wire.Forms
import BitcoinCash.Proofs.Wire.HexText
import BitcoinCash.Proofs.Wire.Mirror
import BitcoinCash.Proofs.Wire.Received
import BitcoinCash.Proofs.Wire.RoundTrip
import BitcoinCash.Proofs.Wire.Stream
import BitcoinCash.Proofs.Wire.Verdict
import BitcoinCash.Script.Basic
import BitcoinCash.Script.Push
import BitcoinCash.Script.Shape
import BitcoinCash.Session
import BitcoinCash.Text
import BitcoinCash.Text.Case
import BitcoinCash.Text.CaseTable
import BitcoinCash.Text.PrintTable
import BitcoinCash.Text.Quoted
import BitcoinCash.Text.Run
import BitcoinCash.TxOut
import BitcoinCash.TxOut.Recipe
import BitcoinCash.Wire.CompactSize
import BitcoinCash.Wire.Error
import BitcoinCash.Wire.Format
import BitcoinCash.Wire.HexForm
import BitcoinCash.Wire.Sink
import BitcoinCash.Wire.Source
