import BitcoinCash.TxOut

/-! # Hexadecimal forms

  A script or an output as the hexadecimal text of its wire form. Reading takes the value that the
  bytes begin with; what follows it makes no difference.
-/

namespace BitcoinCash

namespace Wire

/-- All bytes that a computation writes to an unlimited sink. -/
def written (writing : Writing Bytes Nat) : Bytes :=
  (writing.run []).2

/-- Reads the value that a byte string begins with. -/
def readFrom {α : Type} (reading : Reading Bytes α) (bs : Bytes) : Except WireError α :=
  (reading.run bs).1

/-- Reads the value that the bytes of a hexadecimal text begin with. -/
def readHex {α : Type} (reading : Reading Bytes α) (text : Text) : Except WireError α :=
  match Hex.decode text with
  | .error e => .error (.fromHexError e)
  | .ok bs => readFrom reading bs

end Wire

namespace Script

/-- The wire form. -/
def toWire (s : Script) : Bytes := Wire.written s.write

/-- The hexadecimal text of the wire form. -/
def toHex (s : Script) : Text := Hex.encode s.toWire

/-- The script of a hexadecimal text. -/
def ofHex (text : Text) : Except WireError Script := Wire.readHex read text

end Script

namespace TxOut

/-- The wire form. -/
def toWire (out : TxOut) : Bytes := Wire.written out.write

/-- The hexadecimal text of the wire form. -/
def toHex (out : TxOut) : Text := Hex.encode out.toWire

/-- The output of a hexadecimal text. -/
def ofHex (text : Text) : Except WireError TxOut := Wire.readHex read text

end TxOut

end BitcoinCash
