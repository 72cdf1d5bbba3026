import BitcoinCash.Decimal.Shortest
import BitcoinCash.Hex
import BitcoinCash.Text.Quoted

/-! # JSON values

  - **Integers** are those that fit in 64 bits, signed or unsigned. All other numbers are floating
    point.
  - **Objects** keep their members in order of appearance. If a name comes twice, the last member
    counts.
  - **`render`** writes a value without white space.
-/

namespace BitcoinCash

/-- A JSON value. -/
inductive Json
  | null
  | bool (b : Bool)
  | int (n : Int)
  | float (x : Float)
  | str (t : Text)
  | arr (items : List Json)
  | obj (members : List (Text × Json))

namespace Json

/-- The member of a name: the last one that has it. -/
def member? (members : List (Text × Json)) (name : Text) : Option Json :=
  (members.reverse.find? (·.1 == name)).map (·.2)

/-! ## Rendering -/

/-- A character inside a string. -/
def escapeChar (c : Char) : Text :=
  if c = '"' then ['\\', '"']
  else if c = '\\' then ['\\', '\\']
  else if c = '\n' then ['\\', 'n']
  else if c = '\r' then ['\\', 'r']
  else if c = '\t' then ['\\', 't']
  else if c.toNat = 0x08 then ['\\', 'b']
  else if c.toNat = 0x0c then ['\\', 'f']
  else if c.toNat < 0x20 then ['\\', 'u', '0', '0'] ++ Hex.ofByte (UInt8.ofNat c.toNat)
  else [c]

/-- A string in quotation marks. -/
def renderString (t : Text) : Text :=
  '"' :: t.flatMap escapeChar ++ ['"']

mutual

/-- The text of a value. -/
def render : Json → Text
  | null => "null".toList
  | bool true => "true".toList
  | bool false => "false".toList
  | int n => Text.decimalInt n
  | float x => Decimal.ofFloat x
  | str t => renderString t
  | arr items => '[' :: renderItems items ++ [']']
  | obj members => '\x7b' :: renderMembers members ++ ['\x7d']

/-- The items of an array, separated by commas. -/
def renderItems : List Json → Text
  | [] => []
  | [v] => render v
  | v :: vs => render v ++ ',' :: renderItems vs

/-- The members of an object, separated by commas. -/
def renderMembers : List (Text × Json) → Text
  | [] => []
  | [(name, v)] => renderString name ++ ':' :: render v
  | (name, v) :: rest => renderString name ++ ':' :: render v ++ ',' :: renderMembers rest

end

/-! ## Description -/

/-- What a message says about a value that was not expected. -/
def describe : Json → Text
  | null => "null".toList
  | bool b => "boolean `".toList ++ (if b then "true" else "false").toList ++ ['\x60']
  | int n => "integer `".toList ++ Text.decimalInt n ++ ['\x60']
  | float x => "floating point `".toList ++ Decimal.ofFloat x ++ ['\x60']
  | str t => "string ".toList ++ Text.quote t
  | arr _ => "sequence".toList
  | obj _ => "map".toList

end Json

end BitcoinCash
