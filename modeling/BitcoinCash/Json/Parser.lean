import BitcoinCash.Json.Number

/-! # Reading JSON

  A text is one value with white space around it.

  - **Strings** may not hold control characters. An escaped surrogate has to be the first half of
    a pair and be followed by the second.
  - **Nesting** is limited: no value lies inside more than 127 arrays and objects.
-/

namespace BitcoinCash.Json

/-- The text without the white space in front. -/
def skipBlank (t : Text) : Text :=
  t.dropWhile fun c => c == ' ' || c == '\n' || c == '\t' || c == '\r'

/-! ## Strings -/

/-- The value of a hexadecimal digit of either case. -/
def hexValue? (c : Char) : Option Nat :=
  if c.toNat < 0x80 then Hex.digitValue? (UInt8.ofNat c.toNat) else none

/-- The number of four hexadecimal digits. -/
def codeUnit? (a b c d : Char) : Option Nat := do
  return 4096 * (← hexValue? a) + 256 * (← hexValue? b) + 16 * (← hexValue? c) + (← hexValue? d)

/-- The character that a letter stands for after a backslash. -/
def shortEscape? : Char → Option Char
  | '"' => some '"'
  | '\\' => some '\\'
  | '/' => some '/'
  | 'b' => some (Char.ofNat 0x08)
  | 'f' => some (Char.ofNat 0x0c)
  | 'n' => some '\n'
  | 'r' => some '\r'
  | 't' => some '\t'
  | _ => none

/-- The rest of a string after its opening quotation mark, and what follows the closing one. -/
def stringBody? : Text → Option (Text × Text)
  | [] => none
  | '\\' :: 'u' :: a :: b :: c :: d :: t =>
    match codeUnit? a b c d with
    | none => none
    | some n =>
      if 0xdc00 ≤ n ∧ n ≤ 0xdfff then none
      else if 0xd800 ≤ n ∧ n ≤ 0xdbff then
        match t with
        | '\\' :: 'u' :: a' :: b' :: c' :: d' :: t' =>
          match codeUnit? a' b' c' d' with
          | none => none
          | some m =>
            if 0xdc00 ≤ m ∧ m ≤ 0xdfff then
              (stringBody? t').map fun (s, rest) =>
                (Char.ofNat (0x10000 + 0x400 * (n - 0xd800) + (m - 0xdc00)) :: s, rest)
            else none
        | _ => none
      else (stringBody? t).map fun (s, rest) => (Char.ofNat n :: s, rest)
  | '\\' :: c :: t =>
    match shortEscape? c with
    | none => none
    | some e => (stringBody? t).map fun (s, rest) => (e :: s, rest)
  | c :: t =>
    if c = '"' then some ([], t)
    else if c = '\\' ∨ c.toNat < 0x20 then none
    else (stringBody? t).map fun (s, rest) => (c :: s, rest)

/-! ## Values -/

/-- What follows a word that a text has to begin with. -/
def afterWord? : (word : Text) → Text → Option Text
  | [], t => some t
  | w :: ws, c :: t => if w = c then afterWord? ws t else none
  | _ :: _, [] => none

mutual

/-- The value that a text begins with, and the rest. `depth` more arrays and objects may be opened
    inside one another, and `fuel` is above twice the length of the text. -/
def value? (fuel depth : Nat) (t : Text) : Option (Json × Text) :=
  match fuel, skipBlank t with
  | 0, _ => none
  | _, [] => none
  | fuel + 1, c :: rest =>
    if c = '"' then (stringBody? rest).map fun (s, rest) => (str s, rest)
    else if c = 'n' then (afterWord? "ull".toList rest).map (null, ·)
    else if c = 't' then (afterWord? "rue".toList rest).map (bool true, ·)
    else if c = 'f' then (afterWord? "alse".toList rest).map (bool false, ·)
    else if c = '[' then
      match depth with
      | 0 => none
      | depth + 1 =>
        match skipBlank rest with
        | ']' :: rest => some (arr [], rest)
        | rest => (items? fuel depth rest).map fun (vs, rest) => (arr vs, rest)
    else if c = '\x7b' then
      match depth with
      | 0 => none
      | depth + 1 =>
        match skipBlank rest with
        | '\x7d' :: rest => some (obj [], rest)
        | rest => (members? fuel depth rest).map fun (ms, rest) => (obj ms, rest)
    else (scanNumber? (c :: rest)).bind fun (l, rest) => l.value?.map (·, rest)

/-- One or more values up to the closing bracket. -/
def items? (fuel depth : Nat) (t : Text) : Option (List Json × Text) :=
  match fuel with
  | 0 => none
  | fuel + 1 =>
    match value? fuel depth t with
    | none => none
    | some (v, rest) =>
      match skipBlank rest with
      | ']' :: rest => some ([v], rest)
      | ',' :: rest => (items? fuel depth rest).map fun (vs, rest) => (v :: vs, rest)
      | _ => none

/-- One or more members up to the closing brace. -/
def members? (fuel depth : Nat) (t : Text) : Option (List (Text × Json) × Text) :=
  match fuel, skipBlank t with
  | fuel + 1, '"' :: rest =>
    match stringBody? rest with
    | none => none
    | some (name, rest) =>
      match skipBlank rest with
      | ':' :: rest =>
        match value? fuel depth rest with
        | none => none
        | some (v, rest) =>
          match skipBlank rest with
          | '\x7d' :: rest => some ([(name, v)], rest)
          | ',' :: rest => (members? fuel depth rest).map fun (ms, rest) => ((name, v) :: ms, rest)
          | _ => none
      | _ => none
  | _, _ => none

end

/-- The value of a text. -/
def parse? (t : Text) : Option Json :=
  match value? (2 * t.length + 2) 127 t with
  | some (v, rest) => if (skipBlank rest).isEmpty then some v else none
  | none => none

end BitcoinCash.Json
