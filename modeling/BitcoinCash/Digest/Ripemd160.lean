import BitcoinCash.Digest.Blockwise
import BitcoinCash.Digest.Width

/-! # RIPEMD-160

  Two lines of 80 rounds run over the same block in different orders, and their results are added
  crosswise to the five chaining words. Words are taken least significant byte first.
-/

namespace BitcoinCash.Ripemd160

/-- The five chaining words. -/
structure State where
  a : UInt32
  b : UInt32
  c : UInt32
  d : UInt32
  e : UInt32

/-- The words before the first block. -/
def initial : State :=
  ⟨0x67452301, 0xefcdab89, 0x98badcfe, 0x10325476, 0xc3d2e1f0⟩

/-- A Boolean function of three words. -/
abbrev Mixer := UInt32 → UInt32 → UInt32 → UInt32

/-- The five Boolean functions, in the order in which the left line uses them. -/
def mixers : List Mixer :=
  [fun x y z => x ^^^ y ^^^ z,
   fun x y z => (x &&& y) ||| (~~~x &&& z),
   fun x y z => (x ||| ~~~y) ^^^ z,
   fun x y z => (x &&& z) ||| (y &&& ~~~z),
   fun x y z => x ^^^ (y ||| ~~~z)]

/-- **One of the two lines** of 80 rounds, which fall into five groups of sixteen. -/
structure Line where
  /-- Which word of the block a round takes. -/
  order : List Nat
  /-- By how many bits a round turns. -/
  turns : List UInt32
  /-- The constant of each group of rounds. -/
  constants : List UInt32
  /-- The Boolean function of each group of rounds. -/
  mixers : List Mixer

/-- The left line. -/
def left : Line where
  order :=
    [0, 1, 2, 3, 4, 5, 6, 7, 8, 9, 10, 11, 12, 13, 14, 15,
     7, 4, 13, 1, 10, 6, 15, 3, 12, 0, 9, 5, 2, 14, 11, 8,
     3, 10, 14, 4, 9, 15, 8, 1, 2, 7, 0, 6, 13, 11, 5, 12,
     1, 9, 11, 10, 0, 8, 12, 4, 13, 3, 7, 15, 14, 5, 6, 2,
     4, 0, 5, 9, 7, 12, 2, 10, 14, 1, 3, 8, 11, 6, 15, 13]
  turns :=
    [11, 14, 15, 12, 5, 8, 7, 9, 11, 13, 14, 15, 6, 7, 9, 8,
     7, 6, 8, 13, 11, 9, 7, 15, 7, 12, 15, 9, 11, 7, 13, 12,
     11, 13, 6, 7, 14, 9, 13, 15, 14, 8, 13, 6, 5, 12, 7, 5,
     11, 12, 14, 15, 14, 15, 9, 8, 9, 14, 5, 6, 8, 6, 5, 12,
     9, 15, 5, 11, 6, 8, 13, 12, 5, 12, 13, 14, 11, 8, 5, 6]
  constants := [0x00000000, 0x5a827999, 0x6ed9eba1, 0x8f1bbcdc, 0xa953fd4e]
  mixers := mixers

/-- The right line. -/
def right : Line where
  order :=
    [5, 14, 7, 0, 9, 2, 11, 4, 13, 6, 15, 8, 1, 10, 3, 12,
     6, 11, 3, 7, 0, 13, 5, 10, 14, 15, 8, 12, 4, 9, 1, 2,
     15, 5, 1, 3, 7, 14, 6, 9, 11, 8, 12, 2, 10, 0, 4, 13,
     8, 6, 4, 1, 3, 11, 15, 0, 5, 12, 2, 13, 9, 7, 10, 14,
     12, 15, 10, 4, 1, 5, 8, 7, 6, 2, 13, 14, 0, 3, 9, 11]
  turns :=
    [8, 9, 9, 11, 13, 15, 15, 5, 7, 7, 8, 11, 14, 14, 12, 6,
     9, 13, 15, 7, 12, 8, 9, 11, 7, 7, 12, 7, 6, 15, 13, 11,
     9, 7, 15, 11, 8, 6, 6, 14, 12, 13, 5, 14, 13, 13, 7, 5,
     15, 5, 8, 11, 14, 14, 6, 14, 6, 9, 12, 9, 12, 5, 15, 8,
     8, 5, 12, 9, 12, 5, 14, 6, 8, 13, 6, 5, 15, 13, 11, 11]
  constants := [0x50a28be6, 0x5c4dd124, 0x6d703ef3, 0x7a6d76e9, 0x00000000]
  mixers := mixers.reverse

/-- A word turned left by `n` bits. -/
def rotateLeft (x : UInt32) (n : UInt32) : UInt32 :=
  (x <<< n) ||| (x >>> (32 - n))

/-- The words of a block, four bytes each, least significant first. -/
def wordsOf : Bytes → List UInt32
  | b₀ :: b₁ :: b₂ :: b₃ :: rest =>
    UInt32.ofNat (Bytes.ofLittleEndian [b₀, b₁, b₂, b₃]) :: wordsOf rest
  | _ => []

/-- One round of a line over the words of a block. -/
def round (l : Line) (words : Array UInt32) (s : State) (j : Nat) : State :=
  let f := l.mixers.getD (j / 16) (fun x _ _ => x) s.b s.c s.d
  let word := words.getD (l.order.getD j 0) 0
  let t := rotateLeft (s.a + f + word + l.constants.getD (j / 16) 0) (l.turns.getD j 0) + s.e
  ⟨s.e, t, s.b, rotateLeft s.c 10, s.d⟩

/-- The 80 rounds of a line. -/
def Line.run (l : Line) (words : Array UInt32) (s : State) : State :=
  (List.range 80).foldl (round l words) s

/-- The chaining words after one more block. -/
def compress (s : State) (block : Bytes) : State :=
  let words := (wordsOf block).toArray
  let l := left.run words s
  let r := right.run words s
  ⟨s.b + l.c + r.d, s.c + l.d + r.e, s.d + l.e + r.a, s.e + l.a + r.b, s.a + l.b + r.c⟩

/-- RIPEMD-160 as a blockwise digest: the length field is little-endian. -/
def scheme : Digest.Scheme State where
  initial := initial
  compress := compress
  lengthField := Bytes.littleEndian 8

/-- The words of a state in a row, least significant byte first. -/
def State.digest (s : State) : Digest 20 where
  bytes := [s.a, s.b, s.c, s.d, s.e].flatMap fun w => Bytes.littleEndian 4 w.toNat
  length_bytes := by simp [List.flatMap]

/-- The digest of a message. -/
def hash (message : Bytes) : Digest 20 :=
  (Digest.finalState scheme message).digest

end BitcoinCash.Ripemd160
