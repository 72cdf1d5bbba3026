import BitcoinCash.Bytes

/-! # Digests of a fixed width

  A digest is a byte string whose length is part of its type.
-/

namespace BitcoinCash

/-- A byte string of `n` bytes. -/
structure Digest (n : Nat) where
  /-- The bytes. -/
  bytes : Bytes
  /-- There are `n` of them. -/
  length_bytes : bytes.length = n
  deriving DecidableEq

namespace Digest

/-- A byte string as a digest of `n` bytes, if it has that length. -/
def ofBytes? (n : Nat) (bs : Bytes) : Option (Digest n) :=
  if h : bs.length = n then some ⟨bs, h⟩ else none

end Digest

end BitcoinCash
