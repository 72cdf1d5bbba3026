import BitcoinCash.Digest.Ripemd160
import BitcoinCash.Digest.Sha256

/-! # The two digests of the chain

  - **`hash256`** is SHA-256 twice. Its first four bytes are the checksum of legacy addresses.
  - **`hash160`** is RIPEMD-160 of SHA-256. Keys and redeem scripts are named by it.

  Both have a streaming form: the message goes into a SHA-256 hasher piece by piece, and the
  second digest is taken at the end.
-/

namespace BitcoinCash

/-- SHA-256 of the SHA-256 of a message. -/
def hash256 (message : Bytes) : Digest 32 :=
  Sha256.hash (Sha256.hash message).bytes

/-- RIPEMD-160 of the SHA-256 of a message. -/
def hash160 (message : Bytes) : Digest 20 :=
  Ripemd160.hash (Sha256.hash message).bytes

/-- A `hash256` under way. -/
structure Hash256Stream where
  /-- The inner digest under way. -/
  inner : Digest.Hasher Sha256.scheme

/-- A `hash160` under way. -/
structure Hash160Stream where
  /-- The inner digest under way. -/
  inner : Digest.Hasher Sha256.scheme

namespace Hash256Stream

/-- A stream that took in nothing so far. -/
def start : Hash256Stream := ⟨.start⟩

/-- Takes in more bytes. -/
def update (s : Hash256Stream) (bs : Bytes) : Hash256Stream := ⟨s.inner.update bs⟩

/-- Asks for all that is held back. That is nothing. -/
def flush (s : Hash256Stream) : Hash256Stream := s

/-- The digest of all that was taken in. -/
def finish (s : Hash256Stream) : Digest 32 := Sha256.hash s.inner.finish.digest.bytes

end Hash256Stream

namespace Hash160Stream

/-- A stream that took in nothing so far. -/
def start : Hash160Stream := ⟨.start⟩

/-- Takes in more bytes. -/
def update (s : Hash160Stream) (bs : Bytes) : Hash160Stream := ⟨s.inner.update bs⟩

/-- Asks for all that is held back. That is nothing. -/
def flush (s : Hash160Stream) : Hash160Stream := s

/-- The digest of all that was taken in. -/
def finish (s : Hash160Stream) : Digest 20 := Ripemd160.hash s.inner.finish.digest.bytes

end Hash160Stream

end BitcoinCash
