import Dirextalk.Domain.Identifiers
import Dirextalk.Wire.CanonicalCbor

/-!
# Digests and public keys

SHA-256 and Ed25519 are code outside this repository, so they are parameters.  What a
result needs of them (such as injectivity on the byte strings hashed) is a hypothesis
of that result.
-/

namespace Dirextalk.Wire

open Std Lib

/-- The hash function. -/
class Sha256 where
  digest : List UInt8 → FixedBytes 32

/-- A digest of 32 bytes. -/
structure Sha256Digest where
  bytes : FixedBytes 32
  deriving DecidableEq

namespace Sha256Digest

/-- Hashes the exact concatenation of `domain` and `message`. -/
def hashDomain [Sha256] (domain message : List UInt8) : Sha256Digest :=
  ⟨Sha256.digest (domain ++ message)⟩

instance : Ord Sha256Digest := ⟨fun left right => compare left.bytes right.bytes⟩

instance : TransOrd Sha256Digest := transCmp_of_projection bytes

instance : LawfulEqOrd Sha256Digest :=
  lawfulEqCmp_of_projection bytes fun left right same => by
    cases left
    cases right
    cases same
    rfl

end Sha256Digest

end Dirextalk.Wire

namespace Dirextalk.Domain

open Lib Wire

/-! ## Public keys -/

/-- The signature scheme: which byte strings are points, which points are weak, and which
signatures verify. -/
class Ed25519 where
  /-- `VerifyingKey::from_bytes`, as the recompressed bytes of the point. -/
  point : FixedBytes 32 → Option (FixedBytes 32)
  isWeak : FixedBytes 32 → Bool
  verifyStrict : FixedBytes 32 → List UInt8 → FixedBytes 64 → Bool

/-- A subject public key is invalid for stable-id derivation. -/
inductive PublicKeyError where
  | invalidEncoding
  | nonCanonicalEncoding
  | weakKey
  deriving DecidableEq, Repr

/-- A canonical, non-weak Ed25519 compressed verification key. -/
structure Ed25519PublicKey [Ed25519] where
  bytes : FixedBytes 32
  canonical : Ed25519.point bytes = some bytes
  strong : Ed25519.isWeak bytes = false
  deriving DecidableEq

section Keys

variable [Ed25519]

def Ed25519PublicKey.tryFrom (value : FixedBytes 32) : Except PublicKeyError Ed25519PublicKey :=
  match Ed25519.point value with
  | none => .error .invalidEncoding
  | some _ =>
      if canonical : Ed25519.point value = some value then
        if strong : Ed25519.isWeak value = false then .ok ⟨value, canonical, strong⟩
        else .error .weakKey
      else .error .nonCanonicalEncoding

theorem Ed25519PublicKey.tryFrom_bytes (key : Ed25519PublicKey) :
    Ed25519PublicKey.tryFrom key.bytes = .ok key := by
  simp [tryFrom, key.canonical, key.strong]

theorem Ed25519PublicKey.bytes_of_tryFrom {value : FixedBytes 32} {key : Ed25519PublicKey}
    (valid : Ed25519PublicKey.tryFrom value = .ok key) : key.bytes = value := by
  unfold tryFrom at valid
  split at valid
  · cases valid
  · split_ifs at valid with canonical strong
    cases valid
    rfl

/-! ## Stable ids -/

def PublicIdKind.domain : PublicIdKind → List UInt8
  | .identity => textBytes "dirextalk.identity.v1\x00"
  | .channel => textBytes "dirextalk.channel.v1\x00"
  | .agent => textBytes "dirextalk.agent.v1\x00"

variable [Sha256] {kind : PublicIdKind}

/-- Derives the stable id from a validated subject genesis key. -/
def PublicId.derive (key : Ed25519PublicKey) : PublicId kind :=
  ⟨(Sha256Digest.hashDomain kind.domain key.bytes.toList).bytes⟩

/-- Confirms that the id is bound to the validated key. -/
def PublicId.verifySubjectKey (id : PublicId kind) (key : Ed25519PublicKey) : Bool :=
  id = derive key

end Keys

end Dirextalk.Domain
