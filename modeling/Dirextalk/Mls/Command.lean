import Dirextalk.Membership.Book
import Dirextalk.Persistence.Errors
import Dirextalk.Wire.Primitives

/-!
# MLS commit commands

A submission of one opaque MLS commit: the leaf it adds or removes, the head it
builds on, and the authority it claims.  The request digest covers all of these,
so a command that is submitted again can be told from a different one under the
same submission id; the idempotency key is not part of it.
-/

namespace Dirextalk.Mls

open Domain Dirextalk.Group Dirextalk.Membership Persistence Wire

open GroupPersistenceError

theorem length_zeroBytes : (List.replicate 32 (0 : UInt8)).length = 32 := List.length_replicate

/-- `Sha256Digest::from_bytes([0; 32])`. -/
def zeroDigest : Sha256Digest := ⟨⟨List.replicate 32 0, length_zeroBytes⟩⟩

def commitDigestDomain : List UInt8 := textBytes "dirextalk.mls-opaque-commit.v1\x00"

/-- The request digest domain of a protocol version. -/
def requestDigestDomain : UInt8 → List UInt8
  | 3 => textBytes "dirextalk.mls-commit-request.v3\x00"
  | 4 => textBytes "dirextalk.mls-commit-request.v4\x00"
  | 5 => textBytes "dirextalk.mls-commit-request.v5\x00"
  | _ => textBytes "dirextalk.mls-commit-request.v1\x00"

def maxCommitBytes : Nat := 1048576

/-- The first epoch that no commit can build on. -/
def maxEpoch : UInt64 := 9007199254740991

/-- The digest that names a commit. -/
def mlsOpaqueCommitDigest [Sha256] (commitBytes : List UInt8) : Sha256Digest :=
  .hashDomain commitDigestDomain commitBytes

/-- Admission authority for one exact MLS leaf. -/
inductive MlsCommitAuthorization where
  | ownerBootstrap
  | approvedIdentityJoin (membershipCommandId : MembershipCommandId)
      (authorizationDigest : Sha256Digest)
  | approvedIdentityJoinV3 (membershipCommandId : MembershipCommandId)
      (authorizationDigest joinRequestDigest approvalRequestDigest : Sha256Digest)
  | existingMemberDeviceAdd (controllerDeviceId : DeviceId)
      (controllerConsentDigest : Sha256Digest)
  | existingMemberDeviceRecoveryAdd (controllerDeviceId : DeviceId)
      (controllerConsentDigest : Sha256Digest) (recoveryRequestId : DeviceEnrollmentChallengeId)
      (recoveryRequestDigest recoveryScopeDigest : Sha256Digest)
  | existingMemberDeviceRemove (identityRevokeHeadDigest : Sha256Digest)
  | memberRemovalV4 (expectedPolicyRevision : Revision)
  deriving DecidableEq

namespace MlsCommitAuthorization

/-- The kinds that remove a leaf. -/
def isRemoval : MlsCommitAuthorization → Bool
  | .memberRemovalV4 _ | .existingMemberDeviceRemove _ => true
  | _ => false

def isDeviceRemove : MlsCommitAuthorization → Bool
  | .existingMemberDeviceRemove _ => true
  | _ => false

/-- The approval that a first leaf of an identity rests on. -/
def membershipCommandId? : MlsCommitAuthorization → Option MembershipCommandId
  | .approvedIdentityJoin membershipCommandId _
  | .approvedIdentityJoinV3 membershipCommandId _ _ _ => some membershipCommandId
  | _ => none

def joinRequestDigest? : MlsCommitAuthorization → Option Sha256Digest
  | .approvedIdentityJoinV3 _ _ joinRequestDigest _ => some joinRequestDigest
  | _ => none

def approvalRequestDigest? : MlsCommitAuthorization → Option Sha256Digest
  | .approvedIdentityJoinV3 _ _ _ approvalRequestDigest => some approvalRequestDigest
  | _ => none

/-- The fields 14 to 18 of the request transcript. -/
def requestFields : MlsCommitAuthorization → List CanonicalValue
  | .ownerBootstrap => [.unsigned 0, .null, .null, .null, .null]
  | .approvedIdentityJoin membershipCommandId authorizationDigest
  | .approvedIdentityJoinV3 membershipCommandId authorizationDigest _ _ =>
      [.unsigned 1, .text membershipCommandId.toText, toCanonicalValue authorizationDigest, .null,
        .null]
  | .existingMemberDeviceAdd controllerDeviceId controllerConsentDigest =>
      [.unsigned 2, .null, .null, .text controllerDeviceId.toText,
        toCanonicalValue controllerConsentDigest]
  | .existingMemberDeviceRecoveryAdd controllerDeviceId controllerConsentDigest _ _ _ =>
      [.unsigned 4, .null, .null, .text controllerDeviceId.toText,
        toCanonicalValue controllerConsentDigest]
  | .memberRemovalV4 expectedPolicyRevision =>
      [.unsigned 3, .null, .unsigned (.ofNat expectedPolicyRevision.value), .null, .null]
  | .existingMemberDeviceRemove identityRevokeHeadDigest =>
      [.unsigned 5, .null, toCanonicalValue identityRevokeHeadDigest, .null, .null]

/-- The fields from 19 on. -/
def extraRequestFields : MlsCommitAuthorization → List CanonicalValue
  | .approvedIdentityJoinV3 _ _ joinRequestDigest approvalRequestDigest =>
      [toCanonicalValue joinRequestDigest, toCanonicalValue approvalRequestDigest]
  | .existingMemberDeviceRecoveryAdd _ _ recoveryRequestId recoveryRequestDigest
      recoveryScopeDigest =>
      [.text recoveryRequestId.toText, toCanonicalValue recoveryRequestDigest,
        toCanonicalValue recoveryScopeDigest]
  | _ => []

end MlsCommitAuthorization

/-- The fields that the request digest covers. -/
structure MlsCommitFacts where
  protocolVersion : UInt8
  submissionId : RequestId
  scope : GroupScope
  actorIdentityId : IdentityId
  actorDeviceId : DeviceId
  candidateIdentityId : IdentityId
  candidateDeviceId : DeviceId
  candidateKeyPackageDigest : Sha256Digest
  candidateProofDigest : Sha256Digest
  idempotencyKeyHash : Sha256Digest
  expectedEpoch : UInt64
  expectedHead : Sha256Digest
  commitBytes : List UInt8
  commitDigest : Sha256Digest
  welcomeDigest : Sha256Digest
  authorization : MlsCommitAuthorization

namespace MlsCommitFacts

variable (facts : MlsCommitFacts)

/-- A removal carries no package, proof or welcome. -/
def unlessRemoval (digest : Sha256Digest) : CanonicalValue :=
  if facts.protocolVersion = 4 ∨ facts.authorization.isDeviceRemove then .null
  else toCanonicalValue digest

/-- The transcript under the request digest. -/
def requestValue : CanonicalValue :=
  record ([.unsigned (.ofNat facts.protocolVersion.toNat), .text facts.submissionId.toText,
    scopeValue facts.scope, .text facts.actorIdentityId.toText, .text facts.actorDeviceId.toText,
    .text facts.candidateIdentityId.toText, .text facts.candidateDeviceId.toText,
    facts.unlessRemoval facts.candidateKeyPackageDigest,
    facts.unlessRemoval facts.candidateProofDigest, .unsigned facts.expectedEpoch,
    toCanonicalValue facts.expectedHead, toCanonicalValue facts.commitDigest,
    facts.unlessRemoval facts.welcomeDigest] ++ facts.authorization.requestFields ++
    facts.authorization.extraRequestFields)

/-- The digest of all bound facts. -/
def computeRequestDigest [Sha256] : Except GroupPersistenceError Sha256Digest := do
  let bytes ← (encodeDeterministicCbor facts.requestValue).mapError fun _ =>
    corruptData "MLS request encoding"
  return .hashDomain (requestDigestDomain facts.protocolVersion) bytes

end MlsCommitFacts

/-- Fully bound MLS commit submission. -/
structure MlsCommitCommand [Sha256] extends MlsCommitFacts where
  requestDigest : Sha256Digest
  commitBytes_bounded : 0 < commitBytes.length ∧ commitBytes.length ≤ maxCommitBytes
  commitDigest_eq : commitDigest = mlsOpaqueCommitDigest commitBytes
  expectedEpoch_lt : expectedEpoch < maxEpoch
  requestDigest_eq : toMlsCommitFacts.computeRequestDigest = .ok requestDigest

end Dirextalk.Mls
