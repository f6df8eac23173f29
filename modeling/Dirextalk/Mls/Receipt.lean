import Dirextalk.Membership.BookSpec
import Dirextalk.Mls.Command

/-!
# Intents and signed receipts

Each admitted commit leaves an intent row with the columns of its authorization
kind and a signed receipt.  A receipt is never stored as a record: it is built
again from the columns of the intent and compared with the stored bytes.
-/

namespace Dirextalk.Mls

open Domain Dirextalk.Group Lib Dirextalk.Membership Persistence Wire

open GroupPersistenceError

def headDigestDomain : List UInt8 := textBytes "dirextalk.mls-sequencer-head.v1\x00"

def receiptDigestDomain : UInt8 → List UInt8
  | 3 => textBytes "dirextalk.mls-commit-receipt.v3\x00"
  | 4 => textBytes "dirextalk.mls-commit-receipt.v4\x00"
  | 5 => textBytes "dirextalk.mls-commit-receipt.v5\x00"
  | _ => textBytes "dirextalk.mls-commit-receipt.v1\x00"

def receiptSignatureDomain : UInt8 → List UInt8
  | 3 => textBytes "dirextalk.mls-commit-receipt-signature.v3\x00"
  | 4 => textBytes "dirextalk.mls-commit-receipt-signature.v4\x00"
  | 5 => textBytes "dirextalk.mls-commit-receipt-signature.v5\x00"
  | _ => textBytes "dirextalk.mls-commit-receipt-signature.v1\x00"

/-! ## Rows -/

/-- The column `authorization_kind` of `groups.mls_commit_intents`. -/
inductive AuthorizationKind where
  | ownerBootstrap
  | approvedIdentityJoin
  | existingMemberDeviceAdd
  | memberRemoval
  | existingMemberDeviceRemove
  deriving DecidableEq, Repr

/-- The columns that depend on the authorization. -/
structure AuthorizationColumns where
  authorizationKind : AuthorizationKind
  membershipCommandId : Option MembershipCommandId := none
  authorizationDigest : Option Sha256Digest := none
  controllerDeviceId : Option DeviceId := none
  controllerConsentDigest : Option Sha256Digest := none
  joinRequestDigest : Option Sha256Digest := none
  approvalRequestDigest : Option Sha256Digest := none
  historyRecoveryRequestId : Option DeviceEnrollmentChallengeId := none
  recoveryRequestDigest : Option Sha256Digest := none
  recoveryScopeDigest : Option Sha256Digest := none
  identityRevokeHeadDigest : Option Sha256Digest := none
  deriving DecidableEq

/-- The columns that an authorization is stored in. -/
def MlsCommitAuthorization.columns : MlsCommitAuthorization → AuthorizationColumns
  | .ownerBootstrap => { authorizationKind := .ownerBootstrap }
  | .approvedIdentityJoin membershipCommandId authorizationDigest =>
      { authorizationKind := .approvedIdentityJoin
        membershipCommandId := some membershipCommandId
        authorizationDigest := some authorizationDigest }
  | .approvedIdentityJoinV3 membershipCommandId authorizationDigest joinRequestDigest
      approvalRequestDigest =>
      { authorizationKind := .approvedIdentityJoin
        membershipCommandId := some membershipCommandId
        authorizationDigest := some authorizationDigest
        joinRequestDigest := some joinRequestDigest
        approvalRequestDigest := some approvalRequestDigest }
  | .existingMemberDeviceAdd controllerDeviceId controllerConsentDigest =>
      { authorizationKind := .existingMemberDeviceAdd
        controllerDeviceId := some controllerDeviceId
        controllerConsentDigest := some controllerConsentDigest }
  | .existingMemberDeviceRecoveryAdd controllerDeviceId controllerConsentDigest recoveryRequestId
      recoveryRequestDigest recoveryScopeDigest =>
      { authorizationKind := .existingMemberDeviceAdd
        controllerDeviceId := some controllerDeviceId
        controllerConsentDigest := some controllerConsentDigest
        historyRecoveryRequestId := some recoveryRequestId
        recoveryRequestDigest := some recoveryRequestDigest
        recoveryScopeDigest := some recoveryScopeDigest }
  | .existingMemberDeviceRemove identityRevokeHeadDigest =>
      { authorizationKind := .existingMemberDeviceRemove
        identityRevokeHeadDigest := some identityRevokeHeadDigest }
  | .memberRemovalV4 _ => { authorizationKind := .memberRemoval }

/-- A row of `groups.mls_commit_intents` of one scope. -/
structure IntentRow where
  submissionId : RequestId
  actorIdentityId : IdentityId
  actorDeviceId : DeviceId
  candidateIdentityId : IdentityId
  candidateDeviceId : DeviceId
  candidateKeyPackageDigest : Sha256Digest
  candidateProofDigest : Sha256Digest
  idempotencyKeyHash : Sha256Digest
  requestDigest : Sha256Digest
  parentEpoch : UInt64
  parentHeadDigest : Sha256Digest
  admittedEpoch : UInt64
  resultHeadDigest : Sha256Digest
  commitBytes : List UInt8
  commitDigest : Sha256Digest
  welcomeDigest : Sha256Digest
  createdAtMs : Int64
  protocolVersion : UInt8
  columns : AuthorizationColumns
  expectedPolicyRevision : Option Revision
  resultPolicyRevision : Option Revision

/-- `created_at_ms BETWEEN -62135596800000 AND 253402300799999`. -/
def validTimestamp (value : Int64) : Bool := -62135596800000 ≤ value ∧ value ≤ 253402300799999

namespace AuthorizationColumns

/-- The constraint `authorization_shape_valid`. -/
def shapeValid (columns : AuthorizationColumns) : Bool :=
  match columns.authorizationKind with
  | .ownerBootstrap | .memberRemoval | .existingMemberDeviceRemove =>
      columns.membershipCommandId.isNone ∧ columns.authorizationDigest.isNone ∧
        columns.controllerDeviceId.isNone ∧ columns.controllerConsentDigest.isNone
  | .approvedIdentityJoin =>
      columns.membershipCommandId.isSome ∧ columns.authorizationDigest.isSome ∧
        columns.controllerDeviceId.isNone ∧ columns.controllerConsentDigest.isNone
  | .existingMemberDeviceAdd =>
      columns.membershipCommandId.isNone ∧ columns.authorizationDigest.isNone ∧
        columns.controllerDeviceId.isSome ∧ columns.controllerConsentDigest.isSome

def noRecovery (columns : AuthorizationColumns) : Bool :=
  columns.historyRecoveryRequestId.isNone ∧ columns.recoveryRequestDigest.isNone ∧
    columns.recoveryScopeDigest.isNone

end AuthorizationColumns

namespace IntentRow

/-- The constraint `versioned_bindings_valid`. -/
def versionedBindingsValid (row : IntentRow) : Bool :=
  let noRevisions := row.expectedPolicyRevision.isNone ∧ row.resultPolicyRevision.isNone
  let noJoin := row.columns.joinRequestDigest.isNone ∧ row.columns.approvalRequestDigest.isNone
  (row.protocolVersion = 2 ∧ noJoin ∧ noRevisions ∧ row.columns.noRecovery ∧
    row.columns.identityRevokeHeadDigest.isNone) ∨
  (row.protocolVersion = 3 ∧ row.columns.authorizationKind = .approvedIdentityJoin ∧
    row.columns.joinRequestDigest.isSome ∧ row.columns.approvalRequestDigest.isSome ∧
    noRevisions ∧ row.columns.noRecovery ∧ row.columns.identityRevokeHeadDigest.isNone) ∨
  (row.protocolVersion = 4 ∧ row.columns.authorizationKind = .memberRemoval ∧ noJoin ∧
    (row.expectedPolicyRevision.map (·.value + 1) = row.resultPolicyRevision.map (·.value) ∧
      row.expectedPolicyRevision.isSome) ∧ row.columns.noRecovery ∧
    row.columns.identityRevokeHeadDigest.isNone) ∨
  (row.protocolVersion = 5 ∧ row.columns.authorizationKind = .existingMemberDeviceAdd ∧
    row.columns.historyRecoveryRequestId.isSome ∧ row.columns.recoveryRequestDigest.isSome ∧
    row.columns.recoveryScopeDigest.isSome ∧ row.columns.identityRevokeHeadDigest.isNone ∧
    noRevisions) ∨
  (row.protocolVersion = 5 ∧ row.columns.authorizationKind = .existingMemberDeviceRemove ∧
    row.columns.noRecovery ∧ row.columns.identityRevokeHeadDigest.isSome ∧ noRevisions)

/-- The CHECK constraints of the table that the types of the columns leave open. -/
def valid (row : IntentRow) : Bool :=
  row.columns.shapeValid ∧ row.versionedBindingsValid ∧ validTimestamp row.createdAtMs

/-- The unique keys of the table: submission, actor and idempotency key, epoch,
commit, and approval. -/
def clashes (row other : IntentRow) : Bool :=
  row.submissionId = other.submissionId ∨
    (row.actorIdentityId = other.actorIdentityId ∧
      row.idempotencyKeyHash = other.idempotencyKeyHash) ∨
    row.admittedEpoch = other.admittedEpoch ∨ row.commitDigest = other.commitDigest ∨
    (row.columns.membershipCommandId.isSome ∧
      row.columns.membershipCommandId = other.columns.membershipCommandId)

end IntentRow

/-- A row of `groups.mls_commit_receipts`. -/
structure ReceiptRow [Ed25519] where
  submissionId : RequestId
  receiptCbor : List UInt8
  receiptDigest : Sha256Digest
  signingPublicKey : SigningPublicKey
  signature : Ed25519Signature

/-! ## Receipts -/

/-- Immutable signed receipt returned after one accepted opaque commit. -/
structure MlsCommitReceipt [Ed25519] where
  protocolVersion : UInt8
  submissionId : RequestId
  requestDigest : Sha256Digest
  admittedEpoch : UInt64
  headDigest : Sha256Digest
  commitDigest : Sha256Digest
  welcomeDigest : Sha256Digest
  candidateKeyPackageDigest : Sha256Digest
  joinRequestDigest : Option Sha256Digest
  approvalRequestDigest : Option Sha256Digest
  removalPolicyRevisions : Option (Revision × Revision)
  canonicalCbor : List UInt8
  receiptDigest : Sha256Digest
  signingPublicKey : SigningPublicKey
  signature : Ed25519Signature
  deriving DecidableEq

/-- The head after a commit, chained to the one before. -/
def nextHead [Sha256] (facts : MlsCommitFacts) (epoch : UInt64) :
    Except GroupPersistenceError Sha256Digest := do
  let bytes ← (encodeDeterministicCbor (record [.unsigned 1, toCanonicalValue facts.expectedHead,
      .unsigned epoch, toCanonicalValue facts.commitDigest, toCanonicalValue facts.welcomeDigest,
      .text facts.candidateIdentityId.toText, .text facts.candidateDeviceId.toText])).mapError
    fun _ => corruptData "MLS head encoding"
  return .hashDomain headDigestDomain bytes

variable (protocolVersion : UInt8)

/-- Whether a receipt of version 5 is of a removal. -/
def v5Removal (candidateKeyPackageDigest welcomeDigest : Sha256Digest) :
    Except GroupPersistenceError Bool :=
  if protocolVersion = 5 then
    match decide (candidateKeyPackageDigest = zeroDigest), decide (welcomeDigest = zeroDigest) with
    | true, true => .ok true
    | false, false => .ok false
    | _, _ => .error (corruptData "MLS V5 receipt add/remove bindings")
  else .ok false

/-- The fields of a receipt from 11 on. -/
def versionFields (removal : Bool) (candidateKeyPackageDigest : Sha256Digest) (version : UInt8)
    (joinRequestDigest approvalRequestDigest : Option Sha256Digest)
    (removalPolicyRevisions : Option (Revision × Revision)) :
    Except GroupPersistenceError (List CanonicalValue) :=
  match version, joinRequestDigest, approvalRequestDigest, removalPolicyRevisions with
  | 3, some joinRequestDigest, some approvalRequestDigest, none =>
      .ok [toCanonicalValue candidateKeyPackageDigest, toCanonicalValue joinRequestDigest,
        toCanonicalValue approvalRequestDigest]
  | 4, none, none, some (expectedRevision, resultRevision) =>
      .ok [.unsigned (.ofNat expectedRevision.value), .unsigned (.ofNat resultRevision.value)]
  | 5, none, none, none =>
      .ok [if removal then .null else toCanonicalValue candidateKeyPackageDigest]
  | 2, none, none, none => .ok []
  | _, _, _, _ => .error (corruptData "MLS receipt version bindings")

/-- The version that a receipt names. -/
def receiptVersion : UInt8 → UInt64
  | 3 => 3
  | 4 => 4
  | 5 => 5
  | _ => 1

/-- The canonical receipt of a commit. -/
def receiptCborFacts (submissionId : RequestId) (scope : GroupScope)
    (requestDigest : Sha256Digest) (epoch : UInt64) (head commitDigest welcomeDigest : Sha256Digest)
    (candidateIdentityId : IdentityId) (candidateDeviceId : DeviceId)
    (candidateKeyPackageDigest : Sha256Digest)
    (joinRequestDigest approvalRequestDigest : Option Sha256Digest)
    (removalPolicyRevisions : Option (Revision × Revision)) :
    Except GroupPersistenceError (List UInt8) := do
  let removal ← v5Removal protocolVersion candidateKeyPackageDigest welcomeDigest
  let versioned ← versionFields removal candidateKeyPackageDigest protocolVersion
    joinRequestDigest approvalRequestDigest removalPolicyRevisions
  (encodeDeterministicCbor (record ([.unsigned (receiptVersion protocolVersion),
      .text submissionId.toText, scopeValue scope, toCanonicalValue requestDigest, .unsigned epoch,
      toCanonicalValue head, toCanonicalValue commitDigest,
      if protocolVersion = 4 ∨ removal then .null else toCanonicalValue welcomeDigest,
      .text candidateIdentityId.toText, .text candidateDeviceId.toText] ++ versioned))).mapError
    fun _ => corruptData "MLS receipt encoding"

def receiptSignatureInput (digest : Sha256Digest) : List UInt8 :=
  receiptSignatureDomain protocolVersion ++ digest.bytes.toList

def verifySignature [Ed25519] (key : SigningPublicKey) (input : List UInt8)
    (signature : Ed25519Signature) : Except GroupPersistenceError Unit := do
  rejectIf (Ed25519.point key.asBytes = none) (corruptData "MLS receipt signer")
  rejectIf (Ed25519.verifyStrict key.asBytes input signature.bytes = false)
    (corruptData "MLS receipt signature")

/-- The revisions of a removal, which only a receipt of version 4 has. -/
def removalRevisions :
    Option Revision → Option Revision → Except GroupPersistenceError (Option (Revision × Revision))
  | some expected, some result =>
      if protocolVersion = 4 then .ok (some (expected, result))
      else .error (corruptData "MLS removal policy revisions")
  | none, none =>
      if protocolVersion ≠ 4 then .ok none
      else .error (corruptData "MLS removal policy revisions")
  | _, _ => .error (corruptData "MLS removal policy revisions")

/-- The stored receipt of an intent. -/
def receiptFromRow [Sha256] [Ed25519] (scope : GroupScope) (expectedSigningKey : SigningPublicKey)
    (row : IntentRow) (stored : ReceiptRow) : Except GroupPersistenceError MlsCommitReceipt := do
  rejectIf (stored.signingPublicKey ≠ expectedSigningKey) (corruptData "MLS receipt signer")
  rejectIf (¬(2 ≤ row.protocolVersion ∧ row.protocolVersion ≤ 5))
    (corruptData "MLS protocol version")
  let removalPolicyRevisions ← removalRevisions row.protocolVersion row.expectedPolicyRevision
    row.resultPolicyRevision
  let expectedCbor ← receiptCborFacts row.protocolVersion row.submissionId scope row.requestDigest
    row.admittedEpoch row.resultHeadDigest row.commitDigest row.welcomeDigest
    row.candidateIdentityId row.candidateDeviceId row.candidateKeyPackageDigest
    row.columns.joinRequestDigest row.columns.approvalRequestDigest removalPolicyRevisions
  rejectIf (stored.receiptCbor ≠ expectedCbor) (corruptData "MLS receipt canonical bytes")
  rejectIf (stored.receiptDigest ≠
      .hashDomain (receiptDigestDomain row.protocolVersion) stored.receiptCbor)
    (corruptData "MLS receipt digest")
  verifySignature stored.signingPublicKey
    (receiptSignatureInput row.protocolVersion stored.receiptDigest) stored.signature
  return { row with
    headDigest := row.resultHeadDigest
    joinRequestDigest := row.columns.joinRequestDigest
    approvalRequestDigest := row.columns.approvalRequestDigest
    removalPolicyRevisions
    canonicalCbor := stored.receiptCbor
    receiptDigest := stored.receiptDigest
    signingPublicKey := stored.signingPublicKey
    signature := stored.signature }

/-! ## Requests -/

namespace MlsCommitAuthorization

variable (authorization : MlsCommitAuthorization)

theorem field_requestFields : ∀ field ∈ authorization.requestFields, TranscriptField field := by
  cases authorization <;>
    simp only [requestFields, List.forall_mem_cons, List.not_mem_nil, false_implies, implies_true,
      and_true, field_unsigned, field_null, field_uuid, field_digest]

theorem field_extraRequestFields :
    ∀ field ∈ authorization.extraRequestFields, TranscriptField field := by
  cases authorization <;>
    simp only [extraRequestFields, List.forall_mem_cons, List.not_mem_nil, false_implies,
      implies_true, and_true, field_uuid, field_digest]

theorem length_requestFields : authorization.requestFields.length = 5 := by
  cases authorization <;> rfl

theorem length_extraRequestFields : authorization.extraRequestFields.length ≤ 3 := by
  cases authorization <;> simp [extraRequestFields]

end MlsCommitAuthorization

namespace MlsCommitFacts

variable (facts : MlsCommitFacts)

theorem field_unlessRemoval (digest : Sha256Digest) :
    TranscriptField (facts.unlessRemoval digest) := by
  unfold unlessRemoval
  split
  · exact field_null
  · exact field_digest digest

/-- The digest of the request transcript. -/
def requestDigest [Sha256] : Sha256Digest :=
  .hashDomain (requestDigestDomain facts.protocolVersion) (wire facts.requestValue)

theorem computeRequestDigest_eq [Sha256] :
    facts.computeRequestDigest = .ok facts.requestDigest := by
  have encoded : encodeDeterministicCbor facts.requestValue = .ok (wire facts.requestValue) := by
    refine (encode_record (List.forall_mem_append.mpr ⟨List.forall_mem_append.mpr ⟨?_,
      facts.authorization.field_requestFields⟩, facts.authorization.field_extraRequestFields⟩)
      ?_).1
    · simp only [List.forall_mem_cons, List.not_mem_nil, false_implies, implies_true, and_true,
        field_unsigned, field_uuid, field_publicId, field_digest, field_unlessRemoval, true_and]
      exact field_scope facts.scope
    · rw [List.length_append, List.length_append,
        MlsCommitAuthorization.length_requestFields]
      exact Nat.add_le_add_left facts.authorization.length_extraRequestFields 18
  rw [computeRequestDigest, encoded]
  rfl

/-- The command over the fields. -/
def command [Sha256]
    (bounded : 0 < facts.commitBytes.length ∧ facts.commitBytes.length ≤ maxCommitBytes)
    (digest_eq : facts.commitDigest = mlsOpaqueCommitDigest facts.commitBytes)
    (epoch_lt : facts.expectedEpoch < maxEpoch) : MlsCommitCommand :=
  ⟨facts, facts.requestDigest, bounded, digest_eq, epoch_lt, facts.computeRequestDigest_eq⟩

end MlsCommitFacts

end Dirextalk.Mls
