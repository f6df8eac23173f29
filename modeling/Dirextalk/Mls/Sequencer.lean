import Dirextalk.Mls.Receipt
import Dirextalk.Persistence.Saga

/-!
# The MLS commit sequencer of one group

The transactions that admit opaque commits, confirm joined devices and read the
commit feed.  The sequencer shares the policy and the command book with the join
saga of its group.  A transaction that fails is rolled back, so it is modelled as
a function that returns the group only when it commits.
-/

namespace Dirextalk.Mls

open Domain Dirextalk.Group Lib Dirextalk.Membership Persistence Wire

open GroupPersistenceError

/-! ## State -/

/-- Exact state of an identity/device MLS leaf. -/
inductive MlsDeviceMemberState where
  | pendingConfirmation
  | active
  | removed
  deriving DecidableEq, Repr

/-- A row of `groups.mls_device_members` of one scope. -/
structure DeviceRow where
  identityId : IdentityId
  deviceId : DeviceId
  admittedEpoch : UInt64
  commitDigest : Sha256Digest
  state : MlsDeviceMemberState
  removedEpoch : Option UInt64
  deriving DecidableEq

/-- The primary key of the row. -/
def DeviceRow.leaf (row : DeviceRow) : IdentityId × DeviceId := (row.identityId, row.deviceId)

/-- A row of `groups.mls_heads`. -/
structure MlsHead where
  epoch : UInt64
  headDigest : Sha256Digest
  deriving DecidableEq

/-- The intent of an admitted commit with its receipt, inserted together. -/
structure CommitRows [Ed25519] where
  intent : IntentRow
  stored : ReceiptRow

/-- Candidate-signed confirmation of the accepted receipt and current head. -/
structure MlsDeviceJoinConfirmation where
  submissionId : RequestId
  identityId : IdentityId
  deviceId : DeviceId
  receiptDigest : Sha256Digest
  headDigest : Sha256Digest
  signature : Ed25519Signature
  deriving DecidableEq

/-- The durable state that the sequencer of one group reads and writes. -/
structure MlsGroup [Ed25519] where
  saga : Saga
  head : Option MlsHead
  /-- In the order of their insertion. -/
  commits : List CommitRows
  devices : List DeviceRow
  /-- The rows of `groups.mls_join_confirmations`, whose columns are those of the
  confirmation. -/
  confirmations : List MlsDeviceJoinConfirmation
  /-- The submission ids that other groups of the tenant have used. -/
  elsewhere : List RequestId

/-- The receipt of a commit, and whether it was already there. -/
structure MlsCommitExecution [Ed25519] where
  receipt : MlsCommitReceipt
  replayed : Bool

namespace MlsGroup

section Queries

variable [Ed25519] (group : MlsGroup)

/-- The group that the rows belong to. -/
def scope : GroupScope := group.saga.policy.scope

variable (identityId : IdentityId)

/-- The leaf of a device. -/
def deviceRow? (deviceId : DeviceId) : Option DeviceRow :=
  group.devices.find? fun row => row.leaf = (identityId, deviceId)

/-- Whether the leaf exists in the given state. -/
def hasLeaf (state : MlsDeviceMemberState) (identityId : IdentityId) (deviceId : DeviceId) : Bool :=
  (group.deviceRow? identityId deviceId).any fun row => row.state = state

def isMember : Bool := identityId ∈ group.saga.policy.members

/-- The pending or active leaves of an identity. -/
def liveLeafCount : Nat :=
  group.devices.countP fun row => row.identityId = identityId ∧ row.state ≠ .removed

/-- The commit that was admitted under a submission id. -/
def commit? (submissionId : RequestId) : Option CommitRows :=
  group.commits.find? fun rows => rows.intent.submissionId = submissionId

end Queries

/-! ## Replay -/

section Transactions

variable [Sha256] [Ed25519] (group : MlsGroup)

/-- The stored receipt of a submission, checked again. -/
def loadReceipt (scope : GroupScope) (submissionId : RequestId)
    (expectedSigningKey : SigningPublicKey) :
    Except GroupPersistenceError (Option MlsCommitReceipt) :=
  if scope = group.scope then
    match group.commit? submissionId with
    | none => .ok none
    | some rows =>
        (receiptFromRow scope expectedSigningKey rows.intent rows.stored).map some
  else .ok none

variable (command : MlsCommitCommand)

/-- The stored commit of the submission id, which may not be of another group. -/
def loadExistingSubmission (expectedSigningKey : SigningPublicKey) :
    Except GroupPersistenceError (Option MlsCommitReceipt) := do
  rejectIf (command.submissionId ∈ group.elsewhere) mlsCommitConflict
  group.loadReceipt command.scope command.submissionId expectedSigningKey

/-- The commit that the actor sent under the same key. -/
def loadExistingIdempotency (expectedSigningKey : SigningPublicKey) :
    Except GroupPersistenceError (Option MlsCommitReceipt) :=
  match group.commits.find? fun rows =>
      rows.intent.actorIdentityId = command.actorIdentityId ∧
        rows.intent.idempotencyKeyHash = command.idempotencyKeyHash with
  | none => .ok none
  | some rows => group.loadReceipt command.scope rows.intent.submissionId expectedSigningKey

/-- The same request is answered from the stored receipt. -/
def replayOrConflict (existing : MlsCommitReceipt) (command : MlsCommitCommand) :
    Except GroupPersistenceError MlsCommitExecution := do
  rejectIf (existing.requestDigest ≠ command.requestDigest) mlsCommitConflict
  return { receipt := existing, replayed := true }

/-- No commit is admitted twice. -/
def commitDigestExists : Bool :=
  group.commits.any fun rows => rows.intent.commitDigest = command.commitDigest

/-- No approval admits two commits. -/
def membershipCommandWasAdmitted : Bool :=
  command.authorization.membershipCommandId?.any fun membershipCommandId =>
    group.commits.any fun rows =>
      rows.intent.columns.membershipCommandId = some membershipCommandId

/-! ## Authorization -/

/-- The workflow row that an approved join names: pending its commit, of the same
candidate, approved by the actor on the expected head. -/
def approvedWorkflow (membershipCommandId : MembershipCommandId)
    (authorizationDigest : Sha256Digest) (workflow : JoinWorkflow) : Bool :=
  match workflow.phase with
  | .pendingCommit approvalCommandId approvalContext storedDigest =>
      approvalCommandId = membershipCommandId ∧
        workflow.context.candidateIdentityId = command.candidateIdentityId ∧
        workflow.context.candidateDeviceId = command.candidateDeviceId ∧
        approvalContext.actorIdentityId = command.actorIdentityId ∧
        approvalContext.actorDeviceId = command.actorDeviceId ∧
        approvalContext.fence.sequencerHead = command.expectedHead ∧
        storedDigest = authorizationDigest
  | _ => false

/-- The stored request and approval commands that a join of version 3 names. -/
def boundCommands (requestId : JoinRequestId) (membershipCommandId : MembershipCommandId)
    (joinRequestDigest approvalRequestDigest : Sha256Digest) : Bool :=
  (group.saga.book.commands[membershipCommandId]?.any fun approval =>
    approval.kind = .approveJoin ∧ approval.requestDigest = approvalRequestDigest) ∧
  group.saga.book.commands.toList.any fun request =>
    request.2.workflowId = some requestId ∧ request.2.kind = .requestJoin ∧
      request.2.requestDigest = joinRequestDigest

/-- What each authorization demands of the actor, the candidate and the group. -/
def authorize : Except GroupPersistenceError Unit := do
  let policy := group.saga.policy
  let candidateActive := group.hasLeaf .active command.candidateIdentityId command.candidateDeviceId
  let actorActive := group.hasLeaf .active command.actorIdentityId command.actorDeviceId
  rejectIf ((group.deviceRow? command.candidateIdentityId command.candidateDeviceId).isSome ∧
    ¬command.authorization.isRemoval) mlsAuthorizationRejected
  match command.authorization with
  | .ownerBootstrap =>
      rejectIf (command.expectedEpoch ≠ 0 ∨ group.head.isSome ∨ group.devices ≠ [] ∨
        command.actorIdentityId ≠ command.candidateIdentityId ∨
        command.actorDeviceId ≠ command.candidateDeviceId ∨
        policy.ownerId ≠ command.actorIdentityId) mlsAuthorizationRejected
  | .approvedIdentityJoin membershipCommandId authorizationDigest =>
      rejectIf (¬group.saga.book.workflows.toList.any fun workflow =>
        approvedWorkflow command membershipCommandId authorizationDigest workflow.2)
        mlsAuthorizationRejected
  | .approvedIdentityJoinV3 membershipCommandId authorizationDigest joinRequestDigest
      approvalRequestDigest =>
      rejectIf (¬group.saga.book.workflows.toList.any fun workflow =>
        approvedWorkflow command membershipCommandId authorizationDigest workflow.2 ∧
          workflow.2.context.candidateKeyPackageDigest = some command.candidateKeyPackageDigest ∧
          group.boundCommands workflow.1 membershipCommandId joinRequestDigest
            approvalRequestDigest) mlsAuthorizationRejected
  | .existingMemberDeviceAdd controllerDeviceId _ =>
      rejectIf (¬group.isMember command.candidateIdentityId ∨
        ¬group.hasLeaf .active command.candidateIdentityId controllerDeviceId ∨
        ¬(command.actorIdentityId = command.candidateIdentityId ∨
          policy.ownerId = command.actorIdentityId ∨
          command.actorIdentityId ∈ policy.administrators)) mlsAuthorizationRejected
  | .existingMemberDeviceRecoveryAdd controllerDeviceId _ _ _ _ =>
      rejectIf (command.protocolVersion ≠ 5 ∨
        command.actorIdentityId ≠ command.candidateIdentityId ∨
        command.actorDeviceId ≠ controllerDeviceId ∨
        ¬group.isMember command.candidateIdentityId ∨
        ¬group.hasLeaf .active command.candidateIdentityId controllerDeviceId ∨
        command.candidateProofDigest ≠ zeroDigest) mlsAuthorizationRejected
  | .existingMemberDeviceRemove _ =>
      rejectIf (command.protocolVersion ≠ 5 ∨
        command.actorIdentityId ≠ command.candidateIdentityId ∨
        command.actorDeviceId = command.candidateDeviceId ∨
        ¬group.isMember command.candidateIdentityId ∨ ¬actorActive ∨ ¬candidateActive ∨
        command.candidateKeyPackageDigest ≠ zeroDigest ∨
        command.candidateProofDigest ≠ zeroDigest ∨ command.welcomeDigest ≠ zeroDigest)
        mlsAuthorizationRejected
  | .memberRemovalV4 expectedPolicyRevision => do
      rejectIf (command.protocolVersion ≠ 4 ∨ command.actorIdentityId ≠ policy.ownerId ∨
        command.actorIdentityId = command.candidateIdentityId ∨
        command.candidateKeyPackageDigest ≠ zeroDigest ∨
        command.candidateProofDigest ≠ zeroDigest ∨ command.welcomeDigest ≠ zeroDigest)
        mlsAuthorizationRejected
      rejectIf (policy.revision ≠ expectedPolicyRevision ∨ ¬actorActive ∨
        ¬group.isMember command.candidateIdentityId ∨
        group.liveLeafCount command.candidateIdentityId ≠ 1 ∨ ¬candidateActive)
        mlsAuthorizationRejected

/-- The command must build on the stored head; the first commit bootstraps. -/
def checkHead : Except GroupPersistenceError Unit :=
  match group.head with
  | some head =>
      rejectIf (head.epoch ≠ command.expectedEpoch ∨ head.headDigest ≠ command.expectedHead)
        staleMlsHead
  | none =>
      rejectIf (¬(command.expectedEpoch = 0 ∧ command.expectedHead = zeroDigest ∧
        command.authorization = .ownerBootstrap)) staleMlsHead

/-! ## Admission -/

/-- A removal moves the policy by one revision. -/
def removalPolicyRevisions : Except GroupPersistenceError (Option (Revision × Revision)) :=
  match command.authorization with
  | .memberRemovalV4 expectedPolicyRevision => do
      let next ← expectedPolicyRevision.checkedNext.mapError fun _ => mlsAuthorizationRejected
      return some (expectedPolicyRevision, next)
  | _ => .ok none

/-- The row that `insert_intent` writes. -/
def intentRow (admittedEpoch : UInt64) (headDigest : Sha256Digest)
    (revisions : Option (Revision × Revision)) (nowMs : Int64) : IntentRow :=
  { command with
    parentEpoch := command.expectedEpoch
    parentHeadDigest := command.expectedHead
    admittedEpoch
    resultHeadDigest := headDigest
    createdAtMs := nowMs
    columns := command.authorization.columns
    expectedPolicyRevision := revisions.map Prod.fst
    resultPolicyRevision := revisions.map Prod.snd }

/-- The constraints of the intent table. -/
def insertIntent (row : IntentRow) : Except GroupPersistenceError Unit := do
  rejectIf (row.valid = false) database
  rejectIf (group.commits.any fun rows => row.clashes rows.intent) database

/-- The policy after the removal that a commit carries. -/
def removeGroupMember : Option (Revision × Revision) → Except GroupPersistenceError GroupPolicy
  | none => .ok group.saga.policy
  | some (expectedRevision, expectedResult) => do
      let (result, policy) ← committing groupPolicy (group.saga.policy.removeMember
        expectedRevision command.actorIdentityId command.candidateIdentityId)
      rejectIf (result ≠ expectedResult) (corruptData "group removal policy revision")
      return policy

/-- The receipt that the command leads to. -/
def receiptCbor (epoch : UInt64) (head : Sha256Digest)
    (revisions : Option (Revision × Revision)) : Except GroupPersistenceError (List UInt8) :=
  receiptCborFacts command.protocolVersion command.submissionId command.scope
    command.requestDigest epoch head command.commitDigest command.welcomeDigest
    command.candidateIdentityId command.candidateDeviceId command.candidateKeyPackageDigest
    command.authorization.joinRequestDigest? command.authorization.approvalRequestDigest? revisions

def maxReceiptBytes : Nat := 16384

/-- Signs the receipt, checks the signature and stores both. -/
def insertReceipt (canonicalCbor : List UInt8) (sequencerSigningKey : SigningPublicKey)
    (signReceipt : List UInt8 → Except GroupPersistenceError Ed25519Signature) :
    Except GroupPersistenceError ReceiptRow := do
  let receiptDigest :=
    Sha256Digest.hashDomain (receiptDigestDomain command.protocolVersion) canonicalCbor
  let signatureInput := receiptSignatureInput command.protocolVersion receiptDigest
  let signature ← signReceipt signatureInput
  verifySignature sequencerSigningKey signatureInput signature
  rejectIf (¬(1 ≤ canonicalCbor.length ∧ canonicalCbor.length ≤ maxReceiptBytes)) database
  return { submissionId := command.submissionId, receiptCbor := canonicalCbor, receiptDigest
           signingPublicKey := sequencerSigningKey, signature }

/-- A removal ends exactly one active leaf; any other commit adds a pending one. -/
def updateDevices (admittedEpoch : UInt64) : Except GroupPersistenceError (List DeviceRow) :=
  let target := (command.candidateIdentityId, command.candidateDeviceId)
  if command.authorization.isRemoval then do
    rejectIf ((group.devices.countP fun row => row.leaf = target ∧ row.state = .active) ≠ 1)
      mlsAuthorizationRejected
    rejectIf (group.devices.any fun row => row.leaf = target ∧ admittedEpoch < row.admittedEpoch)
      database
    return group.devices.map fun row =>
      if row.leaf = target ∧ row.state = .active then
        { row with state := .removed, removedEpoch := some admittedEpoch }
      else row
  else do
    rejectIf (group.devices.any fun row => row.leaf = target) database
    return group.devices ++ [{
      identityId := command.candidateIdentityId
      deviceId := command.candidateDeviceId
      admittedEpoch
      commitDigest := command.commitDigest
      state := .pendingConfirmation
      removedEpoch := none }]

/-- Writes the rows of an authorized commit on the current head. -/
def admitCommit (nowMs : Int64) (sequencerSigningKey : SigningPublicKey)
    (signReceipt : List UInt8 → Except GroupPersistenceError Ed25519Signature) :
    Except GroupPersistenceError (MlsCommitExecution × MlsGroup) := do
  let admittedEpoch := command.expectedEpoch + 1
  let headDigest ← nextHead command.toMlsCommitFacts admittedEpoch
  let revisions ← removalPolicyRevisions command
  let row := intentRow command admittedEpoch headDigest revisions nowMs
  group.insertIntent row
  let policy ← group.removeGroupMember command revisions
  let canonicalCbor ← receiptCbor command admittedEpoch headDigest revisions
  let stored ← insertReceipt command canonicalCbor sequencerSigningKey signReceipt
  let devices ← group.updateDevices command admittedEpoch
  let receipt : MlsCommitReceipt := { command with
    admittedEpoch
    headDigest
    joinRequestDigest := command.authorization.joinRequestDigest?
    approvalRequestDigest := command.authorization.approvalRequestDigest?
    removalPolicyRevisions := revisions
    canonicalCbor
    receiptDigest := stored.receiptDigest
    signingPublicKey := sequencerSigningKey
    signature := stored.signature }
  return ({ receipt, replayed := false }, { group with
    saga := { group.saga with policy }
    head := some ⟨admittedEpoch, headDigest⟩
    commits := group.commits ++ [⟨row, stored⟩]
    devices })

/-- Replays, refuses or admits a commit. -/
def submitInTransaction (nowMs : Int64) (sequencerSigningKey : SigningPublicKey)
    (verifyCandidateProof verifyAuthorizationProof :
      MlsCommitCommand → Except GroupPersistenceError Unit)
    (signReceipt : List UInt8 → Except GroupPersistenceError Ed25519Signature) :
    Except GroupPersistenceError (MlsCommitExecution × MlsGroup) := do
  rejectIf (command.scope ≠ group.scope) groupNotFound
  match ← group.loadExistingSubmission command sequencerSigningKey with
  | some existing => return (← replayOrConflict existing command, group)
  | none =>
      match ← group.loadExistingIdempotency command sequencerSigningKey with
      | some existing => return (← replayOrConflict existing command, group)
      | none => do
          rejectIf (group.commitDigestExists command) mlsCommitConflict
          rejectIf (group.membershipCommandWasAdmitted command) mlsAuthorizationRejected
          verifyCandidateProof command
          verifyAuthorizationProof command
          group.authorize command
          group.checkHead command
          group.admitCommit command nowMs sequencerSigningKey signReceipt

/-! ## Submission paths that finalize a join -/

/-- The resolution of an approved join in the same transaction. -/
def resolveJoin (group : MlsGroup) (membershipCommandId : MembershipCommandId)
    (receiptDigest : Sha256Digest) (nowMs : Int64) : Except GroupPersistenceError MlsGroup := do
  let (_, saga) ← group.saga.resolveMlsCommitInTransaction group.scope membershipCommandId
    receiptDigest nowMs
  return { group with saga }

/-- The transaction of `submit_authenticated`, after the actor and both proofs of
version 2 were verified. -/
def submitV2InTransaction (nowMs : Int64) (sequencerSigningKey : SigningPublicKey)
    (signReceipt : List UInt8 → Except GroupPersistenceError Ed25519Signature) :
    Except GroupPersistenceError (MlsCommitExecution × MlsGroup) := do
  let (execution, group) ← group.submitInTransaction command nowMs sequencerSigningKey
    (fun _ => .ok ()) (fun _ => .ok ()) signReceipt
  match command.authorization with
  | .approvedIdentityJoin membershipCommandId _ =>
      return (execution,
        ← group.resolveJoin membershipCommandId execution.receipt.receiptDigest nowMs)
  | _ => return (execution, group)

/-- Submission of an approved join, which it also finalizes. -/
def submitV3InTransaction (nowMs : Int64) (sequencerSigningKey : SigningPublicKey)
    (signReceipt : List UInt8 → Except GroupPersistenceError Ed25519Signature) :
    Except GroupPersistenceError (MlsCommitExecution × MlsGroup) := do
  let (execution, group) ← group.submitInTransaction command nowMs sequencerSigningKey
    (fun _ => .ok ()) (fun _ => .ok ()) signReceipt
  match command.authorization with
  | .approvedIdentityJoinV3 membershipCommandId _ _ _ =>
      return (execution,
        ← group.resolveJoin membershipCommandId execution.receipt.receiptDigest nowMs)
  | _ => .error mlsAuthorizationRejected

/-! ## Confirmations -/

def deviceConfirmationSignatureDomain : List UInt8 :=
  textBytes "dirextalk.mls-device-join-confirmation.v1\x00"

/-- What the new device signs. -/
def mlsDeviceConfirmationSignatureInput (confirmation : MlsDeviceJoinConfirmation) :
    Except GroupPersistenceError (List UInt8) := do
  let bytes ← (encodeDeterministicCbor (record [.unsigned 1,
      .text confirmation.submissionId.toText, .text confirmation.identityId.toText,
      .text confirmation.deviceId.toText, toCanonicalValue confirmation.receiptDigest,
      toCanonicalValue confirmation.headDigest])).mapError
    fun _ => corruptData "MLS confirmation encoding"
  return (Sha256Digest.hashDomain deviceConfirmationSignatureDomain bytes).bytes.toList

/-- Whether the confirmation was already recorded, and the group after it. -/
def confirmInTransaction (confirmation : MlsDeviceJoinConfirmation) (nowMs : Int64)
    (candidateSigningKey : SigningPublicKey) : Except GroupPersistenceError (Bool × MlsGroup) := do
  let leaf := (confirmation.identityId, confirmation.deviceId)
  let rows ← okOr (group.commit? confirmation.submissionId) mlsDeviceConfirmationRejected
  rejectIf (rows.intent.candidateIdentityId ≠ confirmation.identityId ∨
    rows.intent.candidateDeviceId ≠ confirmation.deviceId ∨
    rows.stored.receiptDigest ≠ confirmation.receiptDigest ∨
    rows.intent.resultHeadDigest ≠ confirmation.headDigest) mlsDeviceConfirmationRejected
  rejectIf ((group.deviceRow? confirmation.identityId confirmation.deviceId).isNone)
    mlsDeviceConfirmationRejected
  match group.confirmations.find? (·.submissionId = confirmation.submissionId) with
  | some existing => do
      rejectIf (existing ≠ confirmation) mlsDeviceConfirmationRejected
      return (true, group)
  | none => do
      let signatureInput ← mlsDeviceConfirmationSignatureInput confirmation
      (verifySignature candidateSigningKey signatureInput confirmation.signature).mapError
        fun _ => mlsDeviceConfirmationRejected
      rejectIf ((group.devices.countP fun row =>
        row.leaf = leaf ∧ row.state = .pendingConfirmation) ≠ 1) mlsDeviceConfirmationRejected
      rejectIf (validTimestamp nowMs = false) database
      return (false, { group with
        devices := group.devices.map fun row =>
          if row.leaf = leaf ∧ row.state = .pendingConfirmation then { row with state := .active }
          else row
        confirmations := group.confirmations ++ [confirmation] })

/-! ## The commit feed -/

/-- A commit with its receipt. -/
structure MlsCommitFeedItem [Ed25519] where
  receipt : MlsCommitReceipt
  commitBytes : List UInt8

/-- The commits after an epoch. -/
structure MlsCommitFeedPage [Ed25519] where
  afterEpoch : UInt64
  items : List MlsCommitFeedItem

def maxFeedPageSize : Nat := 64

/-- `i64::MAX`. -/
def maxSignedEpoch : UInt64 := 9223372036854775807

/-- The versions that the feed query selects. -/
def inFeed (version : UInt8) : Bool := version = 3 ∨ version = 4 ∨ version = 5

/-- The last epoch that the device may read. -/
def maximumEpoch (actorIdentityId : IdentityId) (actorDeviceId : DeviceId) (afterEpoch : UInt64) :
    Except GroupPersistenceError UInt64 :=
  if group.isMember actorIdentityId ∧ group.hasLeaf .active actorIdentityId actorDeviceId then
    .ok maxSignedEpoch
  else
    let removedEpoch := ((group.deviceRow? actorIdentityId actorDeviceId).filter
      fun row => row.state = .removed).bind (·.removedEpoch)
    okOr (removedEpoch.filter fun epoch => afterEpoch < epoch) deviceAuthenticationRejected

/-- `… WHERE admitted_epoch > $4 AND admitted_epoch <= $5 AND protocol_version IN (3,4,5)
ORDER BY admitted_epoch LIMIT $6`. -/
def feedRows (afterEpoch maximumEpoch : UInt64) (limit : Nat) : List CommitRows :=
  ((group.commits.filter fun rows =>
    afterEpoch < rows.intent.admittedEpoch ∧ rows.intent.admittedEpoch ≤ maximumEpoch ∧
      inFeed rows.intent.protocolVersion).insertionSort fun left right =>
        left.intent.admittedEpoch ≤ right.intent.admittedEpoch).take limit

/-- One turn of the loop over the rows of a page. -/
def feedStep (scope : GroupScope) (expectedSigningKey : SigningPublicKey)
    (state : UInt64 × List MlsCommitFeedItem) (rows : CommitRows) :
    Except GroupPersistenceError (UInt64 × List MlsCommitFeedItem) := do
  let (expectedEpoch, items) := state
  let receipt ← receiptFromRow scope expectedSigningKey rows.intent rows.stored
  rejectIf (¬inFeed receipt.protocolVersion ∨ receipt.admittedEpoch ≠ expectedEpoch)
    (corruptData "non-consecutive MLS commit feed")
  rejectIf (mlsOpaqueCommitDigest rows.intent.commitBytes ≠ receipt.commitDigest)
    (corruptData "MLS commit feed bytes")
  let nextEpoch ← okOr (checkedAddUInt64 expectedEpoch 1)
    (corruptData "MLS commit feed epoch overflow")
  return (nextEpoch, items ++ [{ receipt, commitBytes := rows.intent.commitBytes }])

/-- The next page of commits for a device that may read them. -/
def loadCommitFeedInTransaction (actorIdentityId : IdentityId) (actorDeviceId : DeviceId)
    (afterEpoch : UInt64) (limit : Nat) (expectedSigningKey : SigningPublicKey) :
    Except GroupPersistenceError MlsCommitFeedPage := do
  rejectIf (¬(1 ≤ limit ∧ limit ≤ maxFeedPageSize))
    (corruptData "invalid MLS commit feed page size")
  rejectIf (maxSignedEpoch < afterEpoch) (corruptData "MLS commit feed epoch")
  let maximumEpoch ← group.maximumEpoch actorIdentityId actorDeviceId afterEpoch
  let firstEpoch ← okOr (checkedAddUInt64 afterEpoch 1)
    (corruptData "MLS commit feed epoch overflow")
  let (_, items) ← (group.feedRows afterEpoch maximumEpoch limit).foldlM
    (feedStep group.scope expectedSigningKey) (firstEpoch, [])
  return { afterEpoch, items }

end Transactions

end MlsGroup

end Dirextalk.Mls
