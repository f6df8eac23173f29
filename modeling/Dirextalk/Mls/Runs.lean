import Dirextalk.Group.Rehydration
import Dirextalk.Identity.Codec
import Dirextalk.Lib.History
import Dirextalk.Mls.Submission
import Dirextalk.Persistence.PolicySteps

/-!
# Runs of the sequencer

The commits of a group form one chain of epochs, whatever submissions, replays,
confirmations and membership transactions are interleaved.  Every accepted
commit keeps its receipt, and every device its one leaf.
-/

namespace Dirextalk.Mls

open Domain Dirextalk.Group Lib Dirextalk.Membership Persistence Wire

/-! ## Transactions -/

/-- A transaction that concerns the group. -/
inductive MlsCall [Sha256] [Ed25519] where
  | submit (command : MlsCommitCommand) (nowMs : Int64)
      (verifyCandidateProof verifyAuthorizationProof :
        MlsCommitCommand → Except GroupPersistenceError Unit)
      (signReceipt : List UInt8 → Except GroupPersistenceError Ed25519Signature)
  | submitV2 (command : MlsCommitCommand) (nowMs : Int64)
      (signReceipt : List UInt8 → Except GroupPersistenceError Ed25519Signature)
  | submitV3 (command : MlsCommitCommand) (nowMs : Int64)
      (signReceipt : List UInt8 → Except GroupPersistenceError Ed25519Signature)
  | confirm (confirmation : MlsDeviceJoinConfirmation) (nowMs : Int64)
      (candidateSigningKey : SigningPublicKey)
  /-- A transaction of the join saga or of group control. -/
  | membership (transaction : Transaction)
  /-- Another group of the tenant admits a commit. -/
  | elsewhere (submissionId : RequestId)

namespace MlsGroup

variable [Sha256] [Ed25519]

/-- The group after a transaction that commits. -/
def transact (sequencerSigningKey : SigningPublicKey) (group : MlsGroup) :
    MlsCall → Except GroupPersistenceError MlsGroup
  | .submit command nowMs verifyCandidateProof verifyAuthorizationProof signReceipt =>
      (group.submitInTransaction command nowMs sequencerSigningKey verifyCandidateProof
        verifyAuthorizationProof signReceipt).map Prod.snd
  | .submitV2 command nowMs signReceipt =>
      (group.submitV2InTransaction command nowMs sequencerSigningKey signReceipt).map Prod.snd
  | .submitV3 command nowMs signReceipt =>
      (group.submitV3InTransaction command nowMs sequencerSigningKey signReceipt).map Prod.snd
  | .confirm confirmation nowMs candidateSigningKey =>
      (group.confirmInTransaction confirmation nowMs candidateSigningKey).map Prod.snd
  | .membership transaction => (group.saga.transact transaction).map fun saga => { group with saga }
  | .elsewhere submissionId => do
      rejectIf ((group.commit? submissionId).isSome) .database
      return { group with elsewhere := submissionId :: group.elsewhere }

/-- Commits the transaction, or rolls it back. -/
def settle (sequencerSigningKey : SigningPublicKey) (group : MlsGroup) (call : MlsCall) :
    MlsGroup :=
  match group.transact sequencerSigningKey call with
  | .ok next => next
  | .error _ => group

/-- The transaction commits. -/
def Transacts (sequencerSigningKey : SigningPublicKey) (group : MlsGroup) (call : MlsCall)
    (after : MlsGroup) : Prop :=
  group.transact sequencerSigningKey call = .ok after

/-- A group for which the sequencer has not stored anything. -/
structure Unsequenced (group : MlsGroup) : Prop where
  head : group.head = none
  commits : group.commits = []
  devices : group.devices = []

/-! ## What one transaction can do -/

/-- The rows after a confirmation of the leaf. -/
def confirmedRows (devices : List DeviceRow) (leaf : IdentityId × DeviceId) : List DeviceRow :=
  devices.map fun row =>
    if row.leaf = leaf ∧ row.state = .pendingConfirmation then { row with state := .active }
    else row

/-- The rows after a removal of the leaf. -/
def removedRows (devices : List DeviceRow) (leaf : IdentityId × DeviceId) (epoch : UInt64) :
    List DeviceRow :=
  devices.map fun row =>
    if row.leaf = leaf ∧ row.state = .active then
      { row with state := .removed, removedEpoch := some epoch }
    else row

/-- The leaf that a commit adds. -/
def addedLeaf (command : MlsCommitCommand) : DeviceRow where
  identityId := command.candidateIdentityId
  deviceId := command.candidateDeviceId
  admittedEpoch := command.expectedEpoch + 1
  commitDigest := command.commitDigest
  state := .pendingConfirmation
  removedEpoch := none

/-- The leaf that a commit is about. -/
def candidateLeaf (row : IntentRow) : IdentityId × DeviceId :=
  (row.candidateIdentityId, row.candidateDeviceId)

/-- What a commit does to the leaves. -/
inductive LeavesChanged (command : MlsCommitCommand) (devices : List DeviceRow) :
    List DeviceRow → Prop
  | removed (removal : command.authorization.isRemoval = true) :
      LeavesChanged command devices (removedRows devices
        (command.candidateIdentityId, command.candidateDeviceId) (command.expectedEpoch + 1))
  | added (addition : command.authorization.isRemoval = false)
      (fresh : (addedLeaf command).leaf ∉ devices.map DeviceRow.leaf) :
      LeavesChanged command devices (devices ++ [addedLeaf command])

variable {command : MlsCommitCommand}

theorem leavesChanged_of_updateDevices {group : MlsGroup} {devices : List DeviceRow}
    (changed : group.updateDevices command (command.expectedEpoch + 1) = .ok devices) :
    LeavesChanged command group.devices devices := by
  simp only [updateDevices] at changed
  split at changed
  next removal =>
    simp only [bind_eq_ok, rejectIf_eq_ok, exists_const, pure_eq_ok] at changed
    obtain ⟨-, -, rfl⟩ := changed
    exact .removed removal
  next addition =>
    simp only [bind_eq_ok, rejectIf_eq_ok, exists_const, pure_eq_ok, Bool.not_eq_true,
      List.any_eq_false, decide_eq_true_eq] at changed
    obtain ⟨fresh, rfl⟩ := changed
    refine .added (Bool.eq_false_iff.mpr addition) ?_
    simp only [List.mem_map, not_exists, not_and]
    exact fresh

/-- Everything that a committed transaction can have done to the group. -/
inductive Change (sequencerSigningKey : SigningPublicKey) (group : MlsGroup) : MlsGroup → Prop
  | aside {saga : Saga} {others : List RequestId} (scope_eq : saga.policy.scope = group.scope)
      (apart : ∀ submissionId ∈ others,
        submissionId ∈ group.elsewhere ∨ group.commit? submissionId = none) :
      Change sequencerSigningKey group { group with saga, elsewhere := others }
  | confirmed (confirmation : MlsDeviceJoinConfirmation) :
      Change sequencerSigningKey group { group with
        devices := confirmedRows group.devices (confirmation.identityId, confirmation.deviceId)
        confirmations := group.confirmations ++ [confirmation] }
  | admitted {saga : Saga} {command : MlsCommitCommand} {nowMs : Int64}
      {headDigest : Sha256Digest} {revisions : Option (Revision × Revision)} {stored : ReceiptRow}
      {devices : List DeviceRow} {receipt : MlsCommitReceipt}
      (scope_eq : saga.policy.scope = group.scope)
      (unused : command.submissionId ∉ group.elsewhere)
      (current : group.checkHead command = .ok ())
      (valid : (writtenRow command headDigest revisions nowMs).valid = true)
      (fresh : ∀ rows ∈ group.commits,
        (writtenRow command headDigest revisions nowMs).clashes rows.intent = false)
      (loaded : receiptFromRow group.scope sequencerSigningKey
        (writtenRow command headDigest revisions nowMs) stored = .ok receipt)
      (changed : LeavesChanged command group.devices devices) :
      Change sequencerSigningKey group { group with
        saga
        head := some ⟨command.expectedEpoch + 1, headDigest⟩
        commits := group.commits ++ [⟨writtenRow command headDigest revisions nowMs, stored⟩]
        devices }

variable {sequencerSigningKey : SigningPublicKey} {group after : MlsGroup}

/-- The operation that a removal runs on the policy. -/
def RemovesMember (command : MlsCommitCommand) (operation : Operation) : Prop :=
  ∃ expectedRevision, command.authorization = .memberRemovalV4 expectedRevision ∧
    operation = .removeMember expectedRevision command.actorIdentityId command.candidateIdentityId

theorem removeGroupMember_policyStep {revisions : Option (Revision × Revision)}
    {policy : GroupPolicy} (revised : removalPolicyRevisions command = .ok revisions)
    (removed : group.removeGroupMember command revisions = .ok policy) :
    PolicyStep (RemovesMember command) group.saga.policy policy := by
  cases revisions with
  | none =>
    cases removed
    exact .kept
  | some pair =>
    simp only [removeGroupMember, bind_eq_ok, rejectIf_eq_ok, exists_const, pure_eq_ok,
      Prod.exists, committing_eq_ok] at removed
    obtain ⟨_, _, accepted, -, rfl⟩ := removed
    refine policyStep_of_accepted (.removeMember ..) ?_ rfl accepted
    unfold removalPolicyRevisions at revised
    split at revised
    next expectedRevision named =>
      simp only [bind_eq_ok, pure_eq_ok] at revised
      obtain ⟨_, -, same⟩ := revised
      cases same
      exact ⟨expectedRevision, named, rfl⟩
    next => cases revised

variable {execution : MlsCommitExecution} {nowMs : Int64}

/-- The change of a submission, also when the saga moves on in the same transaction. -/
theorem Submitted.change
    (submitted : Submitted sequencerSigningKey group command nowMs execution after) {saga : Saga}
    (scope_eq : saga.policy.scope = after.scope) :
    Change sequencerSigningKey group { after with saga } := by
  cases submitted with
  | replayed => exact .aside scope_eq fun _ => .inl
  | admitted _ unused _ current revised valid fresh removed loaded changed =>
    have scope_eq := scope_eq.trans (removeGroupMember_policyStep revised removed).scope_eq
    exact .admitted scope_eq unused current valid fresh loaded
      (leavesChanged_of_updateDevices changed)

/-- A submission, after which the saga has moved on if it finalizes a join. -/
def Finished (sequencerSigningKey : SigningPublicKey) (group : MlsGroup)
    (command : MlsCommitCommand) (after : MlsGroup) : Prop :=
  ∃ nowMs execution middle saga,
    Submitted sequencerSigningKey group command nowMs execution middle ∧
      after = { middle with saga } ∧ (saga = middle.saga ∨
        command.authorization.membershipCommandId?.isSome = true ∧
          PolicyStep OfSaga middle.saga.policy saga.policy)

theorem Finished.change (finished : Finished sequencerSigningKey group command after) :
    Change sequencerSigningKey group after := by
  obtain ⟨_, _, _, _, submitted, rfl, rfl | ⟨-, step⟩⟩ := finished
  · exact submitted.change rfl
  · exact submitted.change step.scope_eq

theorem Submitted.finished {middle : MlsGroup} {membershipCommandId : MembershipCommandId}
    {receiptDigest : Sha256Digest}
    (submitted : Submitted sequencerSigningKey group command nowMs execution middle)
    (join : command.authorization.membershipCommandId? = some membershipCommandId)
    (resolved : middle.resolveJoin membershipCommandId receiptDigest nowMs = .ok after) :
    Finished sequencerSigningKey group command after := by
  simp only [resolveJoin, bind_eq_ok, Prod.exists, pure_eq_ok] at resolved
  obtain ⟨_, saga, resolved, rfl⟩ := resolved
  exact ⟨_, _, _, _, submitted, rfl,
    .inr ⟨by rw [join]; rfl, Saga.resolveMlsCommitInTransaction_policyStep resolved⟩⟩

section Joins

variable {signReceipt : List UInt8 → Except GroupPersistenceError Ed25519Signature}

theorem finished_of_submitV2
    (done : group.submitV2InTransaction command nowMs sequencerSigningKey signReceipt =
      .ok (execution, after)) : Finished sequencerSigningKey group command after := by
  simp only [submitV2InTransaction, bind_eq_ok, Prod.exists] at done
  obtain ⟨_, _, done, resolved⟩ := done
  split at resolved
  next named =>
    simp only [bind_eq_ok, pure_eq_ok, Prod.mk.injEq] at resolved
    obtain ⟨_, resolved, -, rfl⟩ := resolved
    exact (submitted_of_eq_ok done).finished (by rw [named]; rfl) resolved
  next =>
    cases resolved
    exact ⟨_, _, _, _, submitted_of_eq_ok done, rfl, .inl rfl⟩

theorem finished_of_submitV3
    (done : group.submitV3InTransaction command nowMs sequencerSigningKey signReceipt =
      .ok (execution, after)) : Finished sequencerSigningKey group command after := by
  simp only [submitV3InTransaction, bind_eq_ok, Prod.exists] at done
  obtain ⟨_, _, done, resolved⟩ := done
  split at resolved
  next named =>
    simp only [bind_eq_ok, pure_eq_ok, Prod.mk.injEq] at resolved
    obtain ⟨_, resolved, -, rfl⟩ := resolved
    exact (submitted_of_eq_ok done).finished (by rw [named]; rfl) resolved
  next => cases resolved

end Joins

/-- A confirmation was recorded before, or its leaf becomes active. -/
theorem of_confirm {confirmation : MlsDeviceJoinConfirmation}
    {candidateSigningKey : SigningPublicKey} {recorded : Bool}
    (done : group.confirmInTransaction confirmation nowMs candidateSigningKey =
      .ok (recorded, after)) :
    after = group ∨ after = { group with
      devices := confirmedRows group.devices (confirmation.identityId, confirmation.deviceId)
      confirmations := group.confirmations ++ [confirmation] } := by
  simp only [confirmInTransaction, bind_eq_ok, rejectIf_eq_ok, exists_const] at done
  obtain ⟨rows, -, -, -, done⟩ := done
  split at done
  next =>
    simp only [bind_eq_ok, rejectIf_eq_ok, exists_const, pure_eq_ok, Prod.mk.injEq] at done
    exact .inl done.2.2.symm
  next =>
    simp only [bind_eq_ok, rejectIf_eq_ok, exists_const, pure_eq_ok, Prod.mk.injEq] at done
    obtain ⟨_, -, _, -, -, -, -, same⟩ := done
    exact .inr same.symm

variable {call : MlsCall}

/-- Every committed transaction is one of the changes. -/
theorem change_of_transacts (taken : group.Transacts sequencerSigningKey call after) :
    Change sequencerSigningKey group after := by
  cases call <;> simp only [Transacts, transact, map_eq_ok, Prod.exists] at taken
  case submit =>
    obtain ⟨_, _, done, rfl⟩ := taken
    exact (submitted_of_eq_ok done).change rfl
  case submitV2 =>
    obtain ⟨_, _, done, rfl⟩ := taken
    exact (finished_of_submitV2 done).change
  case submitV3 =>
    obtain ⟨_, _, done, rfl⟩ := taken
    exact (finished_of_submitV3 done).change
  case confirm confirmation _ _ =>
    obtain ⟨_, _, done, rfl⟩ := taken
    obtain rfl | rfl := of_confirm done
    · exact .aside rfl fun _ => .inl
    · exact .confirmed confirmation
  case membership =>
    obtain ⟨saga, done, rfl⟩ := taken
    exact .aside (Saga.transact_policyStep done).scope_eq fun _ => .inl
  case elsewhere submissionId =>
    simp only [bind_eq_ok, rejectIf_eq_ok, exists_const, pure_eq_ok, Bool.not_eq_true,
      Option.isSome_eq_false_iff, Option.isNone_iff_eq_none] at taken
    obtain ⟨unused, rfl⟩ := taken
    refine .aside rfl fun other member => ?_
    rcases List.mem_cons.mp member with rfl | earlier
    · exact .inr unused
    · exact .inl earlier

/-! ## The invariant -/

/-- The head after the commits. -/
def tip (commits : List CommitRows) : Option MlsHead :=
  commits.getLast?.map fun rows => ⟨rows.intent.admittedEpoch, rows.intent.resultHeadDigest⟩

/-- What a commit on the head names as its parent: epoch zero and the zero head at
first. -/
def parentOf : Option MlsHead → UInt64 × Sha256Digest
  | none => (0, zeroDigest)
  | some head => (head.epoch, head.headDigest)

/-- Whether the commit admits its candidate. -/
def admitsLeaf (rows : CommitRows) : Bool :=
  match rows.intent.columns.authorizationKind with
  | .memberRemoval | .existingMemberDeviceRemove => false
  | _ => true

/-- What every reached group satisfies. -/
structure Sequenced (sequencerSigningKey : SigningPublicKey) (group : MlsGroup) : Prop where
  bounded : group.commits.length ≤ maxEpoch.toNat
  epochs : ∀ index rows, group.commits[index]? = some rows →
    rows.intent.admittedEpoch.toNat = index + 1
  parents : ∀ index rows, group.commits[index]? = some rows →
    (rows.intent.parentEpoch, rows.intent.parentHeadDigest) =
      parentOf (tip (group.commits.take index))
  head_eq : group.head = tip group.commits
  submissions : (group.commits.map fun rows => rows.intent.submissionId).Nodup
  digests : (group.commits.map fun rows => rows.intent.commitDigest).Nodup
  approvals : (group.commits.filterMap fun rows => rows.intent.columns.membershipCommandId).Nodup
  admissions : ((group.commits.filter admitsLeaf).map fun rows => candidateLeaf rows.intent).Nodup
  /-- Each leaf has the row of the commit that admitted it. -/
  leaves : group.devices.map (fun row => (row.leaf, row.admittedEpoch)) =
    (group.commits.filter admitsLeaf).map fun rows =>
      (candidateLeaf rows.intent, rows.intent.admittedEpoch)
  removals : ∀ row ∈ group.devices, ∀ epoch, row.removedEpoch = some epoch →
    epoch.toNat ≤ group.commits.length
  apart : ∀ rows ∈ group.commits, rows.intent.submissionId ∉ group.elsewhere
  receipts : ∀ rows ∈ group.commits, ∃ receipt,
    receiptFromRow group.scope sequencerSigningKey rows.intent rows.stored = .ok receipt
  bytes : ∀ rows ∈ group.commits,
    mlsOpaqueCommitDigest rows.intent.commitBytes = rows.intent.commitDigest

theorem Unsequenced.sequenced (fresh : group.Unsequenced) :
    group.Sequenced sequencerSigningKey := by
  constructor <;> simp [fresh.head, fresh.commits, fresh.devices, tip]

/-! ## Each change keeps the invariant -/

variable {submissionId : RequestId}

omit [Sha256] in
theorem commit?_eq_none_iff :
    group.commit? submissionId = none ↔
      ∀ rows ∈ group.commits, rows.intent.submissionId ≠ submissionId := by
  simp [commit?]

theorem parentOf_of_checkHead (current : group.checkHead command = .ok ()) :
    parentOf group.head = (command.expectedEpoch, command.expectedHead) := by
  unfold checkHead at current
  split at current
  next head found =>
    simp only [rejectIf_eq_ok, ne_eq, not_or, not_not] at current
    rw [found, parentOf, current.1, current.2]
  next found =>
    simp only [rejectIf_eq_ok, not_not] at current
    rw [found, parentOf, current.1, current.2.1]

omit [Ed25519] in
theorem toNat_nextEpoch (command : MlsCommitCommand) :
    (command.expectedEpoch + 1).toNat = command.expectedEpoch.toNat + 1 := by
  have below : command.expectedEpoch.toNat < 9007199254740991 :=
    UInt64.lt_iff_toNat_lt.mp command.expectedEpoch_lt
  rw [UInt64.toNat_add]
  exact Nat.mod_eq_of_lt (by change _ + 1 < _; omega)

omit [Sha256] [Ed25519] in
theorem clashes_eq_false {row other : IntentRow} :
    row.clashes other = false ↔ row.submissionId ≠ other.submissionId ∧
      (row.actorIdentityId = other.actorIdentityId →
        row.idempotencyKeyHash ≠ other.idempotencyKeyHash) ∧
      row.admittedEpoch ≠ other.admittedEpoch ∧ row.commitDigest ≠ other.commitDigest ∧
      (row.columns.membershipCommandId.isSome →
        row.columns.membershipCommandId ≠ other.columns.membershipCommandId) := by
  simp [IntentRow.clashes]

theorem admitsLeaf_written (command : MlsCommitCommand) (headDigest : Sha256Digest)
    (revisions : Option (Revision × Revision)) (nowMs : Int64) (stored : ReceiptRow) :
    admitsLeaf ⟨writtenRow command headDigest revisions nowMs, stored⟩ =
      !command.authorization.isRemoval := by
  simp only [admitsLeaf, writtenRow, intentRow]
  cases command.authorization <;> rfl

omit [Sha256] in
theorem approvals_concat {rows : CommitRows}
    (distinct : (group.commits.filterMap fun rows =>
      rows.intent.columns.membershipCommandId).Nodup)
    (fresh : ∀ earlier ∈ group.commits, rows.intent.columns.membershipCommandId.isSome →
      rows.intent.columns.membershipCommandId ≠ earlier.intent.columns.membershipCommandId) :
    ((group.commits ++ [rows]).filterMap fun rows =>
      rows.intent.columns.membershipCommandId).Nodup := by
  rw [List.filterMap_append]
  cases named : rows.intent.columns.membershipCommandId with
  | none => simpa [named] using distinct
  | some membershipCommandId =>
    refine List.nodup_append.mpr ⟨distinct, by simp [named], ?_⟩
    intro earlier present new added same
    obtain ⟨other, member, otherNamed⟩ := List.mem_filterMap.mp present
    obtain rfl : new = membershipCommandId := by simpa [named] using added
    refine fresh other member (by rw [named]; rfl) ?_
    rw [named, otherNamed, same]

namespace Sequenced

variable (sequenced : group.Sequenced sequencerSigningKey)

include sequenced

/-- The epoch of the head counts the commits. -/
theorem parentOf_head : (parentOf group.head).1.toNat = group.commits.length := by
  rw [sequenced.head_eq, tip, List.getLast?_eq_getElem?]
  cases found : group.commits[group.commits.length - 1]? with
  | none =>
    have empty := List.getElem?_eq_none_iff.mp found
    have empty : group.commits.length = 0 := by omega
    rw [empty]
    rfl
  | some rows =>
    have within := (List.getElem?_eq_some_iff.mp found).1
    have epoch := sequenced.epochs _ _ found
    change rows.intent.admittedEpoch.toNat = _
    omega

theorem aside {saga : Saga} {others : List RequestId} (scope_eq : saga.policy.scope = group.scope)
    (apart : ∀ submissionId ∈ others,
      submissionId ∈ group.elsewhere ∨ group.commit? submissionId = none) :
    Sequenced sequencerSigningKey { group with saga, elsewhere := others } := by
  refine { sequenced with apart := ?_, receipts := ?_ }
  · intro rows member used
    rcases apart _ used with before | unused
    · exact sequenced.apart rows member before
    · exact commit?_eq_none_iff.mp unused rows member rfl
  · change ∀ rows ∈ group.commits, ∃ receipt, receiptFromRow saga.policy.scope _ _ _ = .ok receipt
    rw [scope_eq]
    exact sequenced.receipts

theorem confirmed (confirmation : MlsDeviceJoinConfirmation) :
    Sequenced sequencerSigningKey { group with
      devices := confirmedRows group.devices (confirmation.identityId, confirmation.deviceId)
      confirmations := group.confirmations ++ [confirmation] } := by
  refine { sequenced with leaves := ?_, removals := ?_ }
  · rw [← sequenced.leaves, confirmedRows, List.map_map]
    refine List.map_congr_left fun row _ => ?_
    simp only [Function.comp_apply]
    split <;> rfl
  · intro row member epoch ended
    obtain ⟨earlier, present, rfl⟩ := List.mem_map.mp member
    refine sequenced.removals earlier present epoch ?_
    split at ended <;> exact ended

section Admission

variable {command : MlsCommitCommand} {nowMs : Int64} {headDigest : Sha256Digest}
variable {revisions : Option (Revision × Revision)}

/-- A commit on the head is the next one. -/
theorem nextEpoch (current : group.checkHead command = .ok ()) :
    (command.expectedEpoch + 1).toNat = group.commits.length + 1 := by
  rw [toNat_nextEpoch, ← sequenced.parentOf_head, parentOf_of_checkHead current]

variable {devices : List DeviceRow} {stored : ReceiptRow}

/-- What a new leaf or a removal does to the device rows. -/
theorem leaves_changed (changed : LeavesChanged command group.devices devices) :
    devices.map (fun row => (row.leaf, row.admittedEpoch)) =
      ((group.commits ++ [(⟨writtenRow command headDigest revisions nowMs, stored⟩ :
        CommitRows)]).filter admitsLeaf).map fun rows =>
          (candidateLeaf rows.intent, rows.intent.admittedEpoch) := by
  rw [List.filter_append, List.map_append, ← sequenced.leaves]
  cases changed with
  | removed removal =>
    rw [List.filter_cons_of_neg (by rw [admitsLeaf_written, removal]; decide), removedRows,
      List.map_map, List.filter_nil, List.map_nil, List.append_nil]
    refine List.map_congr_left fun row _ => ?_
    simp only [Function.comp_apply]
    split <;> rfl
  | added addition fresh =>
    rw [List.filter_cons_of_pos (by rw [admitsLeaf_written, addition]; rfl), List.map_append]
    rfl

theorem admissions_changed (changed : LeavesChanged command group.devices devices) :
    (((group.commits ++ [(⟨writtenRow command headDigest revisions nowMs, stored⟩ :
      CommitRows)]).filter admitsLeaf).map fun rows => candidateLeaf rows.intent).Nodup := by
  rw [List.filter_append]
  cases changed with
  | removed removal =>
    rw [List.filter_cons_of_neg (by rw [admitsLeaf_written, removal]; decide), List.filter_nil,
      List.append_nil]
    exact sequenced.admissions
  | added addition fresh =>
    rw [List.filter_cons_of_pos (by rw [admitsLeaf_written, addition]; rfl), List.filter_nil]
    refine nodup_map_concat.mpr ⟨sequenced.admissions, fun rows present same => fresh ?_⟩
    -- the leaf of an earlier admission has its row
    have row : candidateLeaf rows.intent ∈ (group.devices.map fun row =>
        (row.leaf, row.admittedEpoch)).map Prod.fst := by
      rw [sequenced.leaves, List.map_map]
      exact List.mem_map.mpr ⟨rows, present, rfl⟩
    rw [List.map_map] at row
    rw [show (addedLeaf command).leaf = candidateLeaf rows.intent from same.symm]
    exact row

theorem removals_changed (current : group.checkHead command = .ok ())
    (changed : LeavesChanged command group.devices devices) :
    ∀ row ∈ devices, ∀ epoch, row.removedEpoch = some epoch →
      epoch.toNat ≤ group.commits.length + 1 := by
  intro row member epoch ended
  cases changed with
  | removed removal =>
    obtain ⟨earlier, present, rfl⟩ := List.mem_map.mp member
    split at ended
    next =>
      cases ended
      exact (sequenced.nextEpoch current).le
    next => exact (sequenced.removals earlier present epoch ended).trans (Nat.le_succ _)
  | added addition fresh =>
    rcases List.mem_append.mp member with earlier | new
    · exact (sequenced.removals row earlier epoch ended).trans (Nat.le_succ _)
    · cases List.mem_singleton.mp new
      cases ended

theorem admitted {saga : Saga} {receipt : MlsCommitReceipt}
    (scope_eq : saga.policy.scope = group.scope) (unused : command.submissionId ∉ group.elsewhere)
    (current : group.checkHead command = .ok ()) (fresh : ∀ rows ∈ group.commits,
      (writtenRow command headDigest revisions nowMs).clashes rows.intent = false)
    (loaded : receiptFromRow group.scope sequencerSigningKey
      (writtenRow command headDigest revisions nowMs) stored = .ok receipt)
    (changed : LeavesChanged command group.devices devices) :
    Sequenced sequencerSigningKey { group with
      saga
      head := some ⟨command.expectedEpoch + 1, headDigest⟩
      commits := group.commits ++ [⟨writtenRow command headDigest revisions nowMs, stored⟩]
      devices } where
  bounded := by
    rw [List.length_append, List.length_singleton, ← sequenced.nextEpoch current, toNat_nextEpoch]
    exact UInt64.lt_iff_toNat_lt.mp command.expectedEpoch_lt
  epochs := by
    intro index rows found
    rcases getElem?_concat_eq_some.mp found with earlier | ⟨rfl, rfl⟩
    · exact sequenced.epochs index rows earlier
    · exact sequenced.nextEpoch current
  parents := by
    intro index rows found
    rcases getElem?_concat_eq_some.mp found with earlier | ⟨rfl, rfl⟩
    · have within := (List.getElem?_eq_some_iff.mp earlier).1
      rw [List.take_append_of_le_length within.le]
      exact sequenced.parents index rows earlier
    · rw [List.take_left, ← sequenced.head_eq, parentOf_of_checkHead current]
      rfl
  head_eq := by rw [tip, List.getLast?_concat]; rfl
  submissions := nodup_map_concat.mpr ⟨sequenced.submissions, fun rows member =>
    (clashes_eq_false.mp (fresh rows member)).1.symm⟩
  digests := nodup_map_concat.mpr ⟨sequenced.digests, fun rows member =>
    (clashes_eq_false.mp (fresh rows member)).2.2.2.1.symm⟩
  approvals := approvals_concat sequenced.approvals fun rows member =>
    (clashes_eq_false.mp (fresh rows member)).2.2.2.2
  admissions := sequenced.admissions_changed changed
  leaves := sequenced.leaves_changed changed
  removals := by
    rw [List.length_append]
    exact sequenced.removals_changed current changed
  apart := forall_mem_concat.mpr ⟨sequenced.apart, unused⟩
  receipts := by
    change ∀ rows ∈ _, ∃ receipt, receiptFromRow saga.policy.scope _ _ _ = .ok receipt
    rw [scope_eq]
    exact forall_mem_concat.mpr ⟨sequenced.receipts, receipt, loaded⟩
  bytes := forall_mem_concat.mpr ⟨sequenced.bytes, command.commitDigest_eq.symm⟩

end Admission

theorem change (changed : Change sequencerSigningKey group after) :
    after.Sequenced sequencerSigningKey := by
  cases changed with
  | aside scope_eq apart => exact sequenced.aside scope_eq apart
  | confirmed confirmation => exact sequenced.confirmed confirmation
  | admitted scope_eq unused current _ fresh loaded changed =>
    exact sequenced.admitted scope_eq unused current fresh loaded changed

end Sequenced

/-- The invariant holds along every run. -/
theorem sequenced_of_reached
    (reached : Reached Unsequenced (Transacts sequencerSigningKey) group) :
    group.Sequenced sequencerSigningKey :=
  reached.invariant (Sequenced sequencerSigningKey) (fun _ => Unsequenced.sequenced)
    fun _ _ _ sequenced taken => sequenced.change (change_of_transacts taken)

/-! ## Leaves only move forward -/

/-- The moves of a leaf. -/
inductive LeafMove : MlsDeviceMemberState → MlsDeviceMemberState → Prop
  | confirmed : LeafMove .pendingConfirmation .active
  | removed : LeafMove .active .removed

/-- A leaf keeps its row and moves at most one state on; a new one waits for its
confirmation. -/
structure LeavesMove (before after : MlsGroup) : Prop where
  moves : ∀ identityId deviceId row, before.deviceRow? identityId deviceId = some row →
    ∃ later, after.deviceRow? identityId deviceId = some later ∧
      later.admittedEpoch = row.admittedEpoch ∧
      (later.state = row.state ∨ LeafMove row.state later.state)
  starts : ∀ identityId deviceId later, before.deviceRow? identityId deviceId = none →
    after.deviceRow? identityId deviceId = some later → later.state = .pendingConfirmation

omit [Sha256] in
/-- A change of single rows that keeps their leaf and moves their state on. -/
theorem leavesMove_of_map {change : DeviceRow → DeviceRow}
    (devices_eq : after.devices = group.devices.map change)
    (leaf_eq : ∀ row, (change row).leaf = row.leaf)
    (epoch_eq : ∀ row, (change row).admittedEpoch = row.admittedEpoch)
    (state_moves : ∀ row, (change row).state = row.state ∨ LeafMove row.state (change row).state) :
    LeavesMove group after := by
  have found (identityId : IdentityId) (deviceId : DeviceId) :
      after.deviceRow? identityId deviceId =
        (group.deviceRow? identityId deviceId).map change := by
    simp only [deviceRow?, devices_eq, List.find?_map, Function.comp_def, leaf_eq]
  constructor
  · intro identityId deviceId row present
    exact ⟨change row, by rw [found, present]; rfl, epoch_eq row, state_moves row⟩
  · intro identityId deviceId later absent present
    rw [found, absent] at present
    cases present

theorem leavesMove_of_leavesChanged (changed : LeavesChanged command group.devices after.devices) :
    LeavesMove group after := by
  generalize devices_eq : after.devices = devices at changed
  cases changed with
  | removed removal =>
    refine leavesMove_of_map devices_eq (fun row => ?_) (fun row => ?_) fun row => ?_
    · split <;> rfl
    · split <;> rfl
    · split
      next target => exact .inr (target.2 ▸ .removed)
      next => exact .inl rfl
  | added addition fresh =>
    have found (identityId : IdentityId) (deviceId : DeviceId) :
        after.deviceRow? identityId deviceId =
          (group.deviceRow? identityId deviceId).or
            ([addedLeaf command].find? fun row => row.leaf = (identityId, deviceId)) := by
      simp only [deviceRow?, devices_eq, List.find?_append]
    constructor
    · intro identityId deviceId row present
      exact ⟨row, by rw [found, present]; rfl, rfl, .inl rfl⟩
    · intro identityId deviceId later absent present
      rw [found, absent, Option.none_or] at present
      cases List.mem_singleton.mp (List.mem_of_find?_eq_some present)
      rfl

theorem Change.leavesMove (changed : Change sequencerSigningKey group after) :
    LeavesMove group after := by
  cases changed with
  | aside =>
    refine leavesMove_of_map (List.map_id _).symm (fun _ => rfl) (fun _ => rfl) fun _ => .inl rfl
  | confirmed confirmation =>
    refine leavesMove_of_map rfl (fun row => ?_) (fun row => ?_) fun row => ?_
    · split <;> rfl
    · split <;> rfl
    · split
      next target => exact .inr (target.2 ▸ .confirmed)
      next => exact .inl rfl
  | admitted _ _ _ _ _ _ changed => exact leavesMove_of_leavesChanged changed

/-! ## Receipts are kept -/

/-- The later group has the same scope and all commits of the earlier one. -/
def Kept (before later : MlsGroup) : Prop :=
  later.scope = before.scope ∧ before.commits <+: later.commits

theorem Change.kept (changed : Change sequencerSigningKey group after) : Kept group after := by
  cases changed with
  | aside scope_eq => exact ⟨scope_eq, List.prefix_rfl⟩
  | confirmed => exact ⟨rfl, List.prefix_rfl⟩
  | admitted scope_eq => exact ⟨scope_eq, List.prefix_append _ _⟩

theorem kept_of_reachedFrom {later : MlsGroup}
    (further : ReachedFrom group (Transacts sequencerSigningKey) later) : Kept group later := by
  refine further.invariant (Kept group) ?_ ?_
  · rintro _ rfl
    exact ⟨rfl, List.prefix_rfl⟩
  · intro middle call next kept taken
    have step := (change_of_transacts taken).kept
    exact ⟨step.1.trans kept.1, kept.2.trans step.2⟩

omit [Sha256] in
theorem Kept.commit? {later : MlsGroup} (kept : Kept group later) {rows : CommitRows}
    (found : group.commit? submissionId = some rows) : later.commit? submissionId = some rows := by
  obtain ⟨more, commits_eq⟩ := kept.2
  rw [MlsGroup.commit?, ← commits_eq, List.find?_append]
  rw [MlsGroup.commit?] at found
  rw [found, Option.some_or]

theorem loadReceipt_eq_some {receipt : MlsCommitReceipt} :
    group.loadReceipt group.scope submissionId sequencerSigningKey = .ok (some receipt) ↔
      ∃ rows, group.commit? submissionId = some rows ∧
        receiptFromRow group.scope sequencerSigningKey rows.intent rows.stored = .ok receipt := by
  rw [loadReceipt, if_pos rfl]
  cases group.commit? submissionId with
  | none => simp
  | some rows => simp [map_eq_ok]

theorem receiptFromRow_fields {scope : GroupScope} {row : IntentRow} {stored : ReceiptRow}
    {receipt : MlsCommitReceipt}
    (built : receiptFromRow scope sequencerSigningKey row stored = .ok receipt) :
    receipt.submissionId = row.submissionId ∧ receipt.requestDigest = row.requestDigest ∧
      receipt.protocolVersion = row.protocolVersion ∧
      receipt.admittedEpoch = row.admittedEpoch ∧ receipt.commitDigest = row.commitDigest := by
  simp only [receiptFromRow, bind_eq_ok, rejectIf_eq_ok, exists_const, pure_eq_ok] at built
  obtain ⟨-, -, _, -, _, -, -, -, _, -, rfl⟩ := built
  exact ⟨rfl, rfl, rfl, rfl, rfl⟩

/-- The receipt that a submission returned can be loaded and is returned again for as
long as the group exists. -/
structure Lasting (sequencerSigningKey : SigningPublicKey) (command : MlsCommitCommand)
    (execution : MlsCommitExecution) (after : MlsGroup) : Prop where
  names : execution.replayed = false → execution.receipt.submissionId = command.submissionId
  loads : ∀ later, ReachedFrom after (Transacts sequencerSigningKey) later →
    later.loadReceipt command.scope execution.receipt.submissionId sequencerSigningKey =
      .ok (some execution.receipt)
  replays : execution.receipt.submissionId = command.submissionId →
    ∀ later, ReachedFrom after (Transacts sequencerSigningKey) later →
      ∀ nowMs verifyCandidateProof verifyAuthorizationProof signReceipt,
        later.submitInTransaction command nowMs sequencerSigningKey verifyCandidateProof
          verifyAuthorizationProof signReceipt = .ok (⟨execution.receipt, true⟩, later)

/-- The rows that a returned receipt was built from. -/
theorem Submitted.rows {command : MlsCommitCommand} {nowMs : Int64}
    {execution : MlsCommitExecution}
    (submitted : Submitted sequencerSigningKey group command nowMs execution after) :
    ∃ rows, after.commit? execution.receipt.submissionId = some rows ∧
      receiptFromRow after.scope sequencerSigningKey rows.intent rows.stored =
        .ok execution.receipt ∧
      execution.receipt.requestDigest = command.requestDigest ∧
      (execution.replayed = false → execution.receipt.submissionId = command.submissionId) := by
  cases submitted with
  | replayed submissionId loaded same =>
    obtain ⟨rows, found, built⟩ := loadReceipt_eq_some.mp loaded
    have named := (receiptFromRow_fields built).1
    have key : rows.intent.submissionId = submissionId := by
      simpa using List.find?_some found
    refine ⟨rows, ?_, built, same, fun impossible => by cases impossible⟩
    rw [named, key]
    exact found
  | @admitted headDigest revisions policy stored devices receipt scope_eq unused _ current revised
      valid fresh removed loaded changed =>
      obtain ⟨named, requested, -⟩ := receiptFromRow_fields loaded
      have named : receipt.submissionId = command.submissionId := named
      have absent : group.commit? command.submissionId = none := by
        refine commit?_eq_none_iff.mpr fun rows member same => ?_
        exact (clashes_eq_false.mp (fresh rows member)).1 same.symm
      refine ⟨⟨writtenRow command headDigest revisions nowMs, stored⟩, ?_, ?_, requested,
        fun _ => named⟩
      · rw [commit?] at absent ⊢
        rw [named, withCommit, List.find?_append, absent, Option.none_or]
        simp [writtenRow, intentRow]
      · have kept : (group.withCommit policy (writtenRow command headDigest revisions nowMs) stored
            devices).scope = group.scope := (removeGroupMember_policyStep revised removed).scope_eq
        rw [kept]
        exact loaded

theorem lasting_of_submitted (scope_eq : command.scope = after.scope)
    (submitted : Submitted sequencerSigningKey group command nowMs execution after)
    (apart : ∀ later, ReachedFrom after (Transacts sequencerSigningKey) later →
      later.Sequenced sequencerSigningKey) :
    Lasting sequencerSigningKey command execution after := by
  obtain ⟨rows, found, built, same, named⟩ := submitted.rows
  have loads (later : MlsGroup)
      (further : ReachedFrom after (Transacts sequencerSigningKey) later) :
      later.loadReceipt later.scope execution.receipt.submissionId sequencerSigningKey =
        .ok (some execution.receipt) := by
    have kept := kept_of_reachedFrom further
    refine loadReceipt_eq_some.mpr ⟨rows, kept.commit? found, ?_⟩
    rw [kept.1]
    exact built
  refine ⟨named, fun later further => ?_, fun sameId later further => ?_⟩
  · rw [scope_eq, ← (kept_of_reachedFrom further).1]
    exact loads later further
  · intro nowMs verifyCandidateProof verifyAuthorizationProof signReceipt
    have kept := kept_of_reachedFrom further
    have scope_later : command.scope = later.scope := scope_eq.trans kept.1.symm
    have unused : command.submissionId ∉ later.elsewhere := by
      have present := kept.commit? found
      rw [sameId] at present
      have key : rows.intent.submissionId = command.submissionId := by
        simpa using List.find?_some present
      rw [← key]
      exact (apart later further).apart rows (List.mem_of_find?_eq_some present)
    have loaded := loads later further
    rw [sameId] at loaded
    simp only [submitInTransaction, loadExistingSubmission, scope_later, rejectIf_neg, unused,
      not_false_eq_true, ne_eq, not_true_eq_false, ok_bind, loaded]
    rw [replayOrConflict_eq_ok.mpr ⟨same, rfl⟩]
    rfl

theorem transacts_of_submitted {verifyCandidateProof verifyAuthorizationProof :
      MlsCommitCommand → Except GroupPersistenceError Unit}
    {signReceipt : List UInt8 → Except GroupPersistenceError Ed25519Signature}
    (done : group.submitInTransaction command nowMs sequencerSigningKey verifyCandidateProof
      verifyAuthorizationProof signReceipt = .ok (execution, after)) :
    group.Transacts sequencerSigningKey (.submit command nowMs verifyCandidateProof
      verifyAuthorizationProof signReceipt) after := by
  simp only [Transacts, transact, done]
  rfl

/-- In every run the commits of a group are one chain of epochs from the zero head to
the stored one, under distinct submissions, commits and approvals; every device has at
most one admission and its leaf only moves forward; and the receipt of a submission is
loaded and replayed unchanged ever after. -/
theorem sequencer_history_sound
    (reached : Reached Unsequenced (Transacts sequencerSigningKey) group) :
    group.Sequenced sequencerSigningKey ∧
      (∀ call after, group.Transacts sequencerSigningKey call after → LeavesMove group after) ∧
      ∀ command nowMs verifyCandidateProof verifyAuthorizationProof signReceipt execution after,
        group.submitInTransaction command nowMs sequencerSigningKey verifyCandidateProof
          verifyAuthorizationProof signReceipt = .ok (execution, after) →
        Lasting sequencerSigningKey command execution after := by
  refine ⟨sequenced_of_reached reached, fun call after taken =>
    (change_of_transacts taken).leavesMove, ?_⟩
  intro command nowMs verifyCandidateProof verifyAuthorizationProof signReceipt execution after done
  have submitted := submitted_of_eq_ok done
  have taken := transacts_of_submitted done
  have scope_eq : command.scope = group.scope := by
    simp only [submitInTransaction, bind_eq_ok, rejectIf_eq_ok, exists_const, ne_eq, not_not]
      at done
    exact done.1
  refine lasting_of_submitted ?_ submitted fun later further => ?_
  · rw [scope_eq, (change_of_transacts taken).kept.1]
  · exact sequenced_of_reached ((reached.next _ taken).extend further)

/-! ### A group of the owner's devices -/

theorem transacts_settle (commits : (group.transact sequencerSigningKey call).isOk = true) :
    group.Transacts sequencerSigningKey call (group.settle sequencerSigningKey call) := by
  unfold Transacts settle
  cases done : group.transact sequencerSigningKey call with
  | ok next => rfl
  | error failure => simp [done, Except.isOk, Except.toBool] at commits

theorem settle_of_transacts (taken : group.Transacts sequencerSigningKey call after) :
    group.settle sequencerSigningKey call = after := by
  unfold Transacts at taken
  rw [settle, taken]

end MlsGroup

section Samples

open Identity

attribute [local instance] openEd25519 countingSha256

def sampleDigest (tag : UInt8) : Sha256Digest := ⟨taggedBytes tag⟩

/-- A commit of the owner's first device about one of the owner's devices. -/
def sampleFacts (protocolVersion tag device : UInt8) (expectedEpoch : UInt64)
    (expectedHead : Sha256Digest) (authorization : MlsCommitAuthorization) : MlsCommitFacts where
  protocolVersion
  submissionId := .tagged tag
  scope := sampleGroup.scope
  actorIdentityId := .tagged 0
  actorDeviceId := .tagged 1
  candidateIdentityId := .tagged 0
  candidateDeviceId := .tagged device
  candidateKeyPackageDigest := sampleDigest 1
  candidateProofDigest := zeroDigest
  idempotencyKeyHash := sampleDigest tag
  expectedEpoch
  expectedHead
  commitBytes := List.replicate tag.toNat 0
  commitDigest := mlsOpaqueCommitDigest (List.replicate tag.toNat 0)
  welcomeDigest := sampleDigest 1
  authorization

def sequencerKey : SigningPublicKey := sampleKey 9

def openGroup : MlsGroup := ⟨.bootstrapped sampleGroup, none, [], [], [], []⟩

def bootstrapCommand : MlsCommitCommand :=
  (sampleFacts 2 1 1 0 zeroDigest .ownerBootstrap).command (by decide) rfl (by decide)

def bootstrapCall : MlsCall := .submitV2 bootstrapCommand 0 fun _ => .ok sampleSignature

def ownedGroup : MlsGroup := openGroup.settle sequencerKey bootstrapCall

theorem ownedGroup_reached :
    Reached MlsGroup.Unsequenced (MlsGroup.Transacts sequencerKey) ownedGroup :=
  .next bootstrapCall (.initial ⟨rfl, rfl, rfl⟩) (MlsGroup.transacts_settle (by decide +kernel))

/-- The head digest that the next commit builds on. -/
def headDigestOf (group : MlsGroup) : Sha256Digest := group.head.elim zeroDigest (·.headDigest)

/-- The confirmation of the commit with the given tag by a device of the owner. -/
def confirmationOf (group : MlsGroup) (tag device : UInt8) : MlsDeviceJoinConfirmation where
  submissionId := .tagged tag
  identityId := .tagged 0
  deviceId := .tagged device
  receiptDigest := (group.commit? (.tagged tag)).elim zeroDigest (·.stored.receiptDigest)
  headDigest := (group.commit? (.tagged tag)).elim zeroDigest (·.intent.resultHeadDigest)
  signature := sampleSignature

def confirmCall : MlsCall := .confirm (confirmationOf ownedGroup 1 1) 0 (sampleKey 3)

/-- The owner's first device is active. -/
def readyGroup : MlsGroup := ownedGroup.settle sequencerKey confirmCall

/-- The second device, added by version 2. -/
def addCommand : MlsCommitCommand :=
  (sampleFacts 2 2 2 1 (headDigestOf readyGroup)
    (.existingMemberDeviceAdd (.tagged 1) (sampleDigest 1))).command (by decide) rfl (by decide)

def addCall : MlsCall := .submitV2 addCommand 0 fun _ => .ok sampleSignature

def pairedGroup : MlsGroup := readyGroup.settle sequencerKey addCall

/-- A third device, added by version 5 on the given group. -/
def recoveryCommand (group : MlsGroup) (epoch : UInt64) (small : epoch < maxEpoch) :
    MlsCommitCommand :=
  (sampleFacts 5 3 3 epoch (headDigestOf group) (.existingMemberDeviceRecoveryAdd (.tagged 1)
    (sampleDigest 1) (.tagged 1) (sampleDigest 1) (sampleDigest 1))).command
    (show 0 < 3 ∧ 3 ≤ maxCommitBytes by decide) rfl small

def recoveryCall (group : MlsGroup) (epoch : UInt64) (small : epoch < maxEpoch) : MlsCall :=
  .submit (recoveryCommand group epoch small) 0 (fun _ => .ok ()) (fun _ => .ok ())
    fun _ => .ok sampleSignature

/-- The third device is added after the second. -/
def tripleCommand : MlsCommitCommand := recoveryCommand pairedGroup 2 (by decide)

def tripleGroup : MlsGroup :=
  pairedGroup.settle sequencerKey (recoveryCall pairedGroup 2 (by decide))

-- evaluated at once, since the groups build on each other
theorem sampleGroups_evaluated :
    (ownedGroup.transact sequencerKey confirmCall).isOk = true ∧
      (readyGroup.transact sequencerKey addCall).isOk = true ∧
      (pairedGroup.submitInTransaction tripleCommand 0 sequencerKey (fun _ => .ok ())
        (fun _ => .ok ()) fun _ => .ok sampleSignature).toOption.map (·.1.replayed) = some false ∧
      tripleGroup.commits.length = 3 := by
  decide +kernel

theorem sampleGroups_reached :
    Reached MlsGroup.Unsequenced (MlsGroup.Transacts sequencerKey) readyGroup ∧
      Reached MlsGroup.Unsequenced (MlsGroup.Transacts sequencerKey) pairedGroup := by
  obtain ⟨confirms, adds, -⟩ := sampleGroups_evaluated
  have ready := ownedGroup_reached.next confirmCall (MlsGroup.transacts_settle confirms)
  exact ⟨ready, ready.next addCall (MlsGroup.transacts_settle adds)⟩

/-- Three commits, the last of which is replayed whatever follows. -/
theorem tripleGroup_sequenced :
    tripleGroup.commits.length = 3 ∧ tripleGroup.Sequenced sequencerKey ∧
      ∃ receipt, ∀ later, ReachedFrom tripleGroup (MlsGroup.Transacts sequencerKey) later →
        later.submitInTransaction tripleCommand 7 sequencerKey (fun _ => .ok ())
          (fun _ => .ok ()) (fun _ => .ok sampleSignature) = .ok (⟨receipt, true⟩, later) := by
  obtain ⟨-, paired⟩ := sampleGroups_reached
  obtain ⟨-, -, submits, three⟩ := sampleGroups_evaluated
  cases submitted : pairedGroup.submitInTransaction tripleCommand 0 sequencerKey (fun _ => .ok ())
      (fun _ => .ok ()) fun _ => .ok sampleSignature with
  | error failure => simp [submitted, Except.toOption] at submits
  | ok done =>
    obtain ⟨execution, after⟩ := done
    have new : execution.replayed = false := by
      simpa [submitted, Except.toOption] using submits
    have taken : pairedGroup.Transacts sequencerKey (recoveryCall pairedGroup 2 (by decide))
        after :=
      MlsGroup.transacts_of_submitted submitted
    have same : tripleGroup = after := MlsGroup.settle_of_transacts taken
    have lasting := (MlsGroup.sequencer_history_sound paired).2.2 _ _ _ _ _ _ _ submitted
    refine ⟨three, ?_, execution.receipt, ?_⟩
    · rw [same]
      exact (MlsGroup.sequencer_history_sound (paired.next _ taken)).1
    · rw [same]
      exact fun later further => lasting.replays (lasting.names new) later further _ _ _ _

end Samples

end Dirextalk.Mls
