import Dirextalk.Mls.Sequencer

/-!
# What a submission does

A submission that commits either returns a stored receipt and changes nothing, or
writes one new intent with its receipt.  The receipt it returns is the one that
can be built again from the rows it has written.
-/

namespace Dirextalk.Mls

open Domain Dirextalk.Group Lib Persistence Wire

/-! ## Valid rows -/

namespace IntentRow

variable {row : IntentRow}

theorem version_of_valid (valid : row.valid = true) :
    2 ≤ row.protocolVersion ∧ row.protocolVersion ≤ 5 := by
  simp only [IntentRow.valid, versionedBindingsValid, Bool.decide_and, Bool.and_eq_true,
    decide_eq_true_eq, Bool.decide_or, Bool.or_eq_true] at valid
  obtain ⟨-, bindings, -⟩ := valid
  rcases bindings with h | h | h | h | h <;> rw [h.1] <;> decide

/-- The revisions are those of a removal, which is the fourth version. -/
theorem removalRevisions_of_valid (valid : row.valid = true)
    {revisions : Option (Revision × Revision)}
    (expected : row.expectedPolicyRevision = revisions.map Prod.fst)
    (result : row.resultPolicyRevision = revisions.map Prod.snd) :
    removalRevisions row.protocolVersion row.expectedPolicyRevision row.resultPolicyRevision =
      .ok revisions := by
  simp only [IntentRow.valid, versionedBindingsValid, Bool.decide_and, Bool.and_eq_true,
    decide_eq_true_eq, Bool.decide_or, Bool.or_eq_true] at valid
  obtain ⟨-, bindings, -⟩ := valid
  rw [expected, result] at bindings ⊢
  cases revisions with
  | none =>
    rcases bindings with h | h | h | h | h <;> simp_all [removalRevisions]
  | some pair =>
    rcases bindings with h | h | h | h | h <;> simp_all [removalRevisions]

end IntentRow

namespace MlsGroup

section Receipts

variable [Sha256] [Ed25519] {command : MlsCommitCommand} {sequencerSigningKey : SigningPublicKey}
variable {signReceipt : List UInt8 → Except GroupPersistenceError Ed25519Signature}

theorem insertReceipt_eq_ok {canonicalCbor : List UInt8} {stored : ReceiptRow}
    (inserted : insertReceipt command canonicalCbor sequencerSigningKey signReceipt = .ok stored) :
    stored.receiptCbor = canonicalCbor ∧
      stored.receiptDigest =
        .hashDomain (receiptDigestDomain command.protocolVersion) canonicalCbor ∧
      stored.signingPublicKey = sequencerSigningKey ∧
      verifySignature sequencerSigningKey
        (receiptSignatureInput command.protocolVersion stored.receiptDigest) stored.signature =
          .ok () := by
  simp only [insertReceipt, bind_eq_ok, rejectIf_eq_ok, exists_const, pure_eq_ok] at inserted
  obtain ⟨signature, -, _, verified, -, rfl⟩ := inserted
  exact ⟨rfl, rfl, rfl, verified⟩

omit [Sha256] [Ed25519] in
theorem columns_digests (authorization : MlsCommitAuthorization) :
    authorization.columns.joinRequestDigest = authorization.joinRequestDigest? ∧
      authorization.columns.approvalRequestDigest = authorization.approvalRequestDigest? ∧
      authorization.columns.membershipCommandId = authorization.membershipCommandId? := by
  cases authorization <;> exact ⟨rfl, rfl, rfl⟩

/-- The receipt of a submission is built again from the rows that it stores. -/
theorem receiptFromRow_of_inserted {admittedEpoch : UInt64} {headDigest : Sha256Digest}
    {revisions : Option (Revision × Revision)} {nowMs : Int64} {canonicalCbor : List UInt8}
    {stored : ReceiptRow}
    (valid : (intentRow command admittedEpoch headDigest revisions nowMs).valid = true)
    (encoded : receiptCbor command admittedEpoch headDigest revisions = .ok canonicalCbor)
    (inserted : insertReceipt command canonicalCbor sequencerSigningKey signReceipt = .ok stored) :
    receiptFromRow command.scope sequencerSigningKey
      (intentRow command admittedEpoch headDigest revisions nowMs) stored = .ok
        { command with
          admittedEpoch
          headDigest
          joinRequestDigest := command.authorization.joinRequestDigest?
          approvalRequestDigest := command.authorization.approvalRequestDigest?
          removalPolicyRevisions := revisions
          canonicalCbor
          receiptDigest := stored.receiptDigest
          signingPublicKey := sequencerSigningKey
          signature := stored.signature } := by
  obtain ⟨cbor, digest, signer, verified⟩ := insertReceipt_eq_ok inserted
  obtain ⟨join, approval, -⟩ := columns_digests command.authorization
  have encoded : receiptCborFacts command.protocolVersion command.submissionId command.scope
      command.requestDigest admittedEpoch headDigest command.commitDigest command.welcomeDigest
      command.candidateIdentityId command.candidateDeviceId command.candidateKeyPackageDigest
      command.authorization.columns.joinRequestDigest
      command.authorization.columns.approvalRequestDigest revisions = .ok canonicalCbor := by
    rw [join, approval]
    exact encoded
  simp only [receiptFromRow, bind_eq_ok, rejectIf_eq_ok, exists_const, pure_eq_ok, not_not, ne_eq]
  refine ⟨signer, IntentRow.version_of_valid valid, revisions,
    IntentRow.removalRevisions_of_valid valid rfl rfl, canonicalCbor, encoded, cbor,
    by rw [cbor]; exact digest, (), by rw [signer]; exact verified, ?_⟩
  rw [cbor, signer, ← join, ← approval]
  rfl

end Receipts

/-! ## The outcome of a submission -/

section Outcome

variable [Sha256] [Ed25519]

/-- The group after a commit was written. -/
def withCommit (group : MlsGroup) (policy : GroupPolicy) (row : IntentRow) (stored : ReceiptRow)
    (devices : List DeviceRow) : MlsGroup :=
  { group with
    saga := { group.saga with policy }
    head := some ⟨row.admittedEpoch, row.resultHeadDigest⟩
    commits := group.commits ++ [⟨row, stored⟩]
    devices }

/-- The row that a command is written as. -/
abbrev writtenRow (command : MlsCommitCommand) (headDigest : Sha256Digest)
    (revisions : Option (Revision × Revision)) (nowMs : Int64) : IntentRow :=
  intentRow command (command.expectedEpoch + 1) headDigest revisions nowMs

/-- What a submission that succeeds has done. -/
inductive Submitted (sequencerSigningKey : SigningPublicKey) (group : MlsGroup)
    (command : MlsCommitCommand) (nowMs : Int64) : MlsCommitExecution → MlsGroup → Prop
  | replayed {receipt : MlsCommitReceipt} (submissionId : RequestId)
      (loaded : group.loadReceipt group.scope submissionId sequencerSigningKey =
        .ok (some receipt))
      (same : receipt.requestDigest = command.requestDigest) :
      Submitted sequencerSigningKey group command nowMs ⟨receipt, true⟩ group
  | admitted {headDigest : Sha256Digest} {revisions : Option (Revision × Revision)}
      {policy : GroupPolicy} {stored : ReceiptRow} {devices : List DeviceRow}
      {receipt : MlsCommitReceipt} (scope_eq : command.scope = group.scope)
      (unused : command.submissionId ∉ group.elsewhere)
      (authorized : group.authorize command = .ok ()) (current : group.checkHead command = .ok ())
      (revised : removalPolicyRevisions command = .ok revisions)
      (valid : (writtenRow command headDigest revisions nowMs).valid = true)
      (fresh : ∀ rows ∈ group.commits,
        (writtenRow command headDigest revisions nowMs).clashes rows.intent = false)
      (removed : group.removeGroupMember command revisions = .ok policy)
      (loaded : receiptFromRow group.scope sequencerSigningKey
        (writtenRow command headDigest revisions nowMs) stored = .ok receipt)
      (changed : group.updateDevices command (command.expectedEpoch + 1) = .ok devices) :
      Submitted sequencerSigningKey group command nowMs ⟨receipt, false⟩
        (group.withCommit policy (writtenRow command headDigest revisions nowMs) stored devices)

variable {sequencerSigningKey : SigningPublicKey} {group after : MlsGroup}
variable {command : MlsCommitCommand} {nowMs : Int64} {execution : MlsCommitExecution}
variable {signReceipt : List UInt8 → Except GroupPersistenceError Ed25519Signature}

theorem replayOrConflict_eq_ok {existing : MlsCommitReceipt} :
    replayOrConflict existing command = .ok execution ↔
      existing.requestDigest = command.requestDigest ∧ ⟨existing, true⟩ = execution := by
  simp only [replayOrConflict, bind_eq_ok, rejectIf_eq_ok, exists_const, pure_eq_ok, ne_eq, not_not]

theorem submitted_of_admit (scope_eq : command.scope = group.scope)
    (unused : command.submissionId ∉ group.elsewhere)
    (authorized : group.authorize command = .ok ()) (current : group.checkHead command = .ok ())
    (done : group.admitCommit command nowMs sequencerSigningKey signReceipt =
      .ok (execution, after)) :
    Submitted sequencerSigningKey group command nowMs execution after := by
  simp only [admitCommit, insertIntent, bind_eq_ok, rejectIf_eq_ok, exists_const, pure_eq_ok,
    Prod.mk.injEq, Bool.not_eq_false, Bool.not_eq_true, List.any_eq_false] at done
  obtain ⟨headDigest, -, revisions, revised, ⟨valid, fresh⟩, policy, removed, canonicalCbor,
    encoded, stored, inserted, devices, changed, rfl, rfl⟩ := done
  refine .admitted scope_eq unused authorized current revised valid fresh removed ?_ changed
  rw [← scope_eq]
  exact receiptFromRow_of_inserted valid encoded inserted

/-- A submission that commits has one of the two outcomes. -/
theorem submitted_of_eq_ok {verifyCandidateProof verifyAuthorizationProof :
      MlsCommitCommand → Except GroupPersistenceError Unit}
    (done : group.submitInTransaction command nowMs sequencerSigningKey verifyCandidateProof
      verifyAuthorizationProof signReceipt = .ok (execution, after)) :
    Submitted sequencerSigningKey group command nowMs execution after := by
  simp only [submitInTransaction, loadExistingSubmission, bind_eq_ok, rejectIf_eq_ok, exists_const,
    ne_eq, not_not] at done
  obtain ⟨scope_eq, existing, ⟨unused, loaded⟩, done⟩ := done
  rw [scope_eq] at loaded
  cases existing with
  | some existing =>
    simp only [bind_eq_ok, replayOrConflict_eq_ok, pure_eq_ok, Prod.mk.injEq] at done
    obtain ⟨_, ⟨same, rfl⟩, rfl, rfl⟩ := done
    exact .replayed _ loaded same
  | none =>
    simp only [bind_eq_ok] at done
    obtain ⟨existing, byKey, done⟩ := done
    cases existing with
    | some existing =>
      simp only [bind_eq_ok, replayOrConflict_eq_ok, pure_eq_ok, Prod.mk.injEq] at done
      obtain ⟨_, ⟨same, rfl⟩, rfl, rfl⟩ := done
      unfold loadExistingIdempotency at byKey
      split at byKey
      next => cases byKey
      next rows _ =>
        rw [scope_eq] at byKey
        exact .replayed _ byKey same
    | none =>
      simp only [bind_eq_ok, rejectIf_eq_ok, exists_const] at done
      obtain ⟨-, -, _, -, _, -, _, authorized, _, current, done⟩ := done
      exact submitted_of_admit scope_eq unused authorized current done

end Outcome

end MlsGroup

end Dirextalk.Mls
