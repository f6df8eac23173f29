import Dirextalk.Membership.Book
import Dirextalk.Persistence.Errors

/-!
# The join saga of one group

The transactions that advance the policy, the command book and the sequencer
outbox of one group together.  Each either commits all it has written or, on any
error, leaves the group as it was.
-/

namespace Dirextalk.Persistence

open Domain Dirextalk.Group Lib Dirextalk.Membership Wire

open GroupPersistenceError

/-! ## The outbox -/

/-- The action a row of `groups.sequencer_outbox` calls for. -/
inductive OutboxAction where
  | submit
  | query
  deriving DecidableEq, Repr

/-- The token of one lease of an outbox row. -/
structure SequencerActionLease where
  token : FixedBytes 16
  deriving DecidableEq

/-- A row of `groups.sequencer_outbox`, under its command id. -/
structure OutboxRow where
  requestId : JoinRequestId
  action : OutboxAction
  active : Bool
  availableAtMs : Int64
  attemptCount : Nat
  leasedAction : Option OutboxAction
  lease : Option SequencerActionLease
  leaseExpiresAtMs : Option Int64
  completedAtMs : Option Int64
  deriving DecidableEq

/-- The rows of the outbox by their commands. -/
abbrev Outbox := TreeMap MembershipCommandId OutboxRow

namespace Outbox

variable (outbox : Outbox) (commandId : MembershipCommandId)

/-- Inserts an active row; an existing row of the command is an error. -/
def insertOutbox (requestId : JoinRequestId) (action : OutboxAction) (nowMs : Int64) :
    Except GroupPersistenceError Outbox := do
  rejectIf (commandId ∈ outbox) (corruptData "duplicate membership outbox")
  return outbox.insert commandId
    { requestId, action, active := true, availableAtMs := nowMs, attemptCount := 0
      leasedAction := none, lease := none, leaseExpiresAtMs := none, completedAtMs := none }

/-- `UPDATE … WHERE command_id = … AND state = 'active' AND …`, of exactly one row. -/
def updateActive (condition : OutboxRow → Bool) (change : OutboxRow → OutboxRow) :
    Except GroupPersistenceError Outbox :=
  match outbox[commandId]? with
  | some row =>
      if row.active ∧ condition row then .ok (outbox.insert commandId (change row))
      else .error leaseLost
  | none => .error leaseLost

/-- Leases the row to a worker. -/
def updateOutboxClaim (action leasedAction : OutboxAction) (lease : SequencerActionLease)
    (leaseExpiresAtMs nowMs : Int64) : Except GroupPersistenceError Outbox :=
  outbox.updateActive commandId (fun _ => true) fun row =>
    { row with
      action
      leasedAction := some leasedAction
      lease := some lease
      leaseExpiresAtMs := some leaseExpiresAtMs
      attemptCount := row.attemptCount + 1
      availableAtMs := nowMs }

def completed (nowMs : Int64) (row : OutboxRow) : OutboxRow :=
  { row with
    active := false
    completedAtMs := some nowMs
    leasedAction := none
    lease := none
    leaseExpiresAtMs := none }

/-- Ends the row for the worker that holds it. -/
def completeOutbox (lease : SequencerActionLease) (nowMs : Int64) :
    Except GroupPersistenceError Outbox :=
  outbox.updateActive commandId (fun row => row.lease = some lease) (completed nowMs)

def completeUnleasedOutbox (nowMs : Int64) : Except GroupPersistenceError Outbox :=
  outbox.updateActive commandId (fun _ => true) (completed nowMs)

/-- Gives the row back with the action that comes next. -/
def releaseOutboxForRecovery (lease : SequencerActionLease) (action : OutboxAction)
    (nowMs : Int64) : Except GroupPersistenceError Outbox :=
  outbox.updateActive commandId (fun row => row.lease = some lease) fun row =>
    { row with
      action
      availableAtMs := nowMs
      leasedAction := none
      lease := none
      leaseExpiresAtMs := none }

end Outbox

/-- The rows that `lock_next_outbox` may lock. -/
def OutboxRow.available (row : OutboxRow) (nowMs : Int64) : Bool :=
  row.active ∧ row.availableAtMs ≤ nowMs ∧
    row.leaseExpiresAtMs.all fun expiry => expiry ≤ nowMs

/-- The column that an action is stored as. -/
def actionCode : SequencerAction → OutboxAction
  | .submit _ => .submit
  | .query _ => .query

/-! ## Transactions -/

/-- The durable state of one group. -/
structure Saga where
  policy : GroupPolicy
  book : MembershipCommandBook
  outbox : Outbox

/-- The policy errors that a command is definitively rejected for. -/
def localPolicyRejection : GroupPolicyError → Option MembershipRejection
  | .revisionConflict .. => some .staleFence
  | .unauthorized | .inviteRevoked | .inviteExpired | .inviteIssuerNoLongerAuthorized =>
      some .policyDenied
  | .counterExhausted | .reservationInvariantViolation => none
  | .ownerCannotBeAdmin | .ownerCannotBeRemoved | .alreadyAdmin | .notAdmin | .adminLimitReached
  | .inviteAlreadyExists | .invalidInviteUseLimit | .invalidInviteExpiry | .inviteNotFound
  | .inviteAlreadyRevoked | .alreadyMember | .memberNotFound | .joinRequestAlreadyPending
  | .candidateJoinInFlight | .pendingJoinNotFound | .alreadyApproved | .joinAlreadyReserved
  | .reservedJoinNotFound | .inviteTargetMismatch | .inviteUseLimitReached =>
      some .admissionDenied

/-- The receipt of a command, and whether it was already there. -/
structure MembershipCommandExecution where
  receipt : MembershipReceipt
  replayed : Bool

/-- The outcome of an operation of the book or the policy inside a transaction. -/
def committing {α ε σ : Type} (convert : ε → GroupPersistenceError) :
    Except ε α × σ → Except GroupPersistenceError (α × σ)
  | (.ok value, after) => .ok (value, after)
  | (.error error, _) => .error (convert error)

theorem committing_eq_ok {α ε σ : Type} {convert : ε → GroupPersistenceError}
    {outcome : Except ε α × σ} {value : α} {after : σ} :
    committing convert outcome = .ok (value, after) ↔ outcome = (.ok value, after) := by
  rcases outcome with ⟨_ | result, state⟩ <;> simp [committing]

namespace Saga

section Commands

variable [Sha256] (saga : Saga)

/-- Records the request and lets the policy decide about a new one. -/
def requestJoinInTransaction (command : JoinRequestCommand)
    (candidateMembership : CandidateMembership) (nowMs : Int64) :
    Except GroupPersistenceError (MembershipCommandExecution × Saga) := do
  let context := command.context
  rejectIf (context.scope ≠ saga.policy.scope) groupNotFound
  let hadExactCommand := (saga.book.receiptFor context.commandId).isOk
  let (receipt, book) ←
    committing membershipCommand (saga.book.recordJoinRequest command candidateMembership)
  if hadExactCommand ∨ receipt.commandId ≠ context.commandId then
    return ({ receipt, replayed := true }, saga)
  else
    match receipt.phase with
    | .committed _ => return ({ receipt, replayed := false }, { saga with book })
    | _ =>
        match saga.policy.requestJoin context.fence.policyRevision context.actorIdentityId
            context.candidateIdentityId context.joinRequestId context.inviteId nowMs with
        | (.error policyError, _) => do
            let rejection ← okOr (localPolicyRejection policyError) (groupPolicy policyError)
            let (receipt, book) ←
              committing membershipCommand (book.rejectLocally context.commandId rejection)
            return ({ receipt, replayed := false }, { saga with book })
        | (.ok _, policy) => return ({ receipt, replayed := false }, { saga with policy, book })

/-- Records the approval, reserves the join and queues its submission. -/
def approveJoinInTransaction (command : ApproveJoinCommand)
    (candidateMembership : CandidateMembership) (nowMs : Int64) :
    Except GroupPersistenceError (MembershipCommandExecution × Saga) := do
  let context := command.context
  rejectIf (context.scope ≠ saga.policy.scope) groupNotFound
  let hadExactCommand := (saga.book.receiptFor context.commandId).isOk
  let (receipt, book) ←
    committing membershipCommand (saga.book.approveJoin command candidateMembership)
  if hadExactCommand ∨ receipt.commandId ≠ context.commandId then
    return ({ receipt, replayed := true }, saga)
  else
    match receipt.phase with
    | .committed _ => return ({ receipt, replayed := false }, { saga with book })
    | _ =>
        match saga.policy.reserveJoin context.fence.policyRevision context.actorIdentityId
            context.joinRequestId nowMs with
        | (.error policyError, _) => do
            let rejection ← okOr (localPolicyRejection policyError) (groupPolicy policyError)
            let (receipt, book) ←
              committing membershipCommand (book.rejectLocally context.commandId rejection)
            return ({ receipt, replayed := false }, { saga with book })
        | (.ok _, policy) => do
            let action ← (book.nextSequencerAction context.commandId).mapError membershipCommand
            let action ← okOr action (corruptData "approval missing submit action")
            rejectIf (actionCode action ≠ .submit) (corruptData "approval action is not submit")
            let outbox ← saga.outbox.insertOutbox context.commandId context.joinRequestId .submit
              nowMs
            return ({ receipt, replayed := false }, { policy, book, outbox })

end Commands

/-- An action that was leased to a worker. -/
structure PreparedSequencerAction where
  lease : SequencerActionLease
  commandId : MembershipCommandId
  action : SequencerAction

/-- `prepare_next_action` on the row it has locked, which may be any available one:
rows of other groups and rows under another worker's lock are skipped.  The fresh
lease token is an argument. -/
def prepareNextAction (saga : Saga) (commandId : MembershipCommandId)
    (lease : SequencerActionLease) (nowMs leaseForMs : Int64) :
    Except GroupPersistenceError (Option PreparedSequencerAction × Saga) := do
  rejectIf (leaseForMs ≤ 0) (corruptData "non-positive outbox lease")
  let leaseExpiresAtMs ←
    okOr (checkedAddInt64 nowMs leaseForMs) (corruptData "outbox lease overflow")
  match saga.outbox[commandId]?.filter (·.available nowMs) with
  | none => return (none, saga)
  | some row => do
      let action ← (saga.book.nextSequencerAction commandId).mapError membershipCommand
      let action ← okOr action (corruptData "active outbox has terminal command")
      rejectIf (actionCode action ≠ row.action) (corruptData "outbox action drift")
      match action with
      | .submit _ =>
          match saga.policy.validateReservedJoinAuthority row.requestId with
          | .ok () => do
              let (_, book) ← committing membershipCommand
                (saga.book.observeSequencerResolution commandId .unknown)
              let outbox ← saga.outbox.updateOutboxClaim commandId .query .submit lease
                leaseExpiresAtMs nowMs
              return (some { lease, commandId, action }, { saga with book, outbox })
          | .error .inviteIssuerNoLongerAuthorized => do
              let (_, book) ← committing membershipCommand
                (saga.book.rejectLocally commandId .policyDenied)
              let (_, policy) ← committing groupPolicy
                (saga.policy.releaseJoinReservation saga.policy.revision row.requestId)
              let outbox ← saga.outbox.completeUnleasedOutbox commandId nowMs
              return (none, { policy, book, outbox })
          | .error policyError => .error (groupPolicy policyError)
      | .query _ => do
          let outbox ← saga.outbox.updateOutboxClaim commandId .query .query lease
            leaseExpiresAtMs nowMs
          return (some { lease, commandId, action }, { saga with outbox })

/-- The policy and the outbox after a sequencer result for a leased row. -/
def applyResolution (saga : Saga) (commandId : MembershipCommandId) (row : OutboxRow)
    (lease : SequencerActionLease) (nowMs : Int64) :
    SequencerResolution → Except GroupPersistenceError (GroupPolicy × Outbox)
  | .committed _ => do
      let (_, policy) ← committing groupPolicy
        (saga.policy.finalizeReservedJoin saga.policy.revision row.requestId nowMs)
      return (policy, ← saga.outbox.completeOutbox commandId lease nowMs)
  | .rejected _ => do
      let (_, policy) ← committing groupPolicy
        (saga.policy.releaseJoinReservation saga.policy.revision row.requestId)
      return (policy, ← saga.outbox.completeOutbox commandId lease nowMs)
  | .unknown =>
      return (saga.policy, ← saga.outbox.releaseOutboxForRecovery commandId lease .query nowMs)
  | .absent =>
      return (saga.policy, ← saga.outbox.releaseOutboxForRecovery commandId lease .submit nowMs)

/-- `resolve_action` on the active row that holds the lease. -/
def resolveAction (saga : Saga) (commandId : MembershipCommandId) (lease : SequencerActionLease)
    (resolution : SequencerResolution) (nowMs : Int64) :
    Except GroupPersistenceError (MembershipReceipt × Saga) := do
  let row ← okOr (saga.outbox[commandId]?.filter fun row => row.active ∧ row.lease = some lease)
    leaseLost
  let leaseExpiresAtMs ← required row.leaseExpiresAtMs "outbox lease expiry"
  rejectIf (leaseExpiresAtMs ≤ nowMs) leaseLost
  rejectIf (resolution = .absent ∧ row.leasedAction ≠ some .query)
    (corruptData "Sequencer absence did not come from a query")
  let (receipt, book) ← committing membershipCommand
    (saga.book.observeSequencerResolution commandId resolution)
  let (policy, outbox) ← saga.applyResolution commandId row lease nowMs resolution
  return (receipt, { policy, book, outbox })

/-- The receipt of a command that has already committed. -/
def committedReceipt? (saga : Saga) (commandId : MembershipCommandId) :
    Option (MembershipReceipt × MembershipAdmission) :=
  match saga.book.receiptFor commandId with
  | .ok receipt =>
      match receipt.phase with
      | .committed admission => some (receipt, admission)
      | _ => none
  | .error _ => none

/-- Finalizes a join whose commit the sequencer has admitted. -/
def resolveMlsCommitInTransaction (saga : Saga) (scope : GroupScope)
    (commandId : MembershipCommandId) (committedDigest : Sha256Digest) (nowMs : Int64) :
    Except GroupPersistenceError (MembershipReceipt × Saga) := do
  rejectIf (scope ≠ saga.policy.scope) groupNotFound
  match saga.committedReceipt? commandId with
  | some (receipt, admission) =>
      let reference := admission.commitReference
      if reference.scope = scope ∧ reference.commandId = commandId ∧
          reference.committedDigest = committedDigest then
        return (receipt, saga)
      else .error mlsCommitConflict
  | none => do
      let action ← (saga.book.nextSequencerAction commandId).mapError membershipCommand
      match ← okOr action mlsAuthorizationRejected with
      | .query _ => .error mlsAuthorizationRejected
      | .submit submit => do
          rejectIf (submit.scope ≠ scope ∨ submit.commandId ≠ commandId) mlsAuthorizationRejected
          let (receipt, book) ← committing membershipCommand
            (saga.book.observeSequencerResolution commandId (.committed
              { scope, commandId, requestDigest := submit.requestDigest, committedDigest }))
          let (_, policy) ← committing groupPolicy
            (saga.policy.finalizeReservedJoin saga.policy.revision submit.joinRequestId nowMs)
          let outbox ← saga.outbox.completeUnleasedOutbox commandId nowMs
          return (receipt, { policy, book, outbox })

end Saga

/-! ## Runs -/

/-- Whether the repository persists the operation as a control command or a
removal, outside the join saga. -/
def isControl : Operation → Bool
  | .grantAdmin .. | .revokeAdmin .. | .removeMember .. | .issueInvite .. | .revokeInvite .. =>
      true
  | _ => false

/-- A transaction on one group. -/
inductive Transaction where
  | requestJoin (command : JoinRequestCommand) (candidateMembership : CandidateMembership)
      (nowMs : Int64)
  | approveJoin (command : ApproveJoinCommand) (nowMs : Int64)
  | prepareNextAction (commandId : MembershipCommandId) (lease : SequencerActionLease)
      (nowMs leaseForMs : Int64)
  | resolveAction (commandId : MembershipCommandId) (lease : SequencerActionLease)
      (resolution : SequencerResolution) (nowMs : Int64)
  | resolveMlsCommit (scope : GroupScope) (commandId : MembershipCommandId)
      (committedDigest : Sha256Digest) (nowMs : Int64)
  /-- Role changes, invitations and removals, by which groups come to have joins. -/
  | control (operation : Operation) (controls : isControl operation = true)

namespace Saga

/-- What the transaction commits, or the error it is rolled back for.  Approvals
are of candidates that are not members. -/
def transact [Sha256] (saga : Saga) : Transaction → Except GroupPersistenceError Saga
  | .requestJoin command candidateMembership nowMs =>
      (saga.requestJoinInTransaction command candidateMembership nowMs).map Prod.snd
  | .approveJoin command nowMs =>
      (saga.approveJoinInTransaction command .notMember nowMs).map Prod.snd
  | .prepareNextAction commandId lease nowMs leaseForMs =>
      (saga.prepareNextAction commandId lease nowMs leaseForMs).map Prod.snd
  | .resolveAction commandId lease resolution nowMs =>
      (saga.resolveAction commandId lease resolution nowMs).map Prod.snd
  | .resolveMlsCommit scope commandId committedDigest nowMs =>
      (saga.resolveMlsCommitInTransaction scope commandId committedDigest nowMs).map Prod.snd
  | .control operation _ =>
      (committing groupPolicy (saga.policy.run operation)).map fun after =>
        { saga with policy := after.2 }

/-- A group as it is bootstrapped: no command and no outbox row. -/
def bootstrapped (policy : GroupPolicy) : Saga := ⟨policy, .new, ∅⟩

end Saga

end Dirextalk.Persistence
