import Dirextalk.Domain.PublicKey
import Dirextalk.Group.Aggregate

/-!
# Membership command records

Commands, receipts and join workflows of the replay-safe membership command
book, with the actions and results it exchanges with the commit sequencer.
-/

namespace Dirextalk.Membership

open Std Domain Dirextalk.Group Lib Wire

/-- The stable identity of one membership action. -/
abbrev MembershipCommandId := RequestId

/-- Fences an action to one policy revision and opaque sequencer head. -/
structure MembershipFence where
  policyRevision : Revision
  sequencerHead : Sha256Digest
  deriving DecidableEq

/-- Common, authenticated fields of a join request or approval command. -/
structure MembershipCommandContext where
  commandId : MembershipCommandId
  idempotencyKeyHash : Sha256Digest
  scope : GroupScope
  actorIdentityId : IdentityId
  actorDeviceId : DeviceId
  joinRequestId : JoinRequestId
  candidateIdentityId : IdentityId
  candidateDeviceId : DeviceId
  inviteId : InviteCapabilityId
  fence : MembershipFence
  candidateKeyPackageDigest : Option Sha256Digest
  deriving DecidableEq

/-- Opaque, verified reference to one remote membership commit. -/
structure MembershipCommitReference where
  scope : GroupScope
  commandId : MembershipCommandId
  requestDigest : Sha256Digest
  committedDigest : Sha256Digest
  deriving DecidableEq

/-- Successful membership disposition retained in a terminal receipt. -/
inductive MembershipAdmission where
  | applied (reference : MembershipCommitReference)
  | alreadyMember (reference : MembershipCommitReference)
  deriving DecidableEq

/-- The commit that made the candidate a member. -/
def MembershipAdmission.commitReference : MembershipAdmission → MembershipCommitReference
  | .applied reference | .alreadyMember reference => reference

/-- Stable, non-secret rejection class. -/
inductive MembershipRejection where
  | policyDenied
  | staleFence
  | admissionDenied
  deriving DecidableEq, Repr

/-- Current replayable phase of a membership command receipt. -/
inductive MembershipCommandPhase where
  | pendingApproval
  | pendingCommit
  | reconciling
  | committed (admission : MembershipAdmission)
  | rejected (rejection : MembershipRejection)
  deriving DecidableEq

/-- Terminal phases never change. -/
def MembershipCommandPhase.isTerminal : MembershipCommandPhase → Bool
  | .committed _ | .rejected _ => true
  | _ => false

/-- A non-secret receipt returned for exact replay and reconciliation. -/
structure MembershipReceipt where
  commandId : MembershipCommandId
  requestDigest : Sha256Digest
  phase : MembershipCommandPhase
  deriving DecidableEq

/-- Member-set fact established by the caller before a command. -/
inductive CandidateMembership where
  | notMember
  | alreadyMember (reference : MembershipCommitReference)
  deriving DecidableEq

/-- Result returned by a de-duplicating remote sequencer. -/
inductive SequencerResolution where
  | committed (reference : MembershipCommitReference)
  | rejected (rejection : MembershipRejection)
  /-- A linearizable lookup found no durable command. -/
  | absent
  /-- The caller cannot tell whether the submit happened. -/
  | unknown
  deriving DecidableEq

/-- What the sequencer is asked to commit. -/
structure SequencerSubmit where
  scope : GroupScope
  commandId : MembershipCommandId
  requestDigest : Sha256Digest
  joinRequestId : JoinRequestId
  actorIdentityId : IdentityId
  actorDeviceId : DeviceId
  candidateIdentityId : IdentityId
  candidateDeviceId : DeviceId
  inviteId : InviteCapabilityId
  fence : MembershipFence
  authorizationDigest : Sha256Digest
  deriving DecidableEq

/-- The question what became of a submission. -/
structure SequencerQuery where
  scope : GroupScope
  commandId : MembershipCommandId
  requestDigest : Sha256Digest
  deriving DecidableEq

/-- Next externally visible action permitted for one durable command state. -/
inductive SequencerAction where
  | submit (request : SequencerSubmit)
  | query (request : SequencerQuery)
  deriving DecidableEq

/-- The two commands of a join. -/
inductive CommandKind where
  | requestJoin
  | approveJoin
  deriving DecidableEq, Repr

/-- Stable rejection from the pure membership command reducer. -/
inductive MembershipCommandError where
  | idempotencyConflict
  | commandIdConflict
  | actorCandidateMismatch
  | joinRequestConflict
  | joinRequestNotFound
  | joinRequestMismatch
  | joinCommitInFlight
  | joinWorkflowTerminal
  | commandNotFound
  | commandNotReady
  | commitReferenceMismatch
  | terminalResolutionConflict
  | invariantViolation
  deriving DecidableEq, Repr

/-! ## Stored records -/

/-- The scope, actor and key under which a command is replayed. -/
structure IdempotencyLookup where
  scope : GroupScope
  actorIdentityId : IdentityId
  idempotencyKeyHash : Sha256Digest
  deriving DecidableEq

/-- Replay keys belong to an actor in a group. -/
def IdempotencyLookup.new (context : MembershipCommandContext) : IdempotencyLookup :=
  { context with }

/-- A command that the book remembers. -/
structure StoredCommand where
  kind : CommandKind
  requestDigest : Sha256Digest
  workflowId : Option JoinRequestId
  terminalPhase : Option MembershipCommandPhase
  deriving DecidableEq

/-- A command that observes a join workflow. -/
def StoredCommand.workflow (kind : CommandKind) (requestDigest : Sha256Digest)
    (workflowId : JoinRequestId) : StoredCommand :=
  { kind, requestDigest, workflowId := some workflowId, terminalPhase := none }

/-- A command with a result of its own. -/
def StoredCommand.terminal (kind : CommandKind) (requestDigest : Sha256Digest)
    (terminalPhase : MembershipCommandPhase) : StoredCommand :=
  { kind, requestDigest, workflowId := none, terminalPhase := some terminalPhase }

/-- How far a join has come. -/
inductive WorkflowPhase where
  | pendingApproval
  | pendingCommit (approvalCommandId : MembershipCommandId)
      (approvalContext : MembershipCommandContext) (authorizationDigest : Sha256Digest)
  | reconciling (approvalCommandId : MembershipCommandId)
      (approvalContext : MembershipCommandContext) (authorizationDigest : Sha256Digest)
  | committed (admission : MembershipAdmission)
  | rejected (rejection : MembershipRejection)
  deriving DecidableEq

/-- The phase without the approval behind it. -/
def WorkflowPhase.asPublic : WorkflowPhase → MembershipCommandPhase
  | .pendingApproval => .pendingApproval
  | .pendingCommit .. => .pendingCommit
  | .reconciling .. => .reconciling
  | .committed admission => .committed admission
  | .rejected rejection => .rejected rejection

/-- A join in progress. -/
structure JoinWorkflow where
  context : MembershipCommandContext
  phase : WorkflowPhase
  deriving DecidableEq

/-! ## Order of the lookup keys -/

/-- Private conversations come before public channels, each in the order of its id. -/
def scopeOrderKey : GroupScope → List UInt8
  | .privateConversation conversationId => 0 :: conversationId.bytes.toList
  | .controlledPublicChannel channelId => 1 :: channelId.digest.toList

/-- The bytes that order the lookups. -/
def IdempotencyLookup.orderKey (lookup : IdempotencyLookup) : List UInt8 :=
  scopeOrderKey lookup.scope ++
    (lookup.actorIdentityId.digest.toList ++ lookup.idempotencyKeyHash.bytes.toList)

theorem scopeOrderKey_injective {left right : GroupScope}
    (same : scopeOrderKey left = scopeOrderKey right) : left = right := by
  cases left with
  | privateConversation conversationId =>
    cases right with
    | privateConversation other =>
      obtain ⟨⟨bytes⟩, _, _⟩ := conversationId
      obtain ⟨⟨otherBytes⟩, _, _⟩ := other
      simp_all [scopeOrderKey]
    | controlledPublicChannel other => simp [scopeOrderKey] at same
  | controlledPublicChannel channelId =>
    cases right with
    | privateConversation other => simp [scopeOrderKey] at same
    | controlledPublicChannel other =>
      obtain ⟨⟨bytes⟩⟩ := channelId
      obtain ⟨⟨otherBytes⟩⟩ := other
      simp_all [scopeOrderKey]

theorem IdempotencyLookup.orderKey_injective {left right : IdempotencyLookup}
    (same : left.orderKey = right.orderKey) : left = right := by
  -- the tag decides the length of the scope id
  have lengths : (scopeOrderKey left.scope).length = (scopeOrderKey right.scope).length := by
    have tags := congrArg List.head? same
    unfold IdempotencyLookup.orderKey at tags
    cases leftScope : left.scope <;> cases rightScope : right.scope <;>
      simp [leftScope, rightScope, scopeOrderKey, FixedBytes.length_eq] at tags ⊢
  obtain ⟨scopes, rest⟩ := List.append_inj same lengths
  obtain ⟨actor, hash⟩ := List.append_inj rest (by rw [FixedBytes.length_eq, FixedBytes.length_eq])
  have scope := scopeOrderKey_injective scopes
  obtain ⟨_, ⟨⟨_, _⟩⟩, ⟨⟨_, _⟩⟩⟩ := left
  obtain ⟨_, ⟨⟨_, _⟩⟩, ⟨⟨_, _⟩⟩⟩ := right
  simp_all

instance : Ord IdempotencyLookup := ⟨fun left right => compare left.orderKey right.orderKey⟩

instance : TransOrd IdempotencyLookup := transCmp_of_projection IdempotencyLookup.orderKey

instance : LawfulEqOrd IdempotencyLookup :=
  lawfulEqCmp_of_projection IdempotencyLookup.orderKey fun _ _ =>
    IdempotencyLookup.orderKey_injective

end Dirextalk.Membership
