import Dirextalk.Domain.Identifiers
import Dirextalk.Lib.CheckedInt
import Dirextalk.Lib.Fallible
import Dirextalk.Lib.TreeMap

/-!
# Group policy records

The state of one group's authorization aggregate: roles, invitation capabilities
and the three stages of a join request, with the stable rejections of its
operations and the snapshot it is stored as.
-/

namespace Dirextalk.Group

open Domain Lib

/-- Maximum number of administrator identities in addition to the owner. -/
def maxAdmins : Nat := 5

/-- What the group governs. -/
inductive GroupScope where
  | privateConversation (conversationId : ConversationId)
  | controlledPublicChannel (channelId : ChannelId)
  deriving DecidableEq

/-- The role of a member. -/
inductive GroupRole where
  | owner
  | admin
  | member
  deriving DecidableEq, Repr

/-- The authority term under which an invitation issuer was allowed to act. -/
inductive InviteIssuerAuthority where
  | owner
  | admin (authorizationGeneration : Revision)
  deriving DecidableEq

/-- A group-bound, non-secret invitation capability. -/
structure InviteCapability where
  inviteId : InviteCapabilityId
  scope : GroupScope
  issuerId : IdentityId
  targetId : Option IdentityId
  maxUses : UInt32
  useCount : UInt32
  reservedUseCount : UInt32
  expiresAtMs : Int64
  revoked : Bool
  policyRevision : Revision
  issuerAuthority : InviteIssuerAuthority
  deriving DecidableEq

/-- One candidate's pending request to consume a group invitation. -/
structure PendingJoinRequest where
  requestId : JoinRequestId
  candidateId : IdentityId
  inviteId : InviteCapabilityId
  requestedAtMs : Int64
  deriving DecidableEq

/-- A durable invitation-use reservation made before an external membership commit. -/
structure ReservedJoin where
  requestId : JoinRequestId
  candidateId : IdentityId
  inviteId : InviteCapabilityId
  reservedBy : IdentityId
  reservedAuthority : InviteIssuerAuthority
  reservedAtMs : Int64
  policyRevision : Revision
  deriving DecidableEq

/-- Immutable record that a pending request has already admitted its candidate. -/
structure ApprovedJoin where
  requestId : JoinRequestId
  candidateId : IdentityId
  inviteId : InviteCapabilityId
  approvedBy : IdentityId
  approvedAtMs : Int64
  policyRevision : Revision
  deriving DecidableEq

/-- In-memory authorization and membership state for one group conversation. -/
structure GroupPolicy where
  scope : GroupScope
  ownerId : IdentityId
  administrators : TreeSet IdentityId
  administratorAuthorizationGenerations : TreeMap IdentityId Revision
  members : TreeSet IdentityId
  invitations : TreeMap InviteCapabilityId InviteCapability
  pendingJoins : TreeMap JoinRequestId PendingJoinRequest
  reservedJoins : TreeMap JoinRequestId ReservedJoin
  approvedJoins : TreeMap JoinRequestId ApprovedJoin
  revision : Revision

/-- Complete, non-secret persistence image of one group-policy aggregate. -/
structure GroupPolicySnapshot where
  scope : GroupScope
  ownerId : IdentityId
  administrators : List IdentityId
  administratorAuthorizationGenerations : List (IdentityId × Revision)
  members : List IdentityId
  invitations : List InviteCapability
  pendingJoins : List PendingJoinRequest
  reservedJoins : List ReservedJoin
  approvedJoins : List ApprovedJoin
  revision : Revision

/-- Stable rejection from the group-role authorization aggregate. -/
inductive GroupPolicyError where
  | revisionConflict (current : Revision)
  | unauthorized
  | ownerCannotBeAdmin
  | ownerCannotBeRemoved
  | alreadyAdmin
  | notAdmin
  | adminLimitReached
  | counterExhausted
  | inviteAlreadyExists
  | invalidInviteUseLimit
  | invalidInviteExpiry
  | inviteNotFound
  | inviteAlreadyRevoked
  | alreadyMember
  | memberNotFound
  | joinRequestAlreadyPending
  | candidateJoinInFlight
  | pendingJoinNotFound
  | alreadyApproved
  | joinAlreadyReserved
  | reservedJoinNotFound
  | reservationInvariantViolation
  | inviteTargetMismatch
  | inviteExpired
  | inviteRevoked
  | inviteUseLimitReached
  | inviteIssuerNoLongerAuthorized
  deriving DecidableEq

/-- Rehydration failure for a malformed group-policy persistence image. -/
inductive GroupPolicySnapshotError where
  | invalidSnapshot (reason : String)
  deriving DecidableEq, Repr

/-! ## Group policy operations -/

/-- A `&mut self` method: its `Result`, and the policy it leaves behind. -/
abbrev Attempt (α : Type) := Except GroupPolicyError α × GroupPolicy

/-- An operation that writes nothing before its last check has passed. -/
def attempt {α : Type} (policy : GroupPolicy)
    (outcome : Except GroupPolicyError (α × GroupPolicy)) : Attempt α :=
  match outcome with
  | .ok (value, policy) => (.ok value, policy)
  | .error error => (.error error, policy)

/-- Whether the attempt was accepted, without its return value. -/
def Attempt.accepted {α : Type} (tried : Attempt α) : Attempt Unit :=
  (tried.1.map fun _ => (), tried.2)

namespace GroupPolicy

/-- Creates a group with its owner admitted as the first member. -/
def new (scope : GroupScope) (ownerId : IdentityId) : GroupPolicy where
  scope
  ownerId
  administrators := ∅
  administratorAuthorizationGenerations := ∅
  members := (∅ : TreeSet IdentityId).insert ownerId
  invitations := ∅
  pendingJoins := ∅
  reservedJoins := ∅
  approvedJoins := ∅
  revision := .initial

/-! ## Queries -/

variable (policy : GroupPolicy)

/-- The highest role that an identity holds. -/
def roleOf (identityId : IdentityId) : Option GroupRole :=
  if identityId = policy.ownerId then some .owner
  else if identityId ∈ policy.administrators then some .admin
  else if identityId ∈ policy.members then some .member
  else none

/-- The owner and the administrators. -/
def canIssueInvite (identityId : IdentityId) : Bool :=
  match policy.roleOf identityId with
  | some .owner | some .admin => true
  | _ => false

def canApproveJoin (identityId : IdentityId) : Bool :=
  policy.canIssueInvite identityId

/-- A candidate has at most one pending or reserved join. -/
def candidateHasActiveJoin (candidateId : IdentityId) : Bool :=
  ((values policy.pendingJoins).any fun pending => pending.candidateId = candidateId) ||
    (values policy.reservedJoins).any fun reserved => reserved.candidateId = candidateId

/-- The term is still held: the owner's always, an administrator's while the
identity is an administrator under the same generation. -/
def authorityIsCurrent (holder : IdentityId) : InviteIssuerAuthority → Bool
  | .owner => holder = policy.ownerId
  | .admin authorizationGeneration =>
      holder ∈ policy.administrators &&
        policy.administratorAuthorizationGenerations[holder]? = some authorizationGeneration

def inviteIssuerAuthorityIsCurrent (invite : InviteCapability) : Bool :=
  policy.authorityIsCurrent invite.issuerId invite.issuerAuthority

/-! ## Checks shared by the operations -/

/-- A caller has to name the current revision. -/
def nextMutationRevision (expectedRevision : Revision) : Except GroupPolicyError Revision := do
  rejectIf (expectedRevision ≠ policy.revision) (.revisionConflict policy.revision)
  policy.revision.checkedNext.mapError fun _ => .counterExhausted

def ensureOwner (actorId : IdentityId) : Except GroupPolicyError Unit :=
  rejectIf (actorId ≠ policy.ownerId) .unauthorized

def ensureInviteAuthority (actorId : IdentityId) : Except GroupPolicyError Unit :=
  rejectIf (¬policy.canIssueInvite actorId) .unauthorized

def ensureApprovalAuthority (actorId : IdentityId) : Except GroupPolicyError Unit :=
  rejectIf (¬policy.canApproveJoin actorId) .unauthorized

/-- The term under which the actor issues. -/
def inviteIssuerAuthority (actorId : IdentityId) : Except GroupPolicyError InviteIssuerAuthority :=
  if actorId = policy.ownerId then .ok .owner
  else if actorId ∈ policy.administrators then
    okOr (policy.administratorAuthorizationGenerations[actorId]?.map .admin) .unauthorized
  else .error .unauthorized

/-- Every promotion starts a new generation. -/
def nextAdminAuthorizationGeneration (administratorId : IdentityId) :
    Except GroupPolicyError Revision :=
  match policy.administratorAuthorizationGenerations[administratorId]? with
  | none => .ok .initial
  | some generation => generation.checkedNext.mapError fun _ => .counterExhausted

/-- The invitation admits the candidate now, and has a use left. -/
def ensureInviteUsable (invite : InviteCapability)
    (candidateId : IdentityId) (nowMs : Int64) : Except GroupPolicyError Unit := do
  rejectIf (invite.revoked = true) .inviteRevoked
  rejectIf (nowMs ≥ invite.expiresAtMs) .inviteExpired
  rejectIf (∃ target ∈ invite.targetId, target ≠ candidateId) .inviteTargetMismatch
  rejectIf (¬policy.inviteIssuerAuthorityIsCurrent invite) .inviteIssuerNoLongerAuthorized
  let occupiedUses ←
    okOr (checkedAdd invite.useCount invite.reservedUseCount) .inviteUseLimitReached
  rejectIf (occupiedUses ≥ invite.maxUses) .inviteUseLimitReached

/-! ## Roles -/

/-- Grants one additional administrator slot to an identity, admitting it as a
member if it is not one yet. -/
def grantAdmin (expectedRevision : Revision)
    (actorId administratorId : IdentityId) : Attempt Revision := attempt policy do
  let nextRevision ← policy.nextMutationRevision expectedRevision
  policy.ensureOwner actorId
  rejectIf (administratorId = policy.ownerId) .ownerCannotBeAdmin
  rejectIf (administratorId ∈ policy.administrators) .alreadyAdmin
  rejectIf (policy.administrators.size ≥ maxAdmins) .adminLimitReached
  let authorizationGeneration ← policy.nextAdminAuthorizationGeneration administratorId
  return (nextRevision, { policy with
    administrators := policy.administrators.insert administratorId
    administratorAuthorizationGenerations :=
      policy.administratorAuthorizationGenerations.insert administratorId authorizationGeneration
    members := policy.members.insert administratorId
    revision := nextRevision })

/-- Revokes one additional administrator slot while preserving membership. -/
def revokeAdmin (expectedRevision : Revision)
    (actorId administratorId : IdentityId) : Attempt Revision := attempt policy do
  let nextRevision ← policy.nextMutationRevision expectedRevision
  policy.ensureOwner actorId
  rejectIf (administratorId = policy.ownerId) .ownerCannotBeAdmin
  rejectIf (administratorId ∉ policy.administrators) .notAdmin
  return (nextRevision, { policy with
    administrators := policy.administrators.erase administratorId
    revision := nextRevision })

/-- Removes one non-owner identity from the group; a current administrator loses
that term in the same transition. -/
def removeMember (expectedRevision : Revision)
    (actorId memberId : IdentityId) : Attempt Revision := attempt policy do
  let nextRevision ← policy.nextMutationRevision expectedRevision
  policy.ensureOwner actorId
  rejectIf (memberId = policy.ownerId) .ownerCannotBeRemoved
  rejectIf (memberId ∉ policy.members) .memberNotFound
  return (nextRevision, { policy with
    administrators := policy.administrators.erase memberId
    members := policy.members.erase memberId
    revision := nextRevision })

/-! ## Invitations -/

/-- Issues a non-secret invitation bound to this group and the current policy. -/
def issueInvite (expectedRevision : Revision) (actorId : IdentityId)
    (inviteId : InviteCapabilityId) (targetId : Option IdentityId) (maxUses : UInt32)
    (expiresAtMs nowMs : Int64) : Attempt InviteCapability := attempt policy do
  let nextRevision ← policy.nextMutationRevision expectedRevision
  let issuerAuthority ← policy.inviteIssuerAuthority actorId
  rejectIf (inviteId ∈ policy.invitations) .inviteAlreadyExists
  rejectIf (maxUses = 0) .invalidInviteUseLimit
  rejectIf (expiresAtMs ≤ nowMs) .invalidInviteExpiry
  let invite : InviteCapability :=
    { inviteId, scope := policy.scope, issuerId := actorId, targetId, maxUses, useCount := 0
      reservedUseCount := 0, expiresAtMs, revoked := false, policyRevision := expectedRevision
      issuerAuthority }
  return (invite, { policy with
    invitations := policy.invitations.insert inviteId invite
    revision := nextRevision })

/-- Revokes an invitation at the exact current group revision. -/
def revokeInvite (expectedRevision : Revision) (actorId : IdentityId)
    (inviteId : InviteCapabilityId) : Attempt Revision := attempt policy do
  let nextRevision ← policy.nextMutationRevision expectedRevision
  policy.ensureInviteAuthority actorId
  let invite ← okOr policy.invitations[inviteId]? .inviteNotFound
  rejectIf (invite.revoked = true) .inviteAlreadyRevoked
  return (nextRevision, { policy with
    invitations := policy.invitations.insert inviteId { invite with revoked := true }
    revision := nextRevision })

/-! ## Joins -/

/-- Records a candidate's pending request to consume one invitation use. -/
def requestJoin (expectedRevision : Revision)
    (actorId candidateId : IdentityId) (requestId : JoinRequestId)
    (inviteId : InviteCapabilityId) (nowMs : Int64) : Attempt PendingJoinRequest :=
  attempt policy do
    let nextRevision ← policy.nextMutationRevision expectedRevision
    rejectIf (actorId ≠ candidateId) .unauthorized
    rejectIf (candidateId ∈ policy.members) .alreadyMember
    rejectIf (requestId ∈ policy.pendingJoins) .joinRequestAlreadyPending
    rejectIf (requestId ∈ policy.reservedJoins) .joinAlreadyReserved
    rejectIf (requestId ∈ policy.approvedJoins) .alreadyApproved
    rejectIf (policy.candidateHasActiveJoin candidateId = true) .candidateJoinInFlight
    let invite ← okOr policy.invitations[inviteId]? .inviteNotFound
    policy.ensureInviteUsable invite candidateId nowMs
    let pending : PendingJoinRequest :=
      { requestId, candidateId, inviteId, requestedAtMs := nowMs }
    return (pending, { policy with
      pendingJoins := policy.pendingJoins.insert requestId pending
      revision := nextRevision })

/-- Reserves exactly one invitation use before an external membership commit. -/
def reserveJoin (expectedRevision : Revision) (actorId : IdentityId)
    (requestId : JoinRequestId) (nowMs : Int64) : Attempt ReservedJoin := attempt policy do
  let nextRevision ← policy.nextMutationRevision expectedRevision
  policy.ensureApprovalAuthority actorId
  let reservedAuthority ← policy.inviteIssuerAuthority actorId
  rejectIf (requestId ∈ policy.approvedJoins) .alreadyApproved
  rejectIf (requestId ∈ policy.reservedJoins) .joinAlreadyReserved
  let pending ← okOr policy.pendingJoins[requestId]? .pendingJoinNotFound
  rejectIf (pending.candidateId ∈ policy.members) .alreadyMember
  let invite ← okOr policy.invitations[pending.inviteId]? .inviteNotFound
  policy.ensureInviteUsable invite pending.candidateId nowMs
  let reservedUseCount ← okOr (checkedAdd invite.reservedUseCount 1) .inviteUseLimitReached
  let reservation : ReservedJoin :=
    { pending with
      requestId, reservedBy := actorId, reservedAuthority, reservedAtMs := nowMs
      policyRevision := expectedRevision }
  return (reservation, { policy with
    invitations := policy.invitations.insert pending.inviteId { invite with reservedUseCount }
    pendingJoins := policy.pendingJoins.erase requestId
    reservedJoins := policy.reservedJoins.insert requestId reservation
    revision := nextRevision })

/-- Revalidates the term that authorized a reservation before an external submit. -/
def validateReservedJoinAuthority (requestId : JoinRequestId) : Except GroupPolicyError Unit := do
  let reservation ← okOr policy.reservedJoins[requestId]? .reservedJoinNotFound
  rejectIf (¬policy.authorityIsCurrent reservation.reservedBy reservation.reservedAuthority)
    .inviteIssuerNoLongerAuthorized

/-- The part of `finalize_reserved_join` before its first write: the next
revision, the reservation, and its invitation with one reserved use less. -/
def finalizeChecks (expectedRevision : Revision) (requestId : JoinRequestId) :
    Except GroupPolicyError (Revision × ReservedJoin × InviteCapability) := do
  let nextRevision ← policy.nextMutationRevision expectedRevision
  rejectIf (requestId ∈ policy.approvedJoins) .alreadyApproved
  let reservation ← okOr policy.reservedJoins[requestId]? .reservedJoinNotFound
  rejectIf (reservation.candidateId ∈ policy.members) .alreadyMember
  let invite ← okOr policy.invitations[reservation.inviteId]? .reservationInvariantViolation
  let reservedUseCount ←
    okOr (checkedSub invite.reservedUseCount 1) .reservationInvariantViolation
  return (nextRevision, reservation, { invite with reservedUseCount })

/-- Finalizes a verified remote membership commit without rechecking invite
expiry.  The source lowers the reserved count in place before it raises the use
count, so a failure in between leaves the lowered count behind. -/
def finalizeReservedJoin (expectedRevision : Revision)
    (requestId : JoinRequestId) (finalizedAtMs : Int64) : Attempt ApprovedJoin :=
  match policy.finalizeChecks expectedRevision requestId with
  | .error error => (.error error, policy)
  | .ok (nextRevision, reservation, invite) =>
      match checkedAdd invite.useCount 1 with
      | none => (.error .inviteUseLimitReached, { policy with
          invitations := policy.invitations.insert reservation.inviteId invite })
      | some useCount =>
          let approved : ApprovedJoin :=
            { reservation with
              requestId, approvedBy := reservation.reservedBy, approvedAtMs := finalizedAtMs }
          (.ok approved, { policy with
            invitations := policy.invitations.insert reservation.inviteId { invite with useCount }
            reservedJoins := policy.reservedJoins.erase requestId
            members := policy.members.insert reservation.candidateId
            approvedJoins := policy.approvedJoins.insert requestId approved
            revision := nextRevision })

/-- Releases a reservation only after a definite non-commit outcome.  The original
request is not re-opened. -/
def releaseJoinReservation (expectedRevision : Revision)
    (requestId : JoinRequestId) : Attempt ReservedJoin := attempt policy do
  let nextRevision ← policy.nextMutationRevision expectedRevision
  let reservation ← okOr policy.reservedJoins[requestId]? .reservedJoinNotFound
  let invite ← okOr policy.invitations[reservation.inviteId]? .reservationInvariantViolation
  let reservedUseCount ←
    okOr (checkedSub invite.reservedUseCount 1) .reservationInvariantViolation
  return (reservation, { policy with
    invitations := policy.invitations.insert reservation.inviteId { invite with reservedUseCount }
    reservedJoins := policy.reservedJoins.erase requestId
    revision := nextRevision })

/-- Revalidates and approves one pending request, admitting its candidate. -/
def approveJoin (expectedRevision : Revision) (actorId : IdentityId)
    (requestId : JoinRequestId) (nowMs : Int64) : Attempt ApprovedJoin := attempt policy do
  let nextRevision ← policy.nextMutationRevision expectedRevision
  policy.ensureApprovalAuthority actorId
  rejectIf (requestId ∈ policy.approvedJoins) .alreadyApproved
  let pending ← okOr policy.pendingJoins[requestId]? .pendingJoinNotFound
  rejectIf (pending.candidateId ∈ policy.members) .alreadyMember
  let invite ← okOr policy.invitations[pending.inviteId]? .inviteNotFound
  policy.ensureInviteUsable invite pending.candidateId nowMs
  let useCount ← okOr (checkedAdd invite.useCount 1) .inviteUseLimitReached
  let approved : ApprovedJoin :=
    { pending with
      requestId, approvedBy := actorId, approvedAtMs := nowMs, policyRevision := expectedRevision }
  return (approved, { policy with
    invitations := policy.invitations.insert pending.inviteId { invite with useCount }
    members := policy.members.insert pending.candidateId
    pendingJoins := policy.pendingJoins.erase requestId
    approvedJoins := policy.approvedJoins.insert requestId approved
    revision := nextRevision })

end GroupPolicy

/-! ## Operations as data -/

/-- A call of one of the mutating operations. -/
inductive Operation where
  | grantAdmin (expectedRevision : Revision) (actorId administratorId : IdentityId)
  | revokeAdmin (expectedRevision : Revision) (actorId administratorId : IdentityId)
  | removeMember (expectedRevision : Revision) (actorId memberId : IdentityId)
  | issueInvite (expectedRevision : Revision) (actorId : IdentityId)
      (inviteId : InviteCapabilityId) (targetId : Option IdentityId) (maxUses : UInt32)
      (expiresAtMs nowMs : Int64)
  | revokeInvite (expectedRevision : Revision) (actorId : IdentityId)
      (inviteId : InviteCapabilityId)
  | requestJoin (expectedRevision : Revision) (actorId candidateId : IdentityId)
      (requestId : JoinRequestId) (inviteId : InviteCapabilityId) (nowMs : Int64)
  | reserveJoin (expectedRevision : Revision) (actorId : IdentityId)
      (requestId : JoinRequestId) (nowMs : Int64)
  | finalizeReservedJoin (expectedRevision : Revision) (requestId : JoinRequestId)
      (finalizedAtMs : Int64)
  | releaseJoinReservation (expectedRevision : Revision) (requestId : JoinRequestId)
  | approveJoin (expectedRevision : Revision) (actorId : IdentityId)
      (requestId : JoinRequestId) (nowMs : Int64)

/-- Calls the operation, keeping only whether it was accepted. -/
def GroupPolicy.run (policy : GroupPolicy) : Operation → Attempt Unit
  | .grantAdmin expectedRevision actorId administratorId =>
      (policy.grantAdmin expectedRevision actorId administratorId).accepted
  | .revokeAdmin expectedRevision actorId administratorId =>
      (policy.revokeAdmin expectedRevision actorId administratorId).accepted
  | .removeMember expectedRevision actorId memberId =>
      (policy.removeMember expectedRevision actorId memberId).accepted
  | .issueInvite expectedRevision actorId inviteId targetId maxUses expiresAtMs nowMs =>
      (policy.issueInvite expectedRevision actorId inviteId targetId maxUses expiresAtMs
        nowMs).accepted
  | .revokeInvite expectedRevision actorId inviteId =>
      (policy.revokeInvite expectedRevision actorId inviteId).accepted
  | .requestJoin expectedRevision actorId candidateId requestId inviteId nowMs =>
      (policy.requestJoin expectedRevision actorId candidateId requestId inviteId nowMs).accepted
  | .reserveJoin expectedRevision actorId requestId nowMs =>
      (policy.reserveJoin expectedRevision actorId requestId nowMs).accepted
  | .finalizeReservedJoin expectedRevision requestId finalizedAtMs =>
      (policy.finalizeReservedJoin expectedRevision requestId finalizedAtMs).accepted
  | .releaseJoinReservation expectedRevision requestId =>
      (policy.releaseJoinReservation expectedRevision requestId).accepted
  | .approveJoin expectedRevision actorId requestId nowMs =>
      (policy.approveJoin expectedRevision actorId requestId nowMs).accepted

end Dirextalk.Group
