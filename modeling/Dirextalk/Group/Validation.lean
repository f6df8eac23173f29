import Dirextalk.Group.Aggregate

/-!
# Snapshots of the group policy

Capturing a policy as a snapshot, and the sequential validator that rebuilds a
policy from one.  The validator walks the listed records once, collecting maps and
sets, and returns the first inconsistency it meets.
-/

namespace Dirextalk.Group

open Domain Lib

/-- Captures a complete, deterministic, non-secret persistence image. -/
def GroupPolicy.snapshot (policy : GroupPolicy) : GroupPolicySnapshot where
  scope := policy.scope
  ownerId := policy.ownerId
  administrators := policy.administrators.toList
  administratorAuthorizationGenerations := policy.administratorAuthorizationGenerations.toList
  members := policy.members.toList
  invitations := values policy.invitations
  pendingJoins := values policy.pendingJoins
  reservedJoins := values policy.reservedJoins
  approvedJoins := values policy.approvedJoins
  revision := policy.revision

/-! ## Rehydration -/

def invalidSnapshot (reason : String) : GroupPolicySnapshotError := .invalidSnapshot reason

/-- A set without duplicates. -/
def collectSnapshotSet {κ : Type} [Ord κ] [Std.TransOrd κ] (items : List κ)
    (duplicateReason : String) : Except GroupPolicySnapshotError (TreeSet κ) :=
  items.foldlM (fun valuesByKey value => do
    rejectIf (value ∈ valuesByKey) (invalidSnapshot duplicateReason)
    return valuesByKey.insert value) ∅

/-- The owner has no generation. -/
def collectGenerations (ownerId : IdentityId) (generations : List (IdentityId × Revision)) :
    Except GroupPolicySnapshotError (TreeMap IdentityId Revision) :=
  generations.foldlM (fun collected entry => do
    rejectIf (entry.1 = ownerId ∨ entry.1 ∈ collected)
      (invalidSnapshot "duplicate or owner administrator generation")
    return collected.insert entry.1 entry.2) ∅

/-- The authority recorded for `holder` is the owner's, or an administrator
generation that was reached. -/
def checkAuthority (ownerId : IdentityId) (generations : TreeMap IdentityId Revision)
    (holder : IdentityId) (authority : InviteIssuerAuthority)
    (ownerReason generationReason : String) : Except GroupPolicySnapshotError Unit :=
  match authority with
  | .owner => rejectIf (holder ≠ ownerId) (invalidSnapshot ownerReason)
  | .admin authorizationGeneration =>
      rejectIf (generations[holder]?.all (fun current => current < authorizationGeneration) = true)
        (invalidSnapshot generationReason)

/-- The invitations, each checked against the head of the group. -/
def collectInvitations (snapshot : GroupPolicySnapshot)
    (generations : TreeMap IdentityId Revision) :
    Except GroupPolicySnapshotError (TreeMap InviteCapabilityId InviteCapability) :=
  snapshot.invitations.foldlM (fun invitations invite => do
    rejectIf (invite.scope ≠ snapshot.scope ∨ invite.maxUses = 0)
      (invalidSnapshot "invalid invitation scope or use limit")
    let occupiedUses ← okOr (checkedAdd invite.useCount invite.reservedUseCount)
      (invalidSnapshot "invitation use count overflow")
    rejectIf (occupiedUses > invite.maxUses ∨ invite.policyRevision > snapshot.revision)
      (invalidSnapshot "invalid invitation use or policy revision")
    checkAuthority snapshot.ownerId generations invite.issuerId invite.issuerAuthority
      "owner invitation has another issuer" "invitation authority generation mismatch"
    rejectIf (invite.inviteId ∈ invitations) (invalidSnapshot "duplicate invitation")
    return invitations.insert invite.inviteId invite) ∅

/-- What the validator has collected about joins so far. -/
structure JoinScan where
  seenJoinIds : TreeSet JoinRequestId
  activeCandidates : TreeSet IdentityId
  pendingJoins : TreeMap JoinRequestId PendingJoinRequest
  expectedReservations : TreeMap InviteCapabilityId UInt32
  reservedJoins : TreeMap JoinRequestId ReservedJoin
  expectedUses : TreeMap InviteCapabilityId UInt32
  approvedJoins : TreeMap JoinRequestId ApprovedJoin

/-- No join has been read. -/
def JoinScan.start : JoinScan := ⟨∅, ∅, ∅, ∅, ∅, ∅, ∅⟩

/-- Counts a use of an invitation. -/
def incrementSnapshotCount (counts : TreeMap InviteCapabilityId UInt32)
    (inviteId : InviteCapabilityId) (overflowReason : String) :
    Except GroupPolicySnapshotError (TreeMap InviteCapabilityId UInt32) := do
  let count ← okOr (checkedAdd (counts[inviteId]?.getD 0) 1) (invalidSnapshot overflowReason)
  return counts.insert inviteId count

section Scan

variable (snapshot : GroupPolicySnapshot) (members : TreeSet IdentityId)
variable (generations : TreeMap IdentityId Revision)
variable (invitations : TreeMap InviteCapabilityId InviteCapability)

variable (scan : JoinScan)

/-- A pending request of an outsider. -/
def scanPending (pending : PendingJoinRequest) : Except GroupPolicySnapshotError JoinScan := do
  rejectIf (pending.requestId ∈ scan.seenJoinIds ∨ pending.inviteId ∉ invitations ∨
      pending.candidateId ∈ members ∨ pending.candidateId ∈ scan.activeCandidates)
    (invalidSnapshot "invalid pending join")
  return { scan with
    seenJoinIds := scan.seenJoinIds.insert pending.requestId
    activeCandidates := scan.activeCandidates.insert pending.candidateId
    pendingJoins := scan.pendingJoins.insert pending.requestId pending }

/-- A reservation under an authority that was reached. -/
def scanReserved (reserved : ReservedJoin) : Except GroupPolicySnapshotError JoinScan := do
  rejectIf (reserved.requestId ∈ scan.seenJoinIds ∨ reserved.inviteId ∉ invitations ∨
      reserved.candidateId ∈ members ∨ reserved.candidateId ∈ scan.activeCandidates ∨
      reserved.policyRevision > snapshot.revision)
    (invalidSnapshot "invalid membership reservation")
  checkAuthority snapshot.ownerId generations reserved.reservedBy reserved.reservedAuthority
    "owner reservation has another issuer" "reservation authority generation mismatch"
  let expectedReservations ← incrementSnapshotCount scan.expectedReservations reserved.inviteId
    "reservation count overflow"
  return { scan with
    seenJoinIds := scan.seenJoinIds.insert reserved.requestId
    activeCandidates := scan.activeCandidates.insert reserved.candidateId
    expectedReservations
    reservedJoins := scan.reservedJoins.insert reserved.requestId reserved }

/-- An approved join of a member. -/
def scanApproved (approved : ApprovedJoin) : Except GroupPolicySnapshotError JoinScan := do
  rejectIf (approved.requestId ∈ scan.seenJoinIds ∨ approved.inviteId ∉ invitations ∨
      approved.candidateId ∉ members ∨ approved.policyRevision > snapshot.revision)
    (invalidSnapshot "invalid approved join")
  let expectedUses ← incrementSnapshotCount scan.expectedUses approved.inviteId
    "approved use count overflow"
  return { scan with
    seenJoinIds := scan.seenJoinIds.insert approved.requestId
    expectedUses
    approvedJoins := scan.approvedJoins.insert approved.requestId approved }

/-- The counters of one invitation against the join history. -/
def checkCounters (entry : InviteCapabilityId × InviteCapability) :
    Except GroupPolicySnapshotError Unit :=
  rejectIf ((scan.expectedReservations[entry.1]?).getD 0 ≠ entry.2.reservedUseCount ∨
      (scan.expectedUses[entry.1]?).getD 0 ≠ entry.2.useCount)
    (invalidSnapshot "invitation counters do not match join history")

end Scan

/-- `group_policy_from_snapshot`. -/
def groupPolicyFromSnapshot (snapshot : GroupPolicySnapshot) :
    Except GroupPolicySnapshotError GroupPolicy := do
  let members ← collectSnapshotSet snapshot.members "duplicate member"
  rejectIf (snapshot.ownerId ∉ members) (invalidSnapshot "owner is not a member")
  let administrators ← collectSnapshotSet snapshot.administrators "duplicate administrator"
  rejectIf (administrators.size > maxAdmins) (invalidSnapshot "administrator limit exceeded")
  rejectIf (snapshot.ownerId ∈ administrators) (invalidSnapshot "owner is an administrator")
  rejectIf (¬∀ identityId ∈ administrators.toList, identityId ∈ members)
    (invalidSnapshot "administrator is not a member")
  let generations ←
    collectGenerations snapshot.ownerId snapshot.administratorAuthorizationGenerations
  rejectIf (∃ identityId ∈ administrators.toList, identityId ∉ generations)
    (invalidSnapshot "administrator lacks authority generation")
  let invitations ← collectInvitations snapshot generations
  let scan ← snapshot.pendingJoins.foldlM (scanPending members invitations) .start
  let scan ← snapshot.reservedJoins.foldlM
    (scanReserved snapshot members generations invitations) scan
  let scan ← snapshot.approvedJoins.foldlM (scanApproved snapshot members invitations) scan
  invitations.toList.forM (checkCounters scan)
  return {
    scope := snapshot.scope
    ownerId := snapshot.ownerId
    administrators
    administratorAuthorizationGenerations := generations
    members
    invitations
    pendingJoins := scan.pendingJoins
    reservedJoins := scan.reservedJoins
    approvedJoins := scan.approvedJoins
    revision := snapshot.revision }

/-- Rehydrates a validated policy aggregate without replaying external effects. -/
def GroupPolicy.tryFromSnapshot (snapshot : GroupPolicySnapshot) :
    Except GroupPolicySnapshotError GroupPolicy :=
  groupPolicyFromSnapshot snapshot

end Dirextalk.Group
