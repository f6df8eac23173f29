import Dirextalk.Group.Writes

/-!
# What the operations do

An accepted call is inverted once for all operations: the checks it has passed,
and the policy it leaves as a sequence of writes.
-/

namespace Dirextalk.Group

open Domain Lib

section Attempts

variable {α : Type} {policy next : GroupPolicy} {value : α} {error : GroupPolicyError}

@[simp] theorem attempt_eq_ok {outcome : Except GroupPolicyError (α × GroupPolicy)} :
    attempt policy outcome = (.ok value, next) ↔ outcome = .ok (value, next) := by
  rcases outcome with _ | ⟨result, after⟩ <;> simp [attempt]

@[simp] theorem accepted_eq_ok {tried : Attempt α} {done : Unit} :
    tried.accepted = (.ok done, next) ↔ ∃ value, tried = (.ok value, next) := by
  rcases tried with ⟨_ | result, after⟩ <;> simp [Attempt.accepted, Except.map]

theorem attempt_rejected {outcome : Except GroupPolicyError (α × GroupPolicy)}
    (rejected : (attempt policy outcome).accepted = (.error error, next)) : next = policy := by
  rcases outcome with _ | ⟨result, after⟩ <;> cases rejected
  rfl

end Attempts

namespace GroupPolicy

variable {policy next : GroupPolicy} {expectedRevision nextRevision : Revision}
variable {actorId candidateId : IdentityId} {nowMs : Int64}

/-! ## Checks -/

/-- A call made at the current revision, which leaves the next one. -/
def Advances (policy : GroupPolicy) (expectedRevision nextRevision : Revision) : Prop :=
  expectedRevision = policy.revision ∧ policy.revision.checkedNext = .ok nextRevision

theorem Advances.le (advances : policy.Advances expectedRevision nextRevision) :
    policy.revision ≤ nextRevision :=
  Revision.le_of_checkedNext advances.2

@[simp] theorem nextMutationRevision_eq_ok :
    policy.nextMutationRevision expectedRevision = .ok nextRevision ↔
      policy.Advances expectedRevision nextRevision := by
  simp only [nextMutationRevision, bind_eq_ok, rejectIf_eq_ok, exists_const, mapError_eq_ok,
    ne_eq, not_not, Advances]

variable {done : Unit}

@[simp] theorem ensureOwner_eq_ok :
    policy.ensureOwner actorId = .ok done ↔ actorId = policy.ownerId := by
  simp only [ensureOwner, rejectIf_eq_ok, ne_eq, not_not]

/-- The conditions under which one more use of an invitation may be taken. -/
structure Usable (policy : GroupPolicy) (invite : InviteCapability) (candidateId : IdentityId)
    (nowMs : Int64) : Prop where
  not_revoked : invite.revoked = false
  not_expired : nowMs < invite.expiresAtMs
  target : ∀ target ∈ invite.targetId, target = candidateId
  issuer_current : policy.inviteIssuerAuthorityIsCurrent invite = true
  uses_lt : invite.useCount.toNat + invite.reservedUseCount.toNat < invite.maxUses.toNat

@[simp] theorem ensureInviteUsable_eq_ok {invite : InviteCapability} :
    policy.ensureInviteUsable invite candidateId nowMs = .ok done ↔
      policy.Usable invite candidateId nowMs := by
  simp only [ensureInviteUsable, bind_eq_ok, rejectIf_eq_ok, exists_const, okOr_eq_ok,
    checkedAdd_eq_some, Bool.not_eq_true, Bool.not_eq_false, not_exists, not_and, ne_eq, not_not,
    ge_iff_le]
  constructor
  · rintro ⟨notRevoked, notExpired, target, current, occupied, sum, limit⟩
    refine ⟨notRevoked, Int64.not_le.mp notExpired, target, current, ?_⟩
    rw [sum]
    exact UInt32.lt_iff_toNat_lt.mp (UInt32.not_le.mp limit)
  · rintro ⟨notRevoked, notExpired, target, current, limit⟩
    have small : invite.useCount.toNat + invite.reservedUseCount.toNat < UInt32.size :=
      Nat.lt_trans limit (UInt32.toNat_lt _)
    refine ⟨notRevoked, Int64.not_le.mpr notExpired, target, current,
      .ofNat (invite.useCount.toNat + invite.reservedUseCount.toNat), ?_, ?_⟩
    · rw [UInt32.toNat_ofNat_of_lt' small]
    · rw [UInt32.not_le, UInt32.lt_iff_toNat_lt, UInt32.toNat_ofNat_of_lt' small]
      exact limit

/-- An identity with invite authority acts under a term it has reached. -/
theorem inviteIssuerAuthority_reached {authority : InviteIssuerAuthority}
    (granted : policy.inviteIssuerAuthority actorId = .ok authority) :
    AuthorityReached policy.ownerId policy.administratorAuthorizationGenerations actorId
      authority := by
  unfold inviteIssuerAuthority at granted
  split at granted
  · cases granted
    assumption
  · split at granted
    · simp only [okOr_eq_ok, Option.map_eq_some_iff] at granted
      obtain ⟨generation, found, rfl⟩ := granted
      exact ⟨generation, found, Revision.le_refl _⟩
    · cases granted

theorem candidateHasActiveJoin_eq_false :
    policy.candidateHasActiveJoin candidateId = false ↔
      FreeCandidate policy.pendingJoins policy.reservedJoins candidateId := by
  simp only [candidateHasActiveJoin, Bool.or_eq_false_iff, List.any_eq_false, decide_eq_true_eq]
  rw [forall_mem_values, forall_mem_values]
  constructor
  · intro free
    exact ⟨free.1, free.2⟩
  · intro free
    exact ⟨free.pending, free.reserved⟩

/-! ## Finalizing a reserved join -/

variable {requestId : JoinRequestId} {reservation : ReservedJoin}

theorem finalizeChecks_eq_ok {lowered : InviteCapability} :
    policy.finalizeChecks expectedRevision requestId =
        .ok (nextRevision, reservation, lowered) ↔
      ∃ invite reservedUseCount,
        policy.Advances expectedRevision nextRevision ∧
        requestId ∉ policy.approvedJoins ∧
        policy.reservedJoins[requestId]? = some reservation ∧
        reservation.candidateId ∉ policy.members ∧
        policy.invitations[reservation.inviteId]? = some invite ∧
        reservedUseCount.toNat + 1 = invite.reservedUseCount.toNat ∧
        { invite with reservedUseCount } = lowered := by
  simp only [finalizeChecks, bind_eq_ok, nextMutationRevision_eq_ok, rejectIf_eq_ok, exists_const,
    okOr_eq_ok, checkedSub_eq_some, pure_eq_ok, Prod.mk.injEq]
  constructor
  · rintro ⟨_, advances, notApproved, _, present, outsider, invite, found, count, less, rfl,
      rfl, rfl⟩
    exact ⟨invite, count, advances, notApproved, present, outsider, found, less, rfl⟩
  · rintro ⟨invite, count, advances, notApproved, present, outsider, found, less, rfl⟩
    exact ⟨_, advances, notApproved, _, present, outsider, invite, found, count, less, rfl,
      rfl, rfl⟩

theorem finalizeReservedJoin_eq_ok {finalizedAtMs : Int64} {approved : ApprovedJoin} :
    policy.finalizeReservedJoin expectedRevision requestId finalizedAtMs =
        (.ok approved, next) ↔
      ∃ nextRevision reservation invite reservedUseCount useCount,
        policy.Advances expectedRevision nextRevision ∧
        requestId ∉ policy.approvedJoins ∧
        policy.reservedJoins[requestId]? = some reservation ∧
        reservation.candidateId ∉ policy.members ∧
        policy.invitations[reservation.inviteId]? = some invite ∧
        reservedUseCount.toNat + 1 = invite.reservedUseCount.toNat ∧
        invite.useCount.toNat + 1 = useCount.toNat ∧
        { reservation with
          requestId, approvedBy := reservation.reservedBy,
          approvedAtMs := finalizedAtMs : ApprovedJoin } = approved ∧
        (((policy.withRevision nextRevision).dropReserved requestId reservation.inviteId
            { invite with reservedUseCount }).addApproved approved
              { invite with reservedUseCount, useCount }).addMember reservation.candidateId =
          next := by
  constructor
  · intro finalized
    unfold finalizeReservedJoin at finalized
    split at finalized
    · cases finalized
    next nextRevision reservation lowered passed =>
      obtain ⟨invite, count, advances, notApproved, present, outsider, found, less, rfl⟩ :=
        finalizeChecks_eq_ok.mp passed
      split at finalized
      · cases finalized
      next useCount used =>
        cases finalized
        refine ⟨nextRevision, reservation, invite, count, useCount, advances, notApproved, present,
          outsider, found, less, checkedAdd_eq_some.mp used, rfl, ?_⟩
        simp only [addMember, addApproved, dropReserved, putInvite, withRevision,
          insert_insert_same]
  · rintro ⟨nextRevision, reservation, invite, count, useCount, advances, notApproved, present,
      outsider, found, less, used, rfl, rfl⟩
    have passed := finalizeChecks_eq_ok.mpr
      ⟨invite, count, advances, notApproved, present, outsider, found, less, rfl⟩
    have after : checkedAdd invite.useCount 1 = some useCount := checkedAdd_eq_some.mpr used
    simp only [finalizeReservedJoin, passed, after, addMember, addApproved, dropReserved, putInvite,
      withRevision, insert_insert_same]

/-! ## What an accepted call does -/

/-- An accepted call: the checks it has passed, and the policy it leaves. -/
inductive Effect (policy : GroupPolicy) : Operation → GroupPolicy → Prop
  | grantAdmin {expectedRevision nextRevision generation : Revision}
      {actorId administratorId : IdentityId}
      (advances : policy.Advances expectedRevision nextRevision)
      (owner : actorId = policy.ownerId) (not_owner : administratorId ≠ policy.ownerId)
      (not_administrator : administratorId ∉ policy.administrators)
      (slot : policy.administrators.size < maxAdmins)
      (term : policy.nextAdminAuthorizationGeneration administratorId = .ok generation) :
      Effect policy (.grantAdmin expectedRevision actorId administratorId) { policy with
        administrators := policy.administrators.insert administratorId
        administratorAuthorizationGenerations :=
          policy.administratorAuthorizationGenerations.insert administratorId generation
        members := policy.members.insert administratorId
        revision := nextRevision }
  | revokeAdmin {expectedRevision nextRevision : Revision} {actorId administratorId : IdentityId}
      (advances : policy.Advances expectedRevision nextRevision)
      (owner : actorId = policy.ownerId) (not_owner : administratorId ≠ policy.ownerId)
      (administrator : administratorId ∈ policy.administrators) :
      Effect policy (.revokeAdmin expectedRevision actorId administratorId) { policy with
        administrators := policy.administrators.erase administratorId
        revision := nextRevision }
  | removeMember {expectedRevision nextRevision : Revision} {actorId memberId : IdentityId}
      (advances : policy.Advances expectedRevision nextRevision)
      (owner : actorId = policy.ownerId) (not_owner : memberId ≠ policy.ownerId)
      (member : memberId ∈ policy.members) :
      Effect policy (.removeMember expectedRevision actorId memberId) { policy with
        administrators := policy.administrators.erase memberId
        members := policy.members.erase memberId
        revision := nextRevision }
  | issueInvite {expectedRevision nextRevision : Revision} {actorId : IdentityId}
      {inviteId : InviteCapabilityId} {targetId : Option IdentityId} {maxUses : UInt32}
      {expiresAtMs nowMs : Int64} {issuerAuthority : InviteIssuerAuthority}
      (advances : policy.Advances expectedRevision nextRevision)
      (term : policy.inviteIssuerAuthority actorId = .ok issuerAuthority)
      (fresh : inviteId ∉ policy.invitations) (limit : maxUses ≠ 0)
      (expiry : nowMs < expiresAtMs) :
      Effect policy
        (.issueInvite expectedRevision actorId inviteId targetId maxUses expiresAtMs nowMs)
        ((policy.withRevision nextRevision).putInvite inviteId
          { inviteId, scope := policy.scope, issuerId := actorId, targetId, maxUses,
            useCount := 0, reservedUseCount := 0, expiresAtMs, revoked := false,
            policyRevision := expectedRevision, issuerAuthority })
  | revokeInvite {expectedRevision nextRevision : Revision} {actorId : IdentityId}
      {inviteId : InviteCapabilityId} {invite : InviteCapability}
      (advances : policy.Advances expectedRevision nextRevision)
      (issuer : policy.canIssueInvite actorId = true)
      (found : policy.invitations[inviteId]? = some invite) (not_revoked : invite.revoked = false) :
      Effect policy (.revokeInvite expectedRevision actorId inviteId)
        ((policy.withRevision nextRevision).putInvite inviteId { invite with revoked := true })
  | requestJoin {expectedRevision nextRevision : Revision} {actorId candidateId : IdentityId}
      {requestId : JoinRequestId} {inviteId : InviteCapabilityId} {nowMs : Int64}
      {invite : InviteCapability} (advances : policy.Advances expectedRevision nextRevision)
      (self : actorId = candidateId) (outsider : candidateId ∉ policy.members)
      (new : NewRequest policy.pendingJoins policy.reservedJoins policy.approvedJoins requestId)
      (free : FreeCandidate policy.pendingJoins policy.reservedJoins candidateId)
      (found : policy.invitations[inviteId]? = some invite)
      (usable : policy.Usable invite candidateId nowMs) :
      Effect policy (.requestJoin expectedRevision actorId candidateId requestId inviteId nowMs)
        ((policy.withRevision nextRevision).addPending
          { requestId, candidateId, inviteId, requestedAtMs := nowMs })
  | reserveJoin {expectedRevision nextRevision : Revision} {actorId : IdentityId}
      {requestId : JoinRequestId} {nowMs : Int64} {authority : InviteIssuerAuthority}
      {pending : PendingJoinRequest} {invite : InviteCapability} {reservedUseCount : UInt32}
      {reservation : ReservedJoin} (advances : policy.Advances expectedRevision nextRevision)
      (approver : policy.canApproveJoin actorId = true)
      (term : policy.inviteIssuerAuthority actorId = .ok authority)
      (not_approved : requestId ∉ policy.approvedJoins)
      (not_reserved : requestId ∉ policy.reservedJoins)
      (present : policy.pendingJoins[requestId]? = some pending)
      (outsider : pending.candidateId ∉ policy.members)
      (found : policy.invitations[pending.inviteId]? = some invite)
      (usable : policy.Usable invite pending.candidateId nowMs)
      (counted : invite.reservedUseCount.toNat + 1 = reservedUseCount.toNat)
      (made :
        { pending with
          requestId, reservedBy := actorId, reservedAuthority := authority, reservedAtMs := nowMs,
          policyRevision := expectedRevision : ReservedJoin } = reservation)
      (returned : (policy.reserveJoin expectedRevision actorId requestId nowMs).1 =
        .ok reservation) :
      Effect policy (.reserveJoin expectedRevision actorId requestId nowMs)
        (((policy.withRevision nextRevision).dropPending requestId).addReserved reservation
          { invite with reservedUseCount })
  | finalizeReservedJoin {expectedRevision nextRevision : Revision} {requestId : JoinRequestId}
      {finalizedAtMs : Int64} {reservation : ReservedJoin} {invite : InviteCapability}
      {reservedUseCount useCount : UInt32} {approved : ApprovedJoin}
      (advances : policy.Advances expectedRevision nextRevision)
      (not_approved : requestId ∉ policy.approvedJoins)
      (present : policy.reservedJoins[requestId]? = some reservation)
      (outsider : reservation.candidateId ∉ policy.members)
      (found : policy.invitations[reservation.inviteId]? = some invite)
      (lowered : reservedUseCount.toNat + 1 = invite.reservedUseCount.toNat)
      (used : invite.useCount.toNat + 1 = useCount.toNat)
      (made :
        { reservation with
          requestId, approvedBy := reservation.reservedBy,
          approvedAtMs := finalizedAtMs : ApprovedJoin } = approved)
      (returned : (policy.finalizeReservedJoin expectedRevision requestId finalizedAtMs).1 =
        .ok approved) :
      Effect policy (.finalizeReservedJoin expectedRevision requestId finalizedAtMs)
        ((((policy.withRevision nextRevision).dropReserved requestId reservation.inviteId
          { invite with reservedUseCount }).addApproved approved
            { invite with reservedUseCount, useCount }).addMember reservation.candidateId)
  | releaseJoinReservation {expectedRevision nextRevision : Revision} {requestId : JoinRequestId}
      {reservation : ReservedJoin} {invite : InviteCapability} {reservedUseCount : UInt32}
      (advances : policy.Advances expectedRevision nextRevision)
      (present : policy.reservedJoins[requestId]? = some reservation)
      (found : policy.invitations[reservation.inviteId]? = some invite)
      (lowered : reservedUseCount.toNat + 1 = invite.reservedUseCount.toNat) :
      Effect policy (.releaseJoinReservation expectedRevision requestId)
        ((policy.withRevision nextRevision).dropReserved requestId reservation.inviteId
          { invite with reservedUseCount })
  | approveJoin {expectedRevision nextRevision : Revision} {actorId : IdentityId}
      {requestId : JoinRequestId} {nowMs : Int64} {pending : PendingJoinRequest}
      {invite : InviteCapability} {useCount : UInt32} {approved : ApprovedJoin}
      (advances : policy.Advances expectedRevision nextRevision)
      (approver : policy.canApproveJoin actorId = true)
      (not_approved : requestId ∉ policy.approvedJoins)
      (present : policy.pendingJoins[requestId]? = some pending)
      (outsider : pending.candidateId ∉ policy.members)
      (found : policy.invitations[pending.inviteId]? = some invite)
      (usable : policy.Usable invite pending.candidateId nowMs)
      (used : invite.useCount.toNat + 1 = useCount.toNat)
      (made :
        { pending with
          requestId, approvedBy := actorId, approvedAtMs := nowMs,
          policyRevision := expectedRevision : ApprovedJoin } = approved)
      (returned : (policy.approveJoin expectedRevision actorId requestId nowMs).1 =
        .ok approved) :
      Effect policy (.approveJoin expectedRevision actorId requestId nowMs)
        ((((policy.withRevision nextRevision).dropPending requestId).addApproved approved
          { invite with useCount }).addMember pending.candidateId)

/-- The call of an operation that returned a value. -/
theorem run_of_accepted {α : Type} {operation : Operation} {tried : Attempt α} {value : α}
    (runs : policy.run operation = tried.accepted) (accepted : tried = (.ok value, next)) :
    policy.run operation = (.ok (), next) :=
  runs.trans (accepted_eq_ok.mpr ⟨value, accepted⟩)

/-- Every accepted call has the effect of its operation. -/
theorem effect_of_run {operation : Operation} (outcome : policy.run operation = (.ok done, next)) :
    Effect policy operation next := by
  cases operation with
  | grantAdmin =>
    simp only [run, accepted_eq_ok, grantAdmin, attempt_eq_ok, bind_eq_ok,
      nextMutationRevision_eq_ok, ensureOwner_eq_ok, rejectIf_eq_ok, exists_const, pure_eq_ok,
      Prod.mk.injEq, ge_iff_le, Nat.not_le] at outcome
    obtain ⟨_, _, advances, owner, notOwner, notAdmin, slot, generation, term, -, rfl⟩ := outcome
    exact .grantAdmin advances owner notOwner notAdmin slot term
  | revokeAdmin =>
    simp only [run, accepted_eq_ok, revokeAdmin, attempt_eq_ok, bind_eq_ok,
      nextMutationRevision_eq_ok, ensureOwner_eq_ok, rejectIf_eq_ok, exists_const, pure_eq_ok,
      Prod.mk.injEq, not_not] at outcome
    obtain ⟨_, _, advances, owner, notOwner, admin, -, rfl⟩ := outcome
    exact .revokeAdmin advances owner notOwner admin
  | removeMember =>
    simp only [run, accepted_eq_ok, removeMember, attempt_eq_ok, bind_eq_ok,
      nextMutationRevision_eq_ok, ensureOwner_eq_ok, rejectIf_eq_ok, exists_const, pure_eq_ok,
      Prod.mk.injEq, not_not] at outcome
    obtain ⟨_, _, advances, owner, notOwner, member, -, rfl⟩ := outcome
    exact .removeMember advances owner notOwner member
  | issueInvite =>
    simp only [run, accepted_eq_ok, issueInvite, attempt_eq_ok, bind_eq_ok,
      nextMutationRevision_eq_ok, rejectIf_eq_ok, exists_const, pure_eq_ok, Prod.mk.injEq,
      Int64.not_le] at outcome
    obtain ⟨_, _, advances, _, term, fresh, limit, expiry, -, rfl⟩ := outcome
    exact .issueInvite advances term fresh limit expiry
  | revokeInvite =>
    simp only [run, accepted_eq_ok, revokeInvite, attempt_eq_ok, bind_eq_ok,
      nextMutationRevision_eq_ok, ensureInviteAuthority, okOr_eq_ok, rejectIf_eq_ok,
      exists_const, pure_eq_ok, Prod.mk.injEq, Bool.not_eq_true, Bool.not_eq_false] at outcome
    obtain ⟨_, _, advances, issuer, invite, found, notRevoked, -, rfl⟩ := outcome
    exact .revokeInvite advances issuer found notRevoked
  | requestJoin =>
    simp only [run, accepted_eq_ok, requestJoin, attempt_eq_ok, bind_eq_ok,
      nextMutationRevision_eq_ok, rejectIf_eq_ok, exists_const, okOr_eq_ok,
      ensureInviteUsable_eq_ok, pure_eq_ok, Prod.mk.injEq, ne_eq, not_not, Bool.not_eq_true,
      candidateHasActiveJoin_eq_false] at outcome
    obtain ⟨_, _, advances, self, outsider, notPending, notReserved, notApproved, free, invite,
      found, usable, -, rfl⟩ := outcome
    exact .requestJoin advances self outsider ⟨notPending, notReserved, notApproved⟩ free found
      usable
  | reserveJoin =>
    obtain ⟨reservation, accepted⟩ := accepted_eq_ok.mp outcome
    have returned := congrArg Prod.fst accepted
    simp only [reserveJoin, attempt_eq_ok, bind_eq_ok, nextMutationRevision_eq_ok,
      ensureApprovalAuthority, rejectIf_eq_ok, exists_const, okOr_eq_ok,
      ensureInviteUsable_eq_ok, checkedAdd_eq_some, pure_eq_ok, Prod.mk.injEq, Bool.not_eq_true,
      Bool.not_eq_false] at accepted
    obtain ⟨_, advances, approver, _, term, notApproved, notReserved, _, present, outsider, _,
      found, usable, _, counted, rfl, rfl⟩ := accepted
    exact .reserveJoin advances approver term notApproved notReserved present outsider found
      usable counted rfl returned
  | finalizeReservedJoin =>
    obtain ⟨approved, accepted⟩ := accepted_eq_ok.mp outcome
    obtain ⟨_, _, _, _, _, advances, notApproved, present, outsider, found, lowered, used, made,
      rfl⟩ := finalizeReservedJoin_eq_ok.mp accepted
    exact .finalizeReservedJoin advances notApproved present outsider found lowered used made
      (congrArg Prod.fst accepted)
  | releaseJoinReservation =>
    simp only [run, accepted_eq_ok, releaseJoinReservation, attempt_eq_ok, bind_eq_ok,
      nextMutationRevision_eq_ok, okOr_eq_ok, checkedSub_eq_some, pure_eq_ok,
      Prod.mk.injEq] at outcome
    obtain ⟨_, _, advances, _, present, _, found, _, lowered, -, rfl⟩ := outcome
    exact .releaseJoinReservation advances present found lowered
  | approveJoin =>
    obtain ⟨approved, accepted⟩ := accepted_eq_ok.mp outcome
    have returned := congrArg Prod.fst accepted
    simp only [approveJoin, attempt_eq_ok, bind_eq_ok, nextMutationRevision_eq_ok,
      ensureApprovalAuthority, rejectIf_eq_ok, exists_const, okOr_eq_ok,
      ensureInviteUsable_eq_ok, checkedAdd_eq_some, pure_eq_ok, Prod.mk.injEq, Bool.not_eq_true,
      Bool.not_eq_false] at accepted
    obtain ⟨_, advances, approver, notApproved, _, present, outsider, _, found, usable, _, used,
      rfl, rfl⟩ := accepted
    exact .approveJoin advances approver notApproved present outsider found usable used rfl
      returned

end GroupPolicy

end Dirextalk.Group
