import Dirextalk.Group.ValidationSpec

/-!
# Coherent policies

The cross-collection conditions of a policy, grouped by the collections they
read, so that an operation only has to answer for the groups it touches.  The
condition that ties joins to the member set is kept apart: it is the one that
role changes can break.  The snapshot validator accepts a listing without
duplicates exactly when the policy it stands for meets all of them.
-/

namespace Dirextalk.Group

open Domain Lib

/-! ## Conditions by collection -/

/-- The owner, the administrators and their terms. -/
structure RolesCoherent (ownerId : IdentityId) (administrators : TreeSet IdentityId)
    (generations : TreeMap IdentityId Revision) (members : TreeSet IdentityId) : Prop where
  owner_member : ownerId ∈ members
  administrators_le : administrators.size ≤ maxAdmins
  owner_not_administrator : ownerId ∉ administrators
  administrators_members : ∀ identityId ∈ administrators, identityId ∈ members
  owner_no_generation : ownerId ∉ generations
  administrators_generation : ∀ identityId ∈ administrators, identityId ∈ generations

/-- A reservation against the head of its group. -/
structure ReservationReached (ownerId : IdentityId) (generations : TreeMap IdentityId Revision)
    (revision : Revision) (reserved : ReservedJoin) : Prop where
  policyRevision_le : reserved.policyRevision ≤ revision
  authority : AuthorityReached ownerId generations reserved.reservedBy reserved.reservedAuthority

/-- Every stage of a join names an invitation of the group. -/
@[mk_iff]
structure InvitesKnown (invitations : TreeMap InviteCapabilityId InviteCapability)
    (pendingJoins : TreeMap JoinRequestId PendingJoinRequest)
    (reservedJoins : TreeMap JoinRequestId ReservedJoin)
    (approvedJoins : TreeMap JoinRequestId ApprovedJoin) : Prop where
  pending : AllValues (fun pending => pending.inviteId ∈ invitations) pendingJoins
  reserved : AllValues (fun reserved => reserved.inviteId ∈ invitations) reservedJoins
  approved : AllValues (fun approved => approved.inviteId ∈ invitations) approvedJoins

/-- A request is in one stage only, and a candidate has one join in flight. -/
@[mk_iff]
structure JoinsApart (pendingJoins : TreeMap JoinRequestId PendingJoinRequest)
    (reservedJoins : TreeMap JoinRequestId ReservedJoin)
    (approvedJoins : TreeMap JoinRequestId ApprovedJoin) : Prop where
  reserved_not_pending : ∀ requestId ∈ reservedJoins, requestId ∉ pendingJoins
  approved_not_reserved : ∀ requestId ∈ approvedJoins, requestId ∉ reservedJoins
  approved_not_pending : ∀ requestId ∈ approvedJoins, requestId ∉ pendingJoins
  pendingCandidates_distinct : DistinctBy PendingJoinRequest.candidateId pendingJoins
  reservedCandidates_distinct : DistinctBy ReservedJoin.candidateId reservedJoins
  candidates_apart : AllValues (fun reserved =>
    AllValues (fun pending => pending.candidateId ≠ reserved.candidateId) pendingJoins)
    reservedJoins

/-- The counters of an invitation are the reservations and approvals naming it. -/
def CountersAgree (reservedJoins : TreeMap JoinRequestId ReservedJoin)
    (approvedJoins : TreeMap JoinRequestId ApprovedJoin) (inviteId : InviteCapabilityId)
    (invite : InviteCapability) : Prop :=
  countValues (fun reserved => reserved.inviteId = inviteId) reservedJoins =
      invite.reservedUseCount.toNat ∧
    countValues (fun approved => approved.inviteId = inviteId) approvedJoins =
      invite.useCount.toNat

/-- Joins in flight are of outsiders, and approved joins are of members. -/
@[mk_iff]
structure JoinsMatchMembers (members : TreeSet IdentityId)
    (pendingJoins : TreeMap JoinRequestId PendingJoinRequest)
    (reservedJoins : TreeMap JoinRequestId ReservedJoin)
    (approvedJoins : TreeMap JoinRequestId ApprovedJoin) : Prop where
  pending : AllValues (fun pending => pending.candidateId ∉ members) pendingJoins
  reserved : AllValues (fun reserved => reserved.candidateId ∉ members) reservedJoins
  approved : AllValues (fun approved => approved.candidateId ∈ members) approvedJoins

namespace GroupPolicy

/-- Every record sits under its own identifier. -/
structure RecordsKeyed (policy : GroupPolicy) : Prop where
  invitations : Keyed InviteCapability.inviteId policy.invitations
  pending : Keyed PendingJoinRequest.requestId policy.pendingJoins
  reserved : Keyed ReservedJoin.requestId policy.reservedJoins
  approved : Keyed ApprovedJoin.requestId policy.approvedJoins

/-- All conditions except the one between joins and members. -/
structure Coherent (policy : GroupPolicy) : Prop where
  keyed : policy.RecordsKeyed
  roles : RolesCoherent policy.ownerId policy.administrators
    policy.administratorAuthorizationGenerations policy.members
  invitations : AllValues (InviteValid policy.scope policy.ownerId policy.revision
    policy.administratorAuthorizationGenerations) policy.invitations
  reservations : AllValues (ReservationReached policy.ownerId
    policy.administratorAuthorizationGenerations policy.revision) policy.reservedJoins
  approvals : AllValues (fun approved => approved.policyRevision ≤ policy.revision)
    policy.approvedJoins
  known : InvitesKnown policy.invitations policy.pendingJoins policy.reservedJoins
    policy.approvedJoins
  apart : JoinsApart policy.pendingJoins policy.reservedJoins policy.approvedJoins
  counters : ∀ (inviteId : InviteCapabilityId) invite,
    policy.invitations[inviteId]? = some invite →
      CountersAgree policy.reservedJoins policy.approvedJoins inviteId invite

/-- Joins in flight are of outsiders, and approved joins are of members. -/
def MembersMatch (policy : GroupPolicy) : Prop :=
  JoinsMatchMembers policy.members policy.pendingJoins policy.reservedJoins policy.approvedJoins

end GroupPolicy

/-! ## Coherence is what the validator checks -/

namespace GroupPolicySnapshot

variable {snapshot : GroupPolicySnapshot}

/-- No identifier is listed twice. -/
structure Distinct (snapshot : GroupPolicySnapshot) : Prop where
  members : snapshot.members.Nodup
  administrators : snapshot.administrators.Nodup
  generations : (snapshot.administratorAuthorizationGenerations.map Prod.fst).Nodup
  invitations : (snapshot.invitations.map InviteCapability.inviteId).Nodup
  pending : (snapshot.pendingJoins.map PendingJoinRequest.requestId).Nodup
  reserved : (snapshot.reservedJoins.map ReservedJoin.requestId).Nodup
  approved : (snapshot.approvedJoins.map ApprovedJoin.requestId).Nodup

theorem Distinct.keyed (distinct : snapshot.Distinct) : snapshot.assemble.RecordsKeyed where
  invitations := keyed_collect distinct.invitations
  pending := keyed_collect distinct.pending
  reserved := keyed_collect distinct.reserved
  approved := keyed_collect distinct.approved

theorem rolesCoherent_assemble :
    RolesCoherent snapshot.ownerId (collectSet snapshot.administrators) snapshot.generations
        (collectSet snapshot.members) ↔
      snapshot.ownerId ∈ snapshot.members ∧
        (collectSet snapshot.administrators).size ≤ maxAdmins ∧
        snapshot.ownerId ∉ snapshot.administrators ∧
        (∀ identityId ∈ snapshot.administrators, identityId ∈ snapshot.members) ∧
        (∀ entry ∈ snapshot.administratorAuthorizationGenerations, entry.1 ≠ snapshot.ownerId) ∧
        ∀ identityId ∈ snapshot.administrators,
          identityId ∈ snapshot.administratorAuthorizationGenerations.map Prod.fst := by
  constructor
  · rintro ⟨ownerMember, le, notAdmin, adminsMembers, noGeneration, generation⟩
    simp only [mem_collectSet] at ownerMember notAdmin adminsMembers generation
    refine ⟨ownerMember, le, notAdmin, adminsMembers, ?_,
      fun identityId admin => mem_collect.mp (generation identityId admin)⟩
    intro entry member same
    exact noGeneration (mem_collect.mpr (same ▸ List.mem_map_of_mem member))
  · rintro ⟨ownerMember, le, notAdmin, adminsMembers, noGeneration, generation⟩
    refine ⟨by simpa only [mem_collectSet], le, by simpa only [mem_collectSet],
      by simpa only [mem_collectSet], ?_, fun identityId admin =>
        mem_collect.mpr (generation identityId (mem_collectSet.mp admin))⟩
    intro owner
    obtain ⟨entry, member, same⟩ := List.mem_map.mp (mem_collect.mp owner)
    exact noGeneration entry member same

section Assembled

variable (distinct : snapshot.Distinct)
include distinct

theorem invitesKnown_assemble :
    InvitesKnown snapshot.assemble.invitations snapshot.assemble.pendingJoins
        snapshot.assemble.reservedJoins snapshot.assemble.approvedJoins ↔
      (∀ pending ∈ snapshot.pendingJoins,
          pending.inviteId ∈ snapshot.invitations.map InviteCapability.inviteId) ∧
        (∀ reserved ∈ snapshot.reservedJoins,
          reserved.inviteId ∈ snapshot.invitations.map InviteCapability.inviteId) ∧
        ∀ approved ∈ snapshot.approvedJoins,
          approved.inviteId ∈ snapshot.invitations.map InviteCapability.inviteId := by
  simp only [assemble, invitesKnown_iff, allValues_collect distinct.pending,
    allValues_collect distinct.reserved, allValues_collect distinct.approved, mem_collect]

theorem joinsApart_assemble :
    JoinsApart snapshot.assemble.pendingJoins snapshot.assemble.reservedJoins
        snapshot.assemble.approvedJoins ↔
      (∀ reserved ∈ snapshot.reservedJoins,
          reserved.requestId ∉ snapshot.pendingJoins.map PendingJoinRequest.requestId) ∧
        (∀ approved ∈ snapshot.approvedJoins,
          approved.requestId ∉ snapshot.reservedJoins.map ReservedJoin.requestId) ∧
        (∀ approved ∈ snapshot.approvedJoins,
          approved.requestId ∉ snapshot.pendingJoins.map PendingJoinRequest.requestId) ∧
        (snapshot.pendingJoins.map PendingJoinRequest.candidateId).Nodup ∧
        (snapshot.reservedJoins.map ReservedJoin.candidateId).Nodup ∧
        ∀ reserved ∈ snapshot.reservedJoins,
          reserved.candidateId ∉ snapshot.pendingJoins.map PendingJoinRequest.candidateId := by
  simp only [assemble, joinsApart_iff, allValues_collect distinct.pending,
    allValues_collect distinct.reserved, distinctBy_collect distinct.pending,
    distinctBy_collect distinct.reserved, mem_collect, List.mem_map, not_exists, not_and,
    ne_eq, forall_exists_index, and_imp, forall_apply_eq_imp_iff₂]

theorem joinsMatchMembers_assemble :
    snapshot.assemble.MembersMatch ↔
      (∀ pending ∈ snapshot.pendingJoins, pending.candidateId ∉ snapshot.members) ∧
        (∀ reserved ∈ snapshot.reservedJoins, reserved.candidateId ∉ snapshot.members) ∧
        ∀ approved ∈ snapshot.approvedJoins, approved.candidateId ∈ snapshot.members := by
  simp only [GroupPolicy.MembersMatch, assemble, joinsMatchMembers_iff,
    allValues_collect distinct.pending, allValues_collect distinct.reserved,
    allValues_collect distinct.approved, mem_collectSet]

theorem counters_assemble :
    (∀ (inviteId : InviteCapabilityId) invite,
        snapshot.assemble.invitations[inviteId]? = some invite →
          CountersAgree snapshot.assemble.reservedJoins snapshot.assemble.approvedJoins inviteId
            invite) ↔
      ∀ invite ∈ snapshot.invitations,
        (snapshot.reservedJoins.countP fun reserved => reserved.inviteId = invite.inviteId) =
            invite.reservedUseCount.toNat ∧
          (snapshot.approvedJoins.countP fun approved => approved.inviteId = invite.inviteId) =
            invite.useCount.toNat := by
  simp only [assemble, CountersAgree, lookup_collect distinct.invitations,
    countValues_collect _ distinct.reserved, countValues_collect _ distinct.approved, id_eq]
  constructor
  · intro counted invite member
    exact counted invite.inviteId invite ⟨invite, member, rfl, rfl⟩
  · rintro counted _ _ ⟨invite, member, rfl, rfl⟩
    exact counted invite member

end Assembled

/-- The validator accepts exactly the duplicate-free listings of coherent policies. -/
theorem groupPolicyFromSnapshot_eq_ok_iff {policy : GroupPolicy} :
    groupPolicyFromSnapshot snapshot = .ok policy ↔
      snapshot.Distinct ∧ snapshot.assemble = policy ∧ policy.Coherent ∧ policy.MembersMatch := by
  -- The loop rules turn the validator into one flat conjunction of its checks.
  simp only [groupPolicyFromSnapshot, bind_eq_ok, collectSnapshotSet_eq_ok, rejectIf_eq_ok,
    exists_const, collectGenerations_eq_ok, collectInvitations_eq_ok, scanPending_loop,
    scanReserved_loop, scanApproved_loop, forM_eq_ok, pure_eq_ok, not_not,
    Std.ExtTreeSet.mem_toList, and_assoc, exists_and_left, exists_eq_left', mem_collectSet,
    mem_collect, FreshIds, FreshCandidates, JoinScan.mem_seen_addPending,
    JoinScan.mem_seen_addReserved, JoinScan.mem_active_addPending, JoinScan.start_seen,
    JoinScan.start_active, or_false, not_false_eq_true, implies_true, true_and, not_or,
    not_exists, not_and, reservations_before, uses_before, Nat.zero_add, Nat.not_lt, gt_iff_lt]
  constructor
  · rintro ⟨membersDistinct, ownerMember, adminsDistinct, adminsLe, ownerNotAdmin, adminsMembers,
      generationsDistinct, ownerNoGeneration, adminsGeneration, invitesValid, invitesDistinct,
      pendingDistinct, pendingCandidates, pendingValid, reservedDistinct, reservedFresh,
      reservedCandidates, reservedFree, reservations, reservedValid, approvedDistinct,
      approvedFresh, uses, approvedValid, counters, assembled⟩
    obtain rfl : snapshot.assemble = policy := assemble_eq.trans assembled
    have distinct : snapshot.Distinct := ⟨membersDistinct, adminsDistinct, generationsDistinct,
      invitesDistinct, pendingDistinct, reservedDistinct, approvedDistinct⟩
    have counted := (checkCounters_all invitesDistinct reservations uses).mp counters
    refine ⟨distinct, rfl, ⟨distinct.keyed, ?_, ?_, ?_, ?_, ?_, ?_, ?_⟩, ?_⟩
    · exact rolesCoherent_assemble.mpr ⟨ownerMember, adminsLe, ownerNotAdmin, adminsMembers,
        ownerNoGeneration, adminsGeneration⟩
    · exact (allValues_collect invitesDistinct).mpr invitesValid
    · refine (allValues_collect reservedDistinct).mpr fun reserved member => ?_
      obtain ⟨-, -, policyRevision, authority⟩ := reservedValid reserved member
      exact ⟨policyRevision, authority⟩
    · exact (allValues_collect approvedDistinct).mpr fun approved member =>
        (approvedValid approved member).2.2
    · exact (invitesKnown_assemble distinct).mpr
        ⟨fun pending member => (pendingValid pending member).1,
          fun reserved member => (reservedValid reserved member).1,
          fun approved member => (approvedValid approved member).1⟩
    · exact (joinsApart_assemble distinct).mpr ⟨reservedFresh,
        fun approved member => (approvedFresh approved member).1,
        fun approved member => (approvedFresh approved member).2, pendingCandidates,
        reservedCandidates, reservedFree⟩
    · exact (counters_assemble distinct).mpr counted
    · exact (joinsMatchMembers_assemble distinct).mpr
        ⟨fun pending member => (pendingValid pending member).2,
          fun reserved member => (reservedValid reserved member).2.1,
          fun approved member => (approvedValid approved member).2.1⟩
  · rintro ⟨distinct, rfl, coherent, matched⟩
    obtain ⟨ownerMember, adminsLe, ownerNotAdmin, adminsMembers, noGeneration, generation⟩ :=
      rolesCoherent_assemble.mp coherent.roles
    obtain ⟨pendingKnown, reservedKnown, approvedKnown⟩ :=
      (invitesKnown_assemble distinct).mp coherent.known
    obtain ⟨reservedPending, approvedReserved, approvedPending, pendingCandidates,
      reservedCandidates, candidatesApart⟩ := (joinsApart_assemble distinct).mp coherent.apart
    obtain ⟨pendingMatch, reservedMatch, approvedMatch⟩ :=
      (joinsMatchMembers_assemble distinct).mp matched
    have reached := (allValues_collect distinct.reserved).mp coherent.reservations
    have approvals := (allValues_collect distinct.approved).mp coherent.approvals
    have counted := (counters_assemble distinct).mp coherent.counters
    have reservations := total_lt reservedKnown fun invite member => (counted invite member).1
    have uses := total_lt approvedKnown fun invite member => (counted invite member).2
    exact ⟨distinct.members, ownerMember, distinct.administrators, adminsLe, ownerNotAdmin,
      adminsMembers, distinct.generations, noGeneration, generation,
      (allValues_collect distinct.invitations).mp coherent.invitations, distinct.invitations,
      distinct.pending, pendingCandidates,
      fun pending member => ⟨pendingKnown pending member, pendingMatch pending member⟩,
      distinct.reserved, reservedPending, reservedCandidates, candidatesApart, reservations,
      fun reserved member => ⟨reservedKnown reserved member, reservedMatch reserved member,
        (reached reserved member).policyRevision_le, (reached reserved member).authority⟩,
      distinct.approved,
      fun approved member => ⟨approvedReserved approved member, approvedPending approved member⟩,
      uses, fun approved member => ⟨approvedKnown approved member, approvedMatch approved member,
        approvals approved member⟩,
      (checkCounters_all distinct.invitations reservations uses).mpr counted, assemble_eq.symm⟩

end GroupPolicySnapshot

namespace GroupPolicy

variable {policy : GroupPolicy}

theorem RecordsKeyed.snapshot_distinct (keyed : policy.RecordsKeyed) :
    policy.snapshot.Distinct where
  members := set_toList_nodup _
  administrators := set_toList_nodup _
  generations := keys_toList_nodup _
  invitations := keyed.invitations.values_distinct
  pending := keyed.pending.values_distinct
  reserved := keyed.reserved.values_distinct
  approved := keyed.approved.values_distinct

theorem RecordsKeyed.assemble_snapshot (keyed : policy.RecordsKeyed) :
    policy.snapshot.assemble = policy := by
  simp only [GroupPolicySnapshot.assemble, GroupPolicySnapshot.generations, snapshot,
    collectSet_toList, collect_toList, keyed.invitations.collect_values,
    keyed.pending.collect_values, keyed.reserved.collect_values, keyed.approved.collect_values]

/-- A policy survives rehydration exactly when it is coherent and its joins match
its members. -/
theorem tryFromSnapshot_snapshot_iff :
    tryFromSnapshot policy.snapshot = .ok policy ↔ policy.Coherent ∧ policy.MembersMatch := by
  rw [tryFromSnapshot, GroupPolicySnapshot.groupPolicyFromSnapshot_eq_ok_iff]
  constructor
  · rintro ⟨-, -, coherent, matched⟩
    exact ⟨coherent, matched⟩
  · rintro ⟨coherent, matched⟩
    exact ⟨coherent.keyed.snapshot_distinct, coherent.keyed.assemble_snapshot, coherent, matched⟩

end GroupPolicy

end Dirextalk.Group
