import Dirextalk.Group.AggregateSpec

/-!
# Rehydration of reachable policies

Every operation keeps a policy coherent, whatever its arguments, so a reachable
policy survives its own snapshot exactly when its joins match its members.  Two
operations can end that match: granting an administrator role to a candidate
whose join is in flight, and removing a member that an approved join admitted.
-/

namespace Dirextalk.Group

open Domain Lib

namespace GroupPolicy

variable {policy next : GroupPolicy} {expectedRevision : Revision} {actorId : IdentityId}

/-! ## Roles -/

variable {administratorId : IdentityId}

theorem nextGeneration_grows {generation : Revision}
    (term : policy.nextAdminAuthorizationGeneration administratorId = .ok generation) :
    TermsGrow policy.administratorAuthorizationGenerations
      (policy.administratorAuthorizationGenerations.insert administratorId generation) := by
  intro holder current found
  rw [lookup_insert]
  by_cases same : holder = administratorId
  · rw [if_pos same]
    refine ⟨generation, rfl, ?_⟩
    rw [nextAdminAuthorizationGeneration, ← same, found] at term
    exact Revision.le_of_checkedNext (mapError_eq_ok.mp term)
  · rw [if_neg same]
    exact ⟨current, found, Revision.le_refl _⟩

/-- Gaining an administrator within the limit keeps the roles coherent. -/
theorem insertAdministrator_roles (generation : Revision)
    (roles : RolesCoherent policy.ownerId policy.administrators
      policy.administratorAuthorizationGenerations policy.members)
    (notOwner : administratorId ≠ policy.ownerId) (limit : policy.administrators.size < maxAdmins) :
    RolesCoherent policy.ownerId (policy.administrators.insert administratorId)
      (policy.administratorAuthorizationGenerations.insert administratorId generation)
      (policy.members.insert administratorId) where
  owner_member := mem_set_insert.mpr (.inr roles.owner_member)
  administrators_le := Nat.le_trans Std.ExtTreeSet.size_insert_le limit
  owner_not_administrator := by
    rw [mem_set_insert, not_or]
    exact ⟨notOwner.symm, roles.owner_not_administrator⟩
  administrators_members := by
    simp only [mem_set_insert]
    exact fun identityId => Or.imp_right (roles.administrators_members identityId)
  owner_no_generation := by
    rw [mem_insert_key, not_or]
    exact ⟨notOwner.symm, roles.owner_no_generation⟩
  administrators_generation := by
    simp only [mem_set_insert, mem_insert_key]
    exact fun identityId => Or.imp_right (roles.administrators_generation identityId)

/-- Losing administrators keeps the roles coherent. -/
theorem eraseAdministrator_roles {members : TreeSet IdentityId} (identityId : IdentityId)
    (roles : RolesCoherent policy.ownerId policy.administrators
      policy.administratorAuthorizationGenerations policy.members)
    (owner : policy.ownerId ∈ members)
    (kept : ∀ other ∈ policy.members, other ≠ identityId → other ∈ members) :
    RolesCoherent policy.ownerId (policy.administrators.erase identityId)
      policy.administratorAuthorizationGenerations members where
  owner_member := owner
  administrators_le := Nat.le_trans Std.ExtTreeSet.size_erase_le roles.administrators_le
  owner_not_administrator erased :=
    roles.owner_not_administrator (mem_set_erase.mp erased).2
  administrators_members other erased := by
    obtain ⟨apart, admin⟩ := mem_set_erase.mp erased
    exact kept other (roles.administrators_members other admin) apart
  owner_no_generation := roles.owner_no_generation
  administrators_generation other erased :=
    roles.administrators_generation other (mem_set_erase.mp erased).2

/-! ## One call -/

variable {operation : Operation}

/-- An accepted call leaves a coherent policy coherent. -/
theorem Coherent.accepted (coherent : policy.Coherent) (effect : policy.Effect operation next) :
    next.Coherent := by
  cases effect with
  | @grantAdmin _ _ generation _ administratorId advances owner notOwner notAdmin slot term =>
    have roles := insertAdministrator_roles generation coherent.roles notOwner slot
    exact (coherent.withRoles roles (nextGeneration_grows term)).withRevision advances.le
  | @revokeAdmin _ _ _ administratorId advances =>
    have roles := eraseAdministrator_roles administratorId coherent.roles
      coherent.roles.owner_member fun other member _ => member
    exact (coherent.withRoles roles (.refl _)).withRevision advances.le
  | @removeMember _ _ _ memberId advances owner notOwner =>
    have roles := eraseAdministrator_roles memberId coherent.roles
      (mem_set_erase.mpr ⟨notOwner.symm, coherent.roles.owner_member⟩)
      fun other member apart => mem_set_erase.mpr ⟨apart, member⟩
    exact (coherent.withRoles roles (.refl _)).withRevision advances.le
  | issueInvite advances term fresh limit =>
    have current := advances.1
    refine (coherent.withRevision advances.le).addInvite fresh ⟨rfl, ?_⟩ rfl rfl
    exact {
      scope_eq := rfl
      maxUses_ne := limit
      uses_le := Nat.zero_le _
      policyRevision_le := current ▸ advances.le
      authority := inviteIssuerAuthority_reached term }
  | @revokeInvite _ _ _ inviteId invite advances issuer found =>
    have raised := coherent.withRevision advances.le
    have fits := raised.fits found
    exact raised.putInvite ⟨fits.carries, { fits.valid with }⟩
      (coherent.counters inviteId invite found)
  | requestJoin advances self outsider new free found =>
    exact (coherent.withRevision advances.le).addPending new free
      (mem_iff_lookup.mpr ⟨_, found⟩)
  | reserveJoin advances approver term notApproved notReserved present outsider found usable
      counted made =>
      cases made
      have limit := usable.uses_lt
      refine ((coherent.withRevision advances.le).dropPending _).addReserved
        ⟨not_mem_erase_self _ _, notReserved, notApproved⟩
        (coherent.apart.free_of_pending present)
        ⟨advances.1 ▸ advances.le, inviteIssuerAuthority_reached term⟩ found counted ?_
      omega
  | releaseJoinReservation advances present found lowered =>
    exact (coherent.withRevision advances.le).dropReserved present found lowered
  | @finalizeReservedJoin _ _ requestId _ reservation invite count useCount _ advances notApproved
      present outsider found lowered used made =>
      cases made
      have released := (coherent.withRevision advances.le).dropReserved present found lowered
      have notPending := coherent.apart.reserved_not_pending requestId
        (mem_iff_lookup.mpr ⟨reservation, present⟩)
      have reached := (coherent.reservations requestId reservation present).policyRevision_le
      have limit := (coherent.fits found).valid.uses_le
      refine Coherent.addMember (released.addApproved { invite with reservedUseCount := count } ?_
        ?_ (lookup_insert_self _ _ _) used ?_) _
      · exact ⟨notPending, not_mem_erase_self _ _, notApproved⟩
      · exact Revision.le_trans reached advances.le
      · change useCount.toNat + count.toNat ≤ invite.maxUses.toNat
        omega
  | @approveJoin _ _ _ requestId _ pending invite _ _ advances approver notApproved present outsider
      found usable used made =>
      cases made
      have notReserved (reserved : requestId ∈ policy.reservedJoins) : False :=
        coherent.apart.reserved_not_pending requestId reserved
          (mem_iff_lookup.mpr ⟨pending, present⟩)
      have limit := usable.uses_lt
      refine Coherent.addMember ?_ pending.candidateId
      refine ((coherent.withRevision advances.le).dropPending requestId).addApproved invite
        ⟨not_mem_erase_self _ _, notReserved, notApproved⟩ (advances.1 ▸ advances.le) found used ?_
      omega

variable {error : GroupPolicyError}

/-- In a coherent policy, raising the use count of a reserved invitation cannot
overflow, so a rejected finalization has written nothing. -/
theorem Coherent.finalizeReservedJoin_rejected (coherent : policy.Coherent)
    {requestId : JoinRequestId} {finalizedAtMs : Int64}
    (rejected : policy.finalizeReservedJoin expectedRevision requestId finalizedAtMs =
      (.error error, next)) : next = policy := by
  unfold GroupPolicy.finalizeReservedJoin at rejected
  split at rejected
  · cases rejected
    rfl
  next nextRevision reservation lowered passed =>
    obtain ⟨invite, count, -, -, -, -, found, less, rfl⟩ := finalizeChecks_eq_ok.mp passed
    have limit := (coherent.fits found).valid.uses_le
    have small : invite.useCount.toNat + 1 < UInt32.size := by
      have := UInt32.toNat_lt invite.maxUses
      simp only [UInt32.size]
      omega
    have raised : checkedAdd invite.useCount 1 = some (.ofNat (invite.useCount.toNat + 1)) := by
      rw [checkedAdd_eq_some, UInt32.toNat_ofNat_of_lt' small]
      rfl
    rw [raised] at rejected
    cases rejected

/-- A rejected call leaves a coherent policy as it was. -/
theorem Coherent.run_rejected (coherent : policy.Coherent)
    (rejected : policy.run operation = (.error error, next)) : next = policy := by
  cases operation with
  | finalizeReservedJoin expectedRevision requestId finalizedAtMs =>
    rcases outcome : policy.finalizeReservedJoin expectedRevision requestId finalizedAtMs with
      ⟨_ | approved, after⟩
    all_goals
      simp only [run, outcome, Attempt.accepted] at rejected
      cases rejected
    exact coherent.finalizeReservedJoin_rejected outcome
  | _ => exact attempt_rejected rejected

/-- Every call leaves a coherent policy coherent. -/
theorem Coherent.run (coherent : policy.Coherent) (operation : Operation) :
    (policy.run operation).2.Coherent := by
  rcases outcome : policy.run operation with ⟨error | done, next⟩
  · rw [coherent.run_rejected outcome]
    exact coherent
  · exact coherent.accepted (effect_of_run outcome)

/-! ## Calls that keep joins and members in step -/

theorem new_coherent (scope : GroupScope) (ownerId : IdentityId) :
    (new scope ownerId).Coherent where
  keyed := ⟨keyed_empty _, keyed_empty _, keyed_empty _, keyed_empty _⟩
  roles := by
    constructor <;> simp [new]
  invitations := allValues_empty _
  reservations := allValues_empty _
  approvals := allValues_empty _
  known := ⟨allValues_empty _, allValues_empty _, allValues_empty _⟩
  apart := by
    constructor <;> simp [new, DistinctBy, AllValues]
  counters := by
    simp [new]

theorem new_membersMatch (scope : GroupScope) (ownerId : IdentityId) :
    (new scope ownerId).MembersMatch :=
  ⟨allValues_empty _, allValues_empty _, allValues_empty _⟩

/-- The call of `grant_admin` passes its checks on this policy. -/
structure GrantPasses (policy : GroupPolicy) (expectedRevision : Revision)
    (actorId administratorId : IdentityId) : Prop where
  revision_current : expectedRevision = policy.revision
  revision_left : ∃ value, policy.revision.checkedNext = .ok value
  actor_owner : actorId = policy.ownerId
  not_owner : administratorId ≠ policy.ownerId
  not_administrator : administratorId ∉ policy.administrators
  slot_left : policy.administrators.size < maxAdmins
  term_left : ∃ generation,
    policy.nextAdminAuthorizationGeneration administratorId = .ok generation

/-- The call of `remove_member` passes its checks on this policy. -/
structure RemovalPasses (policy : GroupPolicy) (expectedRevision : Revision)
    (actorId memberId : IdentityId) : Prop where
  revision_current : expectedRevision = policy.revision
  revision_left : ∃ value, policy.revision.checkedNext = .ok value
  actor_owner : actorId = policy.ownerId
  not_owner : memberId ≠ policy.ownerId
  member : memberId ∈ policy.members

/-- A call that does not turn a candidate in flight into a member by role, and
does not remove a member that an approved join admitted. -/
def SafeRoleChange (policy : GroupPolicy) : Operation → Prop
  | .grantAdmin expectedRevision actorId administratorId =>
      policy.GrantPasses expectedRevision actorId administratorId →
        policy.candidateHasActiveJoin administratorId = false
  | .removeMember expectedRevision actorId memberId =>
      policy.RemovalPasses expectedRevision actorId memberId →
        ∀ approved ∈ values policy.approvedJoins, approved.candidateId ≠ memberId
  | _ => True

theorem grantAdmin_accepted_iff :
    (∃ value next, policy.grantAdmin expectedRevision actorId administratorId =
        (.ok value, next)) ↔
      policy.GrantPasses expectedRevision actorId administratorId := by
  simp only [grantAdmin, attempt_eq_ok, bind_eq_ok, nextMutationRevision_eq_ok, Advances,
    ensureOwner_eq_ok, rejectIf_eq_ok, exists_const, pure_eq_ok, Prod.mk.injEq, ge_iff_le,
    Nat.not_le]
  constructor
  · rintro ⟨_, _, value, ⟨current, raised⟩, owner, notOwner, notAdmin, slot, generation, term, -⟩
    exact ⟨current, ⟨value, raised⟩, owner, notOwner, notAdmin, slot, ⟨generation, term⟩⟩
  · rintro ⟨current, ⟨value, raised⟩, owner, notOwner, notAdmin, slot, ⟨generation, term⟩⟩
    exact ⟨_, _, value, ⟨current, raised⟩, owner, notOwner, notAdmin, slot, generation, term, rfl,
      rfl⟩

theorem removeMember_accepted_iff :
    (∃ value next, policy.removeMember expectedRevision actorId memberId = (.ok value, next)) ↔
      policy.RemovalPasses expectedRevision actorId memberId := by
  simp only [removeMember, attempt_eq_ok, bind_eq_ok, nextMutationRevision_eq_ok, Advances,
    ensureOwner_eq_ok, rejectIf_eq_ok, exists_const, pure_eq_ok, Prod.mk.injEq, not_not]
  constructor
  · rintro ⟨_, _, value, ⟨current, raised⟩, owner, notOwner, member, -⟩
    exact ⟨current, ⟨value, raised⟩, owner, notOwner, member⟩
  · rintro ⟨current, ⟨value, raised⟩, owner, notOwner, member⟩
    exact ⟨_, _, value, ⟨current, raised⟩, owner, notOwner, member, rfl, rfl⟩

/-- A rejected role change is a safe one. -/
theorem safe_of_rejected (rejected : policy.run operation = (.error error, next)) :
    policy.SafeRoleChange operation := by
  cases operation with
  | grantAdmin =>
    intro passes
    obtain ⟨value, after, accepted⟩ := grantAdmin_accepted_iff.mpr passes
    simp [GroupPolicy.run, accepted, Attempt.accepted, Except.map] at rejected
  | removeMember =>
    intro passes
    obtain ⟨value, after, accepted⟩ := removeMember_accepted_iff.mpr passes
    simp [GroupPolicy.run, accepted, Attempt.accepted, Except.map] at rejected
  | _ => trivial

/-- An accepted call keeps joins and members in step exactly when it is a safe one. -/
theorem Coherent.membersMatch_iff (coherent : policy.Coherent) (matched : policy.MembersMatch)
    (effect : policy.Effect operation next) :
    next.MembersMatch ↔ policy.SafeRoleChange operation := by
  cases effect with
  | @grantAdmin _ nextRevision generation _ administratorId advances owner notOwner notAdmin slot
      term =>
      have passes : policy.GrantPasses _ _ administratorId :=
        ⟨advances.1, ⟨nextRevision, advances.2⟩, owner, notOwner, notAdmin, slot, generation, term⟩
      simp only [SafeRoleChange, passes, true_imp_iff, candidateHasActiveJoin_eq_false]
      exact matched.insert_iff administratorId
  | @removeMember _ nextRevision _ memberId advances owner notOwner member =>
    have passes : policy.RemovalPasses _ _ memberId :=
      ⟨advances.1, ⟨nextRevision, advances.2⟩, owner, notOwner, member⟩
    simp only [SafeRoleChange, passes, true_imp_iff]
    rw [forall_mem_values]
    exact matched.erase_iff memberId
  | requestJoin advances self outsider =>
    exact iff_of_true { matched with pending := matched.pending.insert outsider } trivial
  | reserveJoin advances approver term notApproved notReserved present outsider found usable
      counted made =>
      cases made
      refine iff_of_true ?_ trivial
      exact { matched with
        pending := matched.pending.erase _
        reserved := matched.reserved.insert outsider }
  | releaseJoinReservation =>
    exact iff_of_true { matched with reserved := matched.reserved.erase _ } trivial
  | @finalizeReservedJoin _ _ requestId _ reservation _ _ _ _ advances notApproved present outsider
      found lowered used made =>
      cases made
      have released : JoinsMatchMembers policy.members policy.pendingJoins
          (policy.reservedJoins.erase requestId) policy.approvedJoins :=
        { matched with reserved := matched.reserved.erase requestId }
      exact iff_of_true (released.approve (coherent.apart.free_of_reserved present) rfl) trivial
  | @approveJoin _ _ _ requestId _ pending _ _ _ advances approver notApproved present outsider
      found usable used made =>
      cases made
      have dropped : JoinsMatchMembers policy.members (policy.pendingJoins.erase requestId)
          policy.reservedJoins policy.approvedJoins :=
        { matched with pending := matched.pending.erase requestId }
      exact iff_of_true (dropped.approve (coherent.apart.free_of_pending present) rfl) trivial
  | revokeAdmin | issueInvite | revokeInvite => exact iff_of_true matched trivial

/-- A call keeps joins and members in step exactly when it is a safe one. -/
theorem run_membersMatch_iff (coherent : policy.Coherent) (matched : policy.MembersMatch)
    (operation : Operation) :
    (policy.run operation).2.MembersMatch ↔ policy.SafeRoleChange operation := by
  rcases outcome : policy.run operation with ⟨error | done, next⟩
  · rw [coherent.run_rejected outcome]
    exact iff_of_true matched (safe_of_rejected outcome)
  · exact coherent.membersMatch_iff matched (effect_of_run outcome)

end GroupPolicy

/-! ## Runs -/

/-- A group as it is created. -/
def Created (policy : GroupPolicy) : Prop := ∃ scope ownerId, policy = .new scope ownerId

/-- Any call of a mutating operation, accepted or not. -/
def Call (policy : GroupPolicy) (operation : Operation) (next : GroupPolicy) : Prop :=
  (policy.run operation).2 = next

/-- A call that is safe for the joins of the policy. -/
def SafeCall (policy : GroupPolicy) (operation : Operation) (next : GroupPolicy) : Prop :=
  policy.SafeRoleChange operation ∧ Call policy operation next

/-- Every reachable policy is coherent. -/
theorem reached_coherent {policy : GroupPolicy} (reached : Reached Created Call policy) :
    policy.Coherent := by
  refine reached.invariant GroupPolicy.Coherent ?_ ?_
  · rintro _ ⟨scope, ownerId, rfl⟩
    exact GroupPolicy.new_coherent scope ownerId
  · rintro policy operation _ coherent rfl
    exact coherent.run operation

/-- In a run of safe calls every policy survives rehydration unchanged; and from
any reachable policy that does, the next one does exactly when the call is safe. -/
theorem rehydration_along_runs (policy : GroupPolicy) :
    (Reached Created SafeCall policy →
      GroupPolicy.tryFromSnapshot policy.snapshot = .ok policy) ∧
    ∀ operation, Reached Created Call policy →
      GroupPolicy.tryFromSnapshot policy.snapshot = .ok policy →
        (GroupPolicy.tryFromSnapshot (policy.run operation).2.snapshot =
            .ok (policy.run operation).2 ↔
          policy.SafeRoleChange operation) := by
  constructor
  · intro reached
    rw [GroupPolicy.tryFromSnapshot_snapshot_iff]
    refine reached.invariant (fun policy => policy.Coherent ∧ policy.MembersMatch) ?_ ?_
    · rintro _ ⟨scope, ownerId, rfl⟩
      exact ⟨GroupPolicy.new_coherent scope ownerId, GroupPolicy.new_membersMatch scope ownerId⟩
    · rintro policy operation _ ⟨coherent, matched⟩ ⟨safe, rfl⟩
      exact ⟨coherent.run operation,
        (GroupPolicy.run_membersMatch_iff coherent matched operation).mpr safe⟩
  · intro operation reached rehydrates
    have matched := (GroupPolicy.tryFromSnapshot_snapshot_iff.mp rehydrates).2
    have coherent := reached_coherent reached
    rw [GroupPolicy.tryFromSnapshot_snapshot_iff,
      GroupPolicy.run_membersMatch_iff coherent matched operation]
    exact and_iff_right (coherent.run operation)

/-! ### A group whose owner admits and removes one member -/

def sampleGroup : GroupPolicy := .new (.privateConversation (.tagged 9)) (.tagged 0)

def revisionTwo : Revision := ⟨2, by decide, by decide⟩
def revisionThree : Revision := ⟨3, by decide, by decide⟩
def revisionFour : Revision := ⟨4, by decide, by decide⟩

def invitation : Operation := .issueInvite .initial (.tagged 0) (.tagged 1) none 1 10 0

def request : Operation :=
  .requestJoin revisionTwo (.tagged 1) (.tagged 1) (.tagged 2) (.tagged 1) 1

def approval : Operation := .approveJoin revisionThree (.tagged 0) (.tagged 2) 2

def promotion : Operation := .grantAdmin revisionThree (.tagged 0) (.tagged 1)

def removal : Operation := .removeMember revisionFour (.tagged 0) (.tagged 1)

/-- Candidate 1 has asked to join with invitation 1. -/
def askingGroup : GroupPolicy := ((sampleGroup.run invitation).2.run request).2

def admittedGroup : GroupPolicy := (askingGroup.run approval).2

theorem askingGroup_reached : Reached Created SafeCall askingGroup :=
  .next request (.next invitation (.initial ⟨_, _, rfl⟩) ⟨trivial, rfl⟩) ⟨trivial, rfl⟩

theorem admittedGroup_reached : Reached Created SafeCall admittedGroup :=
  .next approval askingGroup_reached ⟨trivial, rfl⟩

theorem reached_of_safe {policy : GroupPolicy} (reached : Reached Created SafeCall policy) :
    Reached Created Call policy :=
  reached.mono fun _ _ _ taken => taken.2

theorem rehydration_along_sample_run :
    GroupPolicy.tryFromSnapshot admittedGroup.snapshot = .ok admittedGroup ∧
      (GroupPolicy.tryFromSnapshot (admittedGroup.run removal).2.snapshot =
          .ok (admittedGroup.run removal).2 ↔
        admittedGroup.SafeRoleChange removal) :=
  have rehydrates := (rehydration_along_runs admittedGroup).1 admittedGroup_reached
  ⟨rehydrates, (rehydration_along_runs admittedGroup).2 removal
    (reached_of_safe admittedGroup_reached) rehydrates⟩

/-- Removing a member that an approved join admitted, and promoting a candidate
whose request is pending, leave policies that their own validator rejects. -/
theorem role_changes_break_rehydration :
    Reached Created Call (admittedGroup.run removal).2 ∧
      GroupPolicy.tryFromSnapshot (admittedGroup.run removal).2.snapshot =
        .error (.invalidSnapshot "invalid approved join") ∧
      Reached Created Call (askingGroup.run promotion).2 ∧
      GroupPolicy.tryFromSnapshot (askingGroup.run promotion).2.snapshot =
        .error (.invalidSnapshot "invalid pending join") :=
  ⟨.next _ (reached_of_safe admittedGroup_reached) rfl, rfl,
    .next _ (reached_of_safe askingGroup_reached) rfl, rfl⟩

end Dirextalk.Group
