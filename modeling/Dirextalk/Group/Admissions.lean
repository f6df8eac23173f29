import Dirextalk.Group.Rehydration

/-!
# Admissions through an invitation

A candidate is admitted by approving a pending join or by finalizing a reserved
one.  The records of admitted joins are never dropped, so the counters of an
invitation bound the admissions of a whole run, and a reservation can be
finalized exactly while its candidate is outside the group.
-/

namespace Dirextalk.Group

open Domain Lib

/-! ## What a call does to the invitations -/

/-- The same invitation with other counters, possibly revoked. -/
def SameInvite (before after : InviteCapability) : Prop :=
  { after with
    useCount := before.useCount
    reservedUseCount := before.reservedUseCount
    revoked := before.revoked } = before

theorem SameInvite.trans {before middle after : InviteCapability} (first : SameInvite before middle)
    (second : SameInvite middle after) : SameInvite before after := by
  rw [SameInvite, ← second] at first
  exact first

theorem SameInvite.maxUses {before after : InviteCapability} (same : SameInvite before after) :
    after.maxUses = before.maxUses := by
  rw [← show { after with
    useCount := before.useCount
    reservedUseCount := before.reservedUseCount
    revoked := before.revoked } = before from same]

theorem SameInvite.issuer {before after : InviteCapability} (same : SameInvite before after) :
    after.issuerId = before.issuerId ∧ after.issuerAuthority = before.issuerAuthority := by
  rw [← show { after with
    useCount := before.useCount
    reservedUseCount := before.reservedUseCount
    revoked := before.revoked } = before from same]
  exact ⟨rfl, rfl⟩

/-- A call issues an invitation, updates one, or leaves them alone. -/
inductive InviteStep (before : TreeMap InviteCapabilityId InviteCapability) :
    TreeMap InviteCapabilityId InviteCapability → Prop
  | kept : InviteStep before before
  | issued (inviteId : InviteCapabilityId) (invite : InviteCapability)
      (fresh : inviteId ∉ before) : InviteStep before (before.insert inviteId invite)
  | updated (inviteId : InviteCapabilityId) (invite changed : InviteCapability)
      (found : before[inviteId]? = some invite) (same : SameInvite invite changed) :
      InviteStep before (before.insert inviteId changed)

theorem InviteStep.same {before after : TreeMap InviteCapabilityId InviteCapability}
    (step : InviteStep before after) {inviteId : InviteCapabilityId} {invite : InviteCapability}
    (found : before[inviteId]? = some invite) :
    ∃ kept, after[inviteId]? = some kept ∧ SameInvite invite kept := by
  cases step with
  | kept => exact ⟨invite, found, rfl⟩
  | issued issuedId issued fresh =>
    rw [lookup_insert, if_neg (key_ne_of_fresh found fresh)]
    exact ⟨invite, found, rfl⟩
  | updated updatedId former changed present same =>
    rw [lookup_insert]
    split
    next here =>
      rw [here, present] at found
      cases found
      exact ⟨changed, rfl, same⟩
    next => exact ⟨invite, found, rfl⟩

namespace GroupPolicy

variable {policy next : GroupPolicy}

theorem inviteStep_run (coherent : policy.Coherent) (operation : Operation) :
    InviteStep policy.invitations (policy.run operation).2.invitations := by
  rcases outcome : policy.run operation with ⟨error | done, next⟩
  · rw [coherent.run_rejected outcome]
    exact .kept
  · cases effect_of_run outcome with
    | issueInvite advances term fresh => exact .issued _ _ fresh
    | revokeInvite advances issuer found => exact .updated _ _ _ found rfl
    | reserveJoin _ _ _ _ _ present outsider found usable counted made =>
      cases made
      exact .updated _ _ _ found rfl
    | releaseJoinReservation advances present found => exact .updated _ _ _ found rfl
    | approveJoin _ _ _ present outsider found usable used made =>
      cases made
      exact .updated _ _ _ found rfl
    | finalizeReservedJoin _ _ present outsider found lowered used made =>
      cases made
      -- the counters are written twice, under one identifier
      change InviteStep policy.invitations ((policy.invitations.insert _ _).insert _ _)
      rw [insert_insert_same]
      exact .updated _ _ _ found rfl
    | grantAdmin | revokeAdmin | removeMember | requestJoin => exact .kept

/-! ## Admitted joins -/

/-- The join that a call completes, if it is accepted and admits a candidate. -/
def admission (policy : GroupPolicy) : Operation → Option ApprovedJoin
  | .finalizeReservedJoin expectedRevision requestId finalizedAtMs =>
      (policy.finalizeReservedJoin expectedRevision requestId finalizedAtMs).1.toOption
  | .approveJoin expectedRevision actorId requestId nowMs =>
      (policy.approveJoin expectedRevision actorId requestId nowMs).1.toOption
  | _ => none

/-- A call adds the join it completes to the approved ones, and drops none. -/
inductive ApprovalStep (before : TreeMap JoinRequestId ApprovedJoin) :
    Option ApprovedJoin → TreeMap JoinRequestId ApprovedJoin → Prop
  | kept : ApprovalStep before none before
  | added (approved : ApprovedJoin) (fresh : approved.requestId ∉ before) :
      ApprovalStep before (some approved) (before.insert approved.requestId approved)

theorem admission_rejected {operation : Operation} {error : GroupPolicyError}
    (rejected : policy.run operation = (.error error, next)) :
    policy.admission operation = none := by
  cases operation with
  | finalizeReservedJoin expectedRevision requestId finalizedAtMs =>
    rcases outcome : policy.finalizeReservedJoin expectedRevision requestId finalizedAtMs with
      ⟨_ | approved, after⟩
    · simp [admission, outcome, Except.toOption]
    · simp [run, outcome, Attempt.accepted, Except.map] at rejected
  | approveJoin expectedRevision actorId requestId nowMs =>
    rcases outcome : policy.approveJoin expectedRevision actorId requestId nowMs with
      ⟨_ | approved, after⟩
    · simp [admission, outcome, Except.toOption]
    · simp [run, outcome, Attempt.accepted, Except.map] at rejected
  | _ => rfl

theorem approvalStep_run (coherent : policy.Coherent) (operation : Operation) :
    ApprovalStep policy.approvedJoins (policy.admission operation)
      (policy.run operation).2.approvedJoins := by
  rcases outcome : policy.run operation with ⟨error | done, next⟩
  · rw [coherent.run_rejected outcome, admission_rejected outcome]
    exact .kept
  · cases effect_of_run outcome with
    | finalizeReservedJoin _ fresh _ _ _ _ _ made returned =>
      cases made
      rw [admission, returned]
      exact .added _ fresh
    | approveJoin _ _ fresh _ _ _ _ _ made returned =>
      cases made
      rw [admission, returned]
      exact .added _ fresh
    | _ => exact .kept

end GroupPolicy

/-! ## Runs and their admissions -/

/-- A run of a group from its creation, with the joins it has completed so far. -/
inductive Admitting : GroupPolicy → List ApprovedJoin → Prop
  | created (scope : GroupScope) (ownerId : IdentityId) : Admitting (.new scope ownerId) []
  | call {policy : GroupPolicy} {admitted : List ApprovedJoin} (before : Admitting policy admitted)
      (operation : Operation) :
      Admitting (policy.run operation).2 (admitted ++ (policy.admission operation).toList)

theorem Admitting.reached {policy : GroupPolicy} {admitted : List ApprovedJoin}
    (run : Admitting policy admitted) : Reached Created Call policy := by
  induction run with
  | created scope ownerId => exact .initial ⟨scope, ownerId, rfl⟩
  | call before operation ih => exact .next operation ih rfl

/-- The completed joins of a run are the approved ones of the policy it leaves. -/
theorem Admitting.approvedJoins {policy : GroupPolicy} {admitted : List ApprovedJoin}
    (run : Admitting policy admitted) : (values policy.approvedJoins).Perm admitted := by
  induction run with
  | created scope ownerId => exact .nil
  | @call policy admitted before operation ih =>
    have step := policy.approvalStep_run (reached_coherent before.reached) operation
    generalize policy.admission operation = admission at step
    generalize (policy.run operation).2.approvedJoins = after at step
    cases step with
    | kept => simpa using ih
    | added approved fresh =>
      refine (values_insert_perm fresh approved).trans ((ih.cons approved).trans ?_)
      exact (List.perm_append_singleton approved admitted).symm

/-- What every call keeps holds after any further calls. -/
theorem kept_by_calls {policy later : GroupPolicy} (further : ReachedFrom policy Call later)
    (coherent : policy.Coherent) (property : GroupPolicy → Prop) (holds : property policy)
    (step : ∀ state operation, state.Coherent → property state →
      property (GroupPolicy.run state operation).2) : later.Coherent ∧ property later := by
  apply further.invariant (fun state => state.Coherent ∧ property state)
  · intro state initial
    cases initial
    exact ⟨coherent, holds⟩
  · intro state operation next kept called
    cases called
    exact ⟨kept.1.run operation, step state operation kept.1 kept.2⟩

/-- An invitation is never dropped, and only its counters and its revocation change. -/
theorem invite_stays {policy later : GroupPolicy} (coherent : policy.Coherent)
    {inviteId : InviteCapabilityId} {invite : InviteCapability}
    (found : policy.invitations[inviteId]? = some invite)
    (further : ReachedFrom policy Call later) :
    ∃ kept, later.invitations[inviteId]? = some kept ∧ SameInvite invite kept := by
  apply (kept_by_calls further coherent (fun state =>
    ∃ kept, state.invitations[inviteId]? = some kept ∧ SameInvite invite kept) ?_ ?_).2
  · exact ⟨invite, found, rfl⟩
  · intro state operation coherent stays
    obtain ⟨kept, present, same⟩ := stays
    obtain ⟨after, presentAfter, sameAfter⟩ :=
      (state.inviteStep_run coherent operation).same present
    exact ⟨after, presentAfter, same.trans sameAfter⟩

/-- The counters of an invitation are the joins that name it, within its limit, which
never changes, so no run admits more candidates through it. -/
theorem admissions_within_limit {policy : GroupPolicy} (reached : Reached Created Call policy)
    {inviteId : InviteCapabilityId} {invite : InviteCapability}
    (found : policy.invitations[inviteId]? = some invite) :
    invite.useCount.toNat =
      countValues (fun approved => approved.inviteId = inviteId) policy.approvedJoins ∧
    invite.reservedUseCount.toNat =
      countValues (fun reserved => reserved.inviteId = inviteId) policy.reservedJoins ∧
    invite.useCount.toNat + invite.reservedUseCount.toNat ≤ invite.maxUses.toNat ∧
    (∀ later, ReachedFrom policy Call later →
      ∃ kept, later.invitations[inviteId]? = some kept ∧ kept.maxUses = invite.maxUses) ∧
    ∀ admitted, Admitting policy admitted →
      admitted.countP (fun approved => approved.inviteId = inviteId) ≤ invite.maxUses.toNat := by
  have coherent := reached_coherent reached
  obtain ⟨reservedCount, approvedCount⟩ := coherent.counters inviteId invite found
  have limit := (coherent.fits found).valid.uses_le
  refine ⟨approvedCount.symm, reservedCount.symm, limit, fun later further => ?_,
    fun admitted run => ?_⟩
  · obtain ⟨kept, present, same⟩ := invite_stays coherent found further
    exact ⟨kept, present, same.maxUses⟩
  · rw [← run.approvedJoins.countP_eq]
    change countValues _ _ ≤ _
    omega

/-- Invitation 1 after the sample run, with its only use taken. -/
def usedInvite : InviteCapability where
  inviteId := .tagged 1
  scope := .privateConversation (.tagged 9)
  issuerId := .tagged 0
  targetId := none
  maxUses := 1
  useCount := 1
  reservedUseCount := 0
  expiresAtMs := 10
  revoked := false
  policyRevision := .initial
  issuerAuthority := .owner

theorem sample_admission_within_limit :
    usedInvite.useCount.toNat =
        countValues (fun approved => approved.inviteId = usedInvite.inviteId)
          admittedGroup.approvedJoins ∧
      usedInvite.useCount.toNat + usedInvite.reservedUseCount.toNat ≤ usedInvite.maxUses.toNat := by
  have found : admittedGroup.invitations[usedInvite.inviteId]? = some usedInvite := by
    decide +kernel
  have bounds := admissions_within_limit (reached_of_safe admittedGroup_reached) found
  exact ⟨bounds.1, bounds.2.2.1⟩

/-! ## Finalizing reserved joins -/

namespace GroupPolicy

variable {policy next : GroupPolicy}

/-- Every reservation can be finalized at the current revision, at any time. -/
def AllFinalize (policy : GroupPolicy) : Prop :=
  ∀ (requestId : JoinRequestId) reservation, policy.reservedJoins[requestId]? = some reservation →
    ∀ finalizedAtMs, ∃ approved next,
      policy.finalizeReservedJoin policy.revision requestId finalizedAtMs = (.ok approved, next)

/-- No candidate of a reservation is a member. -/
def ReservedOutside (policy : GroupPolicy) : Prop :=
  AllValues (fun reserved => reserved.candidateId ∉ policy.members) policy.reservedJoins

/-- A call that does not make the candidate of a reservation an administrator. -/
def CarefulGrant (policy : GroupPolicy) : Operation → Prop
  | .grantAdmin expectedRevision actorId administratorId =>
      policy.GrantPasses expectedRevision actorId administratorId →
        AllValues (fun reserved => reserved.candidateId ≠ administratorId) policy.reservedJoins
  | _ => True

/-! ## One reservation -/

theorem checkedNext_of_lt {revision : Revision} (below : revision.value < 2 ^ 53 - 1) :
    ∃ value, revision.checkedNext = .ok value :=
  ⟨_, dif_pos (Nat.succ_le_of_lt below)⟩

/-- The counters of a coherent policy leave room to finalize any reservation. -/
theorem Coherent.finalizes_iff (coherent : policy.Coherent)
    (below : policy.revision.value < 2 ^ 53 - 1) {requestId : JoinRequestId}
    {reservation : ReservedJoin} (present : policy.reservedJoins[requestId]? = some reservation)
    {finalizedAtMs : Int64} :
    (∃ approved next,
      policy.finalizeReservedJoin policy.revision requestId finalizedAtMs = (.ok approved, next)) ↔
      reservation.candidateId ∉ policy.members := by
  simp only [finalizeReservedJoin_eq_ok]
  constructor
  · rintro ⟨_, _, _, other, _, _, _, -, -, found, outsider, -⟩
    rw [present] at found
    cases found
    exact outsider
  · intro outsider
    obtain ⟨value, raised⟩ := checkedNext_of_lt below
    obtain ⟨invite, found⟩ := mem_iff_lookup.mp (coherent.known.reserved requestId _ present)
    have limit := (coherent.fits found).valid.uses_le
    have counted := (coherent.counters _ invite found).1
    rw [countValues_erase present, if_pos (decide_eq_true rfl)] at counted
    have bound := UInt32.toNat_lt invite.maxUses
    have notApproved : requestId ∉ policy.approvedJoins := fun approved =>
      coherent.apart.approved_not_reserved requestId approved
        (mem_iff_lookup.mpr ⟨reservation, present⟩)
    refine ⟨_, _, value, reservation, invite, .ofNat (invite.reservedUseCount.toNat - 1),
      .ofNat (invite.useCount.toNat + 1), ⟨rfl, raised⟩, notApproved, present, outsider, found,
      ?_, ?_, rfl, rfl⟩
    · rw [UInt32.toNat_ofNat_of_lt' (by simp only [UInt32.size]; omega)]
      omega
    · rw [UInt32.toNat_ofNat_of_lt' (by simp only [UInt32.size]; omega)]

theorem Coherent.allFinalize_iff (coherent : policy.Coherent)
    (below : policy.revision.value < 2 ^ 53 - 1) : policy.AllFinalize ↔ policy.ReservedOutside := by
  constructor
  · intro finalize requestId reservation present
    exact (coherent.finalizes_iff below present).mp (finalize requestId reservation present 0)
  · intro outside requestId reservation present finalizedAtMs
    exact (coherent.finalizes_iff below present).mpr (outside requestId reservation present)

/-! ## One call -/

theorem carefulGrant_of_rejected {operation : Operation} {error : GroupPolicyError}
    (rejected : policy.run operation = (.error error, next)) : policy.CarefulGrant operation := by
  cases operation with
  | grantAdmin =>
    intro passes
    obtain ⟨value, after, accepted⟩ := grantAdmin_accepted_iff.mpr passes
    simp [run, accepted, Attempt.accepted, Except.map] at rejected
  | _ => trivial

/-- A call keeps the candidates of reservations outside exactly when it is careful. -/
theorem run_reservedOutside_iff (coherent : policy.Coherent) (outside : policy.ReservedOutside)
    (operation : Operation) :
    (policy.run operation).2.ReservedOutside ↔ policy.CarefulGrant operation := by
  rcases outcome : policy.run operation with ⟨error | done, next⟩
  · rw [coherent.run_rejected outcome]
    exact iff_of_true outside (carefulGrant_of_rejected outcome)
  · cases effect_of_run outcome with
    | grantAdmin advances owner notOwner notAdmin slot term =>
      have passes : policy.GrantPasses _ _ _ :=
        ⟨advances.1, ⟨_, advances.2⟩, owner, notOwner, notAdmin, slot, _, term⟩
      simp only [CarefulGrant, passes, true_imp_iff]
      constructor
      · intro after
        exact after.imp fun _ outsider same => outsider (mem_set_insert.mpr (.inl same))
      · intro apart requestId reserved present member
        rcases mem_set_insert.mp member with same | old
        · exact apart requestId reserved present same
        · exact outside requestId reserved present old
    | removeMember =>
      exact iff_of_true (outside.imp fun _ outsider member =>
        outsider (mem_set_erase.mp member).2) trivial
    | reserveJoin _ _ _ _ _ present outsider found usable counted made =>
      cases made
      exact iff_of_true (AllValues.insert outside outsider) trivial
    | @finalizeReservedJoin _ _ requestId _ _ _ _ _ _ advances notApproved present =>
      refine iff_of_true (fun other reserved found member => ?_) trivial
      rcases mem_set_insert.mp member with same | old
      · exact (coherent.apart.free_of_reserved present).reserved other reserved found same
      · exact outside.erase requestId other reserved found old
    | releaseJoinReservation => exact iff_of_true (outside.erase _) trivial
    | approveJoin advances approver notApproved present =>
      refine iff_of_true (fun other reserved found member => ?_) trivial
      rcases mem_set_insert.mp member with same | old
      · exact (coherent.apart.free_of_pending present).reserved other reserved found same
      · exact outside other reserved found old
    | revokeAdmin | issueInvite | revokeInvite | requestJoin => exact iff_of_true outside trivial

end GroupPolicy

/-! ## Runs -/

/-- A call that is careful with the candidates of reservations. -/
def CarefulCall (policy : GroupPolicy) (operation : Operation) (next : GroupPolicy) : Prop :=
  policy.CarefulGrant operation ∧ Call policy operation next

/-- In a run of careful calls every reservation can be finalized; and from any reachable
policy where that is so, it is so afterwards exactly when the call is careful. -/
theorem finalization_along_runs (policy : GroupPolicy)
    (below : policy.revision.value < 2 ^ 53 - 1) :
    (Reached Created CarefulCall policy → policy.AllFinalize) ∧
    ∀ operation, Reached Created Call policy → policy.AllFinalize →
      (policy.run operation).2.revision.value < 2 ^ 53 - 1 →
        ((policy.run operation).2.AllFinalize ↔ policy.CarefulGrant operation) := by
  constructor
  · intro reached
    have kept : policy.Coherent ∧ policy.ReservedOutside := by
      refine reached.invariant (fun policy => policy.Coherent ∧ policy.ReservedOutside) ?_ ?_
      · rintro _ ⟨scope, ownerId, rfl⟩
        exact ⟨GroupPolicy.new_coherent scope ownerId, allValues_empty _⟩
      · rintro policy operation _ ⟨coherent, outside⟩ ⟨careful, rfl⟩
        exact ⟨coherent.run operation,
          (GroupPolicy.run_reservedOutside_iff coherent outside operation).mpr careful⟩
    exact (kept.1.allFinalize_iff below).mpr kept.2
  · intro operation reached finalize belowNext
    have coherent := reached_coherent reached
    have outside := (coherent.allFinalize_iff below).mp finalize
    rw [(coherent.run operation).allFinalize_iff belowNext,
      GroupPolicy.run_reservedOutside_iff coherent outside operation]

/-! ### A candidate who is promoted while the join is reserved -/

def hold : Operation := .reserveJoin revisionThree (.tagged 0) (.tagged 2) 2

/-- The owner has reserved the join that candidate 1 asked for. -/
def heldGroup : GroupPolicy := (askingGroup.run hold).2

def heldPromotion : Operation := .grantAdmin revisionFour (.tagged 0) (.tagged 1)

theorem heldGroup_reached : Reached Created CarefulCall heldGroup := by
  have invited : Reached Created CarefulCall (sampleGroup.run invitation).2 :=
    .next invitation (.initial ⟨_, _, rfl⟩) ⟨trivial, rfl⟩
  have asking : Reached Created CarefulCall askingGroup := .next request invited ⟨trivial, rfl⟩
  exact .next hold asking ⟨trivial, rfl⟩

theorem held_join_finalizes :
    heldGroup.AllFinalize ∧
      ((heldGroup.run heldPromotion).2.AllFinalize ↔ heldGroup.CarefulGrant heldPromotion) := by
  have finalize := (finalization_along_runs heldGroup (by decide +kernel)).1 heldGroup_reached
  have reached : Reached Created Call heldGroup :=
    .next hold (reached_of_safe askingGroup_reached) rfl
  exact ⟨finalize, (finalization_along_runs heldGroup (by decide +kernel)).2 heldPromotion
    reached finalize (by decide +kernel)⟩

/-- Promoting the candidate of a reserved join leaves a reservation that cannot be
finalized any more. -/
theorem promotion_blocks_finalization :
    Reached Created Call (heldGroup.run heldPromotion).2 ∧
      (heldGroup.run heldPromotion).2.revision.value < 2 ^ 53 - 1 ∧
      (.tagged 2 : JoinRequestId) ∈ (heldGroup.run heldPromotion).2.reservedJoins ∧
      ((heldGroup.run heldPromotion).2.finalizeReservedJoin
        (heldGroup.run heldPromotion).2.revision (.tagged 2) 3).1 = .error .alreadyMember := by
  refine ⟨.next heldPromotion (.next hold (reached_of_safe askingGroup_reached) rfl) rfl, ?_⟩
  decide +kernel

/-! ## Where members come from -/

namespace GroupPolicy

variable {policy next : GroupPolicy} {operation : Operation}

/-- Every member is the owner, was once made an administrator, or has an approved join. -/
def Accounted (policy : GroupPolicy) : Prop :=
  ∀ identityId ∈ policy.members, identityId = policy.ownerId ∨
    identityId ∈ policy.administratorAuthorizationGenerations ∨
    identityId ∈ (values policy.approvedJoins).map ApprovedJoin.candidateId

theorem Accounted.admit (accounted : policy.Accounted) {approved : ApprovedJoin}
    (fresh : approved.requestId ∉ policy.approvedJoins) (owner : next.ownerId = policy.ownerId)
    (generations : next.administratorAuthorizationGenerations =
      policy.administratorAuthorizationGenerations)
    (approvals : next.approvedJoins = policy.approvedJoins.insert approved.requestId approved)
    (members : next.members = policy.members.insert approved.candidateId) : next.Accounted := by
  have grown := (values_insert_perm fresh approved).map ApprovedJoin.candidateId
  rw [Accounted, owner, generations, approvals, members]
  intro identityId member
  rw [grown.mem_iff, List.map_cons, List.mem_cons]
  rcases mem_set_insert.mp member with rfl | old
  · exact .inr (.inr (.inl rfl))
  · exact (accounted identityId old).imp id (Or.imp id .inr)

theorem Accounted.run (accounted : policy.Accounted) (coherent : policy.Coherent)
    (operation : Operation) : (policy.run operation).2.Accounted := by
  rcases outcome : policy.run operation with ⟨error | done, next⟩
  · rw [coherent.run_rejected outcome]
    exact accounted
  change next.Accounted
  cases effect_of_run outcome with
  | finalizeReservedJoin _ fresh _ _ _ _ _ made =>
    cases made
    exact accounted.admit fresh rfl rfl rfl rfl
  | approveJoin _ _ fresh _ _ _ _ _ made =>
    cases made
    exact accounted.admit fresh rfl rfl rfl rfl
  | grantAdmin =>
    intro identityId member
    rw [mem_insert_key]
    rcases mem_set_insert.mp member with rfl | old
    · exact .inr (.inl (.inl rfl))
    · exact (accounted identityId old).imp id (Or.imp .inr id)
  | removeMember =>
    exact fun identityId member => accounted identityId (mem_set_erase.mp member).2
  | _ => exact accounted

theorem Coherent.removed_by_owner (coherent : policy.Coherent) {identityId : IdentityId}
    (member : identityId ∈ policy.members) (left : identityId ∉ (policy.run operation).2.members) :
    identityId ≠ policy.ownerId ∧
      ∃ revision, operation = .removeMember revision policy.ownerId identityId := by
  rcases outcome : policy.run operation with ⟨error | done, next⟩ <;> rw [outcome] at left
  · rw [coherent.run_rejected outcome] at left
    exact absurd member left
  cases effect_of_run outcome with
  | @removeMember revision _ _ memberId advances owner notOwner =>
    cases owner
    obtain rfl : identityId = memberId := by
      by_contra other
      exact left (mem_set_erase.mpr ⟨other, member⟩)
    exact ⟨notOwner, revision, rfl⟩
  | grantAdmin | finalizeReservedJoin | approveJoin =>
    exact absurd (mem_set_insert.mpr (.inr member)) left
  | _ => exact absurd member left

end GroupPolicy

/-- In every run a member has come in as the owner, as an administrator or by an approved
join, and leaves only when the owner removes it. -/
theorem members_accounted {policy : GroupPolicy} (reached : Reached Created Call policy) :
    policy.Accounted ∧ ∀ operation, ∀ identityId ∈ policy.members,
      identityId ∉ (policy.run operation).2.members →
        identityId ≠ policy.ownerId ∧
          ∃ revision, operation = .removeMember revision policy.ownerId identityId := by
  have kept : policy.Coherent ∧ policy.Accounted := by
    refine reached.invariant (fun policy => policy.Coherent ∧ policy.Accounted) ?_ ?_
    · rintro _ ⟨scope, ownerId, rfl⟩
      refine ⟨GroupPolicy.new_coherent scope ownerId, fun identityId member => .inl (Eq.symm ?_)⟩
      simpa [GroupPolicy.new] using member
    · rintro policy operation _ ⟨coherent, accounted⟩ rfl
      exact ⟨coherent.run operation, accounted.run coherent operation⟩
  exact ⟨kept.2, fun _ _ => kept.1.removed_by_owner⟩

theorem admittedGroup_accounted :
    admittedGroup.Accounted ∧ (.tagged 1 : IdentityId) ∈ admittedGroup.members :=
  ⟨(members_accounted (reached_of_safe admittedGroup_reached)).1, by decide +kernel⟩

end Dirextalk.Group
