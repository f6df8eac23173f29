import Dirextalk.Group.Coherence

/-!
# Kinds of writes

Every accepted operation raises the revision and performs one or more of a few
kinds of writes: a change of roles, a new or updated invitation, and joins that
enter or leave a stage together with the counter they occupy.  Each kind
preserves coherence under the conditions the operations check first.
-/

namespace Dirextalk.Group

open Domain Lib

/-! ## Terms and invitations only get older -/

/-- No holder's term falls back. -/
def TermsGrow (before after : TreeMap IdentityId Revision) : Prop :=
  ∀ (holder : IdentityId) current, before[holder]? = some current →
    ∃ later, after[holder]? = some later ∧ current ≤ later

theorem TermsGrow.refl (generations : TreeMap IdentityId Revision) :
    TermsGrow generations generations :=
  fun _ current found => ⟨current, found, Revision.le_refl _⟩

section Heads

variable {scope : GroupScope} {ownerId : IdentityId} {revision later : Revision}
variable {generations grown : TreeMap IdentityId Revision}

theorem AuthorityReached.grow (grows : TermsGrow generations grown) {holder : IdentityId}
    {authority : InviteIssuerAuthority}
    (reached : AuthorityReached ownerId generations holder authority) :
    AuthorityReached ownerId grown holder authority := by
  cases authority with
  | owner => exact reached
  | admin authorizationGeneration =>
    obtain ⟨current, found, le⟩ := reached
    obtain ⟨next, foundNext, leNext⟩ := grows holder current found
    exact ⟨next, foundNext, Revision.le_trans le leNext⟩

theorem InviteValid.grow (le : revision ≤ later) (grows : TermsGrow generations grown)
    {invite : InviteCapability}
    (valid : InviteValid scope ownerId revision generations invite) :
    InviteValid scope ownerId later grown invite :=
  { valid with
    policyRevision_le := Revision.le_trans valid.policyRevision_le le
    authority := valid.authority.grow grows }

theorem ReservationReached.grow (le : revision ≤ later) (grows : TermsGrow generations grown)
    {reserved : ReservedJoin}
    (reached : ReservationReached ownerId generations revision reserved) :
    ReservationReached ownerId grown later reserved where
  policyRevision_le := Revision.le_trans reached.policyRevision_le le
  authority := reached.authority.grow grows

/-- An invitation with other counters that stay within its limit. -/
theorem InviteValid.recount {invite : InviteCapability}
    (valid : InviteValid scope ownerId revision generations invite)
    {useCount reservedUseCount : UInt32}
    (le : useCount.toNat + reservedUseCount.toNat ≤ invite.maxUses.toNat) :
    InviteValid scope ownerId revision generations { invite with useCount, reservedUseCount } where
  scope_eq := valid.scope_eq
  maxUses_ne := valid.maxUses_ne
  uses_le := le
  policyRevision_le := valid.policyRevision_le
  authority := valid.authority

end Heads

/-! ## Counters -/

/-- An invitation that no join names has counters at zero. -/
theorem countValues_unnamed {τ : Type} {inviteOf : τ → InviteCapabilityId}
    {joins : TreeMap JoinRequestId τ} {invitations : TreeMap InviteCapabilityId InviteCapability}
    (known : AllValues (fun join => inviteOf join ∈ invitations) joins)
    {inviteId : InviteCapabilityId} (fresh : inviteId ∉ invitations) :
    countValues (fun join => inviteOf join = inviteId) joins = 0 := by
  rw [countValues, List.countP_eq_zero]
  intro join member same
  obtain ⟨requestId, found⟩ := mem_values.mp member
  exact fresh (of_decide_eq_true same ▸ known requestId join found)

/-- The counters of every invitation agree with the joins that name it. -/
def AllAgree (invitations : TreeMap InviteCapabilityId InviteCapability)
    (reservedJoins : TreeMap JoinRequestId ReservedJoin)
    (approvedJoins : TreeMap JoinRequestId ApprovedJoin) : Prop :=
  ∀ (inviteId : InviteCapabilityId) invite, invitations[inviteId]? = some invite →
    CountersAgree reservedJoins approvedJoins inviteId invite

section Counting

variable {invitations : TreeMap InviteCapabilityId InviteCapability}
variable {reservedJoins reserved' : TreeMap JoinRequestId ReservedJoin}
variable {approvedJoins approved' : TreeMap JoinRequestId ApprovedJoin}
variable {inviteId : InviteCapabilityId} {invite : InviteCapability}
variable (counters : AllAgree invitations reservedJoins approvedJoins)
include counters

/-- Replacing one invitation keeps the counters in agreement when the joins
change at that invitation only. -/
theorem counters_put
    (elsewhere : ∀ other ≠ inviteId, ∀ content,
      CountersAgree reservedJoins approvedJoins other content →
        CountersAgree reserved' approved' other content)
    (here : CountersAgree reserved' approved' inviteId invite) :
    AllAgree (invitations.insert inviteId invite) reserved' approved' := by
  intro other content found
  rw [lookup_insert] at found
  by_cases same : other = inviteId
  · rw [if_pos same] at found
    cases found
    exact same ▸ here
  · rw [if_neg same] at found
    exact elsewhere other same content (counters other content found)

variable (found : invitations[inviteId]? = some invite)
include found

variable {requestId : JoinRequestId}

theorem counters_reserve (fresh : requestId ∉ reservedJoins) {reserved : ReservedJoin}
    (named : reserved.inviteId = inviteId) {reservedUseCount : UInt32}
    (raised : invite.reservedUseCount.toNat + 1 = reservedUseCount.toNat) :
    AllAgree (invitations.insert inviteId { invite with reservedUseCount })
      (reservedJoins.insert requestId reserved) approvedJoins := by
  have agree := counters _ _ found
  refine counters_put counters ?_ ⟨?_, agree.2⟩
  · intro other apart content elsewhere
    refine ⟨?_, elsewhere.2⟩
    rw [countValues_insert fresh, elsewhere.1]
    simp [named, apart.symm]
  · rw [countValues_insert fresh, agree.1]
    simpa [named] using raised

theorem counters_release {reserved : ReservedJoin}
    (present : reservedJoins[requestId]? = some reserved) (named : reserved.inviteId = inviteId)
    {reservedUseCount : UInt32}
    (lowered : reservedUseCount.toNat + 1 = invite.reservedUseCount.toNat) :
    AllAgree (invitations.insert inviteId { invite with reservedUseCount })
      (reservedJoins.erase requestId) approvedJoins := by
  have agree := counters _ _ found
  have before (other : InviteCapabilityId) :=
    countValues_erase present fun join => decide (join.inviteId = other)
  refine counters_put counters ?_ ⟨?_, agree.2⟩
  · intro other apart content elsewhere
    refine ⟨?_, elsewhere.2⟩
    rw [← elsewhere.1, before other]
    simp [named, apart.symm]
  · have here := before inviteId
    rw [agree.1] at here
    simp only [named, decide_true, if_true] at here
    change _ = reservedUseCount.toNat
    omega

theorem counters_approve (fresh : requestId ∉ approvedJoins) {approved : ApprovedJoin}
    (named : approved.inviteId = inviteId) {useCount : UInt32}
    (raised : invite.useCount.toNat + 1 = useCount.toNat) :
    AllAgree (invitations.insert inviteId { invite with useCount }) reservedJoins
      (approvedJoins.insert requestId approved) := by
  have agree := counters _ _ found
  refine counters_put counters ?_ ⟨agree.1, ?_⟩
  · intro other apart content elsewhere
    refine ⟨elsewhere.1, ?_⟩
    rw [countValues_insert fresh, elsewhere.2]
    simp [named, apart.symm]
  · rw [countValues_insert fresh, agree.2]
    simpa [named] using raised

end Counting

/-! ## Stages -/

section Stages

variable {invitations : TreeMap InviteCapabilityId InviteCapability}
variable {pendingJoins : TreeMap JoinRequestId PendingJoinRequest}
variable {reservedJoins : TreeMap JoinRequestId ReservedJoin}
variable {approvedJoins : TreeMap JoinRequestId ApprovedJoin}

theorem InvitesKnown.put
    (known : InvitesKnown invitations pendingJoins reservedJoins approvedJoins)
    (inviteId : InviteCapabilityId) (invite : InviteCapability) :
    InvitesKnown (invitations.insert inviteId invite) pendingJoins reservedJoins
      approvedJoins := by
  have kept (other : InviteCapabilityId) (member : other ∈ invitations) :
      other ∈ invitations.insert inviteId invite :=
    mem_insert_key.mpr (.inr member)
  exact ⟨known.pending.imp fun pending => kept pending.inviteId,
    known.reserved.imp fun reserved => kept reserved.inviteId,
    known.approved.imp fun approved => kept approved.inviteId⟩

/-- A request in none of the three stages. -/
structure NewRequest (pendingJoins : TreeMap JoinRequestId PendingJoinRequest)
    (reservedJoins : TreeMap JoinRequestId ReservedJoin)
    (approvedJoins : TreeMap JoinRequestId ApprovedJoin) (requestId : JoinRequestId) : Prop where
  not_pending : requestId ∉ pendingJoins
  not_reserved : requestId ∉ reservedJoins
  not_approved : requestId ∉ approvedJoins

/-- A candidate without a join in flight. -/
structure FreeCandidate (pendingJoins : TreeMap JoinRequestId PendingJoinRequest)
    (reservedJoins : TreeMap JoinRequestId ReservedJoin) (candidateId : IdentityId) : Prop where
  pending : AllValues (fun pending => pending.candidateId ≠ candidateId) pendingJoins
  reserved : AllValues (fun reserved => reserved.candidateId ≠ candidateId) reservedJoins

section Apart

variable (apart : JoinsApart pendingJoins reservedJoins approvedJoins)
include apart

theorem JoinsApart.erasePending (requestId : JoinRequestId) :
    JoinsApart (pendingJoins.erase requestId) reservedJoins approvedJoins :=
  { apart with
    reserved_not_pending := fun other member erased =>
      apart.reserved_not_pending other member (Std.ExtTreeMap.mem_of_mem_erase erased)
    approved_not_pending := fun other member erased =>
      apart.approved_not_pending other member (Std.ExtTreeMap.mem_of_mem_erase erased)
    pendingCandidates_distinct := apart.pendingCandidates_distinct.erase requestId
    candidates_apart := apart.candidates_apart.imp fun _ all => all.erase requestId }

theorem JoinsApart.eraseReserved (requestId : JoinRequestId) :
    JoinsApart pendingJoins (reservedJoins.erase requestId) approvedJoins :=
  { apart with
    reserved_not_pending := fun other member =>
      apart.reserved_not_pending other (Std.ExtTreeMap.mem_of_mem_erase member)
    approved_not_reserved := fun other member erased =>
      apart.approved_not_reserved other member (Std.ExtTreeMap.mem_of_mem_erase erased)
    reservedCandidates_distinct := apart.reservedCandidates_distinct.erase requestId
    candidates_apart := apart.candidates_apart.erase requestId }

theorem JoinsApart.insertPending {pending : PendingJoinRequest}
    (new : NewRequest pendingJoins reservedJoins approvedJoins pending.requestId)
    (free : FreeCandidate pendingJoins reservedJoins pending.candidateId) :
    JoinsApart (pendingJoins.insert pending.requestId pending) reservedJoins approvedJoins :=
  { apart with
    reserved_not_pending := fun other member inserted => by
      rcases mem_insert_key.mp inserted with rfl | old
      · exact new.not_reserved member
      · exact apart.reserved_not_pending other member old
    approved_not_pending := fun other member inserted => by
      rcases mem_insert_key.mp inserted with rfl | old
      · exact new.not_approved member
      · exact apart.approved_not_pending other member old
    pendingCandidates_distinct := apart.pendingCandidates_distinct.insert free.pending
    candidates_apart := fun other reserved found =>
      (apart.candidates_apart other reserved found).insert
        (Ne.symm (free.reserved other reserved found)) }

theorem JoinsApart.insertReserved {reserved : ReservedJoin}
    (new : NewRequest pendingJoins reservedJoins approvedJoins reserved.requestId)
    (free : FreeCandidate pendingJoins reservedJoins reserved.candidateId) :
    JoinsApart pendingJoins (reservedJoins.insert reserved.requestId reserved) approvedJoins :=
  { apart with
    reserved_not_pending := fun other member => by
      rcases mem_insert_key.mp member with rfl | old
      · exact new.not_pending
      · exact apart.reserved_not_pending other old
    approved_not_reserved := fun other member inserted => by
      rcases mem_insert_key.mp inserted with rfl | old
      · exact new.not_approved member
      · exact apart.approved_not_reserved other member old
    reservedCandidates_distinct := apart.reservedCandidates_distinct.insert free.reserved
    candidates_apart := apart.candidates_apart.insert free.pending }

theorem JoinsApart.insertApproved {approved : ApprovedJoin}
    (new : NewRequest pendingJoins reservedJoins approvedJoins approved.requestId) :
    JoinsApart pendingJoins reservedJoins (approvedJoins.insert approved.requestId approved) :=
  { apart with
    approved_not_reserved := fun other member => by
      rcases mem_insert_key.mp member with rfl | old
      · exact new.not_reserved
      · exact apart.approved_not_reserved other old
    approved_not_pending := fun other member => by
      rcases mem_insert_key.mp member with rfl | old
      · exact new.not_pending
      · exact apart.approved_not_pending other old }

/-- Without its own pending request, a candidate is free. -/
theorem JoinsApart.free_of_pending {requestId : JoinRequestId} {pending : PendingJoinRequest}
    (present : pendingJoins[requestId]? = some pending) :
    FreeCandidate (pendingJoins.erase requestId) reservedJoins pending.candidateId where
  pending other content found same := by
    rw [lookup_erase] at found
    split at found
    · cases found
    next apartIds =>
      exact apartIds (apart.pendingCandidates_distinct other requestId content pending found
        present same)
  reserved other reserved found same :=
    apart.candidates_apart other reserved found requestId pending present same.symm

/-- Without its own reservation, a candidate is free. -/
theorem JoinsApart.free_of_reserved {requestId : JoinRequestId} {reserved : ReservedJoin}
    (present : reservedJoins[requestId]? = some reserved) :
    FreeCandidate pendingJoins (reservedJoins.erase requestId) reserved.candidateId where
  pending := apart.candidates_apart requestId reserved present
  reserved other content found same := by
    rw [lookup_erase] at found
    split at found
    · cases found
    next apartIds =>
      exact apartIds (apart.reservedCandidates_distinct other requestId content reserved found
        present same)

end Apart

variable {members : TreeSet IdentityId}
variable (matched : JoinsMatchMembers members pendingJoins reservedJoins approvedJoins)
include matched

/-- Admitting an identity is safe exactly when it has no join in flight. -/
theorem JoinsMatchMembers.insert_iff (identityId : IdentityId) :
    JoinsMatchMembers (members.insert identityId) pendingJoins reservedJoins approvedJoins ↔
      FreeCandidate pendingJoins reservedJoins identityId := by
  constructor
  · intro after
    refine ⟨after.pending.imp ?_, after.reserved.imp ?_⟩ <;>
      exact fun _ outsider same => outsider (mem_set_insert.mpr (.inl same))
  · intro free
    refine ⟨fun key pending found => ?_, fun key reserved found => ?_, ?_⟩
    · simp only [mem_set_insert, not_or]
      exact ⟨free.pending key pending found, matched.pending key pending found⟩
    · simp only [mem_set_insert, not_or]
      exact ⟨free.reserved key reserved found, matched.reserved key reserved found⟩
    · exact matched.approved.imp fun _ member => mem_set_insert.mpr (.inr member)

/-- A candidate without another join in flight may be admitted by an approved one. -/
theorem JoinsMatchMembers.approve {candidateId : IdentityId}
    (free : FreeCandidate pendingJoins reservedJoins candidateId) {requestId : JoinRequestId}
    {approved : ApprovedJoin} (names : approved.candidateId = candidateId) :
    JoinsMatchMembers (members.insert candidateId) pendingJoins reservedJoins
      (approvedJoins.insert requestId approved) := by
  have admitted := (matched.insert_iff candidateId).mpr free
  exact { admitted with
    approved := admitted.approved.insert (mem_set_insert.mpr (.inl names)) }

/-- Removing a member is safe exactly when no approved join admitted it. -/
theorem JoinsMatchMembers.erase_iff (identityId : IdentityId) :
    JoinsMatchMembers (members.erase identityId) pendingJoins reservedJoins approvedJoins ↔
      AllValues (fun approved => approved.candidateId ≠ identityId) approvedJoins := by
  constructor
  · intro after
    exact after.approved.imp fun _ member => (mem_set_erase.mp member).1
  · intro unapproved
    refine ⟨matched.pending.imp ?_, matched.reserved.imp ?_, fun key approved found => ?_⟩
    · exact fun _ outsider member => outsider (mem_set_erase.mp member).2
    · exact fun _ outsider member => outsider (mem_set_erase.mp member).2
    · exact mem_set_erase.mpr
        ⟨unapproved key approved found, matched.approved key approved found⟩

end Stages

namespace GroupPolicy

/-! ## The writes -/

variable (policy : GroupPolicy)

/-- A record of the invitation map is replaced or added. -/
def putInvite (inviteId : InviteCapabilityId) (invite : InviteCapability) : GroupPolicy :=
  { policy with invitations := policy.invitations.insert inviteId invite }

def addPending (pending : PendingJoinRequest) : GroupPolicy :=
  { policy with pendingJoins := policy.pendingJoins.insert pending.requestId pending }

def dropPending (requestId : JoinRequestId) : GroupPolicy :=
  { policy with pendingJoins := policy.pendingJoins.erase requestId }

/-- A reservation enters together with the invitation whose use it occupies. -/
def addReserved (reserved : ReservedJoin) (invite : InviteCapability) : GroupPolicy :=
  { policy.putInvite reserved.inviteId invite with
    reservedJoins := policy.reservedJoins.insert reserved.requestId reserved }

/-- A reservation leaves together with the invitation whose use it frees. -/
def dropReserved (requestId : JoinRequestId) (inviteId : InviteCapabilityId)
    (invite : InviteCapability) : GroupPolicy :=
  { policy.putInvite inviteId invite with
    reservedJoins := policy.reservedJoins.erase requestId }

/-- An approval enters together with the invitation it has used. -/
def addApproved (approved : ApprovedJoin) (invite : InviteCapability) : GroupPolicy :=
  { policy.putInvite approved.inviteId invite with
    approvedJoins := policy.approvedJoins.insert approved.requestId approved }

def addMember (identityId : IdentityId) : GroupPolicy :=
  { policy with members := policy.members.insert identityId }

def withRevision (revision : Revision) : GroupPolicy :=
  { policy with revision }

/-- The invitation is consistent with the head of the policy and sits under its own id. -/
structure FitsInvite (inviteId : InviteCapabilityId) (invite : InviteCapability) : Prop where
  carries : invite.inviteId = inviteId
  valid : InviteValid policy.scope policy.ownerId policy.revision
    policy.administratorAuthorizationGenerations invite

variable {policy} {inviteId : InviteCapabilityId} {invite : InviteCapability}
  {reservedUseCount : UInt32}

theorem FitsInvite.recount (fits : policy.FitsInvite inviteId invite) {useCount : UInt32}
    (le : useCount.toNat + reservedUseCount.toNat ≤ invite.maxUses.toNat) :
    policy.FitsInvite inviteId { invite with useCount, reservedUseCount } :=
  ⟨fits.carries, fits.valid.recount le⟩

/-! ## Coherence -/

variable (coherent : policy.Coherent)
include coherent

theorem Coherent.withRevision {revision : Revision} (le : policy.revision ≤ revision) :
    (policy.withRevision revision).Coherent :=
  { coherent with
    keyed := { coherent.keyed with }
    invitations := coherent.invitations.imp fun _ valid => valid.grow le (.refl _)
    reservations := coherent.reservations.imp fun _ reached => reached.grow le (.refl _)
    approvals := coherent.approvals.imp fun _ reached => Revision.le_trans reached le }

/-- Roles may change as long as no term falls back. -/
theorem Coherent.withRoles {administrators : TreeSet IdentityId}
    {generations : TreeMap IdentityId Revision} {members : TreeSet IdentityId}
    (roles : RolesCoherent policy.ownerId administrators generations members)
    (grows : TermsGrow policy.administratorAuthorizationGenerations generations) :
    Coherent { policy with
      administrators, administratorAuthorizationGenerations := generations, members } :=
  { coherent with
    keyed := { coherent.keyed with }
    roles
    invitations :=
      coherent.invitations.imp fun _ valid => valid.grow (Revision.le_refl _) grows
    reservations :=
      coherent.reservations.imp fun _ reached => reached.grow (Revision.le_refl _) grows }

theorem Coherent.addMember (identityId : IdentityId) :
    (policy.addMember identityId).Coherent := by
  refine coherent.withRoles ?_ (.refl _)
  have roles := coherent.roles
  exact { roles with
    owner_member := mem_set_insert.mpr (.inr roles.owner_member)
    administrators_members := fun other admin =>
      mem_set_insert.mpr (.inr (roles.administrators_members other admin)) }

theorem Coherent.fits
    (found : policy.invitations[inviteId]? = some invite) : policy.FitsInvite inviteId invite :=
  ⟨coherent.keyed.invitations inviteId invite found, coherent.invitations inviteId invite found⟩

theorem Coherent.putInvite (fits : policy.FitsInvite inviteId invite)
    (agree : CountersAgree policy.reservedJoins policy.approvedJoins inviteId invite) :
    (policy.putInvite inviteId invite).Coherent :=
  { coherent with
    keyed := { coherent.keyed with
      invitations := coherent.keyed.invitations.insert fits.carries }
    invitations := coherent.invitations.insert fits.valid
    known := coherent.known.put inviteId invite
    counters := counters_put coherent.counters (fun _ _ _ agree => agree) agree }

theorem Coherent.addInvite (fresh : inviteId ∉ policy.invitations)
    (fits : policy.FitsInvite inviteId invite) (unused : invite.useCount = 0)
    (unreserved : invite.reservedUseCount = 0) : (policy.putInvite inviteId invite).Coherent := by
  refine coherent.putInvite fits ⟨?_, ?_⟩
  · rw [countValues_unnamed coherent.known.reserved fresh, unreserved]
    rfl
  · rw [countValues_unnamed coherent.known.approved fresh, unused]
    rfl

theorem Coherent.dropPending (requestId : JoinRequestId) :
    (policy.dropPending requestId).Coherent :=
  { coherent with
    keyed := { coherent.keyed with pending := coherent.keyed.pending.erase requestId }
    known := { coherent.known with pending := coherent.known.pending.erase requestId }
    apart := coherent.apart.erasePending requestId }

theorem Coherent.addPending {pending : PendingJoinRequest}
    (new : NewRequest policy.pendingJoins policy.reservedJoins policy.approvedJoins
      pending.requestId)
    (free : FreeCandidate policy.pendingJoins policy.reservedJoins pending.candidateId)
    (known : pending.inviteId ∈ policy.invitations) : (policy.addPending pending).Coherent :=
  { coherent with
    keyed := { coherent.keyed with pending := coherent.keyed.pending.insert rfl }
    known := { coherent.known with pending := coherent.known.pending.insert known }
    apart := coherent.apart.insertPending new free }

theorem Coherent.addReserved {reserved : ReservedJoin}
    (new : NewRequest policy.pendingJoins policy.reservedJoins policy.approvedJoins
      reserved.requestId)
    (free : FreeCandidate policy.pendingJoins policy.reservedJoins reserved.candidateId)
    (reached : ReservationReached policy.ownerId policy.administratorAuthorizationGenerations
      policy.revision reserved) (found : policy.invitations[reserved.inviteId]? = some invite)
    (raised : invite.reservedUseCount.toNat + 1 = reservedUseCount.toNat)
    (le : invite.useCount.toNat + reservedUseCount.toNat ≤ invite.maxUses.toNat) :
    (policy.addReserved reserved { invite with reservedUseCount }).Coherent := by
  have fits := (coherent.fits found).recount le
  have known := coherent.known.put reserved.inviteId { invite with reservedUseCount }
  have newInvite : reserved.inviteId ∈
      policy.invitations.insert reserved.inviteId { invite with reservedUseCount } :=
    mem_insert_key.mpr (.inl rfl)
  exact { coherent with
    keyed := { coherent.keyed with
      invitations := coherent.keyed.invitations.insert fits.carries
      reserved := coherent.keyed.reserved.insert rfl }
    invitations := coherent.invitations.insert fits.valid
    reservations := coherent.reservations.insert reached
    known := { known with reserved := known.reserved.insert newInvite }
    apart := coherent.apart.insertReserved new free
    counters := counters_reserve coherent.counters found new.not_reserved rfl raised }

theorem Coherent.dropReserved {requestId : JoinRequestId} {reserved : ReservedJoin}
    (present : policy.reservedJoins[requestId]? = some reserved)
    (found : policy.invitations[reserved.inviteId]? = some invite)
    (lowered : reservedUseCount.toNat + 1 = invite.reservedUseCount.toNat) :
    (policy.dropReserved requestId reserved.inviteId
      { invite with reservedUseCount }).Coherent := by
  have limit := (coherent.fits found).valid.uses_le
  have le : invite.useCount.toNat + reservedUseCount.toNat ≤ invite.maxUses.toNat := by omega
  have fits := (coherent.fits found).recount le
  have known := coherent.known.put reserved.inviteId { invite with reservedUseCount }
  exact { coherent with
    keyed := { coherent.keyed with
      invitations := coherent.keyed.invitations.insert fits.carries
      reserved := coherent.keyed.reserved.erase _ }
    invitations := coherent.invitations.insert fits.valid
    reservations := coherent.reservations.erase _
    known := { known with reserved := known.reserved.erase _ }
    apart := coherent.apart.eraseReserved _
    counters := counters_release coherent.counters found present rfl lowered }

theorem Coherent.addApproved (invite : InviteCapability) {approved : ApprovedJoin}
    {useCount : UInt32}
    (new : NewRequest policy.pendingJoins policy.reservedJoins policy.approvedJoins
      approved.requestId)
    (reached : approved.policyRevision ≤ policy.revision)
    (found : policy.invitations[approved.inviteId]? = some invite)
    (raised : invite.useCount.toNat + 1 = useCount.toNat)
    (le : useCount.toNat + invite.reservedUseCount.toNat ≤ invite.maxUses.toNat) :
    (policy.addApproved approved { invite with useCount }).Coherent := by
  have fits := (coherent.fits found).recount le
  have known := coherent.known.put approved.inviteId { invite with useCount }
  have newInvite : approved.inviteId ∈
      policy.invitations.insert approved.inviteId { invite with useCount } :=
    mem_insert_key.mpr (.inl rfl)
  exact { coherent with
    keyed := { coherent.keyed with
      invitations := coherent.keyed.invitations.insert fits.carries
      approved := coherent.keyed.approved.insert rfl }
    invitations := coherent.invitations.insert fits.valid
    approvals := coherent.approvals.insert reached
    known := { known with approved := known.approved.insert newInvite }
    apart := coherent.apart.insertApproved new
    counters := counters_approve coherent.counters found new.not_approved rfl raised }

end GroupPolicy

end Dirextalk.Group
