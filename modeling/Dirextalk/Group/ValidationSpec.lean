import Dirextalk.Group.Validation

/-!
# What the snapshot validator checks

Each loop of the validator is described by the condition that has to hold at every
round; the conditions are then read off the lists as a whole.  A snapshot that passes
them becomes the policy assembled from its lists.
-/

namespace Dirextalk.Group

open Domain Lib

/-! ## Consistency of the listed records -/

/-- The authority recorded for `holder`: the owner's own, or an administrator
generation that the holder has reached. -/
def AuthorityReached (ownerId : IdentityId) (generations : TreeMap IdentityId Revision)
    (holder : IdentityId) : InviteIssuerAuthority → Prop
  | .owner => holder = ownerId
  | .admin authorizationGeneration =>
      ∃ current, generations[holder]? = some current ∧ authorizationGeneration ≤ current

/-- One invitation against the head of its group. -/
structure InviteValid (scope : GroupScope) (ownerId : IdentityId) (revision : Revision)
    (generations : TreeMap IdentityId Revision) (invite : InviteCapability) : Prop where
  scope_eq : invite.scope = scope
  maxUses_ne : invite.maxUses ≠ 0
  uses_le : invite.useCount.toNat + invite.reservedUseCount.toNat ≤ invite.maxUses.toNat
  policyRevision_le : invite.policyRevision ≤ revision
  authority : AuthorityReached ownerId generations invite.issuerId invite.issuerAuthority

theorem checkAuthority_eq_ok {ownerId : IdentityId} {generations : TreeMap IdentityId Revision}
    {holder : IdentityId} {authority : InviteIssuerAuthority}
    {ownerReason generationReason : String} {done : Unit} :
    checkAuthority ownerId generations holder authority ownerReason generationReason = .ok done ↔
      AuthorityReached ownerId generations holder authority := by
  cases authority with
  | owner => simp [checkAuthority, AuthorityReached]
  | admin authorizationGeneration =>
    simp only [checkAuthority, rejectIf_eq_ok, AuthorityReached]
    cases generations[holder]? with
    | none => simp
    | some current => simp [Revision.not_lt]

/-! ## Loops of the validator -/

theorem collectSnapshotSet_eq_ok {κ : Type} [Ord κ] [Std.TransOrd κ] [Std.LawfulEqOrd κ]
    {items : List κ} {reason : String} {keys : TreeSet κ} :
    collectSnapshotSet items reason = .ok keys ↔ items.Nodup ∧ collectSet items = keys := by
  refine (foldlM_eq_ok_iff (fun valuesByKey value => ¬value ∈ valuesByKey)
    (fun valuesByKey value => valuesByKey.insert value) ?_).trans
    (and_congr_left fun _ => (along_fresh id (fun keys key => key ∈ keys)
      fun _ _ _ => mem_set_insert).trans ?_)
  · intro valuesByKey value result
    simp only [bind_eq_ok, rejectIf_eq_ok, exists_const, pure_eq_ok]
  · simp

theorem collectGenerations_eq_ok {ownerId : IdentityId}
    {generations : List (IdentityId × Revision)} {collected : TreeMap IdentityId Revision} :
    collectGenerations ownerId generations = .ok collected ↔
      ((generations.map Prod.fst).Nodup ∧ ∀ entry ∈ generations, entry.1 ≠ ownerId) ∧
        collect Prod.fst Prod.snd generations = collected := by
  unfold collectGenerations
  rw [foldlM_eq_ok_iff
    (fun collected entry => entry.1 ≠ ownerId ∧ ¬entry.1 ∈ collected)
    (fun collected entry => collected.insert entry.1 entry.2) (by
      intro collected entry result
      simp only [bind_eq_ok, rejectIf_eq_ok, exists_const, pure_eq_ok, not_or, ne_eq]),
    along_and, along_const,
    along_fresh Prod.fst (fun (collected : TreeMap IdentityId Revision) key => key ∈ collected)
      fun _ _ _ => mem_insert_key]
  simp [collect, and_comm]

/-- The checks on one invitation before it is collected. -/
theorem inviteChecks_iff (snapshot : GroupPolicySnapshot) {invite : InviteCapability}
    {generations : TreeMap IdentityId Revision} :
    (¬(invite.scope ≠ snapshot.scope ∨ invite.maxUses = 0) ∧
      ∃ occupied : UInt32, invite.useCount.toNat + invite.reservedUseCount.toNat = occupied.toNat ∧
        ¬(occupied > invite.maxUses ∨ invite.policyRevision > snapshot.revision) ∧
        AuthorityReached snapshot.ownerId generations invite.issuerId invite.issuerAuthority) ↔
      InviteValid snapshot.scope snapshot.ownerId snapshot.revision generations invite := by
  simp only [not_or, not_not, gt_iff_lt, UInt32.not_lt, Revision.not_lt, UInt32.le_iff_toNat_le]
  constructor
  · rintro ⟨⟨scope, limit⟩, occupied, sum, ⟨uses, revision⟩, authority⟩
    exact ⟨scope, limit, sum ▸ uses, revision, authority⟩
  · rintro ⟨scope, limit, uses, revision, authority⟩
    have bound := invite.maxUses.toNat_lt
    have sum : (UInt32.ofNat (invite.useCount.toNat + invite.reservedUseCount.toNat)).toNat =
        invite.useCount.toNat + invite.reservedUseCount.toNat :=
      UInt32.toNat_ofNat_of_lt (by simp only [UInt32.size]; omega)
    exact ⟨⟨scope, limit⟩, _, sum.symm, ⟨sum.symm ▸ uses, revision⟩, authority⟩

theorem collectInvitations_eq_ok {snapshot : GroupPolicySnapshot}
    {generations : TreeMap IdentityId Revision}
    {invitations : TreeMap InviteCapabilityId InviteCapability} :
    collectInvitations snapshot generations = .ok invitations ↔
      ((∀ invite ∈ snapshot.invitations, InviteValid snapshot.scope snapshot.ownerId
          snapshot.revision generations invite) ∧
        (snapshot.invitations.map InviteCapability.inviteId).Nodup) ∧
      collect InviteCapability.inviteId id snapshot.invitations = invitations := by
  refine (foldlM_eq_ok_iff
    (fun invitations invite => InviteValid snapshot.scope snapshot.ownerId snapshot.revision
      generations invite ∧ ¬invite.inviteId ∈ invitations)
    (fun invitations invite => invitations.insert invite.inviteId invite) ?_).trans
    (and_congr_left fun _ => along_and.trans (and_congr along_const
      ((along_fresh InviteCapability.inviteId (fun invitations key => key ∈ invitations)
        fun _ _ _ => mem_insert_key).trans ?_)))
  · intro invitations invite result
    simp only [bind_eq_ok, rejectIf_eq_ok, exists_const, pure_eq_ok, okOr_eq_ok,
      checkAuthority_eq_ok, checkedAdd_eq_some, ← inviteChecks_iff snapshot]
    constructor
    · rintro ⟨head, occupied, sum, uses, authority, fresh, same⟩
      exact ⟨⟨⟨head, occupied, sum, uses, authority⟩, fresh⟩, same⟩
    · rintro ⟨⟨⟨head, occupied, sum, uses, authority⟩, fresh⟩, same⟩
      exact ⟨head, occupied, sum, uses, authority, fresh, same⟩
  · simp

/-! ## Counting loops -/

section Counting

variable {σ τ : Type}

/-- The count recorded for an invitation, zero if it was never counted. -/
def countOf (counts : TreeMap InviteCapabilityId UInt32) (inviteId : InviteCapabilityId) : Nat :=
  (counts[inviteId]?.getD 0).toNat

theorem countOf_next {inviteOf : τ → InviteCapabilityId}
    {counts : σ → TreeMap InviteCapabilityId UInt32} {next : σ → τ → σ} (grows : ∀ state item,
      counts (next state item) = (counts state).insert (inviteOf item)
        ((counts state)[inviteOf item]?.getD 0 + 1)) {state : σ} {item : τ}
    (room : countOf (counts state) (inviteOf item) + 1 < UInt32.size)
    (inviteId : InviteCapabilityId) :
    countOf (counts (next state item)) inviteId = countOf (counts state) inviteId +
      if inviteOf item = inviteId then 1 else 0 := by
  unfold countOf at *
  rw [grows, lookup_insert]
  by_cases same : inviteId = inviteOf item
  · subst same
    simp only [if_true, Option.getD_some, UInt32.toNat_add, UInt32.toNat_one]
    exact Nat.mod_eq_of_lt room
  · simp [same, Ne.symm same]

/-- A loop that counts every item against its invitation stays within `u32`
exactly when every total does, and then records the totals. -/
theorem along_count (inviteOf : τ → InviteCapabilityId)
    (counts : σ → TreeMap InviteCapabilityId UInt32) (next : σ → τ → σ) (grows : ∀ state item,
      counts (next state item) = (counts state).insert (inviteOf item)
        ((counts state)[inviteOf item]?.getD 0 + 1)) (items : List τ) (state : σ) :
    (Along (fun state item => countOf (counts state) (inviteOf item) + 1 < UInt32.size) next
        state items ↔
      ∀ inviteId, countOf (counts state) inviteId +
        (items.countP fun item => inviteOf item = inviteId) < UInt32.size) ∧
    (Along (fun state item => countOf (counts state) (inviteOf item) + 1 < UInt32.size) next
        state items →
      ∀ inviteId, countOf (counts (items.foldl next state)) inviteId =
        countOf (counts state) inviteId +
          items.countP fun item => inviteOf item = inviteId) := by
  induction items generalizing state with
  | nil =>
    simp only [Along, List.countP_nil, Nat.add_zero, true_iff, List.foldl_nil, implies_true,
      and_true]
    exact fun inviteId => UInt32.toNat_lt _
  | cons item rest ih =>
    obtain ⟨within, totals⟩ := ih (next state item)
    simp only [Along, List.countP_cons, decide_eq_true_eq, List.foldl_cons]
    refine ⟨⟨?_, ?_⟩, ?_⟩
    · rintro ⟨room, along⟩ inviteId
      have total := within.mp along inviteId
      rw [countOf_next grows room] at total
      omega
    · intro bounded
      have room : countOf (counts state) (inviteOf item) + 1 < UInt32.size := by
        have total := bounded (inviteOf item)
        rw [if_pos rfl] at total
        omega
      refine ⟨room, within.mpr fun inviteId => ?_⟩
      have total := bounded inviteId
      rw [countOf_next grows room]
      omega
    · rintro ⟨room, along⟩ inviteId
      rw [totals along, countOf_next grows room]
      omega

end Counting

/-! ## Scanning joins -/

theorem incrementSnapshotCount_eq_ok {counts result : TreeMap InviteCapabilityId UInt32}
    {inviteId : InviteCapabilityId} {reason : String} :
    incrementSnapshotCount counts inviteId reason = .ok result ↔
      countOf counts inviteId + 1 < UInt32.size ∧
        counts.insert inviteId (counts[inviteId]?.getD 0 + 1) = result := by
  simp only [incrementSnapshotCount, bind_eq_ok, okOr_eq_ok, checkedAdd_eq_some_iff_add,
    pure_eq_ok, UInt32.toNat_one, countOf]
  constructor
  · rintro ⟨count, ⟨room, rfl⟩, same⟩
    exact ⟨room, same⟩
  · rintro ⟨room, same⟩
    exact ⟨_, ⟨room, rfl⟩, same⟩

namespace JoinScan

/-- The scan after a pending join. -/
def addPending (scan : JoinScan) (pending : PendingJoinRequest) : JoinScan :=
  { scan with
    seenJoinIds := scan.seenJoinIds.insert pending.requestId
    activeCandidates := scan.activeCandidates.insert pending.candidateId
    pendingJoins := scan.pendingJoins.insert pending.requestId pending }

/-- The scan after a reservation. -/
def addReserved (scan : JoinScan) (reserved : ReservedJoin) : JoinScan :=
  { scan with
    seenJoinIds := scan.seenJoinIds.insert reserved.requestId
    activeCandidates := scan.activeCandidates.insert reserved.candidateId
    expectedReservations := scan.expectedReservations.insert reserved.inviteId
      (scan.expectedReservations[reserved.inviteId]?.getD 0 + 1)
    reservedJoins := scan.reservedJoins.insert reserved.requestId reserved }

/-- The scan after an approved join. -/
def addApproved (scan : JoinScan) (approved : ApprovedJoin) : JoinScan :=
  { scan with
    seenJoinIds := scan.seenJoinIds.insert approved.requestId
    expectedUses := scan.expectedUses.insert approved.inviteId
      (scan.expectedUses[approved.inviteId]?.getD 0 + 1)
    approvedJoins := scan.approvedJoins.insert approved.requestId approved }

end JoinScan

section Scan

variable {snapshot : GroupPolicySnapshot} {members : TreeSet IdentityId}
variable {generations : TreeMap IdentityId Revision}
variable {invitations : TreeMap InviteCapabilityId InviteCapability}

variable {scan result : JoinScan}

theorem scanPending_eq_ok {pending : PendingJoinRequest} :
    scanPending members invitations scan pending = .ok result ↔
      ((¬pending.requestId ∈ scan.seenJoinIds ∧ ¬pending.candidateId ∈ scan.activeCandidates) ∧
        pending.inviteId ∈ invitations ∧ pending.candidateId ∉ members) ∧
      scan.addPending pending = result := by
  simp only [scanPending, bind_eq_ok, rejectIf_eq_ok, exists_const, pure_eq_ok, not_or, not_not,
    JoinScan.addPending]
  tauto

theorem scanReserved_eq_ok {reserved : ReservedJoin} :
    scanReserved snapshot members generations invitations scan reserved = .ok result ↔
      ((¬reserved.requestId ∈ scan.seenJoinIds ∧ ¬reserved.candidateId ∈ scan.activeCandidates) ∧
        countOf scan.expectedReservations reserved.inviteId + 1 < UInt32.size ∧
        reserved.inviteId ∈ invitations ∧ reserved.candidateId ∉ members ∧
        reserved.policyRevision ≤ snapshot.revision ∧
        AuthorityReached snapshot.ownerId generations reserved.reservedBy
          reserved.reservedAuthority) ∧
      scan.addReserved reserved = result := by
  simp only [scanReserved, bind_eq_ok, rejectIf_eq_ok, exists_const, pure_eq_ok, not_or, not_not,
    checkAuthority_eq_ok, incrementSnapshotCount_eq_ok, gt_iff_lt, Revision.not_lt,
    JoinScan.addReserved]
  constructor
  · rintro ⟨⟨fresh, invited, outside, free, revision⟩, authority, _, ⟨room, rfl⟩, same⟩
    exact ⟨⟨⟨fresh, free⟩, room, invited, outside, revision, authority⟩, same⟩
  · rintro ⟨⟨⟨fresh, free⟩, room, invited, outside, revision, authority⟩, same⟩
    exact ⟨⟨fresh, invited, outside, free, revision⟩, authority, _, ⟨room, rfl⟩, same⟩

theorem scanApproved_eq_ok {approved : ApprovedJoin} :
    scanApproved snapshot members invitations scan approved = .ok result ↔
      (¬approved.requestId ∈ scan.seenJoinIds ∧
        countOf scan.expectedUses approved.inviteId + 1 < UInt32.size ∧
        approved.inviteId ∈ invitations ∧ approved.candidateId ∈ members ∧
        approved.policyRevision ≤ snapshot.revision) ∧
      scan.addApproved approved = result := by
  simp only [scanApproved, bind_eq_ok, rejectIf_eq_ok, exists_const, pure_eq_ok, not_or, not_not,
    incrementSnapshotCount_eq_ok, gt_iff_lt, Revision.not_lt, JoinScan.addApproved]
  constructor
  · rintro ⟨⟨fresh, invited, inside, revision⟩, _, ⟨room, rfl⟩, same⟩
    exact ⟨⟨fresh, room, invited, inside, revision⟩, same⟩
  · rintro ⟨⟨fresh, room, invited, inside, revision⟩, same⟩
    exact ⟨⟨fresh, invited, inside, revision⟩, _, ⟨room, rfl⟩, same⟩

/-- Join ids not seen before the loop and not repeated in it. -/
def FreshIds {τ : Type} (scan : JoinScan) (requestIdOf : τ → JoinRequestId)
    (items : List τ) : Prop :=
  (items.map requestIdOf).Nodup ∧ ∀ item ∈ items, requestIdOf item ∉ scan.seenJoinIds

/-- Candidates without another active join before the loop or in it. -/
def FreshCandidates {τ : Type} (scan : JoinScan) (candidateOf : τ → IdentityId)
    (items : List τ) : Prop :=
  (items.map candidateOf).Nodup ∧ ∀ item ∈ items, candidateOf item ∉ scan.activeCandidates

section Fresh

variable {τ : Type} {next : JoinScan → τ → JoinScan} {items : List τ}

theorem along_freshIds (requestIdOf : τ → JoinRequestId)
    (grows : ∀ scan item,
      (next scan item).seenJoinIds = scan.seenJoinIds.insert (requestIdOf item)) :
    Along (fun scan item => ¬requestIdOf item ∈ scan.seenJoinIds) next scan items ↔
      FreshIds scan requestIdOf items :=
  along_fresh requestIdOf (fun (scan : JoinScan) key => key ∈ scan.seenJoinIds)
    fun scan item key => by rw [grows, mem_set_insert]

theorem along_freshCandidates (candidateOf : τ → IdentityId)
    (grows : ∀ scan item,
      (next scan item).activeCandidates = scan.activeCandidates.insert (candidateOf item)) :
    Along (fun scan item => ¬candidateOf item ∈ scan.activeCandidates) next scan items ↔
      FreshCandidates scan candidateOf items :=
  along_fresh candidateOf (fun (scan : JoinScan) key => key ∈ scan.activeCandidates)
    fun scan item key => by rw [grows, mem_set_insert]

end Fresh

theorem scanPending_loop {joins : List PendingJoinRequest} :
    joins.foldlM (scanPending members invitations) scan = .ok result ↔
      ((FreshIds scan PendingJoinRequest.requestId joins ∧
          FreshCandidates scan PendingJoinRequest.candidateId joins) ∧
        ∀ pending ∈ joins, pending.inviteId ∈ invitations ∧ pending.candidateId ∉ members) ∧
      joins.foldl JoinScan.addPending scan = result := by
  refine (foldlM_eq_ok_iff _ JoinScan.addPending fun _ _ _ => scanPending_eq_ok).trans
    (and_congr_left fun _ => ?_)
  rw [along_and, along_and, along_const]
  exact and_congr_left fun _ => and_congr
    (along_freshIds PendingJoinRequest.requestId fun _ _ => rfl)
    (along_freshCandidates PendingJoinRequest.candidateId fun _ _ => rfl)

theorem scanReserved_loop {joins : List ReservedJoin} :
    joins.foldlM (scanReserved snapshot members generations invitations) scan = .ok result ↔
      ((FreshIds scan ReservedJoin.requestId joins ∧
          FreshCandidates scan ReservedJoin.candidateId joins) ∧
        (∀ inviteId, countOf scan.expectedReservations inviteId +
          (joins.countP fun reserved => reserved.inviteId = inviteId) < UInt32.size) ∧
        ∀ reserved ∈ joins, reserved.inviteId ∈ invitations ∧ reserved.candidateId ∉ members ∧
          reserved.policyRevision ≤ snapshot.revision ∧
          AuthorityReached snapshot.ownerId generations reserved.reservedBy
            reserved.reservedAuthority) ∧
      joins.foldl JoinScan.addReserved scan = result := by
  refine (foldlM_eq_ok_iff _ JoinScan.addReserved fun _ _ _ => scanReserved_eq_ok).trans
    (and_congr_left fun _ => ?_)
  rw [along_and, along_and, along_and, along_const]
  exact and_congr
    (and_congr (along_freshIds ReservedJoin.requestId fun _ _ => rfl)
      (along_freshCandidates ReservedJoin.candidateId fun _ _ => rfl))
    (and_congr_left fun _ => (along_count ReservedJoin.inviteId JoinScan.expectedReservations
      JoinScan.addReserved (fun _ _ => rfl) joins scan).1)

theorem scanApproved_loop {joins : List ApprovedJoin} :
    joins.foldlM (scanApproved snapshot members invitations) scan = .ok result ↔
      (FreshIds scan ApprovedJoin.requestId joins ∧
        (∀ inviteId, countOf scan.expectedUses inviteId +
          (joins.countP fun approved => approved.inviteId = inviteId) < UInt32.size) ∧
        ∀ approved ∈ joins, approved.inviteId ∈ invitations ∧ approved.candidateId ∈ members ∧
          approved.policyRevision ≤ snapshot.revision) ∧
      joins.foldl JoinScan.addApproved scan = result := by
  refine (foldlM_eq_ok_iff _ JoinScan.addApproved fun _ _ _ => scanApproved_eq_ok).trans
    (and_congr_left fun _ => ?_)
  rw [along_and, along_and, along_const]
  exact and_congr (along_freshIds ApprovedJoin.requestId fun _ _ => rfl)
    (and_congr_left fun _ => (along_count ApprovedJoin.inviteId JoinScan.expectedUses
      JoinScan.addApproved (fun _ _ => rfl) joins scan).1)

end Scan

/-! ## The validator as a whole -/

namespace GroupPolicySnapshot

variable (snapshot : GroupPolicySnapshot)

/-- The administrator generations collected from their listing. -/
def generations : TreeMap IdentityId Revision :=
  collect Prod.fst Prod.snd snapshot.administratorAuthorizationGenerations

/-- The scan after all three join loops. -/
def scanned : JoinScan :=
  snapshot.approvedJoins.foldl JoinScan.addApproved
    (snapshot.reservedJoins.foldl JoinScan.addReserved
      (snapshot.pendingJoins.foldl JoinScan.addPending .start))

/-- The policy assembled from the lists of a snapshot. -/
def assemble : GroupPolicy where
  scope := snapshot.scope
  ownerId := snapshot.ownerId
  administrators := collectSet snapshot.administrators
  administratorAuthorizationGenerations := snapshot.generations
  members := collectSet snapshot.members
  invitations := collect InviteCapability.inviteId id snapshot.invitations
  pendingJoins := collect PendingJoinRequest.requestId id snapshot.pendingJoins
  reservedJoins := collect ReservedJoin.requestId id snapshot.reservedJoins
  approvedJoins := collect ApprovedJoin.requestId id snapshot.approvedJoins
  revision := snapshot.revision

end GroupPolicySnapshot

namespace JoinScan

variable {scan : JoinScan}

variable {requestId : JoinRequestId}

theorem start_seen : requestId ∈ start.seenJoinIds ↔ False := by
  simp [start]

theorem start_active {candidateId : IdentityId} : candidateId ∈ start.activeCandidates ↔ False := by
  simp [start]

theorem mem_seen_addPending {joins : List PendingJoinRequest} :
    requestId ∈ (joins.foldl addPending scan).seenJoinIds ↔
      requestId ∈ joins.map PendingJoinRequest.requestId ∨ requestId ∈ scan.seenJoinIds := by
  rw [foldl_part seenJoinIds (fun keys pending => keys.insert pending.requestId) fun _ _ => rfl]
  exact mem_foldl_insert_set _ _ _

theorem mem_seen_addReserved {joins : List ReservedJoin} :
    requestId ∈ (joins.foldl addReserved scan).seenJoinIds ↔
      requestId ∈ joins.map ReservedJoin.requestId ∨ requestId ∈ scan.seenJoinIds := by
  rw [foldl_part seenJoinIds (fun keys reserved => keys.insert reserved.requestId) fun _ _ => rfl]
  exact mem_foldl_insert_set _ _ _

theorem mem_active_addPending {joins : List PendingJoinRequest} {candidateId : IdentityId} :
    candidateId ∈ (joins.foldl addPending scan).activeCandidates ↔
      candidateId ∈ joins.map PendingJoinRequest.candidateId ∨
        candidateId ∈ scan.activeCandidates := by
  rw [foldl_part activeCandidates (fun keys pending => keys.insert pending.candidateId)
    fun _ _ => rfl]
  exact mem_foldl_insert_set _ _ _

end JoinScan

namespace GroupPolicySnapshot

variable {snapshot : GroupPolicySnapshot}

theorem scanned_pendingJoins : snapshot.scanned.pendingJoins =
    collect PendingJoinRequest.requestId id snapshot.pendingJoins := by
  rw [scanned, foldl_untouched JoinScan.pendingJoins JoinScan.addApproved fun _ _ => rfl,
    foldl_untouched JoinScan.pendingJoins JoinScan.addReserved fun _ _ => rfl,
    foldl_part JoinScan.pendingJoins
      (fun joins pending => joins.insert pending.requestId pending) fun _ _ => rfl]
  rfl

theorem scanned_reservedJoins : snapshot.scanned.reservedJoins =
    collect ReservedJoin.requestId id snapshot.reservedJoins := by
  rw [scanned, foldl_untouched JoinScan.reservedJoins JoinScan.addApproved fun _ _ => rfl,
    foldl_part JoinScan.reservedJoins
      (fun joins reserved => joins.insert reserved.requestId reserved) fun _ _ => rfl,
    foldl_untouched JoinScan.reservedJoins JoinScan.addPending fun _ _ => rfl]
  rfl

theorem scanned_approvedJoins : snapshot.scanned.approvedJoins =
    collect ApprovedJoin.requestId id snapshot.approvedJoins := by
  rw [scanned, foldl_part JoinScan.approvedJoins
      (fun joins approved => joins.insert approved.requestId approved) fun _ _ => rfl,
    foldl_untouched JoinScan.approvedJoins JoinScan.addReserved fun _ _ => rfl,
    foldl_untouched JoinScan.approvedJoins JoinScan.addPending fun _ _ => rfl]
  rfl

variable (inviteId : InviteCapabilityId)

/-- Pending joins leave the reservation counts of the scan at zero. -/
theorem reservations_before :
    countOf (snapshot.pendingJoins.foldl JoinScan.addPending .start).expectedReservations
      inviteId = 0 := by
  rw [foldl_untouched JoinScan.expectedReservations JoinScan.addPending fun _ _ => rfl]
  rfl

/-- Pending and reserved joins leave the use counts of the scan at zero. -/
theorem uses_before :
    countOf (snapshot.reservedJoins.foldl JoinScan.addReserved
      (snapshot.pendingJoins.foldl JoinScan.addPending .start)).expectedUses inviteId = 0 := by
  rw [foldl_untouched JoinScan.expectedUses JoinScan.addReserved fun _ _ => rfl,
    foldl_untouched JoinScan.expectedUses JoinScan.addPending fun _ _ => rfl]
  rfl

/-- The counts of the scan are the totals of the join lists. -/
theorem scanned_counts (reservations : ∀ inviteId, (snapshot.reservedJoins.countP
      fun reserved => reserved.inviteId = inviteId) < UInt32.size)
    (uses : ∀ inviteId, (snapshot.approvedJoins.countP
      fun approved => approved.inviteId = inviteId) < UInt32.size) :
    countOf snapshot.scanned.expectedReservations inviteId =
        (snapshot.reservedJoins.countP fun reserved => reserved.inviteId = inviteId) ∧
      countOf snapshot.scanned.expectedUses inviteId =
        (snapshot.approvedJoins.countP fun approved => approved.inviteId = inviteId) := by
  constructor
  · have loop := along_count ReservedJoin.inviteId JoinScan.expectedReservations
      JoinScan.addReserved (fun _ _ => rfl) snapshot.reservedJoins
      (snapshot.pendingJoins.foldl JoinScan.addPending .start)
    simp only [reservations_before, Nat.zero_add] at loop
    rw [scanned, foldl_untouched JoinScan.expectedReservations JoinScan.addApproved fun _ _ => rfl,
      loop.2 (loop.1.mpr reservations)]
  · have loop := along_count ApprovedJoin.inviteId JoinScan.expectedUses
      JoinScan.addApproved (fun _ _ => rfl) snapshot.approvedJoins
      (snapshot.reservedJoins.foldl JoinScan.addReserved
        (snapshot.pendingJoins.foldl JoinScan.addPending .start))
    simp only [uses_before, Nat.zero_add] at loop
    rw [scanned, loop.2 (loop.1.mpr uses)]

theorem checkCounters_eq_ok {scan : JoinScan} {inviteId : InviteCapabilityId}
    {invite : InviteCapability} {done : Unit} :
    checkCounters scan (inviteId, invite) = .ok done ↔
      countOf scan.expectedReservations inviteId = invite.reservedUseCount.toNat ∧
        countOf scan.expectedUses inviteId = invite.useCount.toNat := by
  simp only [checkCounters, rejectIf_eq_ok, not_or, not_not, ← UInt32.toNat_inj, countOf]

/-- The assembled policy in the terms the validator computes it in. -/
theorem assemble_eq : snapshot.assemble =
    { snapshot.assemble with
      pendingJoins := snapshot.scanned.pendingJoins
      reservedJoins := snapshot.scanned.reservedJoins
      approvedJoins := snapshot.scanned.approvedJoins } := by
  rw [scanned_pendingJoins, scanned_reservedJoins, scanned_approvedJoins]
  rfl

/-- A total is zero for an unknown invitation, or the invitation's own counter. -/
theorem total_lt {τ : Type} {items : List τ} {inviteOf : τ → InviteCapabilityId}
    {counter : InviteCapability → UInt32}
    (known : ∀ item ∈ items, inviteOf item ∈ snapshot.invitations.map InviteCapability.inviteId)
    (counted : ∀ invite ∈ snapshot.invitations,
      (items.countP fun item => inviteOf item = invite.inviteId) = (counter invite).toNat)
    (inviteId : InviteCapabilityId) :
    (items.countP fun item => inviteOf item = inviteId) < UInt32.size := by
  by_cases listed : inviteId ∈ snapshot.invitations.map InviteCapability.inviteId
  · obtain ⟨invite, member, rfl⟩ := List.mem_map.mp listed
    rw [counted invite member]
    exact UInt32.toNat_lt _
  · have none : (items.countP fun item => inviteOf item = inviteId) = 0 := by
      rw [List.countP_eq_zero]
      intro item member same
      exact listed (of_decide_eq_true same ▸ known item member)
    rw [none]
    decide

theorem mem_invitations_toList
    (distinct : (snapshot.invitations.map InviteCapability.inviteId).Nodup)
    {inviteId : InviteCapabilityId} {invite : InviteCapability} :
    (inviteId, invite) ∈ (collect InviteCapability.inviteId id snapshot.invitations).toList ↔
      invite ∈ snapshot.invitations ∧ invite.inviteId = inviteId := by
  rw [Std.ExtTreeMap.mem_toList_iff_getElem?_eq_some, lookup_collect distinct]
  constructor
  · rintro ⟨item, member, key, rfl⟩
    exact ⟨member, key⟩
  · rintro ⟨member, key⟩
    exact ⟨invite, member, key, rfl⟩

/-- The counters agree with the scan exactly when they are the totals of the join lists. -/
theorem checkCounters_all (distinct : (snapshot.invitations.map InviteCapability.inviteId).Nodup)
    (reservations : ∀ inviteId, (snapshot.reservedJoins.countP
      fun reserved => reserved.inviteId = inviteId) < UInt32.size)
    (uses : ∀ inviteId, (snapshot.approvedJoins.countP
      fun approved => approved.inviteId = inviteId) < UInt32.size) :
    (∀ entry ∈ (collect InviteCapability.inviteId id snapshot.invitations).toList,
        checkCounters snapshot.scanned entry = .ok ()) ↔
      ∀ invite ∈ snapshot.invitations,
        (snapshot.reservedJoins.countP fun reserved => reserved.inviteId = invite.inviteId) =
            invite.reservedUseCount.toNat ∧
          (snapshot.approvedJoins.countP fun approved => approved.inviteId = invite.inviteId) =
            invite.useCount.toNat := by
  simp only [Prod.forall, mem_invitations_toList distinct, checkCounters_eq_ok,
    scanned_counts _ reservations uses, and_imp]
  constructor
  · intro checked invite member
    exact checked _ invite member rfl
  · rintro counted _ invite member rfl
    exact counted invite member

end GroupPolicySnapshot

end Dirextalk.Group
