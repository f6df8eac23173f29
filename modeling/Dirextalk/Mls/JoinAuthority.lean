import Dirextalk.Group.Terms
import Dirextalk.Mls.Feed

/-!
# The authority behind a join commit

A worker that submits an approved join checks that the term of the approver
lasts.  The sequencer's own submission paths do not: they finalize a reservation
whatever has become of the approver.  The authority is current only as long as
no term ends while a reservation is made under it.
-/

namespace Dirextalk.Group.GroupPolicy

open Domain Lib

/-- Every reservation is held under a term that lasts. -/
def ReservationsCurrent (policy : GroupPolicy) : Prop :=
  AllValues (fun reservation =>
    policy.authorityIsCurrent reservation.reservedBy reservation.reservedAuthority = true)
    policy.reservedJoins

/-- The operation ends a term that a reservation is held under. -/
def EndsReservation (policy : GroupPolicy) (operation : Operation) : Prop :=
  ∃ (requestId : JoinRequestId) (reservation : ReservedJoin),
    policy.reservedJoins[requestId]? = some reservation ∧
    reservation.reservedAuthority ≠ .owner ∧ EndsTerm reservation.reservedBy operation

section Steps

variable {policy next : GroupPolicy}

theorem validateReservedJoinAuthority_eq_ok {requestId : JoinRequestId} :
    policy.validateReservedJoinAuthority requestId = .ok () ↔
      ∃ reservation, policy.reservedJoins[requestId]? = some reservation ∧
        policy.authorityIsCurrent reservation.reservedBy reservation.reservedAuthority = true := by
  simp only [validateReservedJoinAuthority, bind_eq_ok, okOr_eq_ok, rejectIf_eq_ok, not_not]

variable {authority : InviteIssuerAuthority}

/-- The authority that an approver acts under is current. -/
theorem current_of_inviteIssuerAuthority {holder : IdentityId}
    (granted : policy.inviteIssuerAuthority holder = .ok authority) :
    policy.authorityIsCurrent holder authority = true := by
  unfold inviteIssuerAuthority at granted
  split at granted
  next owner =>
    cases granted
    exact decide_eq_true owner
  next =>
    split at granted
    next administrator =>
      simp only [okOr_eq_ok, Option.map_eq_some_iff] at granted
      obtain ⟨generation, found, rfl⟩ := granted
      simp [authorityIsCurrent, administrator, found]
    next => cases granted

/-- A grant to another identity keeps a term. -/
theorem current_grant {holder administratorId : IdentityId} {generation revision : Revision}
    (not_administrator : administratorId ∉ policy.administrators)
    (current : policy.authorityIsCurrent holder authority = true) :
    authorityIsCurrent { policy with
      administrators := policy.administrators.insert administratorId
      administratorAuthorizationGenerations :=
        policy.administratorAuthorizationGenerations.insert administratorId generation
      members := policy.members.insert administratorId
      revision } holder authority = true := by
  cases authority with
  | owner => exact current
  | admin term =>
    simp only [authorityIsCurrent, Bool.and_eq_true, decide_eq_true_eq] at current ⊢
    obtain ⟨administrator, found⟩ := current
    have other : holder ≠ administratorId := fun same => not_administrator (same ▸ administrator)
    exact ⟨mem_set_insert.mpr (.inr administrator),
      lookup_insert.trans ((if_neg other).trans found)⟩

/-- A term that does not end stays current when another one ends. -/
theorem current_erase {holder other : IdentityId} (apart : authority ≠ .owner → other ≠ holder)
    (current : policy.authorityIsCurrent holder authority = true) (after : GroupPolicy)
    (administrators : after.administrators = policy.administrators.erase other)
    (generations : after.administratorAuthorizationGenerations =
      policy.administratorAuthorizationGenerations) (owner : after.ownerId = policy.ownerId) :
    after.authorityIsCurrent holder authority = true := by
  cases authority with
  | owner =>
    rw [authorityIsCurrent, owner]
    exact current
  | admin term =>
    simp only [authorityIsCurrent, administrators, generations, Bool.and_eq_true,
      decide_eq_true_eq] at current ⊢
    exact ⟨mem_set_erase.mpr ⟨(apart InviteIssuerAuthority.noConfusion).symm, current.1⟩,
      current.2⟩

/-- Only the end of a term that a reservation is held under can make it lapse. -/
theorem ReservationsCurrent.run (current : policy.ReservationsCurrent) {operation : Operation}
    {done : Unit} (keeps : ¬policy.EndsReservation operation)
    (accepted : policy.run operation = (.ok done, next)) : next.ReservationsCurrent := by
  have ends {requestId : JoinRequestId} {reservation : ReservedJoin} {other : IdentityId}
      (found : policy.reservedJoins[requestId]? = some reservation)
      (ending : ∀ holder, other = holder → EndsTerm holder operation) :
      reservation.reservedAuthority ≠ .owner → other ≠ reservation.reservedBy :=
    fun term same => keeps ⟨requestId, reservation, found, term, ending _ same⟩
  cases effect_of_run accepted with
  | reserveJoin _ _ term _ _ _ _ _ _ _ made =>
    cases made
    exact AllValues.insert current (current_of_inviteIssuerAuthority term)
  | grantAdmin _ _ _ notAdministrator =>
    exact fun requestId reservation found =>
      current_grant notAdministrator (current requestId reservation found)
  | revokeAdmin =>
    exact fun requestId reservation found => current_erase
      (ends found fun _ same => same) (current requestId reservation found) _ rfl rfl rfl
  | removeMember =>
    exact fun requestId reservation found => current_erase
      (ends found fun _ same => same) (current requestId reservation found) _ rfl rfl rfl
  | finalizeReservedJoin => exact AllValues.erase current _
  | releaseJoinReservation => exact AllValues.erase current _
  | issueInvite | revokeInvite | requestJoin | approveJoin => exact current

end Steps

end Dirextalk.Group.GroupPolicy

namespace Dirextalk.Mls

open Domain Dirextalk.Group Lib Dirextalk.Membership Persistence Wire

/-! ## The operations of a transaction -/

section Calls

variable [Sha256] [Ed25519]

/-- The operations that a submission can run on the policy: a removal of its own, or
those of the saga. -/
def submittedOperations (command : MlsCommitCommand) (operation : Operation) : Prop :=
  OfSaga operation ∨ MlsGroup.RemovesMember command operation

/-- The operations that the transaction can run on the policy. -/
def MlsCall.operations : MlsCall → Operation → Prop
  | .submit command .. | .submitV2 command .. | .submitV3 command .. =>
      submittedOperations command
  | .membership transaction => transaction.operations
  | .confirm .. | .elsewhere _ => fun _ => False

namespace MlsGroup

variable {sequencerSigningKey : SigningPublicKey} {group after : MlsGroup}

variable {execution : MlsCommitExecution} {command : MlsCommitCommand}

theorem Submitted.policyStep {nowMs : Int64}
    (submitted : Submitted sequencerSigningKey group command nowMs execution after) :
    PolicyStep (RemovesMember command) group.saga.policy after.saga.policy := by
  cases submitted with
  | replayed => exact .kept
  | admitted _ _ _ _ revised _ _ removed => exact removeGroupMember_policyStep revised removed

/-- A join commit runs no removal, so the saga's step is the only one. -/
theorem Submitted.policy_eq {nowMs : Int64}
    (submitted : Submitted sequencerSigningKey group command nowMs execution after)
    (join : command.authorization.membershipCommandId?.isSome = true) :
    after.saga.policy = group.saga.policy := by
  have step := submitted.policyStep
  generalize after.saga.policy = policy at step ⊢
  cases step with
  | kept => rfl
  | ran operation allows =>
    obtain ⟨_, removal, -⟩ := allows
    rw [removal] at join
    cases join

theorem Finished.policyStep (finished : Finished sequencerSigningKey group command after) :
    PolicyStep (submittedOperations command) group.saga.policy after.saga.policy := by
  obtain ⟨_, _, _, _, submitted, rfl, rfl | ⟨join, step⟩⟩ := finished
  · exact submitted.policyStep.mono fun _ => .inr
  · rw [← submitted.policy_eq join]
    exact step.mono fun _ => .inl

theorem policyStep_of_transacts {call : MlsCall}
    (taken : group.Transacts sequencerSigningKey call after) :
    PolicyStep call.operations group.saga.policy after.saga.policy := by
  cases call <;> simp only [Transacts, transact, map_eq_ok, Prod.exists] at taken
  case submit =>
    obtain ⟨_, _, done, rfl⟩ := taken
    exact (submitted_of_eq_ok done).policyStep.mono fun _ => .inr
  case submitV2 =>
    obtain ⟨_, _, done, rfl⟩ := taken
    exact (finished_of_submitV2 done).policyStep
  case submitV3 =>
    obtain ⟨_, _, done, rfl⟩ := taken
    exact (finished_of_submitV3 done).policyStep
  case confirm =>
    obtain ⟨_, _, done, rfl⟩ := taken
    obtain rfl | rfl := of_confirm done <;> exact .kept
  case membership =>
    obtain ⟨saga, done, rfl⟩ := taken
    exact Saga.transact_policyStep done
  case elsewhere =>
    simp only [bind_eq_ok, rejectIf_eq_ok, exists_const, pure_eq_ok] at taken
    obtain ⟨-, rfl⟩ := taken
    exact .kept

/-! ## Join commits -/

/-- No operation that the transaction can run ends a term that a reservation is held
under. -/
def Careful (group : MlsGroup) (call : MlsCall) : Prop :=
  ∀ operation, call.operations operation → ¬group.saga.policy.EndsReservation operation

/-- A committed transaction that is careful. -/
def CarefulStep (sequencerSigningKey : SigningPublicKey) (group : MlsGroup) (call : MlsCall)
    (after : MlsGroup) : Prop :=
  group.Careful call ∧ group.Transacts sequencerSigningKey call after

/-- A new group: no join was asked for and no commit was admitted. -/
def Founded (group : MlsGroup) : Prop :=
  group.Unsequenced ∧ ∃ scope ownerId, group.saga = .bootstrapped (.new scope ownerId)

/-- The submission newly admits a join commit and finalizes the reservation. -/
structure CommitsJoin (sequencerSigningKey : SigningPublicKey) (group : MlsGroup)
    (command : MlsCommitCommand) (call : MlsCall) (after : MlsGroup) (requestId : JoinRequestId) :
    Prop where
  submits : ∃ nowMs signReceipt,
    call = .submitV2 command nowMs signReceipt ∨ call = .submitV3 command nowMs signReceipt
  join : command.authorization.membershipCommandId?.isSome = true
  commits : group.Transacts sequencerSigningKey call after
  admitted : after.commits.length = group.commits.length + 1
  reserved : requestId ∈ group.saga.policy.reservedJoins
  finalized : requestId ∉ group.saga.policy.approvedJoins ∧
    requestId ∈ after.saga.policy.approvedJoins

/-- In a run of careful steps every reservation is held under a term that lasts. -/
theorem reservationsCurrent_of_reached
    (reached : Reached Founded (CarefulStep sequencerSigningKey) group) :
    group.saga.policy.ReservationsCurrent := by
  refine reached.invariant (fun group => group.saga.policy.ReservationsCurrent) ?_ ?_
  · rintro founded ⟨-, scope, ownerId, bootstrapped⟩ requestId reservation found
    rw [bootstrapped] at found
    simp [Saga.bootstrapped, GroupPolicy.new] at found
  · rintro before call next current ⟨careful, taken⟩
    have step := policyStep_of_transacts taken
    generalize next.saga.policy = policy at step ⊢
    cases step with
    | kept => exact current
    | ran operation allows accepted => exact current.run (careful operation allows) accepted

/-- In every run whose transactions end no term that a reservation is held under, a join
commit that is admitted and finalizes its reservation has the authority that the worker
path would have required. -/
theorem join_commit_authorized
    (reached : Reached Founded (CarefulStep sequencerSigningKey) group)
    {command : MlsCommitCommand} {call : MlsCall} {requestId : JoinRequestId}
    (joins : CommitsJoin sequencerSigningKey group command call after requestId) :
    group.saga.policy.validateReservedJoinAuthority requestId = .ok () := by
  obtain ⟨reservation, found⟩ := mem_iff_lookup.mp joins.reserved
  exact GroupPolicy.validateReservedJoinAuthority_eq_ok.mpr
    ⟨reservation, found, reservationsCurrent_of_reached reached requestId reservation found⟩

end MlsGroup

/-! ### An administrator who is dismissed after an approval -/

/-- Nothing is at stake while no join is reserved. -/
theorem MlsGroup.careful_of_isEmpty {group : MlsGroup} {call : MlsCall}
    (empty : group.saga.policy.reservedJoins.isEmpty = true) : group.Careful call := by
  rintro operation - ⟨requestId, reservation, found, -⟩
  rw [Std.ExtTreeMap.isEmpty_iff.mp empty] at found
  cases found

end Calls

section Samples

open Identity

attribute [local instance] openEd25519 countingSha256

def revisionFive : Revision := ⟨5, by decide, by decide⟩

/-- A command on the join that identity 2 asks for with invitation 1. -/
def candidateContext (commandTag actorTag : UInt8) (policyRevision : Revision) :
    MembershipCommandContext where
  commandId := .tagged commandTag
  idempotencyKeyHash := sampleDigest commandTag
  scope := sampleGroup.scope
  actorIdentityId := .tagged actorTag
  actorDeviceId := .tagged actorTag
  joinRequestId := .tagged 2
  candidateIdentityId := .tagged 2
  candidateDeviceId := .tagged 2
  inviteId := .tagged 1
  fence := { policyRevision, sequencerHead := headDigestOf ownedGroup }
  candidateKeyPackageDigest := some (sampleDigest 1)

def candidateRequest : JoinRequestCommand := ⟨candidateContext 3 2 revisionThree⟩

def staffApproval : ApproveJoinCommand := ⟨candidateContext 4 1 revisionFour, sampleDigest 5⟩

def grantCall : MlsCall := .membership (.control (.grantAdmin .initial (.tagged 0) (.tagged 1)) rfl)

def inviteCall : MlsCall :=
  .membership (.control (.issueInvite revisionTwo (.tagged 0) (.tagged 1) none 1 10 0) rfl)

def requestCall : MlsCall := .membership (.requestJoin candidateRequest .notMember 1)

def approveCall : MlsCall := .membership (.approveJoin staffApproval 2)

def dismissCall : MlsCall :=
  .membership (.control (.revokeAdmin revisionFive (.tagged 0) (.tagged 1)) rfl)

/-- Identity 1 is an administrator. -/
def equippedGroup : MlsGroup := ownedGroup.settle sequencerKey grantCall

def invitingGroup : MlsGroup := equippedGroup.settle sequencerKey inviteCall

/-- Identity 2 asks to join. -/
def askedGroup : MlsGroup := invitingGroup.settle sequencerKey requestCall

/-- Identity 1 has approved the request. -/
def approvedGroup : MlsGroup := askedGroup.settle sequencerKey approveCall

/-- The owner has dismissed identity 1 since. -/
def lapsedGroup : MlsGroup := approvedGroup.settle sequencerKey dismissCall

/-- The commit of identity 1 that admits identity 2. -/
def joinCommand : MlsCommitCommand :=
  { sampleFacts 3 2 2 1 (headDigestOf ownedGroup) (.approvedIdentityJoinV3 (.tagged 4)
      (sampleDigest 5) candidateRequest.requestDigest staffApproval.requestDigest) with
    actorIdentityId := .tagged 1
    candidateIdentityId := .tagged 2 : MlsCommitFacts }.command (by decide) rfl (by decide)

def joinCall : MlsCall := .submitV3 joinCommand 3 fun _ => .ok sampleSignature

/-- The transaction commits while no join is reserved. -/
def commitsUnreserved (group : MlsGroup) (call : MlsCall) : Bool :=
  group.saga.policy.reservedJoins.isEmpty && (group.transact sequencerKey call).isOk

/-- The commit is admitted and finalizes the reservation. -/
def joinsCandidate (group : MlsGroup) : Bool :=
  let after := group.settle sequencerKey joinCall
  (group.transact sequencerKey joinCall).isOk ∧
    after.commits.length = group.commits.length + 1 ∧
    .tagged 2 ∈ group.saga.policy.reservedJoins ∧ .tagged 2 ∉ group.saga.policy.approvedJoins ∧
    .tagged 2 ∈ after.saga.policy.approvedJoins

-- evaluated at once, since the groups build on each other
theorem sampleRun_evaluated :
    commitsUnreserved openGroup bootstrapCall = true ∧
      commitsUnreserved ownedGroup grantCall = true ∧
      commitsUnreserved equippedGroup inviteCall = true ∧
      commitsUnreserved invitingGroup requestCall = true ∧
      commitsUnreserved askedGroup approveCall = true ∧ joinsCandidate approvedGroup = true ∧
      (approvedGroup.transact sequencerKey dismissCall).isOk = true ∧
      joinsCandidate lapsedGroup = true ∧
      lapsedGroup.saga.policy.validateReservedJoinAuthority (.tagged 2) =
        .error .inviteIssuerNoLongerAuthorized ∧
      (lapsedGroup.settle sequencerKey joinCall).isMember (.tagged 2) = true := by
  decide +kernel

theorem carefulStep_of_commitsUnreserved {group : MlsGroup} {call : MlsCall}
    (commits : commitsUnreserved group call = true) :
    MlsGroup.CarefulStep sequencerKey group call (group.settle sequencerKey call) := by
  obtain ⟨empty, commits⟩ := Bool.and_eq_true_iff.mp commits
  exact ⟨MlsGroup.careful_of_isEmpty empty, MlsGroup.transacts_settle commits⟩

theorem commitsJoin_of_joinsCandidate {group : MlsGroup} (joins : joinsCandidate group = true) :
    MlsGroup.CommitsJoin sequencerKey group joinCommand joinCall
      (group.settle sequencerKey joinCall) (.tagged 2) := by
  obtain ⟨commits, admitted, reserved, finalized⟩ := of_decide_eq_true joins
  exact ⟨⟨_, _, .inr rfl⟩, rfl, MlsGroup.transacts_settle commits, admitted, reserved, finalized⟩

theorem approvedGroup_reached :
    Reached MlsGroup.Founded (MlsGroup.CarefulStep sequencerKey) approvedGroup := by
  obtain ⟨bootstraps, grants, invites, requests, approves, -⟩ := sampleRun_evaluated
  have opened : Reached MlsGroup.Founded (MlsGroup.CarefulStep sequencerKey) openGroup :=
    .initial ⟨⟨rfl, rfl, rfl⟩, _, _, rfl⟩
  exact .next _ (.next _ (.next _ (.next _ (.next _ opened
    (carefulStep_of_commitsUnreserved bootstraps)) (carefulStep_of_commitsUnreserved grants))
    (carefulStep_of_commitsUnreserved invites)) (carefulStep_of_commitsUnreserved requests))
    (carefulStep_of_commitsUnreserved approves)

theorem approvedGroup_authorized :
    approvedGroup.saga.policy.validateReservedJoinAuthority (.tagged 2) = .ok () := by
  obtain ⟨-, -, -, -, -, joins, -⟩ := sampleRun_evaluated
  exact MlsGroup.join_commit_authorized approvedGroup_reached (commitsJoin_of_joinsCandidate joins)

/-- The approver is dismissed before the commit, which is admitted all the same and
makes the candidate a member. -/
theorem dismissed_approver_admits :
    Reached MlsGroup.Founded (MlsGroup.Transacts sequencerKey) lapsedGroup ∧
      MlsGroup.CommitsJoin sequencerKey lapsedGroup joinCommand joinCall
        (lapsedGroup.settle sequencerKey joinCall) (.tagged 2) ∧
      lapsedGroup.saga.policy.validateReservedJoinAuthority (.tagged 2) =
        .error .inviteIssuerNoLongerAuthorized ∧
      (lapsedGroup.settle sequencerKey joinCall).isMember (.tagged 2) = true := by
  obtain ⟨-, -, -, -, -, -, dismisses, joins, lapsed, member⟩ := sampleRun_evaluated
  have reached := approvedGroup_reached.mono fun _ _ _ step => step.2
  exact ⟨.next dismissCall reached (MlsGroup.transacts_settle dismisses),
    commitsJoin_of_joinsCandidate joins, lapsed, member⟩

end Samples

end Dirextalk.Mls
