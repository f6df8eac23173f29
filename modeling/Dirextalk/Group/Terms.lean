import Dirextalk.Group.Admissions

/-!
# Administrator terms

A term of administration is an identity with an authorization generation.  The
generation of an identity survives the end of its term and only grows, so a term
that has ended is never current again, whatever is granted later, and with it end
the invitations and reservations that were made under it.
-/

namespace Dirextalk.Group

open Domain Lib

namespace GroupPolicy

variable {policy next : GroupPolicy} {holder : IdentityId} {generation : Revision}

/-! ## Generations only grow -/

theorem value_of_nextGeneration {current : Revision}
    (found : policy.administratorAuthorizationGenerations[holder]? = some current)
    (term : policy.nextAdminAuthorizationGeneration holder = .ok generation) :
    current < generation := by
  simp only [nextAdminAuthorizationGeneration, found, mapError_eq_ok] at term
  rw [Revision.lt_def, Revision.value_of_checkedNext term]
  exact Nat.lt_succ_self _

theorem termsGrow_run (coherent : policy.Coherent) (operation : Operation) :
    TermsGrow policy.administratorAuthorizationGenerations
      (policy.run operation).2.administratorAuthorizationGenerations := by
  rcases outcome : policy.run operation with ⟨error | done, next⟩
  · rw [coherent.run_rejected outcome]
    exact .refl _
  · cases effect_of_run outcome with
    | grantAdmin _ _ _ _ _ term => exact nextGeneration_grows term
    | _ => exact .refl _

/-! ## Terms that are over -/

/-- The term is behind the identity: its generation has been reached, and passed if
the identity is an administrator. -/
def TermOver (policy : GroupPolicy) (holder : IdentityId) (generation : Revision) : Prop :=
  ∃ current, policy.administratorAuthorizationGenerations[holder]? = some current ∧
    generation ≤ current ∧ (holder ∈ policy.administrators → generation < current)

theorem TermOver.not_current (ended : policy.TermOver holder generation) :
    policy.authorityIsCurrent holder (.admin generation) = false := by
  obtain ⟨current, found, -, passed⟩ := ended
  simp only [authorityIsCurrent, found, Option.some.injEq, Bool.and_eq_false_imp,
    decide_eq_true_eq, decide_eq_false_iff_not]
  rintro administrator rfl
  exact Nat.lt_irrefl _ (passed administrator)

/-- No call brings a term back. -/
theorem TermOver.run (ended : policy.TermOver holder generation) (coherent : policy.Coherent)
    (operation : Operation) : (policy.run operation).2.TermOver holder generation := by
  rcases outcome : policy.run operation with ⟨error | done, next⟩
  · rw [coherent.run_rejected outcome]
    exact ended
  · obtain ⟨current, found, reached, passed⟩ := ended
    cases effect_of_run outcome with
    | @grantAdmin _ _ granted _ administratorId _ _ _ _ _ term =>
      by_cases same : holder = administratorId
      · subst same
        have larger : generation < granted :=
          Nat.lt_of_le_of_lt reached (value_of_nextGeneration found term)
        exact ⟨granted, lookup_insert_self _ _ _, Nat.le_of_lt larger, fun _ => larger⟩
      · refine ⟨current, ?_, reached, fun administrator => ?_⟩
        · exact lookup_insert.trans ((if_neg same).trans found)
        · exact passed ((mem_set_insert.mp administrator).resolve_left same)
    | revokeAdmin =>
      exact ⟨current, found, reached, fun administrator =>
        passed (mem_set_erase.mp administrator).2⟩
    | removeMember =>
      exact ⟨current, found, reached, fun administrator =>
        passed (mem_set_erase.mp administrator).2⟩
    | _ => exact ⟨current, found, reached, passed⟩

/-- The call ends the term of an administrator. -/
def EndsTerm (holder : IdentityId) : Operation → Prop
  | .revokeAdmin _ _ administratorId => administratorId = holder
  | .removeMember _ _ memberId => memberId = holder
  | _ => False

/-- After such a call every term that the identity has reached is over. -/
theorem termOver_of_endsTerm {operation : Operation} {done : Unit} {current : Revision}
    (found : policy.administratorAuthorizationGenerations[holder]? = some current)
    (reached : generation ≤ current) (ends : EndsTerm holder operation)
    (accepted : policy.run operation = (.ok done, next)) : next.TermOver holder generation := by
  cases effect_of_run accepted with
  | revokeAdmin =>
    cases ends
    exact ⟨current, found, reached, fun administrator =>
      absurd rfl (mem_set_erase.mp administrator).1⟩
  | removeMember =>
    cases ends
    exact ⟨current, found, reached, fun administrator =>
      absurd rfl (mem_set_erase.mp administrator).1⟩
  | _ => cases ends

/-- The authority that an administrator acts under is the current term. -/
theorem authority_of_administrator {authority : InviteIssuerAuthority}
    (granted : policy.inviteIssuerAuthority holder = .ok authority)
    (not_owner : holder ≠ policy.ownerId) :
    ∃ generation, authority = .admin generation ∧
      policy.administratorAuthorizationGenerations[holder]? = some generation := by
  unfold inviteIssuerAuthority at granted
  rw [if_neg not_owner] at granted
  split at granted
  · simp only [okOr_eq_ok, Option.map_eq_some_iff] at granted
    obtain ⟨generation, found, rfl⟩ := granted
    exact ⟨generation, rfl, found⟩
  · cases granted

end GroupPolicy

/-! ## Runs -/

section Runs

variable {start during later : GroupPolicy} {holder : IdentityId} {generation : Revision}

/-- After `during`, a call has ended the identity's term, and the run has gone on. -/
def AfterTerm (holder : IdentityId) (during later : GroupPolicy) : Prop :=
  ∃ before operation ended, ReachedFrom during Call before ∧
    GroupPolicy.EndsTerm holder operation ∧ before.run operation = (.ok (), ended) ∧
    ReachedFrom ended Call later

theorem termOver_stays (coherent : start.Coherent) (ended : start.TermOver holder generation)
    (further : ReachedFrom start Call later) : later.TermOver holder generation :=
  (kept_by_calls further coherent (·.TermOver holder generation) ended
    fun _ operation coherent ended => ended.run coherent operation).2

theorem generation_grows (coherent : start.Coherent)
    (found : start.administratorAuthorizationGenerations[holder]? = some generation)
    (further : ReachedFrom start Call later) : later.Coherent ∧
    ∃ current, later.administratorAuthorizationGenerations[holder]? = some current ∧
      generation ≤ current := by
  apply kept_by_calls further coherent (fun policy =>
    ∃ current, policy.administratorAuthorizationGenerations[holder]? = some current ∧
      generation ≤ current)
  · exact ⟨generation, found, Revision.le_refl _⟩
  · intro policy operation coherent grown
    obtain ⟨current, found, reached⟩ := grown
    obtain ⟨grown, foundGrown, larger⟩ :=
      policy.termsGrow_run coherent operation holder current found
    exact ⟨grown, foundGrown, Revision.le_trans reached larger⟩

/-- A term that was current in `during` is over once a call has ended it. -/
theorem AfterTerm.termOver (after : AfterTerm holder during later) (coherent : during.Coherent)
    (found : during.administratorAuthorizationGenerations[holder]? = some generation) :
    later.TermOver holder generation := by
  obtain ⟨before, operation, ended, toBefore, ends, accepted, fromEnded⟩ := after
  obtain ⟨beforeCoherent, current, foundCurrent, reached⟩ :=
    generation_grows coherent found toBefore
  have endedCoherent := beforeCoherent.run operation
  rw [accepted] at endedCoherent
  exact termOver_stays endedCoherent
    (GroupPolicy.termOver_of_endsTerm foundCurrent reached ends accepted) fromEnded

/-- Neither a new request nor a pending one gets past the invitation. -/
def Unusable (policy : GroupPolicy) (inviteId : InviteCapabilityId) : Prop :=
  (∀ expectedRevision actorId candidateId requestId nowMs,
    (policy.requestJoin expectedRevision actorId candidateId requestId inviteId nowMs).1.isOk =
      false) ∧
  ∀ requestId pending, policy.pendingJoins[requestId]? = some pending →
    pending.inviteId = inviteId → ∀ expectedRevision actorId nowMs,
      (policy.reserveJoin expectedRevision actorId requestId nowMs).1.isOk = false ∧
      (policy.approveJoin expectedRevision actorId requestId nowMs).1.isOk = false

theorem isOk_eq_false_of_ne {α : Type} {tried : Attempt α}
    (rejected : ∀ value next, tried ≠ (.ok value, next)) : tried.1.isOk = false := by
  rcases tried with ⟨error | value, next⟩
  · rfl
  · exact absurd rfl (rejected value next)

theorem unusable_of_termOver {inviteId : InviteCapabilityId} {invite : InviteCapability}
    (found : later.invitations[inviteId]? = some invite)
    (authority : invite.issuerAuthority = .admin generation)
    (ended : later.TermOver invite.issuerId generation) : Unusable later inviteId := by
  have not_usable : ∀ candidateId nowMs, ¬later.Usable invite candidateId nowMs := by
    intro candidateId nowMs usable
    have current := usable.issuer_current
    rw [GroupPolicy.inviteIssuerAuthorityIsCurrent, authority, ended.not_current] at current
    cases current
  constructor
  · intro expectedRevision actorId candidateId requestId nowMs
    apply isOk_eq_false_of_ne
    intro pending next accepted
    have effect : later.Effect
        (.requestJoin expectedRevision actorId candidateId requestId inviteId nowMs) next :=
      GroupPolicy.effect_of_run (GroupPolicy.run_of_accepted rfl accepted)
    cases effect with
    | requestJoin _ _ _ _ _ present usable =>
      rw [found] at present
      cases present
      exact not_usable _ _ usable
  · intro requestId pending waiting names expectedRevision actorId nowMs
    constructor <;> apply isOk_eq_false_of_ne
    · intro reservation next accepted
      have effect : later.Effect (.reserveJoin expectedRevision actorId requestId nowMs) next :=
        GroupPolicy.effect_of_run (GroupPolicy.run_of_accepted rfl accepted)
      cases effect with
      | reserveJoin _ _ _ _ _ waited outsider present usable =>
        rw [waiting] at waited
        cases waited
        rw [names, found] at present
        cases present
        exact not_usable _ _ usable
    · intro approved next accepted
      have effect : later.Effect (.approveJoin expectedRevision actorId requestId nowMs) next :=
        GroupPolicy.effect_of_run (GroupPolicy.run_of_accepted rfl accepted)
      cases effect with
      | approveJoin _ _ _ waited outsider present usable =>
        rw [waiting] at waited
        cases waited
        rw [names, found] at present
        cases present
        exact not_usable _ _ usable

/-- An invitation issued during a term is unusable once the term has ended. -/
theorem invite_ends_with_term (coherent : start.Coherent) (not_owner : holder ≠ start.ownerId)
    {expectedRevision : Revision} {inviteId : InviteCapabilityId} {targetId : Option IdentityId}
    {maxUses : UInt32} {expiresAtMs nowMs : Int64} {invite : InviteCapability}
    (issued : start.issueInvite expectedRevision holder inviteId targetId maxUses expiresAtMs
      nowMs = (.ok invite, during))
    (after : AfterTerm holder during later) : Unusable later inviteId := by
  have effect : start.Effect
      (.issueInvite expectedRevision holder inviteId targetId maxUses expiresAtMs nowMs) during :=
    GroupPolicy.effect_of_run (GroupPolicy.run_of_accepted rfl issued)
  have duringCoherent := coherent.accepted effect
  cases effect with
  | issueInvite advances term =>
    obtain ⟨generation, rfl, current⟩ := GroupPolicy.authority_of_administrator term not_owner
    have ended : later.TermOver holder generation := after.termOver duringCoherent current
    obtain ⟨before, operation, stopped, toBefore, -, accepted, fromStopped⟩ := after
    have further : ReachedFrom _ Call later :=
      Reached.extend (.next operation toBefore (congrArg Prod.snd accepted)) fromStopped
    obtain ⟨kept, present, same⟩ :=
      invite_stays duringCoherent (lookup_insert_self _ _ _) further
    apply unusable_of_termOver present same.issuer.2
    rwa [same.issuer.1]

/-- A reservation made during a term does not revalidate once the term has ended. -/
theorem reservation_ends_with_term (coherent : start.Coherent)
    (not_owner : holder ≠ start.ownerId) {expectedRevision : Revision}
    {requestId : JoinRequestId} {nowMs : Int64} {reservation : ReservedJoin}
    (reserved : start.reserveJoin expectedRevision holder requestId nowMs =
      (.ok reservation, during))
    (after : AfterTerm holder during later)
    (present : later.reservedJoins[requestId]? = some reservation) :
    later.validateReservedJoinAuthority requestId = .error .inviteIssuerNoLongerAuthorized := by
  have effect : start.Effect (.reserveJoin expectedRevision holder requestId nowMs) during :=
    GroupPolicy.effect_of_run (GroupPolicy.run_of_accepted rfl reserved)
  have duringCoherent := coherent.accepted effect
  cases effect with
  | reserveJoin _ _ term _ _ _ _ _ _ _ made returned =>
    rw [reserved] at returned
    cases returned
    cases made
    obtain ⟨generation, rfl, current⟩ := GroupPolicy.authority_of_administrator term not_owner
    have ended : later.TermOver holder generation := after.termOver duringCoherent current
    simp [GroupPolicy.validateReservedJoinAuthority, present, ended.not_current, rejectIf]

/-- Every grant to an identity raises its generation above all earlier ones. -/
theorem grants_raise_generation (coherent : start.Coherent) {granted regranted : GroupPolicy}
    {firstExpected secondExpected firstRevision secondRevision : Revision}
    {firstActor secondActor : IdentityId}
    (first : start.grantAdmin firstExpected firstActor holder = (.ok firstRevision, granted))
    (further : ReachedFrom granted Call later)
    (second : later.grantAdmin secondExpected secondActor holder =
      (.ok secondRevision, regranted)) :
    ∃ earlier renewed,
      granted.administratorAuthorizationGenerations[holder]? = some earlier ∧
      regranted.administratorAuthorizationGenerations[holder]? = some renewed ∧
      earlier < renewed := by
  have firstEffect : start.Effect (.grantAdmin firstExpected firstActor holder) granted :=
    GroupPolicy.effect_of_run (GroupPolicy.run_of_accepted rfl first)
  have secondEffect : later.Effect (.grantAdmin secondExpected secondActor holder) regranted :=
    GroupPolicy.effect_of_run (GroupPolicy.run_of_accepted rfl second)
  have grantedCoherent := coherent.accepted firstEffect
  cases firstEffect
  obtain ⟨-, current, found, reached⟩ :=
    generation_grows grantedCoherent (lookup_insert_self _ _ _) further
  cases secondEffect with
  | grantAdmin _ _ _ _ _ term =>
    exact ⟨_, _, lookup_insert_self _ _ _, lookup_insert_self _ _ _,
      Nat.lt_of_le_of_lt reached (GroupPolicy.value_of_nextGeneration found term)⟩

/-- What an administrator has done in a term ends with the term, whatever is granted
later, and every grant opens a new term. -/
theorem terms_never_return (reached : Reached Created Call start) (holder : IdentityId) :
    (holder ≠ start.ownerId →
      (∀ expectedRevision inviteId targetId maxUses expiresAtMs nowMs invite during,
        start.issueInvite expectedRevision holder inviteId targetId maxUses expiresAtMs nowMs =
          (.ok invite, during) →
        ∀ later, AfterTerm holder during later → Unusable later inviteId) ∧
      ∀ expectedRevision requestId nowMs reservation during,
        start.reserveJoin expectedRevision holder requestId nowMs = (.ok reservation, during) →
        ∀ later, AfterTerm holder during later →
          later.reservedJoins[requestId]? = some reservation →
          later.validateReservedJoinAuthority requestId =
            .error .inviteIssuerNoLongerAuthorized) ∧
    ∀ firstExpected firstActor firstRevision granted,
      start.grantAdmin firstExpected firstActor holder = (.ok firstRevision, granted) →
      ∀ later, ReachedFrom granted Call later →
        ∀ secondExpected secondActor secondRevision regranted,
          later.grantAdmin secondExpected secondActor holder =
            (.ok secondRevision, regranted) →
          ∃ earlier renewed,
            granted.administratorAuthorizationGenerations[holder]? = some earlier ∧
            regranted.administratorAuthorizationGenerations[holder]? = some renewed ∧
            earlier < renewed := by
  have coherent := reached_coherent reached
  constructor
  · intro notOwner
    constructor
    · intro _ _ _ _ _ _ _ _ issued later after
      exact invite_ends_with_term coherent notOwner issued after
    · intro _ _ _ _ _ reserved later after present
      exact reservation_ends_with_term coherent notOwner reserved after present
  · intro _ _ _ _ first later further _ _ _ _ second
    exact grants_raise_generation coherent first further second

end Runs

/-- Identity 1 is an administrator of the sample group. -/
def staffedGroup : GroupPolicy :=
  (sampleGroup.run (.grantAdmin .initial (.tagged 0) (.tagged 1))).2

def staffInvitation : Operation :=
  .issueInvite revisionTwo (.tagged 1) (.tagged 3) none 1 10 1

def staffedInvite : InviteCapability where
  inviteId := .tagged 3
  scope := .privateConversation (.tagged 9)
  issuerId := .tagged 1
  targetId := none
  maxUses := 1
  useCount := 0
  reservedUseCount := 0
  expiresAtMs := 10
  revoked := false
  policyRevision := revisionTwo
  issuerAuthority := .admin .initial

def dismissal : Operation := .revokeAdmin revisionThree (.tagged 0) (.tagged 1)

/-- The issuer has been revoked. -/
def dismissedGroup : GroupPolicy := ((staffedGroup.run staffInvitation).2.run dismissal).2

/-- The issuer has been revoked and granted again. -/
def regrantedGroup : GroupPolicy :=
  (dismissedGroup.run (.grantAdmin revisionFour (.tagged 0) (.tagged 1))).2

theorem regranted_issuer_keeps_invite_unusable :
    (.tagged 1 : IdentityId) ∈ regrantedGroup.administrators ∧
      Unusable regrantedGroup (.tagged 3) := by
  have reached : Reached Created Call staffedGroup := .next _ (.initial ⟨_, _, rfl⟩) rfl
  have issued : staffedGroup.issueInvite revisionTwo (.tagged 1) (.tagged 3) none 1 10 1 =
      (.ok staffedInvite, (staffedGroup.run staffInvitation).2) :=
    Prod.ext (by decide +kernel) rfl
  have accepted : (staffedGroup.run staffInvitation).2.run dismissal =
      (.ok (), dismissedGroup) :=
    Prod.ext (by decide +kernel) rfl
  have after : AfterTerm (.tagged 1) (staffedGroup.run staffInvitation).2 regrantedGroup :=
    ⟨_, dismissal, dismissedGroup, .initial rfl, rfl, accepted, .next _ (.initial rfl) rfl⟩
  have ended := ((terms_never_return reached (.tagged 1)).1 (by decide)).1
  exact ⟨by decide +kernel, ended _ _ _ _ _ _ _ _ issued _ after⟩

end Dirextalk.Group
