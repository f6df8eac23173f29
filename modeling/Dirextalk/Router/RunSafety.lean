import Dirextalk.Router.RunEffects

/-!
# One lease for one run

A run holds at most one offer, for the candidate under its cursor, and its first lease is
its last: the lease goes to the connector that has the offer, and when it ends the run
refuses every further call.  Whatever the calls, errors included, the run is restored
from its snapshot.
-/

namespace Dirextalk.Router

open Domain Connect Lib

open RouterError

/-! ## Snapshots -/

/-- Durable image of a run. -/
structure AgentRunSnapshot where
  request : RunRequest
  candidates : List RouteCandidate
  state : RunRoutingState
  candidateCursor : Nat
  currentOffer : Option RunOffer
  currentLease : Option RunLease
  highestOfferAttempt : Nat
  highestRunLeaseEpoch : Nat
  revision : Revision
  updatedAtMillis : Int64
  serverTimeHighWaterMillis : Int64
  deriving DecidableEq

namespace AgentRunSnapshot

variable (snapshot : AgentRunSnapshot)

/-- The offer is one of the candidate under the cursor. -/
def offerValid (offer : RunOffer) : Bool :=
  offer.candidateIndex < snapshot.candidates.length ∧
    offer.candidateIndex = snapshot.candidateCursor ∧
    offer.connectorFence.tenantId = snapshot.request.tenantId ∧
    snapshot.candidates[offer.candidateIndex]?.map (·.connectorId) =
      some offer.connectorFence.connectorId ∧
    offer.attempt > 0 ∧ offer.attempt ≤ snapshot.highestOfferAttempt ∧
    offer.expiresAtMillis > offer.offeredAtMillis ∧
    offer.expiresAtMillis ≤ snapshot.request.queueDeadlineMillis

/-- The lease is one of the current offer. -/
def leaseValid (lease : RunLease) : Bool :=
  lease.candidateIndex < snapshot.candidates.length ∧
    lease.candidateIndex = snapshot.candidateCursor ∧
    lease.connectorFence.tenantId = snapshot.request.tenantId ∧
    snapshot.candidates[lease.candidateIndex]?.map (·.connectorId) =
      some lease.connectorFence.connectorId ∧
    lease.epoch > 0 ∧ lease.epoch ≤ snapshot.highestRunLeaseEpoch ∧
    lease.offerAttempt > 0 ∧ lease.offerAttempt ≤ snapshot.highestOfferAttempt ∧
    lease.expiresAtMillis > lease.issuedAtMillis ∧
    snapshot.currentOffer.any (fun offer => offer.offerId = lease.offerId ∧
      offer.attempt = lease.offerAttempt ∧ offer.connectorFence = lease.connectorFence) = true

/-- What each state holds. -/
def stateValid : Bool :=
  match snapshot.state with
  | .queued | .expired => snapshot.currentOffer.isNone && snapshot.currentLease.isNone
  | .offered => snapshot.currentOffer.isSome && snapshot.currentLease.isNone
  | .leased | .reconcileRequired => snapshot.currentOffer.isSome && snapshot.currentLease.isSome

/-- The checks on the offer, the lease and the state. -/
def validateStateImage : Except RouterError Unit :=
  rejectIf (¬(snapshot.currentOffer.all snapshot.offerValid = true ∧
    snapshot.currentLease.all snapshot.leaseValid = true ∧ snapshot.stateValid = true))
    invalidSnapshot

end AgentRunSnapshot

namespace AgentRun

/-- All fields of the run. -/
def snapshot (run : AgentRun) : AgentRunSnapshot := { run with }

/-- Rehydrates a run after the audit of its image. -/
def tryFromSnapshot (snapshot : AgentRunSnapshot) : Except RouterError AgentRun := do
  validateCandidates snapshot.request snapshot.candidates
  rejectIf (snapshot.candidateCursor ≥ snapshot.candidates.length ∨ snapshot.revision.value = 0 ∨
    snapshot.updatedAtMillis < snapshot.request.createdAtMillis ∨
    snapshot.serverTimeHighWaterMillis < snapshot.updatedAtMillis ∨
    ¬ValidTime snapshot.serverTimeHighWaterMillis) invalidSnapshot
  snapshot.validateStateImage
  return { snapshot with }

/-! ## Invariants -/

/-- The offer that a run holds. -/
structure Holds (run : AgentRun) (offer : RunOffer) : Prop where
  candidateIndex : offer.candidateIndex = run.candidateCursor
  tenantId : offer.connectorFence.tenantId = run.request.tenantId
  connectorId : run.currentCandidate.map (·.connectorId) = some offer.connectorFence.connectorId
  attempt : 0 < offer.attempt ∧ offer.attempt ≤ run.highestOfferAttempt
  window : offer.offeredAtMillis < offer.expiresAtMillis
  deadline : offer.expiresAtMillis ≤ run.request.queueDeadlineMillis

/-- The lease that came from an offer. -/
structure Leases (offer : RunOffer) (lease : RunLease) : Prop where
  epoch : lease.epoch = 1
  offerId : lease.offerId = offer.offerId
  offerAttempt : lease.offerAttempt = offer.attempt
  candidateIndex : lease.candidateIndex = offer.candidateIndex
  connectorFence : lease.connectorFence = offer.connectorFence
  before : lease.issuedAtMillis < offer.expiresAtMillis
  window : lease.issuedAtMillis < lease.expiresAtMillis

/-- What a run holds in each state. -/
def Phase (run : AgentRun) : Prop :=
  match run.state with
  | .queued | .expired =>
      run.currentOffer = none ∧ run.currentLease = none ∧ run.highestRunLeaseEpoch = 0
  | .offered =>
      (∃ offer, run.currentOffer = some offer) ∧ run.currentLease = none ∧
        run.highestRunLeaseEpoch = 0
  | .leased | .reconcileRequired =>
      (∃ offer, run.currentOffer = some offer) ∧ (∃ lease, run.currentLease = some lease) ∧
        run.highestRunLeaseEpoch = 1

/-- What every reached run satisfies. -/
structure Sound (run : AgentRun) : Prop where
  candidates : validateCandidates run.request run.candidates = .ok ()
  cursor : run.candidateCursor < run.candidates.length
  created : run.request.createdAtMillis ≤ run.updatedAtMillis
  clock : run.updatedAtMillis ≤ run.serverTimeHighWaterMillis
  time : ValidTime run.serverTimeHighWaterMillis
  offer : ∀ offer, run.currentOffer = some offer → run.Holds offer
  lease : ∀ lease, run.currentLease = some lease →
    ∃ offer, run.currentOffer = some offer ∧ Leases offer lease
  phase : run.Phase

variable {run after : AgentRun}

variable {offer : RunOffer}

/-- A change of other parts of the run. -/
theorem Holds.carried (holds : run.Holds offer) (request : after.request = run.request)
    (candidates : after.candidates = run.candidates)
    (cursor : after.candidateCursor = run.candidateCursor)
    (attempts : after.highestOfferAttempt = run.highestOfferAttempt) : after.Holds offer where
  candidateIndex := cursor ▸ holds.candidateIndex
  tenantId := request ▸ holds.tenantId
  connectorId := by
    rw [currentCandidate, candidates, cursor]
    exact holds.connectorId
  attempt := attempts ▸ holds.attempt
  window := holds.window
  deadline := request ▸ holds.deadline

theorem sound_create {request : RunRequest} {candidates : List RouteCandidate}
    (created : create request candidates = .ok run) : run.Sound := by
  simp only [create, bind_eq_ok, pure_eq_ok, Unique.exists_iff] at created
  obtain ⟨valid, rfl⟩ := created
  have filled : candidates ≠ [] := by
    have checked := valid
    simp only [validateCandidates, bind_eq_ok, rejectIf_eq_ok, not_or] at checked
    obtain ⟨_, nonempty, _⟩ := checked
    exact nonempty.1
  exact {
    candidates := valid
    cursor := List.length_pos_of_ne_nil filled
    created := Int64.le_refl _
    clock := Int64.le_refl _
    time := request.createdAtValid
    offer := by
      intro offer found
      cases found
    lease := by
      intro lease found
      cases found
    phase := ⟨rfl, rfl, rfl⟩ }

theorem nextCursor_lt (inRange : run.candidateCursor < run.candidates.length) :
    run.nextCursor < run.candidates.length := by
  have filled : 0 < run.candidates.length := Nat.zero_lt_of_lt inRange
  unfold nextCursor
  dsimp only
  split
  case isTrue =>
    rw [Option.filter_some]
    split
    case isTrue within => exact of_decide_eq_true within
    case isFalse => exact filled
  case isFalse => exact filled

variable (sound : run.Sound)
include sound

/-- In a queued run nothing is held. -/
theorem Sound.of_queued (queued : run.state = .queued) :
    run.currentOffer = none ∧ run.currentLease = none ∧ run.highestRunLeaseEpoch = 0 := by
  have phase := sound.phase
  rw [Phase, queued] at phase
  exact phase

theorem Sound.of_offered (live : run.state = .offered) :
    (∃ offer, run.currentOffer = some offer) ∧ run.currentLease = none ∧
      run.highestRunLeaseEpoch = 0 := by
  have phase := sound.phase
  rw [Phase, live] at phase
  exact phase

theorem Sound.of_leased (leased : run.state = .leased) :
    (∃ offer, run.currentOffer = some offer) ∧ (∃ lease, run.currentLease = some lease) ∧
      run.highestRunLeaseEpoch = 1 := by
  have phase := sound.phase
  rw [Phase, leased] at phase
  exact phase

theorem Sound.of_reconcileRequired (ended : run.state = .reconcileRequired) :
    (∃ offer, run.currentOffer = some offer) ∧ (∃ lease, run.currentLease = some lease) ∧
      run.highestRunLeaseEpoch = 1 := by
  have phase := sound.phase
  rw [Phase, ended] at phase
  exact phase

/-- A run with a lease is leased or waits for reconciliation. -/
theorem Sound.of_lease {lease : RunLease} (found : run.currentLease = some lease) :
    run.state = .leased ∨ run.state = .reconcileRequired := by
  have phase := sound.phase
  unfold Phase at phase
  cases state : run.state <;> rw [state] at phase <;> simp_all

/-- A run that holds neither an offer nor a lease. -/
theorem Sound.emptied {state : RunRoutingState} {cursor : Nat}
    (idle : state = .queued ∨ state = .expired) (inRange : cursor < run.candidates.length)
    (unleased : run.currentLease = none ∧ run.highestRunLeaseEpoch = 0) :
    Sound { run with currentOffer := none, state, candidateCursor := cursor } :=
  { sound with
    cursor := inRange
    offer := by
      intro offer found
      cases found
    lease := by
      intro lease found
      rw [unleased.1] at found
      cases found
    phase := by
      cases idle with
      | inl queued => subst queued; exact ⟨rfl, unleased⟩
      | inr expired => subst expired; exact ⟨rfl, unleased⟩ }

theorem Sound.withOffer (queued : run.state = .queued) (offers : run.Offers offer) :
    (run.withOffer offer).Sound :=
  { sound with
    offer := by
      intro held found
      cases found
      exact ⟨offers.candidateIndex, offers.tenantId, offers.connectorId,
        ⟨offers.attempt ▸ Nat.succ_pos _, Nat.le_refl _⟩, offers.window, offers.deadline⟩
    lease := by
      intro lease found
      cases found
    phase := ⟨⟨offer, rfl⟩, rfl, (sound.of_queued queued).2.2⟩ }

theorem Sound.withLease (live : run.state = .offered) {lease : RunLease}
    (found : run.currentOffer = some offer) (grants : run.Grants offer lease) :
    (run.withLease lease).Sound := by
  have first : lease.epoch = 1 := by rw [grants.epoch, (sound.of_offered live).2.2]
  exact { sound with
    offer := fun held same => (sound.offer held same).carried rfl rfl rfl rfl
    lease := by
      intro held same
      cases same
      exact ⟨offer, found, first, grants.offerId, grants.offerAttempt, grants.candidateIndex,
        grants.connectorFence, grants.before, grants.window⟩
    phase := ⟨⟨offer, found⟩, ⟨lease, rfl⟩, first⟩ }

variable {reply : RunReply}

theorem Sound.change (change : run.Change reply after) : after.Sound := by
  cases change with
  | skipped queued =>
    obtain ⟨unoffered, unleased⟩ := sound.of_queued queued
    have emptied := sound.emptied (.inl queued) (nextCursor_lt sound.cursor) unleased
    rw [← unoffered] at emptied
    exact emptied
  | deferred => exact sound
  | offered queued offers => exact sound.withOffer queued offers
  | claimed live found grants => exact sound.withLease live found grants
  | withdrawn live =>
    have unleased := (sound.of_offered live).2
    unfold withdrawOffer
    split
    case isTrue => exact sound.emptied (.inr rfl) sound.cursor unleased
    case isFalse =>
      apply sound.emptied (.inl rfl) _ unleased
      split
      case isTrue => exact nextCursor_lt sound.cursor
      case isFalse => exact sound.cursor
  | expired queued =>
    obtain ⟨unoffered, unleased⟩ := sound.of_queued queued
    have emptied := sound.emptied (.inr rfl) sound.cursor unleased
    rw [← unoffered] at emptied
    exact emptied
  | ended leased =>
    exact { sound with
      offer := fun held same => (sound.offer held same).carried rfl rfl rfl rfl
      phase := sound.of_leased leased }

theorem Sound.stamped (change : run.Change reply after) {nowMillis : Int64} {revision : Revision}
    (timely : run.Timely nowMillis) :
    (after.stamped nowMillis revision).Sound := by
  have changed := sound.change change
  exact { changed with
    offer := fun held same => (changed.offer held same).carried rfl rfl rfl rfl
    created := by
      change after.request.createdAtMillis ≤ nowMillis
      rw [change.frame.1]
      exact Int64.le_trans sound.created (Int64.le_trans sound.clock timely.2)
    clock := Int64.le_refl _
    time := timely.1 }

/-! ## Runs -/

theorem Sound.returns (returns : run.Returns reply after) : after.Sound := by
  cases returns with
  | changed change timely => exact sound.stamped change timely
  | sameOffer => exact sound
  | sameLease => exact sound

theorem Sound.refuses (refuses : run.Refuses after) : after.Sound := by
  cases refuses with
  | unchanged => exact sound
  | exhausted change => exact sound.change change

theorem Sound.call {operation : RunOperation} (called : RunCall run operation after) :
    after.Sound := by
  rw [called]
  apply Leaves.receiver
  apply (operation.performs run).imp
  · intro _ after returns
    exact sound.returns returns
  · intro _ after refuses
    exact sound.refuses refuses

end AgentRun

/-- Every run that calls have led to is sound. -/
theorem reached_run_sound {run : AgentRun} (reached : Reached RunStart RunCall run) :
    run.Sound := by
  apply reached.invariant
  · intro start created
    obtain ⟨request, candidates, created⟩ := created
    exact AgentRun.sound_create created
  · intro before operation after sound called
    exact sound.call called

namespace AgentRun

variable {run after : AgentRun}

/-! ### Restoring -/

theorem Sound.all_offerValid (sound : run.Sound) :
    run.snapshot.currentOffer.all run.snapshot.offerValid = true := by
  rw [Option.all_eq_true]
  intro offer found
  have holds := sound.offer offer found
  have here : run.candidates[offer.candidateIndex]? = run.currentCandidate := by
    rw [holds.candidateIndex, currentCandidate]
  apply decide_eq_true
  refine ⟨?_, holds.candidateIndex, holds.tenantId, ?_, holds.attempt.1, holds.attempt.2,
    holds.window, holds.deadline⟩
  · rw [holds.candidateIndex]
    exact sound.cursor
  · rw [snapshot, here]
    exact holds.connectorId

theorem Sound.all_leaseValid (sound : run.Sound) :
    run.snapshot.currentLease.all run.snapshot.leaseValid = true := by
  rw [Option.all_eq_true]
  intro lease found
  obtain ⟨offer, offered, leases⟩ := sound.lease lease found
  have holds := sound.offer offer offered
  have index : lease.candidateIndex = run.candidateCursor :=
    leases.candidateIndex.trans holds.candidateIndex
  have here : run.candidates[lease.candidateIndex]? = run.currentCandidate := by
    rw [index, currentCandidate]
  have counted : run.highestRunLeaseEpoch = 1 := by
    cases sound.of_lease found with
    | inl leased => exact (sound.of_leased leased).2.2
    | inr ended => exact (sound.of_reconcileRequired ended).2.2
  apply decide_eq_true
  refine ⟨?_, index, ?_, ?_, ?_, ?_, ?_, ?_, leases.window, ?_⟩
  · rw [index]
    exact sound.cursor
  · rw [leases.connectorFence]
    exact holds.tenantId
  · rw [snapshot, here, leases.connectorFence]
    exact holds.connectorId
  · rw [leases.epoch]
    exact Nat.one_pos
  · rw [leases.epoch]
    exact Nat.le_of_eq counted.symm
  · rw [leases.offerAttempt]
    exact holds.attempt.1
  · rw [leases.offerAttempt]
    exact holds.attempt.2
  · rw [Option.any_eq_true]
    exact ⟨offer, offered, decide_eq_true
      ⟨leases.offerId.symm, leases.offerAttempt.symm, leases.connectorFence.symm⟩⟩

theorem Sound.stateValid (sound : run.Sound) : run.snapshot.stateValid = true := by
  have phase := sound.phase
  unfold Phase at phase
  unfold AgentRunSnapshot.stateValid snapshot
  cases state : run.state <;> rw [state] at phase <;> simp_all [Option.isSome_iff_exists]

/-- A sound run is restored from its snapshot. -/
theorem Sound.tryFromSnapshot (sound : run.Sound) :
    AgentRun.tryFromSnapshot run.snapshot = .ok run := by
  have image : run.snapshot.validateStateImage = .ok () :=
    rejectIf_neg _ (not_not.mpr ⟨sound.all_offerValid, sound.all_leaseValid, sound.stateValid⟩)
  simp only [AgentRun.tryFromSnapshot, bind_eq_ok, rejectIf_eq_ok, pure_eq_ok, Unique.exists_iff,
    not_or, not_not]
  exact ⟨sound.candidates, ⟨Nat.not_le.mpr sound.cursor, Nat.ne_of_gt run.revision.pos,
    Int64.not_lt.mpr sound.created, Int64.not_lt.mpr sound.clock, sound.time⟩, image, rfl⟩

/-! ### After a lease -/

/-- The run holds the lease and still the offer that it came from. -/
def Executes (offer : RunOffer) (lease : RunLease) (run : AgentRun) : Prop :=
  run.currentOffer = some offer ∧ run.currentLease = some lease

variable {offer : RunOffer} {lease : RunLease}

/-- All that can change about a run with a lease is that the lease ends. -/
theorem Sound.executes_change (sound : run.Sound) (held : Executes offer lease run)
    {reply : RunReply} (change : run.Change reply after) : Executes offer lease after := by
  have leased := sound.of_lease held.2
  cases change with
  | skipped queued => simp [queued] at leased
  | deferred queued => simp [queued] at leased
  | offered queued => simp [queued] at leased
  | claimed live => simp [live] at leased
  | withdrawn live => simp [live] at leased
  | expired queued => simp [queued] at leased
  | ended => exact held

variable {operation : RunOperation}

theorem Sound.executes_call (sound : run.Sound) (held : Executes offer lease run)
    (called : RunCall run operation after) : Executes offer lease after := by
  rw [called]
  apply Leaves.receiver
  apply (operation.performs run).imp
  · intro _ after returns
    cases returns with
    | changed change =>
      have kept := sound.executes_change held change
      exact kept
    | sameOffer => exact held
    | sameLease => exact held
  · intro _ after refuses
    cases refuses with
    | unchanged => exact held
    | exhausted change => exact sound.executes_change held change

/-- A lease is never given up for another. -/
theorem Sound.executes_later (sound : run.Sound) (held : Executes offer lease run)
    {later : AgentRun} (further : ReachedFrom run RunCall later) :
    later.Sound ∧ Executes offer lease later := by
  apply further.invariant
  · intro state same
    rw [same]
    exact ⟨sound, held⟩
  · intro before operation after kept called
    exact ⟨kept.1.call called, kept.1.executes_call kept.2 called⟩

/-- A run that waits for reconciliation refuses every call and does not move. -/
theorem refused_of_reconcileRequired (ended : run.state = .reconcileRequired)
    (operation : RunOperation) : ∃ error, operation.call.run run = .error error run := by
  have still : ∀ {reply after}, ¬run.Change reply after := by
    intro reply after change
    cases change <;> simp_all
  cases returned : operation.call.run run with
  | ok reply after =>
    cases (operation.performs run).of_ok returned with
    | changed change => exact (still change).elim
    | sameOffer live => simp [live] at ended
    | sameLease leased => simp [leased] at ended
  | error error after =>
    cases (operation.performs run).of_error returned with
    | unchanged => exact ⟨error, rfl⟩
    | exhausted change => exact (still change).elim

theorem eq_of_reconcileRequired (ended : run.state = .reconcileRequired) {later : AgentRun}
    (further : ReachedFrom run RunCall later) : later = run := by
  apply further.invariant (· = run)
  · exact fun _ same => same
  · intro before operation after same called
    obtain ⟨error, refused⟩ := refused_of_reconcileRequired ended operation
    rw [called, same, refused]
    rfl

/-- What a claim has returned is the lease that the run now holds. -/
theorem granted_of_claimed (sound : run.Sound)
    (returned : operation.call.run run = .ok (.claimed (.inserted lease)) after) :
    run.state = .offered ∧ run.currentLease = none ∧ ∃ offer, run.currentOffer = some offer ∧
      lease.connectorFence = offer.connectorFence ∧
      lease.issuedAtMillis < offer.expiresAtMillis ∧ Executes offer lease after := by
  cases (operation.performs run).of_ok returned with
  | changed change =>
    cases change with
    | claimed live found grants =>
      exact ⟨live, (sound.of_offered live).2.1, _, found, grants.connectorFence,
        grants.before, found, rfl⟩

theorem held_of_claimed (returned : operation.call.run run = .ok (.claimed (.existing lease)) after)
    :
    run.state = .leased ∧ run.currentLease = some lease ∧ after = run := by
  cases (operation.performs run).of_ok returned with
  | changed change => cases change
  | sameLease leased found => exact ⟨leased, found, rfl⟩

end AgentRun

/-- Over every run of calls: the offer is for the candidate under the cursor and ends by the
queue deadline; the lease is the first and only one, for the connector whose offer was
live; a release, a finish or an expiry ends it for reconciliation, and then nothing moves the
run; and the run is restored from its snapshot. -/
theorem run_leased_once {run : AgentRun} (reached : Reached RunStart RunCall run) :
    (∀ offer, run.currentOffer = some offer →
      offer.candidateIndex = run.candidateCursor ∧
      run.currentCandidate.map (·.connectorId) = some offer.connectorFence.connectorId ∧
      offer.expiresAtMillis ≤ run.request.queueDeadlineMillis) ∧
    (∀ lease, run.currentLease = some lease → lease.epoch = 1 ∧
      ∃ offer, run.currentOffer = some offer ∧ lease.connectorFence = offer.connectorFence ∧
        lease.issuedAtMillis < offer.expiresAtMillis ∧
        ∀ later, ReachedFrom run RunCall later → AgentRun.Executes offer lease later ∧
          (later.state = .leased ∨ later.state = .reconcileRequired)) ∧
    (∀ (operation : RunOperation) (lease : RunLease) (after : AgentRun),
      operation.call.run run = .ok (.claimed (.inserted lease)) after →
        run.state = .offered ∧ run.currentLease = none ∧
        ∃ offer, run.currentOffer = some offer ∧ lease.connectorFence = offer.connectorFence ∧
          lease.issuedAtMillis < offer.expiresAtMillis ∧ AgentRun.Executes offer lease after) ∧
    (∀ (operation : RunOperation) (lease : RunLease) (after : AgentRun),
      operation.call.run run = .ok (.claimed (.existing lease)) after →
        run.state = .leased ∧ run.currentLease = some lease ∧ after = run) ∧
    (∀ (operation : RunOperation) (reply : RunReply) (after : AgentRun),
      operation.endsLease = true → operation.call.run run = .ok reply after →
        run.state = .leased ∧ after.state = .reconcileRequired) ∧
    (run.state = .reconcileRequired →
      (∀ operation : RunOperation, ∃ error, operation.call.run run = .error error run) ∧
      ∀ later, ReachedFrom run RunCall later → later = run) ∧
    AgentRun.tryFromSnapshot run.snapshot = .ok run := by
  have sound := reached_run_sound reached
  refine ⟨?_, ?_, ?_, ?_, ?_, ?_, sound.tryFromSnapshot⟩
  · intro offer found
    have holds := sound.offer offer found
    exact ⟨holds.candidateIndex, holds.connectorId, holds.deadline⟩
  · intro lease found
    obtain ⟨offer, offered, leases⟩ := sound.lease lease found
    refine ⟨leases.epoch, offer, offered, leases.connectorFence, leases.before, ?_⟩
    intro later further
    obtain ⟨laterSound, held⟩ := sound.executes_later ⟨offered, found⟩ further
    exact ⟨held, laterSound.of_lease held.2⟩
  · intro operation lease after returned
    exact AgentRun.granted_of_claimed sound returned
  · intro operation lease after returned
    exact AgentRun.held_of_claimed returned
  · intro operation reply after ends returned
    exact RunOperation.reconcileRequired_of_endsLease ends returned
  · intro ended
    exact ⟨AgentRun.refused_of_reconcileRequired ended,
      fun later => AgentRun.eq_of_reconcileRequired ended⟩

/-! ### A failover to the second candidate -/

section Sample

def sampleRequest : RunRequest where
  tenantId := .tagged 0
  runId := .tagged 1
  requestId := .tagged 2
  idempotencyDigest := taggedBytes 3
  requestDigest := taggedBytes 4
  installationId := .tagged 5
  conversationId := .tagged 6
  requestEventId := .tagged 7
  preferredConnectorId := some (.tagged 1)
  requiredCapabilities := []
  dispatchMode := .failover
  routingPolicy := .orderedFailover
  routingPolicyRevision := .initial
  grantVersion := 1
  queueDeadlineMillis := 1000
  createdAtMillis := 0
  createdAtValid := by decide
  deadlineValid := by decide
  deadlineLater := by decide
  grantInRange := ConnectorGeneration.initial.inRange
  capabilitiesBounded := Nat.zero_le _
  capabilitiesValid := List.forall_mem_nil _
  capabilitiesDistinct := .nil

def sampleCandidate (tag : UInt8) (priority : UInt16) : RouteCandidate :=
  ⟨.tagged tag, .tagged tag, priority, 2, by decide⟩

/-- The fence of the connector with this tag. -/
def sampleLeaseFence (tag : UInt8) : ConnectorLeaseFence :=
  .ofConnectorFence ⟨.tagged 0, .tagged tag, .initial, .tagged 3, .tagged 4,
    ⟨1, ConnectorGeneration.initial.inRange⟩⟩

def AgentRun.called (run : AgentRun) (operation : RunOperation) : AgentRun :=
  receiver (operation.call.run run)

def createdRun : AgentRun where
  request := sampleRequest
  candidates := [sampleCandidate 1 0, sampleCandidate 2 5]
  state := .queued
  candidateCursor := 0
  currentOffer := none
  currentLease := none
  highestOfferAttempt := 0
  highestRunLeaseEpoch := 0
  revision := .initial
  updatedAtMillis := 0
  serverTimeHighWaterMillis := 0

def sampleClaim : RunOperation := .claim (.tagged 2) 2 (sampleLeaseFence 2) (.tagged 1) 12 30

/-- The first offer ran out, and the second candidate has claimed its own. -/
def leasedRun : AgentRun :=
  (((createdRun.called (.offer (.tagged 1) (sampleLeaseFence 1) 1 10)).called
    (.expireOffer 10)).called (.offer (.tagged 2) (sampleLeaseFence 2) 11 20)).called sampleClaim

def sampleRelease : RunOperation := .release (.tagged 1) 1 (sampleLeaseFence 2) 13

theorem leasedRun_reached : Reached RunStart RunCall leasedRun := by
  have created : Reached RunStart RunCall createdRun :=
    .initial ⟨sampleRequest, [sampleCandidate 1 0, sampleCandidate 2 5], by decide +kernel⟩
  have offered := Reached.next (.offer (.tagged 1) (sampleLeaseFence 1) 1 10) created rfl
  have expired := Reached.next (.expireOffer 10) offered rfl
  have again := Reached.next (.offer (.tagged 2) (sampleLeaseFence 2) 11 20) expired rfl
  exact .next sampleClaim again rfl

theorem leasedRun_leased_once :
    leasedRun.state = .leased ∧ leasedRun.currentLease.map (·.epoch) = some 1 ∧
      (leasedRun.called sampleRelease).state = .reconcileRequired ∧
      (leasedRun.called sampleRelease).called sampleClaim = leasedRun.called sampleRelease ∧
      AgentRun.tryFromSnapshot leasedRun.snapshot = .ok leasedRun := by
  have released : Reached RunStart RunCall (leasedRun.called sampleRelease) :=
    .next sampleRelease leasedRun_reached rfl
  obtain ⟨-, -, -, -, ends, -, restored⟩ := run_leased_once leasedRun_reached
  have ended : (leasedRun.called sampleRelease).state = .reconcileRequired :=
    (ends sampleRelease .done _ rfl rfl).2
  obtain ⟨-, -, -, -, -, final, -⟩ := run_leased_once released
  have still := (final ended).2 _ (.next sampleClaim (.initial rfl) rfl)
  exact ⟨by decide +kernel, by decide +kernel, ended, still, restored⟩

end Sample

/-! ### At the deadline -/

namespace AgentRun

variable {run after : AgentRun} {state : RunRoutingState} {nowMillis : Int64}

/-- The call succeeds and leaves the run in the state. -/
def Ends (run : AgentRun) (operation : RunOperation) (state : RunRoutingState) : Prop :=
  ∃ reply after, operation.call.run run = .ok reply after ∧ after.state = state

theorem ends_of_leaves {operation : RunOperation}
    (leaves : Leaves operation.call run (fun _ after => after.state = state) fun _ _ => False) :
    run.Ends operation state := by
  cases returned : operation.call.run run with
  | ok reply after => exact ⟨reply, after, returned, leaves.of_ok returned⟩
  | error error after => exact (leaves.of_error returned).elim

theorem leaves_stamped (room : after.revision.value < 2 ^ 53 - 1) :
    Leaves (advance nowMillis) after (fun _ moved => moved.state = after.state)
      fun _ _ => False := by
  apply leaves_get
  rw [Revision.checkedNext, dif_pos (Nat.succ_le_of_lt room)]
  exact rfl

end AgentRun

/-- Nothing is offered or leased from the deadline of a run on, and at any time after it the
call that fits the state of the run ends it. -/
theorem run_ends_on_time {run : AgentRun} (reached : Reached RunStart RunCall run) :
    (∀ (operation : RunOperation) (after : AgentRun),
      (∀ offer, operation.call.run run = .ok (.offered (.inserted offer)) after →
        offer.offeredAtMillis < run.request.queueDeadlineMillis) ∧
      ∀ lease, operation.call.run run = .ok (.claimed (.inserted lease)) after →
        lease.issuedAtMillis < run.request.queueDeadlineMillis) ∧
    ∀ nowMillis, run.Timely nowMillis → run.revision.value < 2 ^ 53 - 1 →
      (run.request.queueDeadlineMillis ≤ nowMillis →
        (run.state = .queued → run.Ends (.expireQueue nowMillis) .expired) ∧
        (run.state = .offered → run.Ends (.expireOffer nowMillis) .expired)) ∧
      ∀ lease, run.currentLease = some lease → lease.expiresAtMillis ≤ nowMillis →
        run.state = .leased → run.Ends (.expireLease nowMillis) .reconcileRequired := by
  have sound := reached_run_sound reached
  constructor
  · intro operation after
    constructor
    · intro offer returned
      cases (operation.performs run).of_ok returned with
      | changed change =>
        cases change with
        | offered _ offers => exact Int64.lt_of_lt_of_le offers.window offers.deadline
    · intro lease returned
      obtain ⟨_, _, offer, found, _, before, _⟩ := AgentRun.granted_of_claimed sound returned
      exact Int64.lt_of_lt_of_le before (sound.offer offer found).deadline
  · intro nowMillis timely room
    have timed : run.ensureTime nowMillis = .ok () := rejectIf_neg _ (not_not.mpr timely)
    refine ⟨fun due => ⟨fun queued => ?_, fun live => ?_⟩, fun lease found due leased => ?_⟩ <;>
      refine AgentRun.ends_of_leaves (.map (leaves_get (leaves_passed timed ?_)))
    · refine leaves_passed (rejectIf_neg _ ?_) (leaves_write (AgentRun.leaves_stamped room))
      simp [queued, due]
    · obtain ⟨offer, found⟩ := (sound.of_offered live).1
      have later := Int64.le_trans (sound.offer offer found).deadline due
      refine leaves_passed (by rw [found]; rfl) (leaves_passed (rejectIf_neg _ ?_) ?_)
      · simp [live, later]
      · apply leaves_write
        rw [AgentRun.withdrawOffer, if_pos due]
        refine Leaves.bind (AgentRun.leaves_stamped ?_) fun _ _ expired => ?_
        · exact room
        · exact expired
    · refine leaves_passed (by rw [found]; rfl) (leaves_passed (rejectIf_neg _ ?_)
        (leaves_write (AgentRun.leaves_stamped room)))
      simp [leased, due]

theorem leasedRun_ends :
    leasedRun.state = .leased ∧ leasedRun.Ends (.expireLease 30) .reconcileRequired := by
  have timely : leasedRun.Timely 30 := ⟨by decide, by decide +kernel⟩
  have leased : leasedRun.state = .leased := by decide +kernel
  exact ⟨leased, ((run_ends_on_time leasedRun_reached).2 30 timely (by decide +kernel)).2 _ rfl
    (by decide +kernel) leased⟩

end Dirextalk.Router
