import Dirextalk.Control.Payload
import Dirextalk.Lib.TreeMap

/-!
# Routing of one agent run

An agent run is offered to one connector at a time, in the order of the candidates that
were captured when it was created.  A connector may execute only after its offer was
turned into a lease; once a lease has ended the run waits for reconciliation.  Calls
change the run in place, and a call that exhausts the revision counter returns an error
after its other writes.
-/

namespace Dirextalk.Router

open Domain Connect Lib

def maxRouteCandidates : Nat := 64

def maxRequiredCapabilities : Nat := 64

/-- Maximum lifetime of an offer or a lease. -/
def maxRoutingLeaseTtlMillis : Int64 := 300000

/-- Whether a run may move to another connector. -/
inductive DispatchMode where
  | single
  | failover
  deriving DecidableEq, Repr

/-- The state of a run. -/
inductive RunRoutingState where
  | queued
  | offered
  | leased
  | reconcileRequired
  | expired
  deriving DecidableEq, Repr

/-- Why a step of a run is refused. -/
inductive RouterError where
  | invalidCandidate
  | invalidTransition
  | policyMismatch
  | staleOffer
  | staleRunLease
  | serverTimeRollback
  | counterExhausted
  | invalidSnapshot
  deriving DecidableEq, Repr

open RouterError

/-! ## Shared rules -/

/-- A server time that every client represents exactly. -/
def ValidTime (value : Int64) : Prop := 0 ≤ value ∧ value ≤ 9007199254740991

instance (value : Int64) : Decidable (ValidTime value) :=
  inferInstanceAs (Decidable (0 ≤ value ∧ value ≤ 9007199254740991))

/-- A counter that has started and that every client represents exactly. -/
def InRange (value : Nat) : Prop := 1 ≤ value ∧ value ≤ 2 ^ 53 - 1

def validStableName (value : String) : Bool := Control.validLowerStableName value 128

/-- The next counter, unless it would leave its range. -/
def checkedCounter (current : Nat) : Except RouterError Nat :=
  if current + 1 ≤ 2 ^ 53 - 1 then .ok (current + 1) else .error counterExhausted

/-! ## Fences, candidates and requests -/

/-- Connector-control fence that is copied into every change of a run. -/
structure ConnectorLeaseFence where
  tenantId : TenantId
  connectorId : ConnectorId
  bootId : BootId
  connectorGeneration : Nat
  connectorLeaseId : LeaseId
  connectorLeaseEpoch : Nat
  generationInRange : InRange connectorGeneration
  epochInRange : InRange connectorLeaseEpoch
  deriving DecidableEq

namespace ConnectorLeaseFence

/-- The fence of the connector's own lease. -/
def ofConnectorFence (fence : ConnectorFence) : ConnectorLeaseFence :=
  { fence with
    connectorGeneration := fence.generation.value
    connectorLeaseId := fence.leaseId
    connectorLeaseEpoch := fence.leaseEpoch.value
    generationInRange := fence.generation.inRange
    epochInRange := fence.leaseEpoch.inRange }

end ConnectorLeaseFence

/-- One binding, captured when the run is created. -/
structure RouteCandidate where
  bindingId : BindingId
  connectorId : ConnectorId
  priority : UInt16
  maxConcurrency : UInt32
  capacity : maxConcurrency ≠ 0
  deriving DecidableEq

/-- Immutable routing request; prompt and output live elsewhere. -/
structure RunRequest where
  tenantId : TenantId
  runId : RunId
  requestId : RequestId
  idempotencyDigest : FixedBytes 32
  requestDigest : FixedBytes 32
  installationId : InstallationId
  conversationId : ConversationId
  requestEventId : EventId
  preferredConnectorId : Option ConnectorId
  requiredCapabilities : List String
  dispatchMode : DispatchMode
  routingPolicy : RoutingPolicy
  routingPolicyRevision : Revision
  grantVersion : Nat
  queueDeadlineMillis : Int64
  createdAtMillis : Int64
  createdAtValid : ValidTime createdAtMillis
  deadlineValid : ValidTime queueDeadlineMillis
  deadlineLater : createdAtMillis < queueDeadlineMillis
  grantInRange : InRange grantVersion
  capabilitiesBounded : requiredCapabilities.length ≤ maxRequiredCapabilities
  capabilitiesValid : ∀ capability ∈ requiredCapabilities, validStableName capability = true
  capabilitiesDistinct : requiredCapabilities.IsChain (· ≠ ·)
  deriving DecidableEq

/-! ## Offers and leases -/

/-- An offer; receiving it authorizes nothing. -/
structure RunOffer where
  offerId : RunOfferId
  attempt : Nat
  candidateIndex : Nat
  connectorFence : ConnectorLeaseFence
  offeredAtMillis : Int64
  expiresAtMillis : Int64
  deriving DecidableEq

/-- The only authority to execute a run. -/
structure RunLease where
  id : RunLeaseId
  epoch : Nat
  offerId : RunOfferId
  offerAttempt : Nat
  candidateIndex : Nat
  connectorFence : ConnectorLeaseFence
  issuedAtMillis : Int64
  expiresAtMillis : Int64
  deriving DecidableEq

/-- Whether an offer or a claim was new. -/
inductive WriteDisposition (α : Type) where
  | inserted (value : α)
  | existing (value : α)
  deriving DecidableEq

/-- A run with its candidates, its offer and its lease. -/
structure AgentRun where
  request : RunRequest
  candidates : List RouteCandidate
  state : RunRoutingState
  candidateCursor : Nat
  currentOffer : Option RunOffer
  currentLease : Option RunLease
  highestOfferAttempt : Nat
  highestRunLeaseEpoch : Nat
  revision : Revision
  updatedAtMillis : Int64
  serverTimeHighWaterMillis : Int64
  deriving DecidableEq

/-! ## Creation -/

/-- What the scan of the candidates has seen. -/
structure CandidateScan where
  bindings : TreeSet BindingId
  connectors : TreeSet ConnectorId
  previousPriority : Option UInt16

/-- The scan after a candidate. -/
def CandidateScan.add (scan : CandidateScan) (candidate : RouteCandidate) : CandidateScan where
  bindings := scan.bindings.insert candidate.bindingId
  connectors := scan.connectors.insert candidate.connectorId
  previousPriority := some candidate.priority

/-- Candidates are distinct, and in failover their priorities rise. -/
def scanCandidate (dispatchMode : DispatchMode) (scan : CandidateScan)
    (candidate : RouteCandidate) : Except RouterError CandidateScan := do
  rejectIf (candidate.maxConcurrency = 0 ∨ candidate.bindingId ∈ scan.bindings ∨
    candidate.connectorId ∈ scan.connectors ∨ (dispatchMode = .failover ∧
      scan.previousPriority.any (fun previous => candidate.priority ≤ previous) = true))
    invalidCandidate
  return scan.add candidate

/-- One candidate for a single dispatch; failover needs its policy. -/
def checkDispatch (request : RunRequest) (candidates : List RouteCandidate) :
    Except RouterError Unit :=
  match request.dispatchMode, request.routingPolicy with
  | .single, _ => rejectIf (candidates.length ≠ 1) policyMismatch
  | .failover, .orderedFailover => .ok ()
  | .failover, .exclusive => .error policyMismatch

/-- The candidates of a run, the preferred one first. -/
def validateCandidates (request : RunRequest) (candidates : List RouteCandidate) :
    Except RouterError Unit := do
  rejectIf (candidates = [] ∨ candidates.length > maxRouteCandidates) invalidCandidate
  checkDispatch request candidates
  rejectIf (request.preferredConnectorId.any (fun preferred =>
    candidates.head?.map (·.connectorId) ≠ some preferred) = true) invalidCandidate
  let _ ← candidates.foldlM (scanCandidate request.dispatchMode) ⟨∅, ∅, none⟩

namespace AgentRun

/-- A run that waits for its first offer. -/
def create (request : RunRequest) (candidates : List RouteCandidate) :
    Except RouterError AgentRun := do
  validateCandidates request candidates
  return {
    request
    candidates
    state := .queued
    candidateCursor := 0
    currentOffer := none
    currentLease := none
    highestOfferAttempt := 0
    highestRunLeaseEpoch := 0
    revision := .initial
    updatedAtMillis := request.createdAtMillis
    serverTimeHighWaterMillis := request.createdAtMillis }

/-! ## Parts of the calls -/

variable (run : AgentRun)

/-- The candidate under the cursor; the code indexes, the cursor being in range. -/
def currentCandidate : Option RouteCandidate :=
  run.candidates[run.candidateCursor]?

/-- The cursor one further on, or back at the first candidate. -/
def nextCursor : Nat :=
  let next := if run.candidateCursor + 1 < 2 ^ 16 then some (run.candidateCursor + 1) else none
  (next.filter (· < run.candidates.length)).getD 0

variable (nowMillis : Int64)

/-- The run without its offer: queued again, or expired at its deadline. -/
def withdrawOffer (run : AgentRun) : AgentRun :=
  if nowMillis ≥ run.request.queueDeadlineMillis then
    { run with currentOffer := none, state := .expired }
  else
    { run with
      currentOffer := none
      candidateCursor :=
        if run.request.dispatchMode = .failover then run.nextCursor else run.candidateCursor
      state := .queued }

/-- The server's time does not run backwards. -/
def ensureTime (nowMillis : Int64) : Except RouterError Unit :=
  rejectIf (¬(ValidTime nowMillis ∧ run.serverTimeHighWaterMillis ≤ nowMillis))
    serverTimeRollback

/-- Ends every successful call. -/
def advance : EStateM RouterError AgentRun Unit := do
  let run ← get
  let revision ← run.revision.checkedNext.mapError fun _ => counterExhausted
  modify fun run =>
    { run with
      revision
      updatedAtMillis := nowMillis
      serverTimeHighWaterMillis := nowMillis }

/-- The caller has to hold the current lease. -/
def validateActiveLease (runLeaseId : RunLeaseId) (runLeaseEpoch : Nat)
    (connectorFence : ConnectorLeaseFence) : Except RouterError RunLease := do
  let lease ← okOr run.currentLease staleRunLease
  rejectIf (¬(run.state = .leased ∧ lease.id = runLeaseId ∧ lease.epoch = runLeaseEpoch ∧
    lease.connectorFence = connectorFence)) staleRunLease
  return lease

/-! ## Calls -/

/-- Moves on from a candidate that is not eligible. -/
def skipIneligibleCandidate : EStateM RouterError AgentRun Unit := do
  let run ← get
  run.ensureTime nowMillis
  rejectIf (run.state ≠ .queued ∨ run.request.dispatchMode ≠ .failover) invalidTransition
  modify fun run => { run with candidateCursor := run.nextCursor }
  advance nowMillis

/-- Records that the target was not available. -/
def deferUnavailable : EStateM RouterError AgentRun Unit := do
  let run ← get
  run.ensureTime nowMillis
  rejectIf (run.state ≠ .queued) invalidTransition
  advance nowMillis

/-- Makes the only live offer, or returns it again. -/
def offer (offerId : RunOfferId) (connectorFence : ConnectorLeaseFence)
    (offeredAtMillis expiresAtMillis : Int64) :
    EStateM RouterError AgentRun (WriteDisposition RunOffer) := do
  let run ← get
  match run.currentOffer.filter fun existing => run.state = .offered ∧
      existing.offerId = offerId ∧ existing.connectorFence = connectorFence ∧
      existing.expiresAtMillis = expiresAtMillis with
  | some existing => return .existing existing
  | none =>
      run.ensureTime offeredAtMillis
      rejectIf (run.state ≠ .queued ∨ connectorFence.tenantId ≠ run.request.tenantId ∨
        run.currentCandidate.map (·.connectorId) ≠ some connectorFence.connectorId ∨
        expiresAtMillis ≤ offeredAtMillis ∨ expiresAtMillis > run.request.queueDeadlineMillis ∨
        expiresAtMillis - offeredAtMillis > maxRoutingLeaseTtlMillis) invalidTransition
      let attempt ← checkedCounter run.highestOfferAttempt
      let offer : RunOffer :=
        { offerId, attempt, candidateIndex := run.candidateCursor, connectorFence,
          offeredAtMillis, expiresAtMillis }
      modify fun run =>
        { run with
          highestOfferAttempt := attempt
          currentOffer := some offer
          currentLease := none
          state := .offered }
      advance offeredAtMillis
      return .inserted offer

/-- Turns the offer into the only lease, or returns the lease again. -/
def claim (offerId : RunOfferId) (offerAttempt : Nat) (connectorFence : ConnectorLeaseFence)
    (runLeaseId : RunLeaseId) (claimedAtMillis leaseExpiresAtMillis : Int64) :
    EStateM RouterError AgentRun (WriteDisposition RunLease) := do
  let run ← get
  run.ensureTime claimedAtMillis
  match run.currentLease.filter fun existing => run.state = .leased ∧
      existing.offerId = offerId ∧ existing.offerAttempt = offerAttempt ∧
      existing.connectorFence = connectorFence with
  | some existing =>
      rejectIf (¬claimedAtMillis < existing.expiresAtMillis) staleRunLease
      return .existing existing
  | none =>
      let offer ← okOr run.currentOffer staleOffer
      rejectIf (run.state ≠ .offered ∨ offer.offerId ≠ offerId ∨ offer.attempt ≠ offerAttempt ∨
        offer.connectorFence ≠ connectorFence ∨ claimedAtMillis ≥ offer.expiresAtMillis ∨
        leaseExpiresAtMillis ≤ claimedAtMillis ∨
        leaseExpiresAtMillis - claimedAtMillis > maxRoutingLeaseTtlMillis) staleOffer
      let runLeaseEpoch ← checkedCounter run.highestRunLeaseEpoch
      let lease : RunLease :=
        { id := runLeaseId, epoch := runLeaseEpoch, offerId, offerAttempt,
          candidateIndex := offer.candidateIndex, connectorFence,
          issuedAtMillis := claimedAtMillis, expiresAtMillis := leaseExpiresAtMillis }
      modify fun run =>
        { run with
          highestRunLeaseEpoch := runLeaseEpoch
          currentLease := some lease
          state := .leased }
      advance claimedAtMillis
      return .inserted lease

/-- Requeues an offer that ran out before anything was authorized. -/
def expireOffer : EStateM RouterError AgentRun RunRoutingState := do
  let run ← get
  run.ensureTime nowMillis
  let offer ← okOr run.currentOffer invalidTransition
  rejectIf (run.state ≠ .offered ∨ nowMillis < offer.expiresAtMillis) invalidTransition
  modify (withdrawOffer nowMillis)
  advance nowMillis
  let run ← get
  return run.state

/-- Expires a request that is still queued at its deadline. -/
def expireQueue : EStateM RouterError AgentRun Unit := do
  let run ← get
  run.ensureTime nowMillis
  rejectIf (run.state ≠ .queued ∨ nowMillis < run.request.queueDeadlineMillis) invalidTransition
  modify fun run => { run with state := .expired }
  advance nowMillis

/-- Fences a lease that ran out; the work may have been done. -/
def expireLease : EStateM RouterError AgentRun Unit := do
  let run ← get
  run.ensureTime nowMillis
  let lease ← okOr run.currentLease staleRunLease
  rejectIf (run.state ≠ .leased ∨ nowMillis < lease.expiresAtMillis) invalidTransition
  modify fun run => { run with state := .reconcileRequired }
  advance nowMillis

/-- Records that the connector gave its lease back. -/
def release (runLeaseId : RunLeaseId) (runLeaseEpoch : Nat) (connectorFence : ConnectorLeaseFence)
    (releasedAtMillis : Int64) : EStateM RouterError AgentRun Unit := do
  let run ← get
  run.ensureTime releasedAtMillis
  let _ ← run.validateActiveLease runLeaseId runLeaseEpoch connectorFence
  modify fun run => { run with state := .reconcileRequired }
  advance releasedAtMillis

/-- Commits the end of the execution under a live lease. -/
def finish (runLeaseId : RunLeaseId) (runLeaseEpoch : Nat) (connectorFence : ConnectorLeaseFence)
    (finishedAtMillis : Int64) : EStateM RouterError AgentRun Unit := do
  let run ← get
  run.ensureTime finishedAtMillis
  let lease ← run.validateActiveLease runLeaseId runLeaseEpoch connectorFence
  rejectIf (finishedAtMillis ≥ lease.expiresAtMillis) staleRunLease
  modify fun run => { run with state := .reconcileRequired }
  advance finishedAtMillis

end AgentRun

/-! ## Operations -/

/-- A call on a run with its arguments. -/
inductive RunOperation where
  | skipIneligibleCandidate (nowMillis : Int64)
  | deferUnavailable (nowMillis : Int64)
  | offer (offerId : RunOfferId) (connectorFence : ConnectorLeaseFence)
      (offeredAtMillis expiresAtMillis : Int64)
  | claim (offerId : RunOfferId) (offerAttempt : Nat) (connectorFence : ConnectorLeaseFence)
      (runLeaseId : RunLeaseId) (claimedAtMillis leaseExpiresAtMillis : Int64)
  | expireOffer (nowMillis : Int64)
  | expireQueue (nowMillis : Int64)
  | expireLease (nowMillis : Int64)
  | release (runLeaseId : RunLeaseId) (runLeaseEpoch : Nat)
      (connectorFence : ConnectorLeaseFence) (releasedAtMillis : Int64)
  | finish (runLeaseId : RunLeaseId) (runLeaseEpoch : Nat)
      (connectorFence : ConnectorLeaseFence) (finishedAtMillis : Int64)

/-- What a call returns. -/
inductive RunReply where
  | done
  | offered (disposition : WriteDisposition RunOffer)
  | claimed (disposition : WriteDisposition RunLease)
  | moved (state : RunRoutingState)
  deriving DecidableEq

/-- The method of an operation, with its reply. -/
def RunOperation.call : RunOperation → EStateM RouterError AgentRun RunReply
  | .skipIneligibleCandidate nowMillis =>
      (fun _ => .done) <$> AgentRun.skipIneligibleCandidate nowMillis
  | .deferUnavailable nowMillis => (fun _ => .done) <$> AgentRun.deferUnavailable nowMillis
  | .offer offerId connectorFence offeredAtMillis expiresAtMillis =>
      .offered <$> AgentRun.offer offerId connectorFence offeredAtMillis expiresAtMillis
  | .claim offerId offerAttempt connectorFence runLeaseId claimedAtMillis leaseExpiresAtMillis =>
      .claimed <$> AgentRun.claim offerId offerAttempt connectorFence runLeaseId claimedAtMillis
        leaseExpiresAtMillis
  | .expireOffer nowMillis => .moved <$> AgentRun.expireOffer nowMillis
  | .expireQueue nowMillis => (fun _ => .done) <$> AgentRun.expireQueue nowMillis
  | .expireLease nowMillis => (fun _ => .done) <$> AgentRun.expireLease nowMillis
  | .release runLeaseId runLeaseEpoch connectorFence releasedAtMillis =>
      (fun _ => .done) <$> AgentRun.release runLeaseId runLeaseEpoch connectorFence releasedAtMillis
  | .finish runLeaseId runLeaseEpoch connectorFence finishedAtMillis =>
      (fun _ => .done) <$> AgentRun.finish runLeaseId runLeaseEpoch connectorFence finishedAtMillis

/-- A run as it is created. -/
def RunStart (run : AgentRun) : Prop :=
  ∃ request candidates, AgentRun.create request candidates = .ok run

/-- A call and the run it leaves, whether it returns a value or an error. -/
def RunCall (run : AgentRun) (operation : RunOperation) (after : AgentRun) : Prop :=
  after = receiver (operation.call.run run)

end Dirextalk.Router
