import Dirextalk.Router.Run

/-!
# What calls do to a run

A call that returns a value has made one change and moved the clock and the revision, or
has found its offer or its lease already there.  One that returns an error has changed
nothing, except that the revision counter may be exhausted: then the change stays.
-/

namespace Dirextalk.Router

open Domain Lib

namespace AgentRun

variable {run : AgentRun}

/-! ## Changes -/

/-- An offer for the candidate under the cursor. -/
structure Offers (run : AgentRun) (offer : RunOffer) : Prop where
  attempt : offer.attempt = run.highestOfferAttempt + 1
  candidateIndex : offer.candidateIndex = run.candidateCursor
  tenantId : offer.connectorFence.tenantId = run.request.tenantId
  connectorId : run.currentCandidate.map (·.connectorId) = some offer.connectorFence.connectorId
  window : offer.offeredAtMillis < offer.expiresAtMillis
  deadline : offer.expiresAtMillis ≤ run.request.queueDeadlineMillis

/-- A lease for the connector that has the offer, issued before the offer runs out. -/
structure Grants (run : AgentRun) (offer : RunOffer) (lease : RunLease) : Prop where
  epoch : lease.epoch = run.highestRunLeaseEpoch + 1
  offerId : lease.offerId = offer.offerId
  offerAttempt : lease.offerAttempt = offer.attempt
  candidateIndex : lease.candidateIndex = offer.candidateIndex
  connectorFence : lease.connectorFence = offer.connectorFence
  before : lease.issuedAtMillis < offer.expiresAtMillis
  window : lease.issuedAtMillis < lease.expiresAtMillis

def withOffer (run : AgentRun) (offer : RunOffer) : AgentRun :=
  { run with
    highestOfferAttempt := offer.attempt
    currentOffer := some offer
    currentLease := none
    state := .offered }

def withLease (run : AgentRun) (lease : RunLease) : AgentRun :=
  { run with
    highestRunLeaseEpoch := lease.epoch
    currentLease := some lease
    state := .leased }

/-- The change that a call makes before the clock and the revision move. -/
inductive Change (run : AgentRun) : RunReply → AgentRun → Prop
  | skipped (queued : run.state = .queued) :
      Change run .done { run with candidateCursor := run.nextCursor }
  | deferred (queued : run.state = .queued) : Change run .done run
  | offered {offer : RunOffer} (queued : run.state = .queued) (offers : run.Offers offer) :
      Change run (.offered (.inserted offer)) (run.withOffer offer)
  | claimed {offer : RunOffer} {lease : RunLease} (live : run.state = .offered)
      (found : run.currentOffer = some offer) (grants : run.Grants offer lease) :
      Change run (.claimed (.inserted lease)) (run.withLease lease)
  | withdrawn {nowMillis : Int64} (live : run.state = .offered) :
      Change run (.moved (run.withdrawOffer nowMillis).state) (run.withdrawOffer nowMillis)
  | expired (queued : run.state = .queued) : Change run .done { run with state := .expired }
  | ended (leased : run.state = .leased) :
      Change run .done { run with state := .reconcileRequired }

variable {after : AgentRun} {reply : RunReply}

/-- No change reaches the request, the clock or the revision. -/
theorem Change.frame (change : run.Change reply after) :
    after.request = run.request ∧ after.updatedAtMillis = run.updatedAtMillis ∧
      after.serverTimeHighWaterMillis = run.serverTimeHighWaterMillis ∧
      after.revision = run.revision := by
  cases change with
  | withdrawn =>
    unfold withdrawOffer
    split <;> exact ⟨rfl, rfl, rfl, rfl⟩
  | _ => exact ⟨rfl, rfl, rfl, rfl⟩

/-- The run with its clock and its revision moved. -/
def stamped (run : AgentRun) (nowMillis : Int64) (revision : Revision) : AgentRun :=
  { run with revision, updatedAtMillis := nowMillis, serverTimeHighWaterMillis := nowMillis }

/-- A time that the clock may move to. -/
def Timely (run : AgentRun) (nowMillis : Int64) : Prop :=
  ValidTime nowMillis ∧ run.serverTimeHighWaterMillis ≤ nowMillis

/-- What a call leaves that returns a value. -/
inductive Returns (run : AgentRun) : RunReply → AgentRun → Prop
  | changed {reply : RunReply} {after : AgentRun} {nowMillis : Int64} {revision : Revision}
      (change : run.Change reply after) (timely : run.Timely nowMillis)
      (next : revision.value = run.revision.value + 1) :
      Returns run reply (after.stamped nowMillis revision)
  | sameOffer {offer : RunOffer} (live : run.state = .offered)
      (found : run.currentOffer = some offer) : Returns run (.offered (.existing offer)) run
  | sameLease {lease : RunLease} (leased : run.state = .leased)
      (found : run.currentLease = some lease) : Returns run (.claimed (.existing lease)) run

/-- What a call leaves that returns an error. -/
inductive Refuses (run : AgentRun) : AgentRun → Prop
  | unchanged : Refuses run run
  | exhausted {reply : RunReply} {after : AgentRun} (change : run.Change reply after)
      (last : run.revision.value = 2 ^ 53 - 1) : Refuses run after

/-- A method whose values, taken as replies, and whose errors leave nothing else. -/
def Performs {α : Type} (method : EStateM RouterError AgentRun α) (replyOf : α → RunReply)
    (run : AgentRun) : Prop :=
  Leaves method run (fun value => run.Returns (replyOf value)) (fun _ => run.Refuses)

theorem Performs.map {α : Type} {method : EStateM RouterError AgentRun α} {replyOf : α → RunReply}
    (performs : Performs method replyOf run) : Performs (replyOf <$> method) id run :=
  Leaves.map performs

/-! ## Steps -/

theorem performs_check {α β : Type} {step : Except RouterError α}
    {next : α → EStateM RouterError AgentRun β} {replyOf : β → RunReply}
    (rest : ∀ value, step = .ok value → Performs (next value) replyOf run) :
    Performs (liftM step >>= next) replyOf run :=
  leaves_check rest fun _ _ => .unchanged

variable {nowMillis : Int64}

theorem timely_of_ensureTime {done : Unit} (checked : run.ensureTime nowMillis = .ok done) :
    run.Timely nowMillis := by
  rw [ensureTime, rejectIf_eq_ok, not_not] at checked
  exact checked

theorem checkedCounter_eq_ok {current next : Nat} (counted : checkedCounter current = .ok next) :
    next = current + 1 := by
  unfold checkedCounter at counted
  split at counted
  case isTrue => exact (Except.ok.inj counted).symm
  case isFalse => cases counted

/-- The clock and the revision move last, and only the revision may refuse. -/
theorem leaves_advance (nowMillis : Int64) (change : run.Change reply after) :
    Leaves (advance nowMillis) after
      (fun _ moved => ∃ revision, moved = after.stamped nowMillis revision ∧
        revision.value = run.revision.value + 1)
      (fun _ => run.Refuses) := by
  obtain ⟨_, _, _, same⟩ := change.frame
  apply leaves_get
  rw [same]
  apply leaves_check
  · intro revision advanced
    exact leaves_modify ⟨revision, rfl,
      Revision.value_of_checkedNext (mapError_eq_ok.mp advanced)⟩
  · intro _ refused
    obtain ⟨_, exhausted, _⟩ := mapError_eq_error.mp refused
    exact .exhausted change (Revision.last_of_checkedNext exhausted)

/-- A change and the end of a call that returns nothing. -/
theorem performs_advance (change : run.Change .done after) (timely : run.Timely nowMillis) :
    Leaves (advance nowMillis) after (fun _ => run.Returns .done) (fun _ => run.Refuses) := by
  apply (leaves_advance nowMillis change).imp
  · intro _ moved stamped
    obtain ⟨revision, rfl, next⟩ := stamped
    exact .changed change timely next
  · exact fun _ _ refused => refused

/-! ## Calls -/

theorem performs_skipIneligibleCandidate (nowMillis : Int64) :
    Performs (skipIneligibleCandidate nowMillis) (fun _ => .done) run := by
  apply leaves_get
  apply performs_check
  intro _ timely
  apply performs_check
  intro _ allowed
  have queued := not_or.mp (rejectIf_eq_ok.mp allowed)
  exact performs_advance (.skipped (not_not.mp queued.1)) (timely_of_ensureTime timely)

theorem performs_deferUnavailable (nowMillis : Int64) :
    Performs (deferUnavailable nowMillis) (fun _ => .done) run := by
  apply leaves_get
  apply performs_check
  intro _ timely
  apply performs_check
  intro _ queued
  exact performs_advance (.deferred (not_not.mp (rejectIf_eq_ok.mp queued)))
    (timely_of_ensureTime timely)

theorem performs_offer (offerId : RunOfferId) (connectorFence : ConnectorLeaseFence)
    (offeredAtMillis expiresAtMillis : Int64) :
    Performs (offer offerId connectorFence offeredAtMillis expiresAtMillis) .offered run := by
  apply leaves_get
  split
  case h_1 existing found =>
    obtain ⟨found, same⟩ := Option.filter_eq_some_iff.mp found
    exact leaves_pure (.sameOffer (of_decide_eq_true same).1 found)
  case h_2 =>
    apply performs_check
    intro _ timely
    apply performs_check
    intro _ allowed
    apply performs_check
    intro attempt counted
    have offers : run.Offers ⟨offerId, attempt, run.candidateCursor, connectorFence,
        offeredAtMillis, expiresAtMillis⟩ := by
      simp only [rejectIf_eq_ok, not_or, not_not] at allowed
      obtain ⟨_, tenant, connector, window, deadline, _⟩ := allowed
      exact ⟨checkedCounter_eq_ok counted, rfl, tenant, connector, Int64.not_le.mp window,
        Int64.not_lt.mp deadline⟩
    have queued : run.state = .queued := by
      simp only [rejectIf_eq_ok, not_or, not_not] at allowed
      exact allowed.1
    apply leaves_write
    apply (leaves_advance offeredAtMillis (.offered queued offers)).bind
    intro _ moved stamped
    obtain ⟨revision, rfl, next⟩ := stamped
    exact leaves_pure (.changed (.offered queued offers) (timely_of_ensureTime timely) next)

theorem performs_claim (offerId : RunOfferId) (offerAttempt : Nat)
    (connectorFence : ConnectorLeaseFence) (runLeaseId : RunLeaseId)
    (claimedAtMillis leaseExpiresAtMillis : Int64) :
    Performs (claim offerId offerAttempt connectorFence runLeaseId claimedAtMillis
      leaseExpiresAtMillis) .claimed run := by
  apply leaves_get
  apply performs_check
  intro _ timely
  split
  case h_1 existing found =>
    obtain ⟨found, same⟩ := Option.filter_eq_some_iff.mp found
    apply performs_check
    intro _ _
    exact leaves_pure (.sameLease (of_decide_eq_true same).1 found)
  case h_2 =>
    apply performs_check
    intro offer found
    apply performs_check
    intro _ allowed
    apply performs_check
    intro epoch counted
    rw [okOr_eq_ok] at found
    simp only [rejectIf_eq_ok, not_or, not_not] at allowed
    obtain ⟨live, named, attempt, fence, before, window, _⟩ := allowed
    have grants : run.Grants offer ⟨runLeaseId, epoch, offerId, offerAttempt,
        offer.candidateIndex, connectorFence, claimedAtMillis, leaseExpiresAtMillis⟩ :=
      ⟨checkedCounter_eq_ok counted, named.symm, attempt.symm, rfl, fence.symm,
        Int64.not_le.mp before, Int64.not_le.mp window⟩
    apply leaves_write
    apply (leaves_advance claimedAtMillis (.claimed live found grants)).bind
    intro _ moved stamped
    obtain ⟨revision, rfl, next⟩ := stamped
    exact leaves_pure (.changed (.claimed live found grants) (timely_of_ensureTime timely) next)

theorem performs_expireOffer (nowMillis : Int64) :
    Performs (expireOffer nowMillis) .moved run := by
  apply leaves_get
  apply performs_check
  intro _ timely
  apply performs_check
  intro offer _
  apply performs_check
  intro _ allowed
  have live := not_not.mp (not_or.mp (rejectIf_eq_ok.mp allowed)).1
  apply leaves_write
  apply (leaves_advance nowMillis (.withdrawn live)).bind
  intro _ moved stamped
  obtain ⟨revision, rfl, next⟩ := stamped
  exact Returns.changed (.withdrawn live) (timely_of_ensureTime timely) next

theorem performs_expireQueue (nowMillis : Int64) :
    Performs (expireQueue nowMillis) (fun _ => .done) run := by
  apply leaves_get
  apply performs_check
  intro _ timely
  apply performs_check
  intro _ allowed
  have queued := not_not.mp (not_or.mp (rejectIf_eq_ok.mp allowed)).1
  exact performs_advance (.expired queued) (timely_of_ensureTime timely)

/-- A method that succeeds only on a leased run. -/
def EndsLease (method : EStateM RouterError AgentRun Unit) (run : AgentRun) : Prop :=
  Leaves method run (fun _ after => run.state = .leased ∧ run.Returns .done after)
    (fun _ => run.Refuses)

theorem EndsLease.performs {method : EStateM RouterError AgentRun Unit}
    (ends : EndsLease method run) : Performs method (fun _ => .done) run :=
  ends.imp (fun _ _ ended => ended.2) fun _ _ refused => refused

theorem EndsLease.reconcileRequired {method : EStateM RouterError AgentRun Unit}
    (ends : EndsLease method run)
    (returned : ((fun _ => RunReply.done) <$> method).run run = .ok reply after) :
    run.state = .leased ∧ after.state = .reconcileRequired := by
  have replied : Leaves ((fun _ => RunReply.done) <$> method) run
      (fun reply after => reply = .done ∧ run.state = .leased ∧ run.Returns reply after)
      (fun _ => run.Refuses) := Leaves.map (ends.imp (fun _ _ ended => ⟨rfl, ended⟩)
        fun _ _ refused => refused)
  obtain ⟨rfl, leased, returns⟩ := replied.of_ok returned
  refine ⟨leased, ?_⟩
  cases returns with
  | changed change => cases change <;> simp_all [stamped]

theorem endsLease_check {α : Type} {step : Except RouterError α}
    {next : α → EStateM RouterError AgentRun Unit}
    (rest : ∀ value, step = .ok value → EndsLease (next value) run) :
    EndsLease (liftM step >>= next) run :=
  leaves_check rest fun _ _ => .unchanged

theorem endsLease_advance (leased : run.state = .leased) (timely : run.Timely nowMillis) :
    Leaves (advance nowMillis) { run with state := .reconcileRequired }
      (fun _ after => run.state = .leased ∧ run.Returns .done after) (fun _ => run.Refuses) :=
  (performs_advance (.ended leased) timely).imp (fun _ _ returns => ⟨leased, returns⟩)
    fun _ _ refused => refused

theorem endsLease_expireLease (nowMillis : Int64) : EndsLease (expireLease nowMillis) run := by
  apply leaves_get
  apply endsLease_check
  intro _ timely
  apply endsLease_check
  intro lease _
  apply endsLease_check
  intro _ allowed
  have leased := not_not.mp (not_or.mp (rejectIf_eq_ok.mp allowed)).1
  exact endsLease_advance leased (timely_of_ensureTime timely)

theorem leased_of_validateActiveLease {runLeaseId : RunLeaseId} {runLeaseEpoch : Nat}
    {connectorFence : ConnectorLeaseFence} {lease : RunLease}
    (valid : run.validateActiveLease runLeaseId runLeaseEpoch connectorFence = .ok lease) :
    run.state = .leased := by
  simp only [validateActiveLease, bind_eq_ok, rejectIf_eq_ok, not_not] at valid
  obtain ⟨_, _, _, live, _⟩ := valid
  exact live.1

theorem endsLease_release (runLeaseId : RunLeaseId) (runLeaseEpoch : Nat)
    (connectorFence : ConnectorLeaseFence) (releasedAtMillis : Int64) :
    EndsLease (release runLeaseId runLeaseEpoch connectorFence releasedAtMillis) run := by
  apply leaves_get
  apply endsLease_check
  intro _ timely
  apply endsLease_check
  intro lease valid
  exact endsLease_advance (leased_of_validateActiveLease valid) (timely_of_ensureTime timely)

theorem endsLease_finish (runLeaseId : RunLeaseId) (runLeaseEpoch : Nat)
    (connectorFence : ConnectorLeaseFence) (finishedAtMillis : Int64) :
    EndsLease (finish runLeaseId runLeaseEpoch connectorFence finishedAtMillis) run := by
  apply leaves_get
  apply endsLease_check
  intro _ timely
  apply endsLease_check
  intro lease valid
  apply endsLease_check
  intro _ _
  exact endsLease_advance (leased_of_validateActiveLease valid) (timely_of_ensureTime timely)

end AgentRun

theorem RunOperation.performs (operation : RunOperation) (run : AgentRun) :
    Leaves operation.call run (fun reply => run.Returns reply) (fun _ => run.Refuses) := by
  cases operation with
  | skipIneligibleCandidate => exact (AgentRun.performs_skipIneligibleCandidate _).map
  | deferUnavailable => exact (AgentRun.performs_deferUnavailable _).map
  | offer => exact (AgentRun.performs_offer _ _ _ _).map
  | claim => exact (AgentRun.performs_claim _ _ _ _ _ _).map
  | expireOffer => exact (AgentRun.performs_expireOffer _).map
  | expireQueue => exact (AgentRun.performs_expireQueue _).map
  | expireLease => exact (AgentRun.endsLease_expireLease _).performs.map
  | release => exact (AgentRun.endsLease_release _ _ _ _).performs.map
  | finish => exact (AgentRun.endsLease_finish _ _ _ _).performs.map

/-- The calls that end a lease. -/
def RunOperation.endsLease : RunOperation → Bool
  | .expireLease _ | .release .. | .finish .. => true
  | _ => false

/-- A call that ends a lease has one to end, and leaves the run for reconciliation. -/
theorem RunOperation.reconcileRequired_of_endsLease {operation : RunOperation}
    (ends : operation.endsLease = true) {run after : AgentRun} {reply : RunReply}
    (returned : operation.call.run run = .ok reply after) :
    run.state = .leased ∧ after.state = .reconcileRequired := by
  cases operation with
  | expireLease => exact (AgentRun.endsLease_expireLease _).reconcileRequired returned
  | release => exact (AgentRun.endsLease_release _ _ _ _).reconcileRequired returned
  | finish => exact (AgentRun.endsLease_finish _ _ _ _).reconcileRequired returned
  | _ => cases ends

end Dirextalk.Router
