import Dirextalk.Router.RunSafety

/-!
# Failed calls

Every call writes its change first and moves the revision last.  Below the last revision
that order does not show: a failed call leaves the run as it was, and one that makes a
change moves the revision by one.  A run restored at the last revision and not yet over
has a call that fails and still leaves its change behind.
-/

namespace Dirextalk.Router

open Domain Lib

/-- Whether the call found its offer or its lease already there. -/
def RunReply.found : RunReply → Bool
  | .offered (.existing _) | .claimed (.existing _) => true
  | _ => false

/-- A call that fails changes nothing, and one that makes a change moves the revision by one. -/
def RunOperation.Atomic (operation : RunOperation) (run : AgentRun) : Prop :=
  Leaves operation.call run
    (fun reply after =>
      if reply.found then after = run else after.revision.value = run.revision.value + 1)
    (fun _ after => after = run)

namespace AgentRun

variable {run after : AgentRun}

/-! ## With room for a change -/

variable {reply : RunReply}

theorem Change.not_found (change : run.Change reply after) : reply.found = false := by
  cases change <;> rfl

/-- A run that no change takes past the last revision. -/
theorem atomic_of_room
    (room : ∀ {reply after}, run.Change reply after → run.revision.value ≠ 2 ^ 53 - 1)
    (operation : RunOperation) : operation.Atomic run := by
  apply (operation.performs run).imp
  · intro reply after returns
    cases returns with
    | changed change _ next =>
      rw [change.not_found]
      exact next
    | sameOffer => rfl
    | sameLease => rfl
  · intro _ after refuses
    cases refuses with
    | unchanged => rfl
    | exhausted change last => exact absurd last (room change)

/-- A run that is over refuses every call before it writes. -/
theorem not_change_of_over (ended : run.state = .expired ∨ run.state = .reconcileRequired) :
    ¬run.Change reply after := by
  intro change
  cases change <;> simp_all

/-! ## At the last revision -/

theorem leaves_advance_last (nowMillis : Int64) (last : after.revision.value = 2 ^ 53 - 1) :
    Leaves (advance nowMillis) after (fun _ _ => False) (fun _ left => left = after) := by
  apply leaves_get
  apply leaves_check
  · intro revision advanced
    have next := Revision.value_of_checkedNext (mapError_eq_ok.mp advanced)
    have bounded := revision.le_max
    omega
  · intro _ _
    rfl

/-- A call that changes the state and then runs out of revisions. -/
theorem not_atomic {operation : RunOperation} (changed : AgentRun)
    (differs : changed.state ≠ run.state)
    (leaves : Leaves operation.call run (fun _ _ => False) (fun _ after => after = changed)) :
    ¬operation.Atomic run := by
  intro atomic
  cases returned : operation.call.run run with
  | ok value after => exact leaves.of_ok returned
  | error error after =>
    have left := leaves.of_error returned
    have same := atomic.of_error returned
    exact differs (congrArg AgentRun.state (left.symm.trans same))

/-- The first time from `millis` on that the run accepts. -/
def acceptedTime (run : AgentRun) (millis : Int64) : Int64 :=
  if millis ≤ run.serverTimeHighWaterMillis then run.serverTimeHighWaterMillis else millis

theorem le_acceptedTime (run : AgentRun) (millis : Int64) : millis ≤ run.acceptedTime millis := by
  unfold acceptedTime
  split
  case isTrue earlier => exact earlier
  case isFalse => exact Int64.le_refl _

theorem ensureTime_acceptedTime {millis : Int64} (time : ValidTime run.serverTimeHighWaterMillis)
    (bounded : millis ≤ 9007199254740991) : run.ensureTime (run.acceptedTime millis) = .ok () := by
  rw [ensureTime, rejectIf_eq_ok, not_not, acceptedTime]
  split
  case isTrue => exact ⟨time, Int64.le_refl _⟩
  case isFalse later =>
    have after := Int64.le_of_lt (Int64.not_le.mp later)
    exact ⟨⟨Int64.le_trans time.1 after, bounded⟩, after⟩

theorem expireQueue_not_atomic (last : run.revision.value = 2 ^ 53 - 1)
    (time : ValidTime run.serverTimeHighWaterMillis) (queued : run.state = .queued) :
    ¬(RunOperation.expireQueue (run.acceptedTime run.request.queueDeadlineMillis)).Atomic run := by
  have due := Int64.not_lt.mpr (run.le_acceptedTime run.request.queueDeadlineMillis)
  apply not_atomic { run with state := .expired } (queued ▸ RunRoutingState.noConfusion)
  apply Leaves.map
  apply leaves_get
  apply leaves_passed (ensureTime_acceptedTime time run.request.deadlineValid.2)
  apply leaves_passed (rejectIf_neg _ (not_or.mpr ⟨not_not.mpr queued, due⟩))
  apply leaves_write
  exact leaves_advance_last _ last

theorem withdrawOffer_state_ne (nowMillis : Int64) :
    (run.withdrawOffer nowMillis).state ≠ .offered := by
  unfold withdrawOffer
  split <;> exact nofun

theorem expireOffer_not_atomic (last : run.revision.value = 2 ^ 53 - 1)
    (time : ValidTime run.serverTimeHighWaterMillis) (live : run.state = .offered)
    {offer : RunOffer} (found : run.currentOffer = some offer)
    (within : offer.expiresAtMillis ≤ run.request.queueDeadlineMillis) :
    ¬(RunOperation.expireOffer (run.acceptedTime offer.expiresAtMillis)).Atomic run := by
  have due := Int64.not_lt.mpr (run.le_acceptedTime offer.expiresAtMillis)
  apply not_atomic (run.withdrawOffer _) (live ▸ withdrawOffer_state_ne _)
  apply Leaves.map
  apply leaves_get
  apply leaves_passed
    (ensureTime_acceptedTime time (Int64.le_trans within run.request.deadlineValid.2))
  apply leaves_passed (okOr_eq_ok.mpr found)
  apply leaves_passed (rejectIf_neg _ (not_or.mpr ⟨not_not.mpr live, due⟩))
  apply leaves_write
  apply (leaves_advance_last _ _).bind
  · exact fun _ _ never => never.elim
  · rw [(Change.withdrawn live).frame.2.2.2]
    exact last

theorem release_not_atomic (last : run.revision.value = 2 ^ 53 - 1)
    (time : ValidTime run.serverTimeHighWaterMillis) (leased : run.state = .leased)
    {lease : RunLease} (found : run.currentLease = some lease) :
    ¬(RunOperation.release lease.id lease.epoch lease.connectorFence
      run.serverTimeHighWaterMillis).Atomic run := by
  have active : run.validateActiveLease lease.id lease.epoch lease.connectorFence = .ok lease := by
    simp only [validateActiveLease, bind_eq_ok, okOr_eq_ok, rejectIf_eq_ok, pure_eq_ok, not_not,
      exists_const]
    exact ⟨lease, found, ⟨leased, rfl, rfl, rfl⟩, rfl⟩
  apply not_atomic { run with state := .reconcileRequired } (leased ▸ RunRoutingState.noConfusion)
  apply Leaves.map
  apply leaves_get
  apply leaves_passed (rejectIf_neg _ (not_not.mpr ⟨time, Int64.le_refl _⟩))
  apply leaves_passed active
  apply leaves_write
  exact leaves_advance_last _ last

/-! ## Restored runs -/

/-- A run as it is read back from its snapshot. -/
def Accepted (run : AgentRun) : Prop := ∃ snapshot, tryFromSnapshot snapshot = .ok run

/-- What a restored run and its successors hold. -/
structure Restored (run : AgentRun) : Prop where
  time : ValidTime run.serverTimeHighWaterMillis
  offer : run.state = .offered → ∃ offer, run.currentOffer = some offer ∧
    offer.expiresAtMillis ≤ run.request.queueDeadlineMillis
  lease : run.state = .leased → ∃ lease, run.currentLease = some lease

theorem Accepted.restored (accepted : run.Accepted) : run.Restored := by
  obtain ⟨snapshot, accepted⟩ := accepted
  simp only [tryFromSnapshot, AgentRunSnapshot.validateStateImage, bind_eq_ok, rejectIf_eq_ok,
    pure_eq_ok, exists_const, not_or, not_not] at accepted
  obtain ⟨_, _, ⟨_, _, _, _, time⟩, ⟨offers, _, held⟩, rfl⟩ := accepted
  refine ⟨time, ?_, ?_⟩
  · intro (live : snapshot.state = .offered)
    rw [AgentRunSnapshot.stateValid, live, Bool.and_eq_true] at held
    obtain ⟨offer, found⟩ := Option.isSome_iff_exists.mp held.1
    rw [found, Option.all_some, AgentRunSnapshot.offerValid, decide_eq_true_eq] at offers
    obtain ⟨_, _, _, _, _, _, _, within⟩ := offers
    exact ⟨offer, found, within⟩
  · intro (leased : snapshot.state = .leased)
    rw [AgentRunSnapshot.stateValid, leased, Bool.and_eq_true] at held
    exact Option.isSome_iff_exists.mp held.2

theorem Restored.change (restored : run.Restored) (change : run.Change reply after) :
    after.Restored := by
  cases change with
  | skipped queued => exact ⟨restored.time, (queued ▸ nofun), (queued ▸ nofun)⟩
  | deferred => exact restored
  | offered _ offers => exact ⟨restored.time, fun _ => ⟨_, rfl, offers.deadline⟩, nofun⟩
  | claimed => exact ⟨restored.time, nofun, fun _ => ⟨_, rfl⟩⟩
  | withdrawn =>
    unfold withdrawOffer
    split
    case isTrue => exact ⟨restored.time, nofun, nofun⟩
    case isFalse => exact ⟨restored.time, nofun, nofun⟩
  | expired => exact ⟨restored.time, nofun, nofun⟩
  | ended => exact ⟨restored.time, nofun, nofun⟩

theorem Restored.call (restored : run.Restored) {operation : RunOperation}
    (called : RunCall run operation after) : after.Restored := by
  rw [called]
  apply Leaves.receiver
  apply (operation.performs run).imp
  · intro _ after returns
    cases returns with
    | changed change timely =>
      have changed := restored.change change
      exact ⟨timely.1, changed.offer, changed.lease⟩
    | sameOffer => exact restored
    | sameLease => exact restored
  · intro _ after refuses
    cases refuses with
    | unchanged => exact restored
    | exhausted change => exact restored.change change

/-- At the last revision, a run that is not over has a call that fails half way. -/
theorem Restored.exists_not_atomic (restored : run.Restored)
    (last : run.revision.value = 2 ^ 53 - 1) (unfinished : run.state ≠ .expired)
    (unreconciled : run.state ≠ .reconcileRequired) :
    ∃ operation : RunOperation, ¬operation.Atomic run := by
  cases state : run.state with
  | queued => exact ⟨_, expireQueue_not_atomic last restored.time state⟩
  | offered =>
    obtain ⟨offer, found, within⟩ := restored.offer state
    exact ⟨_, expireOffer_not_atomic last restored.time state found within⟩
  | leased =>
    obtain ⟨lease, found⟩ := restored.lease state
    exact ⟨_, release_not_atomic last restored.time state found⟩
  | reconcileRequired => exact absurd state unreconciled
  | expired => exact absurd state unfinished

end AgentRun

/-- The runs whose calls are all atomic: those below the last revision, and those that are over. -/
theorem calls_atomic_iff {run : AgentRun} (reached : Reached AgentRun.Accepted RunCall run) :
    (∀ operation : RunOperation, operation.Atomic run) ↔
      run.revision.value < 2 ^ 53 - 1 ∨ run.state = .expired ∨ run.state = .reconcileRequired := by
  have restored : run.Restored := by
    apply reached.invariant
    · intro start accepted
      exact accepted.restored
    · intro before operation after restored called
      exact restored.call called
  constructor
  · intro atomic
    by_contra outside
    obtain ⟨full, unfinished, unreconciled⟩ := by simpa only [not_or] using outside
    have last : run.revision.value = 2 ^ 53 - 1 :=
      Nat.le_antisymm run.revision.le_max (Nat.not_lt.mp full)
    obtain ⟨operation, broken⟩ := restored.exists_not_atomic last unfinished unreconciled
    exact broken (atomic operation)
  · intro condition
    apply AgentRun.atomic_of_room
    intro reply after change
    cases condition with
    | inl below => exact below.ne
    | inr ended => exact (AgentRun.not_change_of_over ended change).elim

section Sample

theorem createdRun_calls_atomic :
    createdRun.revision.value < 2 ^ 53 - 1 ∧
      ∀ operation : RunOperation, operation.Atomic createdRun := by
  have accepted : AgentRun.Accepted createdRun := ⟨createdRun.snapshot, by decide +kernel⟩
  have before : createdRun.revision.value < 2 ^ 53 - 1 := by decide
  exact ⟨before, (calls_atomic_iff (.initial accepted)).mpr (.inl before)⟩

/-- The queued sample run at the last revision. -/
def lastRevisionRun : AgentRun :=
  { createdRun with revision := ⟨9007199254740991, by decide, by decide⟩ }

/-- The snapshot is accepted, and a candidate is skipped by a call that fails. -/
theorem lastRevisionRun_skips :
    AgentRun.tryFromSnapshot lastRevisionRun.snapshot = .ok lastRevisionRun ∧
      (RunOperation.skipIneligibleCandidate 1).call.run lastRevisionRun =
        .error .counterExhausted { lastRevisionRun with candidateCursor := 1 } :=
  ⟨by decide +kernel, rfl⟩

end Sample

end Dirextalk.Router
