import Dirextalk.Group.AggregateSpec
import Dirextalk.Membership.BookSpec
import Dirextalk.Persistence.Saga

/-!
# The policy along the transactions of a group

Whatever a transaction does to the command book and the outbox, it runs at most
one operation of the policy.  So what every operation keeps, every transaction
keeps.
-/

namespace Dirextalk.Persistence

open Dirextalk.Group Lib Dirextalk.Membership Wire

/-- The policy is as before, or one of the operations on it was accepted. -/
inductive PolicyStep (allowed : Operation → Prop) (before : GroupPolicy) : GroupPolicy → Prop
  | kept : PolicyStep allowed before before
  | ran {after : GroupPolicy} (operation : Operation) (allows : allowed operation)
      (accepted : before.run operation = (.ok (), after)) : PolicyStep allowed before after

section Steps

variable {allowed : Operation → Prop} {before after : GroupPolicy}

/-- The step of an operation with a result. -/
theorem policyStep_of_accepted {α : Type} (operation : Operation) {tried : Attempt α} {value : α}
    (allows : allowed operation) (runs : before.run operation = tried.accepted)
    (accepted : tried = (.ok value, after)) : PolicyStep allowed before after :=
  .ran operation allows (GroupPolicy.run_of_accepted runs accepted)

theorem PolicyStep.mono {others : Operation → Prop} (step : PolicyStep allowed before after)
    (weakens : ∀ operation, allowed operation → others operation) :
    PolicyStep others before after := by
  cases step with
  | kept => exact .kept
  | ran operation allows accepted => exact .ran operation (weakens operation allows) accepted

theorem PolicyStep.scope_eq (step : PolicyStep allowed before after) :
    after.scope = before.scope := by
  cases step with
  | kept => rfl
  | ran operation _ accepted => cases GroupPolicy.effect_of_run accepted <;> rfl

end Steps

/-- The operations of the join saga. -/
def OfSaga (operation : Operation) : Prop := isControl operation = false

/-- The operations that a transaction can run. -/
def Transaction.operations : Transaction → Operation → Prop
  | .control operation _ => (· = operation)
  | _ => OfSaga

namespace Saga

variable {saga next : Saga}

section Commands

variable [Sha256] {candidateMembership : CandidateMembership} {nowMs : Int64}
variable {execution : MembershipCommandExecution}

theorem requestJoinInTransaction_policyStep {command : JoinRequestCommand}
    (done : saga.requestJoinInTransaction command candidateMembership nowMs =
      .ok (execution, next)) : PolicyStep OfSaga saga.policy next.policy := by
  simp only [requestJoinInTransaction, bind_eq_ok, rejectIf_eq_ok, exists_const, Prod.exists,
    committing_eq_ok] at done
  obtain ⟨-, receipt, book, -, done⟩ := done
  split at done
  next => cases done; exact .kept
  next =>
    split at done
    next => cases done; exact .kept
    next =>
      split at done
      next =>
        simp only [bind_eq_ok, Prod.exists, pure_eq_ok, Prod.mk.injEq] at done
        obtain ⟨_, -, _, _, -, -, rfl⟩ := done
        exact .kept
      next requested =>
        cases done
        exact policyStep_of_accepted (.requestJoin ..) rfl rfl requested

theorem approveJoinInTransaction_policyStep {command : ApproveJoinCommand}
    (done : saga.approveJoinInTransaction command candidateMembership nowMs =
      .ok (execution, next)) : PolicyStep OfSaga saga.policy next.policy := by
  simp only [approveJoinInTransaction, bind_eq_ok, rejectIf_eq_ok, exists_const, Prod.exists,
    committing_eq_ok] at done
  obtain ⟨-, receipt, book, -, done⟩ := done
  split at done
  next => cases done; exact .kept
  next =>
    split at done
    next => cases done; exact .kept
    next =>
      split at done
      next =>
        simp only [bind_eq_ok, Prod.exists, pure_eq_ok, Prod.mk.injEq] at done
        obtain ⟨_, -, _, _, -, -, rfl⟩ := done
        exact .kept
      next reserved =>
        simp only [bind_eq_ok, rejectIf_eq_ok, exists_const, pure_eq_ok, Prod.mk.injEq] at done
        obtain ⟨_, -, _, -, -, _, -, -, rfl⟩ := done
        exact policyStep_of_accepted (.reserveJoin ..) rfl rfl reserved

end Commands

section Sequencer

variable {commandId : MembershipCommandId} {lease : SequencerActionLease} {nowMs : Int64}

theorem prepareNextAction_policyStep {leaseForMs : Int64}
    {prepared : Option PreparedSequencerAction}
    (done : saga.prepareNextAction commandId lease nowMs leaseForMs = .ok (prepared, next)) :
    PolicyStep OfSaga saga.policy next.policy := by
  simp only [prepareNextAction, bind_eq_ok, rejectIf_eq_ok, exists_const] at done
  obtain ⟨-, _, -, done⟩ := done
  split at done
  next => cases done; exact .kept
  next =>
    simp only [bind_eq_ok, rejectIf_eq_ok, exists_const] at done
    obtain ⟨_, -, action, -, -, done⟩ := done
    split at done
    next =>
      split at done
      next =>
        simp only [bind_eq_ok, pure_eq_ok, Prod.exists, Prod.mk.injEq] at done
        obtain ⟨_, _, -, _, -, -, rfl⟩ := done
        exact .kept
      next =>
        simp only [bind_eq_ok, pure_eq_ok, Prod.exists, committing_eq_ok, Prod.mk.injEq] at done
        obtain ⟨_, _, -, _, policy, released, _, -, -, rfl⟩ := done
        exact policyStep_of_accepted (.releaseJoinReservation ..) rfl rfl released
      next => cases done
    next =>
      simp only [bind_eq_ok, pure_eq_ok, Prod.mk.injEq] at done
      obtain ⟨_, -, -, rfl⟩ := done
      exact .kept

theorem applyResolution_policyStep {row : OutboxRow} {resolution : SequencerResolution}
    {policy : GroupPolicy} {outbox : Outbox}
    (done : saga.applyResolution commandId row lease nowMs resolution = .ok (policy, outbox)) :
    PolicyStep OfSaga saga.policy policy := by
  cases resolution <;>
    simp only [applyResolution, bind_eq_ok, pure_eq_ok, Prod.exists, committing_eq_ok,
      Prod.mk.injEq] at done
  case committed =>
    obtain ⟨_, _, finalized, _, -, rfl, -⟩ := done
    exact policyStep_of_accepted (.finalizeReservedJoin ..) rfl rfl finalized
  case rejected =>
    obtain ⟨_, _, released, _, -, rfl, -⟩ := done
    exact policyStep_of_accepted (.releaseJoinReservation ..) rfl rfl released
  case absent =>
    obtain ⟨_, -, rfl, -⟩ := done
    exact .kept
  case unknown =>
    obtain ⟨_, -, rfl, -⟩ := done
    exact .kept

theorem resolveAction_policyStep {resolution : SequencerResolution} {receipt : MembershipReceipt}
    (done : saga.resolveAction commandId lease resolution nowMs = .ok (receipt, next)) :
    PolicyStep OfSaga saga.policy next.policy := by
  simp only [resolveAction, bind_eq_ok, rejectIf_eq_ok, exists_const, pure_eq_ok, Prod.exists,
    Prod.mk.injEq] at done
  obtain ⟨row, -, _, -, -, -, _, _, -, policy, outbox, applied, -, rfl⟩ := done
  exact applyResolution_policyStep applied

theorem resolveMlsCommitInTransaction_policyStep {scope : GroupScope}
    {committedDigest : Sha256Digest} {receipt : MembershipReceipt}
    (done : saga.resolveMlsCommitInTransaction scope commandId committedDigest nowMs =
      .ok (receipt, next)) : PolicyStep OfSaga saga.policy next.policy := by
  simp only [resolveMlsCommitInTransaction, bind_eq_ok, rejectIf_eq_ok, exists_const] at done
  obtain ⟨-, done⟩ := done
  split at done
  next =>
    split at done
    next => cases done; exact .kept
    next => cases done
  next =>
    simp only [bind_eq_ok] at done
    obtain ⟨_, -, action, -, done⟩ := done
    split at done
    next => cases done
    next =>
      simp only [bind_eq_ok, rejectIf_eq_ok, exists_const, pure_eq_ok, Prod.exists,
        committing_eq_ok, Prod.mk.injEq] at done
      obtain ⟨-, _, _, -, _, _, finalized, _, -, -, rfl⟩ := done
      exact policyStep_of_accepted (.finalizeReservedJoin ..) rfl rfl finalized

end Sequencer

theorem transact_policyStep [Sha256] {transaction : Transaction}
    (done : saga.transact transaction = .ok next) :
    PolicyStep transaction.operations saga.policy next.policy := by
  cases transaction <;> rw [transact, map_eq_ok] at done <;>
    obtain ⟨⟨_, _⟩, done, rfl⟩ := done
  case requestJoin => exact requestJoinInTransaction_policyStep done
  case approveJoin => exact approveJoinInTransaction_policyStep done
  case prepareNextAction => exact prepareNextAction_policyStep done
  case resolveAction => exact resolveAction_policyStep done
  case resolveMlsCommit => exact resolveMlsCommitInTransaction_policyStep done
  case control => exact .ran _ rfl (committing_eq_ok.mp done)

end Saga

end Dirextalk.Persistence
