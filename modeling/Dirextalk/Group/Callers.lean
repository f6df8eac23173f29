import Dirextalk.Group.Rehydration

/-!
# Callers that hold one revision

Every operation compares the revision its caller read with the current one before
anything else, and an accepted call raises the current revision by one.  A call
that is turned away leaves nothing behind: finalizing a reserved join writes one
counter before it checks the other, and the counters of a coherent policy never
let that second check fail.
-/

namespace Dirextalk.Group

open Domain Lib

/-- The revision the caller of an operation supplies. -/
def Operation.expectedRevision : Operation → Revision
  | .grantAdmin expectedRevision _ _ => expectedRevision
  | .revokeAdmin expectedRevision _ _ => expectedRevision
  | .removeMember expectedRevision _ _ => expectedRevision
  | .issueInvite expectedRevision _ _ _ _ _ _ => expectedRevision
  | .revokeInvite expectedRevision _ _ => expectedRevision
  | .requestJoin expectedRevision _ _ _ _ _ => expectedRevision
  | .reserveJoin expectedRevision _ _ _ => expectedRevision
  | .finalizeReservedJoin expectedRevision _ _ => expectedRevision
  | .releaseJoinReservation expectedRevision _ => expectedRevision
  | .approveJoin expectedRevision _ _ _ => expectedRevision

/-- A group that was just created, or one loaded from any stored snapshot. -/
def Opened (policy : GroupPolicy) : Prop :=
  Created policy ∨ ∃ snapshot, GroupPolicy.tryFromSnapshot snapshot = .ok policy

theorem opened_coherent {policy : GroupPolicy} (reached : Reached Opened Call policy) :
    policy.Coherent := by
  refine reached.invariant GroupPolicy.Coherent ?_ ?_
  · rintro _ (⟨scope, ownerId, rfl⟩ | ⟨snapshot, loaded⟩)
    · exact GroupPolicy.new_coherent scope ownerId
    · exact (GroupPolicySnapshot.groupPolicyFromSnapshot_eq_ok_iff.mp loaded).2.2.1
  · rintro policy operation _ coherent rfl
    exact coherent.run operation

namespace GroupPolicy

variable {policy next : GroupPolicy} {operation : Operation} {revision : Revision}

/-- An accepted call was made at the current revision and leaves its successor. -/
theorem revision_of_run {done : Unit} (outcome : policy.run operation = (.ok done, next)) :
    operation.expectedRevision = policy.revision ∧
      policy.revision.checkedNext = .ok next.revision := by
  cases effect_of_run outcome <;> assumption

/-! ## Callers one after the other -/

/-- The calls in the order in which they get hold of the policy, each with its outcome. -/
def outcomes : GroupPolicy → List Operation → List (Operation × Except GroupPolicyError Unit)
  | _, [] => []
  | policy, operation :: later =>
      (operation, (policy.run operation).1) :: (policy.run operation).2.outcomes later

/-- The call was made at this revision and was accepted. -/
def WonAt (revision : Revision) (call : Operation × Except GroupPolicyError Unit) : Prop :=
  call.1.expectedRevision = revision ∧ call.2 = .ok ()

instance (revision : Revision) : DecidablePred (WonAt revision) :=
  fun _ => inferInstanceAs (Decidable (_ ∧ _))

/-- How many of the calls made at the revision were accepted. -/
def winners (policy : GroupPolicy) (operations : List Operation) (revision : Revision) : Nat :=
  (policy.outcomes operations).countP (WonAt revision)

theorem winners_cons {later : List Operation} :
    policy.winners (operation :: later) revision =
      (policy.run operation).2.winners later revision +
        if WonAt revision (operation, (policy.run operation).1) then 1 else 0 := by
  simp only [winners, outcomes, List.countP_cons, decide_eq_true_eq]

/-- A call keeps the revision or raises it, whether or not it is accepted. -/
theorem Coherent.revision_le_run (coherent : policy.Coherent) (operation : Operation) :
    policy.revision ≤ (policy.run operation).2.revision := by
  rcases outcome : policy.run operation with ⟨error | done, next⟩
  · rw [coherent.run_rejected outcome]
    exact Revision.le_refl _
  · exact Revision.le_of_checkedNext (revision_of_run outcome).2

/-- A caller whose revision was passed is never accepted. -/
theorem Coherent.winners_of_passed (coherent : policy.Coherent) (operations : List Operation)
    (passed : revision.value < policy.revision.value) : policy.winners operations revision = 0 := by
  induction operations generalizing policy with
  | nil => rfl
  | cons operation later ih =>
    have kept : policy.revision.value ≤ (policy.run operation).2.revision.value :=
      coherent.revision_le_run operation
    have lost : ¬WonAt revision (operation, (policy.run operation).1) := by
      rintro ⟨rfl, accepted⟩
      have current := (revision_of_run (Prod.ext accepted rfl)).1
      rw [current] at passed
      exact Nat.lt_irrefl _ passed
    rw [winners_cons, ih (coherent.run operation) (Nat.lt_of_lt_of_le passed kept), if_neg lost]

theorem Coherent.winners_le_one (coherent : policy.Coherent) (operations : List Operation)
    (revision : Revision) : policy.winners operations revision ≤ 1 := by
  induction operations generalizing policy with
  | nil => exact Nat.zero_le 1
  | cons operation later ih =>
    rw [winners_cons]
    by_cases won : WonAt revision (operation, (policy.run operation).1)
    · obtain ⟨rfl, accepted⟩ := won
      obtain ⟨current, advances⟩ := revision_of_run (Prod.ext accepted rfl)
      -- the winner's revision is passed for everyone after it
      have passed : operation.expectedRevision.value <
          (policy.run operation).2.revision.value := by
        rw [current, Revision.value_of_checkedNext advances]
        exact Nat.lt_succ_self _
      rw [(coherent.run operation).winners_of_passed later passed]
      split <;> decide
    · rw [if_neg won]
      exact ih (coherent.run operation)

/-- In every reachable policy a call either fails and leaves the policy as it was,
or was made at the current revision and leaves the next one; so of the callers
holding one revision at most one is accepted, in whatever order they come. -/
theorem calls_compare_and_advance (reached : Reached Opened Call policy) :
    (∀ operation : Operation,
      (∃ error, policy.run operation = (.error error, policy)) ∨
        ∃ next, policy.run operation = (.ok (), next) ∧
          operation.expectedRevision = policy.revision ∧
          next.revision.value = policy.revision.value + 1) ∧
    ∀ operations revision, policy.winners operations revision ≤ 1 := by
  have coherent := opened_coherent reached
  constructor
  · intro operation
    rcases outcome : policy.run operation with ⟨error | done, next⟩
    · rw [coherent.run_rejected outcome]
      exact .inl ⟨error, rfl⟩
    · obtain ⟨current, advances⟩ := revision_of_run outcome
      exact .inr ⟨next, rfl, current, Revision.value_of_checkedNext advances⟩
  · exact coherent.winners_le_one

end GroupPolicy

/-- The owner's two callers at the first revision: the first invites, the second is late. -/
theorem callers_at_initial :
    Reached Opened Call sampleGroup ∧ sampleGroup.winners [invitation, invitation] .initial = 1 ∧
      ∀ operations revision, sampleGroup.winners operations revision ≤ 1 := by
  have reached : Reached Opened Call sampleGroup := .initial (.inl ⟨_, _, rfl⟩)
  exact ⟨reached, by decide +kernel, (GroupPolicy.calls_compare_and_advance reached).2⟩

end Dirextalk.Group
