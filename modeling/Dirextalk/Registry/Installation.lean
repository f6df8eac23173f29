import Dirextalk.Domain.Identifiers
import Dirextalk.Lib.Fallible

/-!
# Agent installations

The lifecycle of an installed agent: what its owner wants and what the server observes.
A policy may require an upgrade of the pinned descriptor.  Enabling a disabled
installation forgets that requirement, as does nothing else but the upgrade.
-/

namespace Dirextalk.Registry

open Domain Lib

/-- Who runs the agent. -/
inductive ExecutionMode where
  | connectorManaged
  | serverManaged
  deriving DecidableEq, Repr

/-- Owner-controlled desired lifecycle state. -/
inductive InstallationDesiredState where
  | enabled
  | disabled
  | revoked
  deriving DecidableEq, Repr

/-- Server-observed readiness state, separate from owner intent. -/
inductive InstallationObservedState where
  | installing
  | ready
  | degraded
  | upgradeRequired
  deriving DecidableEq, Repr

/-- What can be asked of an installation. -/
inductive InstallationCommand where
  | bindAgentIdentity (identityId : IdentityId)
  | confirmAgentIdentity (identityId : IdentityId)
  | markReady
  | markDegraded
  | requireUpgrade
  | disable
  | enable
  | upgradeDescriptor (version : Revision) (hash : FixedBytes 32)
  | advancePolicy (revision : Revision)
  | revoke
  deriving DecidableEq

/-- An agent as it is installed for its owner. -/
structure AgentInstallation where
  tenantId : TenantId
  installationId : InstallationId
  agentId : AgentId
  ownerId : IdentityId
  agentIdentityId : Option IdentityId
  executionMode : ExecutionMode
  descriptorVersion : Revision
  descriptorHash : FixedBytes 32
  policyRevision : Revision
  desiredState : InstallationDesiredState
  observedState : InstallationObservedState
  revision : Revision
  deriving DecidableEq

/-- Why a command is refused. -/
inductive InstallationError where
  | agentIdentityRequired
  | agentIdentityAlreadyBound
  | revisionConflict (actual expected : Revision)
  | invalidTransition
  | revoked
  | descriptorVersionRegressed
  | descriptorVersionConflict
  | policyRevisionRegressed
  | noChange
  | revisionExhausted
  deriving DecidableEq

namespace AgentInstallation

/-- Creates a newly installing aggregate at revision one. -/
def new (tenantId : TenantId) (installationId : InstallationId) (agentId : AgentId)
    (ownerId : IdentityId) (executionMode : ExecutionMode) (descriptorVersion : Revision)
    (descriptorHash : FixedBytes 32) : AgentInstallation where
  tenantId
  installationId
  agentId
  ownerId
  agentIdentityId := none
  executionMode
  descriptorVersion
  descriptorHash
  policyRevision := .initial
  desiredState := .enabled
  observedState := .installing
  revision := .initial

/-- The arm of `apply` for a command, before the revision moves. -/
def transition (installation : AgentInstallation) :
    InstallationCommand → Except InstallationError AgentInstallation
  | .bindAgentIdentity identityId => do
      rejectIf (installation.agentIdentityId.isSome = true) .agentIdentityAlreadyBound
      return { installation with agentIdentityId := some identityId }
  | .confirmAgentIdentity identityId => do
      rejectIf (installation.agentIdentityId ≠ some identityId) .agentIdentityAlreadyBound
      return installation
  | .markReady =>
      if installation.desiredState = .enabled ∧ installation.agentIdentityId.isSome = true ∧
          (installation.observedState = .installing ∨ installation.observedState = .degraded) then
        return { installation with observedState := .ready }
      else if installation.agentIdentityId.isNone then .error .agentIdentityRequired
      else .error .invalidTransition
  | .markDegraded => do
      rejectIf (¬(installation.desiredState = .enabled ∧
        (installation.observedState = .installing ∨ installation.observedState = .ready)))
        .invalidTransition
      return { installation with observedState := .degraded }
  | .requireUpgrade => do
      rejectIf (installation.observedState = .upgradeRequired) .invalidTransition
      return { installation with observedState := .upgradeRequired }
  | .disable => do
      rejectIf (installation.desiredState ≠ .enabled) .invalidTransition
      return { installation with desiredState := .disabled }
  | .enable => do
      rejectIf (installation.desiredState ≠ .disabled) .invalidTransition
      return { installation with desiredState := .enabled, observedState := .installing }
  | .upgradeDescriptor version hash => do
      rejectIf (version < installation.descriptorVersion) .descriptorVersionRegressed
      rejectIf (version = installation.descriptorVersion)
        (if hash = installation.descriptorHash then .noChange else .descriptorVersionConflict)
      return { installation with
        descriptorVersion := version, descriptorHash := hash, observedState := .installing }
  | .advancePolicy revision => do
      rejectIf (revision < installation.policyRevision) .policyRevisionRegressed
      rejectIf (revision = installation.policyRevision) .noChange
      return { installation with policyRevision := revision }
  | .revoke => return { installation with desiredState := .revoked }

/-- Applies one transition only at the caller's exact revision.  The aggregate is written
after the last check. -/
def apply (installation : AgentInstallation) (expectedRevision : Revision)
    (command : InstallationCommand) : Except InstallationError AgentInstallation := do
  rejectIf (installation.revision ≠ expectedRevision)
    (.revisionConflict installation.revision expectedRevision)
  rejectIf (installation.desiredState = .revoked) .revoked
  let changed ← installation.transition command
  let nextRevision ← installation.revision.checkedNext.mapError fun _ => .revisionExhausted
  return { changed with revision := nextRevision }

variable {installation changed after : AgentInstallation} {expected : Revision}
variable {command : InstallationCommand}

theorem transition_of_apply (applied : installation.apply expected command = .ok after) :
    ∃ changed, installation.transition command = .ok changed ∧
      changed.observedState = after.observedState := by
  simp only [apply, bind_eq_ok, rejectIf_eq_ok, Unique.exists_iff, pure_eq_ok] at applied
  obtain ⟨_, _, changed, transition, _, _, rfl⟩ := applied
  exact ⟨changed, transition, rfl⟩

/-- From the requirement of an upgrade, what a successful command observes. -/
theorem observedState_of_transition (required : installation.observedState = .upgradeRequired)
    (transition : installation.transition command = .ok changed) :
    changed.observedState = .upgradeRequired ∨
      changed.observedState = .installing ∧
        (command = .enable ∧ installation.desiredState = .disabled ∨
          ∃ version hash, command = .upgradeDescriptor version hash ∧
            installation.descriptorVersion < version) := by
  cases command with
  | bindAgentIdentity | confirmAgentIdentity | disable | advancePolicy | revoke =>
    simp only [AgentInstallation.transition, bind_eq_ok, rejectIf_eq_ok, Unique.exists_iff,
      pure_eq_ok] at transition
    grind
  | markReady =>
    simp only [AgentInstallation.transition, required, reduceCtorEq, or_self, and_false,
      if_false] at transition
    split at transition <;> cases transition
  | markDegraded | requireUpgrade =>
    simp [AgentInstallation.transition, required, rejectIf_pos] at transition
  | enable =>
    simp only [AgentInstallation.transition, bind_eq_ok, rejectIf_eq_ok, Unique.exists_iff,
      pure_eq_ok, ne_eq, not_not] at transition
    obtain ⟨disabled, rfl⟩ := transition
    exact .inr ⟨rfl, .inl ⟨rfl, disabled⟩⟩
  | upgradeDescriptor version hash =>
    simp only [AgentInstallation.transition, bind_eq_ok, rejectIf_eq_ok, Unique.exists_iff,
      pure_eq_ok] at transition
    obtain ⟨notOlder, other, rfl⟩ := transition
    refine .inr ⟨rfl, .inr ⟨version, hash, rfl, ?_⟩⟩
    refine Nat.lt_of_le_of_ne (Revision.not_lt.mp notOlder) ?_
    intro same
    have pinned := Revision.new_eq_ok.mpr same
    rw [Revision.new_eq_ok.mpr rfl] at pinned
    exact other (Except.ok.inj pinned)

end AgentInstallation

/-! ## Runs -/

/-- A call of `apply`. -/
structure InstallationCall where
  expectedRevision : Revision
  command : InstallationCommand

/-- A call that fails changes nothing. -/
def InstallationStep (before : AgentInstallation) (call : InstallationCall)
    (after : AgentInstallation) : Prop :=
  before.apply call.expectedRevision call.command = .ok after ∨
    (∃ error, before.apply call.expectedRevision call.command = .error error) ∧ after = before

/-- A call that does not upgrade the descriptor to a higher version. -/
def InstallationCall.KeepsDescriptor (before : AgentInstallation) (call : InstallationCall) :
    Prop :=
  ∀ version hash, call.command = .upgradeDescriptor version hash →
    ¬before.descriptorVersion < version

/-- A call that does not enable a disabled installation. -/
def InstallationCall.KeepsDisabled (before : AgentInstallation) (call : InstallationCall) : Prop :=
  call.command = .enable → before.desiredState ≠ .disabled

variable {before after : AgentInstallation} {call : InstallationCall}

theorem upgradeRequired_of_step (required : before.observedState = .upgradeRequired)
    (keepsDescriptor : call.KeepsDescriptor before) (keepsDisabled : call.KeepsDisabled before)
    (step : InstallationStep before call after) : after.observedState = .upgradeRequired := by
  apply step.elim
  · intro applied
    obtain ⟨changed, transition, observed⟩ := AgentInstallation.transition_of_apply applied
    rw [← observed]
    apply (AgentInstallation.observedState_of_transition required transition).elim id
    rintro ⟨_, ⟨enables, disabled⟩ | ⟨version, hash, upgrades, higher⟩⟩
    · exact absurd disabled (keepsDisabled enables)
    · exact absurd higher (keepsDescriptor version hash upgrades)
  · rintro ⟨_, rfl⟩
    exact required

/-- A required upgrade stays required, without an upgrade, along every run that does not
enable the disabled installation; and any call that does enable it lifts the requirement. -/
theorem upgrade_required_iff {installation required : AgentInstallation} {expected : Revision}
    (requires : installation.apply expected .requireUpgrade = .ok required) :
    (∀ later, ReachedFrom required (fun before call after => InstallationStep before call after ∧
        call.KeepsDescriptor before ∧ call.KeepsDisabled before) later →
      later.observedState ≠ .ready ∧ later.observedState ≠ .degraded) ∧
    (∀ (later : AgentInstallation) (call : InstallationCall) (after : AgentInstallation),
      later.observedState = .upgradeRequired →
      later.apply call.expectedRevision call.command = .ok after → call.KeepsDescriptor later →
      (after.observedState = .upgradeRequired ↔ call.KeepsDisabled later)) := by
  constructor
  · intro later further
    have kept := further.invariant (·.observedState = .upgradeRequired) ?_ ?_
    · rw [kept]
      exact ⟨InstallationObservedState.noConfusion, InstallationObservedState.noConfusion⟩
    · rintro state rfl
      obtain ⟨changed, transition, observed⟩ := AgentInstallation.transition_of_apply requires
      simp only [AgentInstallation.transition, bind_eq_ok, rejectIf_eq_ok, Unique.exists_iff,
        pure_eq_ok] at transition
      rw [← observed, ← transition.2]
    · rintro before call after required ⟨step, keepsDescriptor, keepsDisabled⟩
      exact upgradeRequired_of_step required keepsDescriptor keepsDisabled step
  · intro later call after required applied keepsDescriptor
    constructor
    · intro still enables disabled
      obtain ⟨changed, transition, observed⟩ := AgentInstallation.transition_of_apply applied
      rw [enables] at transition
      simp only [AgentInstallation.transition, bind_eq_ok, rejectIf_eq_ok, Unique.exists_iff,
        pure_eq_ok] at transition
      rw [← observed, ← transition.2] at still
      cases still
    · intro keepsDisabled
      exact upgradeRequired_of_step required keepsDescriptor keepsDisabled (.inl applied)

def sampleInstallation : AgentInstallation :=
  .new (.tagged 1) (.tagged 2) (.tagged 3) (.tagged 4) .connectorManaged .initial (taggedBytes 5)

/-- A fresh installation that needs an upgrade, with a call that keeps the requirement. -/
theorem sampleInstallation_required : ∃ required after,
    sampleInstallation.apply .initial .requireUpgrade = .ok required ∧
      required.apply required.revision .disable = .ok after ∧
      after.observedState = .upgradeRequired := by
  obtain ⟨required, requires⟩ :
      ∃ required, sampleInstallation.apply .initial .requireUpgrade = .ok required := ⟨_, rfl⟩
  obtain ⟨after, disables⟩ : ∃ after, required.apply required.revision .disable = .ok after := by
    cases requires
    exact ⟨_, rfl⟩
  have observed : required.observedState = .upgradeRequired := by
    cases requires
    rfl
  refine ⟨required, after, requires, disables, ?_⟩
  refine ((upgrade_required_iff requires).2 required ⟨required.revision, .disable⟩ after observed
    disables ?_).mpr ?_
  · intro version hash upgrades
    cases upgrades
  · intro enables
    cases enables

/-- Disabled and enabled again, the installation becomes ready with the descriptor that was
to be upgraded. -/
theorem sampleInstallation_reenabled :
    (do
      let bound ← sampleInstallation.apply .initial (.bindAgentIdentity (.tagged 6))
      let required ← bound.apply bound.revision .requireUpgrade
      let disabled ← required.apply required.revision .disable
      let enabled ← disabled.apply disabled.revision .enable
      let ready ← enabled.apply enabled.revision .markReady
      return (required.observedState, ready.observedState,
        decide (ready.descriptorVersion = required.descriptorVersion))) =
      (.ok (.upgradeRequired, .ready, true) : Except InstallationError _) := by
  rfl

/-! ## What never goes back -/

/-- What holds between an installation and a later state of it.  The revision tells the
states of a run apart, and a revoked installation has no other. -/
structure AgentInstallation.Precedes (earlier later : AgentInstallation) : Prop where
  identity : ∀ identityId, earlier.agentIdentityId = some identityId →
    later.agentIdentityId = some identityId
  descriptor : earlier.descriptorVersion < later.descriptorVersion ∨
    later.descriptorVersion = earlier.descriptorVersion ∧
      later.descriptorHash = earlier.descriptorHash
  policy : earlier.policyRevision ≤ later.policyRevision
  ready : (earlier.observedState = .ready → earlier.agentIdentityId ≠ none) →
    later.observedState = .ready → later.agentIdentityId ≠ none
  moved : later = earlier ∨
    earlier.revision < later.revision ∧ earlier.desiredState ≠ .revoked

theorem AgentInstallation.Precedes.trans {first second third : AgentInstallation}
    (left : first.Precedes second) (right : second.Precedes third) : first.Precedes third where
  identity := fun _ bound => right.identity _ (left.identity _ bound)
  descriptor := by
    have := left.descriptor
    have := right.descriptor
    grind [Revision.lt_def]
  policy := Revision.le_trans left.policy right.policy
  ready := fun bound => right.ready (left.ready bound)
  moved := by
    have := left.moved
    have := right.moved
    grind [Revision.lt_def]

theorem precedes_of_apply {expected : Revision} {command : InstallationCommand}
    (applied : before.apply expected command = .ok after) : before.Precedes after := by
  simp only [AgentInstallation.apply, bind_eq_ok, rejectIf_eq_ok, Unique.exists_iff,
    mapError_eq_ok, pure_eq_ok] at applied
  obtain ⟨_, active, changed, transition, next, advances, rfl⟩ := applied
  have moved : before.revision < next := by
    rw [Revision.lt_def, Revision.value_of_checkedNext advances]
    exact Nat.lt_succ_self _
  cases command with
  | markReady =>
    simp only [AgentInstallation.transition] at transition
    split at transition
    case isTrue guard =>
      cases transition
      exact ⟨fun _ => id, .inr ⟨rfl, rfl⟩, Revision.le_refl _, fun _ _ => by grind,
        .inr ⟨moved, active⟩⟩
    case isFalse => split at transition <;> cases transition
  | upgradeDescriptor version hash =>
    simp only [AgentInstallation.transition, bind_eq_ok, rejectIf_eq_ok, Unique.exists_iff,
      pure_eq_ok] at transition
    obtain ⟨notOlder, other, rfl⟩ := transition
    refine ⟨fun _ => id, .inl ?_, Revision.le_refl _, by rintro _ ⟨⟩, .inr ⟨moved, active⟩⟩
    refine Nat.lt_of_le_of_ne (Revision.not_lt.mp notOlder) fun same => other ?_
    exact Except.ok.inj ((Revision.new_eq_ok.mpr rfl).symm.trans (Revision.new_eq_ok.mpr same))
  | _ =>
    simp only [AgentInstallation.transition, bind_eq_ok, rejectIf_eq_ok, Unique.exists_iff,
      pure_eq_ok] at transition
    constructor <;> grind [Revision.lt_def, Revision.le_def]

/-- Along every run the bound identity stays, the descriptor changes only for a higher version,
the policy never goes back, readiness needs an identity and no revision comes twice. -/
theorem installation_history {installation later : AgentInstallation}
    (further : ReachedFrom installation InstallationStep later) : installation.Precedes later := by
  apply further.invariant installation.Precedes
  · rintro _ rfl
    exact ⟨fun _ => id, .inr ⟨rfl, rfl⟩, Revision.le_refl _, id, .inl rfl⟩
  · rintro before call after precedes (applied | ⟨-, rfl⟩)
    · exact precedes.trans (precedes_of_apply applied)
    · exact precedes

/-- Binding the agent's identity moves the sample to its next revision. -/
theorem sampleInstallation_bound : ∃ bound,
    sampleInstallation.apply .initial (.bindAgentIdentity (.tagged 6)) = .ok bound ∧
      sampleInstallation.Precedes bound ∧ bound ≠ sampleInstallation := by
  obtain ⟨bound, binds⟩ : ∃ bound,
      sampleInstallation.apply .initial (.bindAgentIdentity (.tagged 6)) = .ok bound := ⟨_, rfl⟩
  refine ⟨bound, binds, installation_history (.next ⟨_, _⟩ (.initial rfl) (.inl binds)), ?_⟩
  cases binds
  decide

end Dirextalk.Registry
