import Dirextalk.Registry.Installation

/-!
# Conversation grants

The grant of an agent installation in one conversation.  A grant is issued, updated,
revoked and granted again; every change takes the next version, which fences the runs that
have captured an earlier one, and every grant after a revocation takes an id that no
earlier grant has had.
-/

namespace Dirextalk.Registry

open Domain Lib

/-! ## Permissions -/

/-- Closed, server-enforced conversation permission kind. -/
inductive AgentConversationPermission where
  | readFutureMessages
  | readSharedHistory
  | readAttachments
  | sendMessages
  | createChannelComments
  | invokeTools
  | startServerJobs
  deriving DecidableEq, Repr

/-- Typed permission set; absence always means deny. -/
structure AgentConversationPermissions where
  permissions : Finset AgentConversationPermission
  cloudConnections : Finset CloudConnectionId
  deriving DecidableEq

namespace AgentConversationPermissions

/-- Neither a permission nor a connection is granted. -/
def isEmpty (granted : AgentConversationPermissions) : Prop :=
  granted.permissions = ∅ ∧ granted.cloudConnections = ∅

instance (granted : AgentConversationPermissions) : Decidable granted.isEmpty :=
  inferInstanceAs (Decidable (_ ∧ _))

/-- Nothing is granted that the other does not grant. -/
def isSubsetOf (granted other : AgentConversationPermissions) : Prop :=
  granted.permissions ⊆ other.permissions ∧ granted.cloudConnections ⊆ other.cloudConnections

instance (granted other : AgentConversationPermissions) : Decidable (granted.isSubsetOf other) :=
  inferInstanceAs (Decidable (_ ∧ _))

theorem isSubsetOf_refl (granted : AgentConversationPermissions) : granted.isSubsetOf granted :=
  ⟨Finset.Subset.refl _, Finset.Subset.refl _⟩

end AgentConversationPermissions

/-- Trigger behavior for one conversation grant. -/
inductive TriggerPolicy where
  | mentionOnly
  | explicitCommand
  | manualOnly
  | allMessages
  deriving DecidableEq, Repr

/-- Evidence marker supplied only after a fresh permission-expansion decision. -/
inductive PermissionExpansionConfirmation where
  | confirmed

/-- Evidence marker for the separately confirmed high-risk all-messages trigger. -/
inductive AllMessagesConfirmation where
  | confirmed

/-! ## Grants -/

/-- Complete freshly device-approved grant state proposed by an update or regrant. -/
structure ConversationGrantUpdate where
  permissions : AgentConversationPermissions
  triggerPolicy : TriggerPolicy
  privacyPolicyHash : FixedBytes 32
  approvedByDevice : DeviceId
  approvedAtMs : Int64
  expiresAtMs : Option Int64

/-- One mutation of the current grant head. -/
inductive ConversationGrantCommand where
  | update (update : ConversationGrantUpdate)
      (permissionExpansion : Option PermissionExpansionConfirmation)
      (allMessages : Option AllMessagesConfirmation)
  | revoke (revokedAtMs : Int64)
  | regrant (grantId : GrantId) (update : ConversationGrantUpdate)
      (permissionExpansion : PermissionExpansionConfirmation)
      (allMessages : Option AllMessagesConfirmation)

/-- Current grant head for one tenant, conversation and installation. -/
structure ConversationGrant where
  tenantId : TenantId
  grantId : GrantId
  conversationId : ConversationId
  installationId : InstallationId
  permissions : AgentConversationPermissions
  triggerPolicy : TriggerPolicy
  privacyPolicyHash : FixedBytes 32
  grantVersion : Revision
  approvedByDevice : DeviceId
  approvedAtMs : Int64
  expiresAtMs : Option Int64
  revokedAtMs : Option Int64
  usedGrantIds : Finset GrantId
  deriving DecidableEq

/-- Complete persistence image of one grant head and its id history. -/
structure ConversationGrantSnapshot where
  tenantId : TenantId
  grantId : GrantId
  conversationId : ConversationId
  installationId : InstallationId
  permissions : AgentConversationPermissions
  triggerPolicy : TriggerPolicy
  privacyPolicyHash : FixedBytes 32
  grantVersion : Revision
  approvedByDevice : DeviceId
  approvedAtMs : Int64
  expiresAtMs : Option Int64
  revokedAtMs : Option Int64
  usedGrantIds : Finset GrantId

/-- Why a command is refused. -/
inductive ConversationGrantError where
  | scopeMismatch
  | versionConflict (actual expected : Revision)
  | installationNotUsable
  | emptyPermissions
  | invalidExpiry
  | invalidRevocationTime
  | invalidApprovalTime
  | permissionExpansionConfirmationRequired
  | allMessagesConfirmationRequired
  | revoked
  | invalidTransition
  | grantIdReused
  | noChange
  | versionExhausted
  deriving DecidableEq

/-- Why a snapshot is refused. -/
inductive ConversationGrantSnapshotError where
  | emptyPermissions
  | invalidExpiry
  | invalidRevocationTime
  | currentGrantIdMissing
  | impossibleVersionHistory
  | unreachableInitialState
  deriving DecidableEq, Repr

open ConversationGrantError

/-- Grants need an enabled installation. -/
def ensureInstallationUsable (installation : AgentInstallation) :
    Except ConversationGrantError Unit :=
  rejectIf (installation.desiredState ≠ .enabled) installationNotUsable

/-- An expiry that is not later than the approval. -/
def ExpiresBy (expiresAtMs : Option Int64) (approvedAtMs : Int64) : Prop :=
  expiresAtMs.any (· ≤ approvedAtMs) = true

instance (expiresAtMs : Option Int64) (approvedAtMs : Int64) :
    Decidable (ExpiresBy expiresAtMs approvedAtMs) :=
  inferInstanceAs (Decidable (_ = true))

/-- A grant permits something and does not expire at its approval. -/
def validateGrantFacts (permissions : AgentConversationPermissions) (approvedAtMs : Int64)
    (expiresAtMs : Option Int64) : Except ConversationGrantError Unit := do
  rejectIf permissions.isEmpty emptyPermissions
  rejectIf (ExpiresBy expiresAtMs approvedAtMs) invalidExpiry

namespace ConversationGrant

variable (grant : ConversationGrant) (installation : AgentInstallation)

/-- Issues the first grant version from a freshly approved installation flow, whose facts are
those of an update. -/
def issue (grantId : GrantId) (conversationId : ConversationId) (facts : ConversationGrantUpdate)
    (allMessages : Option AllMessagesConfirmation) :
    Except ConversationGrantError ConversationGrant := do
  ensureInstallationUsable installation
  validateGrantFacts facts.permissions facts.approvedAtMs facts.expiresAtMs
  rejectIf (facts.triggerPolicy = .allMessages ∧ allMessages.isNone)
    allMessagesConfirmationRequired
  pure { facts with
    tenantId := installation.tenantId
    grantId
    conversationId
    installationId := installation.installationId
    grantVersion := .initial
    revokedAtMs := none
    usedGrantIds := {grantId} }

/-- All fields of the grant. -/
def snapshot : ConversationGrantSnapshot := { grant with }

/-- The smallest version that can have gone through so many ids. -/
def minimumVersion (idCount : Nat) (revoked : Bool) : Option Nat := do
  let doubled ← if idCount * 2 < UInt64.size then some (idCount * 2) else none
  let value ← if 1 ≤ doubled then some (doubled - 1) else none
  if value + revoked.toNat < UInt64.size then some (value + revoked.toNat) else none

/-- Rehydrates a grant after validating lifecycle, time and version fences. -/
def tryFromSnapshot (snapshot : ConversationGrantSnapshot) :
    Except ConversationGrantSnapshotError ConversationGrant := do
  rejectIf snapshot.permissions.isEmpty .emptyPermissions
  rejectIf (ExpiresBy snapshot.expiresAtMs snapshot.approvedAtMs) .invalidExpiry
  rejectIf (snapshot.revokedAtMs.any (· < snapshot.approvedAtMs) = true) .invalidRevocationTime
  rejectIf (snapshot.grantId ∉ snapshot.usedGrantIds) .currentGrantIdMissing
  let minimumVersion ← okOr
    (minimumVersion snapshot.usedGrantIds.card snapshot.revokedAtMs.isSome)
    .impossibleVersionHistory
  rejectIf (snapshot.grantVersion.value < minimumVersion) .impossibleVersionHistory
  rejectIf (snapshot.grantVersion.value = Revision.initial.value ∧
    (snapshot.usedGrantIds.card ≠ 1 ∨ snapshot.revokedAtMs.isSome = true))
    .unreachableInitialState
  pure { snapshot with }

/-- The grant is of this installation. -/
def scopeMatches : Bool :=
  grant.tenantId = installation.tenantId && grant.installationId = installation.installationId

/-- Evaluates the current grant at an exclusive expiry boundary. -/
def isActiveFor (nowMs : Int64) : Bool :=
  grant.scopeMatches installation && installation.desiredState = .enabled &&
    grant.revokedAtMs.isNone && grant.approvedAtMs ≤ nowMs && grant.expiresAtMs.all (nowMs < ·)

/-- Fences a run against both current activity and its captured grant version. -/
def authorizesVersionFor (nowMs : Int64) (capturedVersion : Revision) : Bool :=
  grant.grantVersion = capturedVersion && grant.isActiveFor installation nowMs

/-- The grant already has the facts of the update. -/
def matchesUpdate (update : ConversationGrantUpdate) : Bool :=
  grant.permissions = update.permissions && grant.triggerPolicy = update.triggerPolicy &&
    grant.privacyPolicyHash = update.privacyPolicyHash &&
    grant.approvedByDevice = update.approvedByDevice &&
    grant.approvedAtMs = update.approvedAtMs && grant.expiresAtMs = update.expiresAtMs

/-- The grant with the facts of the update, and no longer revoked. -/
def replaceFacts (update : ConversationGrantUpdate) (grant : ConversationGrant) :
    ConversationGrant :=
  { update, grant with revokedAtMs := none }

/-! ## Commands -/

/-- The arm of `apply` for a command. -/
def perform : ConversationGrantCommand → EStateM ConversationGrantError ConversationGrant Unit
  | .update update permissionExpansion allMessages => do
      let grant ← get
      ensureInstallationUsable installation
      rejectIf (grant.revokedAtMs.isSome = true) revoked
      validateGrantFacts update.permissions update.approvedAtMs update.expiresAtMs
      rejectIf (update.approvedAtMs ≤ grant.approvedAtMs) invalidApprovalTime
      rejectIf (¬update.permissions.isSubsetOf grant.permissions ∧
        permissionExpansion.isNone = true) permissionExpansionConfirmationRequired
      rejectIf (update.triggerPolicy = .allMessages ∧ grant.triggerPolicy ≠ .allMessages ∧
        allMessages.isNone = true) allMessagesConfirmationRequired
      rejectIf (grant.matchesUpdate update = true) noChange
      modify (replaceFacts update)
  | .revoke revokedAtMs => do
      let grant ← get
      rejectIf (grant.revokedAtMs.isSome = true) revoked
      rejectIf (revokedAtMs < grant.approvedAtMs) invalidRevocationTime
      modify fun grant => { grant with revokedAtMs := some revokedAtMs }
  | .regrant grantId update _ allMessages => do
      let grant ← get
      ensureInstallationUsable installation
      let revokedAtMs ← okOr grant.revokedAtMs invalidTransition
      rejectIf (grantId ∈ grant.usedGrantIds) grantIdReused
      validateGrantFacts update.permissions update.approvedAtMs update.expiresAtMs
      rejectIf (update.approvedAtMs ≤ revokedAtMs) invalidApprovalTime
      rejectIf (update.triggerPolicy = .allMessages ∧ allMessages.isNone = true)
        allMessagesConfirmationRequired
      modify fun grant => { grant with usedGrantIds := insert grantId grant.usedGrantIds }
      modify fun grant => { grant with grantId }
      modify (replaceFacts update)

/-- Applies one exact-version grant-head transition. -/
def apply (expectedVersion : Revision) (command : ConversationGrantCommand) :
    EStateM ConversationGrantError ConversationGrant Revision := do
  let grant ← get
  rejectIf (grant.scopeMatches installation = false) scopeMismatch
  rejectIf (grant.grantVersion ≠ expectedVersion)
    (versionConflict grant.grantVersion expectedVersion)
  let nextVersion ← grant.grantVersion.checkedNext.mapError fun _ => versionExhausted
  perform installation command
  modify fun grant => { grant with grantVersion := nextVersion }
  return nextVersion

/-! ## What a command does -/

/-- The facts of an update that pass their check. -/
structure ValidFacts (update : ConversationGrantUpdate) : Prop where
  granted : ¬update.permissions.isEmpty
  expiry : ¬ExpiresBy update.expiresAtMs update.approvedAtMs

theorem validFacts_of_ok {update : ConversationGrantUpdate} {done : Unit}
    (valid : validateGrantFacts update.permissions update.approvedAtMs update.expiresAtMs =
      .ok done) : ValidFacts update := by
  simp only [validateGrantFacts, bind_eq_ok, rejectIf_eq_ok] at valid
  obtain ⟨_, granted, expiry⟩ := valid
  exact ⟨granted, expiry⟩

/-- The change that a successful command makes before the version moves. -/
inductive Change (grant : ConversationGrant) : ConversationGrantCommand → ConversationGrant → Prop
  | updated {update : ConversationGrantUpdate}
      {permissionExpansion : Option PermissionExpansionConfirmation}
      {allMessages : Option AllMessagesConfirmation} (live : grant.revokedAtMs = none)
      (facts : ValidFacts update)
      (expands : ¬update.permissions.isSubsetOf grant.permissions →
        ∃ confirmation, permissionExpansion = some confirmation)
      (triggers : update.triggerPolicy = .allMessages → grant.triggerPolicy ≠ .allMessages →
        ∃ confirmation, allMessages = some confirmation) :
      Change grant (.update update permissionExpansion allMessages) (grant.replaceFacts update)
  | revoked {revokedAtMs : Int64} (live : grant.revokedAtMs = none)
      (later : ¬revokedAtMs < grant.approvedAtMs) :
      Change grant (.revoke revokedAtMs) { grant with revokedAtMs := some revokedAtMs }
  | regranted {grantId : GrantId} {update : ConversationGrantUpdate}
      {permissionExpansion : PermissionExpansionConfirmation}
      {allMessages : Option AllMessagesConfirmation} (ended : grant.revokedAtMs.isSome = true)
      (fresh : grantId ∉ grant.usedGrantIds) (facts : ValidFacts update) :
      Change grant (.regrant grantId update permissionExpansion allMessages)
        (replaceFacts update
          { grant with grantId, usedGrantIds := insert grantId grant.usedGrantIds })

variable {grant installation} {after : ConversationGrant} {command : ConversationGrantCommand}

/-- Every check comes before the first write. -/
theorem perform_leaves (grant : ConversationGrant) (installation : AgentInstallation)
    (command : ConversationGrantCommand) :
    Leaves (perform installation command) grant (fun _ => grant.Change command)
      (fun _ after => after = grant) := by
  cases command with
  | update update permissionExpansion allMessages =>
    apply leaves_get
    refine leaves_check (fun _ _ => ?_) (fun _ _ => rfl)
    refine leaves_check (fun _ live => ?_) (fun _ _ => rfl)
    refine leaves_check (fun _ facts => ?_) (fun _ _ => rfl)
    refine leaves_check (fun _ _ => ?_) (fun _ _ => rfl)
    refine leaves_check (fun _ expands => ?_) (fun _ _ => rfl)
    refine leaves_check (fun _ triggers => ?_) (fun _ _ => rfl)
    refine leaves_check (fun _ _ => ?_) (fun _ _ => rfl)
    apply leaves_modify
    refine .updated (Option.not_isSome_iff_eq_none.mp (rejectIf_eq_ok.mp live))
      (validFacts_of_ok facts) ?_ ?_
    · intro beyond
      apply Option.ne_none_iff_exists'.mp
      intro none
      exact rejectIf_eq_ok.mp expands ⟨beyond, Option.isNone_iff_eq_none.mpr none⟩
    · intro every before
      apply Option.ne_none_iff_exists'.mp
      intro none
      exact rejectIf_eq_ok.mp triggers ⟨every, before, Option.isNone_iff_eq_none.mpr none⟩
  | revoke revokedAtMs =>
    apply leaves_get
    refine leaves_check (fun _ live => ?_) (fun _ _ => rfl)
    refine leaves_check (fun _ later => ?_) (fun _ _ => rfl)
    apply leaves_modify
    exact .revoked (Option.not_isSome_iff_eq_none.mp (rejectIf_eq_ok.mp live))
      (rejectIf_eq_ok.mp later)
  | regrant grantId update permissionExpansion allMessages =>
    apply leaves_get
    refine leaves_check (fun _ _ => ?_) (fun _ _ => rfl)
    refine leaves_check (fun _ ended => ?_) (fun _ _ => rfl)
    refine leaves_check (fun _ fresh => ?_) (fun _ _ => rfl)
    refine leaves_check (fun _ facts => ?_) (fun _ _ => rfl)
    refine leaves_check (fun _ _ => ?_) (fun _ _ => rfl)
    refine leaves_check (fun _ _ => ?_) (fun _ _ => rfl)
    apply leaves_write
    apply leaves_write
    apply leaves_modify
    exact .regranted (Option.isSome_iff_exists.mpr ⟨_, okOr_eq_ok.mp ended⟩)
      (rejectIf_eq_ok.mp fresh) (validFacts_of_ok facts)

/-- A call that succeeds has made its change and moved the version by one; one that fails has
changed nothing. -/
theorem apply_leaves (grant : ConversationGrant) (installation : AgentInstallation)
    (expectedVersion : Revision) (command : ConversationGrantCommand) :
    Leaves (apply installation expectedVersion command) grant
      (fun version after => ∃ changed, grant.Change command changed ∧
        version.value = grant.grantVersion.value + 1 ∧
        after = { changed with grantVersion := version })
      (fun _ after => after = grant) := by
  apply leaves_get
  refine leaves_check (fun _ _ => ?_) (fun _ _ => rfl)
  refine leaves_check (fun _ _ => ?_) (fun _ _ => rfl)
  refine leaves_check (fun version advances => ?_) (fun _ _ => rfl)
  apply (perform_leaves grant installation command).bind
  intro _ changed change
  apply leaves_write
  apply leaves_pure
  exact ⟨changed, change, Revision.value_of_checkedNext (mapError_eq_ok.mp advances), rfl⟩

/-! ## Lawful grants -/

/-- What every grant holds: it passes the check of its facts, and its version is large enough for
two changes between any two of its ids. -/
structure Lawful (grant : ConversationGrant) : Prop where
  granted : ¬grant.permissions.isEmpty
  expiry : ¬ExpiresBy grant.expiresAtMs grant.approvedAtMs
  revocation : grant.revokedAtMs.any (· < grant.approvedAtMs) = false
  current : grant.grantId ∈ grant.usedGrantIds
  version : 2 * grant.usedGrantIds.card + grant.revokedAtMs.isSome.toNat ≤
    grant.grantVersion.value + 1

/-- A grant that an issue returns. -/
def Issued (grant : ConversationGrant) : Prop :=
  ∃ installation grantId conversationId facts allMessages,
    issue installation grantId conversationId facts allMessages = .ok grant

theorem Issued.lawful (issued : grant.Issued) : grant.Lawful := by
  obtain ⟨_, _, _, _, _, issued⟩ := issued
  simp only [issue, bind_eq_ok, rejectIf_eq_ok, pure_eq_ok] at issued
  obtain ⟨_, _, _, facts, _, _, rfl⟩ := issued
  have valid := validFacts_of_ok facts
  exact ⟨valid.granted, valid.expiry, rfl, Finset.mem_singleton_self _, Nat.le_refl 2⟩

theorem Change.lawful (lawful : grant.Lawful) (change : grant.Change command after)
    {version : Revision} (next : version.value = grant.grantVersion.value + 1) :
    Lawful { after with grantVersion := version } := by
  have bound := lawful.version
  cases change with
  | updated live facts =>
    refine ⟨facts.granted, facts.expiry, rfl, lawful.current, ?_⟩
    change 2 * grant.usedGrantIds.card + 0 ≤ version.value + 1
    omega
  | @revoked revokedAtMs live later =>
    refine ⟨lawful.granted, lawful.expiry, decide_eq_false later, lawful.current, ?_⟩
    rw [live] at bound
    change 2 * grant.usedGrantIds.card + 1 ≤ version.value + 1
    change 2 * grant.usedGrantIds.card + 0 ≤ _ at bound
    omega
  | @regranted grantId update _ _ ended fresh facts =>
    refine ⟨facts.granted, facts.expiry, rfl, Finset.mem_insert_self .., ?_⟩
    rw [ended] at bound
    change 2 * (insert grantId grant.usedGrantIds).card + 0 ≤ version.value + 1
    change 2 * grant.usedGrantIds.card + 1 ≤ _ at bound
    rw [Finset.card_insert_of_notMem fresh]
    omega

/-- A lawful grant is read back from its snapshot as it is. -/
theorem Lawful.tryFromSnapshot (lawful : grant.Lawful) :
    tryFromSnapshot grant.snapshot = .ok grant := by
  have occupied : 1 ≤ grant.usedGrantIds.card := Finset.card_pos.mpr ⟨_, lawful.current⟩
  have bound := lawful.version
  have largest := grant.grantVersion.le_max
  have size : UInt64.size = 18446744073709551616 := rfl
  have minimum : minimumVersion grant.usedGrantIds.card grant.revokedAtMs.isSome =
      some (grant.usedGrantIds.card * 2 - 1 + grant.revokedAtMs.isSome.toNat) := by
    rw [minimumVersion, if_pos (by omega)]
    dsimp only [Option.bind_eq_bind, Option.bind_some]
    rw [if_pos (by omega), if_pos (by omega)]
  simp only [ConversationGrant.tryFromSnapshot, bind_eq_ok, rejectIf_eq_ok, okOr_eq_ok,
    pure_eq_ok, Unique.exists_iff]
  refine ⟨lawful.granted, lawful.expiry, Bool.eq_false_iff.mp lawful.revocation,
    not_not.mpr lawful.current, _, minimum, ?_, ?_, rfl⟩
  · change ¬grant.grantVersion.value < _
    omega
  · -- the first version leaves room for one id and no revocation
    rintro ⟨first, impossible⟩
    change grant.grantVersion.value = 1 at first
    cases impossible with
    | inl several =>
      change grant.usedGrantIds.card ≠ 1 at several
      omega
    | inr revoked =>
      change grant.revokedAtMs.isSome = true at revoked
      rw [revoked, Bool.toNat_true] at bound
      omega

end ConversationGrant

/-! ## Runs -/

open ConversationGrant

/-- A call of `apply`. -/
structure GrantCall where
  installation : AgentInstallation
  expectedVersion : Revision
  command : ConversationGrantCommand

/-- The method that the call invokes. -/
def GrantCall.method (call : GrantCall) :
    EStateM ConversationGrantError ConversationGrant Revision :=
  apply call.installation call.expectedVersion call.command

/-- The call returns a version and leaves the grant so. -/
def GrantCall.Succeeds (call : GrantCall) (grant after : ConversationGrant) : Prop :=
  ∃ version, call.method.run grant = .ok version after

/-- A call leaves the grant changed or, if it fails, as the failure leaves it. -/
def GrantStep (grant : ConversationGrant) (call : GrantCall) (after : ConversationGrant) : Prop :=
  receiver (call.method.run grant) = after

/-- A command that starts a new generation of the grant. -/
def ConversationGrantCommand.IsRegrant : ConversationGrantCommand → Prop
  | .regrant .. => True
  | .update .. | .revoke _ => False

variable {grant after later : ConversationGrant} {call : GrantCall}

theorem GrantCall.Succeeds.change (succeeds : call.Succeeds grant after) :
    ∃ changed version, grant.Change call.command changed ∧
      version.value = grant.grantVersion.value + 1 ∧
      after = { changed with grantVersion := version } := by
  obtain ⟨version, returned⟩ := succeeds
  obtain ⟨changed, change, next, same⟩ := (apply_leaves ..).of_ok returned
  exact ⟨changed, version, change, next, same⟩

theorem GrantStep.cases (step : GrantStep grant call after) :
    after = grant ∨ call.Succeeds grant after := by
  unfold GrantStep at step
  cases returned : call.method.run grant with
  | ok version left =>
    rw [returned] at step
    cases step
    exact .inr ⟨version, returned⟩
  | error error left =>
    rw [returned] at step
    cases step
    exact .inl ((apply_leaves ..).of_error returned)

theorem GrantCall.Succeeds.lawful (succeeds : call.Succeeds grant after) (lawful : grant.Lawful) :
    after.Lawful := by
  obtain ⟨changed, version, change, next, rfl⟩ := succeeds.change
  exact change.lawful lawful next

theorem lawful_of_reached (reached : Reached Issued GrantStep grant) : grant.Lawful := by
  apply reached.invariant Lawful (fun _ => Issued.lawful)
  intro before call after lawful step
  cases step.cases with
  | inl same => exact same ▸ lawful
  | inr succeeds => exact succeeds.lawful lawful

theorem GrantCall.Succeeds.version_lt (succeeds : call.Succeeds grant after) :
    grant.grantVersion.value < after.grantVersion.value := by
  obtain ⟨changed, version, _, next, rfl⟩ := succeeds.change
  exact Nat.lt_of_lt_of_eq (Nat.lt_succ_self _) next.symm

/-- Versions never go back. -/
theorem version_le_of_reachedFrom (further : ReachedFrom grant GrantStep later) :
    grant.grantVersion.value ≤ later.grantVersion.value := by
  apply further.invariant fun state => grant.grantVersion.value ≤ state.grantVersion.value
  · intro state same
    exact same ▸ Nat.le_refl _
  · intro before call after le step
    cases step.cases with
    | inl same => exact same ▸ le
    | inr succeeds => exact le.trans succeeds.version_lt.le

/-- A successful call uses no id again: the current id stays, or it is one that was not used. -/
theorem GrantCall.Succeeds.ids (succeeds : call.Succeeds grant after) :
    grant.usedGrantIds ⊆ after.usedGrantIds ∧
      (after.grantId = grant.grantId ∧ ¬call.command.IsRegrant ∨
        after.grantId ∉ grant.usedGrantIds) := by
  obtain ⟨changed, version, change, _, rfl⟩ := succeeds.change
  generalize call.command = command at change
  cases change with
  | updated => exact ⟨Finset.Subset.refl _, .inl ⟨rfl, id⟩⟩
  | revoked => exact ⟨Finset.Subset.refl _, .inl ⟨rfl, id⟩⟩
  | regranted ended fresh => exact ⟨Finset.subset_insert .., .inr fresh⟩

/-- An id that was used before the current generation is not used in any later one. -/
theorem ids_of_reachedFrom {past : Finset GrantId} (used : past ⊆ grant.usedGrantIds)
    (other : grant.grantId ∉ past) (further : ReachedFrom grant GrantStep later) :
    past ⊆ later.usedGrantIds ∧ later.grantId ∉ past := by
  apply further.invariant fun state => past ⊆ state.usedGrantIds ∧ state.grantId ∉ past
  · intro state same
    exact same ▸ ⟨used, other⟩
  · intro before call after kept step
    cases step.cases with
    | inl same => exact same ▸ kept
    | inr succeeds =>
      refine ⟨Finset.Subset.trans kept.1 succeeds.ids.1, ?_⟩
      intro back
      cases succeeds.ids.2 with
      | inl same => exact kept.2 (same.1 ▸ back)
      | inr fresh => exact fresh (kept.1 back)

theorem usedGrantIds_subset (further : ReachedFrom grant GrantStep later) :
    grant.usedGrantIds ⊆ later.usedGrantIds := by
  apply further.invariant fun state => grant.usedGrantIds ⊆ state.usedGrantIds
  · intro state same
    exact same ▸ Finset.Subset.refl _
  · intro before call after kept step
    cases step.cases with
    | inl same => exact same ▸ kept
    | inr succeeds => exact Finset.Subset.trans kept succeeds.ids.1

/-- In every run from an issue: a version captured before a change authorizes nothing after it,
an id stays with its generation, authority grows only with the confirmation that it needs, a
failed call changes nothing, and every grant is read back from its snapshot. -/
theorem conversation_grant_fenced (reached : Reached Issued GrantStep grant) :
    (∀ (middle after later : ConversationGrant) (call : GrantCall),
        ReachedFrom grant GrantStep middle → call.Succeeds middle after →
        ReachedFrom after GrantStep later →
        (∀ installation nowMs,
          later.authorizesVersionFor installation nowMs grant.grantVersion = false) ∧
        (call.command.IsRegrant → later.grantId ≠ grant.grantId)) ∧
      (∀ (call : GrantCall) (after : ConversationGrant), call.Succeeds grant after →
        ¬call.command.IsRegrant →
        after.grantId = grant.grantId ∧
        (¬after.permissions.isSubsetOf grant.permissions →
          ∃ update confirmation allMessages,
            call.command = .update update (some confirmation) allMessages) ∧
        (after.triggerPolicy = .allMessages → grant.triggerPolicy ≠ .allMessages →
          ∃ update permissionExpansion confirmation,
            call.command = .update update permissionExpansion (some confirmation))) ∧
      (∀ (call : GrantCall) (error : ConversationGrantError) (after : ConversationGrant),
        call.method.run grant = .error error after → after = grant) ∧
      tryFromSnapshot grant.snapshot = .ok grant := by
  have lawful := lawful_of_reached reached
  refine ⟨?_, ?_, ?_, lawful.tryFromSnapshot⟩
  · intro middle after later call before succeeds further
    constructor
    · intro installation nowMs
      have less : grant.grantVersion.value < later.grantVersion.value :=
        calc grant.grantVersion.value
          _ ≤ middle.grantVersion.value := version_le_of_reachedFrom before
          _ < after.grantVersion.value := succeeds.version_lt
          _ ≤ later.grantVersion.value := version_le_of_reachedFrom further
      refine Bool.and_eq_false_iff.mpr (.inl (decide_eq_false ?_))
      intro same
      exact absurd (congrArg Revision.value same) (Nat.ne_of_gt less)
    · intro regrants back
      have fresh : after.grantId ∉ middle.usedGrantIds :=
        succeeds.ids.2.resolve_left fun stays => stays.2 regrants
      have others := ids_of_reachedFrom succeeds.ids.1 fresh further
      exact others.2 (back ▸ usedGrantIds_subset before lawful.current)
  · intro call after succeeds others
    obtain ⟨changed, version, change, _, rfl⟩ := succeeds.change
    generalize call.command = command at change others
    cases change with
    | @updated update permissionExpansion allMessages live facts expands triggers =>
      refine ⟨rfl, ?_, ?_⟩
      · intro gains
        obtain ⟨confirmation, rfl⟩ := expands gains
        exact ⟨update, confirmation, allMessages, rfl⟩
      · intro every before
        obtain ⟨confirmation, rfl⟩ := triggers every before
        exact ⟨update, permissionExpansion, confirmation, rfl⟩
    | revoked =>
      refine ⟨rfl, ?_, ?_⟩
      · intro gains
        exact absurd (AgentConversationPermissions.isSubsetOf_refl _) gains
      · intro every before
        exact absurd every before
    | regranted => exact absurd trivial others
  · intro call error after returned
    exact (apply_leaves ..).of_error returned

section Sample

def sampleFacts (approvedAtMs : Int64) : ConversationGrantUpdate :=
  ⟨⟨{.sendMessages}, ∅⟩, .mentionOnly, taggedBytes 3, .tagged 4, approvedAtMs, none⟩

/-- The grant of the sample installation as it is issued. -/
def issuedGrant : ConversationGrant :=
  ⟨.tagged 1, .tagged 5, .tagged 6, .tagged 2, ⟨{.sendMessages}, ∅⟩, .mentionOnly, taggedBytes 3,
    .initial, .tagged 4, 10, none, none, {.tagged 5}⟩

def secondVersion : Revision := Revision.initial.checkedNext.toOption.getD .initial

def thirdVersion : Revision := secondVersion.checkedNext.toOption.getD .initial

def revocation : GrantCall := ⟨sampleInstallation, .initial, .revoke 20⟩

def revokedGrant : ConversationGrant :=
  { issuedGrant with revokedAtMs := some 20, grantVersion := secondVersion }

def replacement : GrantCall :=
  ⟨sampleInstallation, secondVersion, .regrant (.tagged 7) (sampleFacts 30) .confirmed none⟩

def replacedGrant : ConversationGrant :=
  { issuedGrant with
    grantId := .tagged 7
    usedGrantIds := {.tagged 7, .tagged 5}
    approvedAtMs := 30
    grantVersion := thirdVersion }

/-- The sample grant is revoked and granted again; the version of the first grant authorizes
nothing any more. -/
theorem replacedGrant_fenced :
    revocation.Succeeds issuedGrant revokedGrant ∧
      replacement.Succeeds revokedGrant replacedGrant ∧
      tryFromSnapshot replacedGrant.snapshot = .ok replacedGrant ∧
      replacedGrant.authorizesVersionFor sampleInstallation 40 issuedGrant.grantVersion = false ∧
      replacedGrant.grantId ≠ issuedGrant.grantId := by
  have issued : Issued issuedGrant :=
    ⟨sampleInstallation, .tagged 5, .tagged 6, sampleFacts 10, none, by decide +kernel⟩
  have first : revocation.Succeeds issuedGrant revokedGrant := ⟨secondVersion, rfl⟩
  have second : replacement.Succeeds revokedGrant replacedGrant := ⟨thirdVersion, rfl⟩
  have start : Reached Issued GrantStep issuedGrant := .initial issued
  have middle : ReachedFrom issuedGrant GrantStep revokedGrant :=
    .next revocation (.initial rfl) rfl
  have later : ReachedFrom revokedGrant GrantStep replacedGrant :=
    .next replacement (.initial rfl) rfl
  have fenced := (conversation_grant_fenced start).1 revokedGrant replacedGrant replacedGrant
    replacement middle second (.initial rfl)
  exact ⟨first, second,
    (conversation_grant_fenced (start.extend (middle.extend later))).2.2.2,
    fenced.1 sampleInstallation 40, fenced.2 trivial⟩

end Sample

end Dirextalk.Registry
