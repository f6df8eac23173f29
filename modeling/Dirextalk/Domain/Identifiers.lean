import Dirextalk.Lib.Bytes

/-!
# Domain identifiers

The typed identifiers of the domain: UUIDv7 values tagged by what they identify,
and public subject ids, the 32-byte digests of a subject's genesis key.  Both are
ordered by their bytes, which is the order of every map keyed by them.
-/

namespace Dirextalk.Domain

open Std Lib

/-- What a UUIDv7 identifies. -/
inductive UuidKind where
  | conversation
  | inviteCapability
  | joinRequest
  | device
  | request
  | tenant
  | event
  | aggregate
  | installation
  | connector
  | boot
  | lease
  | binding
  | approval
  | agentDevice
  | provisioningDelivery
  | provisioningRecipientKey
  | agentRouteBootstrap
  | agentRouteRecipient
  | agentRouteDelivery
  | routeHealthKey
  | run
  | runOffer
  | runLease
  | mailbox
  | envelope
  | deviceEnrollmentChallenge
  | grant
  | cloudConnection
  deriving DecidableEq, Repr

/-- A UUID of version 7 and the RFC variant. -/
structure UuidV7 (kind : UuidKind) where
  bytes : FixedBytes 16
  version_eq : bytes.toList[6]?.map (fun byte : UInt8 => byte >>> 4) = some 7
  variant_eq : bytes.toList[8]?.map (fun byte : UInt8 => byte >>> 6) = some 2
  deriving DecidableEq

instance {kind : UuidKind} : LawfulBEq (UuidV7 kind) := inferInstance

abbrev ConversationId := UuidV7 .conversation
abbrev InviteCapabilityId := UuidV7 .inviteCapability
abbrev JoinRequestId := UuidV7 .joinRequest
abbrev DeviceId := UuidV7 .device
abbrev RequestId := UuidV7 .request
abbrev TenantId := UuidV7 .tenant
abbrev EventId := UuidV7 .event
abbrev AggregateId := UuidV7 .aggregate
abbrev InstallationId := UuidV7 .installation
abbrev ConnectorId := UuidV7 .connector
abbrev BootId := UuidV7 .boot
abbrev LeaseId := UuidV7 .lease
abbrev BindingId := UuidV7 .binding
abbrev ApprovalId := UuidV7 .approval
abbrev AgentDeviceId := UuidV7 .agentDevice
abbrev ProvisioningDeliveryId := UuidV7 .provisioningDelivery
abbrev ProvisioningRecipientKeyId := UuidV7 .provisioningRecipientKey
abbrev AgentRouteBootstrapId := UuidV7 .agentRouteBootstrap
abbrev AgentRouteRecipientId := UuidV7 .agentRouteRecipient
abbrev AgentRouteDeliveryId := UuidV7 .agentRouteDelivery
abbrev RouteHealthKeyId := UuidV7 .routeHealthKey
abbrev RunId := UuidV7 .run
abbrev RunOfferId := UuidV7 .runOffer
abbrev RunLeaseId := UuidV7 .runLease
abbrev MailboxId := UuidV7 .mailbox
abbrev EnvelopeId := UuidV7 .envelope
abbrev DeviceEnrollmentChallengeId := UuidV7 .deviceEnrollmentChallenge
abbrev GrantId := UuidV7 .grant
abbrev CloudConnectionId := UuidV7 .cloudConnection

/-- Which subject a public id names. -/
inductive PublicIdKind where
  | identity
  | channel
  | agent
  deriving DecidableEq, Repr

/-- A stable public id: the domain-separated digest of the subject's key. -/
structure PublicId (kind : PublicIdKind) where
  digest : FixedBytes 32
  deriving DecidableEq

abbrev IdentityId := PublicId .identity
abbrev ChannelId := PublicId .channel
abbrev AgentId := PublicId .agent

instance {kind : UuidKind} : Ord (UuidV7 kind) :=
  ⟨fun left right => compare left.bytes right.bytes⟩

instance {kind : UuidKind} : TransOrd (UuidV7 kind) := transCmp_of_projection UuidV7.bytes

instance {kind : UuidKind} : LawfulEqOrd (UuidV7 kind) :=
  lawfulEqCmp_of_projection UuidV7.bytes fun left right same => by
    cases left
    cases right
    cases same
    rfl

instance {kind : PublicIdKind} : Ord (PublicId kind) :=
  ⟨fun left right => compare left.digest right.digest⟩

instance {kind : PublicIdKind} : TransOrd (PublicId kind) := transCmp_of_projection PublicId.digest

instance {kind : PublicIdKind} : LawfulEqOrd (PublicId kind) :=
  lawfulEqCmp_of_projection PublicId.digest fun left right same => by
    cases left
    cases right
    cases same
    rfl

/-! ## Identifiers for concrete runs -/

/-- The UUIDv7 with one chosen byte. -/
def UuidV7.tagged {kind : UuidKind} (tag : UInt8) : UuidV7 kind where
  bytes := ⟨[tag, 0, 0, 0, 0, 0, 0x70, 0, 0x80, 0, 0, 0, 0, 0, 0, 0], rfl⟩
  version_eq := rfl
  variant_eq := rfl

/-- 32 bytes that a tag starts. -/
def taggedBytes (tag : UInt8) : FixedBytes 32 := ⟨tag :: List.replicate 31 0, rfl⟩

/-- The public id with one chosen byte. -/
def PublicId.tagged {kind : PublicIdKind} (tag : UInt8) : PublicId kind :=
  ⟨taggedBytes tag⟩

/-! ## Aggregate revisions -/

/-- Monotonically increasing aggregate revision, `1..=2^53-1`. -/
structure Revision where
  value : Nat
  pos : 1 ≤ value
  le_max : value ≤ 2 ^ 53 - 1
  deriving DecidableEq

/-- Why there is no such revision. -/
inductive RevisionError where
  | outOfRange
  | overflow
  deriving DecidableEq, Repr

namespace Revision

/-- First persisted aggregate revision. -/
def initial : Revision := ⟨1, by decide, by decide⟩

/-- Validates a persisted revision. -/
def new (value : Nat) : Except RevisionError Revision :=
  if range : 1 ≤ value ∧ value ≤ 2 ^ 53 - 1 then .ok ⟨value, range.1, range.2⟩
  else .error .outOfRange

/-- Produces the next revision without wrapping. -/
def checkedNext (revision : Revision) : Except RevisionError Revision :=
  if room : revision.value + 1 ≤ 2 ^ 53 - 1 then
    .ok ⟨revision.value + 1, Nat.le_add_left 1 _, room⟩
  else .error .overflow

instance : LE Revision := ⟨fun left right => left.value ≤ right.value⟩
instance : LT Revision := ⟨fun left right => left.value < right.value⟩

instance (left right : Revision) : Decidable (left < right) :=
  inferInstanceAs (Decidable (left.value < right.value))

variable {left right : Revision}

theorem le_def : left ≤ right ↔ left.value ≤ right.value := Iff.rfl

theorem lt_def : left < right ↔ left.value < right.value := Iff.rfl

theorem not_lt : ¬left < right ↔ right ≤ left := Nat.not_lt

theorem le_refl (revision : Revision) : revision ≤ revision := Nat.le_refl _

theorem le_trans {first second third : Revision} (below : first ≤ second)
    (above : second ≤ third) : first ≤ third := Nat.le_trans below above

variable {revision : Revision}

theorem value_of_checkedNext {next : Revision} (advances : revision.checkedNext = .ok next) :
    next.value = revision.value + 1 := by
  unfold checkedNext at advances
  split at advances
  · cases advances
    rfl
  · cases advances

/-- Only the last revision has no next one. -/
theorem last_of_checkedNext {error : RevisionError}
    (refused : revision.checkedNext = .error error) : revision.value = 2 ^ 53 - 1 := by
  unfold checkedNext at refused
  split at refused
  case isTrue => cases refused
  case isFalse full =>
    have bounded := revision.le_max
    omega

theorem le_of_checkedNext {next : Revision} (advances : revision.checkedNext = .ok next) :
    revision ≤ next := by
  rw [le_def, value_of_checkedNext advances]
  exact Nat.le_succ _

theorem new_eq_ok {value : Nat} : new value = .ok revision ↔ revision.value = value := by
  unfold new
  split
  case isTrue range =>
    constructor
    · rintro ⟨⟩
      rfl
    · rintro rfl
      rfl
  case isFalse outside =>
    constructor
    · intro impossible
      cases impossible
    · rintro rfl
      exact absurd ⟨revision.pos, revision.le_max⟩ outside

end Revision

end Dirextalk.Domain
