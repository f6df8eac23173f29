import Dirextalk.Domain.Identifiers
import Dirextalk.Lib.CheckedInt
import Dirextalk.Lib.Fallible

/-!
# Connector records

The states and counters of a connector that commands and runs refer to, and the fence of
its lease.  The generation and the lease epoch cannot be built outside their range.
-/

namespace Dirextalk.Connect

open Domain

/-- The state that the owner asks for. -/
inductive ConnectorDesiredState where
  | running
  | draining
  | stopped
  | revoked
  deriving DecidableEq, Repr

/-- Routing policy shared by the bindings of one installation. -/
inductive RoutingPolicy where
  | exclusive
  | orderedFailover
  deriving DecidableEq, Repr

/-! ## Counters -/

/-- Positive generation, fenced across credential and specification replacement. -/
structure ConnectorGeneration where
  value : Nat
  inRange : 1 ≤ value ∧ value ≤ 2 ^ 53 - 1
  deriving DecidableEq

namespace ConnectorGeneration

def initial : ConnectorGeneration := ⟨1, by decide⟩

end ConnectorGeneration

/-- Positive fencing epoch of a lease. -/
structure LeaseEpoch where
  value : Nat
  inRange : 1 ≤ value ∧ value ≤ 2 ^ 53 - 1
  deriving DecidableEq

/-! ## Leases -/

/-- The coordinates that every connector mutation echoes. -/
structure ConnectorFence where
  tenantId : TenantId
  connectorId : ConnectorId
  generation : ConnectorGeneration
  bootId : BootId
  leaseId : LeaseId
  leaseEpoch : LeaseEpoch
  deriving DecidableEq

end Dirextalk.Connect
