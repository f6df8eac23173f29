import Dirextalk.Group.Validation
import Dirextalk.Membership.Types

/-!
# Errors of the group repositories

Why a transaction on the tables of a group is rolled back.
-/

namespace Dirextalk.Persistence

open Dirextalk.Group Lib Dirextalk.Membership

/-- Fail-closed errors of the durable group boundary. -/
inductive GroupPersistenceError where
  | groupNotFound
  | groupSnapshot (error : GroupPolicySnapshotError)
  | membershipCommand (error : MembershipCommandError)
  | groupPolicy (error : GroupPolicyError)
  | corruptData (label : String)
  | leaseLost
  | scopeMismatch
  | mlsCommitConflict
  | mlsAuthorizationRejected
  | staleMlsHead
  | mlsDeviceConfirmationRejected
  | deviceAuthenticationRejected
  | database
  deriving DecidableEq

open GroupPersistenceError

/-- `required_string`, `required_i64`: a column that the state of the row must fill. -/
def required {α : Type} (value : Option α) (label : String) : Except GroupPersistenceError α :=
  okOr value (corruptData label)

end Dirextalk.Persistence
