import Dirextalk.Lib.History
import Dirextalk.Wire.Primitives

/-!
# Device leases

The lease row of one device, and the transactions that acquire it, extend it and hold it
over an operation.  Transactions interleave statement by statement under READ COMMITTED:
a statement sees the committed row and waits for the locks of others, and
`SELECT … FOR UPDATE` locks nothing while there is no row.  What keeps the first
acquisitions of a device apart is the lock of the identity, which every transaction takes
when it authenticates its session.
-/

namespace Dirextalk.Realtime

open Domain Lib Wire

def leaseTtlMillis : Int := 45000

/-- The largest integer of a `SafeUint` and of the `CHECK` of every counter column. -/
def maxSafeInteger : Nat := maxSafeUint.toNat

/-- Why a call fails. -/
inductive RealtimeSyncError where
  | database
  | unauthorized
  | staleLease
  | invalidCursor
  | corruptData
  deriving DecidableEq, Repr

open RealtimeSyncError

/-- A counter column as a `SafeUint`. -/
def safe (value : Nat) : Except RealtimeSyncError Nat :=
  if value ≤ maxSafeInteger then .ok value else .error corruptData

/-- A column of times as a `UtcMillis`. -/
def utcMillis (value : Int) : Except RealtimeSyncError Int :=
  if minUtcMillis.toInt ≤ value ∧ value ≤ maxUtcMillis.toInt then .ok value
  else .error corruptData

/-- A lease in the hands of a device. -/
structure Lease where
  identityId : IdentityId
  deviceId : DeviceId
  leaseId : FixedBytes 16
  fence : Nat
  journalFloor : Nat
  highwater : Nat
  expiresAt : Int
  deriving DecidableEq

/-- The row of one device in `realtime.device_leases`. -/
structure LeaseRow where
  leaseId : FixedBytes 16
  fence : Nat
  heartbeatAt : Int
  expiresAt : Int
  deriving DecidableEq

/-- What a lease is told apart by. -/
def Lease.key (lease : Lease) : FixedBytes 16 × Nat := (lease.leaseId, lease.fence)

def LeaseRow.key (row : LeaseRow) : FixedBytes 16 × Nat := (row.leaseId, row.fence)

/-! ## Statements -/

/-- What `acquire` reads from the head of the identity: the highwater and the floor. -/
def acquireHead (head : Option (Nat × Nat)) (requestedCursor : Nat) :
    Except RealtimeSyncError (Nat × Nat) := do
  let (nextCursor, journalFloor) ← okOr head unauthorized
  let highwater ← safe nextCursor
  let floor ← safe journalFloor
  rejectIf (highwater < requestedCursor) invalidCursor
  pure (highwater, floor)

/-- `previous_fence.checked_add(1)`. -/
def nextFence (previousFence : Nat) : Except RealtimeSyncError Nat :=
  if previousFence + 1 ≤ 9223372036854775807 then .ok (previousFence + 1) else .error corruptData

def leaseExpiry (now : Int) : Except RealtimeSyncError Int := utcMillis (now + leaseTtlMillis)

/-- A lease is used by the device it was given to. -/
def requireActor (identityId : IdentityId) (deviceId : DeviceId) (lease : Lease) :
    Except RealtimeSyncError Unit :=
  rejectIf (¬(identityId = lease.identityId ∧ deviceId = lease.deviceId)) unauthorized

/-- The condition on the row in a heartbeat and in `lock_current_lease`. -/
def LeaseRow.isCurrent (row : LeaseRow) (lease : Lease) (now : Int) : Prop :=
  row.leaseId = lease.leaseId ∧ row.fence = lease.fence ∧ now < row.expiresAt

theorem LeaseRow.isCurrent.key_eq {row : LeaseRow} {lease : Lease} {now : Int}
    (current : row.isCurrent lease now) : row.key = lease.key :=
  Prod.ext current.1 current.2.1

/-! ## Transactions -/

/-- The calls that need the lease row. -/
inductive LeaseCall where
  | acquire (requestedCursor : Nat) (now : Int)
  | heartbeat (lease : Lease) (now : Int)
  | beginLeaseOperation (lease : Lease) (now : Int)

/-- How far a transaction has come. -/
inductive Progress where
  | idle
  | begun (call : LeaseCall)
  | authenticated (call : LeaseCall)
  | headRead (now : Int) (highwater floor : Nat)
  | fenceRead (now : Int) (highwater floor previousFence : Nat)
  | acquiring (lease : Lease)
  | extending (lease : Lease)
  | operating (lease : Lease)
  | ended

/-- A call that has succeeded, with the lease that it returned or was made for. -/
inductive LeaseEvent where
  | acquired (lease : Lease)
  | extended (lease : Lease)
  | operated (lease : Lease)
  deriving DecidableEq

/-- The row of a device, its versions and its locks. -/
structure LeaseTable where
  row : Option LeaseRow
  /-- The row version of a transaction that has not yet committed. -/
  written : Option (Nat × LeaseRow)
  identityLock : Option Nat
  exclusive : Option Nat
  shared : List Nat
  progress : Nat → Progress
  /-- The calls that have succeeded, in the order of their commits. -/
  log : List LeaseEvent

namespace LeaseTable

/-- No other transaction holds the row in any mode. -/
def free (table : LeaseTable) (transaction : Nat) : Bool :=
  table.exclusive.all (· = transaction) && table.shared.all (· = transaction)

/-- Moves one transaction. -/
def advance (table : LeaseTable) (transaction : Nat) (progress : Progress) : LeaseTable :=
  { table with progress := Function.update table.progress transaction progress }

/-- The end of a transaction releases all that it holds. -/
def release (table : LeaseTable) (transaction : Nat) : LeaseTable :=
  { table.advance transaction .ended with
    written := table.written.filter (·.1 ≠ transaction)
    identityLock := table.identityLock.filter (· ≠ transaction)
    exclusive := table.exclusive.filter (· ≠ transaction)
    shared := table.shared.filter (· ≠ transaction) }

end LeaseTable

/-- One statement of a transaction of the device.  A statement that has to wait is not taken,
and every failure ends in a rollback. -/
inductive LeaseStep (identityId : IdentityId) (deviceId : DeviceId) :
    LeaseTable → Nat → LeaseTable → Prop
  | begins {table transaction} (call : LeaseCall) (idle : table.progress transaction = .idle) :
      LeaseStep identityId deviceId table transaction (table.advance transaction (.begun call))
  | authenticates {table transaction call} (begun : table.progress transaction = .begun call)
      (unlocked : table.identityLock = none) :
      LeaseStep identityId deviceId table transaction
        { table.advance transaction (.authenticated call) with identityLock := some transaction }
  | readsHead {table transaction requestedCursor now highwater floor} (head : Option (Nat × Nat))
      (authenticated : table.progress transaction = .authenticated (.acquire requestedCursor now))
      (read : acquireHead head requestedCursor = .ok (highwater, floor)) :
      LeaseStep identityId deviceId table transaction
        (table.advance transaction (.headRead now highwater floor))
  | findsNoRow {table transaction now highwater floor}
      (read : table.progress transaction = .headRead now highwater floor)
      (absent : table.row = none) :
      LeaseStep identityId deviceId table transaction
        (table.advance transaction (.fenceRead now highwater floor 0))
  | locksRow {table transaction now highwater floor row}
      (read : table.progress transaction = .headRead now highwater floor)
      (found : table.row = some row) (free : table.free transaction = true) :
      LeaseStep identityId deviceId table transaction
        { table.advance transaction (.fenceRead now highwater floor row.fence) with
          exclusive := some transaction }
  | upserts {table transaction now highwater floor previousFence fence expiresAt}
      (leaseId : FixedBytes 16)
      (read : table.progress transaction = .fenceRead now highwater floor previousFence)
      (follows : nextFence previousFence = .ok fence) (expires : leaseExpiry now = .ok expiresAt)
      (checked : fence ≤ maxSafeInteger) (free : table.free transaction = true) :
      LeaseStep identityId deviceId table transaction
        { table.advance transaction (.acquiring
            ⟨identityId, deviceId, leaseId, fence, floor, highwater, expiresAt⟩) with
          written := some (transaction, ⟨leaseId, fence, now, expiresAt⟩)
          exclusive := some transaction }
  | updates {table transaction lease now row expiresAt}
      (authenticated : table.progress transaction = .authenticated (.heartbeat lease now))
      (actor : requireActor identityId deviceId lease = .ok ())
      (expires : leaseExpiry now = .ok expiresAt) (found : table.row = some row)
      (current : row.isCurrent lease now) (free : table.free transaction = true) :
      LeaseStep identityId deviceId table transaction
        { table.advance transaction (.extending { lease with expiresAt }) with
          written := some (transaction, { row with heartbeatAt := now, expiresAt })
          exclusive := some transaction }
  | sharesRow {table transaction lease now row}
      (authenticated : table.progress transaction =
        .authenticated (.beginLeaseOperation lease now))
      (actor : requireActor identityId deviceId lease = .ok ()) (found : table.row = some row)
      (current : row.isCurrent lease now)
      (free : table.exclusive.all (· = transaction) = true) :
      LeaseStep identityId deviceId table transaction
        { table.advance transaction (.operating lease) with
          shared := transaction :: table.shared
          log := table.log ++ [.operated lease] }
  | commitsAcquire {table transaction lease row}
      (acquiring : table.progress transaction = .acquiring lease)
      (written : table.written = some (transaction, row)) :
      LeaseStep identityId deviceId table transaction
        { table.release transaction with
          row := some row
          log := table.log ++ [.acquired lease] }
  | commitsHeartbeat {table transaction lease row}
      (extending : table.progress transaction = .extending lease)
      (written : table.written = some (transaction, row)) :
      LeaseStep identityId deviceId table transaction
        { table.release transaction with
          row := some row
          log := table.log ++ [.extended lease] }
  | finishes {table transaction lease} (operating : table.progress transaction = .operating lease) :
      LeaseStep identityId deviceId table transaction (table.release transaction)
  | rollsBack {table transaction} (started : table.progress transaction ≠ .idle) :
      LeaseStep identityId deviceId table transaction (table.release transaction)

/-! ## Logs -/

/-- The lease of the row after the calls that have succeeded. -/
def currentKey (start : Option (FixedBytes 16 × Nat)) (log : List LeaseEvent) :
    Option (FixedBytes 16 × Nat) :=
  log.foldl (fun key event =>
    match event with
    | .acquired lease => some lease.key
    | .extended _ | .operated _ => key) start

/-- The fence of a row, zero for no row. -/
def fenceOf (key : Option (FixedBytes 16 × Nat)) : Nat := (key.map (·.2)).getD 0

/-- A call that succeeds while the row holds a lease. -/
def LeaseEvent.Follows (key : Option (FixedBytes 16 × Nat)) : LeaseEvent → Prop
  | .acquired lease => lease.fence = fenceOf key + 1
  | .extended lease | .operated lease => key = some lease.key

/-- The lease that a call has acquired. -/
def LeaseEvent.acquired? : LeaseEvent → Option Lease
  | .acquired lease => some lease
  | .extended _ | .operated _ => none

/-- The logs in which every call follows those before it. -/
inductive Recorded (start : Option (FixedBytes 16 × Nat)) : List LeaseEvent → Prop
  | nil : Recorded start []
  | concat {log : List LeaseEvent} {event : LeaseEvent} (before : Recorded start log)
      (follows : event.Follows (currentKey start log)) : Recorded start (log ++ [event])

section Logs

variable {start : Option (FixedBytes 16 × Nat)} {log : List LeaseEvent}

@[simp] theorem currentKey_concat (event : LeaseEvent) :
    currentKey start (log ++ [event]) =
      match event with
      | .acquired lease => some lease.key
      | .extended _ | .operated _ => currentKey start log :=
  List.foldl_concat ..

/-- Every call of a log follows the calls before it. -/
theorem Recorded.follows_of_split (recorded : Recorded start log) {before after : List LeaseEvent}
    {event : LeaseEvent} (split : log = before ++ event :: after) :
    event.Follows (currentKey start before) := by
  induction recorded generalizing after with
  | nil => cases List.append_ne_nil_of_right_ne_nil before (List.cons_ne_nil event after) split.symm
  | @concat earlier last _ follows ih =>
    cases after using List.reverseRecOn with
    | nil =>
      obtain ⟨rfl, same⟩ := List.append_inj' split rfl
      cases same
      exact follows
    | append_singleton after final =>
      rw [← List.cons_append, ← List.append_assoc] at split
      exact ih (List.append_inj_left' split rfl)

/-- No lease was acquired with a fence beyond that of the row. -/
theorem Recorded.fence_le (recorded : Recorded start log) {lease : Lease}
    (listed : lease ∈ log.filterMap LeaseEvent.acquired?) :
    lease.fence ≤ fenceOf (currentKey start log) := by
  induction recorded with
  | nil => cases listed
  | @concat earlier last _ follows ih =>
    rw [List.filterMap_append, List.mem_append] at listed
    rw [currentKey_concat]
    cases last with
    | acquired newest =>
      apply listed.elim
      · intro older
        exact (ih older).trans ((Nat.le_succ _).trans (Nat.le_of_eq follows.symm))
      · intro new
        cases List.mem_singleton.mp new
        exact Nat.le_refl _
    | extended | operated =>
      apply listed.elim ih
      intro impossible
      cases impossible

/-- The fences of the acquired leases strictly increase. -/
theorem Recorded.fences_ascend (recorded : Recorded start log) :
    (log.filterMap LeaseEvent.acquired?).Pairwise fun earlier later =>
      earlier.fence < later.fence := by
  induction recorded with
  | nil => exact .nil
  | @concat earlier last before follows ih =>
    rw [List.filterMap_append]
    cases last with
    | acquired newest =>
      refine List.pairwise_append.mpr ⟨ih, List.pairwise_singleton .., ?_⟩
      intro older listed newer new
      cases List.mem_singleton.mp new
      exact (Nat.lt_succ_of_le (before.fence_le listed)).trans_eq follows.symm
    | extended | operated => exact (List.append_nil _).symm ▸ ih

end Logs

/-! ## Serial transactions -/

namespace Progress

/-- A transaction that has authenticated and has not ended. -/
def Inside : Progress → Prop
  | idle | begun _ | ended => False
  | _ => True

/-- What a transaction has read is still so. -/
def Agrees (key : Option (FixedBytes 16 × Nat)) : Progress → Prop
  | fenceRead _ _ _ previousFence => previousFence = fenceOf key
  | acquiring lease => lease.fence = fenceOf key + 1
  | extending lease | operating lease => key = some lease.key
  | _ => True

/-- A transaction that has written a row. -/
def Writes (row : LeaseRow) : Progress → Prop
  | acquiring lease | extending lease => row.key = lease.key
  | _ => False

variable {progress : Progress}

theorem agrees_of_not_inside (outside : ¬progress.Inside) (key : Option (FixedBytes 16 × Nat)) :
    progress.Agrees key := by
  cases progress with
  | idle | begun | ended => trivial
  | _ => exact (outside trivial).elim

theorem Writes.inside {row : LeaseRow} (writes : progress.Writes row) : progress.Inside := by
  cases progress with
  | acquiring | extending => trivial
  | _ => cases writes

end Progress

/-- The states of a table whose transactions run one after the other from their authentication
to their end. -/
structure Serial (start : Option (FixedBytes 16 × Nat)) (table : LeaseTable) : Prop where
  inside : ∀ transaction, (table.progress transaction).Inside →
    table.identityLock = some transaction
  agrees : ∀ transaction, (table.progress transaction).Agrees (table.row.map LeaseRow.key)
  writes : ∀ transaction row, table.written = some (transaction, row) →
    (table.progress transaction).Writes row
  recorded : Recorded start table.log
  current : table.row.map LeaseRow.key = currentKey start table.log

namespace Serial

variable {start : Option (FixedBytes 16 × Nat)} {table : LeaseTable} {transaction : Nat}

section

variable (serial : Serial start table)
include serial

/-- Only one transaction is inside at a time. -/
theorem alone (inside : (table.progress transaction).Inside) {other : Nat}
    (differs : other ≠ transaction) : ¬(table.progress other).Inside := by
  intro enters
  exact differs (Option.some.inj ((serial.inside other enters).symm.trans
    (serial.inside transaction inside)))

/-- A statement of one transaction: what it must see to for itself, and what it leaves to the
others. -/
theorem moves {after : LeaseTable} {progress : Progress}
    (moved : after.progress = Function.update table.progress transaction progress)
    (inside : progress.Inside → after.identityLock = some transaction)
    (keeps : ∀ other ≠ transaction, table.identityLock = some other →
      after.identityLock = some other)
    (agrees : progress.Agrees (after.row.map LeaseRow.key))
    (unread : ∀ other ≠ transaction, (table.progress other).Inside → after.row = table.row)
    (writes : ∀ other row, after.written = some (other, row) →
      (other = transaction ∧ progress.Writes row) ∨
        other ≠ transaction ∧ table.written = some (other, row))
    (recorded : Recorded start after.log)
    (current : after.row.map LeaseRow.key = currentKey start after.log) : Serial start after where
  inside other := by
    rw [moved]
    by_cases same : other = transaction
    · rw [same, Function.update_self]
      exact inside
    · rw [Function.update_of_ne same]
      exact fun enters => keeps other same (serial.inside other enters)
  agrees other := by
    rw [moved]
    by_cases same : other = transaction
    · rw [same, Function.update_self]
      exact agrees
    · rw [Function.update_of_ne same]
      by_cases enters : (table.progress other).Inside
      · rw [unread other same enters]
        exact serial.agrees other
      · exact Progress.agrees_of_not_inside enters _
  writes other row written := by
    rw [moved]
    apply (writes other row written).elim
    · intro ⟨same, version⟩
      rw [same, Function.update_self]
      exact version
    · intro ⟨differs, before⟩
      rw [Function.update_of_ne differs]
      exact serial.writes other row before
  recorded := recorded
  current := current

/-- A statement that only reads, of a transaction that has not written. -/
theorem reads {earlier progress : Progress} (before : table.progress transaction = earlier)
    (unwritten : ∀ row, ¬earlier.Writes row)
    (inside : progress.Inside → table.identityLock = some transaction)
    (agrees : progress.Agrees (table.row.map LeaseRow.key)) :
    Serial start (table.advance transaction progress) := by
  refine serial.moves rfl inside (fun _ _ kept => kept) agrees (fun _ _ _ => rfl) ?_
    serial.recorded serial.current
  intro other row written
  refine .inr ⟨?_, written⟩
  intro same
  have writes := serial.writes other row written
  rw [same, before] at writes
  exact unwritten row writes

/-- The locks of the row play no part. -/
theorem relock (exclusive : Option Nat) (shared : List Nat) :
    Serial start { table with exclusive, shared } :=
  ⟨serial.inside, serial.agrees, serial.writes, serial.recorded, serial.current⟩

/-- The transaction inside writes a row. -/
theorem stores {progress : Progress} {row : LeaseRow} (inside : (table.progress transaction).Inside)
    (agrees : progress.Agrees (table.row.map LeaseRow.key)) (writes : progress.Writes row) :
    Serial start { table.advance transaction progress with
      written := some (transaction, row)
      exclusive := some transaction } := by
  refine serial.moves rfl (fun _ => serial.inside transaction inside) (fun _ _ kept => kept) agrees
    (fun _ _ _ => rfl) ?_ serial.recorded serial.current
  intro other version written
  cases written
  exact .inl ⟨rfl, writes⟩

/-- A transaction ends without a change of the row. -/
theorem ends : Serial start (table.release transaction) := by
  refine serial.moves rfl False.elim ?_ trivial (fun _ _ _ => rfl) ?_
    serial.recorded serial.current
  · intro other differs held
    exact Option.filter_eq_some_iff.mpr ⟨held, decide_eq_true differs⟩
  · intro other row written
    obtain ⟨before, differs⟩ := Option.filter_eq_some_iff.mp written
    exact .inr ⟨of_decide_eq_true differs, before⟩

/-- The transaction inside commits the row that it has written. -/
theorem commits {event : LeaseEvent} {row : LeaseRow}
    (written : table.written = some (transaction, row))
    (follows : event.Follows (table.row.map LeaseRow.key))
    (current : some row.key = currentKey start (table.log ++ [event])) :
    Serial start { table.release transaction with
      row := some row
      log := table.log ++ [event] } := by
  have inside := (serial.writes transaction row written).inside
  refine serial.moves rfl False.elim ?_ trivial ?_ ?_
    (serial.recorded.concat (serial.current ▸ follows)) current
  · intro other differs held
    exact Option.filter_eq_some_iff.mpr ⟨held, decide_eq_true differs⟩
  · intro other differs enters
    exact (serial.alone inside differs enters).elim
  · intro other version stays
    obtain ⟨before, differs⟩ := Option.filter_eq_some_iff.mp stays
    exact .inr ⟨of_decide_eq_true differs, before⟩

end

end Serial

variable {identityId : IdentityId} {deviceId : DeviceId} {table after : LeaseTable}
variable {transaction : Nat} {start : Option (FixedBytes 16 × Nat)}

theorem fence_of_nextFence {previousFence fence : Nat}
    (follows : nextFence previousFence = .ok fence) : fence = previousFence + 1 := by
  unfold nextFence at follows
  split at follows
  case isTrue => exact (Except.ok.inj follows).symm
  case isFalse => cases follows

/-- Every statement keeps the transactions in order. -/
theorem Serial.step (serial : Serial start table)
    (step : LeaseStep identityId deviceId table transaction after) : Serial start after := by
  have holds {progress : Progress} (here : table.progress transaction = progress)
      (inside : progress.Inside) : table.identityLock = some transaction :=
    serial.inside transaction (here ▸ inside)
  have agrees {progress : Progress} (here : table.progress transaction = progress) :
      progress.Agrees (table.row.map LeaseRow.key) :=
    here ▸ serial.agrees transaction
  cases step with
  | begins call idle => exact serial.reads idle (fun _ => id) False.elim trivial
  | authenticates begun unlocked =>
    refine serial.moves rfl (fun _ => rfl) ?_ trivial (fun _ _ _ => rfl) ?_
      serial.recorded serial.current
    · intro other _ held
      rw [unlocked] at held
      cases held
    · intro other row written
      refine .inr ⟨?_, written⟩
      intro same
      have writes := serial.writes other row written
      rw [same, begun] at writes
      exact writes
  | readsHead head authenticated read =>
    exact serial.reads authenticated (fun _ => id) (fun _ => holds authenticated trivial) trivial
  | findsNoRow read absent =>
    refine serial.reads read (fun _ => id) (fun _ => holds read trivial) ?_
    rw [absent]
    rfl
  | locksRow read found free =>
    refine (serial.reads read (fun _ => id) (fun _ => holds read trivial) ?_).relock _
      table.shared
    rw [found]
    rfl
  | upserts leaseId read follows expires checked free =>
    refine serial.stores (read ▸ trivial) ?_ rfl
    exact (fence_of_nextFence follows).trans (congrArg (· + 1) (agrees read))
  | updates authenticated actor expires found current free =>
    refine serial.stores (authenticated ▸ trivial) ?_ current.key_eq
    rw [found]
    exact congrArg some current.key_eq
  | @sharesRow lease _ _ authenticated actor found current free =>
    have holding : table.row.map LeaseRow.key = some lease.key :=
      (congrArg (Option.map LeaseRow.key) found).trans (congrArg some current.key_eq)
    have moved : Serial start (table.advance transaction (.operating lease)) :=
      serial.reads authenticated (fun _ => id) (fun _ => holds authenticated trivial) holding
    exact ⟨moved.inside, moved.agrees, moved.writes,
      serial.recorded.concat (serial.current.symm.trans holding),
      serial.current.trans (currentKey_concat (.operated lease)).symm⟩
  | commitsAcquire acquiring written =>
    have writes := serial.writes _ _ written
    rw [acquiring] at writes
    refine serial.commits written (agrees acquiring) ?_
    rw [currentKey_concat]
    exact congrArg some writes
  | commitsHeartbeat extending written =>
    have writes := serial.writes _ _ written
    rw [extending] at writes
    have held := agrees extending
    refine serial.commits written held ?_
    rw [currentKey_concat, ← serial.current, held]
    exact congrArg some writes
  | finishes operating => exact serial.ends
  | rollsBack started => exact serial.ends

/-- A table at the start: the row of an earlier lease or none, and no transaction. -/
def LeaseTable.initial (row : Option LeaseRow) : LeaseTable :=
  ⟨row, none, none, none, [], fun _ => .idle, []⟩

theorem serial_of_reached {row : Option LeaseRow}
    (reached : ReachedFrom (LeaseTable.initial row) (LeaseStep identityId deviceId) table) :
    Serial (row.map LeaseRow.key) table := by
  apply reached.invariant
  · intro state same
    subst same
    refine ⟨fun _ => False.elim, fun _ => trivial, ?_, Recorded.nil, rfl⟩
    intro _ _ impossible
    cases impossible
  · intro state transaction after serial step
    exact serial.step step

/-- In every interleaving, each successful call follows the calls that committed before it: an
acquisition takes the next fence, so that fences strictly increase, and a heartbeat or an
operation is for the lease that was committed last, which an open operation still holds. -/
theorem lease_fences_serial {row : Option LeaseRow}
    (reached : ReachedFrom (LeaseTable.initial row) (LeaseStep identityId deviceId) table) :
    ((table.log.filterMap LeaseEvent.acquired?).Pairwise fun earlier later =>
        earlier.fence < later.fence) ∧
      (∀ before event later, table.log = before ++ event :: later →
        event.Follows (currentKey (row.map LeaseRow.key) before)) ∧
      table.row.map LeaseRow.key = currentKey (row.map LeaseRow.key) table.log ∧
      ∀ transaction lease, table.progress transaction = .operating lease →
        table.row.map LeaseRow.key = some lease.key := by
  have serial := serial_of_reached reached
  refine ⟨serial.recorded.fences_ascend, ?_, serial.current, ?_⟩
  · intro before event later split
    exact serial.recorded.follows_of_split split
  · intro transaction lease operating
    have agrees := serial.agrees transaction
    rw [operating] at agrees
    exact agrees

section Sample

def sampleIdentityId : IdentityId := .tagged 1

def sampleDeviceId : DeviceId := .tagged 1

def sampleLeaseId (tag : UInt8) : FixedBytes 16 := (UuidV7.tagged tag : LeaseId).bytes

/-- A lease that the sample device acquires at the start of the epoch. -/
def sampleLease (tag : UInt8) (fence : Nat) : Lease :=
  ⟨sampleIdentityId, sampleDeviceId, sampleLeaseId tag, fence, 1, 0, 45000⟩

/-- Two first acquisitions of a device begin at once, and the second waits for the first. -/
theorem first_acquisitions_serial :
    ∃ table : LeaseTable,
      table.log = [.acquired (sampleLease 1 1), .acquired (sampleLease 2 2)] ∧
        (table.log.filterMap LeaseEvent.acquired?).Pairwise fun earlier later =>
          earlier.fence < later.fence := by
  have start : ReachedFrom (.initial none) (LeaseStep sampleIdentityId sampleDeviceId) _ :=
    .initial rfl
  have both := start.next 1 (.begins (.acquire 0 0) rfl) |>.next 2 (.begins (.acquire 0 0) rfl)
  have first := both.next 1 (.authenticates rfl rfl) |>.next 1 (.readsHead (some (0, 1)) rfl rfl)
    |>.next 1 (.findsNoRow rfl rfl)
    |>.next 1 (.upserts (sampleLeaseId 1) rfl rfl rfl (by decide) rfl)
    |>.next 1 (.commitsAcquire rfl rfl)
  have second := first.next 2 (.authenticates rfl rfl)
    |>.next 2 (.readsHead (some (0, 1)) rfl rfl) |>.next 2 (.locksRow rfl rfl rfl)
    |>.next 2 (.upserts (sampleLeaseId 2) rfl rfl rfl (by decide) rfl)
    |>.next 2 (.commitsAcquire rfl rfl)
  refine ⟨_, ?_, (lease_fences_serial second).1⟩
  rfl

end Sample

end Dirextalk.Realtime
