import Dirextalk.Contact.Store

/-!
# What a contact transaction can do

A call comes with what it reads of the directory and with its clock.  `Change` lists
what a successful call may have done to the tables; every statement about runs is
derived from it.
-/

namespace Dirextalk.Contact

open Domain Identity Lib Wire

/-! ## Calls -/

/-- What the requesters and the owner's devices ask of the store. -/
inductive ContactCall where
  | createInvite (idempotency : FixedBytes 32) (invite : ContactInviteV1) (exact : List UInt8)
      (secret : FixedBytes 32)
  | revokeInvite (idempotency : FixedBytes 32) (inviteId : InviteCapabilityId)
  | submitRequest (request : ContactRequestV1) (exact : List UInt8) (inviteSecret : FixedBytes 32)
  | pending
  | review (idempotency : FixedBytes 32) (review : ContactReviewV1) (exact : List UInt8)
  | receipt (requestId : RequestId) (receiptSecret : FixedBytes 32)

/-- What a call that succeeds returns. -/
inductive ContactAnswer where
  | invite (receipt : List UInt8)
  | records (records : List ContactRequestRecord)
  | receipt (receipt : StoredContactReceipt)
  deriving DecidableEq

/-- A call with the directory and the clock that it sees. -/
structure ContactLabel where
  call : ContactCall
  view : DirectoryView
  now : UtcMillis

section Calls

variable [Ed25519] [Sha256] [PermissiveEd25519]

/-- The message of a call is the decoded form of its exact bytes. -/
def ContactCall.Decoded : ContactCall → Prop
  | .createInvite _ invite exact _ => ContactInviteV1.decode exact = .ok invite
  | .submitRequest request exact _ => ContactRequestV1.decode exact = .ok request
  | .review _ message exact => ContactReviewV1.decode exact = .ok message
  | _ => True

/-- One call on the store, with its answer. -/
def ContactStore.perform (store : ContactStore) (label : ContactLabel) :
    Except ContactStoreError (ContactAnswer × ContactStore) :=
  match label.call with
  | .createInvite idempotency invite exact secret =>
      (store.createInvite label.view idempotency invite exact secret label.now).map fun done =>
        (.invite done.1, done.2)
  | .revokeInvite idempotency inviteId =>
      (store.revokeInvite label.view idempotency inviteId label.now).map fun done =>
        (.invite done.1, done.2)
  | .submitRequest request exact inviteSecret =>
      (store.submitRequest label.view request exact inviteSecret label.now).map fun done =>
        (.receipt done.1, done.2)
  | .pending =>
      (store.pending label.view label.now).map fun done => (.records done.1, done.2)
  | .review idempotency review exact =>
      (store.review label.view idempotency review exact label.now).map fun done =>
        (.receipt done.1, done.2)
  | .receipt requestId receiptSecret =>
      (store.receipt label.view requestId receiptSecret label.now).map fun done =>
        (.receipt done.1, done.2)

end Calls

/-! ## Requests that are settled -/

/-- A pending request may take its final state; nothing else about a request changes. -/
def SettledRow (row later : RequestRow) : Prop :=
  later = row ∨ row.state = .pending ∧ ∃ state ≠ .pending, later = { row with state }

theorem SettledRow.refl (row : RequestRow) : SettledRow row row := .inl rfl

theorem SettledRow.trans {row middle later : RequestRow} (first : SettledRow row middle)
    (second : SettledRow middle later) : SettledRow row later := by
  rcases first with rfl | ⟨pending, state, final, rfl⟩
  · exact second
  · rcases second with rfl | ⟨still, -⟩
    · exact .inr ⟨pending, state, final, rfl⟩
    · exact absurd still final

theorem SettledRow.eq_of_final {row later : RequestRow} (settled : SettledRow row later)
    (final : row.state ≠ .pending) : later = row :=
  settled.resolve_right fun open_ => final open_.1

theorem SettledRow.pending {row later : RequestRow} (settled : SettledRow row later)
    (pending : later.state = .pending) : later = row := by
  rcases settled with same | ⟨-, state, final, rfl⟩
  · exact same
  · exact absurd pending final

/-- A column other than the state. -/
theorem SettledRow.column {τ : Type} {row later : RequestRow} (settled : SettledRow row later)
    (column : RequestRow → τ)
    (independent : ∀ row state, column { row with state } = column row) :
    column later = column row := by
  rcases settled with rfl | ⟨-, state, -, rfl⟩
  · rfl
  · exact independent row state

/-- Row by row, pending requests may have been settled. -/
abbrev Settles (before after : List RequestRow) : Prop := List.Forall₂ SettledRow before after

theorem Settles.refl (rows : List RequestRow) : Settles rows rows :=
  List.forall₂_same.mpr fun row _ => .refl row

theorem Settles.trans {rows middle later : List RequestRow} (first : Settles rows middle)
    (second : Settles middle later) : Settles rows later := by
  induction first generalizing later with
  | nil => exact second
  | cons settled _ ih =>
    cases second with
    | cons again rest => exact .cons (settled.trans again) (ih rest)

variable {rows later : List RequestRow}

theorem Settles.map {τ : Type} (settles : Settles rows later) (column : RequestRow → τ)
    (independent : ∀ row state, column { row with state } = column row) :
    later.map column = rows.map column := by
  induction settles with
  | nil => rfl
  | cons settled _ ih =>
    rw [List.map_cons, List.map_cons, settled.column column independent, ih]

theorem Settles.exists_later (settles : Settles rows later) {row : RequestRow}
    (member : row ∈ rows) : ∃ found ∈ later, SettledRow row found := by
  induction settles with
  | nil => cases member
  | cons settled _ ih =>
    rcases List.mem_cons.mp member with rfl | rest
    · exact ⟨_, List.mem_cons_self, settled⟩
    · obtain ⟨found, listed, settled⟩ := ih rest
      exact ⟨found, List.mem_cons_of_mem _ listed, settled⟩

theorem Settles.exists_earlier (settles : Settles rows later) {found : RequestRow}
    (member : found ∈ later) : ∃ row ∈ rows, SettledRow row found := by
  induction settles with
  | nil => cases member
  | cons settled _ ih =>
    rcases List.mem_cons.mp member with rfl | rest
    · exact ⟨_, List.mem_cons_self, settled⟩
    · obtain ⟨row, listed, settled⟩ := ih rest
      exact ⟨row, List.mem_cons_of_mem _ listed, settled⟩

/-- Fewer requests are pending after some are settled. -/
theorem Settles.countP_pending_le (settles : Settles rows later) {counted : RequestRow → Bool}
    (open_ : ∀ row, counted row = true → row.state = .pending) :
    later.countP counted ≤ rows.countP counted := by
  induction settles with
  | nil => exact Nat.le_refl _
  | @cons row found rows later settled _ ih =>
    by_cases counts : counted found = true
    · obtain rfl := settled.pending (open_ found counts)
      rw [List.countP_cons_of_pos counts, List.countP_cons_of_pos counts]
      exact Nat.succ_le_succ ih
    · rw [List.countP_cons_of_neg counts]
      exact ih.trans (List.sublist_cons_self row rows).countP_le

namespace ContactStore

variable {store after : ContactStore}

theorem settles_settle (store : ContactStore) (selected : RequestRow → Prop)
    [DecidablePred selected] {state : RequestState} (final : state ≠ .pending) :
    Settles store.requests (store.settle selected state).requests :=
  forall₂_updateWhere SettledRow.refl fun _ _ hit => .inr ⟨hit.2, state, final, rfl⟩

/-! ## Single statements -/

variable {session : AuthenticatedDeviceSession} {now : UtcMillis}

theorem rate_eq_ok {action : OwnerAction} (done : store.rate session action now = .ok after) :
    ∃ rates, after = { store with rates } := by
  unfold rate at done
  dsimp only at done
  split at done
  · exact ⟨_, (Except.ok.inj done).symm⟩
  · split at done
    · exact ⟨_, (Except.ok.inj done).symm⟩
    · cases done

theorem ownerReplay_none {key : OwnerCommandKey} {requestDigest : Sha256Digest}
    (unanswered : rowAt OwnerCommandRow.key store.commands key = none) :
    store.ownerReplay key requestDigest = .ok none := by
  rw [ownerReplay, unanswered]

theorem ownerReplay_some {row : OwnerCommandRow}
    (answered : rowAt OwnerCommandRow.key store.commands row.key = some row) :
    store.ownerReplay row.key row.requestDigest = .ok (some row.receiptBytes) := by
  rw [ownerReplay, answered]
  exact if_neg (not_not.mpr rfl)

theorem insertOwnerCommand_eq_ok {row : OwnerCommandRow} :
    store.insertOwnerCommand row = .ok after ↔
      (row.receiptBytes ≠ [] ∧ row.receiptBytes.length ≤ 16384) ∧
        row.key ∉ store.commands.map OwnerCommandRow.key ∧
        { store with commands := store.commands ++ [row] } = after := by
  simp only [insertOwnerCommand, bind_eq_ok, rejectIf_eq_ok, not_or, Nat.not_lt, okOr_eq_ok,
    insertRow_eq_some, pure_eq_ok, exists_const, ne_eq]
  simp [and_assoc]

theorem insertInvite_eq_ok {row : InviteRow} (done : store.insertInvite row = .ok after) :
    row.inviteId ∉ store.invites.map InviteRow.inviteId ∧
      { store with invites := store.invites ++ [row] } = after := by
  simp only [insertInvite, bind_eq_ok, rejectIf_eq_ok, okOr_eq_ok, insertRow_eq_some, pure_eq_ok,
    exists_const] at done
  obtain ⟨-, invites, ⟨fresh, rfl⟩, same⟩ := done
  exact ⟨fresh, same⟩

theorem insertRequest_eq_ok {row : RequestRow} (done : store.insertRequest row = .ok after) :
    row.requestId ∉ store.requests.map RequestRow.requestId ∧
      { store with requests := store.requests ++ [row] } = after := by
  simp only [insertRequest, bind_eq_ok, rejectIf_eq_ok, okOr_eq_ok, insertRow_eq_some, pure_eq_ok,
    exists_const] at done
  obtain ⟨-, -, requests, ⟨fresh, rfl⟩, same⟩ := done
  exact ⟨fresh, same⟩

theorem insertReviewed_eq_ok {requestId : RequestId} {delivery : Option (List UInt8)} :
    store.insertReviewed requestId delivery = .ok after ↔
      (∀ content ∈ delivery, content ≠ [] ∧ content.length ≤ 262144) ∧
        (delivery.isSome → requestId ∉ store.outbox.map DeliveryRow.requestId) ∧
        { store with
          outbox := store.outbox ++ (delivery.map (DeliveryRow.mk requestId)).toList } =
          after := by
  cases delivery with
  | none => simp [insertReviewed]
  | some content =>
    simp only [insertReviewed, insertDelivery, bind_eq_ok, rejectIf_eq_ok, not_or, Nat.not_lt,
      okOr_eq_ok, insertRow_eq_some, pure_eq_ok, exists_const]
    simp [and_assoc]

/-- What a receipt shows of the request that it is about. -/
structure Shows (store : ContactStore) (receipt : StoredContactReceipt) : Prop where
  state : (store.requestAt receipt.requestId).map RequestRow.state = some receipt.state
  delivery : store.deliveryAt receipt.requestId = receipt.sealedDelivery

/-- Reading a receipt settles at most the request that is read. -/
theorem receiptInTx_eq_ok {requestId : RequestId} {deviceRevoked : Bool}
    {receipt : StoredContactReceipt}
    (done : store.receiptInTx requestId now deviceRevoked = .ok (receipt, after)) :
    (∃ requests, Settles store.requests requests ∧ after = { store with requests }) ∧
      receipt.requestId = requestId ∧ after.Shows receipt := by
  simp only [receiptInTx, bind_eq_ok, okOr_eq_ok, pure_eq_ok, Prod.mk.injEq] at done
  obtain ⟨row, found, exact, -, rfl, rfl⟩ := done
  refine ⟨?_, rfl, by simp [found], rfl⟩
  cases deviceRevoked with
  | true =>
    exact ⟨_, (settles_settle store _ (by decide)).trans (settles_settle _ _ (by decide)), rfl⟩
  | false => exact ⟨_, settles_settle store _ (by decide), rfl⟩

/-! ## Whole transactions -/

section Transactions

variable [Ed25519] [Sha256]

/-- What a review has checked before it decides a request. -/
structure Reviews (store : ContactStore) (label : ContactLabel) (message : ContactReviewV1)
    (session : AuthenticatedDeviceSession) (row : RequestRow) : Prop where
  authenticated : label.view.authenticateInTransaction = .ok session
  found : store.requestAt message.requestId = some row
  identity : row.targetIdentityId = session.identityId
  device : row.targetDeviceId = session.deviceId
  pending : row.state = .pending
  unexpired : millisOf label.now < row.expiresAt
  bound : message.verifyAad row.inviteId session.identityId session.deviceId = .ok ()

/-- What a submission has checked before it admits a new request. -/
structure Admits (store : ContactStore) (label : ContactLabel) (request : ContactRequestV1)
    (invite : InviteRow) : Prop where
  found : store.inviteAt request.inviteId = some invite
  fresh : request.requestId ∉ store.requests.map RequestRow.requestId
  active : label.view.Active invite.ownerIdentityId invite.ownerDeviceId
  standing : invite.revokedAt = none
  unexpired : millisOf label.now < millisOf invite.expiresAt
  unused : invite.useCount < invite.maxUses
  identity : invite.ownerIdentityId = request.targetIdentityId
  device : invite.ownerDeviceId = request.targetDeviceId
  few : store.pendingCount request.targetIdentityId request.targetDeviceId label.now <
    maxPendingPerDevice

/-- What a call may have done. -/
inductive Change (store : ContactStore) (label : ContactLabel) : ContactStore → Prop
  | settled {requests : List RequestRow} {rates : List RateRow}
      (settles : Settles store.requests requests) :
      Change store label { store with requests, rates }
  | created {invite : ContactInviteV1} {command : OwnerCommandRow} {rates : List RateRow}
      (fresh : invite.inviteId ∉ store.invites.map InviteRow.inviteId)
      (unanswered : command.key ∉ store.commands.map OwnerCommandRow.key) :
      Change store label { store with
        invites := store.invites ++ [newInvite invite label.now]
        commands := store.commands ++ [command]
        rates }
  | revoked {idempotency : FixedBytes 32} {inviteId : InviteCapabilityId} {revokedAt : Int}
      {command : OwnerCommandRow} {rates : List RateRow}
      (called : label.call = .revokeInvite idempotency inviteId)
      (unanswered : command.key ∉ store.commands.map OwnerCommandRow.key) :
      Change store label { store with
        invites := updateWhere (·.inviteId = inviteId)
          (fun row => { row with revokedAt := some revokedAt }) store.invites
        requests := (store.settle (·.inviteId = inviteId) .inviteRevoked).requests
        commands := store.commands ++ [command]
        rates }
  | admitted {request : ContactRequestV1} {exact : List UInt8} {inviteSecret : FixedBytes 32}
      {invite : InviteRow} {requests : List RequestRow}
      (called : label.call = .submitRequest request exact inviteSecret)
      (admits : store.Admits label request invite)
      (settles : Settles (store.requests ++
        [newRequest request (.hashDomain requestDigestDomain exact) invite label.now]) requests) :
      Change store label { store with
        invites := updateWhere (·.inviteId = request.inviteId)
          (fun row => { row with useCount := row.useCount + 1 }) store.invites
        requests }
  | reviewed {idempotency : FixedBytes 32} {message : ContactReviewV1} {exact : List UInt8}
      {session : AuthenticatedDeviceSession} {row : RequestRow} {requests : List RequestRow}
      {receipt : List UInt8} {rates : List RateRow}
      (called : label.call = .review idempotency message exact)
      (reviews : store.Reviews label message session row)
      (settles : Settles (store.settle (·.requestId = message.requestId)
        (reviewedState message.decision)).requests requests)
      (undelivered : message.sealedDelivery.isSome →
        message.requestId ∉ store.outbox.map DeliveryRow.requestId)
      (unanswered : commandKey session idempotency ∉ store.commands.map OwnerCommandRow.key) :
      Change store label { store with
        requests
        outbox := store.outbox ++
          (message.sealedDelivery.map (DeliveryRow.mk message.requestId)).toList
        commands := store.commands ++
          [⟨commandKey session idempotency, .hashDomain ownerCommandDomain exact, receipt⟩]
        rates }

variable {label : ContactLabel}

variable {idempotency : FixedBytes 32} {exact : List UInt8}

theorem change_of_createInvite [PermissiveEd25519] {invite : ContactInviteV1}
    {secret : FixedBytes 32} {answer : List UInt8}
    (done : store.createInvite label.view idempotency invite exact secret label.now =
      .ok (answer, after)) : store.Change label after := by
  simp only [createInvite, bind_eq_ok] at done
  obtain ⟨-, -, auth, -, -, -, -, -, replay, -, done⟩ := done
  cases replay with
  | some receipt =>
    cases done
    exact .settled (.refl _)
  | none =>
    simp only [bind_eq_ok, pure_eq_ok, Prod.mk.injEq] at done
    obtain ⟨limited, underLimit, receipt, -, inserted, insert, answered, answer, -, rfl⟩ := done
    obtain ⟨rates, rfl⟩ := rate_eq_ok underLimit
    obtain ⟨fresh, rfl⟩ := insertInvite_eq_ok insert
    obtain ⟨-, unanswered, rfl⟩ := insertOwnerCommand_eq_ok.mp answer
    exact .created fresh unanswered

theorem change_of_revokeInvite {inviteId : InviteCapabilityId} {answer : List UInt8}
    (called : label.call = .revokeInvite idempotency inviteId)
    (done : store.revokeInvite label.view idempotency inviteId label.now = .ok (answer, after)) :
    store.Change label after := by
  simp only [revokeInvite, bind_eq_ok] at done
  obtain ⟨session, -, replay, -, done⟩ := done
  cases replay with
  | some receipt =>
    cases done
    exact .settled (.refl _)
  | none =>
    simp only [bind_eq_ok, pure_eq_ok, Prod.mk.injEq] at done
    obtain ⟨limited, underLimit, row, -, -, -, -, -, receipt, -, answered, answer, -, rfl⟩ := done
    obtain ⟨rates, rfl⟩ := rate_eq_ok underLimit
    obtain ⟨-, unanswered, rfl⟩ := insertOwnerCommand_eq_ok.mp answer
    exact .revoked called unanswered

variable {receipt : StoredContactReceipt}

theorem change_of_receiptInTx {requestId : RequestId} {now : UtcMillis} {deviceRevoked : Bool}
    (done : store.receiptInTx requestId now deviceRevoked = .ok (receipt, after)) :
    store.Change label after ∧ after.Shows receipt := by
  obtain ⟨⟨requests, settles, rfl⟩, -, shows⟩ := receiptInTx_eq_ok done
  exact ⟨.settled settles, shows⟩

/-- A request that is stored is only read when it is submitted again. -/
theorem resubmitRequest_eq_ok {request : ContactRequestV1} {inviteSecret : FixedBytes 32}
    {row : RequestRow} (stored : store.requestAt request.requestId = some row)
    (done : store.submitRequest label.view request exact inviteSecret label.now =
      .ok (receipt, after)) :
    (∃ requests, Settles store.requests requests ∧ after = { store with requests }) ∧
      receipt.requestId = request.requestId ∧ after.Shows receipt := by
  simp only [submitRequest, stored, bind_eq_ok] at done
  obtain ⟨invite, -, -, -, -, -, revoked, -, read⟩ := done
  exact receiptInTx_eq_ok read

theorem change_of_submitRequest {request : ContactRequestV1} {inviteSecret : FixedBytes 32}
    (called : label.call = .submitRequest request exact inviteSecret)
    (done : store.submitRequest label.view request exact inviteSecret label.now =
      .ok (receipt, after)) :
    store.Change label after ∧ receipt.requestId = request.requestId ∧ after.Shows receipt := by
  cases existing : store.requestAt request.requestId with
  | some row =>
    obtain ⟨⟨requests, settles, rfl⟩, shows⟩ := resubmitRequest_eq_ok existing done
    exact ⟨.settled settles, shows⟩
  | none =>
    simp only [submitRequest, existing, bind_eq_ok, okOr_eq_ok, mapError_eq_ok, rejectIf_eq_ok,
      not_or, not_not, ne_eq, Bool.not_eq_true, Option.isSome_eq_false_iff,
      Option.isNone_iff_eq_none, Int.not_le, Nat.not_le] at done
    obtain ⟨invite, found, -, -, key, active, -, standing, -, unexpired, -, unused, -,
      ⟨identity, device⟩, -, few, inserted, insert, read⟩ := done
    obtain ⟨fresh, rfl⟩ := insertRequest_eq_ok insert
    obtain ⟨⟨requests, settles, rfl⟩, shows⟩ := receiptInTx_eq_ok read
    have admits : store.Admits label request invite :=
      ⟨found, fresh, DirectoryView.active_of_key active, standing, unexpired, unused, identity,
        device, few⟩
    exact ⟨.admitted called admits settles, shows⟩

theorem change_of_pending {records : List ContactRequestRecord}
    (done : store.pending label.view label.now = .ok (records, after)) :
    store.Change label after := by
  simp only [pending, bind_eq_ok, pure_eq_ok, Prod.mk.injEq] at done
  obtain ⟨session, -, records, -, -, rfl⟩ := done
  exact .settled (settles_settle store _ (by decide))

theorem change_of_review {message : ContactReviewV1}
    (called : label.call = .review idempotency message exact)
    (done : store.review label.view idempotency message exact label.now = .ok (receipt, after)) :
    store.Change label after ∧ after.Shows receipt := by
  simp only [review, bind_eq_ok, mapError_eq_ok] at done
  obtain ⟨session, authenticated, replay, -, done⟩ := done
  cases replay with
  | some receipt => exact change_of_receiptInTx done
  | none =>
    simp only [bind_eq_ok, okOr_eq_ok, mapError_eq_ok, rejectIf_eq_ok, not_or, not_not, ne_eq,
      Int.not_le, pure_eq_ok, Prod.mk.injEq, Prod.exists] at done
    obtain ⟨limited, underLimit, row, found, -, ⟨identity, device⟩, -, pending, -, unexpired,
      ⟨⟩, bound, delivered, deliver, receipt, read, receipted, answered, answer, rfl, rfl⟩ := done
    obtain ⟨rates, rfl⟩ := rate_eq_ok underLimit
    obtain ⟨-, undelivered, rfl⟩ := insertReviewed_eq_ok.mp deliver
    obtain ⟨⟨requests, settles, rfl⟩, -, shows⟩ := receiptInTx_eq_ok receipted
    obtain ⟨-, unanswered, rfl⟩ := insertOwnerCommand_eq_ok.mp answer
    have reviews : store.Reviews label message session row :=
      ⟨authenticated, found, identity, device, pending, unexpired, bound⟩
    exact ⟨.reviewed called reviews settles undelivered unanswered, shows.state, shows.delivery⟩

theorem change_of_receipt {requestId : RequestId} {receiptSecret : FixedBytes 32}
    (done : store.receipt label.view requestId receiptSecret label.now = .ok (receipt, after)) :
    store.Change label after ∧ after.Shows receipt := by
  simp only [ContactStore.receipt, bind_eq_ok] at done
  obtain ⟨row, -, -, -, done⟩ := done
  split at done
  · obtain ⟨revoked, -, read⟩ := bind_eq_ok.mp done
    exact change_of_receiptInTx read
  · exact change_of_receiptInTx done

/-- Every successful call makes one of the changes, and its receipt shows the tables after it. -/
theorem change_of_perform [PermissiveEd25519] {answer : ContactAnswer}
    (done : store.perform label = .ok (answer, after)) :
    store.Change label after ∧ ∀ receipt, answer = .receipt receipt → after.Shows receipt := by
  cases called : label.call
  all_goals
    simp only [perform, called, map_eq_ok, Prod.mk.injEq] at done
    obtain ⟨⟨_, _⟩, done, rfl, rfl⟩ := done
  case createInvite => exact ⟨change_of_createInvite done, fun _ same => by cases same⟩
  case revokeInvite => exact ⟨change_of_revokeInvite called done, fun _ same => by cases same⟩
  case submitRequest =>
    obtain ⟨change, -, shows⟩ := change_of_submitRequest called done
    exact ⟨change, fun _ same => ContactAnswer.receipt.inj same ▸ shows⟩
  case pending => exact ⟨change_of_pending done, fun _ same => by cases same⟩
  case review =>
    obtain ⟨change, shows⟩ := change_of_review called done
    exact ⟨change, fun _ same => ContactAnswer.receipt.inj same ▸ shows⟩
  case receipt =>
    obtain ⟨change, shows⟩ := change_of_receipt done
    exact ⟨change, fun _ same => ContactAnswer.receipt.inj same ▸ shows⟩

end Transactions

end ContactStore

end Dirextalk.Contact
