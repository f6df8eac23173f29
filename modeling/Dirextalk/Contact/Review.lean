import Dirextalk.Contact.Disclosure

/-!
# Which reviews can be stored

The receipt of a review repeats its sealed delivery, and is stored with the owner's
command in a column of at most 16384 bytes.  A review is therefore stored exactly if its
delivery has at most 16336 bytes, far less than the codec and the outbox allow.  Once it
is stored, every later receipt and every retry returns it.
-/

namespace Dirextalk.Contact

open Domain Identity Lib Wire

/-- The receipt of a request in a state, with its delivery. -/
def receiptOf (requestId : RequestId) (state : RequestState) (delivery : Option (List UInt8)) :
    StoredContactReceipt :=
  ⟨requestId, state, delivery, wire (contactReceiptValue requestId state delivery)⟩

/-- A delivery fits into the stored receipt up to 16336 bytes. -/
theorem receipt_fits_iff {delivery : Option (List UInt8)}
    (small : ∀ content ∈ delivery, content.length ≤ maxSealedContactDeliveryBytes)
    (requestId : RequestId) (state : RequestState) :
    (receiptOf requestId state delivery).exactBytes.length ≤ 16384 ↔
      ∀ content ∈ delivery, content.length ≤ 16336 := by
  rw [receiptOf, length_contactReceiptValue small]
  cases delivery with
  | none => simp [deliverySize]
  | some content =>
    simp only [deliverySize, Option.mem_def, Option.some.injEq, forall_eq', headSize]
    split_ifs <;> omega

theorem receiptOf_ne_nil {delivery : Option (List UInt8)}
    (small : ∀ content ∈ delivery, content.length ≤ maxSealedContactDeliveryBytes)
    (requestId : RequestId) (state : RequestState) :
    (receiptOf requestId state delivery).exactBytes ≠ [] := by
  rw [← List.length_pos_iff, receiptOf, length_contactReceiptValue small]
  omega

namespace ContactStore

variable {store after later : ContactStore} {requestId : RequestId} {row : RequestRow}

theorem requestAt_settle (store : ContactStore) (selected : RequestRow → Prop)
    [DecidablePred selected] (state : RequestState) (requestId : RequestId) :
    (store.settle selected state).requestAt requestId = (store.requestAt requestId).map fun row =>
      if selected row ∧ row.state = .pending then { row with state } else row :=
  rowAt_updateWhere (by intro; rfl) _ _

/-- A decided request is not settled again. -/
theorem requestAt_settle_of_final (found : store.requestAt requestId = some row)
    (final : row.state ≠ .pending) (selected : RequestRow → Prop) [DecidablePred selected]
    (state : RequestState) : (store.settle selected state).requestAt requestId = some row := by
  rw [requestAt_settle, found, Option.map_some, if_neg fun hit => final hit.2]

/-- The receipt of a decided request is read whenever it is asked for. -/
theorem receiptInTx_of_final (found : store.requestAt requestId = some row)
    (final : row.state ≠ .pending)
    (small : ∀ content ∈ store.deliveryAt requestId, content.length ≤ maxSealedContactDeliveryBytes)
    (now : UtcMillis) (deviceRevoked : Bool) :
    ∃ read, store.receiptInTx requestId now deviceRevoked =
      .ok (receiptOf requestId row.state (store.deliveryAt requestId), read) ∧
        read.requestAt requestId = some row ∧ read.outbox = store.outbox ∧
        read.commands = store.commands := by
  have encodes := contactReceipt_encodes small requestId row.state
  cases deviceRevoked with
  | true =>
    have first := requestAt_settle_of_final found final (·.requestId = requestId) .deviceRevoked
    have second := requestAt_settle_of_final first final
      (fun row => row.requestId = requestId ∧ row.expiresAt ≤ millisOf now) .expired
    refine ⟨_, ?_, second, rfl, rfl⟩
    rw [receiptInTx, if_pos rfl, second, okOr_some, ok_bind]
    change (contactReceipt requestId row.state (store.deliveryAt requestId) >>= _) = _
    rw [encodes]
    rfl
  | false =>
    have first := requestAt_settle_of_final found final
      (fun row => row.requestId = requestId ∧ row.expiresAt ≤ millisOf now) .expired
    refine ⟨_, ?_, first, rfl, rfl⟩
    rw [receiptInTx, if_neg Bool.false_ne_true, first, okOr_some, ok_bind]
    change (contactReceipt requestId row.state (store.deliveryAt requestId) >>= _) = _
    rw [encodes]
    rfl

/-! ## Storing a review -/

/-- A pending request has no delivery yet. -/
theorem Coherent.undelivered (coherent : store.Coherent)
    (found : store.requestAt requestId = some row) (pending : row.state = .pending) :
    requestId ∉ store.outbox.map DeliveryRow.requestId := by
  intro delivered
  obtain ⟨stored, member, rfl⟩ := List.mem_map.mp delivered
  obtain ⟨decided, listed, names, final⟩ := coherent.decided stored member
  have same : decided = row :=
    List.inj_on_of_nodup_map coherent.requests_distinct listed (mem_of_rowAt found)
      (names.trans (key_of_rowAt found).symm)
  exact final (same ▸ pending)

theorem deliveryAt_of_outbox (same : after.outbox = store.outbox) (requestId : RequestId) :
    after.deliveryAt requestId = store.deliveryAt requestId := by
  rw [deliveryAt, same, deliveryAt]

/-- The first delivery of a request is stored within the bounds of the outbox. -/
theorem insertReviewed_of_undelivered {delivery : Option (List UInt8)}
    (undelivered : requestId ∉ store.outbox.map DeliveryRow.requestId)
    (bounded : ∀ content ∈ delivery, content ≠ [] ∧
      content.length ≤ maxSealedContactDeliveryBytes) :
    ∃ delivered, store.insertReviewed requestId delivery = .ok delivered ∧
      delivered.requests = store.requests ∧ delivered.commands = store.commands ∧
      delivered.deliveryAt requestId = delivery := by
  refine ⟨_, insertReviewed_eq_ok.mpr ⟨bounded, fun _ => undelivered, rfl⟩, rfl, rfl, ?_⟩
  rw [deliveryAt, rowAt_append, rowAt_eq_none.mpr undelivered, Option.none_or]
  cases delivery <;> simp [rowAt]

section Storing

variable [Ed25519] [Sha256]

/-- A review of a pending request by its target device, before the expiry, under an unused key,
below the rate limit and with a digest that binds its delivery. -/
structure Reviewable (store : ContactStore) (view : DirectoryView) (idempotency : FixedBytes 32)
    (message : ContactReviewV1) (exact : List UInt8) (now : UtcMillis)
    (session : AuthenticatedDeviceSession) (row : RequestRow) : Prop where
  authenticated : view.authenticateInTransaction = .ok session
  found : store.requestAt message.requestId = some row
  target : row.targetIdentityId = session.identityId ∧ row.targetDeviceId = session.deviceId
  pending : row.state = .pending
  unexpired : millisOf now < row.expiresAt
  decoded : ContactReviewV1.decode exact = .ok message
  unused : rowAt OwnerCommandRow.key store.commands (commandKey session idempotency) = none
  underLimit : ∃ limited, store.rate session .review now = .ok limited
  bound : message.decision = .accept →
    BindsDelivery message.aadDigest message.requestId row.inviteId session

variable {view : DirectoryView} {idempotency : FixedBytes 32} {message : ContactReviewV1}
  {exact : List UInt8} {now : UtcMillis} {session : AuthenticatedDeviceSession}

omit [Ed25519] in
theorem verifyAad_of_binds {inviteId : InviteCapabilityId}
    (bound : message.decision = .accept →
      BindsDelivery message.aadDigest message.requestId inviteId session) :
    message.verifyAad inviteId session.identityId session.deviceId = .ok () := by
  unfold ContactReviewV1.verifyAad
  cases decision : message.decision with
  | reject => rfl
  | accept =>
    obtain ⟨exact, encodes, binds⟩ := bound decision
    rw [if_neg (by decide), mapError_eq_ok.mpr encodes, ok_bind,
      rejectIf_neg _ (not_not.mpr binds)]

/-- A review that may be stored comes down to storing its receipt. -/
theorem review_eq (coherent : store.Coherent)
    (reviewable : store.Reviewable view idempotency message exact now session row) :
    ∃ settled : ContactStore,
      (settled.requestAt message.requestId =
          some { row with state := reviewedState message.decision } ∧
        settled.deliveryAt message.requestId = message.sealedDelivery ∧
        settled.commands = store.commands) ∧
      store.review view idempotency message exact now = (settled.insertOwnerCommand
        ⟨commandKey session idempotency, .hashDomain ownerCommandDomain exact,
          (receiptOf message.requestId (reviewedState message.decision)
            message.sealedDelivery).exactBytes⟩).map fun after =>
        (receiptOf message.requestId (reviewedState message.decision) message.sealedDelivery,
          after) := by
  obtain ⟨limited, underLimit⟩ := reviewable.underLimit
  obtain ⟨rates, rfl⟩ := rate_eq_ok underLimit
  have valid := ContactReviewV1.valid_of_decode reviewable.decoded
  have found : { store with rates }.requestAt message.requestId = some row := reviewable.found
  have final := reviewedState_ne_pending message.decision
  -- the decision is written, then the delivery, and both are read for the receipt
  obtain ⟨marked, isMarked⟩ : ∃ marked, { store with rates }.settle
      (·.requestId = message.requestId) (reviewedState message.decision) = marked := ⟨_, rfl⟩
  have decided : marked.requestAt message.requestId =
      some { row with state := reviewedState message.decision } := by
    rw [← isMarked, requestAt_settle, found, Option.map_some,
      if_pos ⟨key_of_rowAt found, reviewable.pending⟩]
  have undelivered : message.requestId ∉ marked.outbox.map DeliveryRow.requestId := by
    rw [← isMarked]
    exact coherent.undelivered reviewable.found reviewable.pending
  have answered : marked.commands = store.commands := by
    rw [← isMarked]
    rfl
  obtain ⟨delivered, inserted, sameRequests, sameCommands, carries⟩ :=
    insertReviewed_of_undelivered undelivered fun content carried =>
      ⟨valid.nonempty content carried, valid.small content carried⟩
  have deliveredRow : delivered.requestAt message.requestId =
      some { row with state := reviewedState message.decision } := by
    rw [requestAt, sameRequests, ← decided, requestAt]
  have small : ∀ content ∈ delivered.deliveryAt message.requestId,
      content.length ≤ maxSealedContactDeliveryBytes := by
    rw [carries]
    exact valid.small
  obtain ⟨read, reads, readRow, outboxKept, commandsKept⟩ :=
    receiptInTx_of_final deliveredRow final small now false
  refine ⟨read, ⟨readRow, (deliveryAt_of_outbox outboxKept _).trans carries,
    commandsKept.trans (sameCommands.trans answered)⟩, ?_⟩
  rw [carries] at reads
  rw [review, mapError_eq_ok.mpr reviewable.authenticated, ok_bind]
  dsimp only
  rw [ownerReplay_none reviewable.unused, ok_bind]
  dsimp only
  rw [underLimit, ok_bind, found, okOr_some, ok_bind,
    rejectIf_neg _ (by rw [reviewable.target.1, reviewable.target.2]; simp), ok_bind,
    rejectIf_neg _ (not_not.mpr reviewable.pending), ok_bind,
    rejectIf_neg _ (Int.not_le.mpr reviewable.unexpired), ok_bind,
    mapError_eq_ok.mpr (verifyAad_of_binds reviewable.bound), ok_bind, isMarked, inserted, ok_bind,
    reads, ok_bind]
  exact bind_return_eq_map _ _

/-! ## Afterwards -/

/-- A decided request with its delivery and the command that decided it. -/
structure Answered (store : ContactStore) (row : RequestRow) (delivery : Option (List UInt8))
    (command : OwnerCommandRow) : Prop where
  final : row.state ≠ .pending
  found : store.requestAt row.requestId = some row
  delivered : store.deliveryAt row.requestId = delivery
  answered : rowAt OwnerCommandRow.key store.commands command.key = some command

variable {label : ContactLabel} {delivery : Option (List UInt8)} {command : OwnerCommandRow}

omit [Ed25519] [Sha256] in
theorem answered_of_insert (final : row.state ≠ .pending)
    (found : store.requestAt row.requestId = some row)
    (delivered : store.deliveryAt row.requestId = delivery)
    (fresh : command.key ∉ store.commands.map OwnerCommandRow.key) :
    Answered { store with commands := store.commands ++ [command] } row delivery command :=
  ⟨final, found, delivered, rowAt_concat fresh⟩

/-- Deliveries are only added, and not to a decided request. -/
theorem Answered.deliveryAt (answered : store.Answered row delivery command)
    (change : store.Change label after) : after.deliveryAt row.requestId = delivery := by
  cases change with
  | settled => exact answered.delivered
  | created => exact answered.delivered
  | revoked => exact answered.delivered
  | admitted => exact answered.delivered
  | @reviewed _ message _ _ other _ _ _ _ reviews _ _ _ =>
    have apart : message.requestId ≠ row.requestId := by
      intro same
      have found := reviews.found
      rw [same, answered.found] at found
      exact answered.final (Option.some.inj found ▸ reviews.pending)
    have none : rowAt DeliveryRow.requestId
        (message.sealedDelivery.map (DeliveryRow.mk message.requestId)).toList row.requestId =
          none := by
      cases message.sealedDelivery <;> simp [rowAt, apart]
    rw [ContactStore.deliveryAt, rowAt_append, none, Option.or_none]
    exact answered.delivered

theorem Answered.change (answered : store.Answered row delivery command)
    (coherent : after.Coherent) (change : store.Change label after) :
    after.Answered row delivery command := by
  refine ⟨answered.final, ?_, answered.deliveryAt change, ?_⟩
  · obtain ⟨found, listed, settled⟩ := change.keeps row (mem_of_rowAt answered.found)
    obtain rfl := settled.eq_of_final answered.final
    exact rowAt_of_mem coherent.requests_distinct listed
  · cases change with
    | settled => exact answered.answered
    | created => exact rowAt_append_of_some _ answered.answered
    | revoked => exact rowAt_append_of_some _ answered.answered
    | admitted => exact answered.answered
    | reviewed => exact rowAt_append_of_some _ answered.answered

/-- Whoever knows the secret reads the receipt. -/
theorem Answered.receipt (answered : store.Answered row delivery command)
    (small : ∀ content ∈ delivery, content.length ≤ maxSealedContactDeliveryBytes)
    {receiptSecret : FixedBytes 32}
    (knows : row.receiptCapabilityHash = contactReceiptCapabilityHash receiptSecret) :
    ∃ read, store.receipt view row.requestId receiptSecret now =
      .ok (receiptOf row.requestId row.state delivery, read) := by
  obtain ⟨read, reads, -⟩ := receiptInTx_of_final answered.found answered.final
    (answered.delivered.symm ▸ small) now false
  rw [answered.delivered] at reads
  refine ⟨read, ?_⟩
  rw [ContactStore.receipt, answered.found, okOr_some, ok_bind,
    rejectIf_neg _ (not_not.mpr knows), ok_bind, if_neg answered.final]
  exact reads

/-- The same review under the same key returns the receipt again. -/
theorem Answered.retry {receiptBytes : List UInt8} (answered : store.Answered row delivery
      ⟨commandKey session idempotency, .hashDomain ownerCommandDomain exact, receiptBytes⟩)
    (small : ∀ content ∈ delivery, content.length ≤ maxSealedContactDeliveryBytes)
    (authenticated : view.authenticateInTransaction = .ok session)
    (names : message.requestId = row.requestId) :
    ∃ read, store.review view idempotency message exact now =
      .ok (receiptOf row.requestId row.state delivery, read) := by
  obtain ⟨read, reads, -⟩ := receiptInTx_of_final answered.found answered.final
    (answered.delivered.symm ▸ small) now false
  refine ⟨read, ?_⟩
  rw [ContactStore.review, mapError_eq_ok.mpr authenticated, ok_bind]
  dsimp only
  rw [ownerReplay_some answered.answered, ok_bind]
  dsimp only
  rw [names, reads, answered.delivered]

variable [PermissiveEd25519]

theorem Answered.run (answered : store.Answered row delivery command)
    (reached : Reached Starts Steps store) (run : ReachedFrom store Steps later) :
    later.Answered row delivery command := by
  refine And.right (run.invariant
    (fun state => Reached Starts Steps state ∧ state.Answered row delivery command) ?_ ?_)
  · rintro state rfl
    exact ⟨reached, answered⟩
  · rintro before label after ⟨reaches, kept⟩ taken
    have reachesAfter : Reached Starts Steps after := .next label reaches taken
    exact ⟨reachesAfter, kept.change (coherent_of_reached reachesAfter) taken.change⟩

/-- A review of a pending request succeeds exactly if its delivery has at most 16336 bytes, and
then every later receipt and every retry returns its decision with exactly that delivery. -/
theorem review_stored_iff (reached : Reached Starts Steps store)
    (reviewable : store.Reviewable view idempotency message exact now session row) :
    ((∃ receipt after, store.review view idempotency message exact now = .ok (receipt, after)) ↔
      ∀ content ∈ message.sealedDelivery, content.length ≤ 16336) ∧
    ∀ receipt after, store.review view idempotency message exact now = .ok (receipt, after) →
      receipt = receiptOf message.requestId (reviewedState message.decision)
        message.sealedDelivery ∧
      ∀ later, ReachedFrom after Steps later → ∀ anyView anyNow,
        (∀ receiptSecret,
          row.receiptCapabilityHash = contactReceiptCapabilityHash receiptSecret →
          ∃ read, later.receipt anyView message.requestId receiptSecret anyNow =
            .ok (receipt, read)) ∧
        (anyView.authenticateInTransaction = .ok session →
          ∃ read, later.review anyView idempotency message exact anyNow = .ok (receipt, read)) := by
  have coherent := coherent_of_reached reached
  have valid := ContactReviewV1.valid_of_decode reviewable.decoded
  have names := key_of_rowAt reviewable.found
  obtain ⟨settled, ⟨decided, delivered, answered⟩, outcome⟩ := review_eq coherent reviewable
  have fresh : commandKey session idempotency ∉ settled.commands.map OwnerCommandRow.key := by
    rw [answered]
    exact rowAt_eq_none.mp reviewable.unused
  constructor
  · rw [← receipt_fits_iff valid.small message.requestId (reviewedState message.decision), outcome]
    constructor
    · rintro ⟨receipt, after, done⟩
      obtain ⟨_, inserted, -⟩ := map_eq_ok.mp done
      exact (insertOwnerCommand_eq_ok.mp inserted).1.2
    · intro fits
      have nonempty := receiptOf_ne_nil valid.small message.requestId
        (reviewedState message.decision)
      exact ⟨_, _, map_eq_ok.mpr
        ⟨_, insertOwnerCommand_eq_ok.mpr ⟨⟨nonempty, fits⟩, fresh, rfl⟩, rfl⟩⟩
  · intro receipt after done
    have reachesAfter : Reached Starts Steps after :=
      .next _ reached (steps_of_review reviewable.decoded done)
    rw [outcome] at done
    obtain ⟨stored, inserted, same⟩ := map_eq_ok.mp done
    obtain ⟨rfl, rfl⟩ := Prod.mk.inj same
    obtain ⟨-, unanswered, rfl⟩ := insertOwnerCommand_eq_ok.mp inserted
    obtain ⟨decidedRow, isDecided⟩ :
        ∃ decidedRow, { row with state := reviewedState message.decision } = decidedRow := ⟨_, rfl⟩
    have sameState : decidedRow.state = reviewedState message.decision := by rw [← isDecided]
    have sameId : decidedRow.requestId = message.requestId := by rw [← isDecided]; exact names
    have sameHash : decidedRow.receiptCapabilityHash = row.receiptCapabilityHash := by
      rw [← isDecided]
    rw [isDecided, ← sameId] at decided
    rw [← sameId] at delivered
    have final : decidedRow.state ≠ .pending := sameState ▸ reviewedState_ne_pending _
    have stored := answered_of_insert final decided delivered unanswered
    refine ⟨rfl, fun later run anyView anyNow => ⟨fun receiptSecret knows => ?_,
      fun authenticated => ?_⟩⟩
    · rw [← sameId, ← sameState]
      exact (stored.run reachesAfter run).receipt valid.small (sameHash.trans knows)
    · rw [← sameId, ← sameState]
      exact (stored.run reachesAfter run).retry valid.small authenticated sameId.symm

/-- A longer delivery is refused by the table of the owner's commands. -/
theorem review_refused (reached : Reached Starts Steps store)
    (reviewable : store.Reviewable view idempotency message exact now session row)
    {content : List UInt8} (carried : message.sealedDelivery = some content)
    (long : 16336 < content.length) :
    store.review view idempotency message exact now = .error .database := by
  have valid := ContactReviewV1.valid_of_decode reviewable.decoded
  obtain ⟨settled, -, outcome⟩ := review_eq (coherent_of_reached reached) reviewable
  have tooLong : 16384 < (receiptOf message.requestId (reviewedState message.decision)
      message.sealedDelivery).exactBytes.length := by
    rw [← Nat.not_le, receipt_fits_iff valid.small]
    exact fun fits => Nat.not_le.mpr long (fits content carried)
  rw [outcome, insertOwnerCommand, rejectIf_pos _ (.inr tooLong)]
  rfl

end Storing

section Samples

attribute [local instance] openEd25519 countingSha256 openPermissive

/-- An acceptance of the sample request. -/
def acceptanceOf (delivery : List UInt8) : ContactReviewV1 :=
  { acceptance with sealedDelivery := some delivery }

theorem sampleAad_encodes :
    encodeDeterministicCbor (ContactReviewV1.deliveryAad sampleRequest.requestId
      sampleRequest.inviteId sampleIdentity sampleDevice) =
      .ok (wire (ContactReviewV1.deliveryAad sampleRequest.requestId sampleRequest.inviteId
        sampleIdentity sampleDevice)) := by
  decide +kernel

theorem acceptanceOf_reviewable (delivery : List UInt8) (nonempty : delivery ≠ [])
    (small : delivery.length ≤ maxSealedContactDeliveryBytes) :
    requestedStore.Reviewable sampleView (taggedBytes 4) (acceptanceOf delivery)
      (wire (acceptanceOf delivery).canonical) sampleTime sampleSession sampleRow where
  authenticated := sampleView_authenticated
  found := rfl
  target := ⟨rfl, rfl⟩
  pending := rfl
  unexpired := by decide
  decoded := ContactReviewV1.decode_review
    ⟨rfl, fun _ same => Option.some.inj same ▸ nonempty, fun _ same => Option.some.inj same ▸ small⟩
  unused := by decide +kernel
  underLimit := ⟨_, rfl⟩
  bound := fun _ => ⟨_, sampleAad_encodes, rfl⟩

/-- A delivery of one byte is stored. -/
theorem short_delivery_stored :
    ∃ receipt after, requestedStore.review sampleView (taggedBytes 4) (acceptanceOf [7])
      (wire (acceptanceOf [7]).canonical) sampleTime = .ok (receipt, after) := by
  have reviewable := acceptanceOf_reviewable [7] (by decide) (by decide)
  refine (review_stored_iff requestedStore_reached reviewable).1.mpr ?_
  intro content carried
  obtain rfl := Option.some.inj carried
  decide

def longDelivery : List UInt8 := List.replicate 16337 7

theorem length_longDelivery : longDelivery.length = 16337 := List.length_replicate

/-- A delivery of 16337 bytes is decoded and refused. -/
theorem long_delivery_refused :
    Reached Starts Steps requestedStore ∧ longDelivery.length = 16337 ∧
      requestedStore.Reviewable sampleView (taggedBytes 4) (acceptanceOf longDelivery)
        (wire (acceptanceOf longDelivery).canonical) sampleTime sampleSession sampleRow ∧
      requestedStore.review sampleView (taggedBytes 4) (acceptanceOf longDelivery)
        (wire (acceptanceOf longDelivery).canonical) sampleTime = .error .database := by
  have nonempty : longDelivery ≠ [] := by
    rw [← List.length_pos_iff, length_longDelivery]
    decide
  have small : longDelivery.length ≤ maxSealedContactDeliveryBytes := by
    rw [length_longDelivery]
    decide
  have long : 16336 < longDelivery.length := by
    rw [length_longDelivery]
    decide
  have reviewable := acceptanceOf_reviewable longDelivery nonempty small
  exact ⟨requestedStore_reached, length_longDelivery, reviewable,
    review_refused requestedStore_reached reviewable rfl long⟩

end Samples

end ContactStore

end Dirextalk.Contact
