import Dirextalk.Contact.Protocol
import Dirextalk.Lib.Rows
import Dirextalk.Wire.Sizes

/-!
# The contact tables

Invites, the requests left on them, the outbox of sealed deliveries and the receipts of
the owner's commands.  Each operation is one transaction: it returns its answer with the
tables it has written, or an error that leaves them as they were.  A review and the
receipt that repeats it are always encoded, in a size that follows from its delivery.
-/

namespace Dirextalk.Contact

open Domain Identity Lib Wire

def requestDigestDomain : List UInt8 := textBytes "dirextalk.contact-request-exact.v1\x00"
def ownerCommandDomain : List UInt8 := textBytes "dirextalk.contact-owner-command.v1\x00"
def rateLimit : Nat := 120
def maxPendingPerDevice : Nat := 100

/-- Why a call of the store fails. -/
inductive ContactStoreError where
  | persistence (error : IdentityPersistenceError)
  /-- A constraint of the schema. -/
  | database
  | invalid
  | authentication
  | notFound
  | conflict
  | expired
  | revoked
  | exhausted
  | rateLimited
  | quota
  deriving DecidableEq

open ContactStoreError

/-! ## Rows -/

/-- A row of `contact_invites`. -/
structure InviteRow where
  inviteId : InviteCapabilityId
  ownerIdentityId : IdentityId
  ownerDeviceId : DeviceId
  capabilityHash : Sha256Digest
  maxUses : Nat
  useCount : Nat
  expiresAt : UtcMillis
  revokedAt : Option Int
  createdAt : Int
  deriving DecidableEq

/-- The column `state` of a request. -/
inductive RequestState where
  | pending
  | accepted
  | rejected
  | expired
  | inviteRevoked
  | deviceRevoked
  deriving DecidableEq, Repr

def RequestState.code : RequestState → UInt64
  | pending => 1
  | accepted => 2
  | rejected => 3
  | expired => 4
  | inviteRevoked => 5
  | deviceRevoked => 6

/-- A row of `contact_requests`. -/
structure RequestRow where
  requestId : RequestId
  inviteId : InviteCapabilityId
  targetIdentityId : IdentityId
  targetDeviceId : DeviceId
  receiptCapabilityHash : Sha256Digest
  requestDigest : Sha256Digest
  sealedRequest : List UInt8
  state : RequestState
  createdAt : UtcMillis
  expiresAt : Int
  deriving DecidableEq

/-- A delivery that waits for its requester. -/
structure DeliveryRow where
  requestId : RequestId
  sealedDelivery : List UInt8
  deriving DecidableEq

/-- The primary key of an owner command. -/
structure OwnerCommandKey where
  ownerIdentityId : IdentityId
  ownerDeviceId : DeviceId
  idempotencyKeyHash : FixedBytes 32
  deriving DecidableEq

/-- The receipt of a command, for its replays. -/
structure OwnerCommandRow where
  key : OwnerCommandKey
  requestDigest : Sha256Digest
  receiptBytes : List UInt8
  deriving DecidableEq

/-- The actions whose rate is limited. -/
inductive OwnerAction where
  | createInvite
  | revokeInvite
  | review
  deriving DecidableEq, Repr

/-- A device, an action and a minute. -/
structure RateKey where
  ownerIdentityId : IdentityId
  ownerDeviceId : DeviceId
  action : OwnerAction
  bucketStart : Int
  deriving DecidableEq

/-- How often the device has acted in that minute. -/
structure RateRow where
  key : RateKey
  requestCount : Nat
  deriving DecidableEq

/-- The tables of contacts. -/
structure ContactStore where
  invites : List InviteRow := []
  requests : List RequestRow := []
  outbox : List DeliveryRow := []
  commands : List OwnerCommandRow := []
  rates : List RateRow := []
  deriving DecidableEq

/-- A request as the owner sees it. -/
structure ContactRequestRecord where
  requestId : RequestId
  inviteId : InviteCapabilityId
  receiptCapabilityHash : Sha256Digest
  sealedRequest : List UInt8
  createdAt : UtcMillis
  expiresAt : UtcMillis
  deriving DecidableEq

/-- The receipt of a requester or of a review. -/
structure StoredContactReceipt where
  requestId : RequestId
  state : RequestState
  sealedDelivery : Option (List UInt8)
  exactBytes : List UInt8
  deriving DecidableEq

/-! ## New rows -/

/-- The row of an invite nobody has used. -/
def newInvite (invite : ContactInviteV1) (now : UtcMillis) : InviteRow :=
  { invite with
    maxUses := invite.maxUses.toNat
    useCount := 0
    revokedAt := none
    createdAt := millisOf now }

/-- A request expires with its invite, and after a day at the latest. -/
def newRequest (request : ContactRequestV1) (requestDigest : Sha256Digest) (invite : InviteRow)
    (now : UtcMillis) : RequestRow :=
  { request with
    requestDigest
    state := .pending
    createdAt := now
    expiresAt := min (millisOf invite.expiresAt) (millisOf now + maxRequestLifetimeMs) }

/-! ## Receipts -/

/-- The receipt shows the state of the request and its delivery. -/
def contactReceiptValue (requestId : RequestId) (state : RequestState)
    (delivery : Option (List UInt8)) : CanonicalValue :=
  record [.unsigned 1, .text requestId.toText, .unsigned state.code, deliveryValue delivery]

/-- The exact bytes of a receipt. -/
def contactReceipt (requestId : RequestId) (state : RequestState)
    (delivery : Option (List UInt8)) : Except ContactStoreError (List UInt8) :=
  (encodeDeterministicCbor (contactReceiptValue requestId state delivery)).mapError fun _ =>
    invalid

/-- The receipt of an invite, created or revoked. -/
def inviteReceipt (inviteId : InviteCapabilityId) (state : UInt64) (now expires : UtcMillis) :
    Except ContactStoreError (List UInt8) :=
  (encodeDeterministicCbor (record [.unsigned 1, .text inviteId.toText, .unsigned state,
    toCanonicalValue now, toCanonicalValue expires])).mapError fun _ => invalid

/-- A pending request as its owner reads it. -/
def requestRecord (row : RequestRow) : Except ContactStoreError ContactRequestRecord := do
  let expiresAt ← (UtcMillis.new (Int64.ofInt row.expiresAt)).mapError fun _ => invalid
  return { row with expiresAt }

namespace ContactStore

variable (store : ContactStore)

/-! ## Single statements -/

/-- The invite with an id. -/
def inviteAt (inviteId : InviteCapabilityId) : Option InviteRow :=
  rowAt InviteRow.inviteId store.invites inviteId

variable (requestId : RequestId)

/-- The request with an id. -/
def requestAt : Option RequestRow :=
  rowAt RequestRow.requestId store.requests requestId

/-- What the outbox has for a request. -/
def deliveryAt : Option (List UInt8) :=
  (rowAt DeliveryRow.requestId store.outbox requestId).map DeliveryRow.sealedDelivery

/-- Moves the selected pending requests to another state. -/
def settle (selected : RequestRow → Prop) [DecidablePred selected] (state : RequestState) :
    ContactStore :=
  { store with
    requests := updateWhere (fun row => selected row ∧ row.state = .pending)
      (fun row => { row with state }) store.requests }

/-- The receipt of an answered command; the same key with other bytes is a conflict. -/
def ownerReplay (key : OwnerCommandKey) (requestDigest : Sha256Digest) :
    Except ContactStoreError (Option (List UInt8)) :=
  match rowAt OwnerCommandRow.key store.commands key with
  | none => .ok none
  | some row => if row.requestDigest ≠ requestDigest then .error conflict else
      .ok (some row.receiptBytes)

/-- Keeps the receipt of a command, whose length the schema bounds. -/
def insertOwnerCommand (row : OwnerCommandRow) : Except ContactStoreError ContactStore := do
  rejectIf (row.receiptBytes = [] ∨ 16384 < row.receiptBytes.length) database
  let commands ← okOr (insertRow OwnerCommandRow.key store.commands row) database
  return { store with commands }

/-- Invites differ in their ids and in their capabilities. -/
def insertInvite (row : InviteRow) : Except ContactStoreError ContactStore := do
  rejectIf (row.capabilityHash ∈ store.invites.map InviteRow.capabilityHash) database
  let invites ← okOr (insertRow InviteRow.inviteId store.invites row) database
  return { store with invites }

/-- The columns that the schema checks on an inserted request. -/
def insertRequest (row : RequestRow) : Except ContactStoreError ContactStore := do
  rejectIf (row.sealedRequest = [] ∨ maxSealedContactRequestBytes < row.sealedRequest.length ∨
    row.expiresAt ≤ millisOf row.createdAt ∨
    maxRequestLifetimeMs < row.expiresAt - millisOf row.createdAt) database
  rejectIf (row.receiptCapabilityHash ∈ store.requests.map RequestRow.receiptCapabilityHash)
    database
  let requests ← okOr (insertRow RequestRow.requestId store.requests row) database
  return { store with requests }

/-- A request has at most one delivery. -/
def insertDelivery (row : DeliveryRow) : Except ContactStoreError ContactStore := do
  rejectIf (row.sealedDelivery = [] ∨ 262144 < row.sealedDelivery.length) database
  let outbox ← okOr (insertRow DeliveryRow.requestId store.outbox row) database
  return { store with outbox }

/-- The delivery of a review goes to the outbox where the review has one. -/
def insertReviewed : Option (List UInt8) → Except ContactStoreError ContactStore
  | some sealedDelivery => store.insertDelivery ⟨requestId, sealedDelivery⟩
  | none => .ok store

/-- Counts the action in the minute of the request. -/
def rate (session : AuthenticatedDeviceSession) (action : OwnerAction) (now : UtcMillis) :
    Except ContactStoreError ContactStore :=
  let bucketStart := millisOf now - millisOf now % 60000
  let key : RateKey := ⟨session.identityId, session.deviceId, action, bucketStart⟩
  match rowAt RateRow.key store.rates key with
  | none => .ok { store with rates := store.rates ++ [⟨key, 1⟩] }
  | some row =>
      if row.requestCount < rateLimit then
        .ok { store with
          rates := updateWhere (fun row => row.key = key)
            (fun row => { row with requestCount := row.requestCount + 1 }) store.rates }
      else .error rateLimited

/-- Lets the request expire, or fail with its device, before it is read. -/
def receiptInTx (now : UtcMillis) (deviceRevoked : Bool) :
    Except ContactStoreError (StoredContactReceipt × ContactStore) := do
  let store := if deviceRevoked then store.settle (·.requestId = requestId) .deviceRevoked
    else store
  let store := store.settle (fun row => row.requestId = requestId ∧ row.expiresAt ≤ millisOf now)
    .expired
  let row ← okOr (store.requestAt requestId) notFound
  let delivery := store.deliveryAt requestId
  let exact ← contactReceipt requestId row.state delivery
  return (⟨requestId, row.state, delivery, exact⟩, store)

/-! ## Transactions -/

section Transactions

variable [Ed25519] [Sha256] (view : DirectoryView)

/-- Idempotency keys belong to a device. -/
def commandKey (session : AuthenticatedDeviceSession) (idempotency : FixedBytes 32) :
    OwnerCommandKey :=
  ⟨session.identityId, session.deviceId, idempotency⟩

variable (idempotency : FixedBytes 32)

/-- Stores an invite of the authenticated device. -/
def createInvite [PermissiveEd25519] (invite : ContactInviteV1)
    (exact : List UInt8) (secret : FixedBytes 32) (now : UtcMillis) :
    Except ContactStoreError (List UInt8 × ContactStore) := do
  rejectIf (invite.capabilityHash ≠ inviteCapabilityHash secret ∨
    millisOf now < millisOf invite.issuedAt ∨ millisOf invite.expiresAt ≤ millisOf now) invalid
  let auth ← view.authenticateWithSigningKeyInTransaction.mapError fun _ => authentication
  rejectIf (auth.session.identityId ≠ invite.ownerIdentityId ∨
    auth.session.deviceId ≠ invite.ownerDeviceId) authentication
  (invite.verify auth.signingKey).mapError fun _ => authentication
  let requestDigest := .hashDomain ownerCommandDomain exact
  match ← store.ownerReplay (commandKey auth.session idempotency) requestDigest with
  | some receipt => return (receipt, store)
  | none =>
      let store ← store.rate auth.session .createInvite now
      let receipt ← inviteReceipt invite.inviteId 1 now invite.expiresAt
      let store ← store.insertInvite (newInvite invite now)
      let store ← store.insertOwnerCommand
        ⟨commandKey auth.session idempotency, requestDigest, receipt⟩
      return (receipt, store)

/-- Revokes an invite and all requests that wait on it. -/
def revokeInvite (inviteId : InviteCapabilityId)
    (now : UtcMillis) : Except ContactStoreError (List UInt8 × ContactStore) := do
  let auth ← view.authenticateInTransaction.mapError fun _ => authentication
  let requestDigest := .hashDomain ownerCommandDomain inviteId.bytes.toList
  match ← store.ownerReplay (commandKey auth idempotency) requestDigest with
  | some receipt => return (receipt, store)
  | none =>
      let store ← store.rate auth .revokeInvite now
      let row ← okOr (store.inviteAt inviteId) notFound
      rejectIf (row.ownerIdentityId ≠ auth.identityId ∨ row.ownerDeviceId ≠ auth.deviceId)
        authentication
      -- `revoked_at_ms IS NULL OR revoked_at_ms >= created_at_ms`
      let revokedAt := row.revokedAt.getD (millisOf now)
      rejectIf (revokedAt < row.createdAt) database
      let store : ContactStore := { store with
        invites := updateWhere (·.inviteId = inviteId)
          (fun row => { row with revokedAt := some revokedAt }) store.invites }
      let store := store.settle (·.inviteId = inviteId) .inviteRevoked
      let receipt ← inviteReceipt inviteId 2 now row.expiresAt
      let store ← store.insertOwnerCommand ⟨commandKey auth idempotency, requestDigest, receipt⟩
      return (receipt, store)

/-- Whether the target device has left its log; other failures are reported. -/
def deviceRevoked (identityId : IdentityId) (deviceId : DeviceId) : Except ContactStoreError Bool :=
  match view.activeDeviceSigningKeyInTransaction identityId deviceId with
  | .ok _ => .ok false
  | .error .deviceAuthenticationRejected | .error .identityInactive => .ok true
  | .error error => .error (persistence error)

/-- A device that is gone reads as a revoked invite. -/
def mapActiveDeviceError : IdentityPersistenceError → ContactStoreError
  | .deviceAuthenticationRejected | .identityInactive => revoked
  | error => persistence error

/-- The pending requests of a device that have not expired. -/
def pendingCount (identityId : IdentityId) (deviceId : DeviceId) (now : UtcMillis) : Nat :=
  store.requests.countP fun row => row.targetIdentityId = identityId ∧
    row.targetDeviceId = deviceId ∧ row.state = .pending ∧ millisOf now < row.expiresAt

/-- Redeems one use of an invite, or answers a request that was submitted before. -/
def submitRequest (request : ContactRequestV1) (exact : List UInt8) (inviteSecret : FixedBytes 32)
    (now : UtcMillis) : Except ContactStoreError (StoredContactReceipt × ContactStore) := do
  let row ← okOr (store.inviteAt request.inviteId) notFound
  rejectIf (row.capabilityHash ≠ inviteCapabilityHash inviteSecret) notFound
  let requestDigest := .hashDomain requestDigestDomain exact
  match store.requestAt request.requestId with
  | some existing =>
      rejectIf (existing.requestDigest ≠ requestDigest) conflict
      let deviceRevoked ← deviceRevoked view request.targetIdentityId request.targetDeviceId
      store.receiptInTx request.requestId now deviceRevoked
  | none =>
      let _ ← (view.activeDeviceSigningKeyInTransaction row.ownerIdentityId
        row.ownerDeviceId).mapError mapActiveDeviceError
      rejectIf row.revokedAt.isSome revoked
      rejectIf (millisOf row.expiresAt ≤ millisOf now) expired
      rejectIf (row.maxUses ≤ row.useCount) exhausted
      rejectIf (row.ownerIdentityId ≠ request.targetIdentityId ∨
        row.ownerDeviceId ≠ request.targetDeviceId) notFound
      let pending := store.pendingCount request.targetIdentityId request.targetDeviceId now
      rejectIf (maxPendingPerDevice ≤ pending) quota
      let store ← store.insertRequest (newRequest request requestDigest row now)
      let store : ContactStore := { store with
        invites := updateWhere (·.inviteId = request.inviteId)
          (fun row => { row with useCount := row.useCount + 1 }) store.invites }
      store.receiptInTx request.requestId now false

/-- The order of a device's pending requests. -/
def byCreation (left right : RequestRow) : Prop :=
  ((compare (millisOf left.createdAt) (millisOf right.createdAt)).then
    (compare left.requestId right.requestId)).isLE = true

instance : DecidableRel byCreation := fun _ _ => inferInstanceAs (Decidable (_ = true))

/-- The oldest hundred requests that wait for the authenticated device. -/
def pending (now : UtcMillis) :
    Except ContactStoreError (List ContactRequestRecord × ContactStore) := do
  let auth ← view.authenticateInTransaction.mapError fun _ => authentication
  let store := store.settle (fun row => row.targetIdentityId = auth.identityId ∧
    row.targetDeviceId = auth.deviceId ∧ row.expiresAt ≤ millisOf now) .expired
  let rows := store.requests.filter fun row => row.targetIdentityId = auth.identityId ∧
    row.targetDeviceId = auth.deviceId ∧ row.state = .pending
  let records ← ((rows.insertionSort byCreation).take 100).mapM requestRecord
  return (records, store)

/-- The state that a decision leads to. -/
def reviewedState : ContactDecisionV1 → RequestState
  | .accept => .accepted
  | .reject => .rejected

/-- Settles a pending request and puts the delivery into the outbox. -/
def review (review : ContactReviewV1) (exact : List UInt8)
    (now : UtcMillis) : Except ContactStoreError (StoredContactReceipt × ContactStore) := do
  let auth ← view.authenticateInTransaction.mapError fun _ => authentication
  let requestDigest := .hashDomain ownerCommandDomain exact
  match ← store.ownerReplay (commandKey auth idempotency) requestDigest with
  | some _ => store.receiptInTx review.requestId now false
  | none =>
      let store ← store.rate auth .review now
      let row ← okOr (store.requestAt review.requestId) notFound
      rejectIf (row.targetIdentityId ≠ auth.identityId ∨ row.targetDeviceId ≠ auth.deviceId)
        authentication
      rejectIf (row.state ≠ .pending) conflict
      rejectIf (row.expiresAt ≤ millisOf now) expired
      (review.verifyAad row.inviteId auth.identityId auth.deviceId).mapError fun _ => invalid
      let store := store.settle (·.requestId = review.requestId) (reviewedState review.decision)
      let store ← store.insertReviewed review.requestId review.sealedDelivery
      let receipted ← store.receiptInTx review.requestId now false
      let store ← receipted.2.insertOwnerCommand
        ⟨commandKey auth idempotency, requestDigest, receipted.1.exactBytes⟩
      return (receipted.1, store)

/-- The receipt of a request, for whoever holds its secret. -/
def receipt (requestId : RequestId) (receiptSecret : FixedBytes 32) (now : UtcMillis) :
    Except ContactStoreError (StoredContactReceipt × ContactStore) := do
  let row ← okOr (store.requestAt requestId) notFound
  rejectIf (row.receiptCapabilityHash ≠ contactReceiptCapabilityHash receiptSecret) notFound
  let deviceRevoked ← if row.state = .pending then
      deviceRevoked view row.targetIdentityId row.targetDeviceId
    else .ok false
  store.receiptInTx requestId now deviceRevoked

end Transactions

end ContactStore

/-! ## Sizes of deliveries -/

/-- The bytes that the field of a delivery takes. -/
def deliverySize : Option (List UInt8) → Nat
  | none => 1
  | some content => headSize content.length + content.length

section Delivery

variable {delivery : Option (List UInt8)}
  (small : ∀ content ∈ delivery, content.length ≤ maxSealedContactDeliveryBytes)
include small

theorem length_wire_delivery : (wire (deliveryValue delivery)).length = deliverySize delivery := by
  cases delivery with
  | none => rfl
  | some content =>
    have bound : content.length < UInt64.size :=
      Nat.lt_of_le_of_lt (small content rfl) (by decide)
    exact length_wire_bytes bound

theorem deliverySize_le : deliverySize delivery ≤ 9 + maxSealedContactDeliveryBytes := by
  cases delivery with
  | none => exact Nat.le_add_left _ _
  | some content => exact Nat.add_le_add (headSize_le _) (small content rfl)

theorem within_delivery :
    Within 1 1 (9 + maxSealedContactDeliveryBytes) (deliveryValue delivery) := by
  cases delivery with
  | none => exact within_null.mono (by decide) (by decide) (by decide)
  | some content => exact within_bytes (small content rfl) (by decide)

/-! ### Receipts -/

theorem length_contactReceiptValue (requestId : RequestId) (state : RequestState) :
    (wire (contactReceiptValue requestId state delivery)).length = 45 + deliverySize delivery := by
  have code : headSize state.code.toNat = 1 := by
    cases state <;> rfl
  have one : headSize (1 : UInt64).toNat = 1 := rfl
  change (wire (record [.unsigned 1, .text requestId.toText, .unsigned state.code,
    deliveryValue delivery])).length = _
  rw [length_wire_record (by simp)]
  simp only [List.map_cons, List.map_nil, List.sum_cons, List.sum_nil, length_wire_unsigned,
    length_wire_uuid, length_wire_delivery small, code, one]
  omega

theorem contactReceipt_encodes (requestId : RequestId) (state : RequestState) :
    contactReceipt requestId state delivery =
      .ok (wire (contactReceiptValue requestId state delivery)) := by
  have room {value : CanonicalValue} (field : SmallField value) :
      Within 1 1 (9 + maxSealedContactDeliveryBytes) value :=
    field.mono (by decide) (by decide) (by decide)
  have fields : ∀ field ∈ [CanonicalValue.unsigned 1, .text requestId.toText,
      .unsigned state.code, deliveryValue delivery],
      Within 1 1 (9 + maxSealedContactDeliveryBytes) field := by
    simp only [List.forall_mem_cons]
    exact ⟨room (smallField_unsigned 1), room (smallField_uuid requestId),
      room (smallField_unsigned _), within_delivery small, List.forall_mem_nil _⟩
  have bytes := deliverySize_le small
  have within : Within 2 9 (54 + maxSealedContactDeliveryBytes)
      (contactReceiptValue requestId state delivery) :=
    { within_record 4 fields (Nat.le_refl _) (by decide) with
      bytes_le := by
        rw [length_contactReceiptValue small]
        omega }
  exact mapError_eq_ok.mpr (within.roundTrip (by decide) (by decide) (by decide)).1

end Delivery

/-! ### Reviews -/

namespace ContactReviewV1

variable {message : ContactReviewV1} {exact : List UInt8}

/-- What the decoder checks of the fields. -/
structure Valid (message : ContactReviewV1) : Prop where
  presence : decide (message.decision = .accept) =
    (message.sealedDelivery.isSome && message.aadDigest.isSome)
  nonempty : ∀ content ∈ message.sealedDelivery, content ≠ []
  small : ∀ content ∈ message.sealedDelivery, content.length ≤ maxSealedContactDeliveryBytes

theorem bounded_of_optionalBytes {limit : Nat} {value : CanonicalValue}
    {delivery : Option (List UInt8)} (read : optionalBytes limit value = .ok delivery) :
    ∀ content ∈ delivery, content ≠ [] ∧ content.length ≤ limit := by
  intro content carried
  obtain rfl := Option.mem_def.mp carried
  unfold optionalBytes at read
  split at read
  · cases read
  · obtain ⟨found, bounded, same⟩ := map_eq_ok.mp read
    obtain rfl := Option.some.inj same
    unfold boundedBytes at bounded
    split at bounded
    · split at bounded
      · cases bounded
      · cases bounded
        rename_i fits
        rw [not_or, Nat.not_lt] at fits
        exact fits
    · cases bounded

theorem valid_of_decode (decoded : decode exact = .ok message) : message.Valid := by
  simp only [decode, bind_eq_ok, rejectIf_eq_ok, pure_eq_ok, ne_eq, not_not] at decoded
  obtain ⟨_, -, _, -, _, -, -, -, _, -, _, -, _, -, _, -, _, -, delivery, read, _, -, _, -, -,
    presence, _, -, -, -, rfl⟩ := decoded
  have bounded := bounded_of_optionalBytes read
  exact ⟨presence, fun content carried => (bounded content carried).1,
    fun content carried => (bounded content carried).2⟩

theorem decodeDecision_code (decision : ContactDecisionV1) :
    decodeDecision (.unsigned decision.code) = .ok decision := by
  cases decision <;> rfl

theorem optionalBytes_value (valid : message.Valid) :
    optionalBytes maxSealedContactDeliveryBytes (deliveryValue message.sealedDelivery) =
      .ok message.sealedDelivery := by
  cases carried : message.sealedDelivery with
  | none => rfl
  | some content =>
    have fits : ¬(content = [] ∨ maxSealedContactDeliveryBytes < content.length) := by
      rw [not_or, Nat.not_lt]
      exact ⟨valid.nonempty content carried, valid.small content carried⟩
    simp [deliveryValue, optionalBytes, boundedBytes, if_neg fits, Except.map]

/-- A valid review is read back from its bytes. -/
theorem decode_review (valid : message.Valid) : decode (wire message.canonical) = .ok message := by
  have room {value : CanonicalValue} (field : SmallField value) :
      Within 1 1 (9 + maxSealedContactDeliveryBytes) value :=
    field.mono (by decide) (by decide) (by decide)
  have fields : ∀ field ∈ [CanonicalValue.unsigned 1, .text message.requestId.toText,
      .unsigned message.decision.code, deliveryValue message.sealedDelivery,
      Fields.optionalDigestValue message.aadDigest],
      Within 1 1 (9 + maxSealedContactDeliveryBytes) field := by
    simp only [List.forall_mem_cons]
    exact ⟨room (smallField_unsigned 1), room (smallField_uuid _), room (smallField_unsigned _),
      within_delivery valid.small, room (smallField_optionalDigestValue _), List.forall_mem_nil _⟩
  have bytes : (wire message.canonical).length ≤ 300000 := by
    change (wire (record [.unsigned 1, .text message.requestId.toText,
      .unsigned message.decision.code, deliveryValue message.sealedDelivery,
      Fields.optionalDigestValue message.aadDigest])).length ≤ _
    have delivery := deliverySize_le valid.small
    have limit : maxSealedContactDeliveryBytes = 262144 := rfl
    have version := (smallField_unsigned 1).bytes_le
    have decision := (smallField_unsigned message.decision.code).bytes_le
    have digest := (smallField_optionalDigestValue message.aadDigest).bytes_le
    rw [length_wire_record (by simp)]
    simp only [List.map_cons, List.map_nil, List.sum_cons, List.sum_nil, length_wire_uuid,
      length_wire_delivery valid.small]
    omega
  have within : Within 2 11 300000 message.canonical :=
    { within_record 5 fields (Nat.le_refl _) (by decide) with bytes_le := bytes }
  obtain ⟨encodes, decodes⟩ := within.roundTrip (by decide) (by decide) (by decide)
  have encoded : message.encode = .ok (wire message.canonical) := mapError_eq_ok.mpr encodes
  have read : Fields.exactMap ContactError.invalid message.canonical 5 = .ok (numbered 1 _) :=
    Fields.exactMap_record _ (by simp)
  rw [decode, mapError_eq_ok.mpr decodes, ok_bind, read, ok_bind]
  simp [requireVersion, isKey, uuidText, Fields.text, UuidV7.parse_toText, decodeDecision_code,
    optionalBytes_value valid, Except.mapError, rejectIf, valid.presence, encoded]

end ContactReviewV1

end Dirextalk.Contact
