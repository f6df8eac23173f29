import Dirextalk.Identity.StoredLog

/-!
# Contact invites, requests and reviews

The exact messages of contact admission.  A device hands out invites, anyone who
holds one may leave a sealed request, and the device accepts it with a sealed
delivery or rejects it.  The sealed bytes are never opened here.
-/

namespace Dirextalk.Contact

open Domain Identity Lib Wire

open Fields (exactMap keyed unsigned text digest fixedBytes signedInt optionalDigest
  optionalDigestValue)

def maxSealedContactRequestBytes : Nat := 131072
def maxSealedContactDeliveryBytes : Nat := 262144
def maxInviteLifetimeMs : Int := 86400000
def maxRequestLifetimeMs : Int := 86400000
def maxInviteUses : UInt8 := 8

def capabilityDomain : List UInt8 := textBytes "dirextalk.contact-invite-capability.v1\x00"
def inviteSignatureDomain : List UInt8 := textBytes "dirextalk.contact-invite-signature.v1\x00"
def requestAadDomain : List UInt8 := textBytes "dirextalk.contact-request-sealed-aad.v1\x00"
def deliveryAadDomain : List UInt8 := textBytes "dirextalk.contact-delivery-sealed-aad.v1\x00"
def receiptCapabilityDomain : List UInt8 := textBytes "dirextalk.contact-receipt-capability.v1\x00"

/-- Why an artifact is refused. -/
inductive ContactError where
  | invalid
  | invalidSignature
  deriving DecidableEq, Repr

open ContactError

/-- `VerifyingKey::verify` of the signature library, which is not the strict check. -/
class PermissiveEd25519 [Ed25519] where
  verify : SigningPublicKey → List UInt8 → Ed25519Signature → Bool

/-- The time of a clock reading or a column, in milliseconds. -/
def millisOf (time : UtcMillis) : Int := time.value.toInt

/-! ## Readers -/

variable (value : CanonicalValue)

/-- The first field of every artifact is the version `1`. -/
def requireVersion : Except ContactError Unit :=
  rejectIf (isKey 1 value = false) invalid

/-- An id, written as text. -/
def uuidText {kind : UuidKind} : Except ContactError (UuidV7 kind) := do
  (UuidV7.parse (← text invalid value)).mapError fun _ => invalid

/-- An identity, written as text. -/
def identityText : Except ContactError IdentityId := do
  (PublicId.parse (← text invalid value)).mapError fun _ => invalid

/-- A time inside the range of the protocol. -/
def millis : Except ContactError UtcMillis := do
  (UtcMillis.new (← signedInt invalid value)).mapError fun _ => invalid

/-- Between one and `limit` bytes. -/
def boundedBytes (limit : Nat) : CanonicalValue → Except ContactError (List UInt8)
  | .bytes content => if content = [] ∨ limit < content.length then .error invalid else .ok content
  | _ => .error invalid

/-- Absent bytes are written as `null`. -/
def optionalBytes (limit : Nat) : CanonicalValue → Except ContactError (Option (List UInt8))
  | .null => .ok none
  | value => (boundedBytes limit value).map some

/-- The field of a delivery that may be absent. -/
def deliveryValue (delivery : Option (List UInt8)) : CanonicalValue :=
  delivery.elim .null .bytes

/-! ## Invites -/

/-- An invite that a device of the owner has signed. -/
structure ContactInviteV1 where
  inviteId : InviteCapabilityId
  ownerIdentityId : IdentityId
  ownerDeviceId : DeviceId
  capabilityHash : Sha256Digest
  maxUses : UInt8
  issuedAt : UtcMillis
  expiresAt : UtcMillis
  signature : Ed25519Signature
  uses_bounded : 1 ≤ maxUses ∧ maxUses ≤ maxInviteUses
  issued_lt : millisOf issuedAt < millisOf expiresAt
  lifetime_le : millisOf expiresAt - millisOf issuedAt ≤ maxInviteLifetimeMs
  deriving DecidableEq

namespace ContactInviteV1

variable (invite : ContactInviteV1)

/-- The fields before the signature. -/
def unsignedFields : List CanonicalValue :=
  [.unsigned 1, .text invite.inviteId.toText, .text invite.ownerIdentityId.toText,
    .text invite.ownerDeviceId.toText, toCanonicalValue invite.capabilityHash,
    .unsigned invite.maxUses.toUInt64, toCanonicalValue invite.issuedAt,
    toCanonicalValue invite.expiresAt]

/-- The signature is the last field. -/
def canonical : CanonicalValue :=
  record (invite.unsignedFields ++ [toCanonicalValue invite.signature])

/-- The exact bytes of the invite. -/
def encode : Except ContactError (List UInt8) :=
  (encodeDeterministicCbor invite.canonical).mapError fun _ => invalid

/-- Reads an invite; only its own encoding is accepted. -/
def decode (exact : List UInt8) : Except ContactError ContactInviteV1 := do
  let value ← (decodeDeterministicCbor exact).mapError fun _ => invalid
  let fields ← exactMap invalid value 9
  requireVersion (← keyed invalid fields 1)
  let inviteId ← uuidText (← keyed invalid fields 2)
  let ownerIdentityId ← identityText (← keyed invalid fields 3)
  let ownerDeviceId ← uuidText (← keyed invalid fields 4)
  let capabilityHash ← digest invalid (← keyed invalid fields 5)
  let uses ← unsigned invalid (← keyed invalid fields 6)
  rejectIf (256 ≤ uses.toNat) invalid
  let maxUses := uses.toUInt8
  if usesBounded : 1 ≤ maxUses ∧ maxUses ≤ maxInviteUses then
    let issuedAt ← millis (← keyed invalid fields 7)
    let expiresAt ← millis (← keyed invalid fields 8)
    if lifetime : millisOf issuedAt < millisOf expiresAt ∧
        millisOf expiresAt - millisOf issuedAt ≤ maxInviteLifetimeMs then
      let signature ← fixedBytes invalid 64 (← keyed invalid fields 9)
      let invite : ContactInviteV1 := {
        inviteId, ownerIdentityId, ownerDeviceId, capabilityHash, maxUses, issuedAt, expiresAt
        signature := ⟨signature⟩
        uses_bounded := usesBounded
        issued_lt := lifetime.1
        lifetime_le := lifetime.2 }
      rejectIf ((← invite.encode) ≠ exact) invalid
      return invite
    else .error invalid
  else .error invalid

/-- What the owner's device signs. -/
def signatureInput : Except ContactError (List UInt8) := do
  let exact ← (encodeDeterministicCbor (record invite.unsignedFields)).mapError fun _ => invalid
  return inviteSignatureDomain ++ exact

/-- Checks the signature under the key of the owner's device. -/
def verify [Ed25519] [PermissiveEd25519]
    (signingKey : SigningPublicKey) : Except ContactError Unit := do
  let input ← invite.signatureInput
  rejectIf (PermissiveEd25519.verify signingKey input invite.signature = false) invalidSignature

end ContactInviteV1

/-- What the invite stores of its secret. -/
def inviteCapabilityHash [Sha256] (secret : FixedBytes 32) : Sha256Digest :=
  .hashDomain capabilityDomain secret.toList

/-- What the request stores of its receipt secret. -/
def contactReceiptCapabilityHash [Sha256] (secret : FixedBytes 32) : Sha256Digest :=
  .hashDomain receiptCapabilityDomain secret.toList

/-! ## Requests -/

/-- A request that redeems an invite. -/
structure ContactRequestV1 where
  requestId : RequestId
  inviteId : InviteCapabilityId
  targetIdentityId : IdentityId
  targetDeviceId : DeviceId
  receiptCapabilityHash : Sha256Digest
  sealedRequest : List UInt8
  aadDigest : Sha256Digest
  deriving DecidableEq

namespace ContactRequestV1

variable (request : ContactRequestV1)

/-- The fields that the sealed request is bound to. -/
def aadFields : List CanonicalValue :=
  [.unsigned 1, .text request.requestId.toText, .text request.inviteId.toText,
    .text request.targetIdentityId.toText, .text request.targetDeviceId.toText,
    toCanonicalValue request.receiptCapabilityHash]

/-- The bound fields, the sealed bytes and the digest that binds them. -/
def canonical : CanonicalValue :=
  record (request.aadFields ++ [.bytes request.sealedRequest, toCanonicalValue request.aadDigest])

/-- The exact bytes of the request. -/
def encode : Except ContactError (List UInt8) :=
  (encodeDeterministicCbor request.canonical).mapError fun _ => invalid

variable [Sha256]

/-- The digest that has to stand in the request. -/
def expectedAadDigest : Except ContactError Sha256Digest := do
  let bytes ← (encodeDeterministicCbor (record request.aadFields)).mapError fun _ => invalid
  return .hashDomain requestAadDomain bytes

/-- Reads a request and checks the digest over its fields. -/
def decode (exact : List UInt8) : Except ContactError ContactRequestV1 := do
  let value ← (decodeDeterministicCbor exact).mapError fun _ => invalid
  let fields ← exactMap invalid value 8
  requireVersion (← keyed invalid fields 1)
  let requestId ← uuidText (← keyed invalid fields 2)
  let inviteId ← uuidText (← keyed invalid fields 3)
  let targetIdentityId ← identityText (← keyed invalid fields 4)
  let targetDeviceId ← uuidText (← keyed invalid fields 5)
  let receiptCapabilityHash ← digest invalid (← keyed invalid fields 6)
  let sealedRequest ← boundedBytes maxSealedContactRequestBytes (← keyed invalid fields 7)
  let aadDigest ← digest invalid (← keyed invalid fields 8)
  let request : ContactRequestV1 := ⟨requestId, inviteId, targetIdentityId, targetDeviceId,
    receiptCapabilityHash, sealedRequest, aadDigest⟩
  rejectIf ((← request.expectedAadDigest) ≠ aadDigest) invalid
  rejectIf ((← request.encode) ≠ exact) invalid
  return request

end ContactRequestV1

/-! ## Reviews -/

/-- What the owner decides about a request. -/
inductive ContactDecisionV1 where
  | accept
  | reject
  deriving DecidableEq, Repr

/-- The number of the decision in a review. -/
def ContactDecisionV1.code : ContactDecisionV1 → UInt64
  | .accept => 1
  | .reject => 2

/-- A review of a request, with the delivery that answers it. -/
structure ContactReviewV1 where
  requestId : RequestId
  decision : ContactDecisionV1
  sealedDelivery : Option (List UInt8)
  aadDigest : Option Sha256Digest
  deriving DecidableEq

namespace ContactReviewV1

variable (review : ContactReviewV1)

/-- A rejection has `null` in place of a delivery and its digest. -/
def canonical : CanonicalValue :=
  record [.unsigned 1, .text review.requestId.toText, .unsigned review.decision.code,
    deliveryValue review.sealedDelivery, optionalDigestValue review.aadDigest]

/-- The exact bytes of the review. -/
def encode : Except ContactError (List UInt8) :=
  (encodeDeterministicCbor review.canonical).mapError fun _ => invalid

/-- Only `1` and `2` are decisions. -/
def decodeDecision (value : CanonicalValue) : Except ContactError ContactDecisionV1 := do
  match ← unsigned invalid value with
  | 1 => .ok .accept
  | 2 => .ok .reject
  | _ => .error invalid

/-- Reads a review; exactly an acceptance carries a delivery and its digest. -/
def decode (exact : List UInt8) : Except ContactError ContactReviewV1 := do
  let value ← (decodeDeterministicCbor exact).mapError fun _ => invalid
  let fields ← exactMap invalid value 5
  requireVersion (← keyed invalid fields 1)
  let requestId ← uuidText (← keyed invalid fields 2)
  let decision ← decodeDecision (← keyed invalid fields 3)
  let sealedDelivery ← optionalBytes maxSealedContactDeliveryBytes (← keyed invalid fields 4)
  let aadDigest ← optionalDigest invalid (← keyed invalid fields 5)
  rejectIf (decide (decision = .accept) ≠ (sealedDelivery.isSome && aadDigest.isSome)) invalid
  let review : ContactReviewV1 := ⟨requestId, decision, sealedDelivery, aadDigest⟩
  rejectIf ((← review.encode) ≠ exact) invalid
  return review

/-- The map that a sealed delivery is bound to. -/
def deliveryAad (requestId : RequestId) (inviteId : InviteCapabilityId)
    (targetIdentity : IdentityId) (targetDevice : DeviceId) : CanonicalValue :=
  record [.unsigned 1, .text requestId.toText, .text inviteId.toText, .text targetIdentity.toText,
    .text targetDevice.toText, .unsigned 1]

/-- An accepted delivery is bound to the request, the invite and the device. -/
def verifyAad [Sha256] (inviteId : InviteCapabilityId)
    (targetIdentity : IdentityId) (targetDevice : DeviceId) : Except ContactError Unit := do
  if review.decision = .reject then return
  let exact ← (encodeDeterministicCbor
    (deliveryAad review.requestId inviteId targetIdentity targetDevice)).mapError fun _ => invalid
  rejectIf (review.aadDigest ≠ some (.hashDomain deliveryAadDomain exact)) invalid

end ContactReviewV1

end Dirextalk.Contact
