import Dirextalk.Control.CommandCodec
import Dirextalk.Control.LogRehydration

/-!
# The size of commands

The bound of a capsule, an intent or a bootstrap is the bound of the whole command that carries
it, so the longest ones cannot be put on a stream.  The length of a command is computed from its
parts; it decides whether the command can be encoded.
-/

namespace Dirextalk.Control

open Domain Lib Wire

/-! ## Lengths of fields -/

/-- A number under one of the first fifteen field numbers; zero is left out. -/
def numberLength (value : Nat) : Nat := if value = 0 then 0 else 1 + (varint value).length

/-- Bytes under one of the first fifteen field numbers; no bytes are left out. -/
def bytesLength (length : Nat) : Nat :=
  if length = 0 then 0 else 1 + (varint length).length + length

theorem length_key {number code : Nat} (small : 8 * number + code < 128) :
    (varint (8 * number + code)).length = 1 := by
  rw [varint, varintWithin, if_pos small, List.length_singleton]

@[simp] theorem length_encodeFields_append (fields rest : List Field) :
    (encodeFields (fields ++ rest)).length =
      (encodeFields fields).length + (encodeFields rest).length := by
  simp [encodeFields]

theorem length_putUint64 {number value : Nat} (small : number < 16) :
    (encodeFields (putUint64 number value)).length = numberLength value := by
  have key : (varint (8 * number + 0)).length = 1 := length_key (by omega)
  unfold putUint64 numberLength
  split
  · rfl
  · simpa [encodeFields, Field.encode, Field.key, Content.wireType, WireType.code,
      Content.encode] using key

variable {number : Nat}

theorem length_putBytes {bytes : List UInt8} (small : number < 16) :
    (encodeFields (putBytes number bytes)).length = bytesLength bytes.length := by
  have key : (varint (8 * number + 2)).length = 1 := length_key (by omega)
  unfold putBytes bytesLength
  by_cases empty : bytes = []
  · simp [empty, encodeFields]
  · simp [empty, encodeFields, Field.encode, Field.key, Content.wireType, WireType.code,
      Content.encode, key, Nat.add_assoc]

theorem length_putMessage (number : Nat) (bytes : List UInt8) :
    (encodeFields (putMessage number bytes)).length =
      (varint (8 * number + 2)).length + (varint bytes.length).length + bytes.length := by
  simp [putMessage, encodeFields, Field.encode, Field.key, Content.wireType, WireType.code,
    Content.encode, Nat.add_assoc]

theorem length_textBytes (text : String) : (textBytes text).length = text.utf8ByteSize := by
  simp [textBytes]

theorem length_putText {text : String} (small : number < 16) :
    (encodeFields (putText number text)).length = bytesLength text.utf8ByteSize := by
  rw [putText, length_putBytes small, length_textBytes]

/-! ## Lengths of payloads -/

/-- The length of the text of an identifier, with its key and its length. -/
def idLength : Nat := 38

/-- The length of 32 bytes, with their key and their length. -/
def digestLength : Nat := 34

def optionalIdLength {kind : UuidKind} (id : Option (UuidV7 kind)) : Nat :=
  if id.isSome then idLength else 0

def optionalDigestLength {α : Type} (bytes : Option α) : Nat :=
  if bytes.isSome then digestLength else 0

def entryLength (entry : ConfigEntry) : Nat :=
  let length := bytesLength entry.key.utf8ByteSize + bytesLength entry.value.utf8ByteSize
  1 + (varint length).length + length

/-- The length of the message of a payload. -/
def payloadLength : ServerCommandPayload → Nat
  | .applyConfig command =>
      numberLength command.configRevision.value +
        numberLength (encodeDesiredState command.desiredState) +
        (command.adapterConfig.map entryLength).sum + (command.runtimeConfig.map entryLength).sum
  | .rotateCredential command =>
      digestLength + numberLength command.successorRevision.value +
        numberLength command.deadlineMillis.toInt.toNat
  | .closeStream command =>
      numberLength (encodeCloseStreamReason command.reason) +
        bytesLength command.stableCode.utf8ByteSize +
        bytesLength command.redactedDetail.utf8ByteSize
  | .deliverAgentProvisioning command =>
      6 * idLength + numberLength command.provisioningRevision.value + 2 * digestLength +
        bytesLength command.sealedCapsule.length +
        numberLength command.expiresAtMillis.toInt.toNat
  | .revokeAgentProvisioning command =>
      3 * idLength + optionalIdLength command.agentDeviceId +
        numberLength command.revocationRevision.value +
        numberLength command.requestedAtMillis.toInt.toNat
  | .prepareAgentRouteRecipient command =>
      6 * idLength + 59 + bytesLength command.ownerSignedIntent.length +
        numberLength command.expiresAtMillis.toInt.toNat +
        optionalIdLength command.serverReceiptKeyId +
        optionalDigestLength command.serverReceiptPublicKey
  | .deliverAgentRouteBootstrap command =>
      7 * idLength + digestLength + bytesLength command.opaqueSealedBootstrap.length +
        numberLength command.expiresAtMillis.toInt.toNat +
        optionalIdLength command.routeHealthKeyId +
        optionalDigestLength command.routeHealthPublicKeyDigest +
        optionalIdLength command.serverReceiptKeyId +
        optionalDigestLength command.serverReceiptPublicKeyDigest

/-- The length of the command that carries a payload. -/
def commandLength (sequence generation : Nat) (specRevision : Revision)
    (payload : ServerCommandPayload) : Nat :=
  numberLength sequence + idLength + numberLength generation + numberLength specRevision.value +
    digestLength + (varint (8 * payloadNumber payload + 2)).length +
    (varint (payloadLength payload)).length + payloadLength payload

/-- The length of the part of a payload that the server does not read. -/
def opaqueLength : ServerCommandPayload → Nat
  | .deliverAgentProvisioning command => command.sealedCapsule.length
  | .prepareAgentRouteRecipient command => command.ownerSignedIntent.length
  | .deliverAgentRouteBootstrap command => command.opaqueSealedBootstrap.length
  | _ => 0

/-- The fields of a payload whose times are not negative. -/
def writtenFields : ServerCommandPayload → List Field
  | .applyConfig command => command.fields
  | .rotateCredential command => command.fields command.deadlineMillis.toInt.toNat
  | .closeStream command => command.fields
  | .deliverAgentProvisioning command => command.fields command.expiresAtMillis.toInt.toNat
  | .revokeAgentProvisioning command => command.fields command.requestedAtMillis.toInt.toNat
  | .prepareAgentRouteRecipient command => command.fields command.expiresAtMillis.toInt.toNat
  | .deliverAgentRouteBootstrap command => command.fields command.expiresAtMillis.toInt.toNat

theorem toUnsigned?_of_pos {millis : Int64} (positive : 0 < millis.toInt) :
    toUnsigned? millis = some millis.toInt.toNat := by
  rw [toUnsigned?, if_pos positive.le]

variable {payload : ServerCommandPayload}

theorem encodePayload_of_built (built : Built payload) :
    encodePayload payload = .ok (payloadNumber payload, writtenFields payload) := by
  cases payload with
  | applyConfig command => rfl
  | closeStream command => rfl
  | rotateCredential command =>
    simp only [Built, RotateCredentialCommand.new, bind_eq_ok, rejectIf_eq_ok, not_not,
      exists_const] at built
    have positive : 0 < command.deadlineMillis.toInt := by omega
    simp [encodePayload, toUnsigned?_of_pos positive, okOr, payloadNumber, writtenFields]
  | deliverAgentProvisioning command =>
    simp only [Built, DeliverAgentProvisioningCommand.new, bind_eq_ok, rejectIf_eq_ok, not_or,
      exists_const] at built
    have positive : 0 < command.expiresAtMillis.toInt := by omega
    simp [encodePayload, toUnsigned?_of_pos positive, okOr, payloadNumber, writtenFields]
  | revokeAgentProvisioning command =>
    simp only [Built, RevokeAgentProvisioningCommand.new, bind_eq_ok, rejectIf_eq_ok,
      exists_const] at built
    have positive : 0 < command.requestedAtMillis.toInt := by omega
    simp [encodePayload, toUnsigned?_of_pos positive, okOr, payloadNumber, writtenFields]
  | prepareAgentRouteRecipient command =>
    have valid : command.validate = .ok () := built
    obtain ⟨_, checked, -⟩ := bind_eq_ok.mp valid
    obtain ⟨positive, -⟩ := validateOpaque_eq_ok checked
    simp [encodePayload, valid, toUnsigned?_of_pos positive, okOr, payloadNumber, writtenFields]
  | deliverAgentRouteBootstrap command =>
    have valid : command.validate = .ok () := built
    obtain ⟨_, checked, -⟩ := bind_eq_ok.mp valid
    obtain ⟨positive, -⟩ := validateOpaque_eq_ok checked
    simp [encodePayload, valid, toUnsigned?_of_pos positive, okOr, payloadNumber, writtenFields]

variable {kind : UuidKind}

theorem bytesLength_id (id : UuidV7 kind) : bytesLength id.toText.utf8ByteSize = idLength := by
  rw [UuidV7.toText_size]
  rfl

theorem bytesLength_optionalText (id : Option (UuidV7 kind)) :
    bytesLength (optionalText id).utf8ByteSize = optionalIdLength id := by
  cases id with
  | none => rfl
  | some id => exact bytesLength_id id

theorem bytesLength_array (bytes : FixedBytes 32) :
    bytesLength bytes.toList.length = digestLength := by
  rw [bytes.length_eq]
  rfl

theorem bytesLength_optionalBytes (bytes : Option (FixedBytes 32)) :
    bytesLength (optionalBytes bytes).length = optionalDigestLength bytes := by
  cases bytes with
  | none => rfl
  | some bytes => exact bytesLength_array bytes

theorem length_encodeConfigEntries (small : number < 16) (entries : List ConfigEntry) :
    (encodeFields (encodeConfigEntries number entries)).length =
      (entries.map entryLength).sum := by
  have key : (varint (8 * number + 2)).length = 1 := length_key (by omega)
  induction entries with
  | nil => rfl
  | cons entry entries ih =>
    have split : encodeConfigEntries number (entry :: entries) =
        putMessage number (encodeFields entry.fields) ++ encodeConfigEntries number entries := rfl
    rw [split, length_encodeFields_append, ih, length_putMessage, key, ConfigEntry.fields,
      length_encodeFields_append, length_putText (by decide), length_putText (by decide)]
    rfl

theorem length_writtenFields (payload : ServerCommandPayload) :
    (encodeFields (writtenFields payload)).length = payloadLength payload := by
  cases payload with
  | applyConfig command =>
    simp only [writtenFields, ApplyConfigCommand.fields, length_encodeFields_append,
      length_putUint64, length_encodeConfigEntries, payloadLength, Nat.reduceLT]
  | rotateCredential command =>
    simp only [writtenFields, RotateCredentialCommand.fields, length_encodeFields_append,
      length_putUint64, length_putBytes, bytesLength_array, payloadLength, Nat.reduceLT]
  | closeStream command =>
    simp only [writtenFields, CloseStreamCommand.fields, length_encodeFields_append,
      length_putUint64, length_putText, payloadLength, Nat.reduceLT]
  | deliverAgentProvisioning command =>
    simp only [writtenFields, DeliverAgentProvisioningCommand.fields, length_encodeFields_append,
      length_putUint64, length_putText, length_putBytes, bytesLength_id, bytesLength_array,
      payloadLength, Nat.reduceLT]
    omega
  | revokeAgentProvisioning command =>
    simp only [writtenFields, RevokeAgentProvisioningCommand.fields, length_encodeFields_append,
      length_putUint64, length_putText, bytesLength_id, bytesLength_optionalText,
      payloadLength, Nat.reduceLT]
    omega
  | prepareAgentRouteRecipient command =>
    have identity : bytesLength command.ownerIdentityId.toText.utf8ByteSize = 59 := by
      rw [PublicId.toText_size]
      rfl
    simp only [writtenFields, PrepareAgentRouteRecipient.fields, length_encodeFields_append,
      length_putUint64, length_putText, length_putBytes, bytesLength_id, identity,
      bytesLength_optionalText, bytesLength_optionalBytes, payloadLength, Nat.reduceLT]
    omega
  | deliverAgentRouteBootstrap command =>
    have health : optionalDigestLength
        (command.routeHealthPublicKeyDigest.map Sha256Digest.bytes) =
        optionalDigestLength command.routeHealthPublicKeyDigest := by
      simp [optionalDigestLength]
    have receipt : optionalDigestLength
        (command.serverReceiptPublicKeyDigest.map Sha256Digest.bytes) =
        optionalDigestLength command.serverReceiptPublicKeyDigest := by
      simp [optionalDigestLength]
    simp only [writtenFields, DeliverAgentRouteBootstrap.fields, length_encodeFields_append,
      length_putUint64, length_putText, length_putBytes, bytesLength_id, bytesLength_array,
      bytesLength_optionalText, bytesLength_optionalBytes, health, receipt, payloadLength,
      Nat.reduceLT]
    omega

/-! ## The length decides -/

theorem length_envelope (sequence generation : Nat) (operationId : RequestId)
    (specRevision : Revision) (payloadDigest : Sha256Digest) (payload : ServerCommandPayload) :
    (encodeFields (envelopeFields sequence operationId generation specRevision payloadDigest
      (payloadNumber payload) (encodeFields (writtenFields payload)))).length =
      commandLength sequence generation specRevision payload := by
  simp only [envelopeFields, length_encodeFields_append, length_putUint64, length_putText,
    length_putBytes, length_putMessage, bytesLength_id, bytesLength_array, length_writtenFields,
    commandLength, Nat.reduceLT]
  omega

theorem numberLength_pos {value : Nat} (positive : 0 < value) : 0 < numberLength value := by
  rw [numberLength, if_neg (Nat.ne_of_gt positive)]
  omega

theorem payloadLength_pos (payload : ServerCommandPayload) : 0 < payloadLength payload := by
  cases payload with
  | applyConfig command =>
    have revision := numberLength_pos command.configRevision.pos
    simp only [payloadLength]
    omega
  | closeStream command =>
    have reason : 0 < numberLength (encodeCloseStreamReason command.reason) :=
      numberLength_pos (by cases command.reason <;> decide)
    simp only [payloadLength]
    omega
  | _ => simp only [payloadLength, idLength, digestLength]; omega

theorem encodes_iff_commandLength [Sha256] {sequence generation specRevision : Revision}
    {operationId : RequestId} (built : Built payload) :
    (∃ encoded, encodeDurableCommand sequence.value operationId generation.value specRevision
      payload = .ok encoded) ↔
      commandLength sequence.value generation.value specRevision payload ≤ maxCommandBytes := by
  have sequenced : Revision.new sequence.value = .ok sequence := Revision.new_eq_ok.mpr rfl
  have generated : Revision.new generation.value = .ok generation := Revision.new_eq_ok.mpr rfl
  constructor
  · rintro ⟨encoded, written⟩
    simp only [encodeDurableCommand, bind_eq_ok, encodePayload_of_built built, Prod.exists]
      at written
    obtain ⟨_, -, _, -, _, _, same, digest, -, exact, bounded, -⟩ := written
    cases same
    obtain ⟨⟨-, within⟩, -⟩ := ExactCommandBytes.new_eq_ok.mp bounded
    rwa [length_envelope] at within
  · intro within
    have inside : payloadLength payload ≤ maxCommandBytes := by
      simp only [commandLength] at within
      omega
    have present : encodeFields (writtenFields payload) ≠ [] := by
      rw [← List.length_pos_iff, length_writtenFields]
      exact payloadLength_pos payload
    generalize calculated : domainDigest "dirextalk.connector-command-payload.v1"
      [encodeFields (writtenFields payload)] = digest
    have digested : commandPayloadDigest (encodeFields (writtenFields payload)) = .ok digest :=
      commandPayloadDigest_eq_ok.mpr
        ⟨⟨present, by rwa [length_writtenFields]⟩, calculated.symm⟩
    have lengths := length_envelope sequence.value generation.value operationId specRevision
      digest payload
    have written : encodeFields (envelopeFields sequence.value operationId generation.value
        specRevision digest (payloadNumber payload) (encodeFields (writtenFields payload))) ≠
          [] := by
      rw [← List.length_pos_iff, lengths]
      simp only [commandLength, idLength]
      omega
    have short := within
    rw [← lengths] at short
    let whole : ExactCommandBytes := ⟨_, written, short⟩
    have bounded : ExactCommandBytes.new _ = .ok whole :=
      ExactCommandBytes.new_eq_ok.mpr ⟨⟨written, short⟩, rfl⟩
    exact ⟨_, bind_eq_ok.mpr ⟨_, mapError_eq_ok.mpr sequenced, bind_eq_ok.mpr ⟨_,
      mapError_eq_ok.mpr generated, bind_eq_ok.mpr ⟨_, encodePayload_of_built built,
      bind_eq_ok.mpr ⟨_, digested, bind_eq_ok.mpr ⟨_, bounded, rfl⟩⟩⟩⟩⟩⟩

/-! ## What always fits -/

theorem numberLength_le (digits : Nat) {value : Nat} (fits : value < 128 ^ (digits + 1)) :
    numberLength value ≤ digits + 2 := by
  have short := length_varint_of_lt digits fits
  unfold numberLength
  split <;> omega

theorem bytesLength_le (digits : Nat) {length : Nat} (fits : length < 128 ^ (digits + 1)) :
    bytesLength length ≤ length + digits + 2 := by
  have short := length_varint_of_lt digits fits
  unfold bytesLength
  split <;> omega

theorem numberLength_revision (revision : Revision) : numberLength revision.value ≤ 9 :=
  numberLength_le 7 (Nat.lt_of_le_of_lt revision.le_max (by decide))

theorem numberLength_millis (millis : Int64) : numberLength millis.toInt.toNat ≤ 10 := by
  have bounded : millis.toInt < 9223372036854775808 := millis.toInt_lt
  exact numberLength_le 8 (by omega)

theorem entryLength_le {entries : List ConfigEntry} {entry : ConfigEntry}
    (valid : canonicalConfigIsValid entries = true) (member : entry ∈ entries) :
    entryLength entry ≤ 1096 := by
  simp only [canonicalConfigIsValid, decide_eq_true_eq, List.all_eq_true] at valid
  obtain ⟨-, each, -⟩ := valid
  obtain ⟨name, value, -⟩ := each entry member
  have key : entry.key.utf8ByteSize ≤ 64 := by
    simp only [validLowerStableName, decide_eq_true_eq] at name
    exact name.2.1
  have keyLength := bytesLength_le 0 (Nat.lt_of_le_of_lt key (by decide))
  have short : entry.value.utf8ByteSize ≤ 1024 := value
  have valueLength := bytesLength_le 1 (Nat.lt_of_le_of_lt short (by decide))
  have total :
      bytesLength entry.key.utf8ByteSize + bytesLength entry.value.utf8ByteSize ≤ 1093 := by omega
  have lengthLength := length_varint_of_lt 1 (Nat.lt_of_le_of_lt total (by decide))
  simp only [entryLength]
  omega

theorem entriesLength_le {entries : List ConfigEntry}
    (valid : canonicalConfigIsValid entries = true) :
    (entries.map entryLength).sum ≤ 70144 := by
  have short : entries.length ≤ 64 := by
    simp only [canonicalConfigIsValid, decide_eq_true_eq] at valid
    exact valid.1
  calc (entries.map entryLength).sum
      ≤ (entries.map entryLength).length • 1096 :=
        List.sum_le_card_nsmul _ _ (by
          intro length member
          obtain ⟨entry, held, rfl⟩ := List.mem_map.mp member
          exact entryLength_le valid held)
    _ ≤ 70144 := by
        rw [List.length_map, smul_eq_mul]
        omega

theorem optionalIdLength_le (id : Option (UuidV7 kind)) : optionalIdLength id ≤ 38 := by
  unfold optionalIdLength
  split <;> decide

theorem optionalDigestLength_le {α : Type} (bytes : Option α) :
    optionalDigestLength bytes ≤ 34 := by
  unfold optionalDigestLength
  split <;> decide

/-- The longest command without the bytes that the server does not read takes 562 bytes. -/
theorem commandLength_le {sequence generation specRevision : Revision} (built : Built payload)
    (room : opaqueLength payload + 562 ≤ maxCommandBytes) :
    commandLength sequence.value generation.value specRevision payload ≤ maxCommandBytes := by
  have first := numberLength_revision sequence
  have third := numberLength_revision generation
  have fourth := numberLength_revision specRevision
  have key : (varint (8 * payloadNumber payload + 2)).length ≤ 2 := by
    refine length_varint_of_lt 1 ?_
    have listed := isPayloadField_payloadNumber payload
    simp only [isPayloadField, decide_eq_true_eq] at listed
    omega
  -- it is enough to bound the payload
  have enough (within : payloadLength payload ≤ 196504) :
      commandLength sequence.value generation.value specRevision payload ≤ maxCommandBytes := by
    have lengthLength := length_varint_of_lt 2 (Nat.lt_of_le_of_lt within (by decide))
    simp only [commandLength, idLength, digestLength, maxCommandBytes]
    omega
  apply enough
  cases payload with
  | applyConfig command =>
    obtain ⟨adapterConfig, runtimeConfig, built⟩ := built
    simp only [ApplyConfigCommand.new, bind_eq_ok, pure_eq_ok] at built
    obtain ⟨_, -, adapter, adapterSorted, runtime, runtimeSorted, same⟩ := built
    have revision := numberLength_revision command.configRevision
    have state : numberLength (encodeDesiredState command.desiredState) ≤ 2 :=
      numberLength_le 0 (by cases command.desiredState <;> decide)
    have adapterLength := entriesLength_le (valid_of_canonicalizeConfig adapterSorted)
    have runtimeLength := entriesLength_le (valid_of_canonicalizeConfig runtimeSorted)
    have adapterSame : command.adapterConfig = adapter := by rw [← same]
    have runtimeSame : command.runtimeConfig = runtime := by rw [← same]
    simp only [payloadLength, adapterSame, runtimeSame]
    omega
  | rotateCredential command =>
    have revision := numberLength_revision command.successorRevision
    have deadline := numberLength_millis command.deadlineMillis
    simp only [payloadLength, digestLength]
    omega
  | closeStream command =>
    simp only [Built, CloseStreamCommand.new, bind_eq_ok, rejectIf_eq_ok, not_or, Nat.not_lt,
      Bool.not_eq_false, exists_const] at built
    obtain ⟨⟨code, detail, -⟩, -⟩ := built
    simp only [validUpperSnakeCode, decide_eq_true_eq] at code
    have reason : numberLength (encodeCloseStreamReason command.reason) ≤ 2 :=
      numberLength_le 0 (by cases command.reason <;> decide)
    have codeLength := bytesLength_le 0 (Nat.lt_of_le_of_lt code.1.2 (by decide))
    have detailLength := bytesLength_le 1 (Nat.lt_of_le_of_lt detail (by decide))
    simp only [payloadLength]
    simp only [maxCloseStreamCodeBytes, maxCloseStreamDetailBytes] at code detail
    omega
  | deliverAgentProvisioning command =>
    simp only [opaqueLength, maxCommandBytes] at room
    have revision := numberLength_revision command.provisioningRevision
    have expiry := numberLength_millis command.expiresAtMillis
    have below : command.sealedCapsule.length < 128 ^ 3 := by omega
    have capsule := bytesLength_le 2 below
    simp only [payloadLength, idLength, digestLength]
    omega
  | revokeAgentProvisioning command =>
    have revision := numberLength_revision command.revocationRevision
    have requested := numberLength_millis command.requestedAtMillis
    have device := optionalIdLength_le command.agentDeviceId
    simp only [payloadLength, idLength]
    omega
  | prepareAgentRouteRecipient command =>
    simp only [opaqueLength, maxCommandBytes] at room
    have expiry := numberLength_millis command.expiresAtMillis
    have below : command.ownerSignedIntent.length < 128 ^ 3 := by omega
    have intent := bytesLength_le 2 below
    have receiptId := optionalIdLength_le command.serverReceiptKeyId
    have receiptKey := optionalDigestLength_le command.serverReceiptPublicKey
    simp only [payloadLength, idLength]
    omega
  | deliverAgentRouteBootstrap command =>
    simp only [opaqueLength, maxCommandBytes] at room
    have expiry := numberLength_millis command.expiresAtMillis
    have below : command.opaqueSealedBootstrap.length < 128 ^ 3 := by omega
    have bootstrap := bytesLength_le 2 below
    have healthId := optionalIdLength_le command.routeHealthKeyId
    have healthKey := optionalDigestLength_le command.routeHealthPublicKeyDigest
    have receiptId := optionalIdLength_le command.serverReceiptKeyId
    have receiptKey := optionalDigestLength_le command.serverReceiptPublicKeyDigest
    simp only [payloadLength, idLength, digestLength]
    omega

/-- The constructors bound the bytes that the server does not read by the bound of the whole
command, so a payload can be put on a stream exactly when its command is short enough.  562 bytes
less are always short enough. -/
theorem command_encodes_iff [Sha256] (sequence generation specRevision : Revision)
    (operationId : RequestId) (payload : ServerCommandPayload) (built : Built payload) :
    ((∃ encoded, encodeDurableCommand sequence.value operationId generation.value specRevision
        payload = .ok encoded) ↔
      commandLength sequence.value generation.value specRevision payload ≤ maxCommandBytes) ∧
    (opaqueLength payload + 562 ≤ maxCommandBytes →
      ∃ encoded, encodeDurableCommand sequence.value operationId generation.value specRevision
        payload = .ok encoded) :=
  ⟨encodes_iff_commandLength built, fun room =>
    (encodes_iff_commandLength built).mpr (commandLength_le built room)⟩

/-! ### A capsule of the longest length -/

section Sample

attribute [local instance] fixedSha256

/-- A delivery with a capsule of so many bytes. -/
def sampleDelivery (length : Nat) : DeliverAgentProvisioningCommand where
  deliveryId := .tagged 1
  approvalId := .tagged 2
  bindingId := .tagged 3
  installationId := .tagged 4
  agentDeviceId := .tagged 5
  provisioningRevision := .initial
  recipientKeyId := .tagged 6
  recipientDescriptorDigest := sampleDigest
  capsuleDigest := sampleDigest
  sealedCapsule := List.replicate length 0
  expiresAtMillis := 1

theorem built_sampleDelivery {length : Nat} (positive : 0 < length) (short : length ≤ 196608) :
    Built (.deliverAgentProvisioning (sampleDelivery length)) := by
  refine bind_eq_ok.mpr ⟨(), rejectIf_eq_ok.mpr ?_, rfl⟩
  have bounded : ¬length > maxProvisioningCapsuleBytes := Nat.not_lt.mpr short
  have someBytes : (sampleDelivery length).sealedCapsule ≠ [] := by
    rw [← List.length_pos_iff, sampleDelivery, List.length_replicate]
    exact positive
  have expiry : ¬(sampleDelivery length).expiresAtMillis.toInt ≤ 0 := by
    change ¬(1 : Int64).toInt ≤ 0
    decide
  simp only [not_or]
  exact ⟨someBytes, by rwa [sampleDelivery, List.length_replicate], expiry⟩

theorem length_lt_commandLength (length : Nat) :
    length < commandLength Revision.initial.value Revision.initial.value .initial
      (.deliverAgentProvisioning (sampleDelivery length)) := by
  have capsule : length ≤ bytesLength (sampleDelivery length).sealedCapsule.length := by
    rw [sampleDelivery, List.length_replicate, bytesLength]
    split <;> omega
  simp only [commandLength, payloadLength, idLength]
  omega

theorem opaqueLength_sampleDelivery (length : Nat) :
    opaqueLength (.deliverAgentProvisioning (sampleDelivery length)) = length := by
  rw [opaqueLength, sampleDelivery, List.length_replicate]

/-- The constructor takes the capsule, and the command that carries it is too long. -/
theorem longest_capsule_refused :
    Built (.deliverAgentProvisioning (sampleDelivery 196608)) ∧
      CarriesSuccessor .initial (.deliverAgentProvisioning (sampleDelivery 196608)) ∧
      ¬∃ encoded, encodeDurableCommand 1 (.tagged 7) 1 .initial
        (.deliverAgentProvisioning (sampleDelivery 196608)) = .ok encoded := by
  have built : Built (.deliverAgentProvisioning (sampleDelivery 196608)) :=
    built_sampleDelivery (by decide) (by decide)
  refine ⟨built, trivial, fun encodes => ?_⟩
  have short : commandLength Revision.initial.value Revision.initial.value .initial
      (.deliverAgentProvisioning (sampleDelivery 196608)) ≤ maxCommandBytes :=
    (encodes_iff_commandLength built).mp encodes
  exact Nat.not_lt.mpr short (length_lt_commandLength 196608)

theorem sampleDelivery_encodes :
    ∃ encoded, encodeDurableCommand 1 (.tagged 7) 1 .initial
      (.deliverAgentProvisioning (sampleDelivery 196046)) = .ok encoded := by
  have built : Built (.deliverAgentProvisioning (sampleDelivery 196046)) :=
    built_sampleDelivery (by decide) (by decide)
  refine (command_encodes_iff .initial .initial .initial (.tagged 7) _ built).2 ?_
  rw [opaqueLength_sampleDelivery]
  decide

end Sample

end Dirextalk.Control
