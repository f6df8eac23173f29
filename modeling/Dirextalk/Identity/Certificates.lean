import Dirextalk.Domain.Text
import Dirextalk.Wire.Primitives

/-!
# Device certificates and relay descriptors

The signed documents that identity-log events carry, with the checks of their
constructors as fields, and the hashing and signature helpers of the log.
-/

namespace Dirextalk.Identity

open Domain Lib Wire

/-! ## Constants and errors -/

/-- The frozen original wire version, `1.0`, retained for replay-only reads. -/
def identityLogV10WireVersion : WireVersion := ⟨⟨1, 0⟩, ⟨1, 0⟩⟩

/-- The current writer and minimum-reader version, `1.1`. -/
def identityLogWireVersion : WireVersion := ⟨⟨1, 1⟩, ⟨1, 1⟩⟩

def identityLogEventHashDomain : List UInt8 := textBytes "dirextalk.identity-log-event.v1\x00"
def identityLogSignatureDomain : List UInt8 := textBytes "dirextalk.identity-log-signature.v1\x00"
def identityLogEntryHashDomain : List UInt8 := textBytes "dirextalk.identity-log-entry.v1\x00"
def deviceCertificateHashDomain : List UInt8 := textBytes "dirextalk.device-certificate.v1\x00"
def deviceCertificateSignatureDomain : List UInt8 :=
  textBytes "dirextalk.device-certificate-signature.v1\x00"

def maxRelayUrls : Nat := 8
def maxRelayUrlBytes : Nat := 512

/-- The two versions of the wire format. -/
inductive IdentityLogWireLine where
  | frozenV10
  | currentV11
  deriving DecidableEq, Repr

/-- Why an event or a log is refused. -/
inductive IdentityLogError where
  | invalidWireVersion
  | invalidCanonical
  | invalidSignature
  | invalidGenesis
  | invalidEventShape
  | identityMismatch
  | sequenceMismatch
  | previousHashMismatch
  | replay
  | unauthorizedSigner
  | invalidDeviceCertificate
  | deviceAlreadyExists
  | deviceNotFound
  | deviceAlreadyRevoked
  | invalidRotation
  | invalidRelayDescriptor
  deriving DecidableEq, Repr

/-- How a call ends without a value: with an error, or in a failed `expect`. -/
inductive Failure where
  | returned (error : IdentityLogError)
  | panicked (message : String)
  deriving DecidableEq, Repr

open Failure IdentityLogError

/-! ## Wire lines, hashes and signatures -/

/-- Two versions of the log are supported. -/
def identityLogWireLine (wire : WireVersion) : Except Failure IdentityLogWireLine :=
  if wire = identityLogV10WireVersion then .ok .frozenV10
  else if wire = identityLogWireVersion then .ok .currentV11
  else .error (returned invalidWireVersion)

def validateWireVersion (wire : WireVersion) : Except Failure Unit :=
  (identityLogWireLine wire).map fun _ => ()

def identityValue (identityId : IdentityId) : CanonicalValue := .text identityId.toText

def deviceIdValue (deviceId : DeviceId) : CanonicalValue := .text deviceId.toText

def signatureInput (domain : List UInt8) (digest : Sha256Digest) : List UInt8 :=
  domain ++ digest.bytes.toList

/-- Hash of the canonical encoding, under a domain. -/
def canonicalHash [Sha256] (domain : List UInt8) (value : CanonicalValue) :
    Except Failure Sha256Digest := do
  let bytes ← (encodeDeterministicCbor value).mapError fun _ => returned invalidCanonical
  return .hashDomain domain bytes

/-- The strict check under a key. -/
def verifySignature [Ed25519] (signer : SigningPublicKey) (input : List UInt8)
    (signature : Ed25519Signature) : Except Failure Unit :=
  match Ed25519.point signer.asBytes with
  | none => .error (returned invalidSignature)
  | some _ =>
      rejectIf (Ed25519.verifyStrict signer.asBytes input signature.bytes = false)
        (returned invalidSignature)

/-! ## Device certificates -/

/-- An X25519 device encryption key: any 32 bytes but zeros. -/
structure DeviceEncryptionPublicKey where
  bytes : FixedBytes 32
  nonzero : bytes.toList.all (· = 0) = false
  deriving DecidableEq

/-- Why bytes are no encryption key. -/
inductive DeviceEncryptionPublicKeyError where
  | allZero
  deriving DecidableEq, Repr

/-- Any bytes but zeros. -/
def DeviceEncryptionPublicKey.tryFrom (value : FixedBytes 32) :
    Except DeviceEncryptionPublicKeyError DeviceEncryptionPublicKey :=
  if nonzero : value.toList.all (· = 0) = false then .ok ⟨value, nonzero⟩ else .error .allZero

instance : CanonicalEncode DeviceEncryptionPublicKey where
  toCanonicalValue key := .bytes key.bytes.toList

section Documents

variable [Ed25519]

/-- The unsigned root-issued content of a device certificate. -/
structure UnsignedDeviceCertificateV1 where
  wire : WireVersion
  identityId : IdentityId
  deviceId : DeviceId
  deviceSigningKey : SigningPublicKey
  deviceEncryptionKey : DeviceEncryptionPublicKey
  issuerRootKey : SigningPublicKey
  issuedAt : UtcMillis
  wire_supported : validateWireVersion wire = .ok ()
  signing_ne_encryption : deviceSigningKey.asBytes ≠ deviceEncryptionKey.bytes
  signing_ne_issuer : deviceSigningKey ≠ issuerRootKey
  deriving DecidableEq

namespace UnsignedDeviceCertificateV1

/-- The device's keys differ from each other and from the issuer's. -/
def new (wire : WireVersion) (identityId : IdentityId) (deviceId : DeviceId)
    (deviceSigningKey : SigningPublicKey) (deviceEncryptionKey : DeviceEncryptionPublicKey)
    (issuerRootKey : SigningPublicKey) (issuedAt : UtcMillis) :
    Except Failure UnsignedDeviceCertificateV1 :=
  match supported : validateWireVersion wire with
  | .error error => .error error
  | .ok () =>
      if overlap : deviceSigningKey.asBytes = deviceEncryptionKey.bytes ∨
          deviceSigningKey = issuerRootKey then
        .error (returned invalidDeviceCertificate)
      else
        .ok { wire, identityId, deviceId, deviceSigningKey, deviceEncryptionKey, issuerRootKey
              issuedAt, wire_supported := supported
              signing_ne_encryption := fun same => overlap (.inl same)
              signing_ne_issuer := fun same => overlap (.inr same) }

def fields (unsigned : UnsignedDeviceCertificateV1) : List CanonicalValue :=
  [toCanonicalValue unsigned.wire, identityValue unsigned.identityId,
    deviceIdValue unsigned.deviceId, toCanonicalValue unsigned.deviceSigningKey,
    toCanonicalValue unsigned.deviceEncryptionKey, toCanonicalValue unsigned.issuerRootKey,
    toCanonicalValue unsigned.issuedAt]

instance : CanonicalEncode UnsignedDeviceCertificateV1 where
  toCanonicalValue unsigned := record unsigned.fields

/-- The domain-separated digest that the issuer authenticates. -/
def signingDigest [Sha256] (unsigned : UnsignedDeviceCertificateV1) : Except Failure Sha256Digest :=
  canonicalHash deviceCertificateHashDomain (toCanonicalValue unsigned)

end UnsignedDeviceCertificateV1

def deviceCertificateSignatureInput (digest : Sha256Digest) : List UInt8 :=
  signatureInput deviceCertificateSignatureDomain digest

/-- A root-signed certificate binding one device's signing and encryption keys. -/
structure DeviceCertificateV1 where
  unsigned : UnsignedDeviceCertificateV1
  signature : Ed25519Signature
  deriving DecidableEq

namespace DeviceCertificateV1

/-- Re-verifies the issuer proof before a certificate enters the log. -/
def verify [Sha256] (certificate : DeviceCertificateV1) : Except Failure Unit := do
  let digest ← certificate.unsigned.signingDigest
  (verifySignature certificate.unsigned.issuerRootKey (deviceCertificateSignatureInput digest)
    certificate.signature).mapError fun _ => returned invalidDeviceCertificate

/-- Only a verified certificate is returned. -/
def signed [Sha256] (unsigned : UnsignedDeviceCertificateV1) (signature : Ed25519Signature) :
    Except Failure DeviceCertificateV1 := do
  let certificate : DeviceCertificateV1 := { unsigned, signature }
  certificate.verify
  return certificate

instance : CanonicalEncode DeviceCertificateV1 where
  toCanonicalValue certificate :=
    record (certificate.unsigned.fields ++ [toCanonicalValue certificate.signature])

end DeviceCertificateV1

end Documents

/-! ## Relay descriptors -/

variable (byte : UInt8)

def isAsciiLowercase : Bool := 0x61 ≤ byte && byte ≤ 0x7a
def isAsciiUppercase : Bool := 0x41 ≤ byte && byte ≤ 0x5a
def isAsciiDigit : Bool := 0x30 ≤ byte && byte ≤ 0x39

/-- A literal ASCII HTTPS endpoint without credentials, query or fragment. -/
def validRelayUrl (value : String) : Bool :=
  let bytes := textBytes value
  let authority := (bytes.drop 8).takeWhile (· ≠ 0x2f)
  bytes.length ≤ maxRelayUrlBytes && bytes.all (· < 0x80) &&
    (textBytes "https://").isPrefixOf bytes &&
    !bytes.any (fun byte => byte = 0x40 || byte = 0x3f || byte = 0x23 || byte = 0x5c) &&
    bytes.all (fun byte => 0x21 ≤ byte && byte ≤ 0x7e) &&
    !authority.isEmpty && authority.getLast? ≠ some 0x2e &&
    authority.all (fun byte => isAsciiLowercase byte || isAsciiDigit byte ||
      byte = 0x2e || byte = 0x2d || byte = 0x3a || byte = 0x5b || byte = 0x5d) &&
    authority.any fun byte => isAsciiLowercase byte || isAsciiUppercase byte || isAsciiDigit byte

/-- `relay_urls.windows(2).any(|pair| pair[0].as_bytes() >= pair[1].as_bytes())`. -/
def hasUnorderedPair : List String → Bool
  | first :: second :: rest =>
      compare (textBytes first) (textBytes second) ≠ .lt || hasUnorderedPair (second :: rest)
  | _ => false

/-- The endpoints are few, ordered and valid. -/
def validateRelayUrls (relayUrls : List String) : Except Failure Unit := do
  rejectIf (relayUrls = [] ∨ relayUrls.length > maxRelayUrls) (returned invalidRelayDescriptor)
  rejectIf (hasUnorderedPair relayUrls = true) (returned invalidRelayDescriptor)
  rejectIf (relayUrls.all validRelayUrl = false) (returned invalidRelayDescriptor)

/-- A bounded ordered relay descriptor, signed by the event that contains it. -/
structure RelayDescriptorV1 where
  wire : WireVersion
  relayUrls : List String
  expiresAt : UtcMillis
  wire_supported : validateWireVersion wire = .ok ()
  urls_valid : validateRelayUrls relayUrls = .ok ()
  deriving DecidableEq

namespace RelayDescriptorV1

def new (wire : WireVersion) (relayUrls : List String) (expiresAt : UtcMillis) :
    Except Failure RelayDescriptorV1 :=
  match supported : validateWireVersion wire with
  | .error error => .error error
  | .ok () =>
      match valid : validateRelayUrls relayUrls with
      | .error error => .error error
      | .ok () => .ok ⟨wire, relayUrls, expiresAt, supported, valid⟩

/-- The descriptor outlives its event. -/
def validateForEvent (descriptor : RelayDescriptorV1) (occurredAt : UtcMillis) :
    Except Failure Unit :=
  rejectIf (descriptor.expiresAt ≤ occurredAt) (returned invalidRelayDescriptor)

instance : CanonicalEncode RelayDescriptorV1 where
  toCanonicalValue descriptor :=
    record [toCanonicalValue descriptor.wire, .array (descriptor.relayUrls.map .text),
      toCanonicalValue descriptor.expiresAt]

end RelayDescriptorV1

end Dirextalk.Identity
