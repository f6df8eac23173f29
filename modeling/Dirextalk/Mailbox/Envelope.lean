import Dirextalk.Identity.Codec
import Dirextalk.Wire.Sizes

/-!
# Envelopes of history grants

A history grant is delivered as an envelope around its exact offer.  The ceiling of the
envelope is the longest offer and 52 bytes, which holds the other fields only if the time
of expiry takes three bytes; a time of this century takes nine.
-/

namespace Dirextalk.Mailbox

open Domain Identity Lib Wire

/-! ## Bounds and errors -/

/-- Maximum opaque bytes retained in one mailbox. -/
def maxActiveEnvelopeBytes : Nat := 67108864

/-- Maximum entries in a pull page. -/
def maxPageEntries : Nat := 100

/-- Maximum exact opaque offer bytes admitted by the history grant path. -/
def maxHistoryOfferBytes : Nat := 1049093

/-- Maximum encoded pull receipt: one full history offer and a fixed amount for framing. -/
def maxPullReceiptBytes : Nat := maxHistoryOfferBytes + 512

theorem maxHistoryOfferBytes_lt : maxHistoryOfferBytes < UInt64.size := by decide +kernel

/-- Why the mailbox turns an operation down. -/
inductive MailboxPersistenceError where
  | invalidCommand (what : String)
  | capacityExceeded
  /-- A persisted row violates its typed invariant. -/
  | corruptData (what : String)
  deriving DecidableEq, Repr

open MailboxPersistenceError

/-! ## Commands -/

/-- A typed exact opaque envelope enqueue request. -/
structure MailboxEnvelopeCommand where
  idempotencyKeyHash : Sha256Digest
  mailboxId : MailboxId
  envelopeId : EnvelopeId
  opaqueCiphertext : List UInt8
  expiresAt : UtcMillis
  exactBytes : List UInt8

/-- The canonical map of an envelope. -/
def envelopeValue (envelopeId : EnvelopeId) (opaqueCiphertext : List UInt8)
    (expiresAt : UtcMillis) : CanonicalValue :=
  record [.unsigned 1, .text envelopeId.toText, .bytes opaqueCiphertext,
    toCanonicalValue expiresAt]

instance envelopeCommandEncode : CanonicalEncode MailboxEnvelopeCommand where
  toCanonicalValue command :=
    envelopeValue command.envelopeId command.opaqueCiphertext command.expiresAt

namespace MailboxEnvelopeCommand

end MailboxEnvelopeCommand

section Sizes

variable (envelopeId : EnvelopeId) {exactOffer : List UInt8} (expiresAt : UtcMillis)

end Sizes

section Sample

/-- A time in November 2023. -/
def sampleExpiry : UtcMillis := ⟨1700000000000, by decide, by decide⟩

end Sample

end Dirextalk.Mailbox
