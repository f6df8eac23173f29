import Dirextalk.Mailbox.Envelope

/-!
# Receipts of mailbox pulls

The receipt of a pull is the canonical form of its page under a byte limit.  Whether one
more envelope fits is decided without its bytes: from the page with empty byte strings
and the lengths of what stands in them.  The two agree to the byte.
-/

namespace Dirextalk.Mailbox

open Domain Identity Lib Wire

open MailboxPersistenceError

/-! ## Encoding -/

/-- An entry of a page, with the bytes it holds. -/
structure PulledEnvelope where
  deliverySequence : SafeUint
  envelopeId : EnvelopeId
  opaqueCiphertext : List UInt8
  expiresAt : UtcMillis
  deriving DecidableEq

def PulledEnvelope.value (entry : PulledEnvelope) : CanonicalValue :=
  record [toCanonicalValue entry.deliverySequence, .text entry.envelopeId.toText,
    .bytes entry.opaqueCiphertext, toCanonicalValue entry.expiresAt]

/-- The entry with an empty byte string. -/
def PulledEnvelope.bare (entry : PulledEnvelope) : PulledEnvelope :=
  { entry with opaqueCiphertext := [] }

/-- The page with its cursor. -/
def pullReceipt (mailboxId : MailboxId) (nextSequence : SafeUint)
    (envelopes : List PulledEnvelope) : CanonicalValue :=
  record [.unsigned 1, .text mailboxId.toText, toCanonicalValue nextSequence,
    .array (envelopes.map PulledEnvelope.value)]

/-- The bytes of a receipt within all limits. -/
def encodePullReceipt (mailboxId : MailboxId) (nextSequence : SafeUint)
    (envelopes : List PulledEnvelope) : Except MailboxPersistenceError (List UInt8) := do
  rejectIf (maxPageEntries < envelopes.length) (invalidCommand "mailbox pull page entries")
  let ciphertextBytes ← envelopes.foldlM (fun total envelope => do
    rejectIf (maxHistoryOfferBytes < envelope.opaqueCiphertext.length)
      (corruptData "mailbox pull ciphertext")
    okOr (checkedAddUsize total envelope.opaqueCiphertext.length) capacityExceeded) 0
  rejectIf (maxActiveEnvelopeBytes < ciphertextBytes) capacityExceeded
  (encodeDeterministicCborWithLimit (pullReceipt mailboxId nextSequence envelopes)
    (UInt64.ofNat maxPullReceiptBytes)).mapError
    fun _ => invalidCommand "mailbox pull receipt encoding"

def byteStringHeaderLen (length : Nat) : Nat :=
  if length ≤ 23 then 1 else if length ≤ 255 then 2 else if length ≤ 65535 then 3
  else if length ≤ 4294967295 then 5 else 9

/-- Whether the page with one more envelope fits a receipt. -/
def pullReceiptWithinLimit (mailboxId : MailboxId) (nextSequence : SafeUint)
    (envelopes : List PulledEnvelope) (candidate : Option PulledEnvelope) :
    Except MailboxPersistenceError Bool := do
  let values := envelopes ++ candidate.toList
  if maxPageEntries < values.length then return false
  let base ← (encodeDeterministicCborWithLimit
    (pullReceipt mailboxId nextSequence (values.map PulledEnvelope.bare))
    (UInt64.ofNat maxPullReceiptBytes)).mapError
    fun _ => corruptData "mailbox pull receipt encoding"
  let payloadBytes ← values.foldlM (fun total value =>
    okOr ((checkedAddUsize total value.opaqueCiphertext.length).bind fun total =>
      checkedAddUsize total (byteStringHeaderLen value.opaqueCiphertext.length - 1))
      capacityExceeded) 0
  return (checkedAddUsize base.length payloadBytes).any (· ≤ maxPullReceiptBytes)

/-! ## Sizes -/

theorem byteStringHeaderLen_eq (length : Nat) : byteStringHeaderLen length = headSize length := by
  unfold byteStringHeaderLen headSize
  split_ifs <;> omega

/-- The bytes of an entry. -/
def entryBytes (entry : PulledEnvelope) : Nat :=
  43 + headSize entry.deliverySequence.value.toNat +
    (headSize entry.opaqueCiphertext.length + entry.opaqueCiphertext.length) +
    headSize entry.expiresAt.headArgument

/-- The bytes of the receipt of a page. -/
def pageBytes (nextSequence : SafeUint) (envelopes : List PulledEnvelope) : Nat :=
  44 + headSize nextSequence.value.toNat + headSize envelopes.length +
    (envelopes.map entryBytes).sum

/-- Entries that a receipt has a place for. -/
structure Paged (envelopes : List PulledEnvelope) : Prop where
  few : envelopes.length ≤ maxPageEntries
  bounded : ∀ entry ∈ envelopes, entry.opaqueCiphertext.length ≤ maxHistoryOfferBytes

variable {envelopes : List PulledEnvelope}

theorem length_wire_entry {entry : PulledEnvelope}
    (bounded : entry.opaqueCiphertext.length ≤ maxHistoryOfferBytes) :
    (wire entry.value).length = entryBytes entry := by
  have small := Nat.lt_of_le_of_lt bounded maxHistoryOfferBytes_lt
  rw [PulledEnvelope.value, length_wire_record (by simp)]
  simp only [List.map_cons, List.map_nil, List.sum_cons, List.sum_nil, toCanonicalValue,
    length_wire_unsigned, length_wire_uuid, length_wire_bytes small, entryBytes]
  have time := length_wire_time entry.expiresAt
  simp only [toCanonicalValue] at time
  omega

theorem Paged.length_wire (paged : Paged envelopes) (mailboxId : MailboxId)
    (nextSequence : SafeUint) :
    (wire (pullReceipt mailboxId nextSequence envelopes)).length =
      pageBytes nextSequence envelopes := by
  have small : envelopes.length < UInt64.size := Nat.lt_of_le_of_lt paged.few (by decide)
  have entries : (envelopes.map fun entry => (wire entry.value).length).sum =
      (envelopes.map entryBytes).sum := by
    congr 1
    exact List.map_congr_left fun entry listed => length_wire_entry (paged.bounded entry listed)
  have version : headSize (1 : UInt64).toNat = 1 := rfl
  have array : (wire (.array (envelopes.map PulledEnvelope.value))).length =
      headSize envelopes.length + (envelopes.map entryBytes).sum := by
    rw [length_wire_array (by rwa [List.length_map]), List.length_map, List.map_map, ← entries]
    rfl
  rw [pullReceipt, length_wire_record (by simp)]
  simp only [List.map_cons, List.map_nil, List.sum_cons, List.sum_nil, toCanonicalValue,
    length_wire_unsigned, length_wire_uuid, array, version, pageBytes]
  omega

/-! ## Receipts that are encoded -/

theorem within_entry {entry : PulledEnvelope}
    (bounded : entry.opaqueCiphertext.length ≤ maxHistoryOfferBytes) :
    Within 2 9 (9 + 4 * (9 + (9 + maxHistoryOfferBytes))) entry.value := by
  have others {value : CanonicalValue} (small : SmallField value) :
      Within 1 1 (9 + maxHistoryOfferBytes) value :=
    small.mono (by decide) (by decide) (by decide +kernel)
  have fields : ∀ field ∈ [toCanonicalValue entry.deliverySequence,
      CanonicalValue.text entry.envelopeId.toText, .bytes entry.opaqueCiphertext,
      toCanonicalValue entry.expiresAt], Within 1 1 (9 + maxHistoryOfferBytes) field := by
    simp only [List.forall_mem_cons]
    exact ⟨others (smallField_unsigned _), others (smallField_uuid _),
      within_bytes bounded maxHistoryOfferBytes_lt, others (smallField_time _),
      List.forall_mem_nil _⟩
  exact within_record 4 fields (Nat.le_refl _) (by decide)

theorem Paged.within (paged : Paged envelopes) (mailboxId : MailboxId) (nextSequence : SafeUint) :
    ∃ bytes, Within 4 4000 bytes (pullReceipt mailboxId nextSequence envelopes) := by
  have values : ∀ value ∈ envelopes.map PulledEnvelope.value,
      Within 2 9 (9 + 4 * (9 + (9 + maxHistoryOfferBytes))) value := by
    intro value member
    obtain ⟨entry, listed, rfl⟩ := List.mem_map.mp member
    exact within_entry (paged.bounded entry listed)
  have array := within_array 100 values (by rw [List.length_map]; exact paged.few) (by decide)
  have others {value : CanonicalValue} (small : SmallField value) :
      Within 3 901 (9 + 100 * (9 + 4 * (9 + (9 + maxHistoryOfferBytes)))) value :=
    small.mono (by decide) (by decide) (by decide +kernel)
  have fields : ∀ field ∈ [CanonicalValue.unsigned 1, .text mailboxId.toText,
      toCanonicalValue nextSequence, .array (envelopes.map PulledEnvelope.value)],
      Within 3 901 (9 + 100 * (9 + 4 * (9 + (9 + maxHistoryOfferBytes)))) field := by
    simp only [List.forall_mem_cons]
    exact ⟨others (smallField_unsigned _), others (smallField_uuid _),
      others (smallField_unsigned _), array, List.forall_mem_nil _⟩
  have within := within_record 4 fields (Nat.le_refl _) (by decide)
  exact ⟨_, within.mono (by decide) (by decide) (Nat.le_refl _)⟩

variable {nextSequence : SafeUint} {mailboxId : MailboxId}

/-- The canonical form of a page is encoded exactly if it is short enough. -/
theorem Paged.canonical_eq_ok (paged : Paged envelopes) {receipt : List UInt8} :
    encodeDeterministicCborWithLimit (pullReceipt mailboxId nextSequence envelopes)
        (UInt64.ofNat maxPullReceiptBytes) = .ok receipt ↔
      pageBytes nextSequence envelopes ≤ maxPullReceiptBytes ∧
        wire (pullReceipt mailboxId nextSequence envelopes) = receipt := by
  have limit : (UInt64.ofNat maxPullReceiptBytes).toNat = maxPullReceiptBytes := by
    decide +kernel
  obtain ⟨most, within⟩ := paged.within mailboxId nextSequence
  rw [encode_eq_ok_iff, ← paged.length_wire mailboxId nextSequence]
  apply and_congr_left
  intro _
  constructor
  · intro encodable
    exact encodable.bytes_le.trans_eq limit
  · intro short
    exact ⟨by decide +kernel, within.fits.mono (by decide), short.trans_eq limit.symm,
      within.items_le.trans (by decide)⟩

/-- A sum that stays far below the range of the counters. -/
theorem foldlM_checkedAdd {α : Type} {step : Nat → α → Except MailboxPersistenceError Nat}
    {size : α → Nat} {most : Nat} {items : List α} {total : Nat}
    (adds : ∀ total, total + most < 2 ^ 64 → ∀ item ∈ items,
      step total item = .ok (total + size item))
    (bounded : ∀ item ∈ items, size item ≤ most) (room : total + items.length * most < 2 ^ 64) :
    items.foldlM step total = .ok (total + (items.map size).sum) := by
  induction items generalizing total with
  | nil => rfl
  | cons item rest ih =>
    rw [List.length_cons, Nat.succ_mul] at room
    have first := bounded item List.mem_cons_self
    rw [List.foldlM_cons, adds total (by omega) item List.mem_cons_self, ok_bind,
      ih (fun total room other listed => adds total room other (List.mem_cons_of_mem _ listed))
        (fun other listed => bounded other (List.mem_cons_of_mem _ listed)) (by omega),
      List.map_cons, List.sum_cons, Nat.add_assoc]

/-- Entries that a mailbox has a place for add up within the counters. -/
theorem room_of_few (few : envelopes.length ≤ maxPageEntries) :
    0 + envelopes.length * (9 + maxActiveEnvelopeBytes) < 2 ^ 64 := by
  unfold maxPageEntries at few
  unfold maxActiveEnvelopeBytes
  omega

theorem historyOffer_le_active : maxHistoryOfferBytes ≤ maxActiveEnvelopeBytes := by
  decide +kernel

theorem Paged.encodePullReceipt_eq_ok (paged : Paged envelopes) {receipt : List UInt8} :
    encodePullReceipt mailboxId nextSequence envelopes = .ok receipt ↔
      pageBytes nextSequence envelopes ≤ maxPullReceiptBytes ∧
        wire (pullReceipt mailboxId nextSequence envelopes) = receipt := by
  have total : envelopes.foldlM (fun total envelope => do
      rejectIf (maxHistoryOfferBytes < envelope.opaqueCiphertext.length)
        (corruptData "mailbox pull ciphertext")
      okOr (checkedAddUsize total envelope.opaqueCiphertext.length) capacityExceeded) 0 =
      .ok (0 + (envelopes.map fun entry => entry.opaqueCiphertext.length).sum) := by
    have stored (entry : PulledEnvelope) (listed : entry ∈ envelopes) :
        entry.opaqueCiphertext.length ≤ 9 + maxActiveEnvelopeBytes :=
      ((paged.bounded entry listed).trans historyOffer_le_active).trans (Nat.le_add_left _ _)
    apply foldlM_checkedAdd _ stored (room_of_few paged.few)
    intro total room entry listed
    have bounded := paged.bounded entry listed
    have most := stored entry listed
    rw [rejectIf_neg _ (Nat.not_lt.mpr bounded), ok_bind, checkedAddUsize, if_pos, okOr_some]
    change _ < 2 ^ 64
    omega
  have sum : (envelopes.map fun entry => entry.opaqueCiphertext.length).sum ≤
      pageBytes nextSequence envelopes := by
    have le : (envelopes.map fun entry => entry.opaqueCiphertext.length).sum ≤
        (envelopes.map entryBytes).sum := by
      apply List.sum_le_sum
      intro entry _
      unfold entryBytes
      omega
    exact le.trans (Nat.le_add_left _ _)
  have active : maxPullReceiptBytes ≤ maxActiveEnvelopeBytes := by decide +kernel
  rw [encodePullReceipt, rejectIf_neg _ (Nat.not_lt.mpr paged.few), ok_bind, total, ok_bind,
    Nat.zero_add, bind_eq_ok]
  simp only [rejectIf_eq_ok, mapError_eq_ok, exists_const, paged.canonical_eq_ok]
  constructor
  · intro encoded
    exact encoded.2
  · intro encoded
    exact ⟨Nat.not_lt.mpr ((sum.trans encoded.1).trans active), encoded⟩

/-- Whatever the entries are, a receipt is made of pages that fit. -/
theorem exists_encodePullReceipt :
    (∃ receipt, encodePullReceipt mailboxId nextSequence envelopes = .ok receipt) ↔
      Paged envelopes ∧ pageBytes nextSequence envelopes ≤ maxPullReceiptBytes := by
  constructor
  · rintro ⟨receipt, encoded⟩
    have paged : Paged envelopes := by
      simp only [encodePullReceipt, bind_eq_ok, rejectIf_eq_ok, exists_const] at encoded
      obtain ⟨few, total, added, -⟩ := encoded
      rw [foldlM_eq_ok_iff (fun total entry =>
        ¬maxHistoryOfferBytes < entry.opaqueCiphertext.length ∧
          total + entry.opaqueCiphertext.length < UInt64.size)
        fun total entry => total + entry.opaqueCiphertext.length] at added
      · have bounded := along_const.mp (along_and.mp added.1).1
        exact ⟨Nat.not_lt.mp few, fun entry listed => Nat.not_lt.mp (bounded entry listed)⟩
      · intro total entry result
        simp only [bind_eq_ok, rejectIf_eq_ok, exists_const, okOr_eq_ok, checkedAddUsize,
          Option.ite_none_right_eq_some, Option.some.injEq, and_assoc]
    exact ⟨paged, (paged.encodePullReceipt_eq_ok.mp encoded).1⟩
  · rintro ⟨paged, fits⟩
    exact ⟨_, paged.encodePullReceipt_eq_ok.mpr ⟨fits, rfl⟩⟩

/-! ## Room for one more -/

/-- The bytes that the content of an entry adds to an empty byte string. -/
def contentBytes (entry : PulledEnvelope) : Nat :=
  entry.opaqueCiphertext.length + (byteStringHeaderLen entry.opaqueCiphertext.length - 1)

theorem entryBytes_eq (entry : PulledEnvelope) :
    entryBytes entry = entryBytes entry.bare + contentBytes entry := by
  have positive : 1 ≤ headSize entry.opaqueCiphertext.length := by
    unfold headSize
    split_ifs <;> decide
  have empty : headSize 0 = 1 := rfl
  simp only [entryBytes, contentBytes, PulledEnvelope.bare, byteStringHeaderLen_eq, List.length_nil,
    empty]
  omega

theorem pageBytes_eq (nextSequence : SafeUint) (values : List PulledEnvelope) :
    pageBytes nextSequence values =
      pageBytes nextSequence (values.map PulledEnvelope.bare) + (values.map contentBytes).sum := by
  have entries : (values.map entryBytes).sum =
      ((values.map PulledEnvelope.bare).map entryBytes).sum + (values.map contentBytes).sum := by
    rw [List.map_map, ← List.sum_map_add]
    exact congrArg List.sum (List.map_congr_left fun entry _ => entryBytes_eq entry)
  simp only [pageBytes, entries, List.length_map]
  omega

theorem pageBytes_bare_le (nextSequence : SafeUint) {values : List PulledEnvelope}
    (few : values.length ≤ maxPageEntries) :
    pageBytes nextSequence (values.map PulledEnvelope.bare) ≤ maxPullReceiptBytes := by
  have entries : ((values.map PulledEnvelope.bare).map entryBytes).sum ≤
      (values.map PulledEnvelope.bare).length * 62 := by
    apply sum_map_le
    intro entry listed
    obtain ⟨full, _, rfl⟩ := List.mem_map.mp listed
    have sequence := headSize_le full.deliverySequence.value.toNat
    have time := headSize_le full.expiresAt.headArgument
    have empty : headSize 0 = 1 := rfl
    simp only [entryBytes, PulledEnvelope.bare, List.length_nil, empty]
    omega
  have cursor := headSize_le nextSequence.value.toNat
  have count := headSize_le (values.map PulledEnvelope.bare).length
  rw [List.length_map] at entries count
  unfold pageBytes maxPullReceiptBytes maxHistoryOfferBytes
  rw [List.length_map]
  unfold maxPageEntries at few
  omega

/-- The decision looks at the number of entries and at the bytes of the page. -/
theorem pullReceiptWithinLimit_eq (mailboxId : MailboxId) (nextSequence : SafeUint)
    {candidate : PulledEnvelope}
    (bounded : ∀ entry ∈ envelopes ++ [candidate],
      entry.opaqueCiphertext.length ≤ maxActiveEnvelopeBytes) :
    pullReceiptWithinLimit mailboxId nextSequence envelopes (some candidate) =
      .ok (decide ((envelopes ++ [candidate]).length ≤ maxPageEntries ∧
        pageBytes nextSequence (envelopes ++ [candidate]) ≤ maxPullReceiptBytes)) := by
  unfold pullReceiptWithinLimit
  rw [Option.toList_some]
  by_cases few : (envelopes ++ [candidate]).length ≤ maxPageEntries
  · have bare : Paged ((envelopes ++ [candidate]).map PulledEnvelope.bare) := by
      refine ⟨by rwa [List.length_map], ?_⟩
      intro entry listed
      obtain ⟨full, _, rfl⟩ := List.mem_map.mp listed
      exact Nat.zero_le _
    have base : encodeDeterministicCborWithLimit (pullReceipt mailboxId nextSequence
        ((envelopes ++ [candidate]).map PulledEnvelope.bare)) (UInt64.ofNat maxPullReceiptBytes) =
        .ok (wire (pullReceipt mailboxId nextSequence
          ((envelopes ++ [candidate]).map PulledEnvelope.bare))) :=
      bare.canonical_eq_ok.mpr ⟨pageBytes_bare_le nextSequence few, rfl⟩
    have content : ∀ entry ∈ envelopes ++ [candidate],
        contentBytes entry ≤ 9 + maxActiveEnvelopeBytes := by
      intro entry listed
      have length := bounded entry listed
      have head := headSize_le entry.opaqueCiphertext.length
      rw [contentBytes, byteStringHeaderLen_eq]
      omega
    have payload : (envelopes ++ [candidate]).foldlM (fun total value =>
        okOr ((checkedAddUsize total value.opaqueCiphertext.length).bind fun total =>
          checkedAddUsize total (byteStringHeaderLen value.opaqueCiphertext.length - 1))
          capacityExceeded) 0 =
        .ok (0 + ((envelopes ++ [candidate]).map contentBytes).sum) := by
      apply foldlM_checkedAdd _ content (room_of_few few)
      intro total room entry listed
      have most := content entry listed
      unfold contentBytes at most ⊢
      have size : UInt64.size = 2 ^ 64 := rfl
      rw [checkedAddUsize, if_pos (by omega), Option.bind_some, checkedAddUsize,
        if_pos (by omega), okOr_some, Nat.add_assoc]
    have size : pageBytes nextSequence (envelopes ++ [candidate]) < UInt64.size := by
      have most := pageBytes_bare_le nextSequence few
      have room := room_of_few few
      have sum := sum_map_le content
      rw [pageBytes_eq]
      unfold maxPullReceiptBytes at most
      change _ < 2 ^ 64
      unfold maxActiveEnvelopeBytes maxHistoryOfferBytes maxPageEntries at *
      omega
    have added : checkedAddUsize (wire (pullReceipt mailboxId nextSequence
        ((envelopes ++ [candidate]).map PulledEnvelope.bare))).length
        (0 + ((envelopes ++ [candidate]).map contentBytes).sum) =
        some (pageBytes nextSequence (envelopes ++ [candidate])) := by
      rw [bare.length_wire, Nat.zero_add, checkedAddUsize, ← pageBytes_eq, if_pos size]
    rw [if_neg (Nat.not_lt.mpr few), base]
    simp only [Except.mapError, ok_bind, payload, added, Option.any_some, few, true_and]
    rfl
  · rw [if_pos (Nat.not_le.mp few), decide_eq_false fun fits => few fits.1]
    rfl

end Dirextalk.Mailbox
