import Dirextalk.Lib.History
import Dirextalk.Mailbox.PullReceipt

/-!
# Mailbox pulls

A pull walks over the envelopes after a cursor, takes the live ones as long as their
receipt stays within its limit, and moves the cursor over all it has seen.  Room is kept
for a receipt with the sequence of the last live envelope.  Envelopes that are gone move
the cursor on, and a longer cursor can push a full receipt over the limit: a pull fails
exactly if a tombstone among its rows does so.
-/

namespace Dirextalk.Mailbox

open Domain Lib Wire

open MailboxPersistenceError

/-! ## Rows -/

/-- The state of an envelope; only a live one still has its bytes. -/
inductive EnvelopeContent where
  | available (opaqueCiphertext : List UInt8)
  | acked
  | expired
  deriving DecidableEq

/-- A row of `mailbox_envelopes`. -/
structure EnvelopeRow where
  deliverySequence : SafeUint
  envelopeId : EnvelopeId
  expiresAt : UtcMillis
  content : EnvelopeContent
  deriving DecidableEq

namespace EnvelopeRow

def sequence (row : EnvelopeRow) : Nat := row.deliverySequence.value.toNat

/-- A live envelope whose time is up is turned into a tombstone. -/
def expire (now : UtcMillis) (row : EnvelopeRow) : EnvelopeRow :=
  match row.content with
  | .available _ => if row.expiresAt ≤ now then { row with content := .expired } else row
  | .acked | .expired => row

/-- The entry of a page for a live envelope. -/
def pulled (row : EnvelopeRow) (opaqueCiphertext : List UInt8) : PulledEnvelope :=
  { row with opaqueCiphertext }

/-- Only live envelopes are delivered. -/
def live? (row : EnvelopeRow) : Option PulledEnvelope :=
  match row.content with
  | .available opaqueCiphertext => some (row.pulled opaqueCiphertext)
  | .acked | .expired => none

/-- A live envelope holds between one byte and a whole offer. -/
def Sized (row : EnvelopeRow) : Prop :=
  ∀ opaqueCiphertext, row.content = .available opaqueCiphertext →
    opaqueCiphertext ≠ [] ∧ opaqueCiphertext.length ≤ maxHistoryOfferBytes

theorem sequence_expire (now : UtcMillis) (row : EnvelopeRow) :
    (row.expire now).sequence = row.sequence := by
  unfold expire
  split
  case h_1 => split <;> rfl
  case h_2 => rfl
  case h_3 => rfl

theorem Sized.expire {row : EnvelopeRow} (sized : row.Sized) (now : UtcMillis) :
    (row.expire now).Sized := by
  unfold EnvelopeRow.expire
  split
  case h_1 =>
    split
    case isTrue =>
      intro opaqueCiphertext impossible
      cases impossible
    case isFalse => exact sized
  case h_2 => exact sized
  case h_3 => exact sized

end EnvelopeRow

/-- The envelopes of one mailbox, in the order of their sequences, which are unique. -/
structure MailboxEnvelopes where
  rows : List EnvelopeRow
  ordered : rows.Pairwise fun earlier later => earlier.sequence < later.sequence
  sized : ∀ row ∈ rows, row.Sized

/-- Turns what has run out into tombstones. -/
def MailboxEnvelopes.expireAvailable (mailbox : MailboxEnvelopes) (now : UtcMillis) :
    MailboxEnvelopes where
  rows := mailbox.rows.map (·.expire now)
  ordered := by
    rw [List.pairwise_map]
    apply mailbox.ordered.imp
    intro earlier later before
    rwa [EnvelopeRow.sequence_expire, EnvelopeRow.sequence_expire]
  sized := by
    intro row listed
    obtain ⟨before, stored, rfl⟩ := List.mem_map.mp listed
    exact (mailbox.sized before stored).expire now

/-! ## Pulls -/

/-- A bounded owner pull request. -/
structure MailboxPullRequest where
  afterSequence : SafeUint
  limit : Nat
  positive : 0 < limit
  bounded : limit ≤ maxPageEntries

/-- The page that a pull has built so far. -/
structure PullPage where
  cursor : SafeUint
  envelopes : List PulledEnvelope
  deriving DecidableEq

/-- The loop over the selected rows. -/
def scanRows (mailboxId : MailboxId) (limit : Nat) :
    List EnvelopeRow → PullPage → Except MailboxPersistenceError PullPage
  | [], page => .ok page
  | row :: rest, page =>
      match row.content with
      | .available opaqueCiphertext =>
          if page.envelopes.length < limit then do
            rejectIf (opaqueCiphertext = [] ∨ maxHistoryOfferBytes < opaqueCiphertext.length)
              (corruptData "mailbox opaque ciphertext")
            let fits ← pullReceiptWithinLimit mailboxId row.deliverySequence page.envelopes
              (some (row.pulled opaqueCiphertext))
            if fits then
              scanRows mailboxId limit rest
                ⟨row.deliverySequence, page.envelopes ++ [row.pulled opaqueCiphertext]⟩
            else if page.envelopes = [] then .error (corruptData "mailbox pull receipt budget")
            else .ok page
          else .ok page
      | .acked | .expired =>
          scanRows mailboxId limit rest { page with cursor := row.deliverySequence }

namespace MailboxEnvelopes

variable (mailbox : MailboxEnvelopes)

/-- The rows after a sequence. -/
def after (sequence : SafeUint) : List EnvelopeRow :=
  mailbox.rows.filter fun row => sequence.value.toNat < row.sequence

/-- The rows of a request, after what has run out was turned into tombstones. -/
def selected (request : MailboxPullRequest) (now : UtcMillis) : List EnvelopeRow :=
  ((mailbox.expireAvailable now).after request.afterSequence).take request.limit

/-- The page of a pull by the owner. -/
def pullPage (mailboxId : MailboxId) (request : MailboxPullRequest) (now : UtcMillis) :
    Except MailboxPersistenceError PullPage :=
  scanRows mailboxId request.limit (mailbox.selected request now) ⟨request.afterSequence, []⟩

/-- The receipt of a page. -/
def pull (mailboxId : MailboxId) (request : MailboxPullRequest) (now : UtcMillis) :
    Except MailboxPersistenceError (List UInt8) := do
  let page ← mailbox.pullPage mailboxId request now
  encodePullReceipt mailboxId page.cursor page.envelopes

end MailboxEnvelopes

/-! ## The loop -/

variable (start : SafeUint) (rows : List EnvelopeRow)

/-- The cursor after some rows. -/
def cursorAfter : SafeUint :=
  rows.foldl (fun _ row => row.deliverySequence) start

/-- The page of some rows. -/
def pageOf : PullPage :=
  ⟨cursorAfter start rows, rows.filterMap (·.live?)⟩

/-- The bytes of a receipt for some rows. -/
def rowsBytes : Nat :=
  pageBytes (pageOf start rows).cursor (pageOf start rows).envelopes

theorem pageOf_concat (row : EnvelopeRow) :
    pageOf start (rows ++ [row]) =
      ⟨row.deliverySequence, (pageOf start rows).envelopes ++ row.live?.toList⟩ := by
  rw [pageOf, cursorAfter, List.foldl_concat, List.filterMap_append]
  cases live : row.live? <;> simp [pageOf, live]

theorem pageBytes_single_le (entry : PulledEnvelope)
    (bounded : entry.opaqueCiphertext.length ≤ maxHistoryOfferBytes) :
    pageBytes entry.deliverySequence [entry] ≤ maxPullReceiptBytes := by
  have sequence := headSize_le entry.deliverySequence.value.toNat
  have length := headSize_le entry.opaqueCiphertext.length
  have time := headSize_le entry.expiresAt.headArgument
  have one : headSize 1 = 1 := rfl
  rw [pageBytes, List.length_singleton, List.map_singleton, List.sum_singleton, entryBytes, one]
  unfold maxPullReceiptBytes
  omega

/-- What the loop takes of its rows: every live row had room when it was reached, and the first
row that is left is live and had none. -/
structure Takes (taken : List EnvelopeRow) : Prop where
  initial : taken <+: rows
  fits : ∀ passed row, passed ++ [row] <+: taken → row.live? ≠ none →
    rowsBytes start (passed ++ [row]) ≤ maxPullReceiptBytes
  stops : ∀ row, taken ++ [row] <+: rows → row.live? ≠ none ∧
    maxPullReceiptBytes < rowsBytes start (taken ++ [row])

section Loop

variable {limit : Nat} {start : SafeUint} {row : EnvelopeRow} {passed rest : List EnvelopeRow}

theorem live?_of_available {ciphertext : List UInt8}
    (content : row.content = .available ciphertext) :
    row.live? = some (row.pulled ciphertext) := by
  rw [EnvelopeRow.live?, content]

theorem pageOf_bounded (start : SafeUint) {rows : List EnvelopeRow}
    (sized : ∀ row ∈ rows, row.Sized) : ∀ entry ∈ (pageOf start rows).envelopes,
      entry.opaqueCiphertext.length ≤ maxHistoryOfferBytes := by
  intro entry listed
  obtain ⟨row, stored, live⟩ := List.mem_filterMap.mp listed
  cases content : row.content with
  | available ciphertext =>
    rw [live?_of_available content] at live
    cases live
    exact (sized row stored ciphertext content).2
  | acked | expired => simp [EnvelopeRow.live?, content] at live

theorem pageOf_few (start : SafeUint) {rows : List EnvelopeRow} (few : rows.length ≤ limit) :
    (pageOf start rows).envelopes.length ≤ limit :=
  (List.length_filterMap_le _ _).trans few

/-- A live envelope among the rows that the limit selects. -/
theorem scanRows_live (passed : List EnvelopeRow) {mailboxId : MailboxId}
    {ciphertext : List UInt8} (most : limit ≤ maxPageEntries)
    (sized : ∀ other ∈ passed ++ [row], other.Sized) (room : (passed ++ [row]).length ≤ limit)
    (content : row.content = .available ciphertext) :
    scanRows mailboxId limit (row :: rest) (pageOf start passed) =
      if rowsBytes start (passed ++ [row]) ≤ maxPullReceiptBytes then
        scanRows mailboxId limit rest (pageOf start (passed ++ [row]))
      else .ok (pageOf start passed) := by
  have next := pageOf_concat start passed row
  rw [live?_of_available content, Option.toList_some] at next
  have bounded := pageOf_bounded start sized
  have count := (pageOf_few start room).trans most
  have few : (pageOf start passed).envelopes.length < limit := by
    rw [List.length_append, List.length_singleton] at room
    exact Nat.lt_of_le_of_lt (List.length_filterMap_le _ _) room
  obtain ⟨nonempty, short⟩ := sized row (by simp) ciphertext content
  rw [rowsBytes, next] at *
  rw [scanRows, content]
  simp only [if_pos few]
  rw [rejectIf_neg _ (not_or.mpr ⟨nonempty, Nat.not_lt.mpr short⟩), ok_bind,
    pullReceiptWithinLimit_eq mailboxId row.deliverySequence fun entry listed =>
      (bounded entry listed).trans historyOffer_le_active, ok_bind]
  by_cases fits : pageBytes row.deliverySequence
      ((pageOf start passed).envelopes ++ [row.pulled ciphertext]) ≤ maxPullReceiptBytes
  case pos => rw [if_pos (decide_eq_true ⟨count, fits⟩), if_pos fits]
  case neg =>
    have filled : (pageOf start passed).envelopes ≠ [] := by
      intro empty
      rw [empty] at fits
      exact fits (pageBytes_single_le (row.pulled ciphertext) short)
    rw [decide_eq_false fun both => fits both.2, if_neg Bool.false_ne_true, if_neg filled,
      if_neg fits]

/-- One more row that is passed. -/
theorem fits_concat (before : ∀ earlier other, earlier ++ [other] <+: passed →
      other.live? ≠ none → rowsBytes start (earlier ++ [other]) ≤ maxPullReceiptBytes)
    (here : row.live? ≠ none → rowsBytes start (passed ++ [row]) ≤ maxPullReceiptBytes)
    (earlier : List EnvelopeRow) (other : EnvelopeRow)
    (initial : earlier ++ [other] <+: passed ++ [row]) (live : other.live? ≠ none) :
    rowsBytes start (earlier ++ [other]) ≤ maxPullReceiptBytes := by
  obtain same | within := List.prefix_concat_iff.mp initial
  · obtain ⟨rfl, last⟩ := List.append_inj' same rfl
    cases last
    exact here live
  · exact before earlier other within live

theorem scanRows_takes (mailboxId : MailboxId) (most : limit ≤ maxPageEntries)
    {rows : List EnvelopeRow} (sized : ∀ row ∈ passed ++ rows, row.Sized)
    (room : (passed ++ rows).length ≤ limit)
    (before : ∀ earlier other, earlier ++ [other] <+: passed → other.live? ≠ none →
      rowsBytes start (earlier ++ [other]) ≤ maxPullReceiptBytes) :
    ∃ taken, scanRows mailboxId limit rows (pageOf start passed) = .ok (pageOf start taken) ∧
      Takes start (passed ++ rows) taken := by
  induction rows generalizing passed with
  | nil =>
    refine ⟨passed, rfl, by rw [List.append_nil], before, ?_⟩
    intro row longer
    have length := longer.length_le
    simp at length
  | cons row rest ih =>
    -- The loop goes on behind a row that is gone or that has room.
    have goesOn (here : row.live? ≠ none →
          rowsBytes start (passed ++ [row]) ≤ maxPullReceiptBytes) :
        ∃ taken, scanRows mailboxId limit rest (pageOf start (passed ++ [row])) =
          .ok (pageOf start taken) ∧ Takes start (passed ++ row :: rest) taken := by
      have joined := List.append_cons passed row rest
      rw [joined] at sized room ⊢
      exact ih sized room (fits_concat before here)
    have passes (gone : row.live? = none) :
        ∃ taken, scanRows mailboxId limit rest
            { pageOf start passed with cursor := row.deliverySequence } =
          .ok (pageOf start taken) ∧ Takes start (passed ++ row :: rest) taken := by
      have next := pageOf_concat start passed row
      rw [gone, Option.toList_none, List.append_nil] at next
      obtain ⟨taken, scanned, takes⟩ := goesOn fun live => absurd gone live
      exact ⟨taken, next ▸ scanned, takes⟩
    cases content : row.content with
    | acked | expired =>
      rw [scanRows, content]
      exact passes (by rw [EnvelopeRow.live?, content])
    | available ciphertext =>
      have initial : passed ++ [row] <+: passed ++ row :: rest := by simp
      rw [scanRows_live passed most (fun other listed => sized other (initial.subset listed))
        (initial.length_le.trans room) content]
      split
      case isTrue fits => exact goesOn fun _ => fits
      case isFalse full =>
        refine ⟨passed, rfl, List.prefix_append _ _, before, ?_⟩
        intro other next
        obtain ⟨_, same⟩ := next
        rw [List.append_assoc, List.append_cancel_left_eq] at same
        cases same
        rw [live?_of_available content]
        exact ⟨Option.some_ne_none _, Nat.not_le.mp full⟩

end Loop

/-! ## Tombstones -/

/-- A tombstone whose sequence makes a receipt too long that has room without it. -/
def Overruns : Prop :=
  ∃ passed tombstone, passed ++ [tombstone] <+: rows ∧ tombstone.live? = none ∧
    rowsBytes start passed ≤ maxPullReceiptBytes ∧
    maxPullReceiptBytes < rowsBytes start (passed ++ [tombstone])

section Tombstones

variable {start : SafeUint} {taken rest : List EnvelopeRow}

/-- The cursor is at the last row taken, before all others. -/
theorem cursorAfter_bounds
    (ordered : (taken ++ rest).Pairwise fun earlier later => earlier.sequence < later.sequence)
    (above : ∀ row ∈ taken ++ rest, start.value.toNat < row.sequence) :
    (∀ row ∈ taken, row.sequence ≤ (cursorAfter start taken).value.toNat) ∧
      (∀ row ∈ rest, (cursorAfter start taken).value.toNat < row.sequence) ∧
      start.value.toNat ≤ (cursorAfter start taken).value.toNat ∧
      (taken ≠ [] → start.value.toNat < (cursorAfter start taken).value.toNat) := by
  induction taken generalizing start with
  | nil => exact ⟨List.forall_mem_nil _, above, Nat.le_refl _, fun absurd => (absurd rfl).elim⟩
  | cons row taken ih =>
    obtain ⟨first, later⟩ := List.pairwise_cons.mp ordered
    obtain ⟨before, beyond, grown, _⟩ := ih later first
    have start := above row List.mem_cons_self
    have reached : row.sequence ≤ (cursorAfter row.deliverySequence taken).value.toNat := grown
    exact ⟨List.forall_mem_cons.mpr ⟨reached, before⟩, beyond, (start.trans_le reached).le,
      fun _ => start.trans_le reached⟩

/-- More rows never make a receipt shorter. -/
theorem rowsBytes_mono {rows : List EnvelopeRow}
    (ordered : rows.Pairwise fun earlier later => earlier.sequence < later.sequence)
    (above : ∀ row ∈ rows, start.value.toNat < row.sequence) {fewer more : List EnvelopeRow}
    (initial : fewer <+: more) (within : more <+: rows) :
    rowsBytes start fewer ≤ rowsBytes start more := by
  obtain ⟨later, rfl⟩ := initial
  have sorted := ordered.sublist within.sublist
  have behind := (List.pairwise_append.mp sorted).2.1
  obtain ⟨_, beyond, _⟩ :=
    cursorAfter_bounds sorted fun row listed => above row (within.subset listed)
  rw [← List.append_nil later] at behind beyond
  obtain ⟨_, _, grown, _⟩ := cursorAfter_bounds behind beyond
  have cursor := headSize_mono grown
  simp only [rowsBytes, pageBytes, pageOf, cursorAfter, List.foldl_append, List.filterMap_append,
    List.map_append, List.sum_append, List.length_append] at cursor ⊢
  have count := headSize_mono (Nat.le_add_right (fewer.filterMap (·.live?)).length
    (later.filterMap (·.live?)).length)
  omega

theorem rowsBytes_nil_le (start : SafeUint) : rowsBytes start [] ≤ maxPullReceiptBytes := by
  have cursor := headSize_le start.value.toNat
  have none : headSize 0 = 1 := rfl
  change 44 + headSize start.value.toNat + headSize 0 + 0 ≤ _
  unfold maxPullReceiptBytes
  omega

/-- The rows taken fit unless a tombstone among them overruns. -/
theorem Takes.fits_iff {rows : List EnvelopeRow} (takes : Takes start rows taken)
    (ordered : rows.Pairwise fun earlier later => earlier.sequence < later.sequence)
    (above : ∀ row ∈ rows, start.value.toNat < row.sequence) :
    rowsBytes start taken ≤ maxPullReceiptBytes ↔ ¬Overruns start rows := by
  have mono := @rowsBytes_mono start rows ordered above
  constructor
  · intro fits overruns
    obtain ⟨passed, tombstone, within, gone, room, exceeds⟩ := overruns
    obtain inside | outside := List.prefix_or_prefix_of_prefix within takes.initial
    · exact absurd (mono inside takes.initial) (by omega)
    obtain same | before := List.prefix_concat_iff.mp outside
    · exact absurd exceeds (Nat.not_lt.mpr (same ▸ fits))
    -- The loop stops before the tombstone, at a live row without room.
    obtain ⟨next, rfl⟩ := before
    cases next with
    | nil =>
      rw [List.append_nil] at within
      exact (takes.stops tombstone within).1 gone
    | cons row later =>
      have reached : taken ++ [row] <+: taken ++ row :: later := by simp
      have initial := (List.prefix_append (taken ++ row :: later) [tombstone]).trans within
      have full := (takes.stops row (reached.trans initial)).2
      exact absurd (mono reached initial) (by omega)
  · intro never
    by_contra exceeds
    obtain ⟨passed, row, within, room, exceeds⟩ := exists_first_prefix
      (fun rows => ¬rowsBytes start rows ≤ maxPullReceiptBytes)
      (not_not.mpr (rowsBytes_nil_le start)) exceeds
    apply never
    refine ⟨passed, row, within.trans takes.initial, ?_, not_not.mp room, Nat.not_le.mp exceeds⟩
    by_contra live
    exact exceeds (takes.fits passed row within live)

end Tombstones

/-! ## Pages -/

namespace MailboxEnvelopes

variable (mailbox : MailboxEnvelopes)

/-- The live envelopes after one sequence up to another. -/
def liveBetween (mailbox : MailboxEnvelopes) (after upTo : SafeUint) : List PulledEnvelope :=
  ((mailbox.after after).filter fun row => row.sequence ≤ upTo.value.toNat).filterMap (·.live?)

theorem after_expireAvailable (now : UtcMillis) (sequence : SafeUint) :
    (mailbox.expireAvailable now).after sequence = (mailbox.after sequence).map (·.expire now) := by
  rw [after, expireAvailable, List.filter_map, after]
  congr 1
  apply List.filter_congr
  intro row _
  rw [Function.comp_apply, EnvelopeRow.sequence_expire]

theorem after_ordered (sequence : SafeUint) :
    (mailbox.after sequence).Pairwise fun earlier later => earlier.sequence < later.sequence :=
  mailbox.ordered.filter _

theorem after_above (sequence : SafeUint) :
    ∀ row ∈ mailbox.after sequence, sequence.value.toNat < row.sequence := by
  intro row listed
  exact of_decide_eq_true (List.mem_filter.mp listed).2

/-- The rows up to the cursor are the rows that were taken. -/
theorem liveBetween_eq {start : SafeUint} {taken : List EnvelopeRow}
    (initial : taken <+: mailbox.after start) :
    mailbox.liveBetween start (cursorAfter start taken) = taken.filterMap (·.live?) ∧
      start.value.toNat ≤ (cursorAfter start taken).value.toNat ∧
      (taken ≠ [] → start.value.toNat < (cursorAfter start taken).value.toNat) := by
  obtain ⟨rest, split⟩ := initial
  have ordered := mailbox.after_ordered start
  have above := mailbox.after_above start
  rw [← split] at ordered above
  obtain ⟨before, beyond, grown, moved⟩ := cursorAfter_bounds ordered above
  refine ⟨?_, grown, moved⟩
  have kept : taken.filter (fun row => row.sequence ≤ (cursorAfter start taken).value.toNat) =
      taken := List.filter_eq_self.mpr fun row listed => decide_eq_true (before row listed)
  have left : rest.filter (fun row => row.sequence ≤ (cursorAfter start taken).value.toNat) =
      [] := List.filter_eq_nil_iff.mpr fun row listed within =>
        Nat.not_le.mpr (beyond row listed) (of_decide_eq_true within)
  rw [liveBetween, ← split, List.filter_append, kept, left, List.append_nil]

theorem selected_prefix (request : MailboxPullRequest) (now : UtcMillis) :
    mailbox.selected request now <+: (mailbox.expireAvailable now).after request.afterSequence :=
  List.take_prefix _ _

theorem selected_sized (request : MailboxPullRequest) (now : UtcMillis) :
    ∀ row ∈ mailbox.selected request now, row.Sized := by
  intro row listed
  exact (mailbox.expireAvailable now).sized row
    (List.mem_filter.mp ((mailbox.selected_prefix request now).subset listed)).1

/-- The page of a pull. -/
theorem exists_pullPage (mailboxId : MailboxId) (request : MailboxPullRequest) (now : UtcMillis) :
    ∃ taken, mailbox.pullPage mailboxId request now =
        .ok (pageOf request.afterSequence taken) ∧
      Takes request.afterSequence (mailbox.selected request now) taken ∧
      (mailbox.after request.afterSequence ≠ [] → taken ≠ []) := by
  have sized := mailbox.selected_sized request now
  have room : (mailbox.selected request now).length ≤ request.limit := List.length_take_le _ _
  obtain ⟨taken, scanned, takes⟩ :=
    @scanRows_takes request.limit request.afterSequence [] mailboxId request.bounded
      (mailbox.selected request now) sized room (by simp)
  refine ⟨taken, scanned, takes, ?_⟩
  rintro rows rfl
  have some : mailbox.selected request now ≠ [] := by
    rw [selected, after_expireAvailable]
    simp [rows, Nat.ne_of_gt request.positive]
  obtain ⟨row, rest, split⟩ := List.exists_cons_of_ne_nil some
  obtain ⟨live, full⟩ := takes.stops row (by simp [split])
  cases content : row.content with
  | acked | expired => exact live (by rw [EnvelopeRow.live?, content])
  | available ciphertext =>
    have bounded := (sized row (by simp [split]) ciphertext content).2
    have alone := pageOf_concat request.afterSequence [] row
    rw [live?_of_available content] at alone
    rw [rowsBytes, alone] at full
    exact absurd full (Nat.not_lt.mpr (pageBytes_single_le (row.pulled ciphertext) bounded))

end MailboxEnvelopes

/-- A page that has room in a receipt although one of its entries is longer than an offer. -/
def Oversized (nextSequence : SafeUint) (envelopes : List PulledEnvelope) : Prop :=
  envelopes.length ≤ maxPageEntries ∧ pageBytes nextSequence envelopes ≤ maxPullReceiptBytes ∧
    ∃ entry ∈ envelopes, maxHistoryOfferBytes < entry.opaqueCiphertext.length

/-- The check for one more envelope agrees with the encoder except on oversized pages. -/
theorem pullReceiptWithinLimit_agrees {mailboxId : MailboxId} {nextSequence : SafeUint}
    {envelopes : List PulledEnvelope} {candidate : PulledEnvelope}
    (active : ((envelopes ++ [candidate]).map (·.opaqueCiphertext.length)).sum ≤
      maxActiveEnvelopeBytes) :
    (pullReceiptWithinLimit mailboxId nextSequence envelopes (some candidate) = .ok true ↔
        ∃ receipt, encodePullReceipt mailboxId nextSequence (envelopes ++ [candidate]) =
          .ok receipt) ↔ ¬Oversized nextSequence (envelopes ++ [candidate]) := by
  have bounded (entry : PulledEnvelope) (listed : entry ∈ envelopes ++ [candidate]) :
      entry.opaqueCiphertext.length ≤ maxActiveEnvelopeBytes :=
    (List.le_sum_of_mem (List.mem_map_of_mem listed)).trans active
  rw [pullReceiptWithinLimit_eq mailboxId nextSequence bounded, Except.ok.injEq,
    decide_eq_true_eq, exists_encodePullReceipt, Oversized]
  constructor
  · rintro agrees ⟨few, fits, entry, listed, long⟩
    exact Nat.not_lt.mpr ((agrees.mp ⟨few, fits⟩).1.bounded entry listed) long
  · intro never
    constructor
    · intro fits
      refine ⟨⟨fits.1, fun entry listed => ?_⟩, fits.2⟩
      by_contra long
      exact never ⟨fits.1, fits.2, entry, listed, Nat.not_le.mp long⟩
    · intro encoded
      exact ⟨encoded.1.few, encoded.2⟩

/-- Every pull makes a page of all live envelopes up to its cursor, which moves if there is
a row to move over.  The page becomes a receipt unless a tombstone among the selected rows
overruns, and the check for one more envelope agrees with the encoder unless the page is
oversized. -/
theorem mailbox_pull_iff (mailbox : MailboxEnvelopes) (mailboxId : MailboxId)
    (request : MailboxPullRequest) (now : UtcMillis) :
    (∃ page, mailbox.pullPage mailboxId request now = .ok page ∧
      page.envelopes =
        (mailbox.expireAvailable now).liveBetween request.afterSequence page.cursor ∧
      request.afterSequence.value.toNat ≤ page.cursor.value.toNat ∧
      (mailbox.after request.afterSequence ≠ [] →
        request.afterSequence.value.toNat < page.cursor.value.toNat) ∧
      ∀ receipt, mailbox.pull mailboxId request now = .ok receipt ↔
        ¬Overruns request.afterSequence (mailbox.selected request now) ∧
          wire (pullReceipt mailboxId page.cursor page.envelopes) = receipt) ∧
    ∀ nextSequence envelopes candidate,
      ((envelopes ++ [candidate]).map (·.opaqueCiphertext.length)).sum ≤ maxActiveEnvelopeBytes →
      ((pullReceiptWithinLimit mailboxId nextSequence envelopes (some candidate) = .ok true ↔
          ∃ receipt, encodePullReceipt mailboxId nextSequence (envelopes ++ [candidate]) =
            .ok receipt) ↔ ¬Oversized nextSequence (envelopes ++ [candidate])) := by
  refine ⟨?_, fun _ _ _ active => pullReceiptWithinLimit_agrees active⟩
  obtain ⟨taken, scanned, takes, moves⟩ := mailbox.exists_pullPage mailboxId request now
  have selected := mailbox.selected_prefix request now
  obtain ⟨live, grown, moved⟩ :=
    (mailbox.expireAvailable now).liveBetween_eq (takes.initial.trans selected)
  refine ⟨_, scanned, live.symm, grown, fun rows => moved (moves rows), ?_⟩
  have paged : Paged (pageOf request.afterSequence taken).envelopes := by
    have few := (takes.initial.length_le.trans (List.length_take_le _ _)).trans request.bounded
    exact ⟨pageOf_few _ few, pageOf_bounded _ fun row listed =>
      mailbox.selected_sized request now row (takes.initial.subset listed)⟩
  have fits := takes.fits_iff (((mailbox.expireAvailable now).after_ordered _).sublist
    selected.sublist) fun row listed =>
      (mailbox.expireAvailable now).after_above _ row (selected.subset listed)
  intro receipt
  rw [MailboxEnvelopes.pull, scanned, ok_bind, paged.encodePullReceipt_eq_ok, ← fits, rowsBytes]

/-! ### A full page and a tombstone -/

section Sample

def sampleRow (sequence : SafeUint) (content : EnvelopeContent) : EnvelopeRow where
  deliverySequence := sequence
  envelopeId := .tagged 3
  expiresAt := sampleExpiry
  content

/-- A live envelope with this many bytes. -/
def liveRow (sequence : SafeUint) (length : Nat) : EnvelopeRow :=
  sampleRow sequence (.available (List.replicate length 0))

theorem liveRow_sized (sequence : SafeUint) {length : Nat} (positive : 0 < length)
    (bounded : length ≤ maxHistoryOfferBytes) : (liveRow sequence length).Sized := by
  intro ciphertext same
  cases same
  refine ⟨?_, by rwa [List.length_replicate]⟩
  rw [← List.length_pos_iff, List.length_replicate]
  exact positive

/-- The bytes of an entry of zeros depend on their number only. -/
theorem entryBytes_liveRow (sequence : SafeUint) (length : Nat) :
    entryBytes ((liveRow sequence length).pulled (List.replicate length 0)) =
      43 + headSize sequence.value.toNat + (headSize length + length) +
        headSize sampleExpiry.headArgument := by
  rw [entryBytes]
  simp only [EnvelopeRow.pulled, List.length_replicate]
  rfl

def firstLive : EnvelopeRow := liveRow ⟨22, by decide⟩ 1000000

def secondLive : EnvelopeRow := liveRow ⟨23, by decide⟩ 49445

theorem firstLive_sized : firstLive.Sized :=
  liveRow_sized _ (by decide) (by decide +kernel)

theorem secondLive_sized : secondLive.Sized :=
  liveRow_sized _ (by decide) (by decide +kernel)

def tombstone : EnvelopeRow := sampleRow ⟨24, by decide⟩ .acked

/-- Two live envelopes that fill a receipt to the last byte, and a tombstone. -/
def fullMailbox : MailboxEnvelopes where
  rows := [firstLive, secondLive, tombstone]
  ordered := List.pairwise_map.mp (show [22, 23, 24].Pairwise (· < ·) by decide)
  sized := by
    simp only [List.forall_mem_cons]
    refine ⟨firstLive_sized, secondLive_sized, ?_, List.forall_mem_nil _⟩
    intro ciphertext impossible
    cases impossible

def firstEntry : PulledEnvelope := firstLive.pulled (List.replicate 1000000 0)

def secondEntry : PulledEnvelope := secondLive.pulled (List.replicate 49445 0)

theorem pageBytes_full (cursor : SafeUint) :
    pageBytes cursor [firstEntry, secondEntry] =
      headSize cursor.value.toNat + maxPullReceiptBytes - 1 := by
  have first : entryBytes firstEntry = 1000058 :=
    (entryBytes_liveRow _ _).trans (by decide +kernel)
  have second : entryBytes secondEntry = 49501 :=
    (entryBytes_liveRow _ _).trans (by decide +kernel)
  have count : headSize [firstEntry, secondEntry].length = 1 := rfl
  rw [pageBytes, List.map_cons, List.map_singleton, List.sum_cons, List.sum_singleton, first,
    second, count]
  unfold maxPullReceiptBytes maxHistoryOfferBytes
  omega

/-- A bounded request after the sequence 21. -/
def sampleRequest (limit : Fin 100) : MailboxPullRequest where
  afterSequence := ⟨21, by decide⟩
  limit := limit + 1
  positive := Nat.succ_pos _
  bounded := by
    unfold maxPageEntries
    omega

/-- One day after the start of the epoch. -/
def sampleNow : UtcMillis := ⟨86400000, by decide, by decide⟩

/-- The loop takes both live envelopes. -/
theorem scanRows_full {limit : Nat} (two : 2 ≤ limit) (most : limit ≤ maxPageEntries)
    (rest : List EnvelopeRow) :
    scanRows (.tagged 2) limit (firstLive :: secondLive :: rest)
        ⟨(sampleRequest 2).afterSequence, []⟩ =
      scanRows (.tagged 2) limit rest
        ⟨secondLive.deliverySequence, [firstEntry, secondEntry]⟩ := by
  let start := (sampleRequest 2).afterSequence
  have one : rowsBytes start [firstLive] ≤ maxPullReceiptBytes :=
    pageBytes_single_le firstEntry (firstLive_sized _ rfl).2
  have both : rowsBytes start [firstLive, secondLive] ≤ maxPullReceiptBytes := by
    change pageBytes secondLive.deliverySequence [firstEntry, secondEntry] ≤ _
    rw [pageBytes_full]
    decide +kernel
  calc scanRows (.tagged 2) limit (firstLive :: secondLive :: rest) (pageOf start [])
      = scanRows (.tagged 2) limit (secondLive :: rest) (pageOf start [firstLive]) :=
        (scanRows_live [] most (by simpa using firstLive_sized) (Nat.le_of_succ_le two) rfl).trans
          (if_pos one)
    _ = scanRows (.tagged 2) limit rest (pageOf start [firstLive, secondLive]) :=
        (scanRows_live [firstLive] most (by simpa using ⟨firstLive_sized, secondLive_sized⟩) two
          rfl).trans (if_pos both)

/-- An entry that is one byte longer than an offer may be. -/
def longEntry : PulledEnvelope :=
  (liveRow ⟨22, by decide⟩ 1049094).pulled (List.replicate 1049094 0)

theorem length_longEntry : longEntry.opaqueCiphertext.length = 1049094 := List.length_replicate

/-- With the tombstone behind them the receipt is one byte too long; and there is room for an
entry that no receipt can hold. -/
theorem full_page_exceeds_limit :
    (fullMailbox.pullPage (.tagged 2) (sampleRequest 2) sampleNow =
        .ok ⟨tombstone.deliverySequence, [firstEntry, secondEntry]⟩ ∧
      ∀ receipt, fullMailbox.pull (.tagged 2) (sampleRequest 2) sampleNow ≠ .ok receipt) ∧
    pullReceiptWithinLimit (.tagged 2) longEntry.deliverySequence [] (some longEntry) = .ok true ∧
      ∀ receipt, encodePullReceipt (.tagged 2) longEntry.deliverySequence [longEntry] ≠
        .ok receipt := by
  have page : fullMailbox.pullPage (.tagged 2) (sampleRequest 2) sampleNow =
      .ok ⟨tombstone.deliverySequence, [firstEntry, secondEntry]⟩ :=
    scanRows_full (by decide) (by decide) [tombstone]
  refine ⟨⟨page, ?_⟩, ?_, ?_⟩
  · intro receipt pulled
    rw [MailboxEnvelopes.pull, page, ok_bind] at pulled
    have fits := (exists_encodePullReceipt.mp ⟨receipt, pulled⟩).2
    rw [pageBytes_full] at fits
    exact absurd fits (by decide +kernel)
  · have bytes : entryBytes longEntry = 1049152 :=
      (entryBytes_liveRow _ _).trans (by decide +kernel)
    have fits : pageBytes longEntry.deliverySequence [longEntry] ≤ maxPullReceiptBytes := by
      rw [pageBytes, List.map_singleton, List.sum_singleton, bytes]
      decide +kernel
    have bounded : ∀ entry ∈ [] ++ [longEntry],
        entry.opaqueCiphertext.length ≤ maxActiveEnvelopeBytes := by
      rw [List.nil_append, List.forall_mem_singleton, length_longEntry]
      decide +kernel
    rw [pullReceiptWithinLimit_eq _ _ bounded, decide_eq_true ⟨by decide, fits⟩]
  · intro receipt encoded
    have bounded := (exists_encodePullReceipt.mp ⟨receipt, encoded⟩).1.bounded longEntry (by simp)
    rw [length_longEntry] at bounded
    exact absurd bounded (by decide +kernel)

/-- A request for two rows ends before the tombstone. -/
theorem two_rows_pulled :
    (∃ receipt, fullMailbox.pull (.tagged 2) (sampleRequest 1) sampleNow = .ok receipt) ∧
      (pullReceiptWithinLimit (.tagged 2) secondLive.deliverySequence [firstEntry]
          (some secondEntry) = .ok true ↔
        ∃ receipt, encodePullReceipt (.tagged 2) secondLive.deliverySequence
          [firstEntry, secondEntry] = .ok receipt) := by
  have first : firstEntry.opaqueCiphertext.length = 1000000 := List.length_replicate
  have second : secondEntry.opaqueCiphertext.length = 49445 := List.length_replicate
  obtain ⟨⟨page, _, _, _, _, receipts⟩, agrees⟩ :=
    mailbox_pull_iff fullMailbox (.tagged 2) (sampleRequest 1) sampleNow
  constructor
  · refine ⟨_, (receipts _).mpr ⟨?_, rfl⟩⟩
    rintro ⟨passed, gone, within, dead, -⟩
    have listed : gone ∈ [firstLive, secondLive] := within.subset (by simp)
    simp only [List.mem_cons, List.not_mem_nil, or_false] at listed
    rcases listed with rfl | rfl <;> cases dead
  · refine (agrees secondLive.deliverySequence [firstEntry] secondEntry ?_).mpr ?_
    · simp only [List.cons_append, List.nil_append, List.map_cons, List.map_nil, first, second]
      decide +kernel
    · rintro ⟨_, _, entry, listed, long⟩
      simp only [List.cons_append, List.nil_append, List.mem_cons, List.not_mem_nil,
        or_false] at listed
      rcases listed with rfl | rfl
      · exact absurd (first ▸ long) (by decide +kernel)
      · exact absurd (second ▸ long) (by decide +kernel)

end Sample

end Dirextalk.Mailbox
