import Dirextalk.Lib.Numbering
import Dirextalk.Lib.Rows
import Dirextalk.Realtime.Leases
import Mathlib.Data.List.TakeWhile

/-!
# The realtime journal

The invalidations of one identity, numbered by cursors.  Every writer takes the next cursor
from the head and adds its row; compaction removes a prefix of expired rows and moves the
floor of the head behind it.  The rows of a journal stand in the order of their cursors,
one for each cursor from the floor to the head.
-/

namespace Dirextalk.Realtime

open Lib

/-- What the reader has to fetch again. -/
inductive InvalidationKind where
  | mailboxDelivery
  | conversationRead
  | durableInvalidation
  | identityHeadChanged
  | deviceRevoked
  | keyAuthorizationChanged
  deriving DecidableEq, Repr

/-- A row of `realtime.journal`. -/
structure JournalRow where
  cursor : Nat
  kind : InvalidationKind
  subjectDigest : FixedBytes 32
  expiresAt : Int
  deriving DecidableEq

/-- The head of one identity, with its rows of the journal and the cursors of its outbox. -/
structure Journal where
  nextCursor : Nat
  journalFloor : Nat
  rows : List JournalRow
  outbox : List Nat
  deriving DecidableEq

/-- What the database functions raise. -/
inductive JournalError where
  | invalidationRejected
  | cursorExhausted
  | duplicateKey
  | compactionRejected
  | prefixNotContiguous
  deriving DecidableEq, Repr

open JournalError

/-! ## Writers -/

/-- The head that a first writer inserts. -/
def Journal.empty : Journal := ⟨0, 1, [], []⟩

/-- One row with the next cursor, as every writer adds it. -/
def Journal.append (journal : Journal) (kind : InvalidationKind) (subjectDigest : FixedBytes 32)
    (expiresAt : Int) : Except JournalError (Nat × Journal) := do
  rejectIf (¬journal.nextCursor < maxSafeInteger) cursorExhausted
  let nextValue := journal.nextCursor + 1
  let rows ← okOr (insertRow JournalRow.cursor journal.rows
    ⟨nextValue, kind, subjectDigest, expiresAt⟩) duplicateKey
  let outbox ← okOr (insertRow id journal.outbox nextValue) duplicateKey
  pure (nextValue, { journal with nextCursor := nextValue, rows, outbox })

/-- `realtime.append_identity_invalidation`, for an identity with or without a head. -/
def appendIdentityInvalidation (authorized : Bool) (kind : InvalidationKind)
    (subjectDigest : List UInt8) (databaseNow : Int) (stored : Option Journal) :
    Except JournalError (Nat × Journal) := do
  rejectIf (authorized = false ∨
    kind ∉ [.identityHeadChanged, .deviceRevoked, .keyAuthorizationChanged]) invalidationRejected
  let subjectDigest ← okOr (FixedBytes.ofList? subjectDigest) invalidationRejected
  (stored.getD .empty).append kind subjectDigest (databaseNow + 604800000)

/-! ## Compaction -/

namespace Journal

variable (journal : Journal) (databaseNow : Int)

/-- The cursors of the rows that have not expired. -/
def liveCursors : List Nat :=
  (journal.rows.filter fun row => journal.journalFloor ≤ row.cursor ∧
    databaseNow < row.expiresAt).map (·.cursor)

/-- The smallest cursor of a row that has not expired. -/
def firstLive : Nat :=
  ((journal.liveCursors databaseNow).min?).getD (maxSafeInteger + 1)

/-- The cursors of the expired rows before every other, in order and up to a limit. -/
def expiredPrefix (limit : Nat) : List Nat :=
  (((journal.rows.filter fun row => journal.journalFloor ≤ row.cursor ∧
    row.expiresAt ≤ databaseNow ∧ row.cursor < journal.firstLive databaseNow).map
      (·.cursor)).insertionSort (· ≤ ·)).take limit

/-- Whether the journal is selected: its first row has expired. -/
def firstExpired : Bool :=
  journal.rows.any fun row => row.cursor = journal.journalFloor ∧ row.expiresAt ≤ databaseNow

def between (compactTo cursor : Nat) : Bool :=
  journal.journalFloor ≤ cursor && cursor ≤ compactTo

/-- The journal without the rows up to a cursor. -/
def compacted (compactTo : Nat) : Journal where
  nextCursor := journal.nextCursor
  journalFloor := min (compactTo + 1) maxSafeInteger
  rows := journal.rows.filter fun row => !journal.between compactTo row.cursor
  outbox := journal.outbox.filter fun cursor => !journal.between compactTo cursor

/-- The loop of the compaction as one journal takes part in it.  `changed` counts the rows that
were removed before, also from the journals of other identities. -/
def compactLoop (databaseNow : Int) (maximumRows : Nat) :
    Nat → Nat → Journal → Option (Except JournalError (Nat × Journal))
  | 0, _, _ => none
  | fuel + 1, changed, journal =>
      if changed < maximumRows ∧ journal.firstExpired databaseNow then
        match (journal.expiredPrefix databaseNow (maximumRows - changed)).max? with
        | none => compactLoop databaseNow maximumRows fuel changed journal
        | some compactTo =>
            let removed := journal.rows.countP fun row => journal.between compactTo row.cursor
            if removed = compactTo - journal.journalFloor + 1 then
              compactLoop databaseNow maximumRows fuel (changed + removed)
                (journal.compacted compactTo)
            else some (.error prefixNotContiguous)
      else some (.ok (changed, journal))

/-- `realtime.compact_expired`, after it has removed some rows of other identities. -/
def compactExpired (authorized : Bool) (now : Int) (maximumRows : Nat) (databaseNow : Int)
    (others : Nat) (journal : Journal) : Option (Except JournalError (Nat × Journal)) :=
  if authorized = false ∨ ¬(databaseNow - 60000 ≤ now ∧ now ≤ databaseNow + 60000) ∨
      ¬(1 ≤ maximumRows ∧ maximumRows ≤ 256) then some (.error compactionRejected)
  else compactLoop databaseNow maximumRows (maximumRows + 1) others journal

end Journal

/-! ## Sound journals -/

/-- A journal has one row for each cursor from its floor to its head; at the last cursor of all
the floor stays behind. -/
structure Journal.Sound (journal : Journal) : Prop where
  numbered : journal.rows.map (·.cursor) = List.range' journal.journalFloor journal.rows.length
  filled : journal.journalFloor + journal.rows.length = journal.nextCursor + 1 ∨
    journal.rows = [] ∧ journal.journalFloor = maxSafeInteger ∧
      journal.nextCursor = maxSafeInteger
  floor_le : journal.journalFloor ≤ maxSafeInteger
  next_le : journal.nextCursor ≤ maxSafeInteger
  published : ∀ cursor ∈ journal.outbox, cursor ≤ journal.nextCursor

namespace Journal.Sound

variable {journal : Journal}

theorem mem_bounds (sound : journal.Sound) {row : JournalRow} (listed : row ∈ journal.rows) :
    journal.journalFloor ≤ row.cursor ∧ row.cursor ≤ journal.nextCursor := by
  have ⟨above, below⟩ := number_bounds sound.numbered listed
  refine ⟨above, ?_⟩
  cases sound.filled with
  | inl filled => omega
  | inr last =>
    rw [last.1] at listed
    cases listed

/-- A writer takes the next cursor, and the journal stays sound. -/
theorem append (sound : journal.Sound) {kind : InvalidationKind} {digest : FixedBytes 32}
    {expiresAt : Int} {cursor : Nat} {after : Journal}
    (appended : journal.append kind digest expiresAt = .ok (cursor, after)) : after.Sound := by
  simp only [Journal.append, bind_eq_ok, rejectIf_eq_ok, okOr_eq_ok, pure_eq_ok, Unique.exists_iff,
    not_not, insertRow_eq_some] at appended
  obtain ⟨room, _, ⟨_, rfl⟩, _, ⟨_, rfl⟩, same⟩ := appended
  cases same
  have filled := sound.filled.resolve_right fun last => absurd last.2.2 (Nat.ne_of_lt room)
  refine ⟨?_, .inl ?_, sound.floor_le, room, ?_⟩
  · exact numbered_append.mpr ⟨sound.numbered, by rw [filled]; rfl⟩
  · rw [List.length_append, ← Nat.add_assoc, filled]
    rfl
  · intro cursor listed
    cases List.mem_append.mp listed with
    | inl before => exact Nat.le_succ_of_le (sound.published cursor before)
    | inr new => exact Nat.le_of_eq (List.mem_singleton.mp new)

theorem empty : Journal.empty.Sound :=
  ⟨rfl, .inl rfl, by decide, by decide, List.forall_mem_nil _⟩

/-- An event of the identity log goes into a sound journal, and makes a first one. -/
theorem invalidation {stored : Option Journal} (sound : ∀ journal ∈ stored, journal.Sound)
    {authorized : Bool} {kind : InvalidationKind} {digest : List UInt8} {databaseNow : Int}
    {cursor : Nat} {after : Journal}
    (appended : appendIdentityInvalidation authorized kind digest databaseNow stored =
      .ok (cursor, after)) : after.Sound := by
  simp only [appendIdentityInvalidation, bind_eq_ok] at appended
  obtain ⟨_, _, _, _, appended⟩ := appended
  cases stored with
  | none => exact empty.append appended
  | some journal => exact (sound journal rfl).append appended

end Journal.Sound

/-! ## The expired prefix -/

namespace Journal

/-- The rows before the first that has not expired. -/
def expiredRows (journal : Journal) (databaseNow : Int) : List JournalRow :=
  journal.rows.takeWhile (·.expiresAt ≤ databaseNow)

/-- The rows from the first that has not expired. -/
def laterRows (journal : Journal) (databaseNow : Int) : List JournalRow :=
  journal.rows.dropWhile (·.expiresAt ≤ databaseNow)

variable {journal : Journal} {databaseNow : Int} {row : JournalRow}

theorem expiredRows_append_laterRows (journal : Journal) (databaseNow : Int) :
    journal.expiredRows databaseNow ++ journal.laterRows databaseNow = journal.rows :=
  List.takeWhile_append_dropWhile

theorem expired_of_mem (listed : row ∈ journal.expiredRows databaseNow) :
    row.expiresAt ≤ databaseNow := by
  have expired := List.mem_takeWhile_imp listed
  exact of_decide_eq_true expired

theorem fresh_of_laterRows {others : List JournalRow}
    (rest : journal.laterRows databaseNow = row :: others) : databaseNow < row.expiresAt := by
  have head := List.head?_dropWhile_not (fun row : JournalRow => row.expiresAt ≤ databaseNow)
    journal.rows
  unfold laterRows at rest
  rw [rest] at head
  exact Int.not_le.mp (of_decide_eq_false head)

theorem mem_liveCursors {cursor : Nat} :
    cursor ∈ journal.liveCursors databaseNow ↔
      ∃ row ∈ journal.rows, (journal.journalFloor ≤ row.cursor ∧ databaseNow < row.expiresAt) ∧
        row.cursor = cursor := by
  simp only [liveCursors, List.mem_map, List.mem_filter, decide_eq_true_eq, and_assoc]

namespace Sound

theorem numbered_parts (sound : journal.Sound) (databaseNow : Int) :
    (journal.expiredRows databaseNow).map (·.cursor) =
        List.range' journal.journalFloor (journal.expiredRows databaseNow).length ∧
      (journal.laterRows databaseNow).map (·.cursor) =
        List.range' (journal.journalFloor + (journal.expiredRows databaseNow).length)
          (journal.laterRows databaseNow).length := by
  rw [← numbered_append, expiredRows_append_laterRows]
  exact sound.numbered

theorem lt_firstLive (sound : journal.Sound) (listed : row ∈ journal.expiredRows databaseNow) :
    row.cursor < journal.firstLive databaseNow := by
  have ⟨earlier, later⟩ := sound.numbered_parts databaseNow
  unfold firstLive
  cases least : (journal.liveCursors databaseNow).min? with
  | none =>
    have bounds := sound.mem_bounds (List.takeWhile_subset _ listed)
    exact Nat.lt_succ_of_le (bounds.2.trans sound.next_le)
  | some first =>
    obtain ⟨live, stored, ⟨_, fresh⟩, rfl⟩ :=
      mem_liveCursors.mp (List.min?_eq_some_iff.mp least).1
    rw [← expiredRows_append_laterRows journal databaseNow, List.mem_append] at stored
    cases stored with
    | inl expired => exact absurd (expired_of_mem expired) (Int.not_le.mpr fresh)
    | inr stays =>
      exact (number_bounds earlier listed).2.trans_le (number_bounds later stays).1

theorem firstLive_le (sound : journal.Sound) (listed : row ∈ journal.laterRows databaseNow) :
    journal.firstLive databaseNow ≤ row.cursor := by
  have ⟨_, later⟩ := sound.numbered_parts databaseNow
  cases rest : journal.laterRows databaseNow with
  | nil =>
    rw [rest] at listed
    cases listed
  | cons first others =>
    have kept : first ∈ journal.rows := List.dropWhile_subset _ (rest ▸ List.mem_cons_self)
    have live : first.cursor ∈ journal.liveCursors databaseNow :=
      mem_liveCursors.mpr
        ⟨first, kept, ⟨(sound.mem_bounds kept).1, fresh_of_laterRows rest⟩, rfl⟩
    have least : first.cursor ≤ row.cursor := by
      have above := (number_bounds later listed).1
      rw [rest] at later
      exact (List.cons.inj later).1.trans_le above
    unfold firstLive
    cases found : (journal.liveCursors databaseNow).min? with
    | none =>
      rw [List.min?_eq_none_iff] at found
      rw [found] at live
      cases live
    | some cursor => exact ((List.min?_eq_some_iff.mp found).2 _ live).trans least

/-- The cursors of the expired prefix, up to the limit. -/
theorem expiredPrefix_eq (sound : journal.Sound) (databaseNow : Int) (limit : Nat) :
    journal.expiredPrefix databaseNow limit =
      List.range' journal.journalFloor (min limit (journal.expiredRows databaseNow).length) := by
  have selected : (journal.rows.filter fun row => journal.journalFloor ≤ row.cursor ∧
      row.expiresAt ≤ databaseNow ∧ row.cursor < journal.firstLive databaseNow) =
        journal.expiredRows databaseNow := by
    conv_lhs => rw [← expiredRows_append_laterRows journal databaseNow]
    rw [List.filter_append, List.filter_eq_self.mpr, List.filter_eq_nil_iff.mpr, List.append_nil]
    · intro row listed
      rw [decide_eq_true_eq]
      exact fun chosen => absurd chosen.2.2 (Nat.not_lt.mpr (sound.firstLive_le listed))
    · intro row listed
      have kept : row ∈ journal.rows := List.takeWhile_subset _ listed
      exact decide_eq_true
        ⟨(sound.mem_bounds kept).1, expired_of_mem listed, sound.lt_firstLive listed⟩
  rw [expiredPrefix, selected, (sound.numbered_parts databaseNow).1,
    List.Pairwise.insertionSort_eq List.pairwise_le_range']
  cases Nat.le_total limit (journal.expiredRows databaseNow).length with
  | inl short => rw [Nat.min_eq_left short, List.take_range'_of_length_ge short]
  | inr long => rw [Nat.min_eq_right long, List.take_range'_of_length_le long]

theorem max?_range' (start count : Nat) :
    (List.range' start (count + 1)).max? = some (start + count) := by
  refine List.max?_eq_some_iff.mpr ⟨List.mem_range'_1.mpr (by omega), ?_⟩
  intro number listed
  have bounds := List.mem_range'_1.mp listed
  omega

/-- The rows up to a cursor are a prefix of the journal. -/
theorem filter_between (sound : journal.Sound) {count : Nat}
    (enough : count < journal.rows.length) :
    (journal.rows.filter fun row => journal.between (journal.journalFloor + count) row.cursor) =
        journal.rows.take (count + 1) ∧
      (journal.compacted (journal.journalFloor + count)).rows = journal.rows.drop (count + 1) := by
  have parts := sound.numbered
  rw [← List.take_append_drop (count + 1) journal.rows, numbered_append] at parts
  have length : (journal.rows.take (count + 1)).length = count + 1 :=
    List.length_take_of_le enough
  have front : ∀ row ∈ journal.rows.take (count + 1),
      journal.between (journal.journalFloor + count) row.cursor = true := by
    intro row listed
    have bounds := number_bounds parts.1 listed
    rw [length] at bounds
    exact Bool.and_eq_true_iff.mpr
      ⟨decide_eq_true bounds.1, decide_eq_true (Nat.le_of_lt_succ bounds.2)⟩
  have back : ∀ row ∈ journal.rows.drop (count + 1),
      journal.between (journal.journalFloor + count) row.cursor = false := by
    intro row listed
    have above := (number_bounds parts.2 listed).1
    rw [length] at above
    exact Bool.and_eq_false_iff.mpr (.inr (decide_eq_false (Nat.not_le.mpr above)))
  unfold compacted
  constructor
  · conv_lhs => rw [← List.take_append_drop (count + 1) journal.rows]
    rw [List.filter_append, List.filter_eq_self.mpr front, List.filter_eq_nil_iff.mpr,
      List.append_nil]
    intro row listed
    rw [back row listed]
    exact Bool.false_ne_true
  · conv_lhs => rw [← List.take_append_drop (count + 1) journal.rows]
    rw [List.filter_append, List.filter_eq_nil_iff.mpr, List.nil_append, List.filter_eq_self.mpr]
    · intro row listed
      rw [back row listed]
      rfl
    · intro row listed
      rw [front row listed]
      exact Bool.false_ne_true

/-- The journal without a prefix of its rows is sound, and its floor is not before. -/
theorem compacted (sound : journal.Sound) {count : Nat} (enough : count < journal.rows.length) :
    (journal.compacted (journal.journalFloor + count)).Sound ∧
      journal.journalFloor ≤ (journal.compacted (journal.journalFloor + count)).journalFloor := by
  have rows := (sound.filter_between enough).2
  have filled : journal.journalFloor + journal.rows.length = journal.nextCursor + 1 := by
    refine sound.filled.resolve_right ?_
    intro last
    rw [last.1] at enough
    cases enough
  have parts := sound.numbered
  rw [← List.take_append_drop (count + 1) journal.rows, numbered_append,
    List.length_take_of_le enough] at parts
  have top := sound.next_le
  have length : (journal.rows.drop (count + 1)).length = journal.rows.length - (count + 1) :=
    List.length_drop
  have floor : (journal.compacted (journal.journalFloor + count)).journalFloor =
      min (journal.journalFloor + count + 1) maxSafeInteger := rfl
  refine ⟨⟨?_, ?_, ?_, top, ?_⟩, ?_⟩
  · rw [rows, parts.2]
    by_cases none : journal.rows.length - (count + 1) = 0
    · rw [length, none, List.range'_zero, List.range'_zero]
    · rw [floor, Nat.min_eq_left (by omega), Nat.add_assoc]
  · rw [rows, length, floor]
    by_cases last : journal.journalFloor + count + 1 ≤ maxSafeInteger
    · refine .inl ?_
      rw [Nat.min_eq_left last]
      change _ = journal.nextCursor + 1
      omega
    · refine .inr ⟨List.drop_eq_nil_iff.mpr (by omega), Nat.min_eq_right (by omega), ?_⟩
      change journal.nextCursor = _
      omega
  · rw [floor]
    exact Nat.min_le_right ..
  · intro cursor listed
    exact sound.published cursor (List.mem_of_mem_filter listed)
  · have below := sound.floor_le
    omega

/-- The first row of a selected journal has expired. -/
theorem expiredRows_ne_nil (sound : journal.Sound)
    (selected : journal.firstExpired databaseNow = true) :
    0 < (journal.expiredRows databaseNow).length := by
  obtain ⟨row, listed, chosen⟩ := List.any_eq_true.mp selected
  obtain ⟨lowest, expired⟩ := of_decide_eq_true chosen
  have numbered := sound.numbered
  unfold expiredRows
  cases rows : journal.rows with
  | nil =>
    rw [rows] at listed
    cases listed
  | cons first rest =>
    rw [rows] at numbered listed
    obtain ⟨_, others⟩ := List.cons.inj numbered
    have same : row = first := by
      refine (List.mem_cons.mp listed).resolve_right ?_
      intro later
      have above := (number_bounds others later).1
      omega
    have gone : decide (first.expiresAt ≤ databaseNow) = true := decide_eq_true (same ▸ expired)
    rw [List.takeWhile_cons, if_pos gone]
    exact Nat.succ_pos _

/-- The cursor up to which a pass of the loop compacts. -/
theorem max?_expiredPrefix (sound : journal.Sound)
    (selected : journal.firstExpired databaseNow = true) {limit : Nat} (room : 0 < limit) :
    ∃ count < limit, count < (journal.expiredRows databaseNow).length ∧
      (journal.expiredPrefix databaseNow limit).max? = some (journal.journalFloor + count) := by
  have occupied := sound.expiredRows_ne_nil selected
  obtain ⟨count, amount⟩ : ∃ count,
      min limit (journal.expiredRows databaseNow).length = count + 1 :=
    Nat.exists_eq_add_one.mpr (Nat.lt_min.mpr ⟨room, occupied⟩)
  refine ⟨count, by omega, by omega, ?_⟩
  rw [sound.expiredPrefix_eq, amount, max?_range']

end Sound

/-- What compaction may do: it removes a prefix of expired rows and moves the floor on. -/
structure Compacts (databaseNow : Int) (before after : Journal) : Prop where
  sound : after.Sound
  floor : before.journalFloor ≤ after.journalFloor
  head : after.nextCursor = before.nextCursor
  removed : ∃ gone, before.rows = gone ++ after.rows ∧ ∀ row ∈ gone, row.expiresAt ≤ databaseNow

theorem Compacts.trans {before middle after : Journal}
    (first : Compacts databaseNow before middle) (second : Compacts databaseNow middle after) :
    Compacts databaseNow before after := by
  obtain ⟨gone, rows, expired⟩ := first.removed
  obtain ⟨more, others, late⟩ := second.removed
  refine ⟨second.sound, first.floor.trans second.floor, second.head.trans first.head,
    gone ++ more, ?_, List.forall_mem_append.mpr ⟨expired, late⟩⟩
  rw [rows, others, List.append_assoc]

/-- The loop of the compaction ends, and it raises no error. -/
theorem Sound.compactLoop (sound : journal.Sound) (databaseNow : Int) (maximumRows : Nat)
    {fuel changed : Nat} (enough : maximumRows - changed < fuel) :
    ∃ total after, compactLoop databaseNow maximumRows fuel changed journal =
      some (.ok (total, after)) ∧ Compacts databaseNow journal after := by
  induction fuel generalizing changed journal with
  | zero => cases enough
  | succ fuel ih =>
    unfold Journal.compactLoop
    by_cases more : changed < maximumRows ∧ journal.firstExpired databaseNow = true
    · rw [if_pos more]
      obtain ⟨count, _, inside, top⟩ :=
        sound.max?_expiredPrefix more.2 (Nat.sub_pos_of_lt more.1)
      have short : count < journal.rows.length :=
        inside.trans_le (List.takeWhile_sublist _).length_le
      have rows := sound.filter_between short
      have removed : (journal.rows.countP fun row =>
          journal.between (journal.journalFloor + count) row.cursor) = count + 1 := by
        rw [List.countP_eq_length_filter, rows.1]
        exact List.length_take_of_le short
      rw [top]
      dsimp only
      rw [removed, Nat.add_sub_cancel_left, if_pos rfl]
      have kept := sound.compacted short
      have left : maximumRows - (changed + (count + 1)) < fuel := by omega
      obtain ⟨total, after, run, compacts⟩ := ih kept.1 left
      refine ⟨total, after, run, Compacts.trans ⟨kept.1, kept.2, rfl, ?_⟩ compacts⟩
      refine ⟨journal.rows.take (count + 1), ?_, ?_⟩
      · rw [rows.2, List.take_append_drop]
      · intro row listed
        rw [← expiredRows_append_laterRows journal databaseNow,
          List.take_append_of_le_length inside] at listed
        exact expired_of_mem (List.mem_of_mem_take listed)
    · rw [if_neg more]
      exact ⟨changed, journal, rfl, sound, Nat.le_refl _, rfl, [], rfl, List.forall_mem_nil _⟩

/-- A compaction that is not rejected at once runs to its end. -/
theorem Sound.compactExpired (sound : journal.Sound) (authorized : Bool) (now : Int)
    (maximumRows : Nat) (databaseNow : Int) (others : Nat) :
    journal.compactExpired authorized now maximumRows databaseNow others =
        some (.error compactionRejected) ∨
      ∃ total after, journal.compactExpired authorized now maximumRows databaseNow others =
        some (.ok (total, after)) ∧ Compacts databaseNow journal after := by
  unfold Journal.compactExpired
  split
  case isTrue => exact .inl rfl
  case isFalse => exact .inr (sound.compactLoop databaseNow maximumRows (by omega))

/-- Rows that have not expired stay, and the floor is not behind them. -/
theorem Compacts.live {before after : Journal} (compacts : Compacts databaseNow before after)
    (stored : row ∈ before.rows) (live : databaseNow < row.expiresAt) :
    row ∈ after.rows ∧ after.journalFloor ≤ row.cursor := by
  obtain ⟨gone, rows, expired⟩ := compacts.removed
  rw [rows, List.mem_append] at stored
  have kept := stored.resolve_left fun lost => absurd (expired row lost) (Int.not_le.mpr live)
  exact ⟨kept, (compacts.sound.mem_bounds kept).1⟩

end Journal

end Dirextalk.Realtime
