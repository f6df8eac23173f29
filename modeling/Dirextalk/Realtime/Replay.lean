import Dirextalk.Realtime.Journal

/-!
# Replays of the realtime journal

A device reads the invalidations after its last cursor page by page.  One replay reads the
head and then the rows, while writers and the compaction go on between the two, and it
compares the expiry of a row with a clock of its own.  A page holds the cursors that follow
one by one; where one of them is missing, the device is told to catch up.
-/

namespace Dirextalk.Realtime

open Domain Lib RealtimeSyncError

def maxReplayEvents : Nat := 128

/-- An entry of the journal as a reader sees it. -/
structure Invalidation where
  cursor : Nat
  kind : InvalidationKind
  subjectDigest : FixedBytes 32
  deriving DecidableEq

/-- What a reader receives. -/
inductive ReplayPage where
  | events (highwater : Nat) (events : List Invalidation)
  | catchUpRequired (highwater : Nat)
  deriving DecidableEq

/-- The rows after a cursor that have not expired, in order and up to the limit of a page. -/
def rowsAfter (after : Nat) (now : Int) (rows : List JournalRow) : List JournalRow :=
  ((rows.filter fun row => after < row.cursor ∧ now < row.expiresAt).insertionSort
    fun left right => left.cursor ≤ right.cursor).take maxReplayEvents

def JournalRow.invalidation (row : JournalRow) : Invalidation :=
  ⟨row.cursor, row.kind, row.subjectDigest⟩

def readInvalidation (row : JournalRow) : Except RealtimeSyncError Invalidation := do
  let cursor ← safe row.cursor
  pure ⟨cursor, row.kind, row.subjectDigest⟩

/-- The cursors follow each other without a gap. -/
def contiguous : Nat → List Invalidation → Bool
  | _, [] => true
  | expectedNext, event :: rest =>
      event.cursor = expectedNext && contiguous (expectedNext + 1) rest

/-- `replay_in_transaction`, with the head that its first statement reads and the rows at the
time of its second. -/
def replayInTransaction (lease : Lease) (after : Nat) (now : Int) (head : Option (Nat × Nat))
    (rows : List JournalRow) : Except RealtimeSyncError ReplayPage := do
  rejectIf (lease.expiresAt ≤ now) staleLease
  let (nextCursor, journalFloor) ← okOr head database
  let highwater ← safe nextCursor
  let floor ← safe journalFloor
  if after + 1 < floor ∨ highwater < after then pure (.catchUpRequired highwater)
  else do
    let events ← (rowsAfter after now rows).mapM readInvalidation
    if (events = [] ∧ after < highwater) ∨ contiguous (after + 1) events = false then
      pure (.catchUpRequired highwater)
    else pure (.events highwater events)

/-! ## Pages -/

theorem contiguous_iff {first : Nat} {events : List Invalidation} :
    contiguous first events = true ↔ events.map (·.cursor) = List.range' first events.length := by
  induction events generalizing first with
  | nil => exact ⟨fun _ => rfl, fun _ => rfl⟩
  | cons event rest ih =>
    rw [contiguous, Bool.and_eq_true, decide_eq_true_eq, ih, List.map_cons, List.length_cons,
      List.range'_succ, List.cons.injEq]

theorem mem_rowsAfter {after : Nat} {now : Int} {rows : List JournalRow} {row : JournalRow}
    (listed : row ∈ rowsAfter after now rows) :
    row ∈ rows ∧ after < row.cursor ∧ now < row.expiresAt := by
  have selected := (List.mem_insertionSort _).mp (List.mem_of_mem_take listed)
  rwa [List.mem_filter, decide_eq_true_eq] at selected

theorem safe_of_le {value : Nat} (small : value ≤ maxSafeInteger) : safe value = .ok value :=
  if_pos small

/-- What a page says about the highwater that was read with it and the rows. -/
def ReplayPage.Answers (highwater after : Nat) (now : Int) (rows : List JournalRow) :
    ReplayPage → Prop
  | .events reported page => reported = highwater ∧
      page.map (·.cursor) = List.range' (after + 1) page.length ∧
      (∀ event ∈ page, ∃ row ∈ rows, now < row.expiresAt ∧ row.invalidation = event) ∧
      (page = [] → after = highwater)
  | .catchUpRequired reported => reported = highwater

/-- An event that a replay cannot deliver: there is no row for it, or it has expired. -/
def Missing (cursor : Nat) (now : Int) (rows : List JournalRow) : Prop :=
  ∀ row ∈ rows, row.cursor = cursor → row.expiresAt ≤ now

section Pages

variable {before : Journal} {rows : List JournalRow} {lease : Lease} {after : Nat} {now : Int}

/-- A replay with a valid lease answers. -/
theorem replay_answers (sound : before.Sound) (small : ∀ row ∈ rows, row.cursor ≤ maxSafeInteger)
    (valid : now < lease.expiresAt) :
    ∃ page, replayInTransaction lease after now (some (before.nextCursor, before.journalFloor))
        rows = .ok page ∧ page.Answers before.nextCursor after now rows ∧
      ∀ cursor, after < cursor → Missing cursor now rows →
        (cursor = after + 1 ∧ cursor ≤ before.nextCursor ∨
          ∃ row ∈ rowsAfter after now rows, cursor < row.cursor) →
        page = .catchUpRequired before.nextCursor := by
  have read : (rowsAfter after now rows).mapM readInvalidation =
      .ok ((rowsAfter after now rows).map JournalRow.invalidation) := by
    apply mapM_eq_ok_map
    intro row listed
    rw [readInvalidation, safe_of_le (small row (mem_rowsAfter listed).1), ok_bind]
    rfl
  rw [replayInTransaction, rejectIf_neg _ (Int.not_le.mpr valid), ok_bind, okOr_some, ok_bind]
  dsimp only
  rw [safe_of_le sound.next_le, ok_bind, safe_of_le sound.floor_le, ok_bind]
  split
  case isTrue => exact ⟨_, rfl, rfl, fun _ _ _ _ => rfl⟩
  case isFalse inside =>
    rw [read, ok_bind]
    split
    case isTrue => exact ⟨_, rfl, rfl, fun _ _ _ _ => rfl⟩
    case isFalse whole =>
      obtain ⟨occupied, follow⟩ := not_or.mp whole
      obtain ⟨_, reached⟩ := not_or.mp inside
      rw [Bool.not_eq_false, contiguous_iff] at follow
      refine ⟨_, rfl, ⟨rfl, follow, ?_, ?_⟩, ?_⟩
      · intro event listed
        obtain ⟨row, selected, same⟩ := List.mem_map.mp listed
        have found := mem_rowsAfter selected
        exact ⟨row, found.1, found.2.2, same⟩
      · intro none
        exact (Nat.not_lt.mp reached).antisymm (Nat.not_lt.mp fun less => occupied ⟨none, less⟩)
      · -- a cursor of the page has a row that has not expired
        intro cursor beyond missing reaches
        have absent : cursor ∉ ((rowsAfter after now rows).map JournalRow.invalidation).map
            (·.cursor) := by
          rw [List.map_map]
          intro listed
          obtain ⟨row, selected, same⟩ := List.mem_map.mp listed
          have found := mem_rowsAfter selected
          exact absurd (missing row found.1 same) (Int.not_le.mpr found.2.2)
        rw [follow, List.mem_range'_1] at absent
        refine (absent ⟨beyond, ?_⟩).elim
        cases reaches with
        | inl next =>
          have less : after < before.nextCursor := by omega
          have length := List.length_pos_iff.mpr fun none => occupied ⟨none, less⟩
          omega
        | inr later =>
          obtain ⟨row, selected, less⟩ := later
          have member := List.mem_map_of_mem (f := Invalidation.cursor)
            (List.mem_map_of_mem (f := JournalRow.invalidation) selected)
          rw [follow, List.mem_range'_1] at member
          exact less.trans member.2

/-- The cursors of a page follow one by one. -/
theorem cursors_of_events {head : Option (Nat × Nat)} {highwater : Nat}
    {events : List Invalidation}
    (replayed : replayInTransaction lease after now head rows = .ok (.events highwater events)) :
    events.map (·.cursor) = List.range' (after + 1) events.length := by
  simp only [replayInTransaction, bind_eq_ok] at replayed
  obtain ⟨_, _, _, _, _, _, _, _, replayed⟩ := replayed
  split at replayed
  case isTrue => cases replayed
  case isFalse =>
    obtain ⟨page, _, replayed⟩ := bind_eq_ok.mp replayed
    split at replayed
    case isTrue => cases replayed
    case isFalse whole =>
      cases replayed
      exact contiguous_iff.mp (Bool.not_eq_false _ ▸ (not_or.mp whole).2)

end Pages

/-! ## Runs -/

/-- A journal and a device that reads it. -/
structure ReplayRun where
  journal : Journal
  /-- The last cursor that the device has received. -/
  cursor : Nat
  received : List Invalidation
  /-- The head that a replay under way has read. -/
  head : Option (Nat × Nat)

/-- One statement or database function at a time.  Writers other than the identity log choose
their own expiry. -/
inductive ReplayStep : ReplayRun → Int → ReplayRun → Prop
  | invalidates {run time authorized kind digest cursor journal}
      (appended : appendIdentityInvalidation authorized kind digest time (some run.journal) =
        .ok (cursor, journal)) :
      ReplayStep run time { run with journal }
  | writes {run time kind digest expiresAt cursor journal}
      (appended : run.journal.append kind digest expiresAt = .ok (cursor, journal)) :
      ReplayStep run time { run with journal }
  | compacts {run time authorized now maximumRows others total journal}
      (compacted : run.journal.compactExpired authorized now maximumRows time others =
        some (.ok (total, journal))) :
      ReplayStep run time { run with journal }
  | readsHead {run time} (idle : run.head = none) :
      ReplayStep run time
        { run with head := some (run.journal.nextCursor, run.journal.journalFloor) }
  | receives {run time lease highwater events} (begun : run.head ≠ none)
      (replayed : replayInTransaction lease run.cursor time run.head run.journal.rows =
        .ok (.events highwater events)) :
      ReplayStep run time
        { run with
          cursor := (events.getLast?.map (·.cursor)).getD run.cursor
          received := run.received ++ events
          head := none }
  | stops {run time lease highwater} (begun : run.head ≠ none)
      (replayed : replayInTransaction lease run.cursor time run.head run.journal.rows =
        .ok (.catchUpRequired highwater)) :
      ReplayStep run time { run with head := none }

/-- What a run keeps: a sound journal, and a device that has received the cursors after its
start one by one. -/
structure GapFree (start : Nat) (run : ReplayRun) : Prop where
  sound : run.journal.Sound
  cursors : run.received.map (·.cursor) = List.range' (start + 1) run.received.length
  last : run.cursor = start + run.received.length

theorem GapFree.step {start : Nat} {run after : ReplayRun} {time : Int}
    (before : GapFree start run) (step : ReplayStep run time after) : GapFree start after := by
  cases step with
  | invalidates appended =>
    have sound := Journal.Sound.invalidation
      (fun _ found => Option.mem_some.mp found ▸ before.sound) appended
    exact ⟨sound, before.cursors, before.last⟩
  | writes appended => exact ⟨before.sound.append appended, before.cursors, before.last⟩
  | compacts compacted =>
    refine ⟨?_, before.cursors, before.last⟩
    cases before.sound.compactExpired _ _ _ _ _ with
    | inl rejected => cases compacted.symm.trans rejected
    | inr done =>
      obtain ⟨_, _, done, compacts⟩ := done
      cases compacted.symm.trans done
      exact compacts.sound
  | readsHead idle => exact ⟨before.sound, before.cursors, before.last⟩
  | @receives _ _ events begun replayed =>
    have page := cursors_of_events replayed
    have last : (events.getLast?.map (·.cursor)).getD run.cursor =
        run.cursor + events.length := by
      rw [← List.getLast?_map, page, List.getLast?_range']
      split
      case isTrue none => rw [none, Option.getD_none, Nat.add_zero]
      case isFalse =>
        rw [Option.getD_some]
        omega
    refine ⟨before.sound, numbered_append.mpr ⟨before.cursors, ?_⟩, last.trans ?_⟩
    · rw [page, before.last, Nat.add_right_comm]
    · rw [before.last, List.length_append, Nat.add_assoc]
  | stops begun replayed => exact ⟨before.sound, before.cursors, before.last⟩

theorem gapFree_of_reached {start run : ReplayRun} (sound : start.journal.Sound)
    (fresh : start.received = []) (reached : ReachedFrom start ReplayStep run) :
    GapFree start.cursor run := by
  apply reached.invariant
  · intro state same
    subst same
    refine ⟨sound, ?_, ?_⟩
    · rw [fresh]
      rfl
    · rw [fresh]
      rfl
  · intro state time after before step
    exact before.step step

/-- In every run a device that starts at any cursor receives the cursors behind it one by one.
A replay that has read the head of one state and the rows of a later one answers with such
cursors, with none only at the highwater, and asks to catch up where it would pass a missing or
expired event.  A compaction raises no error, and moves the floor on, but not past an event that
has not expired. -/
theorem realtime_journal_gap_free {start run : ReplayRun} (sound : start.journal.Sound)
    (fresh : start.received = []) (reached : ReachedFrom start ReplayStep run) :
    run.received.map (·.cursor) = List.range' (start.cursor + 1) run.received.length ∧
      run.cursor = start.cursor + run.received.length ∧
      (∀ later, ReachedFrom run ReplayStep later → ∀ (lease : Lease) (after : Nat) (now : Int),
        now < lease.expiresAt →
        ∃ page, replayInTransaction lease after now
            (some (run.journal.nextCursor, run.journal.journalFloor)) later.journal.rows =
              .ok page ∧
          page.Answers run.journal.nextCursor after now later.journal.rows ∧
          ∀ cursor, after < cursor → Missing cursor now later.journal.rows →
            (cursor = after + 1 ∧ cursor ≤ run.journal.nextCursor ∨
              ∃ row ∈ rowsAfter after now later.journal.rows, cursor < row.cursor) →
            page = .catchUpRequired run.journal.nextCursor) ∧
      ∀ authorized now maximumRows databaseNow others,
        run.journal.compactExpired authorized now maximumRows databaseNow others =
            some (.error .compactionRejected) ∨
          ∃ total after,
            run.journal.compactExpired authorized now maximumRows databaseNow others =
              some (.ok (total, after)) ∧
            run.journal.journalFloor ≤ after.journalFloor ∧
            ∀ row ∈ run.journal.rows, databaseNow < row.expiresAt →
              row ∈ after.rows ∧ after.journalFloor ≤ row.cursor := by
  have free := gapFree_of_reached sound fresh reached
  refine ⟨free.cursors, free.last, ?_, ?_⟩
  · intro later further lease after now valid
    have kept := gapFree_of_reached sound fresh (reached.extend further)
    apply replay_answers free.sound _ valid
    intro row listed
    exact (kept.sound.mem_bounds listed).2.trans kept.sound.next_le
  · intro authorized now maximumRows databaseNow others
    apply (free.sound.compactExpired authorized now maximumRows databaseNow others).imp_right
    intro ⟨total, after, done, compacts⟩
    exact ⟨total, after, done, compacts.floor, fun row => compacts.live⟩

section Sample

/-- An event that has expired between two that have not. -/
def sampleJournal : Journal where
  nextCursor := 3
  journalFloor := 1
  rows := [⟨1, .deviceRevoked, taggedBytes 1, 100⟩, ⟨2, .mailboxDelivery, taggedBytes 2, 5⟩,
    ⟨3, .deviceRevoked, taggedBytes 3, 100⟩]
  outbox := []

/-- A device behind the expired event receives the last one; at the start of the journal a
device gets no further than to the expired event. -/
theorem sampleJournal_replayed :
    ∃ run : ReplayRun, run.received.map (·.cursor) = [3] ∧
      run.received.map (·.cursor) = List.range' (2 + 1) run.received.length ∧
      replayInTransaction (sampleLease 1 1) 0 10 (some (3, 1)) sampleJournal.rows =
        .ok (.catchUpRequired 3) := by
  have sound : sampleJournal.Sound :=
    ⟨rfl, .inl rfl, by decide, by decide, List.forall_mem_nil _⟩
  have start : ReachedFrom ⟨sampleJournal, 2, [], none⟩ ReplayStep _ := .initial rfl
  have replayed : replayInTransaction (sampleLease 1 1) 2 10 (some (3, 1)) sampleJournal.rows =
      .ok (.events 3 [⟨3, .deviceRevoked, taggedBytes 3⟩]) := by
    decide +kernel
  have run := start.next 10 (.readsHead rfl) |>.next 10 (.receives (by nofun) replayed)
  refine ⟨_, ?_, (realtime_journal_gap_free sound rfl run).1, by decide +kernel⟩
  rfl

end Sample

end Dirextalk.Realtime
