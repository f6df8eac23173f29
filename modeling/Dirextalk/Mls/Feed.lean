import Dirextalk.Lib.Numbering
import Dirextalk.Mls.Runs

/-!
# The commit feed

A device follows the group by pages of consecutive commits.  The feed leaves out
the commits of version 2, which the sequencer still admits, so a page is the one
that the device needs exactly when none of its epochs has such a commit.
-/

namespace Dirextalk.Mls

open Domain Dirextalk.Group Lib Persistence Wire

namespace MlsGroup

/-! ## The selected rows -/

theorem take_filter_of_forall {α : Type} {selected : α → Bool} {items : List α} {count : Nat}
    (all : ∀ item ∈ items.take count, selected item = true) :
    (items.filter selected).take count = items.take count := by
  induction items generalizing count with
  | nil => rfl
  | cons item rest ih =>
    cases count with
    | zero => rfl
    | succ count =>
      rw [List.take_succ_cons, List.forall_mem_cons] at all
      rw [List.filter_cons_of_pos all.1, List.take_succ_cons, List.take_succ_cons, ih all.2]

variable [Sha256] [Ed25519] {sequencerSigningKey : SigningPublicKey} {group : MlsGroup}

/-- The commits of the epochs after one and up to another. -/
def window (group : MlsGroup) (afterEpoch lastEpoch : Nat) : List CommitRows :=
  (group.commits.take lastEpoch).drop afterEpoch

theorem Sequenced.numbers (sequenced : group.Sequenced sequencerSigningKey) :
    group.commits.map (fun rows => rows.intent.admittedEpoch.toNat) =
      List.range' 1 group.commits.length := by
  refine List.ext_getElem (by simp) fun index within _ => ?_
  rw [List.length_map] at within
  have epoch := sequenced.epochs index _ (List.getElem?_eq_getElem within)
  rw [List.getElem_map, List.getElem_range', epoch]
  omega

theorem Sequenced.epochs_window (sequenced : group.Sequenced sequencerSigningKey)
    (afterEpoch lastEpoch limit : Nat) (last_le : lastEpoch ≤ group.commits.length) :
    ((group.window afterEpoch lastEpoch).take limit).map
        (fun rows => rows.intent.admittedEpoch.toNat) =
      List.range' (afterEpoch + 1) (min limit (lastEpoch - afterEpoch)) := by
  rw [window, List.map_take, List.map_drop, List.map_take, sequenced.numbers]
  refine List.ext_getElem ?_ fun index _ _ => ?_
  · simp only [List.length_take, List.length_drop, List.length_range']
    omega
  · simp only [List.getElem_take, List.getElem_drop, List.getElem_range']
    omega

theorem Sequenced.feedRows_eq (sequenced : group.Sequenced sequencerSigningKey)
    (afterEpoch lastEpoch : UInt64) (limit : Nat) :
    group.feedRows afterEpoch lastEpoch limit =
      ((group.window afterEpoch.toNat lastEpoch.toNat).filter fun rows =>
        inFeed rows.intent.protocolVersion).take limit := by
  have selected : (group.commits.filter fun rows =>
      afterEpoch < rows.intent.admittedEpoch ∧ rows.intent.admittedEpoch ≤ lastEpoch ∧
        inFeed rows.intent.protocolVersion) =
      (group.window afterEpoch.toNat lastEpoch.toNat).filter fun rows =>
        inFeed rows.intent.protocolVersion := by
    have numbered := filter_numbered sequenced.numbers afterEpoch.toNat lastEpoch.toNat
    rw [Nat.add_sub_cancel, Nat.add_sub_cancel] at numbered
    rw [window, ← numbered, List.filter_filter]
    refine List.filter_congr fun rows _ => ?_
    simp only [UInt64.lt_iff_toNat_lt, UInt64.le_iff_toNat_le]
    rw [Bool.eq_iff_iff]
    simp only [decide_eq_true_eq, Bool.and_eq_true]
    tauto
  have sorted : ((group.window afterEpoch.toNat lastEpoch.toNat).filter fun rows =>
      inFeed rows.intent.protocolVersion).Pairwise fun left right =>
        left.intent.admittedEpoch ≤ right.intent.admittedEpoch := by
    have ascending : group.commits.Pairwise fun left right =>
        left.intent.admittedEpoch ≤ right.intent.admittedEpoch := by
      have numbers : (group.commits.map fun rows => rows.intent.admittedEpoch.toNat).Pairwise
          (· < ·) := by
        rw [sequenced.numbers]
        exact List.pairwise_lt_range'
      refine (List.pairwise_map.mp numbers).imp fun less => ?_
      exact UInt64.le_iff_toNat_le.mpr less.le
    refine ascending.sublist ?_
    exact List.filter_sublist.trans ((List.drop_sublist _ _).trans (List.take_sublist _ _))
  rw [feedRows, selected, sorted.insertionSort_eq]

/-! ## The loop over a page -/

/-- The item that is delivered for the rows of a commit. -/
def ItemOf (sequencerSigningKey : SigningPublicKey) (scope : GroupScope) (item : MlsCommitFeedItem)
    (rows : CommitRows) : Prop :=
  receiptFromRow scope sequencerSigningKey rows.intent rows.stored = .ok item.receipt ∧
    item.commitBytes = rows.intent.commitBytes

variable {scope : GroupScope}

theorem feedStep_eq_ok {expectedEpoch nextEpoch : UInt64} {items after : List MlsCommitFeedItem}
    {rows : CommitRows} :
    feedStep scope sequencerSigningKey (expectedEpoch, items) rows = .ok (nextEpoch, after) ↔
      ∃ item, ItemOf sequencerSigningKey scope item rows ∧ after = items ++ [item] ∧
        inFeed item.receipt.protocolVersion = true ∧
        item.receipt.admittedEpoch = expectedEpoch ∧
        mlsOpaqueCommitDigest rows.intent.commitBytes = item.receipt.commitDigest ∧
        checkedAddUInt64 expectedEpoch 1 = some nextEpoch := by
  simp only [feedStep, bind_eq_ok, rejectIf_eq_ok, exists_const, okOr_eq_ok, pure_eq_ok, not_or,
    not_not, ne_eq, Prod.mk.injEq]
  constructor
  · rintro ⟨receipt, built, ⟨version, epoch⟩, digest, _, next, rfl, rfl⟩
    exact ⟨⟨receipt, rows.intent.commitBytes⟩, ⟨built, rfl⟩, rfl, version, epoch, digest, next⟩
  · rintro ⟨⟨receipt, bytes⟩, ⟨built, rfl⟩, rfl, version, epoch, digest, next⟩
    exact ⟨receipt, built, ⟨version, epoch⟩, digest, nextEpoch, next, rfl, rfl⟩

variable {rows : List CommitRows}

/-- A page that is returned holds the items of its rows, at consecutive epochs. -/
theorem feed_sound {expectedEpoch final : UInt64} {items result : List MlsCommitFeedItem}
    (done : rows.foldlM (feedStep scope sequencerSigningKey) (expectedEpoch, items) =
      .ok (final, result)) :
    ∃ added, result = items ++ added ∧
      List.Forall₂ (ItemOf sequencerSigningKey scope) added rows := by
  induction rows generalizing expectedEpoch items with
  | nil =>
    cases done
    exact ⟨[], (List.append_nil _).symm, .nil⟩
  | cons first rest ih =>
    rw [List.foldlM_cons, bind_eq_ok] at done
    obtain ⟨⟨nextEpoch, middle⟩, stepped, done⟩ := done
    obtain ⟨item, delivered, rfl, -⟩ := feedStep_eq_ok.mp stepped
    obtain ⟨added, rfl, matched⟩ := ih done
    exact ⟨item :: added, by simp, .cons delivered matched⟩

variable {items : List MlsCommitFeedItem}

/-- Rows at consecutive epochs, each with its receipt, make a page. -/
theorem feed_complete (rows : List CommitRows) {expectedEpoch : UInt64}
    (epochs : rows.map (fun rows => rows.intent.admittedEpoch.toNat) =
      List.range' expectedEpoch.toNat rows.length)
    (small : expectedEpoch.toNat + rows.length < UInt64.size)
    (sound : ∀ entry ∈ rows, inFeed entry.intent.protocolVersion = true ∧
      mlsOpaqueCommitDigest entry.intent.commitBytes = entry.intent.commitDigest ∧
      ∃ receipt, receiptFromRow scope sequencerSigningKey entry.intent entry.stored =
        .ok receipt) :
    ∃ final result, rows.foldlM (feedStep scope sequencerSigningKey) (expectedEpoch, items) =
      .ok (final, result) := by
  induction rows generalizing expectedEpoch items with
  | nil => exact ⟨expectedEpoch, items, rfl⟩
  | cons first rest ih =>
    obtain ⟨⟨version, digest, receipt, built⟩, sound⟩ := List.forall_mem_cons.mp sound
    rw [List.map_cons, List.length_cons, List.range'_succ] at epochs
    obtain ⟨epoch, epochs⟩ := List.cons.inj epochs
    rw [List.length_cons] at small
    have next : checkedAddUInt64 expectedEpoch 1 = some (expectedEpoch + 1) := by
      refine checkedAddUInt64_eq_some.mpr ?_
      have room : expectedEpoch.toNat + 1 < UInt64.size := by omega
      rw [UInt64.toNat_add]
      exact (Nat.mod_eq_of_lt room).symm
    have raised : (expectedEpoch + 1).toNat = expectedEpoch.toNat + 1 :=
      (checkedAddUInt64_eq_some.mp next).symm
    obtain ⟨-, -, versioned, admitted, committed⟩ := receiptFromRow_fields built
    have stepped : feedStep scope sequencerSigningKey (expectedEpoch, items) first =
        .ok (expectedEpoch + 1, items ++ [⟨receipt, first.intent.commitBytes⟩]) := by
      refine feedStep_eq_ok.mpr ⟨_, ⟨built, rfl⟩, rfl, ?_, ?_, ?_, next⟩
      · rw [versioned]
        exact version
      · rw [admitted]
        exact UInt64.toNat_inj.mp epoch
      · rw [committed]
        exact digest
    obtain ⟨final, result, done⟩ := ih (raised.symm ▸ epochs) (by omega) sound
    exact ⟨final, result, by rw [List.foldlM_cons, stepped, ok_bind, done]⟩

/-! ## Pages -/

/-- The page holds the commits of all epochs after one, up to the limit and the last
one, in order. -/
structure Delivers (sequencerSigningKey : SigningPublicKey) (group : MlsGroup)
    (afterEpoch limit lastEpoch : Nat) (page : MlsCommitFeedPage) : Prop where
  epochs : page.items.map (fun item => item.receipt.admittedEpoch.toNat) =
    List.range' (afterEpoch + 1) (min limit (lastEpoch - afterEpoch))
  items : ∀ item ∈ page.items, ∃ rows ∈ group.commits,
    ItemOf sequencerSigningKey group.scope item rows

/-- Every commit that the page should hold is of a version that the feed selects. -/
def Readable (group : MlsGroup) (afterEpoch limit lastEpoch : Nat) : Prop :=
  ∀ rows ∈ (group.window afterEpoch lastEpoch).take limit,
    inFeed rows.intent.protocolVersion = true

instance (afterEpoch limit lastEpoch : Nat) :
    Decidable (group.Readable afterEpoch limit lastEpoch) :=
  inferInstanceAs (Decidable (∀ rows ∈ _, _))

theorem epochs_of_items (matched : List.Forall₂ (ItemOf sequencerSigningKey scope) items rows) :
    items.map (fun item => item.receipt.admittedEpoch.toNat) =
      rows.map fun rows => rows.intent.admittedEpoch.toNat := by
  induction matched with
  | nil => rfl
  | cons delivered _ ih =>
    rw [List.map_cons, List.map_cons, ih, (receiptFromRow_fields delivered.1).2.2.2.1]

theorem mem_of_items {item : MlsCommitFeedItem}
    (matched : List.Forall₂ (ItemOf sequencerSigningKey scope) items rows) (member : item ∈ items) :
    ∃ entry ∈ rows, ItemOf sequencerSigningKey scope item entry := by
  induction matched with
  | nil => cases member
  | @cons first entry _ _ delivered _ ih =>
    rcases List.mem_cons.mp member with rfl | later
    · exact ⟨entry, List.mem_cons_self, delivered⟩
    · obtain ⟨found, present, delivered⟩ := ih later
      exact ⟨found, List.mem_cons_of_mem _ present, delivered⟩

section Page

variable (sequenced : group.Sequenced sequencerSigningKey)

include sequenced

/-- Commits of one epoch are one commit. -/
theorem Sequenced.eq_of_epoch {rows other : CommitRows} (member : rows ∈ group.commits)
    (otherMember : other ∈ group.commits)
    (same : rows.intent.admittedEpoch.toNat = other.intent.admittedEpoch.toNat) : rows = other := by
  have distinct : (group.commits.map fun rows => rows.intent.admittedEpoch.toNat).Nodup := by
    rw [sequenced.numbers]
    exact List.nodup_range'
  exact List.inj_on_of_nodup_map distinct member otherMember same

omit [Sha256] sequenced in
theorem mem_of_mem_window {afterEpoch lastEpoch : Nat} {rows : CommitRows}
    (member : rows ∈ group.window afterEpoch lastEpoch) : rows ∈ group.commits :=
  List.mem_of_mem_take (List.mem_of_mem_drop member)

/-- The loop over the selected rows delivers the page exactly when it is readable. -/
theorem Sequenced.delivers_iff {afterEpoch maximumEpoch firstEpoch : UInt64} {limit last : Nat}
    (window_eq : group.window afterEpoch.toNat maximumEpoch.toNat =
      group.window afterEpoch.toNat last)
    (last_le : last ≤ group.commits.length) (first : firstEpoch.toNat = afterEpoch.toNat + 1)
    (few : limit ≤ maxFeedPageSize) (after_le : afterEpoch.toNat ≤ group.commits.length) :
    (∃ final items, (group.feedRows afterEpoch maximumEpoch limit).foldlM
        (feedStep group.scope sequencerSigningKey) (firstEpoch, []) = .ok (final, items) ∧
      Delivers sequencerSigningKey group afterEpoch.toNat limit last ⟨afterEpoch, items⟩) ↔
      group.Readable afterEpoch.toNat limit last := by
  have epochs := sequenced.epochs_window afterEpoch.toNat last limit last_le
  rw [sequenced.feedRows_eq, window_eq]
  constructor
  · rintro ⟨final, items, done, delivers⟩ rows member
    obtain ⟨added, added_eq, matched⟩ := feed_sound done
    rw [List.nil_append] at added_eq
    subst added_eq
    -- the epoch of the row is among those delivered, so the row itself is
    have delivered := delivers.epochs
    rw [epochs_of_items matched, ← epochs] at delivered
    have present : rows.intent.admittedEpoch.toNat ∈ ((group.window afterEpoch.toNat last).take
        limit).map fun rows => rows.intent.admittedEpoch.toNat :=
      List.mem_map.mpr ⟨rows, member, rfl⟩
    rw [← delivered] at present
    obtain ⟨other, selected, same⟩ := List.mem_map.mp present
    have selected := List.mem_filter.mp (List.mem_of_mem_take selected)
    obtain rfl : other = rows := sequenced.eq_of_epoch (mem_of_mem_window selected.1)
      (mem_of_mem_window (List.mem_of_mem_take member)) same
    exact selected.2
  · intro readable
    rw [take_filter_of_forall readable]
    have length_eq : ((group.window afterEpoch.toNat last).take limit).length =
        min limit (last - afterEpoch.toNat) := by
      simpa using congrArg List.length epochs
    have sound : ∀ rows ∈ (group.window afterEpoch.toNat last).take limit,
        inFeed rows.intent.protocolVersion = true ∧
        mlsOpaqueCommitDigest rows.intent.commitBytes = rows.intent.commitDigest ∧
        ∃ receipt, receiptFromRow group.scope sequencerSigningKey rows.intent rows.stored =
          .ok receipt := by
      intro rows member
      have present := mem_of_mem_window (List.mem_of_mem_take member)
      exact ⟨readable rows member, sequenced.bytes rows present, sequenced.receipts rows present⟩
    have small : firstEpoch.toNat + ((group.window afterEpoch.toNat last).take
        limit).length < UInt64.size := by
      have bounded : group.commits.length ≤ 9007199254740991 := sequenced.bounded
      have few : limit ≤ 64 := few
      rw [length_eq, first]
      change _ < 18446744073709551616
      omega
    obtain ⟨final, items, done⟩ :=
      feed_complete _ (by rw [epochs, length_eq, first]) small sound
    obtain ⟨added, added_eq, matched⟩ := feed_sound done
    rw [List.nil_append] at added_eq
    subst added_eq
    refine ⟨final, _, done, (epochs_of_items matched).trans epochs, fun item member => ?_⟩
    obtain ⟨rows, present, delivered⟩ := mem_of_items matched member
    exact ⟨rows, mem_of_mem_window (List.mem_of_mem_take present), delivered⟩

/-- The page that a device is given, by the last epoch that it may read. -/
theorem Sequenced.feed_iff {identityId : IdentityId} {deviceId : DeviceId}
    {afterEpoch maximumEpoch : UInt64} {limit last : Nat}
    (permitted : group.maximumEpoch identityId deviceId afterEpoch = .ok maximumEpoch)
    (window_eq : group.window afterEpoch.toNat maximumEpoch.toNat =
      group.window afterEpoch.toNat last)
    (last_le : last ≤ group.commits.length)
    (page_size : 1 ≤ limit ∧ limit ≤ maxFeedPageSize)
    (after_le : afterEpoch.toNat ≤ group.commits.length) :
    (∃ page, group.loadCommitFeedInTransaction identityId deviceId afterEpoch limit
        sequencerSigningKey = .ok page ∧ page.afterEpoch = afterEpoch ∧
      Delivers sequencerSigningKey group afterEpoch.toNat limit last page) ↔
      group.Readable afterEpoch.toNat limit last := by
  have bounded : group.commits.length ≤ 9007199254740991 := sequenced.bounded
  have signed : ¬maxSignedEpoch < afterEpoch := by
    rw [UInt64.lt_iff_toNat_lt]
    change ¬9223372036854775807 < afterEpoch.toNat
    omega
  have room : (afterEpoch + 1).toNat = afterEpoch.toNat + 1 := by
    rw [UInt64.toNat_add]
    exact Nat.mod_eq_of_lt (by change afterEpoch.toNat + 1 < _; omega)
  have first : checkedAddUInt64 afterEpoch 1 = some (afterEpoch + 1) :=
    checkedAddUInt64_eq_some.mpr room.symm
  rw [← sequenced.delivers_iff window_eq last_le room page_size.2 after_le]
  simp only [loadCommitFeedInTransaction, rejectIf_neg _ (not_not.mpr page_size),
    rejectIf_neg _ signed, ok_bind, permitted, first, okOr_some, bind_eq_ok, pure_eq_ok,
    Prod.exists]
  constructor
  · rintro ⟨_, ⟨final, items, done, rfl⟩, -, delivers⟩
    exact ⟨final, items, done, delivers⟩
  · rintro ⟨final, items, done, delivers⟩
    exact ⟨_, ⟨final, items, done, rfl⟩, rfl, delivers⟩

end Page

/-- In every reachable group an active member device is given exactly the commits that
follow the epoch it has, and a removed one those up to its removal, if and only if the
feed selects the versions of all of them; a removed device is refused from then on. -/
theorem commit_feed_complete_iff
    (reached : Reached Unsequenced (Transacts sequencerSigningKey) group) {afterEpoch : UInt64}
    {limit : Nat} (after_le : afterEpoch.toNat ≤ group.commits.length)
    (page_size : 1 ≤ limit ∧ limit ≤ maxFeedPageSize) (identityId : IdentityId)
    (deviceId : DeviceId) :
    (group.isMember identityId = true → group.hasLeaf .active identityId deviceId = true →
      ((∃ page, group.loadCommitFeedInTransaction identityId deviceId afterEpoch limit
          sequencerSigningKey = .ok page ∧ page.afterEpoch = afterEpoch ∧
        Delivers sequencerSigningKey group afterEpoch.toNat limit group.commits.length page) ↔
        group.Readable afterEpoch.toNat limit group.commits.length)) ∧
    ∀ row removedEpoch, group.deviceRow? identityId deviceId = some row →
      row.state = .removed → row.removedEpoch = some removedEpoch →
      (afterEpoch < removedEpoch →
        ((∃ page, group.loadCommitFeedInTransaction identityId deviceId afterEpoch limit
            sequencerSigningKey = .ok page ∧ page.afterEpoch = afterEpoch ∧
          Delivers sequencerSigningKey group afterEpoch.toNat limit removedEpoch.toNat page) ↔
          group.Readable afterEpoch.toNat limit removedEpoch.toNat)) ∧
      (removedEpoch ≤ afterEpoch →
        group.loadCommitFeedInTransaction identityId deviceId afterEpoch limit
          sequencerSigningKey = .error .deviceAuthenticationRejected) := by
  have sequenced := sequenced_of_reached reached
  have bounded : group.commits.length ≤ 9007199254740991 := sequenced.bounded
  constructor
  · intro member active
    refine sequenced.feed_iff (if_pos ⟨member, active⟩) ?_ (Nat.le_refl _) page_size after_le
    have all : group.commits.length ≤ maxSignedEpoch.toNat := by
      change _ ≤ 9223372036854775807
      omega
    rw [window, window, List.take_of_length_le all, List.take_length]
  · intro row removedEpoch found removed ended
    have inactive : ¬(group.isMember identityId = true ∧
        group.hasLeaf .active identityId deviceId = true) := by
      simp [hasLeaf, found, removed]
    have permitted : group.maximumEpoch identityId deviceId afterEpoch =
        okOr ((some removedEpoch).filter fun epoch => afterEpoch < epoch)
          .deviceAuthenticationRejected := by
      rw [maximumEpoch, if_neg inactive, found, Option.filter_some_pos (by simpa using removed)]
      change okOr (row.removedEpoch.filter _) _ = _
      rw [ended]
    constructor
    · intro before
      have allowed : group.maximumEpoch identityId deviceId afterEpoch = .ok removedEpoch := by
        rw [permitted, Option.filter_some_pos (by simpa using before)]
        rfl
      have last_le := sequenced.removals row (List.mem_of_find?_eq_some found) _ ended
      exact sequenced.feed_iff allowed rfl last_le page_size after_le
    · intro late
      have signed : ¬maxSignedEpoch < afterEpoch := by
        rw [UInt64.lt_iff_toNat_lt]
        change ¬9223372036854775807 < afterEpoch.toNat
        omega
      rw [loadCommitFeedInTransaction, rejectIf_neg _ (not_not.mpr page_size), ok_bind,
        rejectIf_neg _ signed, ok_bind, permitted,
        Option.filter_some_neg (by simpa using late)]
      rfl

end MlsGroup

/-! ### Devices of the owner -/

section Samples

open Identity

attribute [local instance] openEd25519 countingSha256

/-- The third device is added at once. -/
def recoveredGroup : MlsGroup :=
  readyGroup.settle sequencerKey (recoveryCall readyGroup 1 (by decide))

/-- The number of commits after epoch 1 that the first device is given. -/
def followed (group : MlsGroup) : Except GroupPersistenceError Nat :=
  (group.loadCommitFeedInTransaction (.tagged 0) (.tagged 1) 1 64 sequencerKey).map
    (·.items.length)

-- evaluated at once, since the groups build on each other
theorem sampleFeeds_evaluated :
    (readyGroup.transact sequencerKey (recoveryCall readyGroup 1 (by decide))).isOk = true ∧
      (recoveredGroup.commits.length = 2 ∧ recoveredGroup.isMember (.tagged 0) = true ∧
        recoveredGroup.hasLeaf .active (.tagged 0) (.tagged 1) = true ∧
        recoveredGroup.Readable 1 64 recoveredGroup.commits.length) ∧
      pairedGroup.isMember (.tagged 0) = true ∧
      pairedGroup.hasLeaf .active (.tagged 0) (.tagged 1) = true ∧
      pairedGroup.head.map (·.epoch) = some 2 ∧ followed pairedGroup = .ok 0 ∧
      followed tripleGroup = .error (.corruptData "non-consecutive MLS commit feed") := by
  decide +kernel

/-- The first device follows a commit of version 5. -/
theorem recovery_followed :
    recoveredGroup.commits.length = 2 ∧
      ∃ page, recoveredGroup.loadCommitFeedInTransaction (.tagged 0) (.tagged 1) 1 64
          sequencerKey = .ok page ∧ page.afterEpoch = 1 ∧
        MlsGroup.Delivers sequencerKey recoveredGroup 1 64 recoveredGroup.commits.length page := by
  obtain ⟨recovers, ⟨two, member, active, readable⟩, -⟩ := sampleFeeds_evaluated
  have reached : Reached MlsGroup.Unsequenced (MlsGroup.Transacts sequencerKey) recoveredGroup :=
    .next _ sampleGroups_reached.1 (MlsGroup.transacts_settle recovers)
  have after_le : (1 : UInt64).toNat ≤ recoveredGroup.commits.length := by
    rw [two]
    decide
  have page_size : 1 ≤ 64 ∧ 64 ≤ MlsGroup.maxFeedPageSize := by decide
  have complete := MlsGroup.commit_feed_complete_iff reached after_le page_size (.tagged 0)
    (.tagged 1)
  exact ⟨two, (complete.1 member active).mpr readable⟩

/-- The first device is active and the second was admitted at epoch 2 by version 2: the
feed after epoch 1 is empty, and an error once a third device is added by version 5. -/
theorem device_add_missing_from_feed :
    Reached MlsGroup.Unsequenced (MlsGroup.Transacts sequencerKey) pairedGroup ∧
      pairedGroup.isMember (.tagged 0) = true ∧
      pairedGroup.hasLeaf .active (.tagged 0) (.tagged 1) = true ∧
      pairedGroup.head.map (·.epoch) = some 2 ∧ followed pairedGroup = .ok 0 ∧
      followed tripleGroup = .error (.corruptData "non-consecutive MLS commit feed") := by
  obtain ⟨-, -, facts⟩ := sampleFeeds_evaluated
  exact ⟨sampleGroups_reached.2, facts⟩

end Samples

end Dirextalk.Mls
