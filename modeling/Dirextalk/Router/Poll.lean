import Dirextalk.Lib.Rows
import Dirextalk.Router.RunSafety

/-!
# Polling for offers

A connector polls for its live offers.  One query lists them, and then every run is loaded
by a query of its own, so other transactions may move a run after it was listed.  A run that
is still offered in the listed attempt is reported as it was stored; a run whose offer ran out
in between fails the whole poll, and one that went to another connector is reported with that
connector's offer under the listed sequence.
-/

namespace Dirextalk.Router

open Domain Lib

/-! ## Stored runs and offers -/

/-- The columns of an offer that never change. -/
structure StoredOffer where
  runId : RunId
  sequence : Nat
  offer : RunOffer
  candidate : RouteCandidate
  deriving DecidableEq

/-- The column `status` of an offer. -/
inductive OfferStatus where
  | offered
  | claimed
  | expired
  deriving DecidableEq, Repr

/-- A row of `agent_run_offers`. -/
structure OfferRow where
  stored : StoredOffer
  status : OfferStatus
  deriving DecidableEq

/-- `agent_run_offers_attempt_unique`. -/
def StoredOffer.key (stored : StoredOffer) : RunId × Nat := (stored.runId, stored.offer.attempt)

/-- The runs and their offers. -/
structure RunStore where
  runs : List AgentRun
  offers : List OfferRow
  deriving DecidableEq

namespace RunStore

/-- The run with an id. -/
def run (store : RunStore) (runId : RunId) : Option AgentRun :=
  rowAt (·.request.runId) store.runs runId

def stored (store : RunStore) : List StoredOffer := store.offers.map (·.stored)

/-- `save_head`. -/
def write (store : RunStore) (run : AgentRun) (offers : List OfferRow) : RunStore :=
  ⟨updateWhere (·.request.runId = run.request.runId) (fun _ => run) store.runs, offers⟩

end RunStore

/-- `mark_offer_claimed` and `mark_offer_expired`. -/
def RunReply.marks : RunReply → OfferStatus
  | .claimed (.inserted _) => .claimed
  | .moved _ => .expired
  | _ => .offered

/-- Marks the offer that the run held. -/
def RunStore.marked (store : RunStore) (run : AgentRun) (status : OfferStatus) : List OfferRow :=
  updateWhere (fun row => row.stored.runId = run.request.runId ∧
      run.currentOffer.map (·.offerId) = some row.stored.offer.offerId ∧ row.status = .offered)
    (fun row => { row with status }) store.offers

/-- The transactions on runs.  A new offer is numbered by its connector's counter, which is above
every number that it has given. -/
inductive RunCommits (store : RunStore) : Unit → RunStore → Prop
  | created {run : AgentRun} (request : RunRequest) (candidates : List RouteCandidate)
      (made : AgentRun.create request candidates = .ok run)
      (fresh : store.run run.request.runId = none) :
      RunCommits store () { store with runs := store.runs ++ [run] }
  | offered {run after : AgentRun} {offer : RunOffer} {candidate : RouteCandidate}
      (operation : RunOperation) (sequence : Nat)
      (found : store.run run.request.runId = some run)
      (returned : operation.call.run run = .ok (.offered (.inserted offer)) after)
      (current : run.currentCandidate = some candidate)
      (numbered : ∀ other ∈ store.stored, other.offer.connectorFence.connectorId =
        offer.connectorFence.connectorId → other.sequence < sequence)
      (fresh : (run.request.runId, offer.attempt) ∉ store.stored.map StoredOffer.key) :
      RunCommits store () (store.write after
        (store.offers ++ [⟨⟨run.request.runId, sequence, offer, candidate⟩, .offered⟩]))
  | moved {run after : AgentRun} {reply : RunReply} (operation : RunOperation)
      (found : store.run run.request.runId = some run)
      (returned : operation.call.run run = .ok reply after)
      (other : ∀ offer, reply ≠ .offered (.inserted offer)) :
      RunCommits store () (store.write after (store.marked run reply.marks))

/-- Before the first run. -/
def RunStore.Unused (store : RunStore) : Prop := store = ⟨[], []⟩

/-! ## The poll -/

/-- The page query, for a lease of the connector that is active until `controlExpires`.  It
returns the run and the sequence; the other columns are kept to compare with. -/
def RunStore.page (store : RunStore) (fence : ConnectorLeaseFence) (controlExpires : Int64)
    (afterSequence : Nat) (nowMillis : Int64) (limit : Nat) : List StoredOffer :=
  ((((store.offers.filter fun row =>
    row.stored.offer.connectorFence = fence ∧ row.status = .offered ∧
      (store.run row.stored.runId).any (fun run => run.state = .offered ∧
        run.currentOffer.map (·.offerId) = some row.stored.offer.offerId) = true ∧
      nowMillis < controlExpires ∧ nowMillis < row.stored.offer.expiresAtMillis ∧
      afterSequence < row.stored.sequence).map (·.stored)).insertionSort
    fun first second => first.sequence ≤ second.sequence)).take limit

/-- Why a poll fails. -/
inductive PollError where
  | internal
  deriving DecidableEq, Repr

/-- The rows of offers and leases do not change, so that a run is loaded as its head is. -/
def RunStore.loadRun (store : RunStore) (runId : RunId) : Except PollError AgentRun := do
  let run ← okOr (store.run runId) .internal
  (AgentRun.tryFromSnapshot run.snapshot).mapError fun _ => .internal

/-- Every listed run is loaded, after whatever has been committed until then. -/
inductive Loads :
    RunStore → List StoredOffer → List (StoredOffer × Except PollError AgentRun) → Prop
  | done (store : RunStore) : Loads store [] []
  | load {store later : RunStore} {listed : StoredOffer} {others : List StoredOffer}
      {loaded : List (StoredOffer × Except PollError AgentRun)}
      (between : ReachedFrom store RunCommits later) (rest : Loads later others loaded) :
      Loads store (listed :: others) ((listed, later.loadRun listed.runId) :: loaded)

/-- An offer as its connector receives it. -/
structure RunAvailableWire where
  connectorOfferSequence : Nat
  connectorFence : ConnectorLeaseFence
  runId : RunId
  requestId : RequestId
  installationId : InstallationId
  bindingId : BindingId
  connectorId : ConnectorId
  offerAttempt : Nat
  offeredAtMillis : Int64
  offerDeadlineMillis : Int64
  requiredCapabilities : List String
  deriving DecidableEq

/-- What the connector is told about an offered run. -/
def runAvailableWire (sequence : Nat) (run : AgentRun) : Except PollError RunAvailableWire := do
  let offer ← okOr (run.currentOffer.filter fun _ => run.state = .offered) .internal
  let candidate ← okOr run.currentCandidate .internal
  return {
    connectorOfferSequence := sequence
    connectorFence := offer.connectorFence
    runId := run.request.runId
    requestId := run.request.requestId
    installationId := run.request.installationId
    bindingId := candidate.bindingId
    connectorId := candidate.connectorId
    offerAttempt := offer.attempt
    offeredAtMillis := offer.offeredAtMillis
    offerDeadlineMillis := offer.expiresAtMillis
    requiredCapabilities := run.request.requiredCapabilities }

/-- What the poll returns; any error fails it as a whole. -/
def pollOutcome (loaded : List (StoredOffer × Except PollError AgentRun)) :
    Except PollError (List RunAvailableWire) :=
  loaded.mapM fun entry => do
    let run ← entry.2
    runAvailableWire entry.1.sequence run

/-- A report of the offer as it is stored, for the polling connector. -/
structure Exact (fence : ConnectorLeaseFence) (stored : StoredOffer) (wire : RunAvailableWire) :
    Prop where
  sequence : wire.connectorOfferSequence = stored.sequence
  connectorFence : wire.connectorFence = fence
  runId : wire.runId = stored.runId
  attempt : wire.offerAttempt = stored.offer.attempt
  bindingId : wire.bindingId = stored.candidate.bindingId
  connectorId : wire.connectorId = stored.candidate.connectorId
  offeredAt : wire.offeredAtMillis = stored.offer.offeredAtMillis
  deadline : wire.offerDeadlineMillis = stored.offer.expiresAtMillis

/-- The run was loaded in the attempt in which it was listed. -/
def StillOffered (entry : StoredOffer × Except PollError AgentRun) : Prop :=
  ∃ run offer, entry.2 = .ok run ∧ run.state = .offered ∧ run.currentOffer = some offer ∧
    offer.attempt = entry.1.offer.attempt

/-! ## Runs and their offers -/

/-- A run that is offered has its offer in the table, under an attempt of its own. -/
structure RunStore.Sound (store : RunStore) : Prop where
  runs : ∀ {runId run}, store.run runId = some run → run.Sound
  current : ∀ {runId run offer}, store.run runId = some run → run.state = .offered →
    run.currentOffer = some offer → ∃ stored ∈ store.stored, stored.runId = runId ∧
      stored.offer = offer ∧ run.currentCandidate = some stored.candidate
  unique : (store.stored.map StoredOffer.key).Nodup

variable {store after : RunStore}

variable {run changed : AgentRun}

theorem RunStore.run_write {offers : List OfferRow} {runId : RunId}
    (found : store.run runId = some run) (kept : changed.request.runId = run.request.runId)
    (other : RunId) :
    (store.write changed offers).run other =
      if other = runId then some changed else store.run other := by
  have replaced : (store.write changed offers).run other =
      if other = changed.request.runId then (store.run other).map fun _ => changed
      else store.run other := rowAt_replace changed store.runs other
  rw [replaced, kept, key_of_rowAt found]
  split
  case isTrue same => rw [same, found, Option.map_some]
  case isFalse => rfl

theorem stored_marked (run changed : AgentRun) (status : OfferStatus) :
    (store.write changed (store.marked run status)).stored = store.stored := by
  have kept (row : OfferRow) : OfferRow.stored { row with status } = row.stored := rfl
  exact map_updateWhere kept store.offers

theorem stored_offered (changed : AgentRun) (row : OfferRow) :
    (store.write changed (store.offers ++ [row])).stored = store.stored ++ [row.stored] :=
  List.map_append

namespace AgentRun

variable {run later : AgentRun} {reply : RunReply}

theorem Returns.request_eq (returns : run.Returns reply later) : later.request = run.request := by
  cases returns with
  | changed change => exact change.frame.1
  | sameOffer | sameLease => rfl

/-- Only a new offer makes a run offered. -/
theorem Returns.eq_of_offered (returns : run.Returns reply later)
    (other : ∀ offer, reply ≠ .offered (.inserted offer)) (live : later.state = .offered) :
    later = run := by
  cases returns with
  | sameOffer | sameLease => rfl
  | changed change =>
    cases change with
    | skipped queued | deferred queued => cases queued.symm.trans live
    | offered => exact absurd rfl (other _)
    | claimed | expired | ended => cases live
    | withdrawn =>
      simp only [stamped, withdrawOffer] at live
      split at live <;> cases live

end AgentRun

theorem RunStore.Sound.created {run : AgentRun} {request : RunRequest}
    {candidates : List RouteCandidate} (sound : store.Sound)
    (made : AgentRun.create request candidates = .ok run) :
    RunStore.Sound { store with runs := store.runs ++ [run] } := by
  have queued : run.state = .queued := by
    simp only [AgentRun.create, bind_eq_ok, pure_eq_ok] at made
    obtain ⟨_, _, rfl⟩ := made
    rfl
  have present {runId : RunId} {held : AgentRun}
      (found : RunStore.run { store with runs := store.runs ++ [run] } runId = some held) :
      store.run runId = some held ∨ held = run := by
    rw [RunStore.run, rowAt_append, Option.or_eq_some_iff] at found
    exact found.imp id fun new => List.mem_singleton.mp (mem_of_rowAt new.2)
  refine ⟨fun found => ?_, fun found live held => ?_, sound.unique⟩
  · rcases present found with found | rfl
    · exact sound.runs found
    · exact AgentRun.sound_create made
  · rcases present found with found | rfl
    · exact sound.current found live held
    · cases queued.symm.trans live

theorem RunStore.Sound.offered {offer : RunOffer} {candidate : RouteCandidate} {sequence : Nat}
    (sound : store.Sound) (found : store.run run.request.runId = some run)
    (returns : run.Returns (.offered (.inserted offer)) changed)
    (current : run.currentCandidate = some candidate)
    (fresh : (run.request.runId, offer.attempt) ∉ store.stored.map StoredOffer.key) :
    (store.write changed (store.offers ++
      [⟨⟨run.request.runId, sequence, offer, candidate⟩, .offered⟩])).Sound := by
  have kept : changed.request.runId = run.request.runId := by rw [returns.request_eq]
  refine ⟨fun {runId held} present => ?_, fun {runId held other} present live holds => ?_, ?_⟩
  · rw [run_write found kept] at present
    split at present
    · cases present
      exact (sound.runs found).returns returns
    · exact sound.runs present
  · rw [run_write found kept] at present
    rw [stored_offered]
    split at present
    case isTrue here =>
      cases present
      refine ⟨_, List.mem_append_right _ (List.mem_singleton_self _), here.symm, ?_, ?_⟩
      · cases returns with
        | changed change => cases change; exact Option.some.inj holds
      · cases returns with
        | changed change => cases change; exact current
    case isFalse =>
      obtain ⟨stored, listed, columns⟩ := sound.current present live holds
      exact ⟨stored, List.mem_append_left _ listed, columns⟩
  · rw [stored_offered]
    exact nodup_concat sound.unique fresh

theorem RunStore.Sound.moved {reply : RunReply} {status : OfferStatus} (sound : store.Sound)
    (found : store.run run.request.runId = some run) (returns : run.Returns reply changed)
    (other : ∀ offer, reply ≠ .offered (.inserted offer)) :
    (store.write changed (store.marked run status)).Sound := by
  have kept : changed.request.runId = run.request.runId := by rw [returns.request_eq]
  refine ⟨fun {runId held} present => ?_, fun {runId held offer} present live holds => ?_, ?_⟩
  · rw [run_write found kept] at present
    split at present
    · cases present
      exact (sound.runs found).returns returns
    · exact sound.runs present
  · rw [run_write found kept] at present
    rw [stored_marked]
    split at present
    case isTrue here =>
      cases present
      obtain rfl := returns.eq_of_offered other live
      exact here ▸ sound.current found live holds
    case isFalse => exact sound.current present live holds
  · rw [stored_marked]
    exact sound.unique

theorem RunStore.Sound.of_reached (reached : Reached RunStore.Unused RunCommits store) :
    store.Sound := by
  refine reached.invariant RunStore.Sound (fun store start => ?_)
    fun store _ after sound commits => ?_
  · obtain rfl : store = ⟨[], []⟩ := start
    exact ⟨nofun, nofun, .nil⟩
  · cases commits with
    | created request candidates made => exact sound.created made
    | offered operation sequence found returned current numbered fresh =>
      exact sound.offered found ((operation.performs _).of_ok returned) current fresh
    | moved operation found returned other =>
      exact sound.moved found ((operation.performs _).of_ok returned) other

/-! ## What is found later -/

/-- Runs and offers stay. -/
structure RunStore.Keeps (store after : RunStore) : Prop where
  runs : ∀ runId, (store.run runId).isSome = true → (after.run runId).isSome = true
  stored : store.stored ⊆ after.stored

theorem keeps_write {reply : RunReply} {offers : List OfferRow}
    (found : store.run run.request.runId = some run) (returns : run.Returns reply changed)
    (stored : store.stored ⊆ (store.write changed offers).stored) :
    store.Keeps (store.write changed offers) := by
  refine ⟨fun runId present => ?_, stored⟩
  rw [RunStore.run_write found (by rw [returns.request_eq])]
  split
  · rfl
  · exact present

theorem RunCommits.keeps (commits : RunCommits store () after) : store.Keeps after := by
  cases commits with
  | created request candidates made fresh =>
    refine ⟨fun runId present => ?_, List.Subset.refl _⟩
    rw [RunStore.run, rowAt_append, Option.isSome_or]
    exact Bool.or_eq_true_iff.mpr (.inl present)
  | offered operation sequence found returned current numbered fresh =>
    refine keeps_write found ((operation.performs _).of_ok returned) ?_
    rw [stored_offered]
    exact List.subset_append_left _ _
  | moved operation found returned other =>
    refine keeps_write found ((operation.performs _).of_ok returned) ?_
    rw [stored_marked]
    exact List.Subset.refl _

theorem RunStore.Keeps.of_reachedFrom (later : ReachedFrom store RunCommits after) :
    store.Keeps after := by
  refine later.invariant (store.Keeps ·) (fun _ same => ?_) fun _ _ _ kept commits => ?_
  · subst same
    exact ⟨fun _ present => present, List.Subset.refl _⟩
  · exact ⟨fun runId present => commits.keeps.runs runId (kept.runs runId present),
      List.Subset.trans kept.stored commits.keeps.stored⟩

theorem of_mem_page {fence : ConnectorLeaseFence} {controlExpires nowMillis : Int64}
    {afterSequence limit : Nat} {listed : StoredOffer}
    (member : listed ∈ store.page fence controlExpires afterSequence nowMillis limit) :
    listed ∈ store.stored ∧ listed.offer.connectorFence = fence ∧
      (store.run listed.runId).isSome = true := by
  have sorted := List.mem_of_mem_take member
  rw [List.mem_insertionSort, List.mem_map] at sorted
  obtain ⟨row, kept, rfl⟩ := sorted
  obtain ⟨held, selected⟩ := List.mem_filter.mp kept
  simp only [decide_eq_true_eq] at selected
  obtain ⟨fenced, _, live, _⟩ := selected
  refine ⟨List.mem_map_of_mem held, fenced, ?_⟩
  cases found : store.run row.stored.runId with
  | none => simp [found] at live
  | some run => rfl

/-- Every listed run is found, in a store that still has its offer. -/
theorem Loads.found {rows : List StoredOffer}
    {loaded : List (StoredOffer × Except PollError AgentRun)} (loads : Loads store rows loaded)
    (reached : Reached RunStore.Unused RunCommits store)
    (listed : ∀ stored ∈ rows, stored ∈ store.stored ∧ (store.run stored.runId).isSome = true) :
    loaded.map Prod.fst = rows ∧ ∀ entry ∈ loaded, ∃ later run, RunStore.Sound later ∧
      later.run entry.1.runId = some run ∧ entry.1 ∈ later.stored ∧ entry.2 = .ok run := by
  induction loads with
  | done => exact ⟨rfl, List.forall_mem_nil _⟩
  | @load store later first others loaded between rest ih =>
    have reachedLater := reached.extend between
    have kept := RunStore.Keeps.of_reachedFrom between
    have still (stored : StoredOffer) (member : stored ∈ first :: others) :
        stored ∈ later.stored ∧ (later.run stored.runId).isSome = true :=
      ⟨kept.stored (listed stored member).1, kept.runs _ (listed stored member).2⟩
    obtain ⟨same, each⟩ := ih reachedLater fun stored member =>
      still stored (List.mem_cons_of_mem _ member)
    refine ⟨by rw [List.map_cons, same], List.forall_mem_cons.mpr ⟨?_, each⟩⟩
    have sound := RunStore.Sound.of_reached reachedLater
    obtain ⟨present, held⟩ := still first List.mem_cons_self
    obtain ⟨run, found⟩ := Option.isSome_iff_exists.mp held
    refine ⟨later, run, sound, found, present, ?_⟩
    rw [RunStore.loadRun, found, okOr_some, ok_bind, (sound.runs found).tryFromSnapshot]
    rfl

/-- A run in the listed attempt is reported as it is stored, and no other is. -/
theorem exact_iff_stillOffered {fence : ConnectorLeaseFence} {stored : StoredOffer}
    {run : AgentRun} (sound : store.Sound) (found : store.run stored.runId = some run)
    (listed : stored ∈ store.stored) (fenced : stored.offer.connectorFence = fence) :
    (∃ wire, runAvailableWire stored.sequence run = .ok wire ∧ Exact fence stored wire) ↔
      StillOffered (stored, .ok run) := by
  simp only [runAvailableWire, bind_eq_ok, okOr_eq_ok, pure_eq_ok, Option.filter_eq_some_iff,
    decide_eq_true_eq]
  constructor
  · rintro ⟨wire, ⟨offer, ⟨held, live⟩, candidate, _, rfl⟩, exact⟩
    exact ⟨run, offer, rfl, live, held, exact.attempt⟩
  · rintro ⟨_, offer, ⟨⟩, live, held, attempt⟩
    obtain ⟨row, present, same, offers, current⟩ := sound.current found live held
    have key : row.key = stored.key := by
      rw [StoredOffer.key, StoredOffer.key, same, offers, attempt]
    obtain rfl := List.inj_on_of_nodup_map sound.unique present listed key
    subst offers
    have identity := key_of_rowAt found
    exact ⟨_, ⟨_, ⟨held, live⟩, _, current, rfl⟩, rfl, fenced, identity, rfl, rfl, rfl, rfl, rfl⟩

/-- A poll returns every listed offer as it is stored just if every listed run, when it is
loaded, is still offered in the listed attempt. -/
theorem poll_exact_iff {fence : ConnectorLeaseFence} {controlExpires nowMillis : Int64}
    {afterSequence limit : Nat} {loaded : List (StoredOffer × Except PollError AgentRun)}
    (reached : Reached RunStore.Unused RunCommits store)
    (loads : Loads store (store.page fence controlExpires afterSequence nowMillis limit) loaded) :
    (∃ wires, pollOutcome loaded = .ok wires ∧
        List.Forall₂ (fun entry => Exact fence entry.1) loaded wires) ↔
      ∀ entry ∈ loaded, StillOffered entry := by
  obtain ⟨same, each⟩ := loads.found reached fun stored member =>
    ⟨(of_mem_page member).1, (of_mem_page member).2.2⟩
  rw [pollOutcome, exists_mapM_iff]
  refine forall₂_congr fun entry member => ?_
  obtain ⟨later, run, sound, found, listed, loadedRun⟩ := each entry member
  have paged := of_mem_page (same ▸ List.mem_map_of_mem member)
  obtain ⟨stored, result⟩ := entry
  obtain rfl : result = .ok run := loadedRun
  exact exact_iff_stillOffered sound found listed paged.2.1

/-! ## An offer that runs out during a poll -/

def offeredRun : AgentRun := createdRun.called (.offer (.tagged 1) (sampleLeaseFence 1) 1 10)

def sampleStored : StoredOffer :=
  ⟨.tagged 1, 1, ⟨.tagged 1, 1, 0, sampleLeaseFence 1, 1, 10⟩, sampleCandidate 1 0⟩

def offeredStore : RunStore :=
  RunStore.write ⟨[createdRun], []⟩ offeredRun [⟨sampleStored, .offered⟩]

def withdrawnStore : RunStore :=
  offeredStore.write (offeredRun.called (.expireOffer 10)) (offeredStore.marked offeredRun .expired)

theorem offeredStore_reached : Reached RunStore.Unused RunCommits offeredStore := by
  have created : Reached RunStore.Unused RunCommits ⟨[createdRun], []⟩ :=
    .next () (.initial rfl) (.created sampleRequest [sampleCandidate 1 0, sampleCandidate 2 5]
      (by decide +kernel) rfl)
  refine created.next () ?_
  exact @RunCommits.offered _ createdRun offeredRun sampleStored.offer (sampleCandidate 1 0)
    (.offer (.tagged 1) (sampleLeaseFence 1) 1 10) 1 (by decide +kernel) rfl rfl
    (List.forall_mem_nil _) List.not_mem_nil

theorem offeredStore_page : offeredStore.page (sampleLeaseFence 1) 100 0 5 64 = [sampleStored] := by
  decide +kernel

theorem offeredStore_polled :
    ∃ wires, pollOutcome [(sampleStored, offeredStore.loadRun sampleStored.runId)] = .ok wires ∧
      List.Forall₂ (fun entry => Exact (sampleLeaseFence 1) entry.1)
        [(sampleStored, offeredStore.loadRun sampleStored.runId)] wires := by
  have loads : Loads offeredStore (offeredStore.page (sampleLeaseFence 1) 100 0 5 64)
      [(sampleStored, offeredStore.loadRun sampleStored.runId)] := by
    rw [offeredStore_page]
    exact .load (.initial rfl) (.done _)
  refine (poll_exact_iff offeredStore_reached loads).mpr fun entry member => ?_
  obtain rfl := List.mem_singleton.mp member
  exact ⟨offeredRun, sampleStored.offer, by decide +kernel, rfl, rfl, rfl⟩

theorem withdrawnStore_polled :
    Reached RunStore.Unused RunCommits offeredStore ∧
      Loads offeredStore (offeredStore.page (sampleLeaseFence 1) 100 0 5 64)
        [(sampleStored, withdrawnStore.loadRun sampleStored.runId)] ∧
      pollOutcome [(sampleStored, withdrawnStore.loadRun sampleStored.runId)] =
        .error .internal := by
  refine ⟨offeredStore_reached, ?_, by decide +kernel⟩
  rw [offeredStore_page]
  refine .load (.next () (.initial rfl) ?_) (.done withdrawnStore)
  exact @RunCommits.moved _ offeredRun (offeredRun.called (.expireOffer 10)) (.moved .queued)
    (.expireOffer 10) (by decide +kernel) rfl (fun _ => by simp)

end Dirextalk.Router
