import Dirextalk.Lib.Run
import Mathlib.Data.List.Dedup

/-!
# Capacity heads

The reservations of a connector and of a binding are counted in one row each, which
transactions on different runs update under its row lock.  A trigger refuses an update whose
time lies before the row's.  An operation that samples the clock once it holds its rows is
never refused; a cancellation and a terminal report sample it before, and are refused when
another transaction has updated a row with a later time while they waited for it.
-/

namespace Dirextalk.Router.CapacityHeads

open Lib

/-! ## Rows and their triggers -/

/-- The report of a connector that its ceiling was last taken from. -/
structure Observation where
  lease : Option ℕ
  heartbeat : ℕ
  claim : ℕ
  baseline : ℕ
  available : ℕ
  deriving DecidableEq

/-- `ConnectorCapacity`; of a binding only the revision and the reservations are used. -/
structure Capacity where
  revision : ℕ
  active : ℕ
  lastOfferSequence : ℕ
  observation : Observation
  deriving DecidableEq

/-- A row of capacity and who has locked it. -/
structure Head where
  capacity : Capacity
  updatedAt : ℤ
  lockedBy : Option ℕ
  deriving DecidableEq

/-- Connectors and bindings are numbered in the order of their identifiers. -/
inductive HeadKey where
  | connector (id : ℕ)
  | binding (id : ℕ)
  deriving DecidableEq

/-- The rules on observations: a new report takes the reservations as its baseline, and of one
lease it is a later one. -/
def Observation.Succeeds (next old : Observation) (active : ℕ) : Prop :=
  if (next.lease, next.heartbeat, next.claim) = (old.lease, old.heartbeat, old.claim) then
    next.baseline = old.baseline ∧ next.available = old.available
  else
    next.lease ≠ none ∧ next.baseline = active ∧
      (next.lease = old.lease → old.heartbeat < next.heartbeat ∧ old.claim < next.claim)

instance (next old : Observation) (active : ℕ) : Decidable (next.Succeeds old active) :=
  inferInstanceAs (Decidable (ite ..))

/-- `enforce_connector_run_capacity_head_transition` and its like for bindings. -/
def Head.accepts (key : HeadKey) (old : Head) (next : Capacity)
    (updatedAt : ℤ) : Bool :=
  decide (next.revision = old.capacity.revision + 1 ∧ old.updatedAt ≤ updatedAt ∧
    next.active ≤ old.capacity.active + 1 ∧ old.capacity.active ≤ next.active + 1) &&
  match key with
  | .binding _ => true
  | .connector _ => old.capacity.lastOfferSequence ≤ next.lastOfferSequence ∧
      next.observation.Succeeds old.capacity.observation old.capacity.active

/-! ## Operations -/

/-- The active lease of a connector with its last heartbeat and the runtime claim that came with
it; leases are numbered as they are issued. -/
structure Control where
  lease : ℕ
  heartbeat : ℕ
  claim : ℕ
  available : ℕ
  deriving DecidableEq

/-- The report of a heartbeat; its sequence is the connector's own. -/
def Control.beat (control : Control) (sequence available : ℕ) : Control :=
  ⟨control.lease, sequence, control.claim + 1, available⟩

/-- The next lease, without a heartbeat. -/
def Control.renew (control : Control) : Control := ⟨control.lease + 1, 0, control.claim + 1, 0⟩

/-- What `validate_route_eligibility` makes of the capacity that it is given. -/
def Capacity.observe (capacity : Capacity) (control : Control) : Capacity :=
  if capacity.observation.lease = some control.lease ∧
      capacity.observation.heartbeat = control.heartbeat ∧
      capacity.observation.claim = control.claim then capacity
  else
    { capacity with
      observation := ⟨some control.lease, control.heartbeat, control.claim, capacity.active,
        control.available⟩ }

/-- What an update does to its row. -/
inductive Change where
  | sequenced
  | reserved
  | released
  deriving DecidableEq

/-- The columns that `advance_connector_capacity` or `advance_binding_capacity` writes; nothing
is released where nothing is reserved. -/
def Change.apply (change : Change) (capacity : Capacity) : Option Capacity :=
  let next := { capacity with revision := capacity.revision + 1 }
  match change with
  | .sequenced => some { next with lastOfferSequence := capacity.lastOfferSequence + 1 }
  | .reserved => some { next with active := capacity.active + 1 }
  | .released =>
      if capacity.active = 0 then none else some { next with active := capacity.active - 1 }

/-- The connector and the binding of a candidate. -/
structure Route where
  connector : ℕ
  binding : ℕ
  deriving DecidableEq

/-- The statements before the updates, as far as they concern the rows and the time. -/
inductive Statement where
  | lock (key : HeadKey)
  | observe (connector : ℕ)
  | readClock
  deriving DecidableEq

/-- An operation on one run, with the candidate whose rows it updates.  An offer has passed over
some candidates; expiry touches the rows of a leased run only, and an execution report those
of a terminal one. -/
inductive Operation where
  | offerNext (skipped : List Route) (route : Route) (others : List Route)
  | claim (route : Route)
  | expireNextDue (route : Route)
  | release (route : Route)
  | requestCancellation (route : Route)
  | recordExecution (route : Route)
  deriving DecidableEq

def Route.locks (route : Route) : List Statement :=
  [.lock (.connector route.connector), .lock (.binding route.binding)]

def Route.both (route : Route) (change : Change) : List (HeadKey × Change) :=
  [(.connector route.connector, change), (.binding route.binding, change)]

namespace Operation

/-- The rows that an operation updates, and how. -/
def updates : Operation → List (HeadKey × Change)
  | offerNext _ route _ | requestCancellation route => [(.connector route.connector, .sequenced)]
  | claim route => route.both .reserved
  | expireNextDue route | release route | recordExecution route => route.both .released

/-- Whether the time of the updates is sampled once the rows are locked. -/
def samplesLocked : Operation → Bool
  | offerNext .. | claim _ | expireNextDue _ | release _ => true
  | requestCancellation _ | recordExecution _ => false

/-- The locks and readings of an operation, in order. -/
def statements : Operation → List Statement
  | offerNext skipped route others =>
      let routes := skipped ++ route :: others
      ((routes.map (·.connector)).dedup.mergeSort fun first second => first ≤ second).map
          (fun id => .lock (.connector id)) ++
        ((routes.map (·.binding)).dedup.mergeSort fun first second => first ≤ second).map
          (fun id => .lock (.binding id)) ++
        skipped.map (fun _ => .readClock) ++ [.observe route.connector, .readClock]
  | claim route => route.locks ++ [.observe route.connector, .readClock]
  | expireNextDue route => .readClock :: route.locks ++ [.readClock]
  | release route => route.locks ++ [.readClock]
  | requestCancellation route => [.readClock, .lock (.connector route.connector)]
  | recordExecution route => .readClock :: route.locks

end Operation

/-! ## Interleavings -/

/-- A transaction with the statements before it, its last reading of the clock, and its copy of
each row that it has locked. -/
structure Transaction where
  operation : Operation
  rest : List Statement
  reading : ℤ
  working : HeadKey → Option Capacity

/-- The rows and the transactions that run. -/
structure System where
  clock : ℤ
  heads : HeadKey → Option Head
  control : ℕ → Control
  running : ℕ → Option Transaction

/-- The columns that a transaction writes under a key. -/
def Transaction.written (transaction : Transaction) (key : HeadKey) : Option Capacity :=
  (transaction.operation.updates.find? (·.1 = key)).bind fun update =>
    (transaction.working key).bind update.2.apply

/-- The triggers accept what a transaction writes. -/
def Transaction.Accepted (transaction : Transaction) (state : System) : Prop :=
  ∀ key head next, state.heads key = some head → transaction.written key = some next →
    head.accepts key next transaction.reading = true

namespace System

/-- Sets or ends a transaction. -/
def run (state : System) (id : ℕ) (transaction : Option Transaction) : System :=
  { state with running := Function.update state.running id transaction }

def write (state : System) (key : HeadKey) (head : Head) : System :=
  { state with heads := Function.update state.heads key (some head) }

/-- A transaction ends: its rows are unlocked, with the columns that it leaves there. -/
def finish (state : System) (id : ℕ) (written : HeadKey → Option Capacity) (now : ℤ) :
    System :=
  { state.run id none with
    heads := fun key => (state.heads key).map fun head =>
      if head.lockedBy = some id then
        match written key with
        | some next => ⟨next, now, none⟩
        | none => { head with lockedBy := none }
      else head }

/-- One statement of one transaction, or what happens beside them.  A transaction may fail at
any point by a check of its own; the commit is taken with the updates before it, since their
rows are locked. -/
inductive Step (state : System) : Unit → System → Prop
  | tick (later : ℤ) (forward : state.clock ≤ later) : Step state () { state with clock := later }
  | created (key : HeadKey) (absent : state.heads key = none) (now : ℤ)
      (read : now ≤ state.clock) :
      Step state () (state.write key ⟨⟨1, 0, 0, ⟨none, 0, 0, 0, 0⟩⟩, now, none⟩)
  | heartbeat (connector sequence available : ℕ)
      (later : (state.control connector).heartbeat < sequence) :
      Step state () { state with
        control := Function.update state.control connector
          ((state.control connector).beat sequence available) }
  | leased (connector : ℕ) :
      Step state () { state with
        control := Function.update state.control connector (state.control connector).renew }
  | begun (id : ℕ) (free : state.running id = none) (operation : Operation) :
      Step state () (state.run id (some
        ⟨operation, operation.statements, state.clock, fun _ => none⟩))
  | locked (id : ℕ) {transaction : Transaction} {key : HeadKey}
      {rest : List Statement} {head : Head} (runs : state.running id = some transaction)
      (next : transaction.rest = .lock key :: rest) (found : state.heads key = some head)
      (free : head.lockedBy = none ∨ head.lockedBy = some id) :
      Step state () ((state.write key { head with lockedBy := some id }).run id (some
        { transaction with
          rest := rest
          working := Function.update transaction.working key (some head.capacity) }))
  | observed (id : ℕ) {transaction : Transaction} {connector : ℕ}
      {rest : List Statement} {head : Head} (runs : state.running id = some transaction)
      (next : transaction.rest = .observe connector :: rest)
      (found : state.heads (.connector connector) = some head) (locked : head.lockedBy = some id) :
      Step state () (state.run id (some { transaction with
        rest := rest
        working := Function.update transaction.working (.connector connector)
          (some (head.capacity.observe (state.control connector))) }))
  | sampled (id : ℕ) {transaction : Transaction} {rest : List Statement}
      (runs : state.running id = some transaction) (next : transaction.rest = .readClock :: rest) :
      Step state () (state.run id (some { transaction with
        rest := rest, reading := state.clock }))
  | committed (id : ℕ) {transaction : Transaction}
      (runs : state.running id = some transaction) (done : transaction.rest = [])
      (checked : ∀ update ∈ transaction.operation.updates,
        (transaction.written update.1).isSome = true)
      (accepted : transaction.Accepted state) :
      Step state () (state.finish id transaction.written transaction.reading)
  | failed (id : ℕ) {transaction : Transaction}
      (runs : state.running id = some transaction) :
      Step state () (state.finish id (fun _ => none) state.clock)

/-- Before the first run. -/
def Unused (state : System) : Prop :=
  (∀ key, state.heads key = none) ∧ ∀ id, state.running id = none

end System

/-! ## What a transaction knows -/

/-- What was observed under the active lease is its present report, or an earlier one. -/
def Observation.Before (observation : Observation) (control : Control) : Prop :=
  ∀ lease, observation.lease = some lease → lease ≤ control.lease ∧ (lease = control.lease →
    observation.heartbeat = control.heartbeat ∧ observation.claim = control.claim ∨
      observation.heartbeat < control.heartbeat ∧ observation.claim < control.claim)

/-- The copy of a row as the updates find it. -/
structure Prepared (state : System) (key : HeadKey) (old working : Capacity) : Prop where
  revision : working.revision = old.revision
  active : working.active = old.active
  sequence : working.lastOfferSequence = old.lastOfferSequence
  succeeds : ∀ connector, key = .connector connector →
    working.observation.Succeeds old.observation old.active ∧
      working.observation.Before (state.control connector)

/-- What holds of a transaction while it runs. -/
structure Transaction.Valid (state : System) (id : ℕ) (transaction : Transaction) :
    Prop where
  reading : transaction.reading ≤ state.clock
  held : ∀ {key working}, transaction.working key = some working → ∃ head,
    state.heads key = some head ∧ head.lockedBy = some id ∧
      Prepared state key head.capacity working
  ends : transaction.operation.samplesLocked = true →
    ∀ last ∈ transaction.rest.getLast?, last = .readClock
  sampled : transaction.operation.samplesLocked = true → transaction.rest = [] →
    ∀ {key working head}, transaction.working key = some working →
      state.heads key = some head → head.updatedAt ≤ transaction.reading

/-- What every reached system satisfies. -/
structure System.Valid (state : System) : Prop where
  heads : ∀ {key head}, state.heads key = some head → head.updatedAt ≤ state.clock
  observed : ∀ {connector head}, state.heads (.connector connector) = some head →
    head.capacity.observation.Before (state.control connector)
  running : ∀ {id transaction}, state.running id = some transaction → transaction.Valid state id

variable {state after : System} {id : ℕ} {transaction : Transaction}

/-! ## What the others leave alone -/

/-- What a transaction relies on while others run. -/
structure System.Kept (state after : System) (id : ℕ) : Prop where
  clock : state.clock ≤ after.clock
  control : ∀ {connector observation}, Observation.Before observation (state.control connector) →
    observation.Before (after.control connector)
  heads : ∀ {key head}, state.heads key = some head → head.lockedBy = some id →
    after.heads key = some head

theorem Transaction.Valid.kept (valid : transaction.Valid state id) (kept : state.Kept after id) :
    transaction.Valid after id where
  reading := Int.le_trans valid.reading kept.clock
  held found := by
    obtain ⟨head, present, locked, prepared⟩ := valid.held found
    refine ⟨head, kept.heads present locked, locked, prepared.revision, prepared.active,
      prepared.sequence, fun connector same => ?_⟩
    obtain ⟨succeeds, before⟩ := prepared.succeeds connector same
    exact ⟨succeeds, kept.control before⟩
  ends := valid.ends
  sampled := fun locks done key working head found present => by
    obtain ⟨held, before, locked, _⟩ := valid.held found
    obtain rfl := Option.some.inj ((kept.heads before locked).symm.trans present)
    exact valid.sampled locks done found before

variable {observation : Observation} {control : Control}

theorem Observation.Before.beat {sequence available : ℕ} (later : control.heartbeat < sequence)
    (before : observation.Before control) :
    observation.Before (control.beat sequence available) := by
  intro lease observed
  obtain ⟨earlier, report⟩ := before lease observed
  refine ⟨earlier, fun same => .inr ?_⟩
  simp only [Control.beat]
  rcases report same with report | report <;> omega

theorem Observation.Before.renew (before : observation.Before control) :
    observation.Before control.renew := by
  intro lease observed
  obtain ⟨earlier, _⟩ := before lease observed
  simp only [Control.renew]
  exact ⟨Nat.le_succ_of_le earlier, fun same => by omega⟩

theorem before_update {next : Control} {connector other : ℕ}
    (keeps : observation.Before (state.control connector) → observation.Before next)
    (before : observation.Before (state.control other)) :
    observation.Before (Function.update state.control connector next other) := by
  by_cases same : other = connector
  · subst same
    rw [Function.update_self]
    exact keeps before
  · rwa [Function.update_of_ne same]

/-! ## What an observation does -/

theorem Observation.succeeds_refl (observation : Observation) (active : ℕ) :
    observation.Succeeds observation active := by
  rw [Succeeds, if_pos rfl]
  exact ⟨rfl, rfl⟩

/-- Observing the present report keeps a copy of the row fit for its update. -/
theorem Capacity.succeeds_observe {capacity : Capacity}
    (before : capacity.observation.Before control) :
    (capacity.observe control).observation.Succeeds capacity.observation capacity.active ∧
      (capacity.observe control).observation.Before control := by
  unfold observe
  split
  case isTrue => exact ⟨Observation.succeeds_refl _ _, before⟩
  case isFalse changed =>
    constructor
    · rw [Observation.Succeeds, if_neg fun same => changed (by simp_all)]
      refine ⟨nofun, rfl, fun same => ?_⟩
      have report := (before control.lease same.symm).2 rfl
      exact report.resolve_left fun present => changed ⟨same.symm, present⟩
    · rintro lease ⟨⟩
      exact ⟨le_rfl, fun _ => .inl ⟨rfl, rfl⟩⟩

theorem prepared_observe {connector : ℕ} {capacity : Capacity}
    (before : capacity.observation.Before (state.control connector)) :
    Prepared state (.connector connector) capacity
      (capacity.observe (state.control connector)) := by
  have columns : (capacity.observe (state.control connector)).revision = capacity.revision ∧
      (capacity.observe (state.control connector)).active = capacity.active ∧
      (capacity.observe (state.control connector)).lastOfferSequence =
        capacity.lastOfferSequence := by
    unfold Capacity.observe
    split <;> exact ⟨rfl, rfl, rfl⟩
  refine ⟨columns.1, columns.2.1, columns.2.2, fun other same => ?_⟩
  cases same
  exact Capacity.succeeds_observe before

theorem Change.of_apply {change : Change} {capacity next : Capacity}
    (applied : change.apply capacity = some next) :
    next.revision = capacity.revision + 1 ∧ next.active ≤ capacity.active + 1 ∧
      capacity.active ≤ next.active + 1 ∧ capacity.lastOfferSequence ≤ next.lastOfferSequence ∧
      next.observation = capacity.observation := by
  cases change with
  | sequenced | reserved =>
    cases applied
    simp only [and_true, true_and]
    omega
  | released =>
    simp only [apply] at applied
    split at applied
    · cases applied
    · cases applied
      simp only [and_true, true_and]
      omega

variable {key : HeadKey}

/-- Of an update that a transaction has prepared, the trigger can only object to the time. -/
theorem accepts_iff {head : Head} {working next : Capacity} {change : Change} {now : ℤ}
    (prepared : Prepared state key head.capacity working)
    (applied : change.apply working = some next) :
    head.accepts key next now = true ↔ head.updatedAt ≤ now := by
  obtain ⟨revision, fewer, more, sequence, observation⟩ := Change.of_apply applied
  rw [prepared.revision] at revision
  rw [prepared.active] at fewer more
  rw [prepared.sequence] at sequence
  cases key with
  | binding => simp [Head.accepts, revision, fewer, more]
  | connector id =>
    have succeeds := (prepared.succeeds id rfl).1
    simp [Head.accepts, revision, fewer, more, sequence, observation, succeeds]

/-! ## Every interleaving -/

theorem of_written {next : Capacity} (written : transaction.written key = some next) :
    ∃ update ∈ transaction.operation.updates, update.1 = key ∧ ∃ working,
      transaction.working key = some working ∧ update.2.apply working = some next := by
  simp only [Transaction.written, Option.bind_eq_some_iff] at written
  obtain ⟨update, found, working, held, applied⟩ := written
  exact ⟨update, List.mem_of_find?_eq_some found, by simpa using List.find?_some found, working,
    held, applied⟩

theorem System.Valid.run {next : Option Transaction} (valid : state.Valid)
    (own : ∀ transaction ∈ next, transaction.Valid state id) :
    (state.run id next).Valid where
  heads := valid.heads
  observed := valid.observed
  running := fun {other transaction} runs => by
    have kept : state.Kept (state.run id next) other :=
      ⟨Int.le_refl _, fun before => before, fun found _ => found⟩
    have runs : Function.update state.running id next other = some transaction := runs
    by_cases same : other = id
    · subst same
      rw [Function.update_self] at runs
      exact (own transaction runs).kept kept
    · rw [Function.update_of_ne same] at runs
      exact (valid.running runs).kept kept

theorem System.Valid.finish {written : HeadKey → Option Capacity} {now : ℤ}
    (valid : state.Valid) (read : now ≤ state.clock)
    (observed : ∀ {connector next}, written (.connector connector) = some next →
      next.observation.Before (state.control connector)) :
    (state.finish id written now).Valid where
  heads := fun {key head} found => by
    obtain ⟨old, present, rfl⟩ := Option.map_eq_some_iff.mp found
    have earlier := valid.heads present
    split
    · split
      · exact read
      · exact earlier
    · exact earlier
  observed := fun {connector head} found => by
    obtain ⟨old, present, rfl⟩ := Option.map_eq_some_iff.mp found
    have before := valid.observed present
    split
    · split
      case h_1 next writes => exact observed writes
      case h_2 => exact before
    · exact before
  running := fun {other transaction} runs => by
    have runs : Function.update state.running id none other = some transaction := runs
    have apart : other ≠ id := fun same => by simp [same] at runs
    rw [Function.update_of_ne apart] at runs
    refine (valid.running runs).kept ⟨Int.le_refl _, fun before => before, fun found locked => ?_⟩
    have free : ¬(some other = some id) := fun same => apart (Option.some.inj same)
    simp only [System.finish, found, Option.map_some, locked, if_neg free]

theorem System.heads_write (key other : HeadKey) (head : Head) :
    (state.write key head).heads other = if other = key then some head else state.heads other :=
  Function.update_apply ..

/-- A row is written that nobody else has locked. -/
theorem System.Valid.write {head : Head} (valid : state.Valid)
    (earlier : head.updatedAt ≤ state.clock) (before : ∀ {connector}, key = .connector connector →
      head.capacity.observation.Before (state.control connector))
    (alone : ∀ {old other}, state.heads key = some old → old.lockedBy = some other → head = old) :
    (state.write key head).Valid where
  heads := fun {other row} found => by
    rw [heads_write] at found
    split at found
    · cases found
      exact earlier
    · exact valid.heads found
  observed := fun {connector row} found => by
    rw [heads_write] at found
    split at found
    case isTrue same =>
      cases found
      exact before same.symm
    case isFalse => exact valid.observed found
  running := fun {other transaction} runs => by
    refine (valid.running runs).kept ⟨Int.le_refl _, fun before => before,
      fun {place row} found locked => ?_⟩
    rw [heads_write]
    split
    case isTrue same => rw [alone (same ▸ found) locked]
    case isFalse => exact found

theorem Operation.ends_statements {operation : Operation}
    (samples : operation.samplesLocked = true) :
    ∀ last ∈ operation.statements.getLast?, last = .readClock := by
  cases operation <;> simp_all [statements, samplesLocked, Route.locks]

/-- A transaction after its next statement; only a reading of the clock can be the last one. -/
theorem Transaction.Valid.advance {statement : Statement} {rest : List Statement}
    {reading : ℤ} {working : HeadKey → Option Capacity}
    (bounded : ∀ {key head}, state.heads key = some head → head.updatedAt ≤ state.clock)
    (valid : transaction.Valid state id) (next : transaction.rest = statement :: rest)
    (read : reading ≤ state.clock) (sampled : statement = .readClock → reading = state.clock)
    (held : ∀ {key copy}, working key = some copy → ∃ head, state.heads key = some head ∧
      head.lockedBy = some id ∧ Prepared state key head.capacity copy) :
    Transaction.Valid state id
      { transaction with rest := rest, reading := reading, working := working } where
  reading := read
  held := held
  ends := fun samples last member => by
    have ends := valid.ends samples last
    rw [next, List.getLast?_cons, member] at ends
    exact ends rfl
  sampled := fun samples done key copy head _ found => by
    have ends := valid.ends samples statement
    subst done
    rw [next] at ends
    simpa only [sampled (ends rfl)] using bounded found

/-- Every statement of every transaction keeps what the transactions know. -/
theorem System.Valid.step (valid : state.Valid) (step : System.Step state () after) :
    after.Valid := by
  cases step with
  | tick later forward =>
    exact ⟨fun found => Int.le_trans (valid.heads found) forward, valid.observed,
      fun runs => (valid.running runs).kept ⟨forward, fun before => before, fun found _ => found⟩⟩
  | created key absent now read => exact valid.write read (fun _ => nofun) (by simp [absent])
  | heartbeat connector sequence available later =>
    exact ⟨valid.heads, fun found => before_update (·.beat later) (valid.observed found),
      fun runs => (valid.running runs).kept
        ⟨Int.le_refl _, before_update (·.beat later), fun found _ => found⟩⟩
  | leased connector =>
    exact ⟨valid.heads, fun found => before_update (·.renew) (valid.observed found),
      fun runs => (valid.running runs).kept
        ⟨Int.le_refl _, before_update (·.renew), fun found _ => found⟩⟩
  | begun id free operation =>
    refine valid.run fun transaction member => ?_
    cases member
    exact ⟨Int.le_refl _, nofun, Operation.ends_statements, fun _ _ _ _ _ => nofun⟩
  | @locked id transaction key rest head runs next found free =>
    have written : (state.write key { head with lockedBy := some id }).Valid := by
      have earlier := valid.heads found
      refine valid.write earlier (fun same => ?_) ?_
      · have before := valid.observed (same ▸ found)
        exact before
      intro old other present locked
      obtain rfl := Option.some.inj (found.symm.trans present)
      simp only [locked, reduceCtorEq, Option.some.injEq, false_or] at free
      rw [← free, ← locked]
    refine written.run fun advanced member => ?_
    cases member
    have before : transaction.Valid _ id := written.running runs
    refine before.advance written.heads next before.reading nofun fun {place copy} copied => ?_
    rw [Function.update_apply] at copied
    split at copied
    case isTrue same =>
      cases copied
      refine ⟨{ head with lockedBy := some id }, ?_, rfl, rfl, rfl, rfl, fun connector here => ?_⟩
      · rw [System.heads_write, if_pos same]
      · exact ⟨Observation.succeeds_refl _ _, valid.observed (here ▸ same ▸ found)⟩
    case isFalse => exact before.held copied
  | @observed id transaction connector rest head runs next found locked =>
    refine valid.run fun advanced member => ?_
    cases member
    have before := valid.running runs
    refine before.advance valid.heads next before.reading nofun fun {place copy} copied => ?_
    rw [Function.update_apply] at copied
    split at copied
    case isTrue same =>
      cases copied
      exact ⟨head, same ▸ found, locked, same ▸ prepared_observe (valid.observed found)⟩
    case isFalse => exact before.held copied
  | @sampled id transaction rest runs next =>
    refine valid.run fun advanced member => ?_
    cases member
    have before := valid.running runs
    exact before.advance valid.heads next (Int.le_refl _) (fun _ => rfl) before.held
  | @committed id transaction runs done checked accepted =>
    have before := valid.running runs
    refine valid.finish before.reading fun {connector next} written => ?_
    obtain ⟨update, _, _, working, copied, applied⟩ := of_written written
    obtain ⟨head, _, _, prepared⟩ := before.held copied
    obtain ⟨_, _, _, _, observation⟩ := Change.of_apply applied
    rw [observation]
    exact (prepared.succeeds connector rfl).2
  | failed id runs => exact valid.finish (Int.le_refl _) nofun

theorem System.Valid.of_reached (reached : Reached System.Unused System.Step state) :
    state.Valid := by
  refine reached.invariant System.Valid (fun state unused => ?_)
    fun state _ after valid step => valid.step step
  exact ⟨fun found => by simp [unused.1] at found, fun found => by simp [unused.1] at found,
    fun runs => by simp [unused.2] at runs⟩

theorem System.Valid.accepted_iff (sound : state.Valid) (id : ℕ)
    (runs : state.running id = some transaction) (done : transaction.rest = [])
    (checked : ∀ update ∈ transaction.operation.updates,
      (transaction.written update.1).isSome = true) :
    transaction.Accepted state ↔ transaction.operation.samplesLocked = true ∨
      ∀ update ∈ transaction.operation.updates, ∀ head, state.heads update.1 = some head →
        head.updatedAt ≤ transaction.reading := by
  have valid := sound.running runs
  have accepts {key : HeadKey} {head : Head} {next : Capacity}
      (found : state.heads key = some head) (written : transaction.written key = some next) :
      head.accepts key next transaction.reading = true ↔ head.updatedAt ≤ transaction.reading := by
    obtain ⟨update, _, _, working, copied, applied⟩ := of_written written
    obtain ⟨held, present, _, prepared⟩ := valid.held copied
    obtain rfl := Option.some.inj (found.symm.trans present)
    exact accepts_iff prepared applied
  constructor
  · intro accepted
    right
    intro update member head found
    obtain ⟨next, written⟩ := Option.isSome_iff_exists.mp (checked update member)
    exact (accepts found written).mp (accepted _ _ _ found written)
  · intro timely key head next found written
    rw [accepts found written]
    obtain ⟨update, member, rfl, working, copied, _⟩ := of_written written
    rcases timely with samples | timely
    · exact valid.sampled samples done copied found
    · exact timely update member head found

/-- A transaction that has come to its updates is refused by no trigger if it has sampled the
clock under its locks, and otherwise just if no row that it updates carries a later time. -/
theorem accepted_iff_time (reached : Reached System.Unused System.Step state) (id : ℕ)
    (runs : state.running id = some transaction) (done : transaction.rest = [])
    (checked : ∀ update ∈ transaction.operation.updates,
      (transaction.written update.1).isSome = true) :
    transaction.Accepted state ↔ transaction.operation.samplesLocked = true ∨
      ∀ update ∈ transaction.operation.updates, ∀ head, state.heads update.1 = some head →
        head.updatedAt ≤ transaction.reading :=
  (System.Valid.of_reached reached).accepted_iff id runs done checked

/-! ## A claim while a cancellation waits -/

def sampleRoute : Route := ⟨0, 0⟩

def sampleStart : System := ⟨100, fun _ => none, fun _ => ⟨1, 1, 1, 4⟩, fun _ => none⟩

theorem sampleStart_reached : Reached System.Unused System.Step sampleStart :=
  .initial ⟨fun _ => rfl, fun _ => rfl⟩

theorem sampleCancellation_accepted :
    ∃ state transaction, Reached System.Unused System.Step state ∧
      state.running 0 = some transaction ∧
      transaction.operation = .requestCancellation sampleRoute ∧
      transaction.Accepted state := by
  have created := sampleStart_reached.next () (.created (.connector 0) rfl 100 (Int.le_refl _))
  have begun := created.next () (.begun 0 rfl (.requestCancellation sampleRoute))
  have sampled := begun.next () (.sampled 0 rfl rfl)
  have locked := sampled.next () (.locked 0 rfl rfl rfl (.inl rfl))
  refine ⟨_, _, locked, rfl, rfl, (accepted_iff_time locked 0 rfl rfl (by decide)).mpr (.inr ?_)⟩
  rintro update (_ | ⟨_, ⟨⟩⟩) head ⟨⟩
  decide

/-- The run of the cancellation is leased at 100, the cancellation reads the clock, and another
run is claimed at 101 before it has locked the connector. -/
theorem sampleCancellation_refused :
    ∃ state transaction, Reached System.Unused System.Step state ∧
      state.running 1 = some transaction ∧
      transaction.operation = .requestCancellation sampleRoute ∧ transaction.rest = [] ∧
      (∀ update ∈ transaction.operation.updates,
        (transaction.written update.1).isSome = true) ∧ ¬transaction.Accepted state := by
  have connector := sampleStart_reached.next () (.created (.connector 0) rfl 100 (Int.le_refl _))
  have binding := connector.next () (.created (.binding 0) rfl 100 (Int.le_refl _))
  have begun := binding.next () (.begun 0 rfl (.claim sampleRoute))
  have locked := begun.next () (.locked 0 rfl rfl rfl (.inl rfl))
  have both := locked.next () (.locked 0 rfl rfl rfl (.inl rfl))
  have observed := both.next () (.observed 0 rfl rfl rfl rfl)
  have sampled := observed.next () (.sampled 0 rfl rfl)
  have leased := sampled.next () (.committed 0 rfl rfl (by decide)
    (((System.Valid.of_reached sampled).accepted_iff 0 rfl rfl (by decide)).mpr (.inl rfl)))
  have cancels := leased.next () (.begun 1 rfl (.requestCancellation sampleRoute))
  have reads := cancels.next () (.sampled 1 rfl rfl)
  have later := reads.next () (.tick 101 (by decide))
  have begun := later.next () (.begun 2 rfl (.claim sampleRoute))
  have locked := begun.next () (.locked 2 rfl rfl rfl (.inl rfl))
  have both := locked.next () (.locked 2 rfl rfl rfl (.inl rfl))
  have observed := both.next () (.observed 2 rfl rfl rfl rfl)
  have sampled := observed.next () (.sampled 2 rfl rfl)
  have claimed := sampled.next () (.committed 2 rfl rfl (by decide)
    (((System.Valid.of_reached sampled).accepted_iff 2 rfl rfl (by decide)).mpr (.inl rfl)))
  have waited := claimed.next () (.locked 1 rfl rfl rfl (.inl rfl))
  refine ⟨_, _, waited, rfl, rfl, rfl, by decide, fun accepted => ?_⟩
  exact absurd (accepted (.connector 0) _ _ rfl rfl) (by decide)

end Dirextalk.Router.CapacityHeads
