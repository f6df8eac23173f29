import Dirextalk.Lib.Run

/-!
# Fallible straight-line code

Early-return code is modelled as a sequence of `Except` steps: a guard that
returns an error, an optional value with the error for its absence, and a loop
over a list that stops at the first error.  Each has one inversion lemma, so a
successful call of a whole function opens into a conjunction of what its steps
established.  A method that changes its receiver as it goes along, and whose writes
stay when it fails, is an `EStateM` program with the triple `Leaves`.
-/

namespace Dirextalk.Lib

universe u v

variable {ε : Type u} {α β σ : Type v}

/-- `if condition { return Err(error) }`. -/
def rejectIf (condition : Prop) [Decidable condition] (error : ε) : Except ε Unit :=
  if condition then .error error else .ok ()

/-- `value.ok_or(error)`. -/
def okOr (value : Option α) (error : ε) : Except ε α :=
  match value with
  | some value => .ok value
  | none => .error error

variable {step : Except ε α}

@[simp] theorem bind_eq_ok {next : α → Except ε β} {result : β} :
    (step >>= next) = .ok result ↔ ∃ value, step = .ok value ∧ next value = .ok result := by
  cases step with
  | error error =>
    constructor
    · intro impossible
      cases impossible
    · rintro ⟨value, impossible, _⟩
      cases impossible
  | ok value =>
    constructor
    · intro continued
      exact ⟨value, rfl, continued⟩
    · rintro ⟨other, same, continued⟩
      cases same
      exact continued

@[simp] theorem ok_bind (value : α) (next : α → Except ε β) :
    ((Except.ok value : Except ε α) >>= next) = next value := rfl

theorem bind_return_eq_map (step : Except ε α) (convert : α → β) :
    (step >>= fun value => pure (convert value)) = step.map convert := by
  cases step <;> rfl

variable {result : α}

@[simp] theorem pure_eq_ok {value : α} : (pure value : Except ε α) = .ok result ↔ value = result :=
  ⟨fun same => Except.ok.inj same, fun same => same ▸ rfl⟩

variable {condition : Prop}

@[simp] theorem rejectIf_eq_ok [Decidable condition] {error : ε} {done : Unit} :
    rejectIf condition error = .ok done ↔ ¬condition := by
  unfold rejectIf
  split <;> simp [*]

theorem rejectIf_pos [Decidable condition] (error : ε) (holds : condition) :
    rejectIf condition error = .error error := if_pos holds

theorem rejectIf_neg [Decidable condition] (error : ε) (fails : ¬condition) :
    rejectIf condition error = .ok () := if_neg fails

@[simp] theorem okOr_eq_ok {value : Option α} {error : ε} :
    okOr value error = .ok result ↔ value = some result := by
  cases value <;> simp [okOr]

theorem mapError_eq_error {δ : Type u} {convert : ε → δ} {failure : δ} :
    step.mapError convert = .error failure ↔
      ∃ error, step = .error error ∧ convert error = failure := by
  cases step <;> simp [Except.mapError]

@[simp] theorem mapError_eq_ok {δ : Type u} {convert : ε → δ} :
    step.mapError convert = .ok result ↔ step = .ok result := by
  cases step <;> simp [Except.mapError]

@[simp] theorem map_eq_ok {β : Type u} {convert : α → β} {result : β} :
    step.map convert = .ok result ↔ ∃ value, step = .ok value ∧ convert value = result := by
  cases step <;> simp [Except.map]

@[simp] theorem okOr_some (value : α) (error : ε) :
    okOr (some value) error = .ok value := rfl

/-! ## Agreement of two computations -/

/-- Both succeed with one value, or both fail. -/
def SameOutcome (first second : Except ε α) : Prop :=
  (∃ value, first = .ok value ∧ second = .ok value) ∨
    (∃ error, first = .error error) ∧ ∃ error, second = .error error

theorem sameOutcome_iff {first second : Except ε α} :
    SameOutcome first second ↔ ∀ value, first = .ok value ↔ second = .ok value := by
  cases first <;> cases second <;> simp [SameOutcome, eq_comm]

/-! ## Errors that do not occur -/

section Avoids

variable {error other : ε}

/-- The computation does not fail with the error. -/
def Avoids (error : ε) (outcome : Except ε α) : Prop := outcome ≠ .error error

theorem avoids_ok (value : α) : Avoids error (.ok value) := nofun

theorem avoids_error (distinct : other ≠ error) : Avoids error (.error other : Except ε α) :=
  fun same => distinct (Except.error.inj same)

theorem avoids_bind {step : Except ε α} {next : α → Except ε β} (first : Avoids error step)
    (rest : ∀ value, step = .ok value → Avoids error (next value)) :
    Avoids error (step >>= next) := by
  cases step with
  | error found => exact fun same => first (congrArg _ (Except.error.inj same))
  | ok value => exact rest value rfl

theorem avoids_rejectIf {condition : Prop} [Decidable condition] (distinct : other ≠ error) :
    Avoids error (rejectIf condition other) := by
  unfold rejectIf
  split
  · exact avoids_error distinct
  · exact avoids_ok ()

theorem avoids_okOr {value : Option α} (distinct : other ≠ error) :
    Avoids error (okOr value other) := by
  cases value with
  | none => exact avoids_error distinct
  | some value => exact avoids_ok value

end Avoids

/-! ## Loops that stop at the first error -/

section Loop

variable {τ : Type}

/-- A condition on state and item that holds at every round of a loop. -/
def Along (condition : σ → τ → Prop) (next : σ → τ → σ) : σ → List τ → Prop
  | _, [] => True
  | state, item :: rest => condition state item ∧ Along condition next (next state item) rest

variable {items : List τ}

/-- A loop whose rounds either fail or update the state in one known way succeeds
exactly when its condition holds all along. -/
theorem foldlM_eq_ok_iff {step : σ → τ → Except ε σ} (condition : σ → τ → Prop) (next : σ → τ → σ)
    (spec : ∀ state item result,
      step state item = .ok result ↔ condition state item ∧ next state item = result)
    {state result : σ} :
    items.foldlM step state = .ok result ↔
      Along condition next state items ∧ items.foldl next state = result := by
  induction items generalizing state with
  | nil => simp [Along]
  | cons item rest ih =>
    simp only [List.foldlM_cons, bind_eq_ok, spec, ih, Along, List.foldl_cons]
    constructor
    · rintro ⟨middle, ⟨holds, rfl⟩, along, same⟩
      exact ⟨⟨holds, along⟩, same⟩
    · rintro ⟨⟨holds, along⟩, same⟩
      exact ⟨_, ⟨holds, rfl⟩, along, same⟩

variable {next : σ → τ → σ} {state : σ}

theorem along_and {first second : σ → τ → Prop} :
    Along (fun state item => first state item ∧ second state item) next state items ↔
      Along first next state items ∧ Along second next state items := by
  induction items generalizing state with
  | nil => simp [Along]
  | cons item rest ih =>
    simp only [Along, ih]
    exact and_and_and_comm

/-- A condition that does not look at the state. -/
theorem along_const {condition : τ → Prop} :
    Along (fun _ item => condition item) next state items ↔ ∀ item ∈ items, condition item := by
  induction items generalizing state with
  | nil => simp [Along]
  | cons item rest ih => simp [Along, ih]

/-- Keys that are new at every round: none was there before, none comes twice. -/
theorem along_fresh {κ : Type} (keyOf : τ → κ) (seen : σ → κ → Prop)
    (grows : ∀ state item key, seen (next state item) key ↔ key = keyOf item ∨ seen state key) :
    Along (fun state item => ¬seen state (keyOf item)) next state items ↔
      (items.map keyOf).Nodup ∧ ∀ item ∈ items, ¬seen state (keyOf item) := by
  induction items generalizing state with
  | nil => simp [Along]
  | cons item rest ih =>
    simp only [Along, ih, grows, not_or, List.map_cons, List.nodup_cons, List.mem_map,
      List.forall_mem_cons]
    constructor
    · rintro ⟨fresh, distinct, apart⟩
      refine ⟨⟨?_, distinct⟩, fresh, fun other member => (apart other member).2⟩
      rintro ⟨other, member, same⟩
      exact (apart other member).1 same
    · rintro ⟨⟨unrepeated, distinct⟩, fresh, apart⟩
      exact ⟨fresh, distinct, fun other member =>
        ⟨fun same => unrepeated ⟨other, member, same⟩, apart other member⟩⟩

/-- A part of the state that the rounds update on their own. -/
theorem foldl_part {γ : Type} (part : σ → γ) (update : γ → τ → γ)
    (follows : ∀ state item, part (next state item) = update (part state) item) (items : List τ)
    (state : σ) : part (items.foldl next state) = items.foldl update (part state) := by
  induction items generalizing state with
  | nil => rfl
  | cons item rest ih => rw [List.foldl_cons, List.foldl_cons, ih, follows]

/-- A part of the state that no round touches. -/
theorem foldl_untouched {γ : Type} (part : σ → γ) (next : σ → τ → σ)
    (same : ∀ state item, part (next state item) = part state)
    (items : List τ) (state : σ) : part (items.foldl next state) = part state := by
  induction items generalizing state with
  | nil => rfl
  | cons item rest ih => rw [List.foldl_cons, ih, same]

/-- A conversion that never fails converts item by item. -/
theorem mapM_eq_ok_map {convert : τ → Except ε σ} {value : τ → σ}
    (each : ∀ item ∈ items, convert item = .ok (value item)) :
    items.mapM convert = .ok (items.map value) := by
  induction items with
  | nil => rfl
  | cons item rest ih =>
    obtain ⟨first, others⟩ := List.forall_mem_cons.mp each
    rw [List.mapM_cons, first, ih others]
    rfl

/-- A conversion succeeds with related results if it does so item by item. -/
theorem exists_mapM_iff {convert : τ → Except ε σ} {relation : τ → σ → Prop} :
    (∃ results, items.mapM convert = .ok results ∧ List.Forall₂ relation items results) ↔
      ∀ item ∈ items, ∃ result, convert item = .ok result ∧ relation item result := by
  induction items with
  | nil => exact ⟨fun _ => nofun, fun _ => ⟨[], rfl, .nil⟩⟩
  | cons item rest ih =>
    rw [List.forall_mem_cons, ← ih]
    simp only [List.mapM_cons, bind_eq_ok, pure_eq_ok]
    constructor
    · rintro ⟨_, ⟨first, converted, others, all, rfl⟩, _ | ⟨related, each⟩⟩
      exact ⟨⟨first, converted, related⟩, others, all, each⟩
    · rintro ⟨⟨first, converted, related⟩, others, all, each⟩
      exact ⟨_, ⟨first, converted, others, all, rfl⟩, .cons related each⟩

theorem forM_eq_ok {check : τ → Except ε Unit} {done : Unit} :
    items.forM check = .ok done ↔ ∀ item ∈ items, check item = .ok () := by
  induction items with
  | nil => simp [List.forM]
  | cons item rest ih =>
    simp only [List.forM, bind_eq_ok, ih, List.forall_mem_cons]
    exact ⟨fun ⟨_, first, others⟩ => ⟨first, others⟩, fun ⟨first, others⟩ => ⟨(), first, others⟩⟩

end Loop

/-! ## Methods on a mutable receiver -/

section Methods

variable {ε σ α β : Type}

/-- `step?` for a step that leaves the receiver alone. -/
instance liftExcept : MonadLift (Except ε) (EStateM ε σ) where
  monadLift
    | .ok value => pure value
    | .error error => throw error

/-- The receiver after a call. -/
def receiver : EStateM.Result ε σ α → σ
  | .ok _ after => after
  | .error _ after => after

/-- Called on `state`, the method returns a value with `done` or an error with `failed`. -/
def Leaves (method : EStateM ε σ α) (state : σ) (done : α → σ → Prop)
    (failed : ε → σ → Prop) : Prop :=
  match method.run state with
  | .ok value after => done value after
  | .error error after => failed error after

variable {method : EStateM ε σ α} {next : α → EStateM ε σ β} {state after : σ}
variable {done : α → σ → Prop} {failed : ε → σ → Prop}

/-! ## Calls -/

variable {value : α}

theorem Leaves.of_ok (leaves : Leaves method state done failed)
    (returned : method.run state = .ok value after) : done value after := by
  rw [Leaves, returned] at leaves
  exact leaves

theorem Leaves.of_error {error : ε} (leaves : Leaves method state done failed)
    (returned : method.run state = .error error after) : failed error after := by
  rw [Leaves, returned] at leaves
  exact leaves

/-- A property of the receiver that holds on either outcome. -/
theorem Leaves.receiver {property : σ → Prop}
    (leaves : Leaves method state (fun _ => property) (fun _ => property)) :
    property (receiver (method.run state)) := by
  cases returned : method.run state with
  | ok value after => exact leaves.of_ok returned
  | error error after => exact leaves.of_error returned

theorem leaves_iff :
    Leaves method state done failed ↔
      (∀ value after, method.run state = .ok value after → done value after) ∧
        ∀ error after, method.run state = .error error after → failed error after := by
  constructor
  · intro leaves
    exact ⟨fun _ _ => leaves.of_ok, fun _ _ => leaves.of_error⟩
  · intro outcomes
    obtain ⟨returned, refused⟩ := outcomes
    unfold Leaves
    split
    case h_1 value after outcome => exact returned value after outcome
    case h_2 error after outcome => exact refused error after outcome

theorem Leaves.imp {weaker : α → σ → Prop} {excused : ε → σ → Prop}
    (leaves : Leaves method state done failed)
    (returned : ∀ value after, done value after → weaker value after)
    (refused : ∀ error after, failed error after → excused error after) :
    Leaves method state weaker excused :=
  leaves_iff.mpr ⟨fun value after outcome => returned value after (leaves.of_ok outcome),
    fun error after outcome => refused error after (leaves.of_error outcome)⟩

/-! ## Runs -/

theorem run_map (convert : α → β) (method : EStateM ε σ α) (state : σ) :
    (convert <$> method).run state =
      match method.run state with
      | .ok value after => .ok (convert value) after
      | .error error after => .error error after := rfl

/-! ## Statements -/

theorem leaves_pure (holds : done value state) : Leaves (pure value) state done failed := holds

theorem leaves_modify {change : σ → σ} {done : Unit → σ → Prop} (holds : done () (change state)) :
    Leaves (modify change) state done failed := holds

variable {done : β → σ → Prop}

theorem leaves_write {change : σ → σ} {next : Unit → EStateM ε σ β}
    (rest : Leaves (next ()) (change state) done failed) :
    Leaves (modify change >>= next) state done failed := rest

/-- One statement after another. -/
theorem Leaves.bind {middle : α → σ → Prop} (first : Leaves method state middle failed)
    (rest : ∀ value between, middle value between → Leaves (next value) between done failed) :
    Leaves (method >>= next) state done failed := by
  have run_bind : (method >>= next).run state =
      match method.run state with
      | .ok value between => (next value).run between
      | .error error between => .error error between := rfl
  cases returned : method.run state with
  | ok value between =>
    rw [Leaves, run_bind, returned]
    exact rest value between (first.of_ok returned)
  | error error between =>
    rw [Leaves, run_bind, returned]
    exact first.of_error returned

/-- A method whose value is converted. -/
theorem Leaves.map {convert : α → β}
    (leaves : Leaves method state (fun value => done (convert value)) failed) :
    Leaves (convert <$> method) state done failed := by
  cases returned : method.run state with
  | ok value after =>
    rw [Leaves, run_map, returned]
    exact leaves.of_ok returned
  | error error after =>
    rw [Leaves, run_map, returned]
    exact leaves.of_error returned

theorem leaves_get {next : σ → EStateM ε σ β} (rest : Leaves (next state) state done failed) :
    Leaves (get >>= next) state done failed :=
  rest

/-- A step that succeeds. -/
theorem leaves_passed {step : Except ε α} (passed : step = .ok value)
    (rest : Leaves (next value) state done failed) :
    Leaves (liftM step >>= next) state done failed := by
  rw [passed]
  exact rest

/-- `let value = step?` -/
theorem leaves_check {step : Except ε α}
    (rest : ∀ value, step = .ok value → Leaves (next value) state done failed)
    (refused : ∀ error, step = .error error → failed error state) :
    Leaves (liftM step >>= next) state done failed := by
  cases step with
  | ok value => exact rest value rfl
  | error error => exact refused error rfl

end Methods

end Dirextalk.Lib
