import Mathlib.Data.List.Chain

/-!
# Runs of a labelled transition system

The states a system reaches from its start states, and the rule that an
invariant of one step is an invariant of every run.
-/

namespace Dirextalk.Lib

variable {σ ι : Type} {start : σ → Prop} {step : σ → ι → σ → Prop}

/-- The states reached from a start state by any number of steps. -/
inductive Reached (start : σ → Prop) (step : σ → ι → σ → Prop) : σ → Prop
  | initial {state : σ} (starts : start state) : Reached start step state
  | next {state after : σ} (label : ι) (before : Reached start step state)
      (taken : step state label after) : Reached start step after

/-- What holds at the start and is kept by every step holds in every reached state. -/
theorem Reached.invariant {state : σ} (reached : Reached start step state) (property : σ → Prop)
    (starts : ∀ state, start state → property state)
    (keeps : ∀ state label after, property state → step state label after → property after) :
    property state := by
  induction reached with
  | initial started => exact starts _ started
  | next label _ taken ih => exact keeps _ label _ ih taken

/-- What is reached by some of the steps is reached by all of them. -/
theorem Reached.mono {other : σ → ι → σ → Prop} {state : σ} (reached : Reached start step state)
    (weakens : ∀ state label after, step state label after → other state label after) :
    Reached start other state :=
  reached.invariant (Reached start other) (fun _ => .initial)
    fun _ label _ before taken => .next label before (weakens _ label _ taken)

/-- The states reached from one state. -/
abbrev ReachedFrom (state : σ) (step : σ → ι → σ → Prop) : σ → Prop :=
  Reached (· = state) step

theorem Reached.extend {state later : σ} (reached : Reached start step state)
    (further : ReachedFrom state step later) : Reached start step later :=
  further.invariant (Reached start step) (fun _ same => same ▸ reached)
    fun _ label _ before taken => .next label before taken

/-! ## Runs with a record -/

/-- A step that adds what it yields to a record. -/
def Recording {α : Type} (step : σ → ι → σ → Prop) (yields : σ → ι → σ → List α)
    (before : σ × List α) (label : ι) (after : σ × List α) : Prop :=
  step before.1 label after.1 ∧ after.2 = before.2 ++ yields before.1 label after.1

variable {state after : σ}

theorem Reached.record {α : Type} {starts : σ × List α → Prop} {yields : σ → ι → σ → List α}
    {record : List α} (label : ι) (reached : Reached starts (Recording step yields) (state, record))
    (taken : step state label after) :
    Reached starts (Recording step yields) (after, record ++ yields state label after) :=
  reached.next label ⟨taken, rfl⟩

/-- Every run can be recorded. -/
theorem ReachedFrom.recorded {α : Type} {state later : σ}
    (reached : ReachedFrom state step later) (yields : σ → ι → σ → List α) :
    ∃ record, ReachedFrom (state, []) (Recording step yields) (later, record) := by
  induction reached with
  | initial same => exact ⟨[], .initial (by rw [same])⟩
  | next label _ taken ih =>
    obtain ⟨record, before⟩ := ih
    exact ⟨_, before.record label taken⟩

/-! ## Runs along labels -/

/-- A run from one state to another, along the labels. -/
inductive Follows (step : σ → ι → σ → Prop) : σ → List ι → σ → Prop
  | nil (state : σ) : Follows step state [] state
  | cons {state middle after : σ} {label : ι} {labels : List ι} (taken : step state label middle)
      (rest : Follows step middle labels after) : Follows step state (label :: labels) after

/-- A run can be cut after any of its labels. -/
theorem follows_append {labels others : List ι} :
    Follows step state (labels ++ others) after ↔
      ∃ middle, Follows step state labels middle ∧ Follows step middle others after := by
  induction labels generalizing state with
  | nil =>
    constructor
    · intro run
      exact ⟨state, .nil state, run⟩
    · intro ⟨middle, before, run⟩
      cases before
      exact run
  | cons label labels ih =>
    constructor
    · intro run
      cases run with
      | cons taken rest =>
        obtain ⟨middle, before, run⟩ := ih.mp rest
        exact ⟨middle, .cons taken before, run⟩
    · intro ⟨middle, before, run⟩
      cases before with
      | cons taken rest => exact .cons taken (ih.mpr ⟨middle, rest, run⟩)

/-- What holds at the start and is kept when a label is taken holds along every run. -/
theorem Follows.invariant {labels : List ι} (run : Follows step state labels after)
    (property : List ι → σ → Prop) (starts : property [] state)
    (keeps : ∀ labels before label after, property labels before → step before label after →
      property (labels ++ [label]) after) : property labels after := by
  induction labels using List.reverseRecOn generalizing after with
  | nil =>
    cases run
    exact starts
  | append_singleton labels label ih =>
    obtain ⟨middle, before, last⟩ := follows_append.mp run
    cases last with
    | cons taken rest =>
      cases rest
      exact keeps labels middle label after (ih before) taken

end Dirextalk.Lib
