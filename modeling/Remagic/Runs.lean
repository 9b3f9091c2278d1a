import Mathlib.Order.Basic
import Mathlib.Tactic.Common

/-!
# Runs of a machine

A machine is a function from a state and an event to the next state; all choice
is in the events. A run is a list of events folded over a first state, and a
condition on each step is a predicate along the run.
-/

namespace Runs
universe u v
variable {σ : Type u} {ε : Type v} (next : σ → ε → σ)

/-- Every step of the run from `s` meets the condition in the state before it. -/
def Along (condition : σ → ε → Prop) : σ → List ε → Prop
  | _, [] => True
  | s, event :: rest => condition s event ∧ Along condition (next s event) rest

instance Along.decide (condition : σ → ε → Prop) [∀ s event, Decidable (condition s event)] :
    ∀ (s : σ) (events : List ε), Decidable (Along next condition s events)
  | _, [] => isTrue trivial
  | s, event :: rest =>
    have := Along.decide condition (next s event) rest
    inferInstanceAs (Decidable (condition s event ∧ Along next condition (next s event) rest))

variable {next} {condition : σ → ε → Prop}

/-- The rule of invariants: what each conditioned step preserves, the run preserves. -/
theorem Along.invariant (Invariant : σ → Prop)
    (step : ∀ s event, Invariant s → condition s event → Invariant (next s event))
    {events : List ε} {s : σ} (holds : Invariant s) (along : Along next condition s events) :
    Invariant (events.foldl next s) := by
  induction events generalizing s with
  | nil => exact holds
  | cons event rest ih => exact ih (step s event holds along.1) along.2

/-- Without a condition the rule needs no hypothesis on the run. -/
theorem run_invariant {Invariant : σ → Prop} (step : ∀ s event, Invariant s → Invariant (next s event))
    (events : List ε) {s : σ} (holds : Invariant s) : Invariant (events.foldl next s) := by
  induction events generalizing s with
  | nil => exact holds
  | cons event rest ih => exact ih (step s event holds)

/-- What one event of a run establishes and every event keeps holds at its end. -/
theorem run_reaches (Invariant Goal : σ → Prop) (reaching : ε)
    (step : ∀ s event, Invariant s → Invariant (next s event)) (keeps : ∀ s event, Goal s → Goal (next s event))
    (reaches : ∀ s, Invariant s → Goal (next s reaching)) {events : List ε} (member : reaching ∈ events) {s : σ}
    (holds : Invariant s) : Goal (events.foldl next s) := by
  induction events generalizing s with
  | nil => cases member
  | cons event rest ih =>
    rcases List.mem_cons.mp member with rfl | later
    · exact run_invariant keeps rest (reaches s holds)
    · exact ih later (step s event holds)

/-- A condition on each event holds along the run. -/
theorem Along.both {every : ε → Prop} {events : List ε} {s : σ} (along : Along next condition s events)
    (each : ∀ event ∈ events, every event) : Along next (fun s event => every event ∧ condition s event) s events := by
  induction events generalizing s with
  | nil => exact trivial
  | cons event rest ih =>
    exact ⟨⟨each event (List.mem_cons_self ..), along.1⟩,
      ih along.2 fun other member => each other (List.mem_cons_of_mem _ member)⟩

/-- Two conditions that hold along the run hold along it together. -/
theorem Along.and {other : σ → ε → Prop} {events : List ε} {s : σ} (along : Along next condition s events)
    (beside : Along next other s events) : Along next (fun s event => condition s event ∧ other s event) s events := by
  induction events generalizing s with
  | nil => exact trivial
  | cons event rest ih => exact ⟨⟨along.1, beside.1⟩, ih along.2 beside.2⟩

/-- Two conditions that agree wherever an invariant holds that they keep hold along the same runs. -/
theorem along_congr {other : σ → ε → Prop} (Invariant : σ → Prop)
    (step : ∀ s event, Invariant s → condition s event → Invariant (next s event))
    (agree : ∀ s event, Invariant s → (condition s event ↔ other s event)) (events : List ε) {s : σ}
    (holds : Invariant s) : Along next condition s events ↔ Along next other s events := by
  induction events generalizing s with
  | nil => exact Iff.rfl
  | cons event rest ih =>
    exact and_congr_right_iff.mpr (fun here => ih (step s event holds here)) |>.trans (and_congr_left' (agree s event holds))

theorem along_append {first second : List ε} {s : σ} :
    Along next condition s (first ++ second) ↔
      Along next condition s first ∧ Along next condition (first.foldl next s) second := by
  induction first generalizing s with
  | nil => simp [Along]
  | cons event rest ih => simp [Along, ih, and_assoc]

/-! ## What a run answers -/

section
variable {β : Type*} (next) (answer : σ → ε → Option β)

/-- The answers along a run, in their order. -/
def answers : σ → List ε → List β
  | _, [] => []
  | s, event :: rest => (answer s event).toList ++ answers (next s event) rest

variable {next answer} {α : Type*} [Preorder α] (measure : σ → α) (rank : β → α)

/-- Where no step lowers the measure, every answer of a run is above the measure that
    the run starts with, if every step's answer is above the one it starts with. -/
theorem answers_above (Invariant : σ → Prop) (step : ∀ s event, Invariant s → Invariant (next s event))
    (rises : ∀ s event, Invariant s → measure s ≤ measure (next s event))
    (above : ∀ s event b, Invariant s → answer s event = some b → measure s < rank b) :
    ∀ (events : List ε) (s : σ), Invariant s → ∀ b ∈ answers next answer s events, measure s < rank b := by
  intro events
  induction events with
  | nil =>
    intro s _ b member
    cases member
  | cons event rest ih =>
    intro s holds b member
    rcases List.mem_append.mp member with first | later
    · exact above s event b holds (Option.mem_toList.mp first)
    · exact (rises s event holds).trans_lt (ih (next s event) (step s event holds) b later)

/-- The rule of fences: if besides each step takes the measure up to its answer, the
    answers of a run strictly increase. -/
theorem answers_increase (Invariant : σ → Prop) (step : ∀ s event, Invariant s → Invariant (next s event))
    (rises : ∀ s event, Invariant s → measure s ≤ measure (next s event))
    (above : ∀ s event b, Invariant s → answer s event = some b → measure s < rank b)
    (reaches : ∀ s event b, Invariant s → answer s event = some b → rank b ≤ measure (next s event)) :
    ∀ (events : List ε) (s : σ), Invariant s → (answers next answer s events).Pairwise fun a b => rank a < rank b := by
  intro events
  induction events with
  | nil =>
    intro s _
    exact List.Pairwise.nil
  | cons event rest ih =>
    intro s holds
    have kept := step s event holds
    refine List.pairwise_append.mpr ⟨?_, ih (next s event) kept, fun a first b later => ?_⟩
    · cases answer s event with
      | none => exact List.Pairwise.nil
      | some b => exact List.pairwise_singleton ..
    · have below := reaches s event a holds (Option.mem_toList.mp first)
      exact below.trans_lt (answers_above measure rank Invariant step rises above rest (next s event) kept b later)

end

end Runs
