import Mathlib.Algebra.GroupWithZero.Nat
import Mathlib.Data.List.Induction

namespace Transition

universe u v

variable {σ : Type u} {α : Type v}

/-- Finite runs of a labelled step relation. The last action is outermost, so an induction over a
run meets the run up to some state and then the step taken from it. -/
inductive Run (step : σ → α → σ → Prop) (start : σ) : List α → σ → Prop
  | nil : Run step start [] start
  | snoc {actions : List α} {middle last : σ} {action : α} :
      Run step start actions middle → step middle action last →
        Run step start (actions ++ [action]) last

/-- The steps of a relation that are taken where the guard holds. -/
def Guarded (step : σ → α → σ → Prop) (guard : σ → α → Prop) : σ → α → σ → Prop :=
  fun before action after => guard before action ∧ step before action after

/-- The step relation of a total transition function. -/
def graph (next : σ → α → σ) : σ → α → σ → Prop :=
  fun before action after => next before action = after

variable {step : σ → α → σ → Prop} {start last : σ} {actions : List α}

/-- What holds at the start and is kept by every step holds of every state a run reaches. -/
theorem Run.invariant {Inv : σ → Prop}
    (keep : ∀ before action after, Inv before → step before action after → Inv after)
    (run : Run step start actions last) (initial : Inv start) : Inv last := by
  induction run with
  | nil => exact initial
  | snoc _ taken ih => exact keep _ _ _ ih taken

/-- The invariant rule for a transition function whose steps are taken where a guard holds. -/
theorem Run.guarded {P : σ → Prop} {guard : σ → α → Prop}
    (keep : ∀ before action, P before → guard before action → P (next before action))
    (run : Run (Guarded (graph next) guard) start actions last) (initial : P start) : P last := by
  refine run.invariant (fun before action after inv taken => ?_) initial
  obtain ⟨met, rfl⟩ := taken
  exact keep before action inv met

theorem Run.mono
    (weaken : ∀ before action after, step before action after → other before action after)
    (run : Run step start actions last) : Run other start actions last := by
  induction run with
  | nil => exact .nil
  | snoc _ taken ih => exact .snoc ih (weaken _ _ _ taken)

theorem Run.unguarded {guard : σ → α → Prop}
    (run : Run (Guarded step guard) start actions last) : Run step start actions last :=
  run.mono fun _ _ _ taken => taken.2

theorem run_snoc_iff (action : α) :
    Run step start (actions ++ [action]) last ↔
      ∃ middle, Run step start actions middle ∧ step middle action last := by
  constructor
  · generalize whole : actions ++ [action] = sequence
    rintro (_ | ⟨run, taken⟩)
    · simp at whole
    · obtain ⟨rfl, same⟩ := List.append_inj' whole rfl
      cases same
      exact ⟨_, run, taken⟩
  · rintro ⟨middle, run, taken⟩
    exact .snoc run taken

theorem run_foldl (next : σ → α → σ) (start : σ) (actions : List α) :
    Run (graph next) start actions (actions.foldl next start) := by
  induction actions using List.reverseRecOn with
  | nil => exact .nil
  | append_singleton _ _ ih =>
    rw [List.foldl_append]
    exact .snoc ih rfl

theorem Run.eq_foldl (run : Run (graph next) start actions last) :
    last = actions.foldl next start := by
  induction run with
  | nil => rfl
  | snoc _ taken ih => rw [List.foldl_append, ← ih]; exact taken.symm

/-- Whether every action of a list meets a condition that can be computed in the state before it. -/
def passes (next : σ → α → σ) (check : σ → α → Bool) : σ → List α → Bool
  | _, [] => true
  | state, action :: actions => check state action && passes next check (next state action) actions

theorem passes_snoc (next : σ → α → σ) (check : σ → α → Bool) (start : σ) (actions : List α)
    (action : α) :
    passes next check start (actions ++ [action]) =
      (passes next check start actions && check (actions.foldl next start) action) := by
  induction actions generalizing start with
  | nil => simp [passes]
  | cons _ _ ih => simp [passes, ih, Bool.and_assoc]

theorem run_of_passes {guard : σ → α → Prop}
    (sound : ∀ state action, check state action = true → guard state action)
    (ok : passes next check start actions = true) :
    Run (Guarded (graph next) guard) start actions (actions.foldl next start) := by
  induction actions using List.reverseRecOn with
  | nil => exact .nil
  | append_singleton _ _ ih =>
    rw [passes_snoc, Bool.and_eq_true] at ok
    rw [List.foldl_append]
    exact .snoc (ih ok.1) ⟨sound _ _ ok.2, rfl⟩

theorem update_value [DecidableEq ι] {i j : ι} (found : Function.update f i b j = c) :
    j = i ∧ b = c ∨ j ≠ i ∧ f j = c := by
  by_cases here : j = i
  · rw [here, Function.update_self] at found
    exact .inl ⟨here, found⟩
  · rw [Function.update_of_ne here] at found
    exact .inr ⟨here, found⟩

end Transition
