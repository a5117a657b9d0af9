import Mathlib.Data.List.Induction

/-! Deterministic machines are given by a `step` function. A run is the list of operations it
consumes. `Guarded` restricts a run to operations that meet a condition in the state they are
applied to, and `invariant_run` is the one induction that every safety result about such runs goes
through. -/

namespace Dynastore.Execution

variable {State : Type u} {Op : Type v}

def run (step : State → Op → State) : State → List Op → State
  | state, [] => state
  | state, op :: ops => run step (step state op) ops

/-- Every operation meets `guard` in the state it is applied to. -/
def Guarded (step : State → Op → State) (guard : State → Op → Prop) : State → List Op → Prop
  | _, [] => True
  | state, op :: ops => guard state op ∧ Guarded step guard (step state op) ops

section

variable {step : State → Op → State} {guard : State → Op → Prop}

@[simp] theorem run_nil : run step state [] = state := rfl

@[simp] theorem run_cons : run step state (op :: ops) = run step (step state op) ops := rfl

theorem run_append (state : State) :
    run step state (first ++ second) = run step (run step state first) second := by
  induction first generalizing state with
  | nil => rfl
  | cons op _ ih => exact ih (step state op)

@[simp] theorem guarded_nil : Guarded step guard state [] := trivial

@[simp] theorem guarded_cons :
    Guarded step guard state (op :: ops) ↔
      guard state op ∧ Guarded step guard (step state op) ops := Iff.rfl

instance decidableGuarded [∀ state op, Decidable (guard state op)] :
    (state : State) → (ops : List Op) → Decidable (Guarded step guard state ops)
  | _, [] => isTrue trivial
  | state, op :: ops => @instDecidableAnd _ _ _ (decidableGuarded (step state op) ops)

theorem guarded_append (state : State) :
    Guarded step guard state (first ++ second) ↔ Guarded step guard state first ∧
        Guarded step guard (run step state first) second := by
  induction first generalizing state with
  | nil => simp
  | cons _ _ ih => simp [ih, and_assoc]

variable {ops : List Op} {state : State} {inv : State → Prop}

theorem guarded_of_forall {condition : Op → Prop} (all : ∀ op ∈ ops, condition op) (state : State) :
    Guarded step (fun _ op => condition op) state ops := by
  induction ops generalizing state with
  | nil => trivial
  | cons op _ ih =>
    exact ⟨all op (.head _),
      ih (fun other mem => all other (.tail _ mem)) _⟩

theorem guarded_and (left : Guarded step guard state ops) (right : Guarded step other state ops) :
    Guarded step (fun state op => guard state op ∧ other state op) state ops := by
  induction ops generalizing state with
  | nil => trivial
  | cons _ _ ih => exact ⟨⟨left.1, right.1⟩, ih left.2 right.2⟩

theorem guarded_iff_forall_split (state : State) : Guarded step guard state ops ↔
      ∀ before op after, ops = before ++ op :: after → guard (run step state before) op := by
  constructor
  · rintro guarded before op after rfl
    exact ((guarded_append _).mp guarded).2.1
  · intro everywhere
    induction ops generalizing state with
    | nil => trivial
    | cons op ops ih =>
      refine ⟨everywhere [] op ops rfl, ih _ ?_⟩
      rintro before next after rfl
      exact everywhere (op :: before) next after rfl

theorem invariant_run (preserved : ∀ state op, inv state → guard state op → inv (step state op))
    (initial : inv state) (guarded : Guarded step guard state ops) : inv (run step state ops) := by
  induction ops generalizing state with
  | nil => exact initial
  | cons op _ ih =>
    exact ih (preserved state op initial guarded.1) guarded.2

theorem invariant_run_of_step (preserved : ∀ state op, inv state → inv (step state op))
    (initial : inv state) (ops : List Op) : inv (run step state ops) := by
  induction ops generalizing state with
  | nil => exact initial
  | cons op _ ih => exact ih (preserved state op initial)

/-- Conditions that agree wherever the invariant and the guard hold restrict runs alike. -/
theorem guarded_congr_of_invariant
    (preserved : ∀ state op, inv state → guard state op → inv (step state op))
    (agree : ∀ state op, inv state → guard state op → (left state op ↔ right state op))
    (initial : inv state)
    (guarded : Guarded step guard state ops) :
    Guarded step left state ops ↔ Guarded step right state ops := by
  induction ops generalizing state with
  | nil => exact Iff.rfl
  | cons op _ ih =>
    exact and_congr (agree state op initial guarded.1)
      (ih (preserved state op initial guarded.1) guarded.2)

/-- What does not hold at first and holds in the end came to hold at some
operation and has held ever since. -/
theorem exists_turning (holds : State → Prop)
    (first : ¬ holds state) (last : holds (run step state ops)) :
    ∃ before op after, ops = before ++ op :: after ∧ ¬ holds (run step state before) ∧
      ∀ since, since <+: after → holds (run step state (before ++ op :: since)) := by
  induction ops using List.reverseRecOn with
  | nil => exact absurd last first
  | append_singleton ops final ih =>
    by_cases earlier : holds (run step state ops)
    · obtain ⟨before, op, after, rfl, turned, kept⟩ := ih earlier
      refine ⟨before, op, after ++ [final], by simp, turned, ?_⟩
      intro since isPrefix
      rcases List.prefix_concat_iff.mp isPrefix with whole | shorter
      · rw [whole]
        simpa using last
      · exact kept since shorter
    · refine ⟨ops, final, [], rfl, earlier, ?_⟩
      intro _ isPrefix
      rw [List.prefix_nil.mp isPrefix]
      exact last

end

end Dynastore.Execution
