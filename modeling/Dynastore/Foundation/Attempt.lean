import Mathlib.Data.List.Forall2

/-! A list of computations that may fail, run one after the other: the whole succeeds when each of
them does, and fails with the first failure. -/

namespace Dynastore

variable {α β ε : Type}

theorem exists_of_bind_eq_ok {next : α → Except ε β} (returned : first >>= next = .ok result) :
    ∃ value, first = .ok value ∧ next value = .ok result := by
  cases first with
  | error => cases returned
  | ok value => exact ⟨value, rfl, returned⟩

namespace Attempt

open List

variable {attempt : α → Except ε β} {inputs : List α} {outputs : List β}

theorem forall₂_of_mapM (done : inputs.mapM attempt = .ok outputs) :
    List.Forall₂ (fun input output => attempt input = .ok output) inputs outputs := by
  induction inputs generalizing outputs with
  | nil =>
    cases done
    exact .nil
  | cons _ _ ih =>
    rw [mapM_cons] at done
    obtain ⟨_, first, later⟩ := exists_of_bind_eq_ok done
    obtain ⟨_, rest, returned⟩ := exists_of_bind_eq_ok later
    cases returned
    exact .cons first (ih rest)

theorem mapM_of_forall₂
    (each : List.Forall₂ (fun input output => attempt input = .ok output) inputs outputs) :
    inputs.mapM attempt = .ok outputs := by
  induction each with
  | nil => rfl
  | cons first _ ih =>
    rw [mapM_cons, first, ih]
    rfl

section

variable {related : α → β → Prop} (each : List.Forall₂ related inputs outputs)

include each

theorem exists_left_of_mem (mem : output ∈ outputs) : ∃ input ∈ inputs, related input output := by
  induction each with
  | nil => cases mem
  | cons first _ ih =>
    rcases mem_cons.mp mem with rfl | later
    · exact ⟨_, mem_cons_self, first⟩
    · obtain ⟨input, inputMem, own⟩ := ih later
      exact ⟨input, mem_cons_of_mem _ inputMem, own⟩

theorem exists_right_of_mem (mem : input ∈ inputs) : ∃ output ∈ outputs, related input output :=
  exists_left_of_mem (List.Forall₂.flip (R := flip related) each) mem

end

theorem of_mem_zip_mapM {attempt : α → Option β} (all : inputs.mapM attempt = some outputs)
    (mem : entry ∈ inputs.zip outputs) : attempt entry.1 = some entry.2 := by
  induction inputs generalizing outputs with
  | nil => cases mem
  | cons input inputs ih =>
    rw [mapM_cons] at all
    cases first : attempt input with
    | none => rw [first] at all; cases all
    | some =>
      cases rest : inputs.mapM attempt with
      | none => rw [first, rest] at all; cases all
      | some =>
        rw [first, rest] at all
        cases all
        rcases mem_cons.mp mem with rfl | later
        · exact first
        · exact ih rest later

theorem mapM_congr [Monad m] [LawfulMonad m] {left right : α → m β}
    (eq : ∀ input ∈ inputs, left input = right input) : inputs.mapM left = inputs.mapM right := by
  induction inputs with
  | nil => rfl
  | cons input _ ih =>
    rw [mapM_cons, mapM_cons, eq input (.head _),
      ih fun other mem => eq other (.tail _ mem)]

end Attempt

end Dynastore
