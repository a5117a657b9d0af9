import Mathlib.Data.List.Infix

/-! A pattern is a list of tokens: any text, any one symbol, or a given symbol. Different pattern
languages are different ways to write such lists down. -/

namespace Dynastore.Glob

open List

inductive Token (Symbol : Type) where
  | any
  | one
  | literal (symbol : Symbol)
deriving DecidableEq, Repr

variable {Symbol : Type}

/-- The text matches the pattern; `same` compares a symbol of the pattern with
one of the text. -/
def matchesBy (same : Symbol → Symbol → Bool) : List (Token Symbol) → List Symbol → Bool
  | [], text => text.isEmpty
  | .any :: rest, text => text.tails.any fun tail => matchesBy same rest tail
  | .one :: rest, text =>
    match text with
    | [] => false
    | _ :: tail => matchesBy same rest tail
  | .literal symbol :: rest, text =>
    match text with
    | [] => false
    | head :: tail => same symbol head && matchesBy same rest tail

def weight : List (Token Symbol) → Nat
  | [] => 0
  | .any :: rest => weight rest
  | _ :: rest => weight rest + 1

def sample (filler : Symbol) : List (Token Symbol) → List Symbol
  | [] => []
  | .any :: rest => sample filler rest
  | .one :: rest => filler :: sample filler rest
  | .literal symbol :: rest => symbol :: sample filler rest

theorem length_sample : (sample filler tokens).length = weight tokens := by
  induction tokens with
  | nil => rfl
  | cons token _ ih =>
    cases token with
    | any => exact ih
    | _ => exact congrArg (· + 1) ih

theorem mem_of_mem_sample (mem : symbol ∈ sample filler tokens) :
    symbol = filler ∨ .literal symbol ∈ tokens := by
  induction tokens with
  | nil => cases mem
  | cons token rest ih =>
    have later : symbol ∈ sample filler rest →
        symbol = filler ∨ .literal symbol ∈ token :: rest := fun inRest =>
      (ih inRest).imp_right (mem_cons_of_mem _)
    cases token with
    | any => exact later mem
    | one =>
      rcases mem_cons.mp mem with same | inRest
      · exact .inl same
      · exact later inRest
    | literal =>
      rcases mem_cons.mp mem with same | inRest
      · rw [same]
        exact .inr (.head _)
      · exact later inRest

section Exact

variable [DecidableEq Symbol]

abbrev matchesText : List (Token Symbol) → List Symbol → Bool := matchesBy (· == ·)

theorem matches_sample (tokens : List (Token Symbol)) :
    matchesText tokens (sample filler tokens) := by
  induction tokens with
  | nil => rfl
  | cons token _ ih =>
    cases token with
    | any =>
      rw [sample, matchesText, matchesBy, any_eq_true]
      exact ⟨_, (mem_tails _ _).mpr suffix_rfl, ih⟩
    | one => exact ih
    | literal =>
      rw [sample, matchesText, matchesBy, beq_self_eq_true, Bool.true_and]
      exact ih

theorem of_matches {text : List Symbol} (holds : matchesText tokens text) :
    weight tokens ≤ text.length ∧ ∀ symbol, .literal symbol ∈ tokens → symbol ∈ text := by
  induction tokens generalizing text with
  | nil => exact ⟨Nat.zero_le _, by rintro _ ⟨⟩⟩
  | cons token _ ih =>
    cases token with
    | any =>
      rw [matchesText, matchesBy, any_eq_true] at holds
      obtain ⟨_, isTail, matched⟩ := holds
      obtain ⟨long, literals⟩ := ih matched
      have suffix := (mem_tails _ _).mp isTail
      refine ⟨Nat.le_trans long suffix.length_le, ?_⟩
      intro symbol mem
      rcases mem_cons.mp mem with same | inRest
      · cases same
      · exact suffix.subset (literals symbol inRest)
    | one =>
      cases text with
      | nil => cases holds
      | cons =>
        obtain ⟨long, literals⟩ := ih holds
        refine ⟨Nat.succ_le_succ long, ?_⟩
        intro symbol mem
        rcases mem_cons.mp mem with same | inRest
        · cases same
        · exact .tail _ (literals symbol inRest)
    | literal =>
      cases text with
      | nil => cases holds
      | cons =>
        rw [matchesText, matchesBy, Bool.and_eq_true, beq_iff_eq] at holds
        obtain ⟨long, literals⟩ := ih holds.2
        refine ⟨Nat.succ_le_succ long, ?_⟩
        intro symbol mem
        rcases mem_cons.mp mem with same | inRest
        · cases same
          rw [holds.1]
          exact .head _
        · exact .tail _ (literals symbol inRest)

end Exact

end Dynastore.Glob
