/-! The connectives on truth values of which one may be missing. A two-valued reading gives each
undecided value a truth value of its own; the last section says what such a reading makes of the
connectives. -/

namespace Dynastore.Kleene

def not : Option Bool → Option Bool := Option.map Bool.not

def and : Option Bool → Option Bool → Option Bool
  | some false, _ => some false
  | _, some false => some false
  | some true, some true => some true
  | _, _ => none

def or : Option Bool → Option Bool → Option Bool
  | some true, _ => some true
  | _, some true => some true
  | some false, some false => some false
  | _, _ => none

def any (values : List (Option Bool)) : Option Bool := values.foldr or (some false)

def negateIf (negated : Bool) (value : Option Bool) : Option Bool :=
  if negated then not value else value

theorem any_of_none (undecided : ∀ value ∈ values, value = none) (present : values ≠ []) :
    any values = none := by
  induction values with
  | nil => exact absurd rfl present
  | cons value rest ih =>
    have head : value = none := undecided value (.head _)
    have others : any rest = none ∨ any rest = some false := by
      by_cases last : rest = []
      · right
        rw [last]
        rfl
      · left
        exact ih (fun other mem => undecided other (.tail _ mem)) last
    rw [any, List.foldr_cons, head]
    rcases others with undecidedRest | falseRest
    · rw [show rest.foldr or (some false) = none from undecidedRest]
      rfl
    · rw [show rest.foldr or (some false) = some false from falseRest]
      rfl

theorem any_of_some (values : List Bool) : any (values.map some) = some (values.any id) := by
  induction values with
  | nil => rfl
  | cons value rest ih =>
    rw [any, List.map_cons, List.foldr_cons]
    rw [show (rest.map some).foldr or (some false) = some (rest.any id) from ih,
      List.any_cons]
    cases value <;> cases rest.any id <;> rfl

/-! ## Two-valued readings -/

/-- A comparison of a value that may be missing, negated where asked to: when
the value is missing, it is read as its negation says. -/
theorem getD_negateIf_map (value : Option α) :
    (negateIf negated (value.map holds)).getD negated = (negated ^^ value.any holds) := by
  cases value with
  | none => cases negated <;> rfl
  | some => cases negated <;> simp [negateIf, not]

theorem getD_not : (not value).getD (!reading) = !value.getD reading := by
  cases value <;> rfl

/-- An undecided conjunction has no false side, so it is read as its undecided
sides are. -/
theorem getD_and :
    (and left right).getD ((left.isSome || leftRead) && (right.isSome || rightRead)) =
      (left.getD leftRead && right.getD rightRead) := by
  rcases left with _ | _ | _ <;> rcases right with _ | _ | _ <;>
    cases leftRead <;> cases rightRead <;> rfl

theorem getD_or :
    (or left right).getD ((!left.isSome && leftRead) || (!right.isSome && rightRead)) =
      (left.getD leftRead || right.getD rightRead) := by
  rcases left with _ | _ | _ <;> rcases right with _ | _ | _ <;>
    cases leftRead <;> cases rightRead <;> rfl

theorem getD_iff : (value.getD reading ↔ value = some true) ↔ value.isSome ∨ reading = false := by
  rcases value with _ | _ | _ <;> cases reading <;> simp

end Dynastore.Kleene
