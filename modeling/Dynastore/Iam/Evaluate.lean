import Mathlib.Data.List.MinMax
import Mathlib.Data.Prod.Lex
import Mathlib.Data.String.Basic
import Dynastore.Iam.Resolve

/-! `evaluate_access` walks the effective policies, keeps the strongest DENY and the strongest ALLOW
that match the request, and lets the higher priority win, DENY on a tie. -/

namespace Dynastore.Iam

open List

/-! ## The walk -/

def Policy.methodMatch (py : Python) (policy : Policy) (method : String) : Bool :=
  policy.actions.isEmpty || policy.actions.contains ".*" || policy.actions.contains method ||
    policy.matchesAction py method

def Policy.applies (py : Python) (ctx : EvaluationContext) (policy : Policy) : Bool :=
  policy.methodMatch py ctx.method && policy.matchesResource py ctx.path

/-- The pairs that `_rank_key` compares, in lexicographic order. -/
def RankKey : Type :=
  ℤ ×ₗ String

instance : LinearOrder RankKey :=
  inferInstanceAs (LinearOrder (ℤ ×ₗ String))

def Policy.rankKey (policy : Policy) : RankKey :=
  toLex (-policy.priority, policy.id)

def improve (best : Option Policy) (policy : Policy) : Option Policy :=
  match best with
  | none => some policy
  | some strongest => if policy.rankKey < strongest.rankKey then some policy else some strongest

/-- The strongest DENY and the strongest ALLOW behind the given ones. -/
def walk (py : Python) (ctx : EvaluationContext) :
    List Policy → Option Policy → Option Policy → Except Raised (Option Policy × Option Policy)
  | [], bestDeny, bestAllow => .ok (bestDeny, bestAllow)
  | policy :: rest, bestDeny, bestAllow =>
    if policy.applies py ctx then
      match evaluateAll py ctx policy.effect policy.conditions with
      | .error raised => .error raised
      | .ok false => walk py ctx rest bestDeny bestAllow
      | .ok true =>
        match policy.effect with
        | .deny => walk py ctx rest (improve bestDeny policy) bestAllow
        | .allow => walk py ctx rest bestDeny (improve bestAllow policy)
    else walk py ctx rest bestDeny bestAllow

def denyReason (policy : Policy) : Bool × String :=
  (false, "Explicit DENY by policy " ++ policy.id)

def allowReason (policy : Policy) : Bool × String :=
  (true, "Allowed by policy " ++ policy.id)

def decision (bestDeny bestAllow : Option Policy) : Bool × String :=
  match bestDeny, bestAllow with
  | some deny, some allow =>
    if deny.priority ≥ allow.priority then denyReason deny else allowReason allow
  | some deny, none => denyReason deny
  | none, some allow => allowReason allow
  | none, none => (false, "Deny by Default (No matching ALLOW policy found)")

/-- What `evaluate_access` does once the effective policies are resolved. -/
def evaluatePolicies (py : Python) (ctx : EvaluationContext) (policies : List Policy) :
    Except Raised (Bool × String) :=
  match walk py ctx policies none none with
  | .ok (bestDeny, bestAllow) => .ok (decision bestDeny bestAllow)
  | .error raised => .error raised

/-- `evaluate_access` for the path and the method of the request context. -/
def PolicyService.evaluateAccess (service : PolicyService) (py : Python)
    (request : Resolution) (ctx : EvaluationContext) : Except Raised (Bool × String) :=
  evaluatePolicies py ctx (service.resolveEffectivePolicies request)

def PolicyService.Allows (service : PolicyService) (py : Python) (request : Resolution)
    (ctx : EvaluationContext) : Prop :=
  ∃ reason, service.evaluateAccess py request ctx = .ok (true, reason)

/-! ## The decision rule -/

section Rule

variable (py : Python) (ctx : EvaluationContext)

def Policy.Raises (policy : Policy) : Prop :=
  policy.applies py ctx ∧
    ∃ raised, evaluateAll py ctx policy.effect policy.conditions = .error raised

def Policy.fires (policy : Policy) : Bool :=
  policy.applies py ctx &&
    match evaluateAll py ctx policy.effect policy.conditions with
    | .ok holds => holds
    | .error _ => false

def firing (effect : Effect) (policies : List Policy) : List Policy :=
  policies.filter fun policy => policy.fires py ctx && policy.effect == effect

variable {py ctx}

theorem improve_eq_argAux :
    improve = List.argAux fun policy strongest : Policy => policy.rankKey < strongest.rankKey := by
  funext best policy
  cases best <;> rfl

theorem walk_spec (bestDeny bestAllow : Option Policy) :
    (∃ policy ∈ policies, policy.Raises py ctx) ∧
      (∃ raised, walk py ctx policies bestDeny bestAllow = .error raised) ∨
    (¬ ∃ policy ∈ policies, policy.Raises py ctx) ∧ walk py ctx policies bestDeny bestAllow =
        .ok ((firing py ctx .deny policies).foldl improve bestDeny,
          (firing py ctx .allow policies).foldl improve bestAllow) := by
  induction policies generalizing bestDeny bestAllow with
  | nil =>
    simp [walk, firing]
  | cons policy _ ih =>
    by_cases applies : policy.applies py ctx
    · cases evaluated : evaluateAll py ctx policy.effect policy.conditions with
      | error raised =>
        left
        refine ⟨⟨policy, mem_cons_self, applies, raised, evaluated⟩, raised, ?_⟩
        rw [walk, if_pos applies, evaluated]
      | ok holds =>
        have quiet : ¬ policy.Raises py ctx := by
          rintro ⟨-, _, eq⟩
          rw [evaluated] at eq
          cases eq
        cases holds with
        | false =>
          have silent : policy.fires py ctx = false := by simp [Policy.fires, evaluated]
          simpa [walk, applies, evaluated, quiet, firing, silent] using
            ih bestDeny bestAllow
        | true =>
          have fires : policy.fires py ctx := by
            simp [Policy.fires, applies, evaluated]
          cases effect : policy.effect with
          | deny =>
            rw [effect] at evaluated
            simpa [walk, applies, evaluated, quiet, firing, fires, effect] using
              ih (improve bestDeny policy) bestAllow
          | allow =>
            rw [effect] at evaluated
            simpa [walk, applies, evaluated, quiet, firing, fires, effect] using
              ih bestDeny (improve bestAllow policy)
    · have quiet : ¬ policy.Raises py ctx := fun raises => applies raises.1
      have silent : policy.fires py ctx = false := by simp [Policy.fires, applies]
      simpa [walk, applies, quiet, firing, silent] using ih bestDeny bestAllow

theorem foldl_improve_eq_argmin (policies : List Policy) :
    policies.foldl improve none = policies.argmin Policy.rankKey := by
  rw [improve_eq_argAux]
  rfl

theorem priority_le_of_rankKey_le {weaker stronger : Policy}
    (ranked : stronger.rankKey ≤ weaker.rankKey) : weaker.priority ≤ stronger.priority := by
  rcases Prod.Lex.le_iff.mp ranked with higher | ⟨same, -⟩
  · have negated : -stronger.priority < -weaker.priority := higher
    omega
  · have negated : -stronger.priority = -weaker.priority := same
    omega

theorem decision_allowed_iff :
    (decision bestDeny bestAllow).1 ↔
      ∃ allow, bestAllow = some allow ∧ ∀ deny ∈ bestDeny, deny.priority < allow.priority := by
  cases bestDeny with
  | none => cases bestAllow <;> simp [decision, allowReason]
  | some deny =>
    cases bestAllow with
    | none => simp [decision, denyReason]
    | some allow =>
      by_cases outranked : deny.priority ≥ allow.priority
      · simp [decision, denyReason, outranked]
      · simp [decision, allowReason, outranked, not_le.mp outranked]

theorem strongest_outranks_iff (denies allows : List Policy) :
    (∃ allow, allows.argmin Policy.rankKey = some allow ∧
      ∀ deny ∈ denies.argmin Policy.rankKey, deny.priority < allow.priority) ↔
    ∃ allow ∈ allows, ∀ deny ∈ denies, deny.priority < allow.priority := by
  constructor
  · intro ⟨allow, strongest, outranks⟩
    refine ⟨allow, argmin_mem strongest, ?_⟩
    intro deny mem
    cases best : denies.argmin Policy.rankKey with
    | none =>
      rw [argmin_eq_none.mp best] at mem
      cases mem
    | some strongestDeny =>
      have bounded := priority_le_of_rankKey_le (le_of_mem_argmin mem best)
      exact lt_of_le_of_lt bounded (outranks strongestDeny best)
  · intro ⟨allow, mem, outranks⟩
    cases best : allows.argmin Policy.rankKey with
    | none =>
      rw [argmin_eq_none.mp best] at mem
      cases mem
    | some strongest =>
      refine ⟨strongest, rfl, ?_⟩
      intro deny bestDeny
      have bounded := priority_le_of_rankKey_le (le_of_mem_argmin mem best)
      exact lt_of_lt_of_le (outranks deny (argmin_mem bestDeny)) bounded

theorem exists_unoutranked {denies allows : List Policy} (nonempty : allows ≠ [])
    (refused : ¬ ∃ allow ∈ allows, ∀ deny ∈ denies, deny.priority < allow.priority) :
    ∃ deny ∈ denies, ∀ allow ∈ allows, allow.priority ≤ deny.priority := by
  cases best : allows.argmin Policy.rankKey with
  | none => exact absurd (argmin_eq_none.mp best) nonempty
  | some strongest =>
    have unranked : ¬ ∀ deny ∈ denies, deny.priority < strongest.priority := fun outranks =>
      refused ⟨strongest, argmin_mem best, outranks⟩
    simp only [not_forall, not_lt] at unranked
    have ⟨deny, mem, holds⟩ := unranked
    refine ⟨deny, mem, ?_⟩
    intro _ allowMember
    exact (priority_le_of_rankKey_le (le_of_mem_argmin allowMember best)).trans holds

theorem PolicyService.allows_iff {service : PolicyService} :
    service.Allows py request ctx ↔
      (¬ ∃ policy ∈ service.resolveEffectivePolicies request, policy.Raises py ctx) ∧
      ∃ allow ∈ firing py ctx .allow (service.resolveEffectivePolicies request),
        ∀ deny ∈ firing py ctx .deny (service.resolveEffectivePolicies request),
          deny.priority < allow.priority := by
  unfold Allows evaluateAccess evaluatePolicies
  rcases walk_spec none none with
    ⟨raises, raised, failed⟩ | ⟨quiet, found⟩
  · rw [failed]
    simp [raises]
  · rw [found, foldl_improve_eq_argmin, foldl_improve_eq_argmin, ← strongest_outranks_iff,
      ← decision_allowed_iff, and_iff_right quiet]
    constructor
    · intro ⟨reason, eq⟩
      exact congrArg Prod.fst (Except.ok.inj eq)
    · intro allowed
      exact ⟨_, congrArg Except.ok (Prod.ext allowed rfl)⟩

end Rule

end Dynastore.Iam
