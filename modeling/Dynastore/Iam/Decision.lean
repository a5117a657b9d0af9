import Dynastore.Iam.Evaluate

/-! The walk of the engine keeps a best policy for either effect. What it decides, and the policy it
names, is a function of the set of policies that fire. -/

namespace Dynastore.Iam

/-- Every handler of the request answers, as handlers without side conditions do. -/
def EvaluationContext.Answers (ctx : EvaluationContext) : Prop :=
  ∀ type effect config, ∃ answer, ctx.handlers type effect config = .ok answer

section Order

variable {py : Python} {ctx : EvaluationContext} {effect : Effect}

theorem exists_evaluateMatch :
    ∃ holds, evaluateMatch py ctx effect attrPath operator expected = .ok holds := by
  unfold evaluateMatch
  split
  · split
    · split
      · exact ⟨false, rfl⟩
      · unfold compare compareBy
        split
        all_goals first | exact ⟨_, rfl⟩ | split <;> exact ⟨_, rfl⟩
    · exact ⟨false, rfl⟩
  · exact ⟨true, rfl⟩

mutual

theorem exists_evaluateCondition (answers : ctx.Answers) :
    ∀ condition, ∃ holds, evaluateCondition py ctx effect condition = .ok holds
  | .catalogLookupPublicAllowed | .negationOfNothing => ⟨_, rfl⟩
  | .attributeMatch .. => exists_evaluateMatch ..
  | .conjunction conditions => exists_evaluateAll answers conditions
  | .disjunction conditions => by
    rw [evaluateCondition]
    split
    · exact ⟨true, rfl⟩
    · exact exists_evaluateAny answers conditions
  | .negation condition => by
    obtain ⟨holds, evaluated⟩ := exists_evaluateCondition answers condition
    rw [evaluateCondition, evaluated]
    exact ⟨!holds, rfl⟩
  | .other type config => answers type effect config

theorem exists_evaluateAll (answers : ctx.Answers) :
    ∀ conditions, ∃ holds, evaluateAll py ctx effect conditions = .ok holds
  | [] => ⟨true, rfl⟩
  | condition :: rest => by
    obtain ⟨holds, evaluated⟩ := exists_evaluateCondition answers condition
    rw [evaluateAll, evaluated]
    cases holds with
    | true => exact exists_evaluateAll answers rest
    | false => exact ⟨false, rfl⟩

theorem exists_evaluateAny (answers : ctx.Answers) :
    ∀ conditions, ∃ holds, evaluateAny py ctx effect conditions = .ok holds
  | [] => ⟨false, rfl⟩
  | condition :: rest => by
    obtain ⟨holds, evaluated⟩ := exists_evaluateCondition answers condition
    rw [evaluateAny, evaluated]
    cases holds with
    | true => exact ⟨true, rfl⟩
    | false => exact exists_evaluateAny answers rest

end

theorem map_argmin_congr [LinearOrder β] (rank : α → β) {left right : List α}
    (same : ∀ element, element ∈ left ↔ element ∈ right) :
    (left.argmin rank).map rank = (right.argmin rank).map rank := by
  cases best : left.argmin rank with
  | none =>
    have empty : right = [] := by
      rw [List.argmin_eq_none] at best
      simpa [best, List.eq_nil_iff_forall_not_mem] using same
    simp [empty]
  | some strongest =>
    have mem := (same strongest).mp (List.argmin_mem best)
    cases best' : right.argmin rank with
    | none =>
      rw [List.argmin_eq_none.mp best'] at mem
      cases mem
    | some strongest' =>
      have member' := (same strongest').mpr (List.argmin_mem best')
      exact congrArg some (le_antisymm (List.le_of_mem_argmin member' best)
        (List.le_of_mem_argmin mem best'))

theorem ranked_alike (keys : best.map Policy.rankKey = best'.map Policy.rankKey) :
    (best = none ∧ best' = none) ∨ ∃ policy policy', best = some policy ∧ best' = some policy' ∧
      policy.priority = policy'.priority ∧ policy.id = policy'.id := by
  cases best with
  | none =>
    rw [Option.map_none, eq_comm, Option.map_eq_none_iff] at keys
    exact .inl ⟨rfl, keys⟩
  | some policy =>
    rw [Option.map_some, eq_comm, Option.map_eq_some_iff] at keys
    obtain ⟨policy', rfl, eq⟩ := keys
    have pairs := Prod.mk.inj (toLex.injective eq)
    exact .inr ⟨policy, policy', rfl, rfl, (Int.neg_inj.mp pairs.1).symm, pairs.2.symm⟩

/-- The decision reads nothing but the keys that the walk compares. -/
theorem decision_congr (denies : bestDeny.map Policy.rankKey = bestDeny'.map Policy.rankKey)
    (allows : bestAllow.map Policy.rankKey = bestAllow'.map Policy.rankKey) :
    decision bestDeny bestAllow = decision bestDeny' bestAllow' := by
  rcases ranked_alike denies with ⟨rfl, rfl⟩ | ⟨_, _, rfl, rfl, denyPriority, denyId⟩ <;>
  rcases ranked_alike allows with ⟨rfl, rfl⟩ | ⟨_, _, rfl, rfl, allowPriority, allowId⟩
  · rfl
  · simp [decision, allowReason, allowId]
  · simp [decision, denyReason, denyId]
  · simp [decision, denyReason, allowReason, denyPriority, denyId, allowPriority, allowId]

end Order

theorem evaluatePolicies_eq (answers : ctx.Answers) (policies : List Policy) :
    evaluatePolicies py ctx policies =
      .ok (decision ((firing py ctx .deny policies).argmin Policy.rankKey)
        ((firing py ctx .allow policies).argmin Policy.rankKey)) := by
  rcases walk_spec none none with ⟨⟨policy, _, _, raised, failed⟩, _⟩ | ⟨-, found⟩
  · obtain ⟨holds, evaluated⟩ : ∃ holds, evaluateAll py ctx policy.effect policy.conditions =
        .ok holds := exists_evaluateAll answers policy.conditions
    rw [evaluated] at failed
    cases failed
  · rw [evaluatePolicies, found, foldl_improve_eq_argmin, foldl_improve_eq_argmin]

/-- Access is allowed exactly if an ALLOW that fires outranks every DENY that does, and neither
the decision nor the policy it names depends on the order of the policies or on repetitions. -/
theorem decision_rule (py : Python) (ctx : EvaluationContext) (answers : ctx.Answers)
    (policies : List Policy) :
    ∃ decided, evaluatePolicies py ctx policies = .ok decided ∧ (decided.1 = true ↔
        ∃ allow ∈ policies, (allow.effect = .allow ∧ allow.fires py ctx = true) ∧
          ∀ deny ∈ policies, deny.effect = .deny → deny.fires py ctx = true →
            deny.priority < allow.priority) ∧
      ∀ others : List Policy, (∀ policy, policy ∈ others ↔ policy ∈ policies) →
        evaluatePolicies py ctx others = .ok decided := by
  refine ⟨_, evaluatePolicies_eq answers policies, ?_, ?_⟩
  · rw [decision_allowed_iff, strongest_outranks_iff]
    simp [firing, and_assoc, and_comm]
  · intro others same
    rw [evaluatePolicies_eq answers others]
    congr 1
    apply decision_congr
    · apply map_argmin_congr
      simp [firing, same]
    · apply map_argmin_congr
      simp [firing, same]

def plainRequest : EvaluationContext where
  path := "/stac/catalogs/c1"
  method := "GET"
  queryParams := []
  headers := []
  principalId := none
  catalogId := some "c1"
  principalAttributes := some []
  extras := []
  lookupAudience _ := none
  handlers _ _ _ := .ok true

def catalogPolicy (id : String) (effect : Effect) (priority : Int) : Policy :=
  ⟨id, effect, priority, ["GET"], ["/stac"], []⟩

theorem decision_rule_catalogPolicy : plainRequest.Answers ∧ ∃ decided,
      evaluatePolicies .literal plainRequest
        [catalogPolicy "a" .deny 0, catalogPolicy "b" .allow 1] = .ok decided ∧
      decided.1 = true := by
  have answers : plainRequest.Answers := fun _ _ _ => ⟨true, rfl⟩
  obtain ⟨decided, evaluated, allowed, -⟩ := decision_rule .literal plainRequest answers
    [catalogPolicy "a" .deny 0, catalogPolicy "b" .allow 1]
  refine ⟨answers, decided, evaluated, allowed.mpr ?_⟩
  refine ⟨catalogPolicy "b" .allow 1, by simp, ⟨rfl, by decide⟩, ?_⟩
  simp [catalogPolicy]

end Dynastore.Iam
