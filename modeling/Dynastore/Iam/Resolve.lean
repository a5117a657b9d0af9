import Dynastore.Foundation.Dict
import Dynastore.Iam.Policy

/-! `_resolve_effective_policies` merges the policies of the roles held by name, the custom policies
of the principal, the policies of the roles granted by row and the policies granted directly. -/

namespace Dynastore.Iam

open List

/-- The arguments of `_resolve_effective_policies`; its `schema` is the one both callers
resolve from `catalogId`. -/
structure Resolution where
  principals : List String
  catalogId : Option String
  customPolicies : List Policy
  principalId : Option String
  collectionId : Option String

def GrantRow.refOf (kind : ObjectKind) (row : GrantRow) : Option String :=
  if row.objectKind = kind ∧ row.objectRef ≠ "" then some row.objectRef else none

namespace PolicyService

variable (service : PolicyService) (request : Resolution)

def schemasToCheck : List String :=
  let schema := service.resolveSchema request.catalogId
  if schema = "iam" then ["iam"] else ["iam", schema]

/-- The roles found under the names the caller passed, each with its name. -/
def flatRoles : List (String × Role) :=
  (service.schemasToCheck request).flatMap fun schema =>
    request.principals.filterMap fun principal =>
      if principal = "" then none else (service.getRole principal schema).map (principal, ·)

def resolvedRoles : List String :=
  (service.flatRoles request).map Prod.fst

/-- A Python set is iterated in insertion order here; nothing below depends on it. -/
def flatPolicies : List Policy :=
  ((service.flatRoles request).flatMap (·.2.policies)).dedup.filterMap
    (service.findPolicy request.catalogId)

def rolePolicyIds (name : String) : List String :=
  ((service.schemasToCheck request).flatMap fun schema =>
    ((service.getRole name schema).map Role.policies).getD []).dedup

/-- The rows of `resolve_effective_grants`, absent when the step is skipped or fails. -/
def grantRows : Option (List GrantRow) :=
  match request.principalId, service.iamStorage.bind (·.resolveEffectiveGrants) with
  | some principalId, some resolveGrants =>
    resolveGrants principalId (service.resolveSchema request.catalogId)
      (service.resolveCollectionInternalId request.catalogId request.collectionId)
  | _, _ => none

def roleGrantedPolicies (rows : List GrantRow) : List Policy :=
  ((Dict.firstBy (GrantRow.refOf .role) rows).filter
      (·.1 ∉ service.resolvedRoles request)).flatMap fun entry =>
    (service.rolePolicyIds request entry.1).filterMap fun id =>
      (service.findPolicy request.catalogId id).map entry.2.contribute

/-- The loop over the direct policy grants: `seen_ids` are the ids collected so far. -/
def appendGranted (catalogId : Option String) : List (String × GrantRow) → List Policy → List Policy
  | [], effective => effective
  | (id, row) :: rest, effective =>
    if effective.any (·.id = id) then appendGranted catalogId rest effective
    else
      match service.findPolicy catalogId id with
      | some policy => appendGranted catalogId rest (effective ++ [row.contribute policy])
      | none => appendGranted catalogId rest effective

def resolveEffectivePolicies : List Policy :=
  let collected := service.flatPolicies request ++ request.customPolicies
  match service.grantRows request with
  | none => collected
  | some rows =>
    service.appendGranted request.catalogId (Dict.firstBy (GrantRow.refOf .policy) rows)
      (collected ++ service.roleGrantedPolicies request rows)

/-! ## Where a resolved policy comes from -/

def HeldFlat (id : String) : Prop :=
  ∃ entry ∈ service.flatRoles request, id ∈ entry.2.policies

/-- The role is not held by name, `row` is the first of its grants and the role lists the
policy. -/
def GrantedThrough (rows : List GrantRow) (id name : String) (row : GrantRow) : Prop :=
  name ∉ service.resolvedRoles request ∧
  rows.find? (GrantRow.refOf .role · = some name) = some row ∧
  id ∈ service.rolePolicyIds request name

variable {service request}

theorem mem_flatPolicies : policy ∈ service.flatPolicies request ↔
      ∃ id, service.HeldFlat request id ∧
        service.findPolicy request.catalogId id = some policy := by
  simp [flatPolicies, HeldFlat]

theorem mem_roleGrantedPolicies :
    policy ∈ service.roleGrantedPolicies request rows ↔
      ∃ id name row, service.GrantedThrough request rows id name row ∧
        ∃ stored, service.findPolicy request.catalogId id = some stored ∧
          row.contribute stored = policy := by
  simp only [roleGrantedPolicies, mem_flatMap, mem_filter, mem_filterMap,
    Option.map_eq_some_iff, decide_eq_true_eq]
  constructor
  · rintro ⟨⟨name, row⟩, ⟨first, notFlat⟩, id, listed, stored, found, eq⟩
    exact ⟨id, name, row, ⟨notFlat, Dict.mem_firstBy.mp first, listed⟩, stored, found, eq⟩
  · rintro ⟨id, name, row, ⟨notFlat, first, listed⟩, stored, found, eq⟩
    exact ⟨(name, row), ⟨Dict.mem_firstBy.mpr first, notFlat⟩, id, listed, stored, found, eq⟩

@[simp]
theorem contribute_id (row : GrantRow) : (row.contribute policy).id = policy.id := by
  unfold GrantRow.contribute
  split <;> rfl

theorem appendGranted_eq (distinct : (entries.map Prod.fst).Nodup) (effective : List Policy) :
    service.appendGranted catalogId entries effective =
      effective ++ (entries.filter fun entry => !effective.any (·.id = entry.1)).filterMap
        fun entry => (service.findPolicy catalogId entry.1).map entry.2.contribute := by
  induction entries generalizing effective with
  | nil => simp [appendGranted]
  | cons entry rest ih =>
    obtain ⟨id, row⟩ := entry
    obtain ⟨fresh, distinct⟩ := nodup_cons.mp distinct
    rw [appendGranted]
    by_cases seen : effective.any (·.id = id)
    · rw [if_pos seen, ih distinct]
      simp [seen]
    · cases found : service.findPolicy catalogId id with
      | none =>
        simp only [ih distinct]
        simp [seen, found]
      | some stored =>
        have unhidden : ∀ other ∈ rest,
            (!(effective ++ [row.contribute stored]).any (·.id = other.1)) =
              !effective.any (·.id = other.1) := by
          intro other mem
          have ne : id ≠ other.1 := by
            intro eq
            subst eq
            exact fresh (mem_map.mpr ⟨other, mem, rfl⟩)
          simp [contribute_id, findPolicy_id found, ne]
        simp only [ih distinct, filter_congr unhidden]
        simp [seen, found]

/-- The policy is one that the grant rows add to those the caller holds without them. -/
def Grants (service : PolicyService) (request : Resolution) (policy : Policy) : Prop :=
  ∃ rows, service.grantRows request = some rows ∧
    (policy ∈ service.roleGrantedPolicies request rows ∨
      ∃ id row, rows.find? (GrantRow.refOf .policy · = some id) = some row ∧
        (∀ other ∈ service.flatPolicies request ++ request.customPolicies ++
          service.roleGrantedPolicies request rows, other.id ≠ id) ∧
        ∃ stored, service.findPolicy request.catalogId id = some stored ∧
          row.contribute stored = policy)

theorem mem_resolveEffectivePolicies_iff :
    policy ∈ service.resolveEffectivePolicies request ↔
      policy ∈ service.flatPolicies request ++ request.customPolicies ∨
      service.Grants request policy := by
  unfold Grants resolveEffectivePolicies
  cases resolved : service.grantRows request with
  | none => simp
  | some =>
    simp only
    rw [appendGranted_eq Dict.nodup_keys_firstBy]
    simp [Dict.mem_firstBy, and_assoc, or_assoc, or_imp, forall_and]

/-! ## Deny grants -/

variable (service request)

def objectPolicyIds (row : GrantRow) : List String :=
  match row.objectKind with
  | .role => service.rolePolicyIds request row.objectRef
  | .policy => [row.objectRef]
  | .other _ => []

/-- Every deny row puts a DENY copy of each stored policy it is about into the result. -/
def DenyGrantsBite : Prop :=
  ∀ rows, service.grantRows request = some rows →
    ∀ row ∈ rows, row.effect = .deny → ∀ id ∈ service.objectPolicyIds request row,
      ∀ policy, service.findPolicy request.catalogId id = some policy →
        policy.denied ∈ service.resolveEffectivePolicies request

/-- No source that is merged before the direct policy grants has the policy. -/
def Uncollected (rows : List GrantRow) (id : String) : Prop :=
  ¬ service.HeldFlat request id ∧ (∀ policy ∈ request.customPolicies, policy.id ≠ id) ∧
  ∀ name row, ¬ service.GrantedThrough request rows id name row

/-- The merges that deliver a DENY copy of a stored policy: a role held by name delivers it
only as it is stored, a granted role and a direct grant by their first row. -/
def DenyReaches (rows : List GrantRow) (policy : Policy) : Prop :=
  (policy.effect = .deny ∧ service.HeldFlat request policy.id) ∨
  policy.denied ∈ request.customPolicies ∨
  (∃ name row, service.GrantedThrough request rows policy.id name row ∧
    (row.effect = .deny ∨ policy.effect = .deny)) ∨
  ∃ row, rows.find? (GrantRow.refOf .policy · = some policy.id) = some row ∧
    (row.effect = .deny ∨ policy.effect = .deny) ∧
    service.Uncollected request rows policy.id

variable {service request}

theorem denied_eq_self {policy : Policy} : policy.denied = policy ↔ policy.effect = .deny := by
  obtain ⟨_, _, _, _, _, _⟩ := policy
  simp [Policy.denied, eq_comm]

theorem contribute_eq_denied {row : GrantRow} :
    row.contribute policy = policy.denied ↔ row.effect = .deny ∨ policy.effect = .deny := by
  unfold GrantRow.contribute
  by_cases deny : row.effect = .deny
  · simp [deny]
  · rw [if_neg deny, eq_comm, denied_eq_self]
    simp [deny]

section Stored

variable {policy : Policy} {id : String}
  (stored : service.findPolicy request.catalogId id = some policy)

include stored

theorem eq_of_contribute_eq_denied {row : GrantRow}
    (found : service.findPolicy request.catalogId otherId = some other)
    (eq : row.contribute other = policy.denied) : otherId = policy.id ∧ other = policy := by
  have sameId : other.id = policy.id := by
    rw [← contribute_id row, eq]
    rfl
  have otherId_eq : otherId = policy.id := (findPolicy_id found).symm.trans sameId
  refine ⟨otherId_eq, ?_⟩
  rw [otherId_eq, findPolicy_id stored, stored] at found
  exact (Option.some.inj found).symm

theorem denied_mem_flatPolicies : policy.denied ∈ service.flatPolicies request ↔
      policy.effect = .deny ∧ service.HeldFlat request policy.id := by
  rw [mem_flatPolicies]
  constructor
  · rintro ⟨otherId, held, found⟩
    have otherId_eq : otherId = policy.id := (findPolicy_id found).symm
    subst otherId_eq
    rw [findPolicy_id stored, stored] at found
    exact ⟨denied_eq_self.mp (Option.some.inj found).symm, held⟩
  · rintro ⟨deny, held⟩
    refine ⟨policy.id, held, ?_⟩
    rw [findPolicy_id stored, stored, denied_eq_self.mpr deny]

theorem denied_mem_roleGrantedPolicies : policy.denied ∈ service.roleGrantedPolicies request rows ↔
      ∃ name row, service.GrantedThrough request rows policy.id name row ∧
        (row.effect = .deny ∨ policy.effect = .deny) := by
  rw [mem_roleGrantedPolicies]
  constructor
  · rintro ⟨_, name, row, granted, _, found, eq⟩
    obtain ⟨rfl, rfl⟩ := eq_of_contribute_eq_denied stored found eq
    exact ⟨name, row, granted, contribute_eq_denied.mp eq⟩
  · rintro ⟨name, row, granted, deny⟩
    refine ⟨policy.id, name, row, granted, policy, ?_, contribute_eq_denied.mpr deny⟩
    rw [findPolicy_id stored, stored]

theorem uncollected_iff : (∀ other ∈ service.flatPolicies request ++ request.customPolicies ++
        service.roleGrantedPolicies request rows, other.id ≠ policy.id) ↔
      service.Uncollected request rows policy.id := by
  have storedSelf : service.findPolicy request.catalogId policy.id = some policy := by
    rw [findPolicy_id stored, stored]
  constructor
  · intro fresh
    refine ⟨?_, ?_, ?_⟩
    · intro held
      exact fresh policy (by simp [mem_flatPolicies.mpr ⟨_, held, storedSelf⟩]) rfl
    · intro custom mem
      exact fresh custom (by simp [mem])
    · intro name row granted
      have mem : row.contribute policy ∈ service.roleGrantedPolicies request rows :=
        mem_roleGrantedPolicies.mpr ⟨_, name, row, granted, policy, storedSelf, rfl⟩
      exact fresh _ (by simp [mem]) (contribute_id row)
  · rintro ⟨notHeld, notCustom, notGranted⟩ other mem same
    simp only [mem_append] at mem
    rcases mem with (mem | mem) | mem
    · obtain ⟨otherId, held, found⟩ := mem_flatPolicies.mp mem
      rw [← findPolicy_id found, same] at held
      exact notHeld held
    · exact notCustom other mem same
    · obtain ⟨_, name, row, granted, _, found, rfl⟩ := mem_roleGrantedPolicies.mp mem
      rw [contribute_id, findPolicy_id found] at same
      exact notGranted name row (same ▸ granted)

theorem denied_mem_resolveEffectivePolicies (resolved : service.grantRows request = some rows) :
    policy.denied ∈ service.resolveEffectivePolicies request ↔
      service.DenyReaches request rows policy := by
  rw [mem_resolveEffectivePolicies_iff, mem_append, or_assoc, denied_mem_flatPolicies stored]
  simp only [Grants, resolved, Option.some.injEq, exists_eq_left',
    denied_mem_roleGrantedPolicies stored]
  refine or_congr_right (or_congr_right (or_congr_right ⟨?_, ?_⟩))
  · rintro ⟨_, row, first, fresh, _, found, eq⟩
    obtain ⟨rfl, rfl⟩ := eq_of_contribute_eq_denied stored found eq
    exact ⟨row, first, contribute_eq_denied.mp eq, (uncollected_iff stored).mp fresh⟩
  · rintro ⟨row, first, deny, uncollected⟩
    refine ⟨policy.id, row, first, (uncollected_iff stored).mpr uncollected, policy, ?_,
      contribute_eq_denied.mpr deny⟩
    rw [findPolicy_id stored, stored]

end Stored

variable (service request) in
/-- A deny grant bites exactly where one of the merges delivers the DENY copy. -/
theorem denyGrantsBite_iff : service.DenyGrantsBite request ↔
      ∀ rows, service.grantRows request = some rows →
        ∀ row ∈ rows, row.effect = .deny → ∀ id ∈ service.objectPolicyIds request row,
          ∀ policy, service.findPolicy request.catalogId id = some policy →
            service.DenyReaches request rows policy := by
  constructor
  · intro bites rows resolved row mem deny id about policy stored
    exact (denied_mem_resolveEffectivePolicies stored resolved).mp
      (bites rows resolved row mem deny id about policy stored)
  · intro reaches rows resolved row mem deny id about policy stored
    exact (denied_mem_resolveEffectivePolicies stored resolved).mpr
      (reaches rows resolved row mem deny id about policy stored)

end PolicyService

/-! A platform with one role `editor` that lists one policy `read`, stored as ALLOW. -/

def readPolicy : Policy :=
  { id := "read", effect := .allow, priority := 0, actions := ["GET"], resources := ["/"],
    conditions := [] }

def grantOf (objectKind : ObjectKind) (objectRef : String) (effect : Effect) : GrantRecord :=
  { subjectKind := "principal", subjectRef := "u1", objectKind, objectRef, effect,
    validFrom := 0, validUntil := none, resourceKind := none, resourceRef := none }

def editorPlatform (grants : List GrantRecord) : PolicyService where
  iamStorage := some <| postgresIamStorage
    (fun name schema =>
      if name = "editor" ∧ schema = "iam" then some ⟨"editor", ["read"]⟩ else none)
    (fun schema => if schema = "iam" then grants else []) 1
  storedPolicy id schema partitionKey :=
    if id = "read" ∧ schema = "iam" ∧ partitionKey = "global" then some readPolicy else none
  storedPolicy_id := by
    intro id schema partitionKey policy found
    split at found
    next here =>
      rw [← Option.some.inj found, here.1]
      rfl
    · cases found
  physicalSchema _ := none
  internalCollectionId _ _ := none

def platformRequest (principals : List String) : Resolution :=
  { principals, catalogId := none, customPolicies := [], principalId := some "u1",
    collectionId := none }

theorem not_bite_of_resolved
    (read : (editorPlatform grants).grantRows (platformRequest principals) = some rows)
    (mem : row ∈ rows) (deny : row.effect = .deny)
    (about : "read" ∈ (editorPlatform grants).objectPolicyIds (platformRequest principals) row)
    (resolved : (editorPlatform grants).resolveEffectivePolicies (platformRequest principals) =
      [readPolicy]) : ¬ (editorPlatform grants).DenyGrantsBite (platformRequest principals) := by
  intro bites
  have delivered := bites rows read row mem deny "read" about readPolicy rfl
  rw [resolved] at delivered
  simp [Policy.denied, readPolicy] at delivered

/-- A role held by name, an earlier allow row and a policy collected before each shadow a
deny row. -/
theorem deny_grant_shadowed : ¬ (editorPlatform [grantOf .role "editor" .deny]).DenyGrantsBite
        (platformRequest ["editor"]) ∧
    ¬ (editorPlatform [grantOf .role "editor" .allow, grantOf .role "editor" .deny]).DenyGrantsBite
        (platformRequest []) ∧
    ¬ (editorPlatform [grantOf .policy "read" .deny]).DenyGrantsBite
        (platformRequest ["editor"]) :=
  ⟨not_bite_of_resolved rfl (List.Mem.head _) rfl (by decide) rfl,
    not_bite_of_resolved rfl (List.Mem.tail _ (List.Mem.head _)) rfl (by decide) rfl,
    not_bite_of_resolved rfl (List.Mem.head _) rfl (by decide) rfl⟩

end Dynastore.Iam
