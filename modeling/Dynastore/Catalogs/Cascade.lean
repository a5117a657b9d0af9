import Dynastore.Foundation.Value

/-! What a catalog or a collection has outside the database belongs to resource owners. Before its
rows go, each owner describes what it holds for the scope, and a task of its own carries the
descriptions and hands them back to the owners, as often as one of them asks for it. -/

namespace Dynastore.Catalogs

open Option

inductive ResourceScope where
  | catalog | collection | asset | item
deriving DecidableEq

structure ScopeRef where
  scope : ResourceScope
  catalogId : String
  collectionId : Option String
  assetId : Option String
  itemId : Option String
deriving DecidableEq

def ScopeRef.ofCatalog (catalogId : String) : ScopeRef :=
  ⟨.catalog, catalogId, none, none, none⟩

def ScopeRef.ofCollection (catalogId collectionId : String) : ScopeRef :=
  ⟨.collection, catalogId, some collectionId, none, none⟩

inductive CleanupMode where
  | soft | hard
deriving DecidableEq

inductive CleanupOutcome where
  | done | retry | dead
deriving DecidableEq

/-- An external resource. `retryCount` is the entry `_retry_count` of its metadata. -/
structure CleanupRef where
  kind : String
  locator : String
  ownerId : String
  metadata : List (String × Value)
  retryCount : Nat
deriving DecidableEq

def CleanupRef.identity (ref : CleanupRef) : String × String × String :=
  (ref.kind, ref.locator, ref.ownerId)

structure ResourceOwner where
  ownerId : String
  supportedScopes : List ResourceScope

/-- What the owner of an id answers to `describe_scope`; nothing where it raises. -/
abbrev Describe := String → ScopeRef → Option (List CleanupRef)

/-! ## Describing a scope -/

section Describing

variable (registry : List ResourceOwner) (describe : Describe) (scopeRef : ScopeRef)

def ownersForScope (scope : ResourceScope) : List ResourceOwner :=
  registry.filter fun owner => scope ∈ owner.supportedScopes

def snapshot : Option (List CleanupRef) :=
  ((ownersForScope registry scopeRef.scope).mapM fun owner =>
    describe owner.ownerId scopeRef).map List.flatten

/-- The refs that owners describe, whether or not anybody asks all of them. -/
def described : List CleanupRef :=
  (ownersForScope registry scopeRef.scope).flatMap fun owner =>
    (describe owner.ownerId scopeRef).getD []

end Describing

theorem flatten_of_mapM {items : List Item} (all : items.mapM ask = some answers) :
    answers.flatten = items.flatMap fun item => (ask item).getD [] := by
  induction items generalizing answers with
  | nil =>
    cases all
    rfl
  | cons _ _ ih =>
    simp only [List.mapM_cons, bind_eq_bind, bind_eq_some_iff, pure_def, some.injEq] at all
    obtain ⟨_, asked, _, askedRest, rfl⟩ := all
    rw [List.flatten_cons, List.flatMap_cons, asked, ih askedRest, getD_some]

theorem described_of_snapshot (taken : snapshot registry describe scopeRef = some refs) :
    described registry describe scopeRef = refs := by
  obtain ⟨_, all, rfl⟩ := map_eq_some_iff.mp taken
  exact (flatten_of_mapM all).symm

/-! ## The task -/

inductive CascadeStatus where
  | unfinished | completed | deadLetter
deriving DecidableEq

/-- A row of task type `cascade_cleanup`. `origin` is the transaction during which it was
inserted, which nothing reads. -/
structure CascadeTask where
  scopeRef : ScopeRef
  mode : CleanupMode
  refs : List CleanupRef
  status : CascadeStatus
  origin : Nat

def maxRefRetries : Nat := 5

namespace CascadeTask

variable (registry : List ResourceOwner)
  (cleanupOne : CleanupRef → CleanupMode → Option CleanupOutcome) (task : CascadeTask)

def reaches (ref : CleanupRef) : Bool :=
  decide (ref.retryCount < maxRefRetries) && registry.any (·.ownerId = ref.ownerId)

/-- An owner that raises is asked again, as one that asks for it. -/
def outcome (ref : CleanupRef) : CleanupOutcome :=
  if reaches registry ref then (cleanupOne ref task.mode).getD .retry else .dead

/-- The refs that a run calls `cleanup_one` on. -/
def calls : List CleanupRef :=
  task.refs.filter (reaches registry)

def updated (ref : CleanupRef) : CleanupRef :=
  match task.outcome registry cleanupOne ref with
  | .retry => { ref with retryCount := ref.retryCount + 1 }
  | .done | .dead => ref

def outcomes : List CleanupOutcome :=
  task.refs.map (task.outcome registry cleanupOne)

/-- The new counts are written back as well as can be; `persisted` is whether they were. -/
def persistUpdatedRefs (persisted : Bool) : List CleanupRef :=
  if persisted then task.refs.map (task.updated registry cleanupOne) else task.refs

def run (persisted : Bool) : CascadeTask :=
  if .retry ∈ task.outcomes registry cleanupOne then
    { task with refs := task.persistUpdatedRefs registry cleanupOne persisted }
  else if .dead ∈ task.outcomes registry cleanupOne then { task with status := .deadLetter }
  else { task with status := .completed }

def Carries (refs : List CleanupRef) : Prop :=
  ∀ ref ∈ refs, ∃ carried ∈ task.refs, carried.identity = ref.identity
deriving Decidable

variable {registry cleanupOne task}

@[simp] theorem identity_updated :
    (task.updated registry cleanupOne ref).identity = ref.identity := by
  unfold updated
  split <;> rfl

@[simp] theorem scopeRef_run :
    (task.run registry cleanupOne persisted).scopeRef = task.scopeRef := by
  unfold run
  split
  · rfl
  · split <;> rfl

@[simp] theorem origin_run : (task.run registry cleanupOne persisted).origin = task.origin := by
  unfold run
  split
  · rfl
  · split <;> rfl

theorem Carries.run {refs : List CleanupRef} (carries : task.Carries refs) (persisted : Bool) :
    (task.run registry cleanupOne persisted).Carries refs := by
  unfold CascadeTask.run
  split
  · intro ref mem
    obtain ⟨carried, held, same⟩ := carries ref mem
    cases persisted with
    | false => exact ⟨carried, held, same⟩
    | true =>
      exact ⟨task.updated registry cleanupOne carried, List.mem_map_of_mem held,
        (identity_updated).trans same⟩
  · split
    · exact carries
    · exact carries

end CascadeTask

end Dynastore.Catalogs
