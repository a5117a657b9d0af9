import Mathlib.Data.List.Basic

/-! Once the primary has committed, the other WRITE drivers are written to, all at once. If one of
them is fatal and fails, the batch is deleted from those that succeeded and can roll back; what they
held before under the same ids is deleted with it. -/

namespace Dynastore.Ingest.FanOut

open List

variable {Entity : Type}

structure Written (Entity : Type) where
  id : String
  entity : Entity

/-- What a driver holds, under ids or, for features without one, under ids of its
own. -/
@[ext] structure Contents (Entity : Type) where
  named : String → Option Entity
  unnamed : List Entity

def Contents.write (contents : Contents Entity) (feature : Written Entity) : Contents Entity :=
  if feature.id = "" then { contents with unnamed := contents.unnamed ++ [feature.entity] }
  else { contents with named := Function.update contents.named feature.id (some feature.entity) }

def Contents.deleteEntities (contents : Contents Entity) (ids : List String) : Contents Entity :=
  { contents with named := fun id => if id ∈ ids then none else contents.named id }

/-- A resolved driver, and how its calls go: `write` is the exception of
`write_entities` with what it leaves behind, `deletes` is whether
`delete_entities` succeeds. -/
structure ResolvedDriver (Entity : Type) where
  indexesItems : Bool := false
  fatal : Bool := false
  transactional : Bool := true
  held : Contents Entity
  write : Option (String × Contents Entity) := none
  deletes : Bool := true

def ResolvedDriver.succeeded (driver : ResolvedDriver Entity) : Bool := driver.write.isNone

def ResolvedDriver.writeEntities (driver : ResolvedDriver Entity)
    (features : List (Written Entity)) : Contents Entity :=
  match driver.write with
  | some (_, left) => left
  | none => features.foldl Contents.write driver.held

def entityIds (features : List (Written Entity)) : List String :=
  (features.filter fun feature => feature.id ≠ "").map Written.id

def compensateDriver (features : List (Written Entity)) (driver : ResolvedDriver Entity)
    (contents : Contents Entity) : Contents Entity :=
  if driver.succeeded && driver.transactional && driver.deletes then
    contents.deleteEntities (entityIds features)
  else contents

/-- The drivers that are written to, position 0 apart if it is the primary. -/
def secondaries (resolved : List (ResolvedDriver Entity)) (primaryAlreadyWritten : Bool) :
    List (ResolvedDriver Entity) :=
  (if primaryAlreadyWritten then resolved.drop 1 else resolved).filter fun driver =>
    !driver.indexesItems

def firstFatal (drivers : List (ResolvedDriver Entity)) : Option String :=
  (drivers.find? fun driver => driver.fatal && !driver.succeeded).bind fun driver =>
    driver.write.map Prod.fst

def fanOutToSecondaryDrivers (resolved : List (ResolvedDriver Entity))
    (features : List (Written Entity)) (primaryAlreadyWritten : Bool) :
    List (ResolvedDriver Entity × Contents Entity) × Option String :=
  let drivers := secondaries resolved primaryAlreadyWritten
  match firstFatal drivers with
  | none => (drivers.map fun driver => (driver, driver.writeEntities features), none)
  | some exception =>
    (drivers.map fun driver =>
      (driver, compensateDriver features driver (driver.writeEntities features)), some exception)

theorem named_foldl_write {id : String} (unwritten : id ∉ entityIds features) :
    (features.foldl Contents.write contents).named id = contents.named id := by
  induction features generalizing contents with
  | nil => rfl
  | cons _ features ih =>
    have later : id ∉ entityIds features := by
      intro mem
      apply unwritten
      rw [entityIds, filter_cons]
      split
      · exact .tail _ mem
      · exact mem
    rw [foldl_cons, ih later, Contents.write]
    split
    · rfl
    next named =>
      apply Function.update_of_ne
      rintro rfl
      exact unwritten (mem_map_of_mem (mem_filter.mpr ⟨mem_cons_self, by simpa using named⟩))

theorem unnamed_foldl_write (features : List (Written Entity)) :
    (features.foldl Contents.write contents).unnamed =
      contents.unnamed ++ (features.filter fun feature => feature.id = "").map Written.entity := by
  induction features generalizing contents with
  | nil => simp
  | cons feature _ ih =>
    rw [foldl_cons, ih, Contents.write]
    by_cases unnamed : feature.id = "" <;> simp [unnamed]

/-- Deleting the batch undoes the write exactly where each of its features has an
id that was new to the driver. -/
theorem deleteEntities_write_eq_iff (features : List (Written Entity)) :
    (features.foldl Contents.write contents).deleteEntities (entityIds features) = contents ↔
      ∀ feature ∈ features, feature.id ≠ "" ∧ contents.named feature.id = none := by
  have unnamed : (features.foldl Contents.write contents).unnamed = contents.unnamed ↔
      ∀ feature ∈ features, feature.id ≠ "" := by
    rw [unnamed_foldl_write]
    simp
  constructor
  · intro restored feature mem
    have sameUnnamed : _ = contents.unnamed := congrArg Contents.unnamed restored
    have named := unnamed.mp sameUnnamed feature mem
    have listed : feature.id ∈ entityIds features :=
      mem_map_of_mem (mem_filter.mpr ⟨mem, by simpa using named⟩)
    refine ⟨named, ?_⟩
    rw [← restored]
    exact if_pos listed
  · intro new
    refine Contents.ext (funext fun id => ?_) (unnamed.mpr fun feature mem =>
      (new feature mem).1)
    by_cases listed : id ∈ entityIds features
    · obtain ⟨feature, mem, rfl⟩ := mem_map.mp listed
      rw [(new feature (mem_of_mem_filter mem)).2]
      exact if_pos listed
    · exact (if_neg listed).trans (named_foldl_write listed)

/-- Every driver that succeeded and can roll back holds what it held before. -/
def Restores (resolved : List (ResolvedDriver Entity)) (features : List (Written Entity))
    (primaryAlreadyWritten : Bool) : Prop :=
  ∀ entry ∈ (fanOutToSecondaryDrivers resolved features primaryAlreadyWritten).1,
    entry.1.succeeded = true → entry.1.transactional = true → entry.2 = entry.1.held

/-- The call raises and every compensating delete succeeds: the drivers that can
roll back hold what they held before exactly where the batch was new to them. -/
theorem compensation_restores_iff (resolved : List (ResolvedDriver Entity))
    (features : List (Written Entity)) (primaryAlreadyWritten : Bool)
    (raised : (fanOutToSecondaryDrivers resolved features primaryAlreadyWritten).2.isSome = true)
    (deletes : ∀ driver ∈ secondaries resolved primaryAlreadyWritten, driver.deletes = true) :
    Restores resolved features primaryAlreadyWritten ↔
      ∀ driver ∈ secondaries resolved primaryAlreadyWritten, driver.succeeded = true →
        driver.transactional = true →
          ∀ feature ∈ features, feature.id ≠ "" ∧ driver.held.named feature.id = none := by
  rw [Restores, fanOutToSecondaryDrivers]
  rw [fanOutToSecondaryDrivers] at raised
  cases fatal : firstFatal (secondaries resolved primaryAlreadyWritten) with
  | none =>
    rw [fatal] at raised
    cases raised
  | some =>
    simp only [forall_mem_map]
    refine forall₂_congr fun driver mem => forall₂_congr fun succeeded transactional => ?_
    rw [← deleteEntities_write_eq_iff, compensateDriver, succeeded, transactional,
      deletes driver mem, ResolvedDriver.writeEntities, Option.isNone_iff_eq_none.mp succeeded]
    rfl

def oneHeld (held : Option Nat) : List (ResolvedDriver Nat) :=
  [{ held := ⟨fun _ => none, []⟩ }, { held := ⟨fun id => if id = "a" then held else none, []⟩ },
    { fatal := true, held := ⟨fun _ => none, []⟩,
      write := some ("TimeoutError", ⟨fun _ => none, []⟩) }]

/-- Two entities, one of them twice in the batch, are new to a driver that holds another. -/
def newEntities : List (Written Nat) := [⟨"b", 2⟩, ⟨"c", 3⟩, ⟨"b", 4⟩]

theorem compensation_restores_new_entities :
    (fanOutToSecondaryDrivers (oneHeld (some 1)) newEntities true).2 = some "TimeoutError" ∧
      Restores (oneHeld (some 1)) newEntities true :=
  ⟨rfl, (compensation_restores_iff (oneHeld (some 1)) newEntities true rfl (by
    simp [oneHeld, secondaries])).mpr (by
    simp [oneHeld, secondaries, ResolvedDriver.succeeded, newEntities])⟩

/-- The batch overwrites an entity that the driver had. -/
theorem overwritten_entity_deleted :
    ¬ ∀ (resolved : List (ResolvedDriver Nat)) (features : List (Written Nat))
        (primaryAlreadyWritten : Bool),
      (fanOutToSecondaryDrivers resolved features primaryAlreadyWritten).2.isSome = true →
      (∀ driver ∈ secondaries resolved primaryAlreadyWritten, driver.deletes = true) →
      Restores resolved features primaryAlreadyWritten := by
  intro restores
  have same := restores (oneHeld (some 1)) [⟨"a", 2⟩] true rfl (by simp [oneHeld, secondaries])
    _ (.head _) rfl rfl
  have held := congrFun (congrArg Contents.named same) "a"
  cases held

end Dynastore.Ingest.FanOut
