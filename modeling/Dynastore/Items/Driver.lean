import Dynastore.Foundation.Dict
import Dynastore.Items.Query

/-! The sidecars of `pg_sidecars` with what the query optimizer asks of each: the fields it makes
queryable and those it resolves on demand. From them `DriverConfig.collection` builds the collection
that requests are validated and analysed on. A field is an expression over the columns of one table,
which its alias names. -/

namespace Dynastore.Items

open List

/-- `FeatureAttributeSidecarConfig`; an identity column is there where it is named. -/
structure AttributesConfig where
  assetIdField : Option String
  externalIdField : Option String
  attributeSchema : List String
  jsonb : Bool
  jsonbColumnName : String
  jsonbIndexedPaths : List (String × String)
  enableValidity : Bool
  columnarStats : List String
  jsonbStats : Bool

structure GeometryStat where
  name : String
  centroid : Bool

structure GeometriesConfig where
  geomColumn : String
  bboxColumn : Option String
  writeBbox : Bool
  h3Resolutions : List Nat
  s2Resolutions : List Nat
  columnarStats : List GeometryStat
  jsonbStats : Bool

/-- The STAC sidecar comes with an extension, which need not be loaded. -/
inductive SidecarConfig where
  | attributes (config : AttributesConfig)
  | geometries (config : GeometriesConfig)
  | itemMetadata
  | stacMetadata (loaded : Bool)
  | accessEnvelope (columnName : String)

namespace SidecarConfig

def plainSidecar (sidecarId : String) : Sidecar where
  sidecarId := sidecarId
  accessEnvelope := false
  registered := true
  serves := none
  mainGeometry := false
  defaultSort := false
  providesFeatureId := false
  envelopeRegistered envelope := absurd envelope Bool.false_ne_true

def sidecar : SidecarConfig → Sidecar
  | attributes config =>
    { plainSidecar "attributes" with
      defaultSort := config.externalIdField.isSome
      providesFeatureId := config.externalIdField.isSome }
  | geometries _ => { plainSidecar "geometries" with mainGeometry := true }
  | itemMetadata => plainSidecar "item_metadata"
  | stacMetadata loaded =>
    { plainSidecar "stac_metadata" with
      registered := loaded
      serves := some [.stac]
      envelopeRegistered := fun envelope => absurd envelope Bool.false_ne_true }
  | accessEnvelope _ =>
    { plainSidecar "access_envelope" with
      accessEnvelope := true
      envelopeRegistered := fun _ => ⟨rfl, rfl⟩ }

def sidecarId (config : SidecarConfig) : String := config.sidecar.sidecarId

def hasValidity : SidecarConfig → Bool
  | attributes config => config.enableValidity
  | _ => false

/-- The alias in the expressions of a sidecar's fields: that of its join, but for the
envelope, which calls itself `ae`. -/
def fieldAlias (config : SidecarConfig) : String :=
  if config.sidecar.accessEnvelope then "ae" else config.sidecar.joinAlias

/-! ## Fields -/

def field (config : SidecarConfig) (name sqlExpression : String) : FieldDef :=
  { name, sidecarId := config.sidecarId, tableAlias := config.fieldAlias, sqlExpression
    aggregations := none, transformations := none
    filterable := true, sortable := false, groupable := false }

def sortableField (config : SidecarConfig) (name sqlExpression : String) : FieldDef :=
  { config.field name sqlExpression with sortable := true }

def groupableField (config : SidecarConfig) (name sqlExpression : String) : FieldDef :=
  { config.sortableField name sqlExpression with groupable := true }

def transactionTime (config : SidecarConfig) : FieldDef :=
  { config.sortableField "transaction_time" "transaction_time" with tableAlias := "h" }

def numericAggregations : List String := ["count", "sum", "avg", "min", "max"]

/-- `FeatureAttributeSidecar.get_queryable_fields`; a field with an alias is listed under
both names. -/
def attributeFields (own : AttributesConfig) : List FieldDef :=
  let config := attributes own
  (own.assetIdField.toList.map fun column => config.groupableField column column) ++
    (own.externalIdField.toList.flatMap fun column =>
      [config.groupableField column column, config.groupableField "id" column]) ++
    (own.attributeSchema.map fun column => config.groupableField column column) ++
    (if own.enableValidity then
      [config.sortableField "start_datetime" "lower(validity)",
        config.sortableField "end_datetime" "upper(validity)",
        config.sortableField "validity" "validity"]
    else []) ++
    [config.transactionTime] ++
    own.columnarStats.map fun column =>
      { config.groupableField column column with aggregations := some numericAggregations }

def cellField (own : GeometriesConfig) (column : String) : FieldDef :=
  { (geometries own).groupableField column column with
    aggregations := some ["count", "array_agg"], transformations := some [] }

def geometryFields (own : GeometriesConfig) : List FieldDef :=
  let config := geometries own
  let bboxSource := if own.writeBbox then own.bboxColumn.getD "None" else "geom"
  [config.field own.geomColumn own.geomColumn, config.field "geom" own.geomColumn,
      config.field "geometry" own.geomColumn] ++
    (own.bboxColumn.toList.map fun column => config.field "bbox" column) ++
    (own.h3Resolutions.map fun resolution => cellField own s!"h3_res{resolution}") ++
    (own.s2Resolutions.map fun resolution => cellField own s!"s2_res{resolution}") ++
    (own.columnarStats.map fun stat =>
      if stat.centroid then config.field stat.name stat.name
      else { config.sortableField stat.name stat.name with
        aggregations := some numericAggregations }) ++
    [config.sortableField "bbox_xmin" s!"ST_XMin({bboxSource})",
      config.sortableField "bbox_ymin" s!"ST_YMin({bboxSource})",
      config.sortableField "bbox_xmax" s!"ST_XMax({bboxSource})",
      config.sortableField "bbox_ymax" s!"ST_YMax({bboxSource})",
      config.transactionTime]

def getQueryableFields : SidecarConfig → List FieldDef
  | attributes config => attributeFields config
  | geometries config => geometryFields config
  | itemMetadata =>
    [itemMetadata.field "item_title" "title", itemMetadata.field "item_description" "description"]
  | stacMetadata loaded =>
    if loaded then [(stacMetadata loaded).field "external_extensions" "external_extensions"]
    else []
  | accessEnvelope columnName => [(accessEnvelope columnName).field columnName columnName]

def jsonExpression (own : AttributesConfig) (name : String) : String :=
  if name = own.jsonbColumnName then own.jsonbColumnName
  else
    match own.jsonbIndexedPaths.lookup name with
    | some castType => s!"({own.jsonbColumnName}->>'{name}')::{castType}"
    | none =>
      if name.startsWith "properties." then
        s!"{own.jsonbColumnName}->>'{name.drop 11}'"
      else s!"{own.jsonbColumnName}->>'{name}'"

def getDynamicFieldDefinition (config : SidecarConfig) (name : String) : Option FieldDef :=
  match config with
  | attributes own =>
    if own.jsonb then
      some { config.groupableField name (jsonExpression own name) with
        aggregations := some ["count", "array_agg"] }
    else none
  | _ => none

def jsonbPropertyField (config : SidecarConfig) (name pgType : String) : Option FieldDef :=
  match config with
  | attributes own =>
    if own.jsonb then
      some (config.groupableField name s!"({own.jsonbColumnName}->>'{name}')::{pgType}")
    else none
  | _ => none

end SidecarConfig

/-! ## The configuration of a collection -/

/-- A field of the items schema, with the type its values are cast to. -/
structure SchemaField where
  name : String
  readable : Bool
  materialized : Bool
  pgType : String

/-- `ItemsPostgresqlDriverConfig` with the items schema. The list of sidecars is derived by
`_effective_sidecars` and has no two of one type. -/
structure DriverConfig where
  sidecars : List SidecarConfig
  partitionKeys : List String
  schemaFields : List SchemaField
  parseCql : String → Except String (Option RawCondition)
  distinct : (sidecars.map SidecarConfig.sidecarId).Nodup

namespace DriverConfig

variable (config : DriverConfig)

def resolveValidityAlias : Option String :=
  if "validity" ∈ config.partitionKeys then some "h"
  else (config.sidecars.find? SidecarConfig.hasValidity).map (·.sidecar.joinAlias)

def assignField (index : List (String × FieldDef)) (field : FieldDef) : List (String × FieldDef) :=
  Dict.assign index field.name field

def buildCapabilityIndex : List (String × FieldDef) :=
  (config.sidecars.flatMap SidecarConfig.getQueryableFields).foldl assignField []

def isAttributes : SidecarConfig → Bool
  | .attributes _ => true
  | _ => false

def enrichWith (attributes : SidecarConfig) (index : List (String × FieldDef))
    (field : SchemaField) : List (String × FieldDef) :=
  if field.name ∈ index.map Prod.fst ∨ !field.readable ∨ field.materialized then index
  else
    match attributes.jsonbPropertyField field.name field.pgType with
    | some definition => assignField index definition
    | none => index

def fieldIndex : List (String × FieldDef) :=
  match config.sidecars.find? isAttributes with
  | none => config.buildCapabilityIndex
  | some attributes => config.schemaFields.foldl (enrichWith attributes) config.buildCapabilityIndex

def collection : PgCollection where
  sidecars := config.sidecars.map SidecarConfig.sidecar
  fieldIndex := config.fieldIndex.map Prod.snd
  dynamicField name := config.sidecars.findSome? (·.getDynamicFieldDefinition name)
  validityAlias := config.resolveValidityAlias
  parseCql := config.parseCql

end DriverConfig

/-! ## The table of a field -/

def SidecarConfig.Owns (owner : SidecarConfig) (field : FieldDef) : Prop :=
  owner.sidecar.registered = true ∧ field.sidecarId = owner.sidecarId ∧
    (field.tableAlias = "h" ∨ field.tableAlias = owner.fieldAlias)

namespace SidecarConfig

variable {owner : SidecarConfig} {field : FieldDef}

/-- A field of the sidecar, which can be counted as every field can. -/
def Defines (owner : SidecarConfig) (field : FieldDef) : Prop :=
  owner.Owns field ∧ supports field.aggregations "count" = true

theorem defines_of_mem (owner : SidecarConfig) :
    ∀ field ∈ owner.getQueryableFields, owner.Defines field := by
  intro _ listed
  cases owner with
  | attributes =>
    simp only [getQueryableFields, attributeFields, mem_append, mem_map,
      mem_flatMap, mem_cons, not_mem_nil, or_false, mem_ite_nil_right]
      at listed
    rcases listed with ((((⟨_, _, rfl⟩ | ⟨_, _, rfl | rfl⟩) | ⟨_, _, rfl⟩) |
      ⟨_, rfl | rfl | rfl⟩) | rfl) | ⟨_, _, rfl⟩
    all_goals first | exact ⟨⟨rfl, rfl, .inr rfl⟩, rfl⟩ | exact ⟨⟨rfl, rfl, .inl rfl⟩, rfl⟩
  | geometries =>
    simp only [getQueryableFields, geometryFields, mem_append, mem_map, mem_cons,
      not_mem_nil, or_false] at listed
    rcases listed with (((((rfl | rfl | rfl) | ⟨_, _, rfl⟩) | ⟨_, _, rfl⟩) | ⟨_, _, rfl⟩) |
      ⟨_, _, rfl⟩) | rfl | rfl | rfl | rfl | rfl
    case geometries.inl.inr => split <;> exact ⟨⟨rfl, rfl, .inr rfl⟩, rfl⟩
    all_goals first | exact ⟨⟨rfl, rfl, .inr rfl⟩, rfl⟩ | exact ⟨⟨rfl, rfl, .inl rfl⟩, rfl⟩
  | itemMetadata =>
    simp only [getQueryableFields, mem_cons, not_mem_nil, or_false] at listed
    rcases listed with rfl | rfl <;> exact ⟨⟨rfl, rfl, .inr rfl⟩, rfl⟩
  | stacMetadata loaded =>
    cases loaded with
    | false => cases listed
    | true =>
      rw [mem_singleton.mp listed]
      exact ⟨⟨rfl, rfl, .inr rfl⟩, rfl⟩
  | accessEnvelope =>
    rw [mem_singleton.mp listed]
    exact ⟨⟨rfl, rfl, .inr rfl⟩, rfl⟩

theorem defines_of_dynamic (resolved : owner.getDynamicFieldDefinition name = some field) :
    owner.Defines field ∧ field.name = name := by
  cases owner with
  | attributes =>
    obtain ⟨_, ⟨⟩⟩ := Option.ite_none_right_eq_some.mp resolved
    exact ⟨⟨⟨rfl, rfl, .inr rfl⟩, rfl⟩, rfl⟩
  | _ => cases resolved

theorem defines_of_jsonbProperty (resolved : owner.jsonbPropertyField name pgType = some field) :
    owner.Defines field := by
  cases owner with
  | attributes =>
    obtain ⟨_, ⟨⟩⟩ := Option.ite_none_right_eq_some.mp resolved
    exact ⟨⟨rfl, rfl, .inr rfl⟩, rfl⟩
  | _ => cases resolved

end SidecarConfig

namespace DriverConfig

variable {config : DriverConfig}

theorem forall_fieldIndex {P : FieldDef → Prop}
    (listed : ∀ owner ∈ config.sidecars, ∀ field ∈ owner.getQueryableFields, P field)
    (property : ∀ owner ∈ config.sidecars, ∀ name pgType field,
      owner.jsonbPropertyField name pgType = some field → P field) :
    ∀ entry ∈ config.fieldIndex, P entry.2 := by
  have assigned : ∀ (index : List (String × FieldDef)) (field : FieldDef),
      (∀ entry ∈ index, P entry.2) → P field → ∀ entry ∈ assignField index field, P entry.2 := by
    intro index field earlier new entry mem
    rcases Dict.mem_of_mem_assign mem with old | rfl
    · exact earlier entry old
    · exact new
  have built : ∀ (fields : List FieldDef) (index : List (String × FieldDef)),
      (∀ field ∈ fields, P field) → (∀ entry ∈ index, P entry.2) →
      ∀ entry ∈ fields.foldl assignField index, P entry.2 := by
    intro fields
    induction fields with
    | nil => exact fun index _ earlier => earlier
    | cons field _ ih =>
      intro index each earlier
      obtain ⟨first, rest⟩ := forall_mem_cons.mp each
      exact ih _ rest (assigned index field earlier first)
  have base : ∀ entry ∈ config.buildCapabilityIndex, P entry.2 := by
    apply built
    · intro field mem
      obtain ⟨owner, ownerMem, fieldMem⟩ := mem_flatMap.mp mem
      exact listed owner ownerMem field fieldMem
    · intro entry mem
      cases mem
  unfold fieldIndex
  cases found : config.sidecars.find? isAttributes with
  | none => exact base
  | some attributes =>
    have own := mem_of_find?_eq_some found
    have enriched : ∀ (fields : List SchemaField) (index : List (String × FieldDef)),
        (∀ entry ∈ index, P entry.2) →
        ∀ entry ∈ fields.foldl (enrichWith attributes) index, P entry.2 := by
      intro fields
      induction fields with
      | nil => exact fun index earlier => earlier
      | cons _ _ ih =>
        intro index earlier
        apply ih
        unfold enrichWith
        split
        · exact earlier
        · split
          next definition resolved =>
            exact assigned index definition earlier
              (property attributes own _ _ definition resolved)
          · exact earlier
    exact enriched _ _ base

theorem exists_owner_of_fieldIndex :
    ∀ entry ∈ config.fieldIndex, ∃ owner ∈ config.sidecars, owner.Defines entry.2 :=
  forall_fieldIndex (P := fun field => ∃ owner ∈ config.sidecars, owner.Defines field)
    (fun owner mem field listed => ⟨owner, mem, owner.defines_of_mem field listed⟩)
    fun owner mem _ _ _ resolved =>
      ⟨owner, mem, SidecarConfig.defines_of_jsonbProperty resolved⟩

theorem exists_owner_of_fieldFor (found : config.collection.fieldFor request name = some field) :
    ∃ owner ∈ config.sidecars, owner.Owns field := by
  rcases mem_append.mp (mem_of_find?_eq_some found) with indexed | resolved
  · obtain ⟨entry, mem, rfl⟩ := mem_map.mp indexed
    obtain ⟨owner, ownerMem, defines⟩ := exists_owner_of_fieldIndex entry mem
    exact ⟨owner, ownerMem, defines.1⟩
  · obtain ⟨_, _, given⟩ := mem_filterMap.mp resolved
    split at given
    · cases given
    · obtain ⟨owner, mem, dynamic⟩ := exists_of_findSome?_eq_some given
      exact ⟨owner, mem, (SidecarConfig.defines_of_dynamic dynamic).1.1⟩

theorem checkSelection_count (accepted : config.collection.checkSelection selection = []) :
    config.collection.checkSelection ⟨selection.field, some "count", none⟩ = [] := by
  unfold PgCollection.checkSelection PgCollection.checkField at accepted ⊢
  by_cases wildcard : selection.field = "*"
  · simp [wildcard]
  · simp only [wildcard, if_false] at accepted ⊢
    cases found : config.collection.fieldIndex.find? (·.name = selection.field) with
    | some =>
      obtain ⟨entry, mem, rfl⟩ := mem_map.mp (mem_of_find?_eq_some found)
      obtain ⟨owner, _, defines⟩ := exists_owner_of_fieldIndex entry mem
      simp [defines.2]
    | none =>
      simp only [found] at accepted ⊢
      by_cases hub : selection.field ∈ hubQueryFields ∨ selection.field ∈ ([] : List String)
      · rw [if_pos hub]
      · rw [if_neg hub] at accepted ⊢
        cases resolved : config.collection.dynamicField selection.field with
        | none => simp [resolved] at accepted
        | some =>
          obtain ⟨_, _, dynamic⟩ := exists_of_findSome?_eq_some resolved
          simp [(SidecarConfig.defines_of_dynamic dynamic).1.2]

end DriverConfig

end Dynastore.Items
