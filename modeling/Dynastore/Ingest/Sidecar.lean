import Dynastore.Foundation.Dict
import Dynastore.Foundation.Register

/-! A collection keeps one hub row per item and further rows in the tables of its sidecars
(`pg_sidecars`). Sidecar rows refer to their hub row by geoid, so the store is kept by geoid: the
hub row of an item stands together with the sidecar rows that refer to it. Columns that the server
generates, and its column defaults, belong to `Postgres`. -/

namespace Dynastore.Ingest

abbrev Geoid := Nat

/-- `[lower, upper)`, unbounded where a bound is absent. -/
structure Range where
  lower : Option Int
  upper : Option Int
deriving DecidableEq

/-- `[a, a)` is empty, and an empty range has neither bound. The server takes no range with
its bounds the wrong way round; here such a range is empty as well. -/
def Range.isEmpty (range : Range) : Bool :=
  match range.lower, range.upper with
  | some lower, some upper => upper ≤ lower
  | _, _ => false

def Range.lowerBound (range : Range) : Option Int :=
  if range.isEmpty then none else range.lower

def Range.upperBound (range : Range) : Option Int :=
  if range.isEmpty then none else range.upper

def Range.contains (range : Range) (instant : Int) : Bool :=
  range.lower.all (· ≤ instant) && range.upper.all (instant < ·)

inductive Cell where
  | null
  | text (content : String)
  | time (instant : Int)
  | range (span : Range)
deriving DecidableEq

def Cell.span : Cell → Option Range
  | .range span => some span
  | _ => none

def Cell.instant : Cell → Option Int
  | .time instant => some instant
  | _ => none

def Cell.openAbove : Cell → Bool
  | .range span => span.upperBound.isNone
  | _ => true

abbrev Payload := List (String × Cell)

abbrev Row := String → Cell

def Row.ofPayload (columnDefault : String → Cell) (payload : Payload) : Row :=
  fun column => (payload.lookup column).getD (columnDefault column)

/-- `SET column = value` for the columns of the payload. -/
def Row.overwrite (row : Row) (payload : Payload) : Row :=
  fun column => (payload.lookup column).getD (row column)

structure Item where
  hub : Row
  sidecars : String → List Row

abbrev Store := Register Geoid Item

/-- `ORDER BY transaction_time DESC` puts rows without a time first. -/
def Item.transactionTime (item : Item) : WithTop Int :=
  match item.hub "transaction_time" with
  | .time instant => instant
  | _ => ⊤

def Item.isActive (item : Item) : Bool :=
  item.hub "deleted_at" = .null

structure Postgres where
  columnDefault : String → String → Cell
  geometryHash : Row → Option String
  attributesHash : Row → Option String
  geohash : Row → Option String
  /-- `encode(digest(CAST(:attrs AS jsonb)::text, 'sha256'), 'hex')`. -/
  attributesDigest : String → String
  /-- `ST_GeoHash(ST_GeomFromEWKB(decode(:wkb, 'hex')), :prec)`. -/
  geohashOf : String → Nat → String

/-- What the write path reads of an item's processing context; `clock` is what
`datetime.now()` answers while the item is written. -/
structure Context where
  externalId : Option String
  geometryHash : Option String
  featureAttributes : Option String
  wkbHexProcessed : Option String
  validFrom : Option Int
  validTo : Option Int
  validity : Option Range
  clock : Int

def present (text : Option String) : Option String :=
  text.filter (· ≠ "")

/-- The record an identity lookup answers with; the validity is read by some lookups only. -/
structure ActiveRec where
  geoid : Geoid
  validity : Option Range
deriving DecidableEq

inductive ComputedKind where
  | externalId
  | geometryHash
  | attributesHash
  | geohash
  | other (name : String)
deriving DecidableEq

def ComputedKind.value : ComputedKind → String
  | .externalId => "external_id"
  | .geometryHash => "geometry_hash"
  | .attributesHash => "attributes_hash"
  | .geohash => "geohash"
  | .other name => name

/-! ## Sidecars -/

structure AttributesConfig where
  enableExternalId : Bool
  enableValidity : Bool
  validityStartFrom : Option String
  jsonb : Bool

structure GeometriesConfig where
  geohashPrecision : Option Nat

/-- A sidecar that an extension registers: it answers no identity lookup. -/
structure Plugin where
  sidecarId : String
  isMandatory : Bool
  enableValidity : Bool
  hasValidity : Bool
  identityColumns : List String
  isAcceptable : Payload → Context → Bool
  /-- The reason an update is turned down for. -/
  validateUpdate : Payload → ActiveRec → Context → Option String
  finalizeUpsertPayload : Payload → Row → Context → Payload
  expireVersion : Int → Row → Row

inductive Sidecar where
  | attributes (config : AttributesConfig)
  | geometries (config : GeometriesConfig)
  | itemMetadata
  | stacMetadata
  | accessEnvelope
  | plugin (sidecar : Plugin)

namespace Sidecar

def sidecarId : Sidecar → String
  | attributes _ => "attributes"
  | geometries _ => "geometries"
  | itemMetadata => "item_metadata"
  | stacMetadata => "stac_metadata"
  | accessEnvelope => "access_envelope"
  | plugin sidecar => sidecar.sidecarId

def isMandatory : Sidecar → Bool
  | attributes _ => true
  | geometries _ => true
  | itemMetadata => false
  | stacMetadata => false
  | accessEnvelope => false
  | plugin sidecar => sidecar.isMandatory

def enableValidity : Sidecar → Bool
  | attributes config => config.enableValidity
  | plugin sidecar => sidecar.enableValidity
  | _ => false

def hasValidity : Sidecar → Bool
  | attributes config => config.enableValidity
  | plugin sidecar => sidecar.hasValidity
  | _ => false

def identityColumns : Sidecar → List String
  | attributes config => if config.enableValidity then ["geoid", "validity"] else ["geoid"]
  | plugin sidecar => sidecar.identityColumns
  | _ => ["geoid"]

def isAcceptable : Sidecar → Payload → Context → Bool
  | plugin sidecar => sidecar.isAcceptable
  | _ => fun _ _ => true

def validateUpdate : Sidecar → Payload → ActiveRec → Context → Option String
  | plugin sidecar => sidecar.validateUpdate
  | _ => fun _ _ _ => none

/-- The attributes sidecar: the validity of the hub row or of the context, or else a window
that starts where the context says or, failing that, with the hub row's transaction. -/
def finalizeAttributes (config : AttributesConfig) (payload : Payload) (hubRow : Row)
    (context : Context) : Payload :=
  if config.enableValidity && (payload.lookup "validity").isNone then
    match (hubRow "validity").span <|> context.validity with
    | some validity => Dict.assign payload "validity" (.range validity)
    | none =>
      let start := context.validFrom <|> (if config.validityStartFrom.isNone then none
        else (hubRow "transaction_time").instant <|> some context.clock)
      Dict.assign payload "validity" (.range ⟨start, context.validTo⟩)
  else payload

def finalizeMetadata (payload : Payload) (hubRow : Row) (context : Context) : Payload :=
  match (hubRow "validity").span <|> context.validity with
  | some validity => Dict.assign payload "validity" (.range validity)
  | none => payload

def finalizeUpsertPayload : Sidecar → Payload → Row → Context → Payload
  | attributes config => finalizeAttributes config
  | geometries _ => fun payload _ _ => payload
  | itemMetadata => finalizeMetadata
  | stacMetadata => finalizeMetadata
  | accessEnvelope => fun payload _ _ => payload
  | plugin sidecar => sidecar.finalizeUpsertPayload

/-- What `expire_version` does to a row of the version that is closed. -/
def expireVersion : Sidecar → Int → Row → Row
  | attributes config, expireAt, row =>
    if config.enableValidity then
      row.overwrite
        [("validity", .range ⟨(row "validity").span.bind Range.lowerBound, some expireAt⟩)]
    else row
  | plugin sidecar, expireAt, row => sidecar.expireVersion expireAt row
  | _, _, row => row

/-! ## Identity lookups -/

/-- The rows of the external id lookup: an active item with a geometry whose attributes
carry the id, in the open version where versions are kept. -/
def sameExternalId (config : AttributesConfig) (externalId : String) (item : Item) :
    Option (Option Range) :=
  if item.isActive && !(item.sidecars "geometries").isEmpty then
    ((item.sidecars "attributes").find? fun row =>
      row "external_id" = .text externalId &&
        (!config.enableValidity || (row "validity").openAbove)).map fun row =>
      if config.enableValidity then (row "validity").span else none
  else none

def sameGeometryHash (postgres : Postgres) (hash : String) (item : Item) : Option (Option Range) :=
  if item.isActive && (item.sidecars "geometries").any (postgres.geometryHash · = some hash)
  then some none
  else none

def sameAttributesHash (postgres : Postgres) (attributes : String) (item : Item) :
    Option (Option Range) :=
  if item.isActive && !(item.sidecars "geometries").isEmpty && (item.sidecars "attributes").any
      (postgres.attributesHash · = some (postgres.attributesDigest attributes))
  then some none
  else none

def sameGeohash (postgres : Postgres) (wkb : String) (precision : Nat) (item : Item) :
    Option (Option Range) :=
  if item.isActive && (item.sidecars "geometries").any
      (postgres.geohash · = some (postgres.geohashOf wkb precision))
  then some none
  else none

def query (postgres : Postgres) (sidecar : Sidecar) (matcher : ComputedKind)
    (context : Context) : Option (Item → Option (Option Range)) :=
  match sidecar, matcher with
  | attributes config, .externalId =>
    if config.enableExternalId then (present context.externalId).map (sameExternalId config)
    else none
  | attributes _, .geometryHash =>
    (present context.geometryHash).map (sameGeometryHash postgres)
  | attributes config, .attributesHash =>
    if config.jsonb then context.featureAttributes.map (sameAttributesHash postgres)
    else none
  | geometries config, .geohash =>
    match config.geohashPrecision.filter (· ≠ 0), present context.wkbHexProcessed with
    | some precision, some wkb => some (sameGeohash postgres wkb precision)
    | _, _ => none
  | _, _ => none

end Sidecar

end Dynastore.Ingest
