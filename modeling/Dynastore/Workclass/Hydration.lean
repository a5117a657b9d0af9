import Dynastore.Workclass.Indexer

/-! Rows of the outbox carry no documents. A drain reads the hub again: by item id for a row that
names an item, by write id for a row that names a write. -/

namespace Dynastore.Workclass

structure HubRow (Content : Type) where
  geoid : String
  content : Content
  writeId : String
  deleted : Bool

abbrev Hub (Content : Type) := Table (HubRow Content) HubRow.geoid

def Hub.active {Content : Type} (hub : Hub Content) (item : String) : Option Content :=
  (hub.lookup item).bind fun row => if row.deleted then none else some row.content

/-- What the reads of a drain find. A read that raises has an error; the reads
that do not raise give the rows of the hub. -/
structure DrainReads (Content : Type) where
  hub : String → String → Hub Content
  canonicalError : String → String → List String → Option String
  primaryError : String → String → String → Option String
  buildCanonicalDoc : String → String → Content → Except String Document

namespace DrainReads

variable {Content : Type} (reads : DrainReads Content)

/-- `_read_canonical_inputs`: items without an active row are left out. -/
def readCanonicalInputs (catalogId collectionId : String) (geoids : List String) :
    Except String (String → Option Content) :=
  match reads.canonicalError catalogId collectionId geoids with
  | some error => .error error
  | none => .ok (reads.hub catalogId collectionId).active

/-- `_read_primary_write_batch`: the active rows of a write with their
documents, or its tombstones. -/
def readPrimaryWriteBatch (catalogId collectionId : String) (op : StorageOp) (writeId : String) :
    Except String (List IndexableOp) :=
  match reads.primaryError catalogId collectionId writeId with
  | some error => .error error
  | none =>
    ((reads.hub catalogId collectionId).rows.filter fun row =>
      row.writeId == writeId && row.deleted == (op == .delete)).zipIdx.mapM fun entry => do
        let payload ← match op with
          | .delete => .ok []
          | .upsert => reads.buildCanonicalDoc catalogId collectionId entry.1.content
        return {
          opId := entry.2
          op := op
          catalogId := catalogId
          collectionId := collectionId
          itemId := some entry.1.geoid
          payload := payload
          idempotencyKey := entry.1.geoid }

end DrainReads

end Dynastore.Workclass
