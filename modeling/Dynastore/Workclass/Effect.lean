import Dynastore.Workclass.Replay

/-! The document of one item changes only through the operations with its key. Where all of them
carry the same state of the item, the document is left as it was or brought to that state, and it is
brought there once one of them passes. -/

namespace Dynastore.Workclass

variable {Address : Type} [DecidableEq Address]

def EsCluster.Identifies (cluster : EsCluster Address) : Prop :=
  ∀ left right, cluster.locate left = cluster.locate right → left.id = right.id

def EsCluster.RejectsNothing (cluster : EsCluster Address) : Prop :=
  ∀ address source, (classifyItem (cluster.index address source)).isPoison = false

namespace EsItemsDriver

variable (driver : EsItemsDriver) (cluster : EsCluster Address)

/-- What the operation makes of its document, where it is carried out. -/
def written (op : IndexableOp) : Option Document :=
  match op.op with
  | .delete => none
  | .upsert => some (driver.simplifyPayload op)

def WritesAt (address : Address) (state : Option Document) (op : IndexableOp) : Prop :=
  cluster.locate (driver.actionTarget op) = address ∧ driver.written op = state

variable {driver cluster} {state : Option Document} {op : IndexableOp} {ops : List IndexableOp}

theorem act_of_ne (elsewhere : cluster.locate (driver.actionTarget op) ≠ address) :
    (cluster.act documents (driver.action op)).1 address = documents address := by
  rw [action]
  cases op.op with
  | _ =>
    simp only [EsCluster.act]
    split
    · exact Function.update_of_ne (Ne.symm elsewhere) _ _
    · rfl

theorem act_of_delete (writes : driver.WritesAt cluster address state op)
    (isDelete : op.op = .delete) :
    (cluster.act documents (driver.action op)).1 address = state := by
  obtain ⟨here, rfl⟩ := writes
  rw [action, written, isDelete, ← here]
  simp only [EsCluster.act]
  split
  · exact Function.update_self _ _ _
  next missing => exact missing

theorem act_of_accepted (writes : driver.WritesAt cluster address state op)
    (isUpsert : op.op = .upsert)
    (accepted : cluster.accepts (driver.actionTarget op) (driver.simplifyPayload op)) :
    (cluster.act documents (driver.action op)).1 address = state := by
  obtain ⟨here, rfl⟩ := writes
  rw [action, written, isUpsert, ← here]
  simp only [EsCluster.act, accepted, if_true]
  exact Function.update_self _ _ _

theorem act_of_writesAt (writes : driver.WritesAt cluster address state op) :
    (cluster.act documents (driver.action op)).1 address = documents address ∨
      (cluster.act documents (driver.action op)).1 address = state := by
  cases kind : op.op with
  | delete => exact .inr (act_of_delete writes kind)
  | upsert =>
    by_cases accepted : cluster.accepts (driver.actionTarget op) (driver.simplifyPayload op)
    · exact .inr (act_of_accepted writes kind accepted)
    · rw [action, kind]
      simp only [EsCluster.act, accepted]
      exact .inl rfl

theorem bulk_of_writesAt (documents : EsDocuments Address)
    (writes : ∀ op ∈ ops, cluster.locate (driver.actionTarget op) = address →
      driver.WritesAt cluster address state op) :
    (cluster.bulk documents (ops.map driver.action)).1 address = documents address ∨
      (cluster.bulk documents (ops.map driver.action)).1 address = state := by
  induction ops generalizing documents with
  | nil => exact .inl rfl
  | cons op _ ih =>
    have later := fun next mem => writes next (List.mem_cons_of_mem op mem)
    rw [List.map_cons, EsCluster.bulk]
    rcases ih (cluster.act documents (driver.action op)).1 later with kept | brought
    · rw [kept]
      by_cases here : cluster.locate (driver.actionTarget op) = address
      · exact act_of_writesAt (writes op (.head _) here)
      · exact .inl (act_of_ne here)
    · exact .inr brought

theorem bulk_of_brought (writes : ∀ op ∈ after, cluster.locate (driver.actionTarget op) = address →
      driver.WritesAt cluster address state op)
    (brought : (cluster.act (cluster.bulk documents (before.map driver.action)).1
      (driver.action op)).1 address = state) :
    (cluster.bulk documents ((before ++ op :: after).map driver.action)).1 address = state := by
  induction before generalizing documents with
  | nil =>
    rw [List.nil_append, List.map_cons, EsCluster.bulk]
    rcases bulk_of_writesAt _ writes with kept | reached
    · rw [kept]
      exact brought
    · exact reached
  | cons _ _ ih => exact ih brought

theorem bulk_of_elsewhere
    (elsewhere : ∀ op ∈ ops, cluster.locate (driver.actionTarget op) ≠ address) :
    (cluster.bulk documents (ops.map driver.action)).1 address = documents address := by
  induction ops generalizing documents with
  | nil => rfl
  | cons op _ ih =>
    rw [List.map_cons, EsCluster.bulk,
      ih (fun next mem => elsewhere next (List.mem_cons_of_mem op mem)),
      act_of_ne (elsewhere op (.head _))]

/-! ## The whole call -/

section Item

variable {target : BulkTarget}

def AllWrite (driver : EsItemsDriver) (cluster : EsCluster Address) (target : BulkTarget)
    (state : Option Document) (ops : List IndexableOp) : Prop :=
  ∀ op ∈ ops, op.idempotencyKey = target.id →
    driver.WritesAt cluster (cluster.locate target) state op

omit [DecidableEq Address] in
theorem AllWrite.at_address (all : driver.AllWrite cluster target state ops)
    (identifies : cluster.Identifies) :
    ∀ op ∈ ops, cluster.locate (driver.actionTarget op) = cluster.locate target →
      driver.WritesAt cluster (cluster.locate target) state op :=
  fun op mem here => all op mem (identifies _ _ here)

theorem docByKey_mem (found : (driver.docByKey ops).lookup key = some doc) :
    ∃ op ∈ ops, op.op = .upsert ∧ op.idempotencyKey = key := by
  obtain ⟨op, mem, sameKey, _⟩ := Dict.of_lookup_collect found
  obtain ⟨opMem, kind⟩ := List.mem_filter.mp mem
  exact ⟨op, opMem, by simpa using kind, sameKey⟩

theorem not_poison_of_recovered (rejectsNothing : cluster.RejectsNothing)
    (all : driver.AllWrite cluster target state ops)
    (saved : (driver.recovered cluster ops target.id).isSome) (split : ops = before ++ op :: after)
    (same : op.idempotencyKey = target.id) :
    (classifyItem (driver.answerOf cluster documents before op)).isPoison = false := by
  have stateOf : ∀ other ∈ ops, other.idempotencyKey = target.id → driver.written other = state :=
    fun other mem key => (all other mem key).2
  cases kind : op.op with
  | upsert =>
    rw [classify_upsert kind]
    exact rejectsNothing _ _
  | delete =>
    -- an upsert of the key would have to write what the delete removes
    have removed := stateOf op (by rw [split]; simp) same
    rw [recovered] at saved
    split at saved
    next docFound =>
      obtain ⟨upsert, upsertMem, isUpsert, upsertKey⟩ := docByKey_mem docFound
      have stored := stateOf upsert upsertMem upsertKey
      rw [written, kind] at removed
      rw [written, isUpsert, ← removed] at stored
      cases stored
    · cases saved

omit [DecidableEq Address] in
theorem id_of_recovered (found : driver.recovered cluster ops key = some saved) :
    saved.1.id = key := by
  rw [recovered] at found
  split at found
  · obtain ⟨_, _, rfl⟩ := Option.map_eq_some_iff.mp found
    rfl
  · cases found

theorem foldl_recover_of_ne {pairs : List (String × String)}
    (elsewhere : ∀ pair ∈ pairs, ∀ saved, driver.recovered cluster ops pair.1 = some saved →
      cluster.locate saved.1 ≠ address) :
    pairs.foldl (driver.recover cluster ops) documents address = documents address := by
  induction pairs generalizing documents with
  | nil => rfl
  | cons pair _ ih =>
    rw [List.foldl_cons, ih fun next mem =>
      elsewhere next (List.mem_cons_of_mem pair mem)]
    cases found : driver.recovered cluster ops pair.1 with
    | none => simp only [recover, found]
    | some saved =>
      simp only [recover, found]
      exact Function.update_of_ne (Ne.symm (elsewhere pair (.head _) saved found)) _ _

section

variable (identifies : cluster.Identifies) (rejectsNothing : cluster.RejectsNothing)
  (all : driver.AllWrite cluster target state ops)

include identifies rejectsNothing all

theorem indexBulk_documents :
    (driver.indexBulk cluster none documents ops).1 (cluster.locate target) =
      (cluster.bulk documents (ops.map driver.action)).1 (cluster.locate target) := by
  cases nonempty : ops with
  | nil => rfl
  | cons head =>
    rw [← nonempty]
    have mem : head ∈ ops := by rw [nonempty]; simp
    rw [driver.indexBulk_of_mem cluster documents mem]
    have elsewhere : ∀ pair ∈ (classifyBulkResponse
          (cluster.bulk documents (ops.map driver.action)).2
          (ops.map IndexableOp.idempotencyKey)).poison.filter
            (fun pair => (driver.recovered cluster ops pair.1).isSome),
        pair.1 ≠ target.id := by
      rintro ⟨_, reason⟩ pairMem rfl
      obtain ⟨poison, saved⟩ := List.mem_filter.mp pairMem
      obtain ⟨before, op, _, split, same, verdict⟩ :=
        (driver.has_bulk cluster documents (.poison reason)).mp poison
      have clean : (classifyItem (driver.answerOf cluster documents before op)).isPoison =
          false := not_poison_of_recovered rejectsNothing all saved split same
      rw [verdict] at clean
      cases clean
    exact foldl_recover_of_ne fun pair pairMem _ found here => elsewhere pair pairMem
      ((id_of_recovered found).symm.trans (identifies _ _ here))

theorem indexBulk_of_allWrite :
    (driver.indexBulk cluster none documents ops).1 (cluster.locate target) =
        documents (cluster.locate target) ∨
      (driver.indexBulk cluster none documents ops).1 (cluster.locate target) = state := by
  rw [indexBulk_documents identifies rejectsNothing all]
  exact bulk_of_writesAt documents (all.at_address identifies)

omit all in
theorem indexBulk_of_absent (absent : ∀ op ∈ ops, op.idempotencyKey ≠ target.id) :
    (driver.indexBulk cluster none documents ops).1 (cluster.locate target) =
      documents (cluster.locate target) := by
  have all : driver.AllWrite cluster target none ops :=
    fun op mem same => absurd same (absent op mem)
  rw [indexBulk_documents identifies rejectsNothing all]
  exact bulk_of_elsewhere fun op mem here => absent op mem (identifies _ _ here)

theorem indexBulk_of_carried_out (split : ops = before ++ op :: after)
    (same : op.idempotencyKey = target.id)
    (carriedOut : op.op = .delete ∨
      classifyItem (driver.answerOf cluster documents before op) = .passed) :
    (driver.indexBulk cluster none documents ops).1 (cluster.locate target) = state := by
  have writes := all op (by rw [split]; simp) same
  rw [indexBulk_documents identifies rejectsNothing all, split]
  apply bulk_of_brought
  · intro later mem here
    exact all.at_address identifies later (by rw [split]; simp [mem]) here
  · cases kind : op.op with
    | delete => exact act_of_delete writes kind
    | upsert =>
      have passed := carriedOut.resolve_left (by rw [kind]; rintro ⟨⟩)
      rw [classify_upsert kind, classifyItem_eq_passed_iff] at passed
      exact act_of_accepted writes kind passed

theorem indexBulk_of_passed (distinct : (ops.map IndexableOp.opId).Nodup)
    (mem : op ∈ ops) (same : op.idempotencyKey = target.id)
    (passed : op.opId ∈ (driver.indexBulk cluster none documents ops).2.passed) :
    (driver.indexBulk cluster none documents ops).1 (cluster.locate target) = state := by
  rw [driver.mem_passed_indexBulk cluster documents distinct mem] at passed
  obtain ⟨_, _, _, _, split, otherKey, verdict⟩ := passed
  rw [same] at otherKey verdict
  rcases verdict with passes | ⟨poison, saved⟩
  · exact indexBulk_of_carried_out identifies rejectsNothing all split otherKey (.inr passes)
  · rw [not_poison_of_recovered rejectsNothing all saved split otherKey] at poison
    cases poison

theorem indexBulk_of_no_transient (mem : op ∈ ops) (same : op.idempotencyKey = target.id)
    (settled : (driver.indexBulk cluster none documents ops).2.transient = []) :
    (driver.indexBulk cluster none documents ops).1 (cluster.locate target) = state := by
  obtain ⟨before, _, split⟩ := List.append_of_mem mem
  apply indexBulk_of_carried_out identifies rejectsNothing all split same
  cases kind : op.op with
  | delete => exact .inl rfl
  | upsert =>
    right
    cases verdict : classifyItem (driver.answerOf cluster documents before op) with
    | passed => rfl
    | poison =>
      have rejected : (classifyItem (driver.answerOf cluster documents before op)).isPoison =
          false := by
        rw [classify_upsert kind]
        exact rejectsNothing _ _
      rw [verdict] at rejected
      cases rejected
    | transient =>
      exact absurd settled (driver.transient_ne_nil cluster documents split verdict)

end

end Item

end EsItemsDriver

end Dynastore.Workclass
