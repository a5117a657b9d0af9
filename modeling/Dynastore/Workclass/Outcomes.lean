import Dynastore.Workclass.Drain
import Mathlib.Data.List.Perm.Basic

/-! A row of a drain is marked where it stands, or is pending until the sub-chunk it is in is
flushed. Of the rows that refer to one write only the last is marked. -/

namespace Dynastore.Workclass

open List Dict StorageRow DrainCycle

variable {Content Outcome : Type}

structure ClaimedBatch where
  rows : List StorageRow
  distinct : (rows.map StorageRow.opId).Nodup

/-! ## The writes to one row -/

/-- The outcomes that are written to a row, in their order. -/
def writesTo (row : StorageRow) (marks : List (StorageRow × Outcome)) : List Outcome :=
  marks.filterMap fun mark => if mark.1 = row then some mark.2 else none

theorem writesTo_append (front back : List (StorageRow × Outcome)) :
    writesTo row (front ++ back) = writesTo row front ++ writesTo row back :=
  filterMap_append

theorem writesTo_of_not_mem {marks : List (StorageRow × Outcome)}
    (absent : row ∉ marks.map Prod.fst) : writesTo row marks = [] := by
  rw [writesTo, filterMap_eq_nil_iff]
  intro mark mem
  refine if_neg ?_
  rintro rfl
  exact absent (mem_map_of_mem mem)

theorem length_writesTo (marks : List (StorageRow × Outcome)) :
    (writesTo row marks).length = (marks.map Prod.fst).count row := by
  induction marks with
  | nil => rfl
  | cons mark marks ih =>
    rw [writesTo, filterMap_cons, map_cons, count_cons, ← ih]
    by_cases same : mark.1 = row <;> simp [same, writesTo]

theorem writesTo_map {rows : List StorageRow} (outcome : Outcome) (distinct : rows.Nodup)
    (mem : row ∈ rows) : writesTo row (rows.map fun row => (row, outcome)) = [outcome] := by
  have once : (writesTo row (rows.map fun row => (row, outcome))).length = 1 := by
    rw [length_writesTo, map_map]
    simpa [Function.comp_def] using count_eq_one_of_mem distinct mem
  obtain ⟨written, single⟩ := length_eq_one_iff.mp once
  have mem : written ∈ writesTo row (rows.map fun row => (row, outcome)) := by simp [single]
  simp only [writesTo, mem_filterMap, mem_map] at mem
  obtain ⟨_, ⟨_, _, rfl⟩, kept⟩ := mem
  split at kept
  · cases kept
    exact single
  · cases kept

/-- What an answer says about an operation, in the order in which it is written. -/
def BulkIndexResult.said (result : BulkIndexResult) (opId : Nat) : List StorageOutcome :=
  replicate (result.passed.count opId) .done ++
    replicate ((result.transient.map Prod.fst).count opId) .retry ++
    replicate ((result.poison.map Prod.fst).count opId) .dead

def BulkIndexResult.ids (result : BulkIndexResult) : List Nat :=
  result.passed ++ result.transient.map Prod.fst ++ result.poison.map Prod.fst

theorem BulkIndexResult.said_eq_nil_iff (result : BulkIndexResult) (name : Nat) :
    result.said name = [] ↔ name ∉ result.ids := by
  simp [said, ids, count_eq_zero]

/-- An operation that the answer leaves out is retried. -/
def IndexReply.writes (opId : Nat) : IndexReply → List StorageOutcome
  | raised _ => [.retry]
  | reported result => if (result.said opId).isEmpty then [.retry] else result.said opId

theorem IndexReply.writes_ne_nil (reply : IndexReply) (opId : Nat) : reply.writes opId ≠ [] := by
  cases reply with
  | raised => simp [writes]
  | reported result =>
    rw [writes]
    split
    · simp
    next named => simpa using named

section Applied

variable {rows : List StorageRow} (distinct : (rows.map StorageRow.opId).Nodup)

include distinct

theorem lookup_rowsById {name : Nat} :
    (collect StorageRow.opId id rows).lookup name = some row ↔ row ∈ rows ∧ row.opId = name := by
  refine ⟨mem_of_rowsById, ?_⟩
  rintro ⟨mem, rfl⟩
  exact lookup_collect_of_unique mem fun _ otherMem sameId =>
    inj_on_of_nodup_map distinct otherMem mem sameId

theorem writesTo_named (mem : row ∈ rows) (outcome : StorageOutcome) (ids : List Nat) :
    writesTo row (ids.filterMap fun opId =>
        ((collect StorageRow.opId id rows).lookup opId).map fun row => (row, outcome)) =
      replicate (ids.count row.opId) outcome := by
  induction ids with
  | nil => rfl
  | cons opId ids ih =>
    by_cases same : row.opId = opId
    · subst same
      have found := (lookup_rowsById distinct).mpr ⟨mem, rfl⟩
      rw [filterMap_cons, found, count_cons_self, replicate_succ, ← ih]
      simp [writesTo]
    · rw [count_cons_of_ne (Ne.symm same), ← ih, filterMap_cons]
      cases found : (collect StorageRow.opId id rows).lookup opId with
      | none => rfl
      | some other =>
        have different : other ≠ row := by
          rintro rfl
          exact same ((lookup_rowsById distinct).mp found).2
        simp [writesTo, different]

theorem writesTo_applyOutcomes (mem : row ∈ rows) :
    writesTo row (applyOutcomes rows result) = (IndexReply.reported result).writes row.opId := by
  have omitted : writesTo row (((collect StorageRow.opId id rows).filter fun entry =>
      !(result.passed ++ result.transient.map Prod.fst ++ result.poison.map Prod.fst).contains
        entry.1).map fun entry => (entry.2, StorageOutcome.retry)) =
      if (result.said row.opId).isEmpty then [.retry] else [] := by
    have entries : ((collect StorageRow.opId id rows).filter fun entry =>
        !result.ids.contains entry.1).map (fun entry => (entry.2, StorageOutcome.retry)) =
        (rows.filter fun row => !result.ids.contains row.opId).map fun row => (row, .retry) := by
      rw [collect_of_nodup distinct, filter_map, map_map]
      rfl
    rw [← BulkIndexResult.ids, entries]
    split
    next unnamed =>
      refine writesTo_map _ (distinct.of_map.filter _) (mem_filter.mpr ⟨mem, ?_⟩)
      simpa [result.said_eq_nil_iff] using unnamed
    next named =>
      refine writesTo_of_not_mem ?_
      intro inside
      rw [map_map, Function.comp_def, map_id', mem_filter] at inside
      exact named (by simpa [result.said_eq_nil_iff] using inside.2)
  simp only [applyOutcomes, writesTo_append, writesTo_named distinct mem, omitted]
  rw [IndexReply.writes]
  split
  next unnamed =>
    rw [← BulkIndexResult.said, List.isEmpty_iff.mp unnamed]
    rfl
  next => simp [BulkIndexResult.said]

end Applied

/-! ## The stream -/

namespace Stream

def waiting (stream : Stream) : List StorageRow :=
  stream.pending.map Prod.fst

/-- Rows in waiting are claimed and unwritten, and those of a sub-chunk have what was answered. -/
structure Sound (claimed : List StorageRow) (stream : Stream) : Prop where
  distinct : stream.waiting.Nodup
  waiting : ∀ row ∈ stream.waiting, row ∈ claimed ∧ writesTo row stream.marks = []
  logged : ∀ chunk ∈ stream.flushed, ∀ row ∈ chunk.1,
    writesTo row stream.marks = chunk.2.writes row.opId

def Untouched (stream : Stream) (row : StorageRow) : Prop :=
  row ∉ stream.waiting ∧ writesTo row stream.marks = []

def Written (stream : Stream) (row : StorageRow) : Prop :=
  (∃ outcome, writesTo row stream.marks = [outcome]) ∨ ∃ chunk ∈ stream.flushed, row ∈ chunk.1

/-- The stream goes on with the given rows and leaves all others as they were. -/
structure Advances (claimed rows : List StorageRow) (stream next : Stream) : Prop where
  sound : next.Sound claimed
  taken : ∀ row ∈ rows, row ∈ next.waiting ∨ next.Written row
  kept : ∀ row, row ∈ stream.waiting ∨ stream.Written row → row ∈ next.waiting ∨ next.Written row
  untouched : ∀ row, row ∉ rows → stream.Untouched row → next.Untouched row

end Stream

/-- The step takes rows of a stream that has not met them. -/
def Takes (claimed : List StorageRow) (step : Stream → Stream) (rows : List StorageRow) : Prop :=
  ∀ stream : Stream, stream.Sound claimed → rows.Nodup →
    (∀ row ∈ rows, row ∈ claimed ∧ stream.Untouched row) →
    stream.Advances claimed rows (step stream)

namespace Stream

variable {claimed rows : List StorageRow} {stream next : Stream}

theorem Sound.ids_waiting (sound : stream.Sound claimed) (distinct : (claimed.map opId).Nodup) :
    (stream.waiting.map opId).Nodup :=
  sound.distinct.map_on fun _ left _ right same =>
    inj_on_of_nodup_map distinct (sound.waiting _ left).1 (sound.waiting _ right).1 same

/-- A row of a sub-chunk has been written to. -/
theorem Sound.ne_of_untouched (sound : stream.Sound claimed) (chunkMem : chunk ∈ stream.flushed)
    (mem : row ∈ chunk.1) (unwritten : writesTo other stream.marks = []) : other ≠ row := by
  rintro rfl
  exact chunk.2.writes_ne_nil _ ((sound.logged chunk chunkMem other mem).symm.trans unwritten)

theorem writesTo_marked {outcome : StorageOutcome}
    (marks : next.marks = stream.marks ++ [(row, outcome)])
    (different : row ≠ other) : writesTo other next.marks = writesTo other stream.marks := by
  rw [marks, writesTo_append]
  simp [writesTo, different]

/-- A row that is marked where it stands. -/
theorem Advances.marked {outcome : StorageOutcome} (sound : stream.Sound claimed)
    (fresh : stream.Untouched row) (pending : next.pending = stream.pending)
    (flushed : next.flushed = stream.flushed)
    (marks : next.marks = stream.marks ++ [(row, outcome)]) :
    stream.Advances claimed [row] next := by
  have waits : next.waiting = stream.waiting := congrArg (map Prod.fst) pending
  have written : writesTo row next.marks = [outcome] := by
    rw [marks, writesTo_append, fresh.2]
    simp [writesTo]
  have others (other : StorageRow) (different : row ≠ other) := writesTo_marked marks different
  refine ⟨⟨waits ▸ sound.distinct, ?_, ?_⟩, ?_, ?_, ?_⟩
  · intro other mem
    rw [waits] at mem
    rw [others other (by rintro rfl; exact fresh.1 mem)]
    exact sound.waiting other mem
  · intro chunk chunkMem other mem
    rw [flushed] at chunkMem
    rw [others other (sound.ne_of_untouched chunkMem mem fresh.2)]
    exact sound.logged chunk chunkMem other mem
  · intro other mem
    rw [mem_singleton.mp mem]
    exact .inr (.inl ⟨outcome, written⟩)
  · rintro other (mem | ⟨known, single⟩ | ⟨chunk, chunkMem, mem⟩)
    · exact .inl (waits ▸ mem)
    · refine .inr (.inl ⟨known, ?_⟩)
      rw [others other (by rintro rfl; simp [fresh.2] at single)]
      exact single
    · exact .inr (.inr ⟨chunk, flushed ▸ chunkMem, mem⟩)
  · intro other absent untouched
    refine ⟨waits ▸ untouched.1, ?_⟩
    rw [others other (by rintro rfl; exact absent (.head _))]
    exact untouched.2

/-- A row that is put behind those in waiting. -/
theorem Advances.appended (sound : stream.Sound claimed) (mem : row ∈ claimed)
    (fresh : stream.Untouched row) (waits : next.waiting = stream.waiting ++ [row])
    (flushed : next.flushed = stream.flushed) (marks : next.marks = stream.marks) :
    stream.Advances claimed [row] next := by
  refine ⟨⟨?_, ?_, ?_⟩, ?_, ?_, ?_⟩
  · rw [waits]
    exact nodup_append.mpr ⟨sound.distinct, nodup_singleton row, fun other inside _ last =>
      by rintro rfl; exact fresh.1 (mem_singleton.mp last ▸ inside)⟩
  · intro other inside
    rw [marks]
    rw [waits, mem_append, mem_singleton] at inside
    rcases inside with inside | rfl
    · exact sound.waiting other inside
    · exact ⟨mem, fresh.2⟩
  · rw [flushed, marks]
    exact sound.logged
  · intro other inside
    rw [mem_singleton.mp inside, waits]
    exact .inl (by simp)
  · rintro other (inside | written)
    · exact .inl (waits ▸ mem_append_left _ inside)
    · right
      unfold Written
      rw [flushed, marks]
      exact written
  · intro other absent untouched
    refine ⟨?_, marks ▸ untouched.2⟩
    rw [waits, mem_append]
    exact not_or.mpr ⟨untouched.1, absent⟩

/-- The rows in waiting, once the indexer has answered for them. -/
theorem Advances.flushed {answer : IndexReply} {answered : List Mark} (sound : stream.Sound claimed)
    (waits : next.waiting = [])
    (flushed : next.flushed = stream.flushed ++ [(stream.waiting, answer)])
    (marks : next.marks = stream.marks ++ answered)
    (writes : ∀ row ∈ stream.waiting, writesTo row answered = answer.writes row.opId)
    (only : ∀ row ∉ stream.waiting, writesTo row answered = []) :
    stream.Advances claimed [] next := by
  have others (row : StorageRow) (absent : row ∉ stream.waiting) :
      writesTo row next.marks = writesTo row stream.marks := by
    rw [marks, writesTo_append, only row absent, append_nil]
  refine ⟨⟨waits ▸ nodup_nil, ?_, ?_⟩, ?_, ?_, ?_⟩
  · simp [waits]
  · intro chunk chunkMem row mem
    rw [flushed, mem_append, mem_singleton] at chunkMem
    rcases chunkMem with earlier | rfl
    · rw [others row fun inside =>
        sound.ne_of_untouched earlier mem (sound.waiting row inside).2 rfl]
      exact sound.logged chunk earlier row mem
    · rw [marks, writesTo_append, (sound.waiting row mem).2, writes row mem]
      rfl
  · simp
  · rintro row (mem | ⟨outcome, single⟩ | ⟨chunk, chunkMem, mem⟩)
    · exact .inr (.inr ⟨(stream.waiting, answer), flushed ▸ by simp, mem⟩)
    · refine .inr (.inl ⟨outcome, ?_⟩)
      rw [others row fun inside => by simp [(sound.waiting row inside).2] at single]
      exact single
    · exact .inr (.inr ⟨chunk, flushed ▸ mem_append_left _ chunkMem, mem⟩)
  · intro row _ untouched
    rw [Untouched, waits, others row untouched.1]
    exact ⟨not_mem_nil, untouched.2⟩

end Stream

namespace Takes

variable {claimed front back rows others : List StorageRow} {first second step : Stream → Stream}

theorem mark (row : StorageRow) (outcome : StorageOutcome) :
    Takes claimed (·.mark row outcome) [row] := by
  intro stream sound _ fresh
  exact .marked sound (fresh row (.head _)).2 rfl rfl rfl

theorem next (takesFirst : Takes claimed first front) (takesSecond : Takes claimed second back) :
    Takes claimed (fun stream => second (first stream)) (back ++ front) := by
  intro stream sound distinct fresh
  obtain ⟨distinctBack, distinctFront, apart⟩ := nodup_append.mp distinct
  have start := takesFirst stream sound distinctFront fun row mem =>
    fresh row (mem_append_right _ mem)
  have rest := takesSecond _ start.sound distinctBack fun row mem =>
    ⟨(fresh row (mem_append_left _ mem)).1, start.untouched row
      (fun inFront => apart row mem row inFront rfl) (fresh row (mem_append_left _ mem)).2⟩
  refine ⟨rest.sound, ?_, fun row held => rest.kept row (start.kept row held), ?_⟩
  · intro row mem
    rcases mem_append.mp mem with inBack | inFront
    · exact rest.taken row inBack
    · exact rest.kept row (start.taken row inFront)
  · intro row absent untouched
    rw [mem_append, not_or] at absent
    exact rest.untouched row absent.1 (start.untouched row absent.2 untouched)

theorem of_perm (takes : Takes claimed step rows) (same : rows.Perm others) :
    Takes claimed step others := by
  intro stream sound distinct fresh
  have taken := takes stream sound (same.nodup_iff.mpr distinct) fun row mem =>
    fresh row (same.mem_iff.mp mem)
  exact ⟨taken.sound, fun row mem => taken.taken row (same.mem_iff.mpr mem), taken.kept,
    fun row absent => taken.untouched row fun mem => absent (same.mem_iff.mp mem)⟩

theorem refl : Takes claimed (fun stream => stream) [] :=
  fun _ sound _ _ => ⟨sound, by simp, fun _ held => held, fun _ _ untouched => untouched⟩

theorem foldl (step : Stream → Entry → Stream) (taken : Entry → List StorageRow)
    (list : List Entry) (each : ∀ entry ∈ list, Takes claimed (step · entry) (taken entry)) :
    Takes claimed (list.foldl step ·) (list.flatMap taken) := by
  induction list with
  | nil => exact refl
  | cons entry _ ih =>
    have rest := ih fun later mem => each later (.tail _ mem)
    refine ((each entry (.head _)).next rest).of_perm ?_
    exact perm_append_comm

theorem foldl_each {step : Stream → StorageRow → Stream}
    (each : ∀ row, Takes claimed (step · row) [row]) : Takes claimed (rows.foldl step ·) rows :=
  (foldl step _ rows fun row _ => each row).of_perm (.of_eq (flatMap_singleton' rows))

end Takes

namespace DrainCycle

def writeKey (row : StorageRow) : String × String × StorageOp × String :=
  (row.catalogId, row.collectionId.getD "", row.op, (writeIdOf row).getD "")

def direct (row : StorageRow) : Bool :=
  (writeIdOf row).isNone && !((row.entityId.filter (· != "")).isSome && row.op == .upsert)

def marked (driverRows : List StorageRow) : List StorageRow :=
  (idOnlyGroups driverRows).flatMap Prod.snd ++
    ((writeIdGroups driverRows).flatMap (fun group => [group.2]) ++ driverRows.filter direct)

theorem passes_perm : ((idOnlyGroups driverRows).flatMap Prod.snd ++
      (driverRows.filter (fun row => (writeIdOf row).isSome) ++ driverRows.filter direct)).Perm
        driverRows := by
  have inner := filter_append_perm
    (fun row => (row.entityId.filter (· != "")).isSome && row.op == .upsert)
    (driverRows.filter fun row => !(writeIdOf row).isSome)
  rw [filter_filter, filter_filter] at inner
  refine ((flatMap_group _).append_right _).trans ?_
  refine (perm_append_comm_assoc _ _ _).trans ?_
  refine .trans (.append_left _ ?_) (filter_append_perm (fun row => (writeIdOf row).isSome) _)
  refine .trans (.of_eq ?_) inner
  congr 1 <;> refine filter_congr fun _ _ => ?_
  · simp only [Option.not_isSome, Bool.and_comm, Bool.and_left_comm]
  · simp only [direct, Option.not_isSome, Bool.and_comm]

theorem map_writeKey_writeIdGroups :
    (((writeIdGroups driverRows).flatMap fun group => [group.2]).map writeKey).Nodup := by
  have names : ((writeIdGroups driverRows).flatMap fun group => [group.2]).map writeKey =
      (writeIdGroups driverRows).map Prod.fst := by
    rw [← map_eq_flatMap, map_map]
    refine map_congr_left fun _ mem => ?_
    obtain ⟨_, -, rfl⟩ := mem_of_mem_collect mem
    rfl
  exact names ▸ nodup_collect

theorem marked_subperm : (marked driverRows).Subperm driverRows := by
  refine .trans ?_ (passes_perm).subperm
  refine (subperm_append_left _).mpr ((subperm_append_right _).mpr ?_)
  refine subperm_of_subset (map_writeKey_writeIdGroups).of_map ?_
  intro _ mem
  obtain ⟨_, groupMem, rowMem⟩ := mem_flatMap.mp mem
  obtain ⟨_, otherMem, rfl⟩ := mem_of_mem_collect groupMem
  exact mem_singleton.mp rowMem ▸ otherMem

theorem mem_writeIdGroups_of_marked (mem : row ∈ marked driverRows)
    (refers : (writeIdOf row).isSome) :
    row ∈ (writeIdGroups driverRows).flatMap fun group => [group.2] := by
  rcases mem_append.mp mem with idOnly | rest
  · have filtered := (flatMap_group _).mem_iff.mp idOnly
    simp [Option.isSome_iff_ne_none.mp refers] at filtered
  · rcases mem_append.mp rest with write | filtered
    · exact write
    · simp [direct, Option.isSome_iff_ne_none.mp refers] at filtered

theorem marked_perm (distinct : driverRows.Nodup)
    (apart : ∀ left ∈ driverRows, ∀ right ∈ driverRows, (writeIdOf left).isSome →
      (writeIdOf right).isSome → writeKey left = writeKey right → left = right) :
    (marked driverRows).Perm driverRows := by
  have keys : ((driverRows.filter fun row => (writeIdOf row).isSome).map writeKey).Nodup := by
    refine (distinct.filter _).map_on fun left leftMem right rightMem => ?_
    obtain ⟨leftMem, leftRefers⟩ := mem_filter.mp leftMem
    obtain ⟨rightMem, rightRefers⟩ := mem_filter.mp rightMem
    exact apart left leftMem right rightMem leftRefers rightRefers
  have groups : (writeIdGroups driverRows).flatMap (fun group => [group.2]) =
      driverRows.filter fun row => (writeIdOf row).isSome := by
    rw [← map_eq_flatMap]
    exact (congrArg (map Prod.snd) (collect_of_nodup keys)).trans (by simp [Function.comp_def])
  rw [marked, groups]
  exact passes_perm

variable {cycle : DrainCycle Content} {claimed : List StorageRow}

theorem takes_writeIdGroup (group : (String × String × StorageOp × String) × StorageRow) :
    Takes claimed (cycle.writeIdGroup · group) [group.2] := by
  intro _ sound _ fresh
  exact .marked sound (fresh group.2 (.head _)).2 rfl rfl rfl

theorem pending_flush : (cycle.flush stream).pending = [] := by
  unfold flush
  split
  next empty => exact empty
  · rfl

variable (distinct : (claimed.map opId).Nodup)

include distinct

theorem takes_flush : Takes claimed cycle.flush [] := by
  intro stream sound _ _
  unfold flush
  split
  · exact Takes.refl stream sound nodup_nil (by simp)
  · refine .flushed sound rfl rfl rfl ?_ ?_
    · intro row mem
      cases cycle.reply stream.submissions.length with
      | raised => exact writesTo_map _ sound.distinct mem
      | reported => exact writesTo_applyOutcomes (sound.ids_waiting distinct) mem
    · intro row absent
      refine writesTo_of_not_mem ?_
      intro inside
      apply absent
      cases answered : cycle.reply stream.submissions.length with
      | raised =>
        rw [answered] at inside
        simpa [Stream.waiting, Function.comp_def] using inside
      | reported =>
        rw [answered] at inside
        obtain ⟨mark, mem, rfl⟩ := mem_map.mp inside
        exact (of_mem_applyOutcomes mem).1

theorem takes_append (op : IndexableOp) : Takes claimed (cycle.append · row op) [row] := by
  have appended : ∀ bytes : Stream → Nat × Nat, Takes claimed (fun stream => { stream with
      pending := stream.pending ++ [(row, op)]
      pendingBytes := (bytes stream).1
      bytes := (bytes stream).2 }) [row] := by
    intro _ stream sound _ fresh
    exact .appended sound (fresh row (.head _)).1 (fresh row (.head _)).2 (by simp [Stream.waiting])
      rfl rfl
  intro stream sound once fresh
  unfold append
  simp only
  split
  · exact ((appended fun _ => (_, _)).next (takes_flush distinct)) stream sound once fresh
  · exact appended (fun _ => (_, _)) stream sound once fresh

theorem takes_classify : Takes claimed (cycle.classify · row) ([row].filter direct) := by
  intro stream sound once fresh
  unfold classify
  split
  next refers =>
    have passed : [row].filter direct = [] := by simp [direct, refers]
    rw [passed]
    exact Takes.refl stream sound nodup_nil (by simp)
  next refers unnamed =>
    have isDirect : direct row := by simp [direct, refers, unnamed]
    rw [filter_singleton, isDirect] at once fresh ⊢
    exact Takes.mark row .dead stream sound once fresh
  next =>
    have passed : [row].filter direct = [] := by simp [direct, *]
    rw [passed]
    exact Takes.refl stream sound nodup_nil (by simp)
  next =>
    have isDirect : direct row := by simp [direct, *]
    rw [filter_singleton, isDirect] at once fresh ⊢
    exact takes_append distinct _ stream sound once fresh

theorem takes_hydrateRow : Takes claimed (cycle.hydrateRow inputs · row) [row] := by
  intro stream sound once fresh
  unfold hydrateRow
  split
  · exact Takes.mark row .done stream sound once fresh
  · split
    · exact Takes.mark row .retry stream sound once fresh
    · exact takes_append distinct _ stream sound once fresh

theorem takes_readGroup (enough : rows.length ≤ rounds) (positive : 0 < chunkRows) :
    Takes claimed (cycle.readGroup scope rounds chunkRows · rows) rows := by
  induction rounds generalizing chunkRows rows with
  | zero =>
    rw [length_eq_zero_iff.mp (Nat.le_zero.mp enough)]
    exact Takes.refl
  | succ rounds ih =>
    cases rows with
    | nil => exact Takes.refl
    | cons row rows =>
      -- the rest of the group, once the chunk is settled or streamed
      have step : ∀ {chunk : Stream → Stream} {size : Nat}, 0 < size →
          Takes claimed chunk ((row :: rows).take chunkRows) →
          Takes claimed (fun stream => cycle.readGroup scope rounds size (chunk stream)
            ((row :: rows).drop chunkRows)) (row :: rows) := by
        intro _ _ sized taken
        refine (taken.next (ih ?_ sized)).of_perm ?_
        · rw [length_drop]
          omega
        · exact perm_append_comm.trans (.of_eq (take_append_drop _ _))
      intro stream
      simp only [readGroup]
      split
      · exact step positive (.foldl_each fun row => .mark row .retry) stream
      next =>
        refine step ?_ (.foldl_each fun _ => takes_hydrateRow distinct) stream
        unfold Tools.nextAdaptiveChunkRows
        split
        · exact positive
        · exact Nat.lt_of_lt_of_le Nat.zero_lt_one (Nat.le_max_left _ _)

theorem advances_processDriverRows (driverRows : List StorageRow)
    (known : ∀ row ∈ marked driverRows, row ∈ claimed) (once : (marked driverRows).Nodup) :
    Stream.Advances claimed (marked driverRows) {} (cycle.processDriverRows driverRows) := by
  have classified :
      Takes claimed (driverRows.foldl cycle.classify ·) (driverRows.filter direct) := by
    refine (Takes.foldl _ _ _ fun _ _ => takes_classify distinct).of_perm (.of_eq ?_)
    rw [← filter_flatMap, flatMap_singleton']
  have grouped := classified.next (.foldl cycle.writeIdGroup (fun group => [group.2])
    (writeIdGroups driverRows) fun group _ => takes_writeIdGroup group)
  have read := grouped.next (.foldl (fun stream group => cycle.readGroup group.1
    group.2.length (min idOnlyReadProbeRows idOnlyReadChunkRows) stream group.2) Prod.snd
    (idOnlyGroups driverRows) fun group _ =>
      takes_readGroup distinct group.2.length.le_refl (by decide))
  have flushed : Takes claimed cycle.flush [] := takes_flush distinct
  have whole : Takes claimed _ (marked driverRows) := read.next flushed
  exact whole {} ⟨nodup_nil, by simp [Stream.waiting], by simp⟩ once fun row mem =>
    ⟨known row mem, by simp [Stream.waiting], rfl⟩

end DrainCycle

/-! ## Answers that settle a row -/

/-- The writes that find the row claimed: a retry gives it back. -/
def reaching : List DrainOutcome → List DrainOutcome
  | [] => []
  | outcome :: rest => if outcome = .settled .retry then [outcome] else outcome :: reaching rest

def OneOutcome (writes : List DrainOutcome) : Prop :=
  ∃ outcome, ∀ other, other ∈ reaching writes ↔ other = outcome

theorem not_oneOutcome_nil : ¬ OneOutcome [] := by
  rintro ⟨outcome, only⟩
  exact not_mem_nil ((only outcome).mpr rfl)

theorem oneOutcome_singleton (outcome : DrainOutcome) : OneOutcome [outcome] := by
  refine ⟨outcome, fun other => ?_⟩
  simp [reaching]

theorem reaching_replicate_append (times : Nat) (kept : outcome ≠ .settled .retry) :
    reaching (replicate times outcome ++ rest) = replicate times outcome ++ reaching rest := by
  induction times with
  | zero => rfl
  | succ _ ih => simp [replicate_succ, reaching, kept, ih]

namespace IndexReply

/-- The answer does not call the operation both passed and not. -/
def Consistent (opId : Nat) : IndexReply → Prop
  | raised _ => True
  | reported result => opId ∈ result.passed →
    opId ∉ result.transient.map Prod.fst ∧ opId ∉ result.poison.map Prod.fst

instance (opId : Nat) : (reply : IndexReply) → Decidable (reply.Consistent opId)
  | raised _ => inferInstanceAs (Decidable True)
  | reported _ => inferInstanceAs (Decidable (_ → _))

def NamesOnce (opId : Nat) : IndexReply → Prop
  | raised _ => True
  | reported result => result.ids.count opId ≤ 1

theorem length_writes (reply : IndexReply) (opId : Nat) :
    (reply.writes opId).length = 1 ↔ reply.NamesOnce opId := by
  cases reply with
  | raised => simp [writes, NamesOnce]
  | reported result =>
    have said : (result.said opId).length = result.ids.count opId := by
      simp [BulkIndexResult.said, BulkIndexResult.ids]
    rw [writes, NamesOnce]
    split
    next unnamed =>
      rw [List.isEmpty_iff.mp unnamed] at said
      simp [← said]
    next named =>
      have nonempty : (result.said opId).length ≠ 0 := by simpa using named
      omega

theorem mem_reaching_said (result : BulkIndexResult) (opId : Nat) (other : DrainOutcome) :
    other ∈ reaching ((result.said opId).map .settled) ↔
      (opId ∈ result.passed ∧ other = .settled .done) ∨
      (opId ∈ result.transient.map Prod.fst ∧ other = .settled .retry) ∨
      (opId ∉ result.transient.map Prod.fst ∧ opId ∈ result.poison.map Prod.fst ∧
        other = .settled .dead) := by
  have named (ids : List Nat) : ids.count opId ≠ 0 ↔ opId ∈ ids := by
    rw [ne_eq, count_eq_zero, not_not]
  rw [BulkIndexResult.said, map_append, map_append, map_replicate, map_replicate, map_replicate,
    append_assoc, reaching_replicate_append _ (by decide), mem_append, mem_replicate, named]
  refine or_congr Iff.rfl ?_
  by_cases busy : opId ∈ result.transient.map Prod.fst
  · obtain ⟨times, counted⟩ := Nat.exists_eq_succ_of_ne_zero ((named _).mpr busy)
    rw [counted]
    simp [replicate_succ, reaching, busy]
  · rw [count_eq_zero.mpr busy, replicate_zero, nil_append, ← append_nil (replicate _ _),
      reaching_replicate_append _ (by decide), mem_append, mem_replicate, named]
    simp [reaching, busy]

theorem oneOutcome_writes (reply : IndexReply) (opId : Nat) :
    OneOutcome ((reply.writes opId).map .settled) ↔ reply.Consistent opId := by
  cases reply with
  | raised => simpa [writes, Consistent] using oneOutcome_singleton _
  | reported result =>
    rw [writes, Consistent]
    split
    next unnamed =>
      have absent := (result.said_eq_nil_iff opId).mp (List.isEmpty_iff.mp unnamed)
      refine iff_of_true (oneOutcome_singleton _) fun passed => absurd ?_ absent
      simp [BulkIndexResult.ids, passed]
    next named =>
      have listed : opId ∈ result.ids := by simpa [result.said_eq_nil_iff] using named
      simp only [OneOutcome, mem_reaching_said]
      by_cases passed : opId ∈ result.passed
      · constructor
        · rintro ⟨outcome, only⟩ _
          have done := (only (.settled .done)).mp (.inl ⟨passed, rfl⟩)
          have idle : opId ∉ result.transient.map Prod.fst := fun busy =>
            nomatch ((only (.settled .retry)).mp (.inr (.inl ⟨busy, rfl⟩))).trans done.symm
          refine ⟨idle, fun poisoned => ?_⟩
          exact nomatch ((only (.settled .dead)).mp (.inr (.inr ⟨idle, poisoned, rfl⟩))).trans
            done.symm
        · intro consistent
          obtain ⟨idle, sane⟩ := consistent passed
          exact ⟨.settled .done, fun other => by simp only [passed, idle, sane]; simp⟩
      · refine iff_of_true ?_ fun given => absurd given passed
        by_cases busy : opId ∈ result.transient.map Prod.fst
        · exact ⟨.settled .retry, fun other => by simp only [passed, busy]; simp⟩
        · have poisoned : opId ∈ result.poison.map Prod.fst := by
            rw [BulkIndexResult.ids, mem_append, mem_append] at listed
            exact listed.resolve_left (not_or.mpr ⟨passed, busy⟩)
          exact ⟨.settled .dead, fun other => by simp only [passed, busy, poisoned]; simp⟩

end IndexReply

/-! ## A claimed batch -/

/-- Two claimed rows of a driver that refer to the batch of one write. -/
structure StorageRow.SameWrite (left right : StorageRow) : Prop where
  driverId : left.driverId = right.driverId
  refers : (writeIdOf left).isSome ∧ (writeIdOf right).isSome
  key : DrainCycle.writeKey left = DrainCycle.writeKey right

theorem flatMap_of_unique {Entry Value : Type} {list : List Entry} {entry : Entry}
    {values : Entry → List Value} (distinct : list.Nodup) (mem : entry ∈ list)
    (others : ∀ other ∈ list, other ≠ entry → values other = []) :
    list.flatMap values = values entry := by
  obtain ⟨front, back, rfl⟩ := append_of_mem mem
  rw [nodup_middle, nodup_cons, mem_append, not_or] at distinct
  have before : front.flatMap values = [] := flatMap_eq_nil_iff.mpr fun other inFront =>
    others other (mem_append_left _ inFront) (by rintro rfl; exact distinct.1.1 inFront)
  have after : back.flatMap values = [] := flatMap_eq_nil_iff.mpr fun other inBack =>
    others other (by simp [inBack]) (by rintro rfl; exact distinct.1.2 inBack)
  rw [flatMap_append, flatMap_cons, before, after, append_nil, nil_append]

namespace ClaimedBatch

section

variable (batch : ClaimedBatch) (process : DrainProcess) (cycle : String → DrainCycle Content)

def marks : List (StorageRow × DrainOutcome) :=
  (drainOnce process cycle batch.rows).flatMap fun driver => driver.2.marks

/-- The rows of every sub-chunk of the drain beside the answer of the indexer. -/
def chunks : List (List StorageRow × IndexReply) :=
  (Dict.group StorageRow.driverId batch.rows).flatMap fun driver =>
    if process.resolveIndexer driver.1 then ((cycle driver.1).processDriverRows driver.2).flushed
    else []

/-- No two rows refer to the same write of a driver that is resolved. -/
def Apart : Prop :=
  ∀ left ∈ batch.rows, ∀ right ∈ batch.rows,
    process.resolveIndexer left.driverId → left.SameWrite right → left = right

def driverMarks (driver : String × List StorageRow) : List (StorageRow × DrainOutcome) :=
  if process.resolveIndexer driver.1 then
    ((cycle driver.1).processDriverRows driver.2).marks.map fun mark => (mark.1, .settled mark.2)
  else process.handleUnresolvableRows driver.1 driver.2

end

variable {batch : ClaimedBatch} {process : DrainProcess} {cycle : String → DrainCycle Content}
  {driver : String × List StorageRow}

theorem distinct_group (mem : driver ∈ Dict.group StorageRow.driverId batch.rows) :
    (driver.2.map StorageRow.opId).Nodup := by
  have whole := ((flatMap_group driverId).map opId).nodup_iff.mpr batch.distinct
  rw [map_flatMap, nodup_flatMap] at whole
  exact whole.1 driver mem

theorem advances_driver (mem : driver ∈ Dict.group StorageRow.driverId batch.rows) :
    Stream.Advances driver.2 (marked driver.2) {}
      ((cycle driver.1).processDriverRows driver.2) := by
  have own : (marked driver.2).Subperm driver.2 := marked_subperm
  refine advances_processDriverRows (distinct_group mem) driver.2
    (fun _ inside => own.subset inside) ?_
  obtain ⟨_, reordered, kept⟩ := own
  exact reordered.nodup_iff.mp ((distinct_group mem).of_map.sublist kept)

theorem writesTo_settled (stream : Stream) : writesTo row
    (stream.marks.map fun mark => (mark.1, DrainOutcome.settled mark.2)) =
      (writesTo row stream.marks).map .settled := by
  rw [writesTo, writesTo, filterMap_map, map_filterMap]
  congr 1
  funext mark
  simp only [Function.comp_apply]
  split <;> rfl

theorem handleUnresolvableRows_perm (driverRows : List StorageRow) :
    ((process.handleUnresolvableRows name driverRows).map Prod.fst).Perm driverRows := by
  refine .trans (.of_eq ?_) (flatMap_group
    (fun row => (row.catalogId, row.collectionId.getD "")))
  rw [DrainProcess.handleUnresolvableRows, map_flatMap]
  refine flatMap_congr fun _ _ => ?_
  simp only
  split <;> simp [Function.comp_def]

theorem writesTo_driverMarks_of_not_mem (mem : driver ∈ Dict.group StorageRow.driverId batch.rows)
    (absent : row ∉ driver.2) : writesTo row (driverMarks process cycle driver) = [] := by
  unfold driverMarks
  split
  · rw [writesTo_settled, ((advances_driver mem).untouched row
      (fun inside => absent (marked_subperm.subset inside)) ⟨by simp [Stream.waiting], rfl⟩).2]
    rfl
  · exact writesTo_of_not_mem fun inside =>
      absent ((handleUnresolvableRows_perm driver.2).mem_iff.mp inside)

theorem writesTo_marks (mem : driver ∈ Dict.group StorageRow.driverId batch.rows)
    (inside : row ∈ driver.2) :
    writesTo row (batch.marks process cycle) = writesTo row (driverMarks process cycle driver) := by
  have spread : writesTo row (batch.marks process cycle) =
      (Dict.group StorageRow.driverId batch.rows).flatMap fun driver =>
        writesTo row (driverMarks process cycle driver) := by
    rw [marks, drainOnce, flatMap_map, writesTo, filterMap_flatMap]
    refine flatMap_congr fun driver _ => ?_
    unfold driverMarks
    split <;> rfl
  rw [spread]
  refine flatMap_of_unique (nodup_group driverId).of_map mem fun other otherMem different => ?_
  refine writesTo_driverMarks_of_not_mem otherMem fun inOther => different ?_
  refine inj_on_of_nodup_map (nodup_group driverId) otherMem mem ?_
  exact (mem_of_mem_group otherMem inOther).2.symm.trans (mem_of_mem_group mem inside).2

theorem exists_driver (mem : row ∈ batch.rows) :
    ∃ driver ∈ Dict.group StorageRow.driverId batch.rows, row ∈ driver.2 ∧
      driver.1 = row.driverId := by
  obtain ⟨driver, driverMem, inside⟩ := mem_flatMap.mp ((flatMap_group driverId).mem_iff.mpr mem)
  exact ⟨driver, driverMem, inside, (mem_of_mem_group driverMem inside).2.symm⟩

/-- A row of a driver that is resolved is written to if it is among those that are marked. -/
theorem writes_resolved (driverMem : driver ∈ Dict.group StorageRow.driverId batch.rows)
    (inside : row ∈ driver.2) (resolved : process.resolveIndexer driver.1) :
    (row ∉ marked driver.2 ∧ writesTo row (batch.marks process cycle) = []) ∨
    row ∈ marked driver.2 ∧ ((∃ outcome, writesTo row (batch.marks process cycle) = [outcome]) ∨
      ∃ chunk ∈ batch.chunks process cycle, row ∈ chunk.1) := by
  have advanced : Stream.Advances _ _ _ ((cycle driver.1).processDriverRows driver.2) :=
    advances_driver driverMem
  have finished : ((cycle driver.1).processDriverRows driver.2).waiting = [] := by
    rw [Stream.waiting, processDriverRows, pending_flush, map_nil]
  rw [writesTo_marks driverMem inside, driverMarks, if_pos resolved, writesTo_settled]
  by_cases taken : row ∈ marked driver.2
  · refine .inr ⟨taken, ?_⟩
    rcases advanced.taken row taken with waits | ⟨outcome, single⟩ | ⟨chunk, chunkMem, mem⟩
    · simp [finished] at waits
    · exact .inl ⟨.settled outcome, congrArg (map _) single⟩
    · refine .inr ⟨chunk, mem_flatMap.mpr ⟨driver, driverMem, ?_⟩, mem⟩
      rwa [if_pos resolved]
  · refine .inl ⟨taken, ?_⟩
    rw [(advanced.untouched row taken ⟨by simp [Stream.waiting], rfl⟩).2]
    rfl

theorem writes_chunk (chunkMem : chunk ∈ batch.chunks process cycle) (mem : row ∈ chunk.1) :
    row ∈ batch.rows ∧ writesTo row (batch.marks process cycle) =
      (chunk.2.writes row.opId).map .settled := by
  obtain ⟨driver, driverMem, flushed⟩ := mem_flatMap.mp chunkMem
  split at flushed
  next resolved =>
    have advanced : Stream.Advances _ _ _ ((cycle driver.1).processDriverRows driver.2) :=
      advances_driver driverMem
    have logged := advanced.sound.logged chunk flushed row mem
    have inside : row ∈ driver.2 := by
      by_contra absent
      have untouched := advanced.untouched row (fun taken => absent (marked_subperm.subset taken))
        ⟨by simp [Stream.waiting], rfl⟩
      exact chunk.2.writes_ne_nil _ (logged.symm.trans untouched.2)
    refine ⟨(mem_of_mem_group driverMem inside).1, ?_⟩
    rw [writesTo_marks driverMem inside, driverMarks, if_pos resolved, writesTo_settled, logged]
  · cases flushed

theorem marked_of_apart (apart : batch.Apart process)
    (driverMem : driver ∈ Dict.group StorageRow.driverId batch.rows)
    (resolved : process.resolveIndexer driver.1) : (marked driver.2).Perm driver.2 := by
  refine marked_perm (distinct_group driverMem).of_map ?_
  intro left leftMem right rightMem leftRefers rightRefers key
  obtain ⟨leftMem, leftNamed⟩ := mem_of_mem_group driverMem leftMem
  obtain ⟨rightMem, rightNamed⟩ := mem_of_mem_group driverMem rightMem
  exact apart left leftMem right rightMem (leftNamed ▸ resolved)
    ⟨leftNamed.trans rightNamed.symm, ⟨leftRefers, rightRefers⟩, key⟩

theorem apart_of_written
    (written : ∀ row ∈ batch.rows, writesTo row (batch.marks process cycle) ≠ []) :
    batch.Apart process := by
  intro left leftMem right rightMem resolved same
  have inDriver : ∀ row ∈ batch.rows, process.resolveIndexer row.driverId →
      ∃ driver ∈ group driverId batch.rows, driver.1 = row.driverId ∧ row ∈ marked driver.2 := by
    intro row mem resolved
    obtain ⟨driver, driverMem, inside, named⟩ := exists_driver mem
    rcases writes_resolved driverMem inside (named ▸ resolved) with ⟨_, unwritten⟩ | ⟨taken, _⟩
    · exact absurd unwritten (written row mem)
    · exact ⟨driver, driverMem, named, taken⟩
  obtain ⟨driver, mem, named, leftIn⟩ := inDriver left leftMem resolved
  obtain ⟨other, otherMem, otherNamed, rightIn⟩ :=
    inDriver right rightMem (same.driverId ▸ resolved)
  have sameDriver : other = driver :=
    inj_on_of_nodup_map (nodup_group driverId) otherMem mem
      (otherNamed.trans (same.driverId.symm.trans named.symm))
  rw [sameDriver] at rightIn
  exact inj_on_of_nodup_map map_writeKey_writeIdGroups
    (mem_writeIdGroups_of_marked leftIn same.refers.1)
    (mem_writeIdGroups_of_marked rightIn same.refers.2) same.key

/-- Every row is written to as wanted, where a single write is and none is not, exactly if no write
is shared and every answer is as wanted for the rows of its sub-chunk. -/
theorem all_written_iff (wanted : List DrainOutcome → Prop) (answered : IndexReply → Nat → Prop)
    (unwritten : ¬ wanted []) (one : ∀ outcome, wanted [outcome])
    (answers : ∀ reply opId,
      wanted ((IndexReply.writes opId reply).map .settled) ↔ answered reply opId) :
    (∀ row ∈ batch.rows, wanted (writesTo row (batch.marks process cycle))) ↔
      batch.Apart process ∧
        ∀ chunk ∈ batch.chunks process cycle, ∀ row ∈ chunk.1, answered chunk.2 row.opId := by
  constructor
  · intro each
    refine ⟨apart_of_written fun row mem empty => unwritten (empty ▸ each row mem), ?_⟩
    intro chunk chunkMem row mem
    obtain ⟨claimed, written⟩ := writes_chunk chunkMem mem
    exact (answers _ _).mp (written ▸ each row claimed)
  · rintro ⟨apart, agreed⟩ row mem
    obtain ⟨driver, driverMem, inside, named⟩ := exists_driver mem
    by_cases resolved : process.resolveIndexer driver.1
    · rcases writes_resolved driverMem inside resolved with
        ⟨unmarked, _⟩ | ⟨_, ⟨outcome, single⟩ | ⟨chunk, chunkMem, inChunk⟩⟩
      · exact absurd ((marked_of_apart apart driverMem resolved).mem_iff.mpr inside) unmarked
      · exact single ▸ one outcome
      · rw [(writes_chunk chunkMem inChunk).2]
        exact (answers _ _).mpr (agreed chunk chunkMem row inChunk)
    · have once : (writesTo row (batch.marks process cycle)).length = 1 := by
        rw [writesTo_marks driverMem inside, driverMarks, if_neg resolved, length_writesTo,
          (handleUnresolvableRows_perm driver.2).count_eq]
        exact count_eq_one_of_mem (distinct_group driverMem).of_map inside
      obtain ⟨outcome, single⟩ := length_eq_one_iff.mp once
      exact single ▸ one outcome

/-- Each claimed row gets one outcome exactly if no two of them refer to the same write of a
driver that is resolved and no answer calls a row of its sub-chunk both passed and not. It gets one
write exactly if, beyond that, no answer names such a row twice. -/
theorem one_outcome_iff (batch : ClaimedBatch) (process : DrainProcess)
    (cycle : String → DrainCycle Content) :
    ((∀ row ∈ batch.rows, OneOutcome (writesTo row (batch.marks process cycle))) ↔
      batch.Apart process ∧
        ∀ chunk ∈ batch.chunks process cycle, ∀ row ∈ chunk.1, chunk.2.Consistent row.opId) ∧
    ((∀ row ∈ batch.rows, (writesTo row (batch.marks process cycle)).length = 1) ↔
      batch.Apart process ∧
        ∀ chunk ∈ batch.chunks process cycle, ∀ row ∈ chunk.1, chunk.2.NamesOnce row.opId) := by
  constructor
  · exact all_written_iff _ (fun reply opId => reply.Consistent opId) not_oneOutcome_nil
      oneOutcome_singleton fun reply opId => reply.oneOutcome_writes opId
  · refine all_written_iff (fun writes => writes.length = 1)
      (fun reply opId => reply.NamesOnce opId) (by simp) (fun _ => rfl) ?_
    intro reply opId
    rw [length_map]
    exact reply.length_writes opId

/-! A delete that is claimed twice, a row that names an item and one that names a write, with an
indexer that repeats itself, and a write that is delivered twice. -/

def mixed : ClaimedBatch where
  rows :=
    [{ opId := 0, day := 0, catalogId := "cat", driverId := "es", collectionId := some "col"
       op := .delete, readyAt := 0, entityId := some "a", createdAt := 0 },
     { opId := 1, day := 0, catalogId := "cat", driverId := "es", collectionId := some "col"
       op := .upsert, readyAt := 0, entityId := some "b", createdAt := 0 },
     { opId := 2, day := 0, catalogId := "cat", driverId := "es", collectionId := some "col"
       op := .upsert, readyAt := 0, writeId := some "w", createdAt := 0 },
     { opId := 3, day := 0, catalogId := "cat", driverId := "es", collectionId := some "col"
       op := .delete, readyAt := 0, entityId := some "a", createdAt := 0 }]
  distinct := by decide

def redelivered (count : Nat) : ClaimedBatch where
  rows := (List.range count).map fun opId =>
    { opId := opId, day := 0, catalogId := "cat", driverId := "es", collectionId := some "col"
      op := .upsert, readyAt := 0, writeId := some "w", createdAt := 0 }
  distinct := by simp [Function.comp_def, List.nodup_range]

def esProcess : DrainProcess where
  collectionIndex := fun _ => some (.itemsElasticsearch true)
  assetIndex := fun _ => none
  routing := fun _ _ _ => none
  now := 0

def esCycle : DrainCycle Unit where
  reads :=
    { hub := fun _ _ => Table.empty.upsert ⟨"b", (), "w", false⟩
      canonicalError := fun _ _ _ => none
      primaryError := fun _ _ _ => none
      buildCanonicalDoc := fun _ _ _ => .ok [] }
  reply := fun call => .reported
    { passed := [0, 0], transient := if call = 0 then [] else [(3, "busy")], poison := [] }
  byteBudget := 4
  estimateDocBytes := fun _ => 1

theorem mixed_settled : ∀ row ∈ mixed.rows,
    OneOutcome (writesTo row (mixed.marks esProcess fun _ => esCycle)) := by
  refine (one_outcome_iff mixed esProcess fun _ => esCycle).1.mpr ⟨?_, by decide⟩
  intro left leftMem right rightMem _ same
  have named : ∀ row ∈ mixed.rows, (writeIdOf row).isSome → row.opId = 2 := by decide
  exact inj_on_of_nodup_map mixed.distinct leftMem rightMem
    ((named left leftMem same.refers.1).trans (named right rightMem same.refers.2).symm)

theorem earlier_row_unmarked : ¬ ∀ row ∈ (redelivered 2).rows,
    OneOutcome (writesTo row ((redelivered 2).marks esProcess fun _ => esCycle)) := by
  intro each
  obtain ⟨row, mem, unwritten⟩ : ∃ row ∈ (redelivered 2).rows,
      writesTo row ((redelivered 2).marks esProcess fun _ => esCycle) = [] :=
    ⟨_, .head _, by decide⟩
  exact not_oneOutcome_nil (unwritten ▸ each row mem)

end ClaimedBatch

end Dynastore.Workclass
