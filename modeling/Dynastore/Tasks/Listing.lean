import Mathlib.Data.Prod.Lex
import Dynastore.Foundation.Base64
import Dynastore.Foundation.Keyset
import Dynastore.Tasks.Task

/-! The routes fetch one row more than a page holds. `_to_task_page` cuts that row off and makes the
cursor of the next page from it, while the keyset predicate of the next query starts strictly behind
the cursor. Whoever follows the cursors therefore never sees the rows at the page boundaries. -/

namespace Dynastore.Tasks

open Keyset List Option

/-! ## Cursors -/

/-- The texts of a timestamp and of a task id, as `datetime.isoformat` and
`str(uuid)` print them and `fromisoformat` and `UUID` read them. -/
structure CursorText where
  isoformat : Time → String
  fromisoformat : String → Option Time
  uuidText : TaskId → String
  parseUuid : String → Option TaskId
  fromisoformat_isoformat : ∀ time, fromisoformat (isoformat time) = some time
  parseUuid_uuidText : ∀ taskId, parseUuid (uuidText taskId) = some taskId
  bar_not_mem_uuidText : ∀ taskId, '|' ∉ (uuidText taskId).toList

def rsplitBar (raw : String) : Option (String × String) :=
  let last := (raw.toList.reverse.takeWhile (· != '|')).reverse
  match raw.toList.reverse.drop last.length with
  | [] => none
  | _ :: front => some (String.ofList front.reverse, String.ofList last)

def encodeCursor (text : CursorText) (row : TaskRow) : String :=
  let raw := text.isoformat row.timestamp ++ "|" ++ text.uuidText row.taskId
  String.ofList (Base64.encode raw.toUTF8.data.toList)

/-- `decode_cursor`, `none` where it raises. -/
def decodeCursor (text : CursorText) (cursor : String) : Option (Time × TaskId) := do
  let bytes ← Base64.decode cursor.toList
  let raw ← String.fromUTF8? ⟨bytes.toArray⟩
  let (timestampText, taskIdText) ← rsplitBar raw
  let timestamp ← text.fromisoformat timestampText
  let taskId ← text.parseUuid taskIdText
  return (timestamp, taskId)

theorem rsplitBar_append (barless : '|' ∉ last.toList) :
    rsplitBar (front ++ "|" ++ last) = some (front, last) := by
  have reversed : (front ++ "|" ++ last).toList.reverse =
      last.toList.reverse ++ '|' :: front.toList.reverse := by
    simp
  have taken : (last.toList.reverse ++ '|' :: front.toList.reverse).takeWhile (· != '|') =
      last.toList.reverse := by
    rw [takeWhile_append_of_pos]
    · simp
    · intro char mem
      have ne : char ≠ '|' := by
        rintro rfl
        exact barless (by simpa using mem)
      simpa using ne
  simp only [rsplitBar, reversed, taken, reverse_reverse]
  simp

theorem fromUTF8_toUTF8 : String.fromUTF8? text.toUTF8 = some text := by
  unfold String.fromUTF8?
  split
  · rfl
  · rename_i invalid
    exact absurd text.isValidUTF8 invalid

theorem decodeCursor_encodeCursor : decodeCursor text (encodeCursor text row) = some row.key := by
  simp only [decodeCursor, encodeCursor, String.toList_ofList, Base64.decode_encode,
    Array.toArray_toList, bind_eq_bind, bind_some]
  rw [fromUTF8_toUTF8]
  simp only [bind_some]
  rw [rsplitBar_append (text.bar_not_mem_uuidText row.taskId)]
  simp [text.fromisoformat_isoformat, text.parseUuid_uuidText, TaskRow.key]

/-! ## Queries -/

structure TaskFilter where
  kind : Option String := none
  status : Option String := none
  taskType : Option String := none
  collectionId : Option String := none
  assetId : Option String := none
  createdBefore : Option Time := none

def TaskFilter.accepts (filter : TaskFilter) (row : TaskRow) : Bool :=
  filter.kind.all (fun kind => row.type == kind) &&
    filter.status.all (fun status => row.status.text == status) &&
    filter.taskType.all (fun taskType => row.taskType == taskType) &&
    filter.collectionId.all (fun collectionId => row.collectionId == some collectionId) &&
    filter.assetId.all (fun assetId => row.input "asset_id" == some assetId) &&
    filter.createdBefore.all (fun before => decide (row.timestamp < before))

def TaskFilter.acceptsIn (filter : TaskFilter) (schema : String) (row : TaskRow) : Bool :=
  row.catalogId == schema && filter.accepts row

/-- The `WHERE` clause of `list_tasks_system`, which has no collection filter. -/
def TaskFilter.acceptsSystem (filter : TaskFilter) (row : TaskRow) : Bool :=
  ["system", "platform"].contains row.catalogId &&
    { filter with collectionId := none }.accepts row

def ascending (row : TaskRow) : Time ×ₗ TaskId := toLex row.key

def descending (row : TaskRow) : (Time ×ₗ TaskId)ᵒᵈ := OrderDual.toDual (ascending row)

/-- `list_tasks`. The offset applies to a request without a cursor. -/
def listTasks (text : CursorText) (table : TaskTable) (schema : String) (limit offset : Nat)
    (filter : TaskFilter) (cursor : Option String) : Option (List TaskRow) :=
  match cursor with
  | none => some (((ordered descending
      (table.rows.filter (filter.acceptsIn schema))).drop offset).take limit)
  | some token => (decodeCursor text token).map fun position =>
    select descending table.rows (filter.acceptsIn schema)
      (some (OrderDual.toDual (toLex position))) limit

def listTasksSystem (text : CursorText) (table : TaskTable) (limit : Nat) (filter : TaskFilter)
    (cursor : Option String) : Option (List TaskRow) :=
  match cursor with
  | none => some (select descending table.rows filter.acceptsSystem none limit)
  | some token => (decodeCursor text token).map fun position =>
    select descending table.rows filter.acceptsSystem
      (some (OrderDual.toDual (toLex position))) limit

structure DeadLetterFilter where
  catalogId : Option String := none
  collectionId : Option String := none
  taskType : Option String := none

def DeadLetterFilter.accepts (filter : DeadLetterFilter) (row : TaskRow) : Bool :=
  row.status == .deadLetter && filter.catalogId.all (fun catalogId => row.catalogId == catalogId &&
      filter.collectionId.all (fun collectionId => row.collectionId == some collectionId)) &&
    filter.taskType.all (fun taskType => row.taskType == taskType)

def listDeadLetterTasks (text : CursorText) (table : TaskTable) (limit : Nat)
    (filter : DeadLetterFilter) (cursor : Option String) : Option (List TaskRow) :=
  match cursor with
  | none => some (select ascending table.rows filter.accepts none limit)
  | some token => (decodeCursor text token).map fun position =>
    select ascending table.rows filter.accepts (some (toLex position)) limit

/-! ## Pages -/

structure TaskPage where
  items : List TaskRow
  nextCursor : Option String

/-- `_project_collection_external_ids` on one task. The resolver is missing
without a catalog service and gives `none` where it fails. -/
def projectCollectionExternalId (resolver : Option (String → String → Option String))
    (row : TaskRow) : TaskRow :=
  match resolver, row.collectionId with
  | some resolve, some collectionId =>
    if collectionId = "" ∨ row.catalogId = "" then row
    else
      match resolve row.catalogId collectionId with
      | none | some "" => row
      | some external => { row with collectionId := some external }
  | _, _ => row

/-- `_to_task_page`: the cursor is made from the row behind the page. -/
def toTaskPage (text : CursorText) (resolver : Option (String → String → Option String))
    (rows : List TaskRow) (limit : Nat) : TaskPage where
  items := (rows.take limit).map (projectCollectionExternalId resolver)
  nextCursor := rows[limit]?.map (encodeCursor text)

/-- Follow `next_cursor` from a cursor until it is null. `none` is a refused
cursor, or too little fuel. -/
def followCursors (page : Option String → Option TaskPage) :
    (fuel : Nat) → (cursor : Option String) → Option (List TaskRow)
  | 0, _ => none
  | fuel + 1, cursor => do
      let current ← page cursor
      match current.nextCursor with
      | none => return current.items
      | some next => return current.items ++ (← followCursors page fuel (some next))

section Follow

variable {text : CursorText} {resolver : Option (String → String → Option String)} {limit : Nat}
  {fetch : Option String → Option (List TaskRow)} {listed : List TaskRow}

def pageOf (text : CursorText) (resolver : Option (String → String → Option String))
    (limit : Nat) (fetch : Option String → Option (List TaskRow)) (cursor : Option String) :
    Option TaskPage :=
  (fetch cursor).map fun rows => toTaskPage text resolver rows limit

/-- The queries behind a listing: without a cursor they give the start of the
list, with the cursor of a row what follows that row. -/
structure Serves (text : CursorText) (limit : Nat)
    (fetch : Option String → Option (List TaskRow)) (listed : List TaskRow) : Prop where
  start : fetch none = some (listed.take (limit + 1))
  behind : ∀ before row after, listed = before ++ row :: after →
    fetch (some (encodeCursor text row)) = some (after.take (limit + 1))

theorem followCursors_from (serves : Serves text limit fetch listed) :
    ∀ (fuel : Nat) (cursor : Option String) (before rest : List TaskRow),
      listed = before ++ rest → fetch cursor = some (rest.take (limit + 1)) →
      rest.length < fuel →
      followCursors (pageOf text resolver limit fetch) fuel cursor =
        some ((skipEvery limit limit rest).map (projectCollectionExternalId resolver)) := by
  intro fuel
  induction fuel with
  | zero =>
    omega
  | succ _ ih =>
    intro _ before rest split fetched _
    have taken : (rest.take (limit + 1)).take limit = rest.take limit := by
      rw [take_take, Nat.min_eq_left (Nat.le_succ limit)]
    by_cases fits : rest.length ≤ limit
    · have noBoundary : (rest.take (limit + 1))[limit]? = none := by
        rw [getElem?_eq_none_iff, length_take]
        omega
      simp only [followCursors, pageOf, fetched, map_some, toTaskPage, noBoundary,
        map_none, taken, bind_eq_bind, bind_some]
      rw [take_of_length_le fits, skipEvery_of_length_le fits]
      rfl
    · have inBounds : limit < rest.length := by omega
      have boundary : (rest.take (limit + 1))[limit]? = some rest[limit] := by
        rw [getElem?_take_of_lt (Nat.lt_succ_self limit), getElem?_eq_getElem inBounds]
      have restSplit : rest = rest.take limit ++ rest[limit] :: rest.drop (limit + 1) := by
        rw [getElem_cons_drop, take_append_drop]
      have listedSplit :
          listed = (before ++ rest.take limit) ++ rest[limit] :: rest.drop (limit + 1) := by
        rw [append_assoc, ← restSplit]
        exact split
      have continued := ih (some (encodeCursor text rest[limit]))
        (before ++ rest.take limit ++ [rest[limit]]) (rest.drop (limit + 1))
        (by simpa using listedSplit) (serves.behind _ _ _ listedSplit)
        (by rw [length_drop]; omega)
      have skipped : skipEvery limit limit rest =
          rest.take limit ++ skipEvery limit limit (rest.drop (limit + 1)) :=
        calc skipEvery limit limit rest
            = skipEvery limit limit (rest.take limit ++ rest[limit] :: rest.drop (limit + 1)) := by
              rw [← restSplit]
          _ = _ := skipEvery_append (by rw [length_take]; omega)
      simp only [followCursors, pageOf, fetched, map_some, toTaskPage, boundary, taken,
        bind_eq_bind, bind_some]
      rw [continued, skipped, map_append]
      rfl

/-- Following the cursors of `listing` ends, and collects `expected` exactly
when `condition` holds. -/
def CollectsIff (listing : Option String → Option TaskPage) (fuel : Nat)
    (expected : List TaskRow) (condition : Prop) : Prop :=
  ∃ collected, followCursors listing fuel none = some collected ∧ (collected = expected ↔ condition)

theorem collectsIff_of_serves [LinearOrder Key] {key : TaskRow → Key} {table : TaskTable}
    (resolver : Option (String → String → Option String))
    (serves : Serves text limit fetch (ordered key (table.rows.filter accepts))) :
    CollectsIff (pageOf text resolver limit fetch) (table.rows.length + 1)
      ((ordered key (table.rows.filter accepts)).map (projectCollectionExternalId resolver))
      ((table.rows.filter accepts).length ≤ limit) := by
  have enough : (ordered key (table.rows.filter accepts)).length < table.rows.length + 1 := by
    rw [length_ordered]
    exact Nat.lt_succ_of_le (length_filter_le accepts table.rows)
  refine ⟨_, followCursors_from serves _ none [] (ordered key (table.rows.filter accepts)) rfl
    serves.start enough, ?_⟩
  rw [← length_ordered key]
  constructor
  · intro same
    have sameLength := congrArg length same
    rw [length_map, length_map] at sameLength
    exact (length_skipEvery_eq_iff).mp sameLength
  · intro fits
    rw [skipEvery_of_length_le fits]

end Follow

/-! ## The three listings -/

section Listings

variable (text : CursorText) (table : TaskTable)

theorem ascending_nodup : (table.rows.map ascending).Nodup := by
  have mapped : table.rows.map ascending = (table.rows.map TaskRow.key).map toLex := by
    rw [List.map_map]
    rfl
  rw [mapped]
  exact table.distinct.map toLex.injective

theorem descending_nodup : (table.rows.map descending).Nodup := by
  have mapped : table.rows.map descending = (table.rows.map ascending).map OrderDual.toDual := by
    rw [List.map_map]
    rfl
  rw [mapped]
  exact (ascending_nodup table).map OrderDual.toDual.injective

theorem listTasks_serves (schema : String) (limit : Nat) (filter : TaskFilter) :
    Serves text limit (listTasks text table schema (limit + 1) 0 filter)
      (ordered descending (table.rows.filter (filter.acceptsIn schema))) where
  start := rfl
  behind := by
    intro _ _ _ split
    simp only [listTasks, decodeCursor_encodeCursor, map_some]
    exact congrArg some (select_some descending (descending_nodup table) split (limit + 1))

theorem listTasksSystem_serves (filter : TaskFilter) :
    Serves text limit (listTasksSystem text table (limit + 1) filter)
      (ordered descending (table.rows.filter filter.acceptsSystem)) where
  start := congrArg some (select_none descending)
  behind := by
    intro _ _ _ split
    simp only [listTasksSystem, decodeCursor_encodeCursor, map_some]
    exact congrArg some (select_some descending (descending_nodup table) split (limit + 1))

theorem listDeadLetterTasks_serves (filter : DeadLetterFilter) :
    Serves text limit (listDeadLetterTasks text table (limit + 1) filter)
      (ordered ascending (table.rows.filter filter.accepts)) where
  start := congrArg some (select_none ascending)
  behind := by
    intro _ _ _ split
    simp only [listDeadLetterTasks, decodeCursor_encodeCursor, map_some]
    exact congrArg some (select_some ascending (ascending_nodup table) split (limit + 1))

end Listings

/-- Each of the three listings yields its filtered rows, in order and each
once, exactly when they fit on one page. -/
theorem listings_complete_iff (text : CursorText)
    (resolver : Option (String → String → Option String)) (table : TaskTable) (limit : Nat) :
    (∀ schema filter,
      CollectsIff (pageOf text resolver limit (listTasks text table schema (limit + 1) 0 filter))
        (table.rows.length + 1)
        ((ordered descending (table.rows.filter (filter.acceptsIn schema))).map
          (projectCollectionExternalId resolver))
        ((table.rows.filter (filter.acceptsIn schema)).length ≤ limit)) ∧
    (∀ filter : TaskFilter,
      CollectsIff (pageOf text resolver limit (listTasksSystem text table (limit + 1) filter))
        (table.rows.length + 1)
        ((ordered descending (table.rows.filter filter.acceptsSystem)).map
          (projectCollectionExternalId resolver))
        ((table.rows.filter filter.acceptsSystem).length ≤ limit)) ∧
    (∀ filter : DeadLetterFilter,
      CollectsIff (pageOf text resolver limit (listDeadLetterTasks text table (limit + 1) filter))
        (table.rows.length + 1)
        ((ordered ascending (table.rows.filter filter.accepts)).map
          (projectCollectionExternalId resolver))
        ((table.rows.filter filter.accepts).length ≤ limit)) :=
  ⟨fun schema filter =>
      collectsIff_of_serves resolver (listTasks_serves text table schema limit filter),
    fun filter => collectsIff_of_serves resolver (listTasksSystem_serves text table filter),
    fun filter => collectsIff_of_serves resolver (listDeadLetterTasks_serves text table filter)⟩

/-- Tally marks for numbers, which come back as they were written. -/
def tallyText : CursorText where
  isoformat time := String.ofList (List.replicate time.natAbs (if time < 0 then '-' else '+'))
  fromisoformat written :=
    some (if written.toList.contains '-' then -written.toList.length else written.toList.length)
  uuidText taskId := String.ofList (List.replicate taskId '+')
  parseUuid written := some written.toList.length
  fromisoformat_isoformat := by
    intro (time : Int)
    simp only [String.toList_ofList, List.length_replicate, List.contains_iff_mem,
      List.mem_replicate]
    by_cases negative : time < 0
    · have magnitude : -(time.natAbs : Int) = time := by omega
      rw [if_pos negative, if_pos ⟨by omega, rfl⟩, magnitude]
    · have magnitude : (time.natAbs : Int) = time := by omega
      rw [if_neg negative, if_neg (fun marked => absurd marked.2 (by decide)), magnitude]
  parseUuid_uuidText := by simp
  bar_not_mem_uuidText := by simp [List.mem_replicate]

def twoTasks : TaskTable where
  rows := [{ taskId := 1, catalogId := "c1", taskType := "ingest", timestamp := 10 },
    { taskId := 2, catalogId := "c1", taskType := "ingest", timestamp := 20 }]
  distinct := by decide

/-- With pages of one row, only one of two tasks is ever listed, however times and ids are
written. -/
theorem boundary_row_never_listed : Nonempty CursorText ∧ ∀ text : CursorText, ¬∃ collected,
      followCursors (pageOf text none 1 (listTasks text twoTasks "c1" 2 0 {})) 3 none =
          some collected ∧
        collected = (ordered descending (twoTasks.rows.filter (TaskFilter.acceptsIn {} "c1"))).map
            (projectCollectionExternalId none) := by
  refine ⟨⟨tallyText⟩, ?_⟩
  rintro text ⟨_, followed, whole⟩
  have collects : CollectsIff _ 3 _ _ :=
    collectsIff_of_serves none (listTasks_serves text twoTasks "c1" 1 {})
  rcases collects with ⟨_, followedToo, complete⟩
  rw [followed] at followedToo
  cases followedToo
  exact absurd (complete.mp whole) (by decide)

end Dynastore.Tasks
