import Dynastore.Tiles.TileId
import Mathlib.Data.Nat.Log

/-! What the built-in PMTiles v3 writer puts into the output stream. -/

namespace Dynastore.Tiles

abbrev Bytes := List UInt8

/-- The non-empty tiles by their ids, as `write_pmtiles` hands them over. -/
def collect (tiles : List (Nat × Int × Int × Bytes)) : List (Nat × Bytes) :=
  ((tiles.filter fun tile => tile.2.2.2 ≠ []).map fun tile =>
    (builtinZxyToTileid tile.1 tile.2.1 tile.2.2.1, tile.2.2.2)).mergeSort fun left right =>
      left.1 ≤ right.1

/-! ## Directories -/

/-- `_Entry`. -/
structure Entry where
  tileId : Nat
  offset : Nat
  length : Nat
  runLength : Nat

def writeVarint (value : Nat) : Bytes :=
  if value >>> 7 = 0 then [(value &&& 0x7F).toUInt8]
  else (value &&& 0x7F ||| 0x80).toUInt8 :: writeVarint (value >>> 7)
termination_by value
decreasing_by
  rw [Nat.shiftRight_eq_div_pow] at *
  omega

def deltas (lastId : Nat) : List Entry → List Nat
  | [] => []
  | e :: entries => (e.tileId - lastId) :: deltas e.tileId entries

/-- 0 for an entry that immediately follows the previous one in the data section. -/
def Entry.offsetCode (previous : Option Entry) (e : Entry) : Nat :=
  if previous.any fun before => before.runLength = 1 ∧ e.offset = before.offset + before.length
  then 0 else e.offset + 1

def offsetCodes (previous : Option Entry) : List Entry → List Nat
  | [] => []
  | e :: entries => e.offsetCode previous :: offsetCodes (some e) entries

def directoryCodes (entries : List Entry) : List Nat :=
  entries.length :: (deltas 0 entries ++ entries.map Entry.runLength ++
    entries.map Entry.length ++ offsetCodes none entries)

def serializeDirectory (entries : List Entry) : Bytes :=
  (directoryCodes entries).flatMap writeVarint

def dirEntries (dataOffset : Nat) : List (Nat × Bytes) → List Entry
  | [] => []
  | (tileId, data) :: raw =>
    ⟨tileId, dataOffset, data.length, 1⟩ :: dirEntries (dataOffset + data.length) raw

def leafSize : Nat := 4096

def leafChunks : List Entry → List (Entry × List Entry)
  | [] => []
  | e :: entries => (e, entries.take (leafSize - 1)) :: leafChunks (entries.drop (leafSize - 1))
termination_by entries => entries.length

def leafBytes (chunk : Entry × List Entry) : Bytes := serializeDirectory (chunk.1 :: chunk.2)

def rootEntries (leafOffset : Nat) : List (Entry × List Entry) → List Entry
  | [] => []
  | chunk :: chunks =>
    ⟨chunk.1.tileId, leafOffset, (leafBytes chunk).length, 0⟩ ::
      rootEntries (leafOffset + (leafBytes chunk).length) chunks

def maxRootEntries : Nat := 16384

/-- The directories of an archive: the entries of the root, and the leaves. -/
def directories (raw : List (Nat × Bytes)) : List Entry × Bytes :=
  if (dirEntries 0 raw).length ≤ maxRootEntries then (dirEntries 0 raw, [])
  else (rootEntries 0 (leafChunks (dirEntries 0 raw)),
    (leafChunks (dirEntries 0 raw)).flatMap leafBytes)

def rootDirBytes (raw : List (Nat × Bytes)) : Bytes := serializeDirectory (directories raw).1

/-! ## Header -/

def headerSize : Nat := 127

def littleEndian : Nat → Nat → Bytes
  | 0, _ => []
  | width + 1, value => value.toUInt8 :: littleEndian width (value / 256)

def byteOf (value : Int) : UInt8 := (value % 256).toNat.toUInt8

/-- The corners of the box and its centre, in 1e-7 degrees. -/
structure Bounds where
  minLon : Int
  minLat : Int
  maxLon : Int
  maxLat : Int
  centerLon : Int
  centerLat : Int

def Bounds.box (bounds : Bounds) : List Int :=
  [bounds.minLon, bounds.minLat, bounds.maxLon, bounds.maxLat]

def Bounds.center (bounds : Bounds) : List Int := [bounds.centerLon, bounds.centerLat]

structure Settings where
  metadata : Bytes
  minZoom : Int
  maxZoom : Int
  bounds : Bounds

def packI (value : Int) : Bytes := littleEndian 4 (value % 2 ^ 32).toNat

/-- `PMTiles` and the version. -/
def magic : Bytes := [0x50, 0x4D, 0x54, 0x69, 0x6C, 0x65, 0x73, 3]

/-- Nothing is written where `struct.pack_into` refuses a number that is out of range. -/
def writeHeader (settings : Settings) (sections : List Nat) : Option Bytes :=
  if (∀ value ∈ sections, value < 2 ^ 64) ∧ ∀ value ∈ settings.bounds.box ++ settings.bounds.center,
      -2 ^ 31 ≤ value ∧ value < 2 ^ 31 then
    some (magic ++ sections.flatMap (littleEndian 8) ++
      [1, 1, 1, 1, byteOf settings.minZoom, byteOf settings.maxZoom] ++
      settings.bounds.box.flatMap packI ++
      [byteOf ((settings.minZoom + settings.maxZoom) / 2)] ++
      settings.bounds.center.flatMap packI)
  else none

/-! ## The writer -/

structure Stats where
  nTiles : Nat
  totalBytes : Nat

/-- What the optional library does to the stream. -/
inductive Library where
  | unavailable
  | returns (written : Bytes) (stats : Stats)
  | raises (written : Bytes)

def tileDataBytes (raw : List (Nat × Bytes)) : Bytes := raw.flatMap Prod.snd

def sectionLengths (settings : Settings) (raw : List (Nat × Bytes)) : List Nat :=
  [(rootDirBytes raw).length, settings.metadata.length, (directories raw).2.length,
    (tileDataBytes raw).length]

/-- Offset and length of each section in turn. -/
def placed (offset : Nat) : List Nat → List Nat
  | [] => []
  | length :: lengths => offset :: length :: placed (offset + length) lengths

/-- The 64-bit numbers of the header. -/
def headerNumbers (settings : Settings) (raw : List (Nat × Bytes)) : List Nat :=
  placed headerSize (sectionLengths settings raw) ++ [raw.length, raw.length, raw.length]

def writeBuiltin (settings : Settings) (raw : List (Nat × Bytes)) (output : Bytes) :
    Option (Bytes × Stats) :=
  (writeHeader settings (headerNumbers settings raw)).map fun header =>
      (output ++ (header ++ rootDirBytes raw ++ settings.metadata ++ (directories raw).2 ++
        tileDataBytes raw), ⟨raw.length, headerSize + (sectionLengths settings raw).sum⟩)

def writePmtilesFromRaw (library : Library) (settings : Settings) (raw : List (Nat × Bytes))
    (output : Bytes) : Option (Bytes × Stats) :=
  match library with
  | .unavailable => writeBuiltin settings raw output
  | .returns written stats => some (output ++ written, stats)
  | .raises written => writeBuiltin settings raw (output ++ written)

/-! ## The fallback -/

theorem length_littleEndian (width value : Nat) : (littleEndian width value).length = width := by
  induction width generalizing value with
  | zero => rfl
  | succ _ ih => rw [littleEndian, List.length_cons, ih]

theorem length_writeHeader (written : writeHeader settings sections = some header)
    (eleven : sections.length = 11) : header.length = headerSize := by
  unfold writeHeader at written
  split at written
  · cases written
    simp [List.length_flatMap, length_littleEndian, packI, magic, eleven, headerSize, Bounds.box,
      Bounds.center]
  · cases written

theorem writeHeader_eq_none_iff : writeHeader settings sections = none ↔
    (∃ value ∈ sections, 2 ^ 64 ≤ value) ∨
      ∃ value ∈ settings.bounds.box ++ settings.bounds.center,
        value < -2 ^ 31 ∨ 2 ^ 31 ≤ value := by
  have ranged : ∀ value : Int, ¬ (-2 ^ 31 ≤ value ∧ value < 2 ^ 31) ↔
      value < -2 ^ 31 ∨ 2 ^ 31 ≤ value := by omega
  rw [writeHeader, ite_eq_right_iff, imp_iff_not (Option.some_ne_none _), not_and_or]
  simp only [not_forall, exists_prop, not_lt, ranged]

theorem writeBuiltin_append (settings : Settings) (raw : List (Nat × Bytes)) (output : Bytes) :
    writeBuiltin settings raw output =
      (writeBuiltin settings raw []).map fun result => (output ++ result.1, result.2) := by
  simp only [writeBuiltin, Option.map_map, List.nil_append]
  rfl

theorem totalBytes_writeBuiltin (written : writeBuiltin settings raw [] = some (archive, stats)) :
    stats.totalBytes = archive.length := by
  obtain ⟨header, headed, same⟩ := Option.map_eq_some_iff.mp written
  cases same
  simp only [List.nil_append, List.length_append, length_writeHeader headed rfl, sectionLengths,
    List.sum_cons, List.sum_nil]
  omega

/-- The built-in writer goes on where the library stopped. -/
theorem fallback_exact_iff (settings : Settings) (tiles : List (Nat × Int × Int × Bytes))
    (written : Bytes) :
    (∀ contents stats, writePmtilesFromRaw (.raises written) settings (collect tiles) [] =
        some (contents, stats) →
      (writePmtilesFromRaw .unavailable settings (collect tiles) []).map Prod.fst = some contents ∧
        stats.totalBytes = contents.length) ↔
    written = [] ∨ (∃ value ∈ headerNumbers settings (collect tiles), 2 ^ 64 ≤ value) ∨
      ∃ value ∈ settings.bounds.box ++ settings.bounds.center,
        value < -2 ^ 31 ∨ 2 ^ 31 ≤ value := by
  generalize collect tiles = raw
  have refused : writeBuiltin settings raw [] = none ↔ _ :=
    Option.map_eq_none_iff.trans writeHeader_eq_none_iff
  rw [← refused]
  simp only [writePmtilesFromRaw, List.nil_append, writeBuiltin_append settings raw written]
  cases alone : writeBuiltin settings raw [] with
  | none => simp
  | some result =>
    constructor
    · intro faithful
      obtain ⟨same, _⟩ := faithful _ _ rfl
      exact .inl (List.append_left_eq_self.mp (Option.some.inj same).symm)
    · rintro (rfl | ⟨⟨⟩⟩) _ _ returned
      cases returned
      exact ⟨rfl, totalBytes_writeBuiltin alone⟩

def worldSettings : Settings where
  metadata := [0x7B, 0x7D]
  minZoom := 0
  maxZoom := 14
  bounds := ⟨-1800000000, -900000000, 1800000000, 900000000, 0, 0⟩

/-- The library's byte stands before the archive, and the length that is reported leaves it out. -/
theorem residue_before_archive : ∃ archive stats,
    writePmtilesFromRaw .unavailable worldSettings (collect [(0, 0, 0, [1])]) [] =
      some (archive, stats) ∧
    writePmtilesFromRaw (.raises [0x50]) worldSettings (collect [(0, 0, 0, [1])]) [] =
      some (0x50 :: archive, stats) ∧
    archive.length = 135 ∧ stats.totalBytes = 135 := by
  have sizes : (writeBuiltin worldSettings (collect [(0, 0, 0, [1])]) []).map
      (fun result => (result.1.length, result.2.totalBytes)) = some (135, 135) := by decide +kernel
  obtain ⟨⟨archive, stats⟩, alone, same⟩ := Option.map_eq_some_iff.mp sizes
  refine ⟨archive, stats, alone, ?_, (Prod.mk.inj same).1, (Prod.mk.inj same).2⟩
  rw [writePmtilesFromRaw, writeBuiltin_append, List.nil_append, alone]
  rfl

/-! ## The size of the root -/

theorem length_writeVarint (value : Nat) : (writeVarint value).length = Nat.log 128 value + 1 := by
  fun_induction writeVarint with
  | case1 _ low =>
    rw [Nat.log_of_lt (by omega)]
    rfl
  | case2 value high ih =>
    have step := Nat.log_of_one_lt_of_le (b := 128) (n := value) (by decide) (by omega)
    rw [List.length_cons, ih, step, Nat.shiftRight_eq_div_pow]

theorem length_deltas (lastId : Nat) (entries : List Entry) :
    (deltas lastId entries).length = entries.length := by
  induction entries generalizing lastId with
  | nil => rfl
  | cons _ _ ih => rw [deltas, List.length_cons, ih, List.length_cons]

theorem length_offsetCodes (previous : Option Entry) (entries : List Entry) :
    (offsetCodes previous entries).length = entries.length := by
  induction entries generalizing previous with
  | nil => rfl
  | cons _ _ ih => rw [offsetCodes, List.length_cons, ih, List.length_cons]

/-- What numbers take as varints beyond one byte for each. -/
def extraBytes (numbers : List Nat) : Nat := (numbers.map (Nat.log 128)).sum

theorem extraBytes_append (left right : List Nat) :
    extraBytes (left ++ right) = extraBytes left + extraBytes right := by
  rw [extraBytes, List.map_append, List.sum_append]
  rfl

theorem extraBytes_eq_zero (small : ∀ number ∈ numbers, number < 128) : extraBytes numbers = 0 := by
  apply List.sum_eq_zero
  rw [List.forall_mem_map]
  exact fun number mem => Nat.log_of_lt (small number mem)

/-- Four bytes for each entry, and more for the numbers of more than seven bits. -/
theorem length_serializeDirectory (entries : List Entry) :
    (serializeDirectory entries).length = 4 * entries.length + 1 + (extraBytes [entries.length] +
      extraBytes (deltas 0 entries) + extraBytes (entries.map Entry.runLength) +
      extraBytes (entries.map Entry.length) + extraBytes (offsetCodes none entries)) := by
  have codes : (directoryCodes entries).length = 4 * entries.length + 1 := by
    simp only [directoryCodes, List.length_cons, List.length_append, List.length_map,
      length_deltas, length_offsetCodes]
    omega
  have bytes : (serializeDirectory entries).length =
      (directoryCodes entries).length + extraBytes (directoryCodes entries) := by
    rw [serializeDirectory, List.length_flatMap, extraBytes]
    simp only [length_writeVarint, List.sum_map_add, List.map_const', List.sum_replicate,
      smul_eq_mul, mul_one]
    exact Nat.add_comm _ _
  rw [bytes, codes, directoryCodes, ← List.singleton_append, extraBytes_append, extraBytes_append,
    extraBytes_append, extraBytes_append]
  omega

/-! ### Directories of tiles

How many bytes a directory takes is said of the ids and the sizes of the tiles. -/

def gaps (last : Nat) : List Nat → List Nat
  | [] => []
  | id :: ids => (id - last) :: gaps id ids

def sizes (raw : List (Nat × Bytes)) : List Nat := raw.map (·.2.length)

/-- The directory of tiles with `start` bytes of tile data before the first: of the offsets only
that of the first tile is written out. -/
def tileDirectorySize (start : Nat) (raw : List (Nat × Bytes)) : Nat :=
  4 * raw.length + 1 + extraBytes [raw.length, start + 1] + extraBytes (gaps 0 (raw.map Prod.fst)) +
    extraBytes (sizes raw)

/-- The tiles of a leaf, and the bytes of tile data before them. -/
structure Leaf where
  start : Nat
  first : Nat × Bytes
  others : List (Nat × Bytes)

namespace Leaf

def size (leaf : Leaf) : Nat := tileDirectorySize leaf.start (leaf.first :: leaf.others)

/-- The entries of a leaf as the writer cuts them out of the directory. -/
def chunk (leaf : Leaf) : Entry × List Entry :=
  (⟨leaf.first.1, leaf.start, leaf.first.2.length, 1⟩,
    dirEntries (leaf.start + leaf.first.2.length) leaf.others)

end Leaf

def cutLeaves (start : Nat) : List (Nat × Bytes) → List Leaf
  | [] => []
  | tile :: raw =>
    ⟨start, tile, raw.take (leafSize - 1)⟩ ::
      cutLeaves (start + tile.2.length + (sizes (raw.take (leafSize - 1))).sum)
        (raw.drop (leafSize - 1))
termination_by raw => raw.length

def starts (offset : Nat) : List Nat → List Nat
  | [] => []
  | length :: lengths => offset :: starts (offset + length) lengths

/-- The root of an archive with leaves: the offset of every leaf is written out. -/
def leafDirectorySize (cut : List Leaf) : Nat :=
  4 * cut.length + 1 + extraBytes [cut.length] + extraBytes (gaps 0 (cut.map (·.first.1))) +
    extraBytes (cut.map Leaf.size) +
    extraBytes ((starts 0 (cut.map Leaf.size)).map (· + 1))

theorem length_dirEntries (dataOffset : Nat) (raw : List (Nat × Bytes)) :
    (dirEntries dataOffset raw).length = raw.length := by
  induction raw generalizing dataOffset with
  | nil => rfl
  | cons _ _ ih => rw [dirEntries, List.length_cons, ih, List.length_cons]

theorem deltas_dirEntries (last start : Nat) (raw : List (Nat × Bytes)) :
    deltas last (dirEntries start raw) = gaps last (raw.map Prod.fst) := by
  induction raw generalizing last start with
  | nil => rfl
  | cons _ _ ih => rw [dirEntries, deltas, ih, List.map_cons, gaps]

theorem lengths_dirEntries (start : Nat) (raw : List (Nat × Bytes)) :
    (dirEntries start raw).map Entry.length = sizes raw := by
  induction raw generalizing start with
  | nil => rfl
  | cons _ _ ih => rw [dirEntries, List.map_cons, ih, sizes, sizes, List.map_cons]

theorem runLengths_dirEntries (start : Nat) (raw : List (Nat × Bytes)) :
    ∀ number ∈ (dirEntries start raw).map Entry.runLength, number < 128 := by
  induction raw generalizing start with
  | nil => exact fun _ mem => nomatch mem
  | cons _ _ ih => exact List.forall_mem_cons.mpr ⟨(by decide : 1 < 128), ih _⟩

/-- Every tile follows the one before it in the data section. -/
theorem offsetCodes_dirEntries {previous : Entry} (raw : List (Nat × Bytes))
    (single : previous.runLength = 1) :
    ∀ code ∈ offsetCodes (some previous) (dirEntries (previous.offset + previous.length) raw),
      code < 128 := by
  induction raw generalizing previous with
  | nil => exact fun _ mem => nomatch mem
  | cons tile raw ih =>
    refine List.forall_mem_cons.mpr ⟨?_, ih rfl⟩
    simp [Entry.offsetCode, single]

theorem length_tileDirectory (start : Nat) (tile : Nat × Bytes) (raw : List (Nat × Bytes)) :
    (serializeDirectory (dirEntries start (tile :: raw))).length =
      tileDirectorySize start (tile :: raw) := by
  have offsets : extraBytes (offsetCodes none (dirEntries start (tile :: raw))) =
      Nat.log 128 (start + 1) := by
    have others := extraBytes_eq_zero
      (@offsetCodes_dirEntries ⟨tile.1, start, tile.2.length, 1⟩ raw rfl)
    rw [extraBytes, dirEntries, offsetCodes, List.map_cons, List.sum_cons]
    exact congrArg (_ + ·) others
  rw [length_serializeDirectory, length_dirEntries, deltas_dirEntries, lengths_dirEntries,
    extraBytes_eq_zero (runLengths_dirEntries _ _), offsets, tileDirectorySize]
  simp only [extraBytes, List.map_cons, List.map_nil, List.sum_cons, List.sum_nil]
  omega

/-! ### Leaves -/

theorem take_dirEntries (start count : Nat) (raw : List (Nat × Bytes)) :
    (dirEntries start raw).take count = dirEntries start (raw.take count) := by
  induction raw generalizing start count with
  | nil => simp [dirEntries]
  | cons _ _ ih => cases count <;> simp [dirEntries, ih]

theorem drop_dirEntries (start count : Nat) (raw : List (Nat × Bytes)) :
    (dirEntries start raw).drop count =
      dirEntries (start + (sizes (raw.take count)).sum) (raw.drop count) := by
  induction raw generalizing start count with
  | nil => simp [dirEntries]
  | cons _ _ ih =>
    cases count with
    | zero => simp [sizes]
    | succ => simp [dirEntries, ih, sizes, Nat.add_assoc]

theorem leafChunks_dirEntries (start : Nat) (raw : List (Nat × Bytes)) :
    leafChunks (dirEntries start raw) = (cutLeaves start raw).map Leaf.chunk := by
  fun_induction cutLeaves start raw with
  | case1 => rw [dirEntries, leafChunks, List.map_nil]
  | case2 start tile raw ih =>
    rw [dirEntries, leafChunks, take_dirEntries, drop_dirEntries, ih, List.map_cons]
    rfl

theorem length_leafBytes (leaf : Leaf) : (leafBytes leaf.chunk).length = leaf.size :=
  length_tileDirectory leaf.start leaf.first leaf.others

section Root

variable (offset : Nat) (cut : List Leaf)

theorem length_rootEntries : (rootEntries offset (cut.map Leaf.chunk)).length = cut.length := by
  induction cut generalizing offset with
  | nil => rfl
  | cons _ _ ih => rw [List.map_cons, rootEntries, List.length_cons, ih, List.length_cons]

theorem deltas_rootEntries (last : Nat) :
    deltas last (rootEntries offset (cut.map Leaf.chunk)) = gaps last (cut.map (·.first.1)) := by
  induction cut generalizing last offset with
  | nil => rfl
  | cons _ _ ih =>
    rw [List.map_cons, rootEntries, deltas, ih]
    rfl

theorem lengths_rootEntries :
    (rootEntries offset (cut.map Leaf.chunk)).map Entry.length = cut.map Leaf.size := by
  induction cut generalizing offset with
  | nil => rfl
  | cons leaf _ ih =>
    rw [List.map_cons, rootEntries, List.map_cons, ih, length_leafBytes, List.map_cons]

theorem runLengths_rootEntries :
    ∀ number ∈ (rootEntries offset (cut.map Leaf.chunk)).map Entry.runLength, number < 128 := by
  induction cut generalizing offset with
  | nil => exact fun _ mem => nomatch mem
  | cons _ _ ih => exact List.forall_mem_cons.mpr ⟨(by decide : 0 < 128), ih _⟩

/-- An entry for a leaf has run length 0, so that no offset is left out. -/
theorem offsetCodes_rootEntries (previous : Option Entry)
    (pointer : ∀ before, previous = some before → before.runLength = 0) :
    offsetCodes previous (rootEntries offset (cut.map Leaf.chunk)) =
      (starts offset (cut.map Leaf.size)).map (· + 1) := by
  induction cut generalizing offset previous with
  | nil => rfl
  | cons leaf _ ih =>
    have written : ∀ next : Entry, next.offsetCode previous = next.offset + 1 := by
      intro next
      cases before : previous with
      | none => rfl
      | some => simp [Entry.offsetCode, pointer _ before]
    rw [List.map_cons, rootEntries, offsetCodes, written, ih _ _ (by rintro _ ⟨⟩; rfl),
      length_leafBytes, List.map_cons, starts, List.map_cons]

theorem length_leafDirectory :
    (serializeDirectory (rootEntries 0 (cut.map Leaf.chunk))).length = leafDirectorySize cut := by
  rw [length_serializeDirectory, length_rootEntries, deltas_rootEntries, lengths_rootEntries,
    extraBytes_eq_zero (runLengths_rootEntries _ _),
    offsetCodes_rootEntries _ _ none (by rintro _ ⟨⟩), leafDirectorySize]
  omega

end Root

/-! ### The root -/

def rootSize (raw : List (Nat × Bytes)) : Nat :=
  if raw.length ≤ maxRootEntries then tileDirectorySize 0 raw
  else leafDirectorySize (cutLeaves 0 raw)

theorem length_rootDirBytes (raw : List (Nat × Bytes)) :
    (rootDirBytes raw).length = rootSize raw := by
  rw [rootDirBytes, directories, rootSize, length_dirEntries]
  split
  · cases raw with
    | nil => decide +kernel
    | cons tile raw => exact length_tileDirectory 0 tile raw
  · rw [leafChunks_dirEntries]
    exact length_leafDirectory _

def RootInFirst16KiB (raw : List (Nat × Bytes)) : Prop :=
  headerSize + (rootDirBytes raw).length ≤ 16384

theorem length_le_of_rootInFirst16KiB (fits : RootInFirst16KiB raw)
    (small : raw.length ≤ maxRootEntries) : raw.length ≤ 4064 := by
  rw [RootInFirst16KiB, length_rootDirBytes, rootSize, if_pos small, tileDirectorySize,
    headerSize] at fits
  omega

/-- What the ids and the sizes of the tiles may take up. No archive of 4065 to 16384 tiles has its
root there. -/
theorem rootInFirst16KiB_iff (tiles : List (Nat × Int × Int × Bytes)) :
    (RootInFirst16KiB (collect tiles) ↔ rootSize (collect tiles) ≤ 16257) ∧
    (RootInFirst16KiB (collect tiles) → (collect tiles).length ≤ maxRootEntries →
      (collect tiles).length ≤ 4064) := by
  refine ⟨?_, length_le_of_rootInFirst16KiB⟩
  rw [RootInFirst16KiB, length_rootDirBytes, headerSize]
  omega

def crowded : List (Nat × Int × Int × Bytes) :=
  (List.range 5000).map fun x : Nat => (13, (x : Int), 0, [1])

theorem crowded_root_overflows : ¬ RootInFirst16KiB (collect crowded) := by
  have count : (collect crowded).length = 5000 := by
    rw [collect, List.length_mergeSort, List.length_map,
      List.filter_eq_self.mpr (by simp [crowded]),
      crowded, List.length_map, List.length_range]
  intro fits
  have few := length_le_of_rootInFirst16KiB fits (by rw [count]; decide)
  omega

end Dynastore.Tiles
