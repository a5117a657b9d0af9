/-! `GdalOsgeoReader` carries what is left to skip from layer to layer, `PyogrioReader` starts its
pages at the offset. A layer is given by the features that its cursor returns after `ResetReading`;
a cursor, by those that it has still to return. -/

namespace Dynastore.Ingest

/-- What `SetNextByIndex` does. -/
inductive NativeSeek where
  | available
  | failing
  | absent
deriving DecidableEq

structure Layer (Feature : Type) where
  features : List Feature
  /-- `GetFeatureCount` returns the number of features, not a negative number or an error. -/
  counted : Bool
  nativeSeek : NativeSeek

variable {Feature Record : Type}

/-- The discard loop: the rows skipped, and where it leaves the cursor. -/
def discard (remaining : Nat) : Nat → List Feature → Nat × List Feature
  | skipped, [] => (skipped, [])
  | skipped, feature :: ahead =>
    if skipped < remaining then discard remaining (skipped + 1) ahead
    else (skipped, feature :: ahead)

/-- The rows still left to skip, and the cursor of the layer. -/
def Layer.skipToOffset (layer : Layer Feature) (remaining : Nat) : Nat × List Feature :=
  if layer.counted ∧ layer.features.length ≤ remaining then
    (remaining - layer.features.length, layer.features)
  else if layer.counted ∧ layer.nativeSeek = .available then (0, layer.features.drop remaining)
  else (remaining - (discard remaining 0 layer.features).1, (discard remaining 0 layer.features).2)

section Layers

variable (record : Layer Feature → Feature → Record)

def iterFeatures : Nat → List (Option (Layer Feature)) → List Record
  | _, [] => []
  | remainingSkip, none :: layers => iterFeatures remainingSkip layers
  | remainingSkip, some layer :: layers =>
    if 0 < remainingSkip then
      if 0 < (layer.skipToOffset remainingSkip).1 then
        iterFeatures (layer.skipToOffset remainingSkip).1 layers
      else (layer.skipToOffset remainingSkip).2.map (record layer) ++ iterFeatures 0 layers
    else layer.features.map (record layer) ++ iterFeatures 0 layers

/-- The offset ends where a counted layer that has features does. -/
def EndsCountedLayer : Nat → List (Option (Layer Feature)) → Prop
  | _, [] => False
  | offset, none :: layers => EndsCountedLayer offset layers
  | offset, some layer :: layers =>
    0 < offset ∧ layer.counted ∧ offset = layer.features.length ∨
      layer.features.length < offset ∧ EndsCountedLayer (offset - layer.features.length) layers

theorem discard_eq :
    discard remaining skipped ahead =
      (skipped + min (remaining - skipped) ahead.length, ahead.drop (remaining - skipped)) := by
  induction ahead generalizing skipped with
  | nil => simp [discard]
  | cons _ _ ih =>
    rw [discard]
    split
    next =>
      rw [ih, List.length_cons, show remaining - skipped = remaining - (skipped + 1) + 1 by omega,
        List.drop_succ_cons]
      congr 1
      omega
    next enough =>
      rw [Nat.sub_eq_zero_of_le (Nat.le_of_not_lt enough), Nat.zero_min]
      rfl

/-- The layer is passed whole, or its cursor stands behind the rows to skip, unless they are
just its counted rows. -/
theorem Layer.skipToOffset_cases (layer : Layer Feature) :
    layer.features.length < remaining ∧
        (layer.skipToOffset remaining).1 = remaining - layer.features.length ∨
      layer.counted ∧ remaining = layer.features.length ∧
        layer.skipToOffset remaining = (0, layer.features) ∨
      remaining ≤ layer.features.length ∧ (layer.counted → remaining < layer.features.length) ∧
        layer.skipToOffset remaining = (0, layer.features.drop remaining) := by
  unfold Layer.skipToOffset
  rw [discard_eq, Nat.sub_zero, Nat.zero_add]
  split
  next within =>
    rcases Nat.lt_or_eq_of_le within.2 with less | same
    · exact .inl ⟨less, rfl⟩
    · exact .inr (.inl ⟨within.1, same.symm, by rw [same, Nat.sub_self]⟩)
  next beyond =>
    have inside (counted : layer.counted) : remaining < layer.features.length :=
      Nat.lt_of_not_le fun within => beyond ⟨counted, within⟩
    split
    next seeks => exact .inr (.inr ⟨Nat.le_of_lt (inside seeks.1), inside, rfl⟩)
    · rcases Nat.lt_or_ge layer.features.length remaining with less | enough
      · exact .inl ⟨less, by rw [Nat.min_eq_right (Nat.le_of_lt less)]⟩
      · refine .inr (.inr ⟨enough, inside, ?_⟩)
        rw [Nat.min_eq_left enough, Nat.sub_self]

theorem iterFeatures_drop_iff (offset : Nat) (layers : List (Option (Layer Feature))) :
    iterFeatures record offset layers = (iterFeatures record 0 layers).drop offset ↔
      ¬ EndsCountedLayer offset layers := by
  induction layers generalizing offset with
  | nil => simp [iterFeatures, EndsCountedLayer]
  | cons first layers ih =>
    cases first with
    | none => exact ih offset
    | some layer =>
      have whole : iterFeatures record 0 (some layer :: layers) =
          layer.features.map (record layer) ++ iterFeatures record 0 layers := rfl
      rcases Nat.eq_zero_or_pos offset with rfl | positive
      · simp [EndsCountedLayer]
      rw [whole, List.drop_append, List.length_map, iterFeatures, if_pos positive, EndsCountedLayer]
      rcases layer.skipToOffset_cases with ⟨passed, left⟩ | ⟨counted, ends, stays⟩ |
        ⟨reached, inside, seeks⟩
      · rw [left, if_pos (by omega), List.drop_eq_nil_of_le (by rw [List.length_map]; omega),
          List.nil_append, ih, or_iff_right (by omega), and_iff_right passed]
      · rw [stays, if_neg (Nat.lt_irrefl 0),
          List.drop_eq_nil_of_le (by rw [List.length_map]; omega),
          ends, Nat.sub_self]
        refine iff_of_false (fun same => ?_) (not_not_intro (.inl ⟨ends ▸ positive, counted, rfl⟩))
        have lengths := congrArg List.length same
        simp only [List.length_append, List.length_map, List.nil_append, List.drop_zero] at lengths
        omega
      · rw [seeks, if_neg (Nat.lt_irrefl 0), Nat.sub_eq_zero_of_le reached, List.map_drop]
        refine iff_of_true rfl ?_
        rintro (⟨_, counted, ends⟩ | ⟨passed, _⟩)
        · exact Nat.ne_of_lt (inside counted) ends
        · omega

end Layers

/-! ## Pages -/

/-- `read_dataframe` with `skip_features` and `max_features`. -/
def readDataframe (features : List Feature) (skip most : Nat) : List Feature :=
  (features.drop skip).take most

def iterChunks (features : List Feature) (chunkSize cursor : Nat) : List Feature :=
  if readDataframe features cursor chunkSize = [] then []
  else if (readDataframe features cursor chunkSize).length < chunkSize then
    readDataframe features cursor chunkSize
  else readDataframe features cursor chunkSize ++ iterChunks features chunkSize (cursor + chunkSize)
termination_by features.length - cursor
decreasing_by
  simp_all only [readDataframe, List.take_eq_nil_iff, List.drop_eq_nil_iff, List.length_take,
    List.length_drop]
  omega

theorem iterChunks_eq (positive : 0 < chunkSize) :
    iterChunks features chunkSize cursor = features.drop cursor := by
  fun_induction iterChunks with
  | case1 _ none =>
    rw [readDataframe, List.take_eq_nil_iff] at none
    exact (none.resolve_left (Nat.ne_of_gt positive)).symm
  | case2 _ _ short =>
    rw [readDataframe, List.length_take] at short
    exact List.take_of_length_le (by omega)
  | case3 _ _ _ ih =>
    rw [ih, ← List.drop_drop]
    exact List.take_append_drop chunkSize _

/-- Seeking is skipping, unless the offset ends where a counted layer does: that layer is read
again. It always is for pages. -/
theorem seeking_is_skipping_iff :
    (∀ (record : Layer Feature → Feature → Record) offset layers,
      iterFeatures record offset layers = (iterFeatures record 0 layers).drop offset ↔
        ¬ EndsCountedLayer offset layers) ∧
    ∀ (features : List Feature) chunkSize offset,
      iterChunks features chunkSize offset = (iterChunks features chunkSize 0).drop offset := by
  refine ⟨iterFeatures_drop_iff, ?_⟩
  intro features chunkSize _
  rcases Nat.eq_zero_or_pos chunkSize with rfl | positive
  · have nothing (cursor : Nat) : iterChunks features 0 cursor = [] := by
      rw [iterChunks, readDataframe, List.take_zero, if_pos rfl]
    rw [nothing, nothing, List.drop_nil]
  · rw [iterChunks_eq positive, iterChunks_eq positive, List.drop_zero]

/-- A resume behind the last row of a layer reads the layer again. -/
theorem counted_layer_read_again :
    let record : Layer String → String → String := fun _ feature => feature
    let layers := [some ⟨["a", "b"], true, .available⟩]
    iterFeatures record 2 layers = ["a", "b"] ∧ (iterFeatures record 0 layers).drop 2 = [] ∧
      iterFeatures record 2 layers ≠ (iterFeatures record 0 layers).drop 2 :=
  ⟨rfl, rfl, List.cons_ne_nil _ _⟩

end Dynastore.Ingest
