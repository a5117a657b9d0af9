import Mathlib.Data.Finset.Prod
import Mathlib.Data.Int.Bitwise
import Mathlib.Order.Interval.Finset.Nat
import Mathlib.Tactic.LinearCombination

/-! `_builtin_zxy_to_tileid` turns the coordinates from level to level on integers that may become
negative: only their lowest bits count. On these it computes the curve that enters a square at `(0,
0)` and leaves it at the other end of the same row. -/

namespace Dynastore.Tiles

/-! ## The writer's loop -/

/-- `1 if (t & s) > 0 else 0` for `s = 2 ^ level`, in two's complement. -/
def bitAt (t : Int) (level : Nat) : Nat := (t.testBit level).toNat

def turn (s : Int) (rx ry : Nat) (tx ty : Int) : Int × Int :=
  if ry = 0 then if rx = 1 then (s - 1 - ty, s - 1 - tx) else (ty, tx) else (tx, ty)

/-- The rounds of the loop from `s = 2 ^ (level - 1)` on. -/
def hilbertLoop : Nat → Int × Int → Nat → Nat
  | 0, _, d => d
  | level + 1, t, d =>
    hilbertLoop level (turn (2 ^ level) (bitAt t.1 level) (bitAt t.2 level) t.1 t.2)
      (d + 2 ^ level * 2 ^ level * (3 * bitAt t.1 level ^^^ bitAt t.2 level))

def builtinZxyToTileid (z : Nat) (x y : Int) : Nat :=
  if z = 0 then 0 else (4 ^ z - 1) / 3 + hilbertLoop z (x, y) 0

/-! ## The curve -/

def Within (level x y : Nat) : Prop := x < 2 ^ level ∧ y < 2 ^ level

def ShareEdge (x y x' y' : Nat) : Prop :=
  x = x' ∧ (y' = y + 1 ∨ y = y' + 1) ∨ y = y' ∧ (x' = x + 1 ∨ x = x' + 1)

def curve : Nat → Nat → Nat → Nat
  | 0, _, _ => 0
  | level + 1, x, y =>
    if y < 2 ^ level then
      if x < 2 ^ level then curve level y x
      else 3 * 4 ^ level + curve level (2 ^ level - 1 - y) (2 * 2 ^ level - 1 - x)
    else if x < 2 ^ level then 4 ^ level + curve level x (y - 2 ^ level)
    else 2 * 4 ^ level + curve level (x - 2 ^ level) (y - 2 ^ level)

/-- The tile `(x, y)` is the tile `(u, v)` of a quadrant. -/
def Placed (s quadrant u v x y : Nat) : Prop :=
  quadrant = 0 ∧ x = v ∧ y = u ∨ quadrant = 1 ∧ x = u ∧ y = s + v ∨
    quadrant = 2 ∧ x = s + u ∧ y = s + v ∨ quadrant = 3 ∧ x + v + 1 = 2 * s ∧ y + u + 1 = s

variable {level x y x' y' : Nat}

theorem curve_succ (within : Within (level + 1) x y) :
    ∃ quadrant u v, Within level u v ∧ Placed (2 ^ level) quadrant u v x y ∧
      curve (level + 1) x y = quadrant * 4 ^ level + curve level u v := by
  unfold Within Placed at *
  rw [curve]
  split
  · split
    · exact ⟨0, y, x, by omega, by omega, by omega⟩
    · exact ⟨3, 2 ^ level - 1 - y, 2 * 2 ^ level - 1 - x, by omega, by omega, rfl⟩
  · split
    · exact ⟨1, x, y - 2 ^ level, by omega, by omega, by omega⟩
    · exact ⟨2, x - 2 ^ level, y - 2 ^ level, by omega, by omega, rfl⟩

theorem curve_lt (within : Within level x y) : curve level x y < 4 ^ level := by
  induction level generalizing x y with
  | zero => exact Nat.one_pos
  | succ _ ih =>
    obtain ⟨_, _, _, inside, placed, value⟩ := curve_succ within
    have below := ih inside
    rcases placed with ⟨rfl, _⟩ | ⟨rfl, _⟩ | ⟨rfl, _⟩ | ⟨rfl, _⟩ <;> omega

theorem enters (within : Within level x y) (first : curve level x y = 0) : x = 0 ∧ y = 0 := by
  induction level generalizing x y with
  | zero => exact ⟨Nat.lt_one_iff.mp within.1, Nat.lt_one_iff.mp within.2⟩
  | succ level ih =>
    obtain ⟨_, _, _, inside, placed, value⟩ := curve_succ within
    rw [value, Nat.add_eq_zero_iff, Nat.mul_eq_zero] at first
    have corner := ih inside first.2
    have positive := Nat.pow_pos (n := level) (show 0 < 4 by decide)
    unfold Placed at placed
    omega

theorem leaves (within : Within level x y) (last : curve level x y + 1 = 4 ^ level) :
    x + 1 = 2 ^ level ∧ y = 0 := by
  induction level generalizing x y with
  | zero =>
    unfold Within at within
    omega
  | succ _ ih =>
    obtain ⟨_, _, _, inside, placed, value⟩ := curve_succ within
    have below := curve_lt inside
    rcases placed with ⟨rfl, _⟩ | ⟨rfl, _⟩ | ⟨rfl, _⟩ | ⟨rfl, _⟩
    · omega
    · omega
    · omega
    · have corner := ih inside (by omega)
      omega

section

variable (within : Within level x y) (within' : Within level x' y')

include within within'

theorem curve_inj (same : curve level x y = curve level x' y') : x = x' ∧ y = y' := by
  induction level generalizing x y x' y' with
  | zero =>
    unfold Within at within within'
    omega
  | succ _ ih =>
    obtain ⟨quadrant, _, _, inside, placed, value⟩ := curve_succ within
    obtain ⟨quadrant', _, _, inside', placed', value'⟩ := curve_succ within'
    have below := curve_lt inside
    have below' := curve_lt inside'
    rw [value, value'] at same
    unfold Placed at placed placed'
    have sameQuadrant : quadrant = quadrant' := by
      rcases placed with ⟨rfl, _⟩ | ⟨rfl, _⟩ | ⟨rfl, _⟩ | ⟨rfl, _⟩ <;>
      rcases placed' with ⟨rfl, _⟩ | ⟨rfl, _⟩ | ⟨rfl, _⟩ | ⟨rfl, _⟩ <;> omega
    subst sameQuadrant
    have sameTile := ih inside inside' (Nat.add_left_cancel same)
    omega

theorem shareEdge_of_curve (next : curve level x' y' = curve level x y + 1) :
    ShareEdge x y x' y' := by
  induction level generalizing x y x' y' with
  | zero => cases next
  | succ level ih =>
    obtain ⟨quadrant, u, v, inside, placed, value⟩ := curve_succ within
    obtain ⟨quadrant', u', v', inside', placed', value'⟩ := curve_succ within'
    have below := curve_lt inside
    have below' := curve_lt inside'
    unfold Placed at placed placed'
    have follows : quadrant' = quadrant ∨
        quadrant' = quadrant + 1 ∧ curve level u v + 1 = 4 ^ level ∧ curve level u' v' = 0 := by
      rcases placed with ⟨rfl, _⟩ | ⟨rfl, _⟩ | ⟨rfl, _⟩ | ⟨rfl, _⟩ <;>
      rcases placed' with ⟨rfl, _⟩ | ⟨rfl, _⟩ | ⟨rfl, _⟩ | ⟨rfl, _⟩ <;> omega
    unfold ShareEdge at ih ⊢
    rcases follows with rfl | ⟨rfl, last, first⟩
    · have edge := ih inside inside' (by omega)
      omega
    · have corner := leaves inside last
      have corner' := enters inside' first
      omega

end

/-! ## The loop computes the curve -/

theorem testBit_eq : n.testBit level = decide (2 ^ level ≤ n % 2 ^ (level + 1)) := by
  rw [Nat.testBit_eq_decide_div_mod_eq, Nat.pow_succ, Nat.mod_mul, decide_eq_decide]
  rcases Nat.mod_two_eq_zero_or_one (n / 2 ^ level) with even | odd
  · rw [even]
    omega
  · rw [odd]
    omega

/-- Only the bits up to the level count, whatever the sign. -/
theorem bitAt_eq (bound : x < 2 ^ (level + 1)) :
    bitAt (x + 2 ^ level * (2 * k)) level = if x < 2 ^ level then 0 else 1 := by
  have residue : (x + 2 ^ level * (2 * k) : Int) % (2 ^ (level + 1) : Nat) = x := by
    push_cast
    rw [pow_succ, ← mul_assoc, Int.add_mul_emod_self_left]
    exact Int.emod_eq_of_lt (Int.natCast_nonneg x) (by exact_mod_cast bound)
  generalize (x + 2 ^ level * (2 * k) : Int) = t at residue
  have bit : t.testBit level = decide (¬ x < 2 ^ level) := by
    cases t with
    | ofNat =>
      rw [Int.ofNat_eq_natCast, ← Int.natCast_emod, Int.natCast_inj] at residue
      rw [Int.testBit, testBit_eq, residue, decide_eq_decide, not_lt]
    | negSucc n =>
      rw [Int.negSucc_emod n (by exact_mod_cast Nat.two_pow_pos _), ← Int.natCast_emod] at residue
      rw [Int.testBit, testBit_eq, ← decide_not, decide_eq_decide]
      omega
  rw [bitAt, bit]
  split <;> simp [*]

theorem hilbertLoop_eq (d : Nat) (within : Within level x y) (k l : Int) :
    hilbertLoop level (x + 2 ^ level * k, y + 2 ^ level * l) d = d + curve level x y := by
  induction level generalizing x y d k l with
  | zero => rfl
  | succ level ih =>
    obtain ⟨_, u, v, inside, placed, value⟩ := curve_succ within
    have square : 2 ^ level * 2 ^ level = 4 ^ level := (Nat.mul_pow 2 2 level).symm
    have turned {q : Nat} {t : Int × Int} (k l : Int)
        (place : t = (u + 2 ^ level * k, v + 2 ^ level * l)) :
        hilbertLoop level t (d + 4 ^ level * q) = d + (q * 4 ^ level + curve level u v) := by
      rw [place, ih _ inside, Nat.mul_comm, Nat.add_assoc]
    rw [value, hilbertLoop, pow_succ, mul_assoc, mul_assoc, bitAt_eq within.1, bitAt_eq within.2,
      square]
    obtain ⟨left, low⟩ := inside
    rcases placed with ⟨rfl, rfl, rfl⟩ | ⟨rfl, rfl, rfl⟩ | ⟨rfl, rfl, rfl⟩ | ⟨rfl, xPlace, yPlace⟩
    · rw [if_pos low, if_pos left]
      exact turned (2 * l) (2 * k) rfl
    · rw [if_pos left, if_neg (by omega)]
      refine turned (2 * k) (2 * l + 1) (Prod.ext rfl ?_)
      simp only [turn, Nat.cast_add, Nat.cast_pow, Nat.cast_ofNat, one_ne_zero, if_false]
      linear_combination
    · rw [if_neg (by omega), if_neg (by omega)]
      refine turned (2 * k + 1) (2 * l + 1) (Prod.ext ?_ ?_) <;>
      · simp only [turn, Nat.cast_add, Nat.cast_pow, Nat.cast_ofNat, one_ne_zero, if_false]
        linear_combination
    · rw [if_neg (by omega), if_pos (by omega)]
      have xPlace : (x + v + 1 : Int) = 2 * 2 ^ level := by exact_mod_cast xPlace
      have yPlace : (y + u + 1 : Int) = 2 ^ level := by exact_mod_cast yPlace
      refine turned (-(2 * l)) (-(2 * k) - 1) (Prod.ext ?_ ?_)
      · simp only [turn, if_true]
        linear_combination -yPlace
      · simp only [turn, if_true]
        linear_combination -xPlace

/-! ## Ids -/

theorem builtinZxyToTileid_eq (within : Within level x y) :
    builtinZxyToTileid level x y = (4 ^ level - 1) / 3 + curve level x y := by
  unfold builtinZxyToTileid
  split
  next zero =>
    subst zero
    rfl
  · have computed := hilbertLoop_eq 0 within 0 0
    simp only [mul_zero, add_zero, Nat.zero_add] at computed
    rw [computed]

/-- The first id of the next zoom. -/
theorem firstId_succ : (4 ^ (z + 1) - 1) / 3 = (4 ^ z - 1) / 3 + 4 ^ z := by
  have positive := Nat.pow_pos (n := z) (show 0 < 4 by decide)
  omega

theorem zoom_le_of_tileid_eq (within : Within z x y) (within' : Within w x' y')
    (same : builtinZxyToTileid z x y = builtinZxyToTileid w x' y') : w ≤ z := by
  rw [builtinZxyToTileid_eq within, builtinZxyToTileid_eq within'] at same
  by_contra higher
  have later : (4 ^ (z + 1) - 1) / 3 ≤ (4 ^ w - 1) / 3 := Nat.div_le_div_right
    (Nat.sub_le_sub_right (Nat.pow_le_pow_right (by decide) (by omega)) 1)
  have below := curve_lt within
  omega

theorem tileid_inj (within : Within z x y) (within' : Within z x' y')
    (same : builtinZxyToTileid z x y = builtinZxyToTileid z x' y') : x = x' ∧ y = y' := by
  rw [builtinZxyToTileid_eq within, builtinZxyToTileid_eq within'] at same
  exact curve_inj within within' (Nat.add_left_cancel same)

/-- The ids of a zoom are one after the other along the Hilbert curve. -/
theorem tileids_follow_hilbert_curve (z : Nat) :
    Set.BijOn (fun tile : Nat × Nat => builtinZxyToTileid z tile.1 tile.2)
        {tile | Within z tile.1 tile.2}
        (Set.Icc ((4 ^ z - 1) / 3) ((4 ^ (z + 1) - 1) / 3 - 1)) ∧
      (∀ w x y x' y', Within z x y → Within w x' y' →
        builtinZxyToTileid z x y = builtinZxyToTileid w x' y' → z = w ∧ x = x' ∧ y = y') ∧
      ∀ x y x' y', Within z x y → Within z x' y' →
        builtinZxyToTileid z x' y' = builtinZxyToTileid z x y + 1 → ShareEdge x y x' y' := by
  refine ⟨?_, ?_, ?_⟩
  · have tiles : {tile : Nat × Nat | Within z tile.1 tile.2} =
        (Finset.range (2 ^ z) ×ˢ Finset.range (2 ^ z) : Finset (Nat × Nat)) := by
      ext tile
      simp [Within]
    generalize ids : (fun tile : Nat × Nat => builtinZxyToTileid z tile.1 tile.2) = id
    have mapsTo : Set.MapsTo id {tile | Within z tile.1 tile.2}
        (Finset.Icc ((4 ^ z - 1) / 3) ((4 ^ (z + 1) - 1) / 3 - 1)) := by
      intro tile within
      have below := curve_lt within
      simp only [← ids, builtinZxyToTileid_eq within, Finset.coe_Icc, Set.mem_Icc, firstId_succ]
      omega
    have injOn : Set.InjOn id {tile | Within z tile.1 tile.2} := by
      intro _ within _ within' same
      rw [← ids] at same
      exact Prod.ext_iff.mpr (tileid_inj within within' same)
    rw [← Finset.coe_Icc]
    refine ⟨mapsTo, injOn, ?_⟩
    -- as many tiles as ids
    rw [tiles] at mapsTo injOn ⊢
    apply Finset.surjOn_of_injOn_of_card_le _ mapsTo injOn
    rw [Finset.card_product, Finset.card_range, ← Nat.mul_pow, Nat.card_Icc, firstId_succ]
    have positive := Nat.pow_pos (n := z) (show 0 < 4 by decide)
    change _ ≤ 4 ^ z
    omega
  · intro w x y x' y' within within' same
    obtain rfl : z = w := le_antisymm (zoom_le_of_tileid_eq within' within same.symm)
      (zoom_le_of_tileid_eq within within' same)
    exact ⟨rfl, tileid_inj within within' same⟩
  · intro _ _ _ _ within within' next
    rw [builtinZxyToTileid_eq within, builtinZxyToTileid_eq within'] at next
    exact shareEdge_of_curve within within' (by omega)

end Dynastore.Tiles
