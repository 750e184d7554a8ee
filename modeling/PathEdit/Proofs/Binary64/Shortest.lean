import Mathlib.Tactic.FieldSimp
import PathEdit.Binary64.Shortest
import PathEdit.Proofs.Binary64.Nearest

/-! What the shortest decimal of a double is. The search always ends at a decimal that reads back
(`search_reads`), because one of its grids is finer than the surroundings of the number; and since
it comes by the grid of the integers, whole numbers have decimals without negative powers. -/
namespace PathEdit.Binary64

/-- Integers half a unit apart are the same. -/
theorem eq_of_near {n m : Nat} (near : |(n - m : ℚ)| ≤ 1 / 2) : n = m := by
  have close : |(n - m : Int)| < 1 := by
    have close : |(n - m : ℚ)| < 1 := near.trans_lt (by norm_num)
    exact_mod_cast close
  have zero := Int.abs_lt_one_iff.mp close
  omega

/-- The number that a decimal stands for. -/
def Decimal.toRat (d : Decimal) : ℚ := d.digits * 10 ^ d.power

/-- The integer that a decimal without a negative power stands for. -/
def Decimal.toNat (d : Decimal) : Nat := d.digits * 10 ^ d.power.toNat

namespace Rounding

variable {r : Rounding} {tie : Tie} {candidate : Nat} {power : Int}

/-- The comparisons of a candidate are over one denominator. -/
private theorem exists_unit (r : Rounding) (candidate : Nat) (power : Int) :
    ∃ grid unit : Nat, 0 < unit ∧ (grid : ℚ) = candidate * 10 ^ power * r.den * unit ∧
      r.reads candidate power =
        if r.closed then
          decide ((r.value - r.below) * unit ≤ grid) && decide (grid ≤ (r.value + r.above) * unit)
        else
          decide ((r.value - r.below) * unit < grid) &&
            decide (grid < (r.value + r.above) * unit) := by
  refine ⟨_, _, ?_, ?_, rfl⟩
  · split
    · exact one_pos
    · exact Nat.pow_pos (by decide)
  · split
    · rename_i nonneg
      rw [zpow_of_nonneg 10 nonneg, Nat.pow_eq]
      push_cast
      ring
    · rename_i negative
      rw [zpow_of_neg 10 (Int.not_le.mp negative), Nat.pow_eq]
      push_cast
      field_simp

/-- A candidate that reads back is in the surroundings of the number. -/
theorem bounds_of_reads (reads : r.reads candidate power = true) :
    (r.value - r.below : ℚ) ≤ candidate * 10 ^ power * r.den ∧
      candidate * 10 ^ power * r.den ≤ (r.value + r.above : ℚ) := by
  obtain ⟨grid, unit, positive, same, reading⟩ := exists_unit r candidate power
  have positive : (0 : ℚ) < unit := by exact_mod_cast positive
  have between : (r.value - r.below) * unit ≤ grid ∧ grid ≤ (r.value + r.above) * unit := by
    rw [reading] at reads
    split at reads <;> simp only [Bool.and_eq_true, decide_eq_true_eq] at reads
    · exact reads
    · exact ⟨reads.1.le, reads.2.le⟩
  have lower : ((r.value - r.below : Nat) * unit : ℚ) ≤ grid := by exact_mod_cast between.1
  have upper : (grid : ℚ) ≤ (r.value + r.above : Nat) * unit := by exact_mod_cast between.2
  rw [same] at lower upper
  refine ⟨le_trans ?_ (le_of_mul_le_mul_right lower positive), ?_⟩
  · exact sub_le_iff_le_add.mpr (by exact_mod_cast le_tsub_add)
  · exact_mod_cast le_of_mul_le_mul_right upper positive

/-- A candidate nearer than both ends of the surroundings reads back. -/
theorem reads_of_near (inside : r.below ≤ r.value) (narrow : r.below ≤ r.above)
    (near : |(candidate * 10 ^ power * r.den - r.value : ℚ)| < r.below) :
    r.reads candidate power = true := by
  obtain ⟨grid, unit, positive, same, reading⟩ := exists_unit r candidate power
  have positive : (0 : ℚ) < unit := by exact_mod_cast positive
  obtain ⟨lower, upper⟩ := abs_lt.mp near
  have narrow : (r.below : ℚ) ≤ r.above := by exact_mod_cast narrow
  have less : (r.value - r.below) * unit < grid := by
    have scaled : ((r.value - r.below) * unit : ℚ) < grid := by
      rw [same]
      exact mul_lt_mul_of_pos_right (by linarith) positive
    rw [← Nat.cast_sub inside] at scaled
    exact_mod_cast scaled
  have greater : grid < (r.value + r.above) * unit := by
    have scaled : (grid : ℚ) < (r.value + r.above) * unit := by
      rw [same]
      exact mul_lt_mul_of_pos_right (by linarith) positive
    exact_mod_cast scaled
  rw [reading]
  simp [less, greater, less.le, greater.le]

/-- The number in steps of a grid, over one denominator. -/
private theorem exists_ratio (r : Rounding) (den_pos : 0 < r.den) (power : Int) :
    ∃ num den : Nat, 0 < den ∧ (num * (10 ^ power * r.den) : ℚ) = r.value * den ∧
      r.grid power = (num / den, compare (2 * (num % den)) den) := by
  refine ⟨_, _, ?_, ?_, rfl⟩
  · split
    · exact Nat.mul_pos den_pos (Nat.pow_pos (by decide))
    · exact den_pos
  · split
    · rename_i nonneg
      rw [zpow_of_nonneg 10 nonneg, Nat.pow_eq]
      push_cast
      ring
    · rename_i negative
      rw [zpow_of_neg 10 (Int.not_le.mp negative), Nat.pow_eq]
      push_cast
      field_simp

/-- The candidate that is tried first on a grid, from its largest multiple up to the number and the
comparison of the rest with half a step. -/
def nearest (tie : Tie) (low : Nat) (rest : Ordering) : Nat :=
  match rest, tie with
  | .lt, _ => low
  | .gt, _ => low + 1
  | .eq, .up => low + 1
  | .eq, .even => low + low % 2

private theorem nearest_bounds (tie : Tie) (num : Nat) {den : Nat} (positive : 0 < den) :
    2 * num ≤ 2 * (den * nearest tie (num / den) (compare (2 * (num % den)) den)) + den ∧
      2 * (den * nearest tie (num / den) (compare (2 * (num % den)) den)) ≤ 2 * num + den := by
  have parts := Nat.div_add_mod num den
  have small := Nat.mod_lt num positive
  have step : den * (num / den + 1) = den * (num / den) + den := Nat.mul_succ _ _
  cases rest : compare (2 * (num % den)) den with
  | lt =>
    rw [Nat.compare_eq_lt] at rest
    rw [nearest]
    omega
  | gt =>
    rw [Nat.compare_eq_gt] at rest
    rw [nearest, step]
    omega
  | eq =>
    rw [Nat.compare_eq_eq] at rest
    cases tie with
    | up =>
      rw [nearest, step]
      omega
    | even =>
      rw [nearest]
      rcases Nat.mod_two_eq_zero_or_one (num / den) with even | odd
      · rw [even, Nat.add_zero]
        omega
      · rw [odd, step]
        omega

/-- The first candidate is at most half a step away from the number. -/
theorem nearest_grid (den_pos : 0 < r.den) (tie : Tie) (power : Int) :
    |(nearest tie (r.grid power).1 (r.grid power).2 * 10 ^ power * r.den - r.value : ℚ)| ≤
      10 ^ power * r.den / 2 := by
  obtain ⟨num, den, positive, ratio, grid⟩ := exists_ratio r den_pos power
  have bounds := nearest_bounds tie num positive
  rw [grid]
  dsimp only
  generalize nearest tie (num / den) _ = candidate at bounds ⊢
  have positive : (0 : ℚ) < den := by exact_mod_cast positive
  have step_pos : (0 : ℚ) < 10 ^ power * r.den := by positivity
  have lower : (2 * num : ℚ) ≤ 2 * (den * candidate) + den := by exact_mod_cast bounds.1
  have upper : (2 * (den * candidate) : ℚ) ≤ 2 * num + den := by exact_mod_cast bounds.2
  rw [mul_assoc]
  generalize (10 ^ power * r.den : ℚ) = step at *
  have value : (r.value : ℚ) = num / den * step := by
    rw [div_mul_eq_mul_div, ratio, mul_div_cancel_right₀ _ positive.ne']
  have close : |(candidate - num / den : ℚ)| ≤ 1 / 2 := by
    rw [abs_le]
    constructor
    · rw [neg_le_sub_iff_le_add, div_le_iff₀ positive]
      linarith
    · rw [sub_le_iff_le_add, ← sub_le_iff_le_add', le_div_iff₀ positive]
      linarith
  rw [value, ← sub_mul, abs_mul, abs_of_pos step_pos]
  linarith [mul_le_mul_of_nonneg_right close step_pos.le]

private theorem exists_onGrid? (r : Rounding) (tie : Tie) (power : Int) :
    ∃ other, r.onGrid? tie power =
      if r.reads (nearest tie (r.grid power).1 (r.grid power).2) power then
        some ⟨nearest tie (r.grid power).1 (r.grid power).2, power⟩
      else if r.reads other power then some ⟨other, power⟩
      else none :=
  ⟨_, rfl⟩

theorem onGrid?_of_reads
    (reads : r.reads (nearest tie (r.grid power).1 (r.grid power).2) power = true) :
    (r.onGrid? tie power).isSome = true := by
  obtain ⟨other, same⟩ := exists_onGrid? r tie power
  rw [same, if_pos reads]
  rfl

/-- What is found on a grid is on it and reads back. -/
theorem reads_of_onGrid? {d : Decimal} (found : r.onGrid? tie power = some d) :
    d.power = power ∧ r.reads d.digits d.power = true := by
  obtain ⟨other, same⟩ := exists_onGrid? r tie power
  rw [same] at found
  split_ifs at found with first second
  · cases found
    exact ⟨rfl, first⟩
  · cases found
    exact ⟨rfl, second⟩

/-- The search ends at a grid that holds a decimal which reads back, or before. -/
theorem search_spec {steps before : Nat} (enough : before < steps)
    (found : (r.onGrid? tie (power - before)).isSome = true) :
    r.reads (r.search tie steps power).digits (r.search tie steps power).power = true ∧
      power - before ≤ (r.search tie steps power).power := by
  induction steps generalizing power before with
  | zero => exact absurd enough (Nat.not_lt_zero before)
  | succ steps ih =>
    unfold search
    cases here : r.onGrid? tie power with
    | some d =>
      obtain ⟨same, reads⟩ := reads_of_onGrid? here
      exact ⟨reads, by dsimp only; omega⟩
    | none =>
      cases before with
      | zero => simp [here] at found
      | succ before =>
        have shifted : power - (before + 1 : Nat) = power - 1 - before := by omega
        rw [shifted] at found ⊢
        exact ih (Nat.lt_of_succ_lt_succ enough) found

section Parts

variable {mantissa : Nat} {exponent : Int} {isLeast : Bool}

theorem den_ofParts_pos : 0 < (ofParts mantissa exponent isLeast).den :=
  Nat.mul_pos (by decide) (Nat.two_pow_pos _)

/-- Half the distance to the double above, over the denominator. -/
theorem above_ofParts : ((ofParts mantissa exponent isLeast).above : ℚ) =
    2 ^ exponent / 2 * (ofParts mantissa exponent isLeast).den := by
  rw [zpow_eq_div two_ne_zero]
  simp only [ofParts, Nat.pow_eq]
  push_cast
  field_simp
  norm_num

theorem value_ofParts : ((ofParts mantissa exponent isLeast).value : ℚ) =
    mantissa * 2 ^ exponent * (ofParts mantissa exponent isLeast).den := by
  rw [zpow_eq_div two_ne_zero]
  simp only [ofParts, Nat.pow_eq]
  push_cast
  field_simp

/-- The neighbour below is at least half as near as the one above, and no farther. -/
theorem below_ofParts : (ofParts mantissa exponent isLeast).above ≤
      2 * (ofParts mantissa exponent isLeast).below ∧
    (ofParts mantissa exponent isLeast).below ≤ (ofParts mantissa exponent isLeast).above := by
  cases isLeast <;> simp only [ofParts, Bool.false_eq_true, if_true, if_false] <;> omega

theorem below_ofParts_pos : 0 < (ofParts mantissa exponent isLeast).below := by
  have positive := Nat.two_pow_pos exponent.toNat
  cases isLeast <;> simp only [ofParts, Bool.false_eq_true, if_true, if_false, Nat.pow_eq] <;> omega

theorem below_ofParts_le (positive : 0 < mantissa) : (ofParts mantissa exponent isLeast).below ≤
    (ofParts mantissa exponent isLeast).value := by
  refine below_ofParts.2.trans ?_
  simp only [ofParts]
  exact Nat.mul_le_mul_right _ (by omega)

/-- A grid on which some decimal reads back, whatever the digits are. -/
def fineGrid (exponent : Int) : Int := (52 + exponent) * 30103 / 100000 - 17

/-- A power of ten is below one of two when powers of a comparable pair of them are. -/
private theorem ten_zpow_le_of {tens twos : Nat} {power bits : Int} (positive : 0 < tens)
    (each : ((10 ^ tens) ^ power : ℚ) ≤ (2 ^ twos) ^ power) (le : twos * power ≤ bits * tens) :
    (10 ^ power : ℚ) ≤ 2 ^ bits := by
  have scaled : ((10 ^ power) ^ tens : ℚ) ≤ (2 ^ bits) ^ tens := by
    calc ((10 ^ power) ^ tens : ℚ)
      _ = (10 ^ tens) ^ power := by rw [← zpow_natCast, zpow_comm, zpow_natCast]
      _ ≤ (2 ^ twos) ^ power := each
      _ = 2 ^ (twos * power) := by rw [← zpow_natCast, zpow_mul]
      _ ≤ 2 ^ (bits * tens) := zpow_le_zpow_right₀ one_le_two le
      _ = (2 ^ bits) ^ tens := by rw [zpow_mul, zpow_natCast]
  exact (pow_le_pow_iff_left₀ (by positivity) (by positivity) (Nat.ne_of_gt positive)).mp scaled

/-- The factor between the logarithms to the bases two and ten is right to three bits for all
exponents of doubles: `10 ^ 31` is just below `2 ^ 103`, and `10 ^ 28` just above `2 ^ 93`. -/
theorem ten_zpow_le {power bits : Int} (le : power * 100000 ≤ bits * 30103)
    (least : -1100 ≤ bits) (most : bits ≤ 1100) : (10 ^ power : ℚ) ≤ 2 ^ (bits + 3) := by
  rcases le_total 0 power with nonneg | nonpos
  · have each : ((10 ^ 31) ^ power : ℚ) ≤ (2 ^ 103) ^ power :=
      zpow_le_zpow_left₀ nonneg (by norm_num) (by norm_num)
    exact ten_zpow_le_of (by decide) each (by omega)
  · obtain ⟨k, rfl⟩ := Int.exists_eq_neg_ofNat nonpos
    have each : ((10 ^ 28) ^ (-k : Int) : ℚ) ≤ (2 ^ 93) ^ (-k : Int) := by
      rw [zpow_neg, zpow_neg]
      exact inv_anti₀ (by positivity) (zpow_le_zpow_left₀ (by omega) (by norm_num) (by norm_num))
    exact ten_zpow_le_of (by decide) each (by omega)

/-- The fine grid is finer than the distance to the nearest double. -/
theorem fineGrid_lt (least : -1074 ≤ exponent) (largest : exponent ≤ 971) :
    (10 ^ fineGrid exponent : ℚ) < 2 ^ exponent / 2 := by
  have high : (10 ^ (fineGrid exponent + 17) : ℚ) ≤ 2 ^ (52 + exponent + 3) :=
    ten_zpow_le (by rw [fineGrid]; omega) (by omega) (by omega)
  rw [zpow_add₀ (by norm_num)] at high
  calc (10 ^ fineGrid exponent : ℚ)
    _ ≤ 2 ^ (52 + exponent + 3) / 10 ^ (17 : Int) := (le_div_iff₀ (by positivity)).mpr high
    _ = 2 ^ exponent * (2 ^ 55 / 10 ^ 17) := by
        rw [show 52 + exponent + 3 = exponent + (55 : Nat) by omega, zpow_add₀ two_ne_zero]
        rw [zpow_natCast, mul_div_assoc]
        rfl
    _ < 2 ^ exponent * (1 / 2) := by
        have factor : (2 ^ 55 / 10 ^ 17 : ℚ) < 1 / 2 := by norm_num
        exact mul_lt_mul_of_pos_left factor (by positivity)
    _ = 2 ^ exponent / 2 := mul_one_div _ _
theorem onGrid?_fineGrid (positive : 0 < mantissa) (least : -1074 ≤ exponent)
    (largest : exponent ≤ 971) (tie : Tie) :
    ((ofParts mantissa exponent isLeast).onGrid? tie (fineGrid exponent)).isSome = true := by
  refine onGrid?_of_reads (reads_of_near (below_ofParts_le positive) below_ofParts.2 ?_)
  have den_pos : (0 : ℚ) < (ofParts mantissa exponent isLeast).den := by
    exact_mod_cast den_ofParts_pos
  have below : ((ofParts mantissa exponent isLeast).above : ℚ) ≤
      2 * (ofParts mantissa exponent isLeast).below := by
    exact_mod_cast below_ofParts.1
  rw [above_ofParts] at below
  have finer := mul_lt_mul_of_pos_right (fineGrid_lt least largest) den_pos
  have near := nearest_grid (r := ofParts mantissa exponent isLeast) den_ofParts_pos tie
    (fineGrid exponent)
  linarith

/-- A whole number is on the grid of the integers. -/
theorem onGrid?_zero (positive : 0 < mantissa) {n : Nat} (whole : (mantissa * 2 ^ exponent : ℚ) = n)
    (tie : Tie) : ((ofParts mantissa exponent isLeast).onGrid? tie 0).isSome = true := by
  refine onGrid?_of_reads (reads_of_near (below_ofParts_le positive) below_ofParts.2 ?_)
  have den_pos : (0 : ℚ) < (ofParts mantissa exponent isLeast).den := by
    exact_mod_cast den_ofParts_pos
  have below_pos : (0 : ℚ) < (ofParts mantissa exponent isLeast).below := by
    exact_mod_cast below_ofParts_pos
  have near := nearest_grid (r := ofParts mantissa exponent isLeast) den_ofParts_pos tie 0
  rw [zpow_zero, mul_one, value_ofParts, whole] at near ⊢
  generalize nearest tie _ _ = candidate at near ⊢
  have same : candidate = n := by
    rw [← sub_mul, abs_mul, abs_of_pos den_pos, one_mul, mul_comm, ← mul_one_div,
      mul_le_mul_iff_of_pos_left den_pos] at near
    exact eq_of_near near
  rw [same, sub_self, abs_zero]
  exact below_pos

theorem log2_mul_two_pow {n : Nat} (positive : 0 < n) (k : Nat) :
    Nat.log2 (n * 2 ^ k) = Nat.log2 n + k := by
  have nonzero := Nat.ne_of_gt positive
  rw [Nat.log2_eq_iff (Nat.mul_ne_zero nonzero (Nat.two_pow_pos k).ne'), Nat.pow_add,
    Nat.add_right_comm, Nat.pow_add]
  exact ⟨Nat.mul_le_mul_right _ (Nat.log2_self_le nonzero),
    Nat.mul_lt_mul_of_pos_right Nat.lt_log2_self (Nat.two_pow_pos k)⟩

theorem powerAbove_ofParts (positive : 0 < mantissa) :
    (ofParts mantissa exponent isLeast).powerAbove =
      (Nat.log2 mantissa + exponent) * 30103 / 100000 + 2 := by
  have value : Nat.log2 (ofParts mantissa exponent isLeast).value =
      Nat.log2 mantissa + (2 + exponent.toNat) := by
    rw [← log2_mul_two_pow positive, Nat.pow_add, ofParts, Nat.pow_eq]
    congr 1
    ring
  have den : Nat.log2 (ofParts mantissa exponent isLeast).den = 2 + (-exponent).toNat :=
    log2_mul_two_pow (n := 4) (by decide) _
  rw [powerAbove, value, den]
  congr 3
  omega

/-- The first grid is coarser than the fine one by no more grids than are tried. -/
theorem powerAbove_bounds (positive : 0 < mantissa) (small : mantissa < 2 ^ 53) :
    fineGrid exponent ≤ (ofParts mantissa exponent isLeast).powerAbove ∧
      (ofParts mantissa exponent isLeast).powerAbove ≤ fineGrid exponent + 19 := by
  have bits : Nat.log2 mantissa < 53 := (Nat.log2_lt (Nat.ne_of_gt positive)).mpr small
  rw [powerAbove_ofParts positive, fineGrid]
  omega

theorem powerAbove_nonneg (positive : 0 < mantissa) {n : Nat}
    (whole : (mantissa * 2 ^ exponent : ℚ) = n) :
    0 ≤ (ofParts mantissa exponent isLeast).powerAbove := by
  have above : (0 : ℚ) < n := by
    rw [← whole]
    positivity
  have one_le : (1 : ℚ) ≤ n := by exact_mod_cast above
  have high : (mantissa : ℚ) < 2 ^ (Nat.log2 mantissa + 1 : Int) := by
    exact_mod_cast (Nat.lt_log2_self : mantissa < 2 ^ (Nat.log2 mantissa + 1))
  have bits : (1 : ℚ) < 2 ^ (Nat.log2 mantissa + 1 + exponent : Int) := by
    calc (1 : ℚ)
      _ ≤ mantissa * 2 ^ exponent := whole ▸ one_le
      _ < 2 ^ (Nat.log2 mantissa + 1 : Int) * 2 ^ exponent := by gcongr
      _ = 2 ^ (Nat.log2 mantissa + 1 + exponent : Int) := (zpow_add₀ two_ne_zero _ _).symm
  have log := (one_lt_zpow_iff_right₀ one_lt_two).mp bits
  rw [powerAbove_ofParts positive]
  omega

/-- The search is successful. -/
theorem search_reads (isLeast : Bool) (positive : 0 < mantissa) (small : mantissa < 2 ^ 53)
    (least : -1074 ≤ exponent) (largest : exponent ≤ 971) (tie : Tie) :
    let r := ofParts mantissa exponent isLeast
    r.reads (r.search tie 20 r.powerAbove).digits (r.search tie 20 r.powerAbove).power = true ∧
      fineGrid exponent ≤ (r.search tie 20 r.powerAbove).power := by
  intro r
  obtain ⟨lower, upper⟩ : fineGrid exponent ≤ r.powerAbove ∧
    r.powerAbove ≤ fineGrid exponent + 19 := powerAbove_bounds positive small
  obtain ⟨before, same⟩ : ∃ before : Nat, r.powerAbove - before = fineGrid exponent :=
    ⟨(r.powerAbove - fineGrid exponent).toNat, by omega⟩
  have found : (r.onGrid? tie (fineGrid exponent)).isSome = true :=
    onGrid?_fineGrid positive least largest tie
  rw [← same] at found ⊢
  exact search_spec (by omega) found

/-- The search for a whole number does not go beyond the grid of the integers. -/
theorem search_whole (isLeast : Bool) (positive : 0 < mantissa) (small : mantissa < 2 ^ 53)
    (least : -1074 ≤ exponent) (largest : exponent ≤ 971) (tie : Tie) {n : Nat}
    (whole : (mantissa * 2 ^ exponent : ℚ) = n) :
    let r := ofParts mantissa exponent isLeast
    0 ≤ (r.search tie 20 r.powerAbove).power := by
  intro r
  by_cases coarse : 0 ≤ fineGrid exponent
  · exact coarse.trans (search_reads isLeast positive small least largest tie).2
  · have upper : r.powerAbove ≤ fineGrid exponent + 19 := (powerAbove_bounds positive small).2
    have lower : 0 ≤ r.powerAbove := powerAbove_nonneg positive whole
    obtain ⟨before, same⟩ : ∃ before : Nat, r.powerAbove - before = 0 :=
      ⟨r.powerAbove.toNat, by omega⟩
    have found : (r.onGrid? tie 0).isSome = true := onGrid?_zero positive whole tie
    rw [← same] at found ⊢
    exact (search_spec (by omega) found).2

end Parts

end Rounding

namespace Decimal

theorem toRat_of_nonneg {d : Decimal} (nonneg : 0 ≤ d.power) :
    d.toRat = d.toNat := by
  rw [toRat, toNat, zpow_of_nonneg 10 nonneg]
  norm_cast

theorem toRat_trim (steps : Nat) (d : Decimal) : (d.trim steps).toRat = d.toRat := by
  induction steps generalizing d with
  | zero => rfl
  | succ steps ih =>
    unfold trim
    split
    · rename_i zero
      have digits : (d.digits : ℚ) = (d.digits / 10 : Nat) * 10 := by
        exact_mod_cast (Nat.div_mul_cancel (Nat.dvd_of_mod_eq_zero zero)).symm
      rw [ih, toRat, toRat, digits, zpow_add₀ (by norm_num)]
      ring
    · rfl

theorem power_le_trim (steps : Nat) (d : Decimal) : d.power ≤ (d.trim steps).power := by
  induction steps generalizing d with
  | zero => exact Int.le_refl _
  | succ steps ih =>
    unfold trim
    split
    · exact Int.le_trans (Int.le_of_lt (Int.lt_succ d.power)) (ih _)
    · exact Int.le_refl _

end Decimal

section Fields

variable {x : Binary64} {tie : Tie}

theorem mantissa_lt (x : Binary64) : x.mantissa < 2 ^ 53 := by
  have small : x.fractionField < Nat.pow 2 52 := Nat.mod_lt _ (by decide)
  rw [Nat.pow_eq] at small
  rw [mantissa, Nat.pow_eq]
  split <;> omega

theorem mantissa_pos (nonzero : x.isZero = false) : 0 < x.mantissa := by
  rw [mantissa]
  split
  · rename_i low
    have different : x.fractionField ≠ 0 := by simpa [isZero, low] using nonzero
    exact Nat.pos_of_ne_zero different
  · exact Nat.add_pos_left (Nat.two_pow_pos 52) _

theorem exponent_bounds (finite : x.isFinite = true) : -1074 ≤ x.exponent ∧ x.exponent ≤ 971 := by
  have field : x.exponentField < Nat.pow 2 11 := Nat.mod_lt _ (by decide)
  have other : x.exponentField ≠ 2047 := by simpa [isFinite] using finite
  rw [Nat.pow_eq] at field
  rw [exponent]
  omega

/-- The mantissa has all its bits, except with the least exponent. -/
theorem le_mantissa (normal : -1074 < x.exponent) : 2 ^ 52 ≤ x.mantissa := by
  rw [exponent] at normal
  rw [mantissa, if_neg (by omega), Nat.pow_eq]
  exact Nat.le_add_right _ _

/-- The shortest decimal is at most half the distance of doubles away. -/
theorem shortest_near (finite : x.isFinite = true) (nonzero : x.isZero = false) (tie : Tie) :
    |(x.shortest tie).toRat - x.abs| ≤ 2 ^ x.exponent / 2 := by
  obtain ⟨least, largest⟩ := exponent_bounds finite
  rw [shortest, Rounding.shortest, Decimal.toRat_trim]
  generalize (decide (x.fractionField = 0 ∧ 1 < x.exponentField)) = isLeast
  obtain ⟨lower, upper⟩ := Rounding.bounds_of_reads
    (Rounding.search_reads isLeast (mantissa_pos nonzero) (mantissa_lt x) least largest tie).1
  have den_pos : (0 : ℚ) < (Rounding.ofParts x.mantissa x.exponent isLeast).den := by
    exact_mod_cast Rounding.den_ofParts_pos
  have below : ((Rounding.ofParts x.mantissa x.exponent isLeast).below : ℚ) ≤
      (Rounding.ofParts x.mantissa x.exponent isLeast).above := by
    exact_mod_cast Rounding.below_ofParts.2
  rw [Rounding.above_ofParts] at below upper
  rw [Rounding.value_ofParts] at lower upper
  rw [abs_le, Decimal.toRat, abs]
  constructor <;> refine le_of_mul_le_mul_right ?_ den_pos <;> linarith

theorem shortest_pos (finite : x.isFinite = true) (nonzero : x.isZero = false) (tie : Tie) :
    0 < (x.shortest tie).digits := by
  have lower := (abs_le.mp (shortest_near finite nonzero tie)).1
  have mantissa : (1 : ℚ) ≤ x.mantissa := by exact_mod_cast mantissa_pos nonzero
  have scale : (0 : ℚ) < 2 ^ x.exponent := by positivity
  have large := mul_le_mul_of_nonneg_right mantissa scale.le
  by_contra zero
  rw [Decimal.toRat, Nat.eq_zero_of_not_pos zero, abs] at lower
  push_cast at lower
  linarith

/-- Exactly the whole numbers have decimals without negative powers. -/
theorem shortest_power_iff (finite : x.isFinite = true) (nonzero : x.isZero = false) (tie : Tie) :
    0 ≤ (x.shortest tie).power ↔ ∃ n : Nat, x.abs = n := by
  obtain ⟨least, largest⟩ := exponent_bounds finite
  constructor
  · intro nonneg
    by_cases large : 0 ≤ x.exponent
    · exact ⟨_, abs_of_exponent_nonneg large⟩
    · have near := shortest_near finite nonzero tie
      have unit : (0 : ℚ) < 2 ^ (-x.exponent).toNat := by positivity
      rw [Decimal.toRat_of_nonneg nonneg, abs, zpow_of_neg 2 (Int.not_le.mp large)] at near
      rw [abs, zpow_of_neg 2 (Int.not_le.mp large)]
      generalize (x.shortest tie).toNat = candidate at near
      have same : candidate * 2 ^ (-x.exponent).toNat = x.mantissa := by
        refine eq_of_near ?_
        have scaled := mul_le_mul_of_nonneg_right near unit.le
        rw [← abs_of_pos unit, ← abs_mul, abs_of_pos unit, sub_mul, inv_mul_cancel_right₀ unit.ne',
          div_mul_eq_mul_div, inv_mul_cancel₀ unit.ne'] at scaled
        exact_mod_cast scaled
      refine ⟨candidate, ?_⟩
      rw [← same, Nat.cast_mul, Nat.cast_pow, Nat.cast_ofNat, mul_inv_cancel_right₀ unit.ne']
  · rintro ⟨n, whole⟩
    exact (Rounding.search_whole _ (mantissa_pos nonzero) (mantissa_lt x) least largest tie
      whole).trans (Decimal.power_le_trim 17 _)

end Fields
end PathEdit.Binary64
