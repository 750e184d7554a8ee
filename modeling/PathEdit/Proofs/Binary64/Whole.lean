import Mathlib.Data.Nat.Cast.Field
import Mathlib.Tactic.IntervalCases
import PathEdit.Proofs.Binary64.Shortest

/-! Whole doubles and the integers that their shortest decimals are. Such an integer may differ
from the double, but it stays on the same side of the bounds at which readers of numbers change
their mind: the end of the integers with 63 bits, and the end of the doubles. -/
namespace PathEdit.Binary64

variable {x : Binary64} {n : Nat}

/-- A double is made of its fields. -/
theorem ofMagnitude_fields (x : Binary64) :
    ofMagnitude x.isNegative (x.exponentField * 2 ^ 52 + x.fractionField) = x := by
  obtain ⟨bits⟩ := x
  have small := bits.toNat_lt
  simp only [ofMagnitude, isNegative, exponentField, fractionField, Nat.pow_eq, mk.injEq]
  rw [← UInt64.toNat_inj, UInt64.toNat_ofNat']
  by_cases negative : bits.toNat / 2 ^ 63 = 1
  · simp only [negative, decide_true, if_true]
    omega
  · simp only [negative, decide_false, Bool.false_eq_true, if_false]
    omega

theorem abs_eq_quotient (x : Binary64) :
    x.abs = (x.mantissa * 2 ^ x.exponent.toNat : Nat) / (2 ^ (-x.exponent).toNat : Nat) := by
  rw [abs, zpow_eq_div two_ne_zero]
  push_cast
  ring

theorem abs_of_toInt? {i : Int} (whole : x.toInt? = some i) : x.abs = i.natAbs := by
  unfold toInt? at whole
  simp only [Nat.pow_eq] at whole
  split at whole
  · rename_i here
    have exact : x.abs = (x.mantissa * 2 ^ x.exponent.toNat / 2 ^ (-x.exponent).toNat : Nat) := by
      rw [abs_eq_quotient, Nat.cast_div (Nat.dvd_of_mod_eq_zero here.2) (by positivity)]
    rw [exact, ← Option.some.inj whole]
    generalize x.mantissa * 2 ^ x.exponent.toNat / 2 ^ (-x.exponent).toNat = magnitude
    split <;> simp
  · cases whole

theorem exists_toInt? (finite : x.isFinite = true) (whole : x.abs = n) :
    ∃ i, x.toInt? = some i ∧ i.natAbs = n := by
  have divides : x.mantissa * 2 ^ x.exponent.toNat = n * 2 ^ (-x.exponent).toNat := by
    rw [abs_eq_quotient, div_eq_iff (by positivity)] at whole
    exact_mod_cast whole
  have outcome : ∃ i, x.toInt? = some i := by
    unfold toInt?
    simp only [Nat.pow_eq, divides, Nat.mul_mod_left, finite, and_self, if_true]
    exact ⟨_, rfl⟩
  obtain ⟨i, same⟩ := outcome
  refine ⟨i, same, ?_⟩
  have abs := abs_of_toInt? same
  rw [whole] at abs
  exact_mod_cast abs.symm

/-- With the largest exponent and mantissa a double is the largest one of its sign. -/
theorem eq_largest (full : 2 ^ 53 - 1 ≤ x.mantissa) (last : x.exponent = 971) :
    x = largest x.isNegative := by
  have small : x.fractionField < Nat.pow 2 52 := Nat.mod_lt _ (by decide)
  have fields : x.exponentField = 2046 ∧ x.fractionField = 2 ^ 52 - 1 := by
    rw [mantissa] at full
    rw [exponent] at last
    rw [Nat.pow_eq] at full small
    split at full <;> omega
  have same := ofMagnitude_fields x
  rw [fields.1, fields.2] at same
  exact same.symm

theorem le_mantissa_of_nonpos (whole : x.abs = n) (nonpos : x.exponent ≤ 0) : n ≤ x.mantissa := by
  have unit : (2 ^ x.exponent : ℚ) ≤ 1 := zpow_le_one_of_nonpos₀ one_le_two nonpos
  have bound : (n : ℚ) ≤ x.mantissa := by
    rw [← whole, abs]
    exact mul_le_of_le_one_right (Nat.cast_nonneg _) unit
  exact_mod_cast bound

/-- The middle of the two largest doubles. -/
def lastMiddle : Nat := (2 ^ 54 - 3) * 2 ^ 970

section Nonzero

variable (finite : x.isFinite = true) (nonzero : x.isZero = false) (whole : x.abs = n)
include finite nonzero whole

theorem toNat_near (tie : Tie) : |((x.shortest tie).toNat - n : ℚ)| ≤ 2 ^ x.exponent / 2 := by
  have near := shortest_near finite nonzero tie
  rwa [Decimal.toRat_of_nonneg ((shortest_power_iff finite nonzero tie).mpr ⟨n, whole⟩), whole]
    at near

/-- Without a positive exponent the integer is the double itself. -/
theorem toNat_eq (small : x.exponent ≤ 0) (tie : Tie) : (x.shortest tie).toNat = n := by
  refine eq_of_near ((toNat_near finite nonzero whole tie).trans ?_)
  have unit : (2 ^ x.exponent : ℚ) ≤ 1 := zpow_le_one_of_nonpos₀ one_le_two small
  linarith

/-- With a positive one it is less than a step away. -/
theorem toNat_bounds {k : Nat} (scale : x.exponent = k) (tie : Tie) : n = x.mantissa * 2 ^ k ∧
    2 * n ≤ 2 * (x.shortest tie).toNat + 2 ^ k ∧ 2 * (x.shortest tie).toNat ≤ 2 * n + 2 ^ k := by
  have near := toNat_near finite nonzero whole tie
  rw [scale, zpow_natCast, abs_le] at near
  rw [abs, scale, zpow_natCast] at whole
  refine ⟨by exact_mod_cast whole.symm, ?_, ?_⟩
  · have lower : (2 * n : ℚ) ≤ 2 * (x.shortest tie).toNat + 2 ^ k := by linarith
    exact_mod_cast lower
  · have upper : (2 * (x.shortest tie).toNat : ℚ) ≤ 2 * n + 2 ^ k := by linarith
    exact_mod_cast upper

/-- A double below the end of the integers with 63 bits is written as such an integer. -/
theorem toNat_lt (small : n < 2 ^ 63) (tie : Tie) : (x.shortest tie).toNat < 2 ^ 63 := by
  by_cases exact : x.exponent ≤ 0
  · rwa [toNat_eq finite nonzero whole exact tie]
  · obtain ⟨k, scale⟩ := Int.eq_ofNat_of_zero_le (by omega : 0 ≤ x.exponent)
    obtain ⟨same, -, upper⟩ := toNat_bounds finite nonzero whole scale tie
    have large : 2 ^ 52 ≤ x.mantissa := le_mantissa (by omega)
    have few : k ≤ 10 := by
      by_contra many
      have high : 2 ^ 52 * 2 ^ 11 ≤ x.mantissa * 2 ^ k :=
        Nat.mul_le_mul large (Nat.pow_le_pow_right (by decide) (by omega))
      omega
    interval_cases k <;> omega

/-- A whole number has as many bits as its mantissa and its exponent. -/
theorem exists_exponent (large : 2 ^ 63 ≤ n) : ∃ k : Nat, x.exponent = k ∧ 11 ≤ k := by
  have small := mantissa_lt x
  rcases lt_or_ge x.exponent 0 with negative | nonneg
  · have less := le_mantissa_of_nonpos whole negative.le
    omega
  · obtain ⟨k, scale⟩ := Int.eq_ofNat_of_zero_le nonneg
    refine ⟨k, scale, ?_⟩
    obtain ⟨same, -, -⟩ := toNat_bounds finite nonzero whole scale .up
    by_contra few
    have less : x.mantissa * 2 ^ k < 2 ^ 53 * 2 ^ 10 :=
      Nat.mul_lt_mul_of_lt_of_le small (Nat.pow_le_pow_right (by decide) (by omega)) (by decide)
    omega

/-- A double from that end on is written as an integer beyond it. -/
theorem lt_toNat (large : 2 ^ 63 ≤ n) : 2 ^ 63 < (x.shortest .up).toNat := by
  obtain ⟨k, scale, many⟩ := exists_exponent finite nonzero whole large
  obtain ⟨same, lower, -⟩ := toNat_bounds finite nonzero whole scale .up
  have full : 2 ^ 52 ≤ x.mantissa := le_mantissa (by omega)
  rcases Nat.lt_or_eq_of_le many with more | rfl
  · have step : 2 ^ 12 ≤ 2 ^ k := Nat.pow_le_pow_right (by decide) more
    have high : 2 ^ 52 * 2 ^ k ≤ n := same ▸ Nat.mul_le_mul_right _ full
    generalize 2 ^ k = step at *
    omega
  rcases Nat.lt_or_eq_of_le full with more | least
  · omega
  -- The end itself is the one double whose neighbour below is nearer than the one above.
  have fields : x.fractionField = 0 ∧ x.exponentField = 1086 := by
    rw [mantissa] at least
    rw [exponent] at scale
    rw [Nat.pow_eq] at least
    split at least <;> omega
  rw [shortest, fields.1, fields.2, ← least, scale]
  decide +kernel

/-- A double below the largest is written as an integer up to the middle of the two largest. -/
theorem toNat_le (other : ∀ negative, x ≠ largest negative) (tie : Tie) :
    (x.shortest tie).toNat ≤ lastMiddle := by
  have most := (exponent_bounds finite).2
  have small := mantissa_lt x
  rw [lastMiddle]
  obtain ⟨half, here, half_pos⟩ : ∃ half : Nat, half = 2 ^ 970 ∧ 0 < half :=
    ⟨_, rfl, by positivity⟩
  rw [← here]
  rcases le_or_gt x.exponent 0 with nonpos | positive
  · have bound := le_mantissa_of_nonpos whole nonpos
    rw [toNat_eq finite nonzero whole nonpos tie]
    omega
  obtain ⟨k, scale⟩ := Int.eq_ofNat_of_zero_le positive.le
  obtain ⟨same, -, upper⟩ := toNat_bounds finite nonzero whole scale tie
  rw [scale] at most
  rcases Nat.lt_or_eq_of_le (show k ≤ 971 by omega) with less | rfl
  · have step : 2 ^ k ≤ half := by
      rw [here]
      gcongr
      · decide
      · omega
    have bound := Nat.mul_le_mul (Nat.le_of_lt small) step
    omega
  · have less : x.mantissa < 2 ^ 53 - 1 := by
      by_contra full
      exact other x.isNegative (eq_largest (Nat.le_of_not_lt full) scale)
    have step : 2 ^ 971 = 2 * half := by rw [here, ← Nat.pow_succ']
    have bound := Nat.mul_le_mul_right (2 * half) (Nat.le_sub_one_of_lt less)
    rw [step] at same upper
    omega

end Nonzero

end PathEdit.Binary64
