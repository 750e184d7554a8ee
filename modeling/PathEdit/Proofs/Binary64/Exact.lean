import PathEdit.Binary32
import PathEdit.Proofs.Binary64.Nearest

/-! What a double can hold is not rounded. A quotient of at most fifty-three bits in the range of the
exponents becomes the double of its value (`ofRatio_exact`), so that a single-precision number
widens to the double of its value (`Binary32.widen_exact`). -/
namespace PathEdit

namespace Binary64

variable {num den m bits : Nat} {scale e : Int}

theorem isNegative_ofMagnitude (negative : Bool) (small : bits < 2 ^ 63) :
    (ofMagnitude negative bits).isNegative = negative := by
  rw [isNegative, toNat_ofMagnitude negative small, Nat.pow_eq]
  cases negative with
  | false => exact decide_eq_false (by simp only [Bool.false_eq_true, if_false]; omega)
  | true => exact decide_eq_true (by simp only [if_true]; omega)

/-- The number of the bits that `nearestBits` puts together from a scale and a rounded quotient. -/
theorem abs_ofMagnitude_scaled (negative : Bool) (least : -1074 ≤ scale) (most : scale ≤ 971)
    (small : m < 2 ^ 53) (normal : -1074 < scale → 2 ^ 52 ≤ m) :
    (ofMagnitude negative ((scale + 1074).toNat * 2 ^ 52 + m)).abs = m * 2 ^ scale := by
  obtain ⟨bits, here⟩ : ∃ bits, bits = (scale + 1074).toNat * 2 ^ 52 + m := ⟨_, rfl⟩
  have room : bits < 2 ^ 63 := by omega
  rw [← here, abs, mantissa, exponent, exponentField_ofMagnitude negative room,
    fractionField_ofMagnitude negative room]
  by_cases subnormal : m < 2 ^ 52
  · have field : bits / 2 ^ 52 = 0 := by omega
    have rest : bits % 2 ^ 52 = m := by omega
    have power : ((max 0 1 : Nat) - 1075 : Int) = scale := by omega
    rw [field, rest, if_pos rfl, power]
  · have field : bits / 2 ^ 52 = (scale + 1075).toNat := by omega
    have rest : Nat.pow 2 52 + bits % 2 ^ 52 = m := by
      rw [Nat.pow_eq]
      omega
    have power : ((max (scale + 1075).toNat 1 : Nat) - 1075 : Int) = scale := by omega
    rw [field, rest, if_neg (by omega), power]

/-- A quotient that is a multiple of the scale is not rounded. -/
theorem rounded_exact (den_pos : 0 < den) (same : (num / den : ℚ) = m * 2 ^ scale) :
    rounded num den scale = m :=
  Nat.le_antisymm (rounded_le den_pos same.le) (le_rounded den_pos same.ge)

/-- The logarithm of a number of at most fifty-three bits. -/
theorem floorLog_le (num_pos : 0 < num) (den_pos : 0 < den)
    (same : (num / den : ℚ) = m * 2 ^ e) (small : m < 2 ^ 53) : floorLog num den ≤ e + 52 := by
  have less : (2 ^ floorLog num den : ℚ) < 2 ^ ((53 : Nat) + e) := by
    calc (2 ^ floorLog num den : ℚ)
      _ ≤ num / den := (floorLog_spec num_pos den_pos).1
      _ = m * 2 ^ e := same
      _ < (2 ^ 53 : Nat) * 2 ^ e := by gcongr
      _ = 2 ^ ((53 : Nat) + e) := (two_zpow_add 53 e).symm
  have bound := (zpow_lt_zpow_iff_right₀ one_lt_two).mp less
  omega

/-- A number is a multiple of every finer scale. -/
theorem exists_multiple (m : Nat) (fine : scale ≤ e) :
    ∃ n : Nat, (m * 2 ^ e : ℚ) = n * 2 ^ scale := by
  refine ⟨m * 2 ^ (e - scale).toNat, ?_⟩
  rw [Nat.cast_mul, Nat.cast_pow, Nat.cast_ofNat, ← zpow_of_nonneg 2 (by omega : 0 ≤ e - scale),
    mul_assoc, ← zpow_add₀ two_ne_zero, sub_add_cancel]

/-- A number of at most fifty-three bits becomes the double of its value. -/
theorem ofRatio_exact (negative : Bool) (den_pos : 0 < den)
    (same : (num / den : ℚ) = m * 2 ^ e) (small : m < 2 ^ 53) (least : -1074 ≤ e) (most : e ≤ 971) :
    (ofRatio negative num den).isFinite = true ∧ (ofRatio negative num den).isNegative = negative ∧
      (ofRatio negative num den).abs = m * 2 ^ e := by
  rcases Nat.eq_zero_or_pos num with rfl | num_pos
  · rw [Nat.cast_zero, zero_div] at same
    rw [ofRatio, if_pos rfl, zero, ← same]
    exact ⟨isFinite_ofMagnitude negative (by decide), isNegative_ofMagnitude negative (by decide),
      by cases negative <;> decide +kernel⟩
  obtain ⟨scale, here⟩ : ∃ scale, scale = max (floorLog num den - 52) (-1074) := ⟨_, rfl⟩
  -- the logarithm keeps the scale from rising above the exponent: it divides the quotient
  have bound := floorLog_le num_pos den_pos same small
  obtain ⟨n, whole⟩ := exists_multiple m (by omega : scale ≤ e)
  rw [whole] at same ⊢
  have exact : rounded num den scale = n := rounded_exact den_pos same
  have short : n < 2 ^ 53 := by
    have less := lt_of_floorLog_le num_pos den_pos (by omega : floorLog num den ≤ scale + 52)
    rw [same, mul_lt_mul_iff_left₀ (by positivity)] at less
    exact_mod_cast less
  have normal : -1074 < scale → 2 ^ 52 ≤ n := fun above =>
    exact ▸ le_rounded_of_floorLog num_pos den_pos (by omega)
  have bits : nearestBits num den = (scale + 1074).toNat * 2 ^ 52 + n := by
    rw [nearestBits, if_neg (Nat.ne_of_gt num_pos), ← here, exact, Nat.pow_eq]
  rw [ofRatio_eq_nearestBits, if_neg (by rw [bits, Nat.pow_eq]; omega), bits]
  exact ⟨isFinite_ofMagnitude negative (by omega), isNegative_ofMagnitude negative (by omega),
    abs_ofMagnitude_scaled negative (by omega) (by omega) short normal⟩

end Binary64

namespace Binary32

/-- The absolute value of a finite number. -/
def abs (x : Binary32) : ℚ := x.mantissa * 2 ^ x.exponent

theorem mantissa_lt (x : Binary32) : x.mantissa < 2 ^ 24 := by
  have small : x.fractionField < Nat.pow 2 23 := Nat.mod_lt _ (by decide)
  rw [mantissa]
  rw [Nat.pow_eq] at small ⊢
  split <;> omega

theorem exponent_bounds {x : Binary32} (finite : x.isFinite = true) :
    -149 ≤ x.exponent ∧ x.exponent ≤ 104 := by
  have small : x.exponentField < Nat.pow 2 8 := Nat.mod_lt _ (by decide)
  rw [isFinite, bne_iff_ne] at finite
  rw [exponent]
  rw [Nat.pow_eq] at small
  omega

/-- A finite number keeps its sign and its value. -/
theorem widen_exact {x : Binary32} (finite : x.isFinite = true) :
    x.widen.isFinite = true ∧ x.widen.isNegative = x.isNegative ∧ x.widen.abs = x.abs := by
  obtain ⟨above, below, positive, same, ratio⟩ :=
    Binary64.exists_ofScaled x.isNegative x.mantissa one_pos x.exponent
  obtain ⟨least, most⟩ := exponent_bounds finite
  have small := mantissa_lt x
  rw [Nat.cast_one, div_one] at ratio
  rw [widen, if_pos finite, same]
  exact Binary64.ofRatio_exact x.isNegative positive ratio (by omega) (by omega) (by omega)

/-- A number is finite where its double is. -/
theorem isFinite_widen (x : Binary32) : x.widen.isFinite = x.isFinite := by
  by_cases finite : x.isFinite = true
  · rw [(widen_exact finite).1, finite]
  · rw [widen, if_neg finite, Bool.eq_false_of_not_eq_true finite]
    split
    · cases x.isNegative <;> decide +kernel
    · decide +kernel

end Binary32
end PathEdit
