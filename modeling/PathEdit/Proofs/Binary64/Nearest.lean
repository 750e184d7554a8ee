import Mathlib.Algebra.Order.Field.Power
import Mathlib.Tactic.Linarith
import Mathlib.Tactic.Positivity
import Mathlib.Tactic.Ring
import PathEdit.Binary64.Basic

/-! Rounding to doubles is monotone. What `ofRatio` writes below the sign is a monotone function of
the quotient (`nearestBits_mono`), and larger bits are larger numbers (`abs_ofMagnitude_mono`), so
that bounds on exact results carry over to rounded ones. -/
namespace PathEdit.Binary64

/-- The absolute value of a finite number. -/
def abs (x : Binary64) : ℚ := x.mantissa * 2 ^ x.exponent

theorem zero_le_abs (x : Binary64) : 0 ≤ x.abs := by
  rw [abs]
  positivity

/-- A power as a quotient of powers with natural exponents. -/
theorem zpow_eq_div {base : ℚ} (nonzero : base ≠ 0) (power : Int) :
    base ^ power = base ^ power.toNat / base ^ (-power).toNat := by
  rw [eq_div_iff (pow_ne_zero _ nonzero), ← zpow_natCast, ← zpow_natCast, ← zpow_add₀ nonzero]
  congr 1
  omega

theorem zpow_of_nonneg (base : ℚ) {power : Int} (nonneg : 0 ≤ power) :
    base ^ power = base ^ power.toNat := by
  rw [← zpow_natCast, Int.toNat_of_nonneg nonneg]

theorem zpow_of_neg (base : ℚ) {power : Int} (negative : power < 0) :
    base ^ power = (base ^ (-power).toNat)⁻¹ := by
  rw [← zpow_of_nonneg base (by omega : 0 ≤ -power), zpow_neg, inv_inv]

theorem two_zpow_add (bits : Nat) (scale : Int) :
    (2 ^ (bits + scale) : ℚ) = (2 ^ bits : Nat) * 2 ^ scale := by
  rw [zpow_add₀ two_ne_zero, zpow_natCast, Nat.cast_pow, Nat.cast_ofNat]

/-- Without a negative exponent a number is an integer. -/
theorem abs_of_exponent_nonneg {x : Binary64} (nonneg : 0 ≤ x.exponent) :
    x.abs = (x.mantissa * 2 ^ x.exponent.toNat : Nat) := by
  rw [abs, zpow_of_nonneg 2 nonneg]
  push_cast
  rfl

/-- Where the rounded quotient exceeds a number: a half goes to the even neighbour. -/
theorem lt_roundQuotient_iff {num den n : Nat} (positive : 0 < den) :
    n < roundQuotient num den ↔
      (2 * n + 1) * den < 2 * num ∨ (2 * n + 1) * den = 2 * num ∧ n % 2 = 1 := by
  have parts := Nat.div_add_mod num den
  have small := Nat.mod_lt num positive
  unfold roundQuotient
  generalize num / den = quotient at *
  generalize num % den = rest at *
  subst parts
  rcases Nat.lt_trichotomy n quotient with less | rfl | greater
  · have product := Nat.mul_le_mul_left den (Nat.succ_le_of_lt less)
    have spread : (2 * n + 1) * den < 2 * (den * quotient + rest) := by
      rw [Nat.mul_succ] at product
      linarith
    have above : n < if 2 * rest < den then quotient else if den < 2 * rest then quotient + 1
        else quotient + quotient % 2 := by
      split_ifs <;> omega
    simp [spread, above]
  · have spread : (2 * n + 1) * den = 2 * (den * n) + den := by ring
    rw [spread]
    dsimp only
    split_ifs <;> omega
  · have product := Nat.mul_le_mul_left den (Nat.succ_le_of_lt greater)
    have spread : 2 * (den * quotient + rest) < (2 * n + 1) * den := by
      rw [Nat.mul_succ] at product
      linarith
    have below : ¬ n < if 2 * rest < den then quotient else if den < 2 * rest then quotient + 1
        else quotient + quotient % 2 := by
      split_ifs <;> omega
    simp [below, Nat.lt_asymm spread, Nat.ne_of_gt spread]

/-- A quotient over a power of two, rounded. -/
def rounded (num den : Nat) (scale : Int) : Nat :=
  if 0 ≤ scale then roundQuotient num (den * Nat.pow 2 scale.toNat)
  else roundQuotient (num * Nat.pow 2 (-scale).toNat) den

section Rounded

variable {num den num' den' n : Nat} {scale : Int}

private theorem exists_rounded (num : Nat) (positive : 0 < den) (scale : Int) :
    ∃ above below : Nat, 0 < below ∧ rounded num den scale = roundQuotient above below ∧
      (above / below : ℚ) = num / den / 2 ^ scale := by
  unfold rounded
  split
  · rename_i nonneg
    refine ⟨_, _, Nat.mul_pos positive (Nat.two_pow_pos _), rfl, ?_⟩
    rw [zpow_of_nonneg 2 nonneg, div_div, Nat.cast_mul, Nat.cast_pow, Nat.cast_ofNat]
  · rename_i negative
    refine ⟨_, _, positive, rfl, ?_⟩
    rw [zpow_of_neg 2 (Int.not_le.mp negative), div_inv_eq_mul, Nat.cast_mul, div_mul_eq_mul_div,
      Nat.pow_eq, Nat.cast_pow, Nat.cast_ofNat]

theorem lt_rounded_iff (positive : 0 < den) :
    n < rounded num den scale ↔ (2 * n + 1 : ℚ) < 2 * (num / den / 2 ^ scale) ∨
      (2 * n + 1 : ℚ) = 2 * (num / den / 2 ^ scale) ∧ n % 2 = 1 := by
  obtain ⟨above, below, nonzero, same, ratio⟩ := exists_rounded num positive scale
  have nonzero' : (0 : ℚ) < below := by exact_mod_cast nonzero
  rw [same, lt_roundQuotient_iff nonzero, ← ratio, mul_div_assoc', lt_div_iff₀ nonzero',
    eq_div_iff nonzero'.ne']
  norm_cast

theorem rounded_mono (positive : 0 < den) (positive' : 0 < den')
    (le : (num / den : ℚ) ≤ num' / den') : rounded num den scale ≤ rounded num' den' scale := by
  have scaled : (num / den / 2 ^ scale : ℚ) ≤ num' / den' / 2 ^ scale := by gcongr
  by_contra less
  suffices above : rounded num' den' scale < rounded num' den' scale from Nat.lt_irrefl _ above
  rw [lt_rounded_iff positive']
  rcases (lt_rounded_iff positive).mp (Nat.lt_of_not_le less) with below | ⟨half, odd⟩
  · exact .inl (by linarith)
  · rcases scaled.lt_or_eq with strict | same
    · exact .inl (by linarith)
    · exact .inr ⟨by rw [half, same], odd⟩

theorem rounded_le (positive : 0 < den) (le : (num / den : ℚ) ≤ n * 2 ^ scale) :
    rounded num den scale ≤ n := by
  have scaled : (num / den / 2 ^ scale : ℚ) ≤ n := (div_le_iff₀ (by positivity)).mpr le
  by_contra less
  rcases (lt_rounded_iff positive).mp (Nat.lt_of_not_le less) with below | ⟨half, -⟩ <;> linarith

theorem le_rounded (positive : 0 < den) (le : (n * 2 ^ scale : ℚ) ≤ num / den) :
    n ≤ rounded num den scale := by
  have scaled : (n : ℚ) ≤ num / den / 2 ^ scale := (le_div_iff₀ (by positivity)).mpr le
  cases n with
  | zero => exact Nat.zero_le _
  | succ n =>
    push_cast at scaled
    exact (lt_rounded_iff positive).mpr (.inl (by linarith))

private theorem log2_spec (positive : 0 < n) :
    (2 ^ (Nat.log2 n : Int) : ℚ) ≤ n ∧ (n : ℚ) < 2 ^ (Nat.log2 n + 1 : Int) :=
  ⟨by exact_mod_cast Nat.log2_self_le (Nat.ne_of_gt positive),
    by exact_mod_cast (Nat.lt_log2_self : n < 2 ^ (Nat.log2 n + 1))⟩

private theorem quotient_bounds (num_pos : 0 < num) (den_pos : 0 < den) :
    (2 ^ (Nat.log2 num - Nat.log2 den - 1 : Int) : ℚ) ≤ num / den ∧
      (num / den : ℚ) < 2 ^ (Nat.log2 num - Nat.log2 den + 1 : Int) := by
  have den_pos' : (0 : ℚ) < den := by exact_mod_cast den_pos
  obtain ⟨num_low, num_high⟩ := log2_spec num_pos
  obtain ⟨den_low, den_high⟩ := log2_spec den_pos
  rw [le_div_iff₀ den_pos', div_lt_iff₀ den_pos']
  constructor
  · calc (2 ^ (Nat.log2 num - Nat.log2 den - 1 : Int) * den : ℚ)
      _ ≤ 2 ^ (Nat.log2 num - Nat.log2 den - 1 : Int) * 2 ^ (Nat.log2 den + 1 : Int) := by gcongr
      _ = 2 ^ (Nat.log2 num : Int) := by
          rw [← zpow_add₀ two_ne_zero]
          ring_nf
      _ ≤ num := num_low
  · calc (num : ℚ)
      _ < 2 ^ (Nat.log2 num + 1 : Int) := num_high
      _ = 2 ^ (Nat.log2 num - Nat.log2 den + 1 : Int) * 2 ^ (Nat.log2 den : Int) := by
          rw [← zpow_add₀ two_ne_zero]
          ring_nf
      _ ≤ 2 ^ (Nat.log2 num - Nat.log2 den + 1 : Int) * den := by gcongr

private theorem reached_iff (num : Nat) (den_pos : 0 < den) (power : Int) :
    (if 0 ≤ power then decide (den * Nat.pow 2 power.toNat ≤ num)
      else decide (den ≤ num * Nat.pow 2 (-power).toNat)) = true ↔
        (2 ^ power : ℚ) ≤ num / den := by
  rw [le_div_iff₀ (by exact_mod_cast den_pos)]
  split
  · rename_i nonneg
    rw [zpow_of_nonneg 2 nonneg, decide_eq_true_eq, Nat.pow_eq, mul_comm]
    norm_cast
  · rename_i negative
    rw [zpow_of_neg 2 (Int.not_le.mp negative), decide_eq_true_eq, Nat.pow_eq,
      inv_mul_le_iff₀ (by positivity), mul_comm]
    norm_cast

/-- The logarithm of a quotient, rounded down. -/
theorem floorLog_spec (num_pos : 0 < num) (den_pos : 0 < den) :
    (2 ^ floorLog num den : ℚ) ≤ num / den ∧ (num / den : ℚ) < 2 ^ (floorLog num den + 1) := by
  obtain ⟨above, below⟩ := quotient_bounds num_pos den_pos
  have reached := reached_iff num den_pos (Nat.log2 num - Nat.log2 den)
  unfold floorLog
  dsimp only
  by_cases hit : (2 ^ (Nat.log2 num - Nat.log2 den : Int) : ℚ) ≤ num / den
  · rw [if_pos (reached.mpr hit)]
    exact ⟨hit, below⟩
  · rw [if_neg fun claimed => hit (reached.mp claimed), sub_add_cancel]
    exact ⟨above, not_le.mp hit⟩

/-- What is written below the sign for a quotient. -/
def nearestBits (num den : Nat) : Nat :=
  let scale := max (floorLog num den - 52) (-1074)
  if num = 0 then 0 else (scale + 1074).toNat * Nat.pow 2 52 + rounded num den scale

theorem ofRatio_eq_nearestBits (negative : Bool) (num den : Nat) :
    ofRatio negative num den = if 2047 * Nat.pow 2 52 ≤ nearestBits num den then infinity negative
      else ofMagnitude negative (nearestBits num den) := by
  unfold ofRatio nearestBits
  by_cases zero : num = 0
  · simp [zero, Binary64.zero]
  · simp only [zero, if_false]
    rfl

theorem floorLog_mono (num_pos : 0 < num) (den_pos : 0 < den) (num_pos' : 0 < num')
    (den_pos' : 0 < den') (le : (num / den : ℚ) ≤ num' / den') :
    floorLog num den ≤ floorLog num' den' := by
  have below := (floorLog_spec num_pos den_pos).1
  have above := (floorLog_spec num_pos' den_pos').2
  exact Int.lt_add_one_iff.mp
    ((zpow_lt_zpow_iff_right₀ one_lt_two).mp ((below.trans le).trans_lt above))

/-- A quotient has at most fifty-three bits above a scale that is not too fine for its logarithm. -/
theorem lt_of_floorLog_le (num_pos : 0 < num) (den_pos : 0 < den)
    (enough : floorLog num den ≤ scale + 52) : (num / den : ℚ) < (2 ^ 53 : Nat) * 2 ^ scale := by
  calc (num / den : ℚ)
    _ < 2 ^ (floorLog num den + 1) := (floorLog_spec num_pos den_pos).2
    _ ≤ 2 ^ ((53 : Nat) + scale) := zpow_le_zpow_right₀ one_le_two (by omega)
    _ = (2 ^ 53 : Nat) * 2 ^ scale := two_zpow_add 53 scale

/-- Rounding leaves at most fifty-three bits. -/
theorem rounded_le_of_floorLog (num_pos : 0 < num) (den_pos : 0 < den)
    (enough : floorLog num den ≤ scale + 52) : rounded num den scale ≤ 2 ^ 53 :=
  rounded_le den_pos (lt_of_floorLog_le num_pos den_pos enough).le

/-- Rounding leaves fifty-three bits where the logarithm fixes the scale. -/
theorem le_rounded_of_floorLog (num_pos : 0 < num) (den_pos : 0 < den)
    (enough : scale + 52 ≤ floorLog num den) : 2 ^ 52 ≤ rounded num den scale := by
  refine le_rounded den_pos (le_trans ?_ (floorLog_spec num_pos den_pos).1)
  calc ((2 ^ 52 : Nat) * 2 ^ scale : ℚ)
    _ = 2 ^ ((52 : Nat) + scale) := (two_zpow_add 52 scale).symm
    _ ≤ 2 ^ floorLog num den := zpow_le_zpow_right₀ one_le_two (by omega)

/-- Larger quotients are rounded to larger bits. -/
theorem nearestBits_mono (den_pos : 0 < den) (den_pos' : 0 < den')
    (le : (num / den : ℚ) ≤ num' / den') : nearestBits num den ≤ nearestBits num' den' := by
  rcases Nat.eq_zero_or_pos num with rfl | num_pos
  · exact Nat.zero_le _
  have num_pos' : 0 < num' := by
    have positive : (0 : ℚ) < num / den := by positivity
    by_contra zero
    obtain rfl := Nat.eq_zero_of_not_pos zero
    exact absurd (positive.trans_le le) (by simp)
  have logs := floorLog_mono num_pos den_pos num_pos' den_pos' le
  simp only [nearestBits, Nat.ne_of_gt num_pos, Nat.ne_of_gt num_pos', if_false, Nat.pow_eq]
  obtain ⟨scale, here⟩ : ∃ scale, scale = max (floorLog num den - 52) (-1074) := ⟨_, rfl⟩
  obtain ⟨scale', there⟩ : ∃ scale, scale = max (floorLog num' den' - 52) (-1074) := ⟨_, rfl⟩
  rw [← here, ← there]
  rcases Int.lt_or_eq_of_le (show scale ≤ scale' by omega) with less | same
  · have high : rounded num den scale ≤ 2 ^ 53 :=
      rounded_le_of_floorLog num_pos den_pos (by omega)
    have low : 2 ^ 52 ≤ rounded num' den' scale' :=
      le_rounded_of_floorLog num_pos' den_pos' (by omega)
    omega
  · rw [same]
    exact Nat.add_le_add_left (rounded_mono den_pos den_pos' le) _

end Rounded

section Fields

variable {bits bits' : Nat}

theorem toNat_ofMagnitude (negative : Bool) (small : bits < 2 ^ 63) :
    (ofMagnitude negative bits).bits.toNat = (if negative then 2 ^ 63 else 0) + bits := by
  rw [ofMagnitude, UInt64.toNat_ofNat', Nat.pow_eq]
  split <;> omega

theorem exponentField_ofMagnitude (negative : Bool) (small : bits < 2 ^ 63) :
    (ofMagnitude negative bits).exponentField = bits / 2 ^ 52 := by
  rw [exponentField, toNat_ofMagnitude negative small]
  simp only [Nat.pow_eq]
  split <;> omega

theorem fractionField_ofMagnitude (negative : Bool) (small : bits < 2 ^ 63) :
    (ofMagnitude negative bits).fractionField = bits % 2 ^ 52 := by
  rw [fractionField, toNat_ofMagnitude negative small]
  simp only [Nat.pow_eq]
  split <;> omega

theorem isFinite_ofMagnitude (negative : Bool) (small : bits < 2047 * 2 ^ 52) :
    (ofMagnitude negative bits).isFinite = true := by
  rw [isFinite, exponentField_ofMagnitude negative (by omega), bne_iff_ne]
  omega

theorem abs_eq_units (x : Binary64) :
    x.abs = (x.mantissa * 2 ^ (max x.exponentField 1 - 1) : Nat) / 2 ^ 1074 := by
  have split : x.exponent = (max x.exponentField 1 - 1 : Nat) - (1074 : Nat) := by
    rw [exponent]
    omega
  rw [abs, split, zpow_sub₀ two_ne_zero, zpow_natCast, zpow_natCast, Nat.cast_mul, Nat.cast_pow,
    Nat.cast_ofNat, mul_div_assoc]

/-- Larger bits are larger numbers. -/
theorem abs_ofMagnitude_mono (negative negative' : Bool) (le : bits ≤ bits')
    (small : bits' < 2 ^ 63) :
    (ofMagnitude negative bits).abs ≤ (ofMagnitude negative' bits').abs := by
  have small' : bits < 2 ^ 63 := by omega
  rw [abs_eq_units, abs_eq_units, mantissa, mantissa, exponentField_ofMagnitude negative small',
    exponentField_ofMagnitude negative' small, fractionField_ofMagnitude negative small',
    fractionField_ofMagnitude negative' small, Nat.pow_eq]
  gcongr ?_ / _
  norm_cast
  have digits := Nat.div_add_mod bits (2 ^ 52)
  have digits' := Nat.div_add_mod bits' (2 ^ 52)
  have low : bits % 2 ^ 52 < 2 ^ 52 := Nat.mod_lt _ (by decide)
  have low' : bits' % 2 ^ 52 < 2 ^ 52 := Nat.mod_lt _ (by decide)
  generalize bits / 2 ^ 52 = field at *
  generalize bits % 2 ^ 52 = rest at *
  generalize bits' / 2 ^ 52 = field' at *
  generalize bits' % 2 ^ 52 = rest' at *
  rcases Nat.lt_trichotomy field field' with less | rfl | greater
  · have normal : field' ≠ 0 := by omega
    have bound : (if field = 0 then rest else 2 ^ 52 + rest) * 2 ^ (max field 1 - 1) ≤
        2 ^ 52 * 2 ^ field := by
      cases field with
      | zero => simpa using low.le
      | succ field =>
        have room : 2 ^ 52 + rest ≤ 2 ^ 52 * 2 := by omega
        rw [if_neg (Nat.succ_ne_zero field), show max (field + 1) 1 - 1 = field by omega]
        calc (2 ^ 52 + rest) * 2 ^ field
          _ ≤ 2 ^ 52 * 2 * 2 ^ field := Nat.mul_le_mul_right _ room
          _ = 2 ^ 52 * 2 ^ (field + 1) := by ring
    calc (if field = 0 then rest else 2 ^ 52 + rest) * 2 ^ (max field 1 - 1)
      _ ≤ 2 ^ 52 * 2 ^ field := bound
      _ ≤ 2 ^ 52 * 2 ^ (max field' 1 - 1) :=
          Nat.mul_le_mul_left _ (Nat.pow_le_pow_right (by decide) (by omega))
      _ ≤ (if field' = 0 then rest' else 2 ^ 52 + rest') * 2 ^ (max field' 1 - 1) := by
          rw [if_neg normal]
          exact Nat.mul_le_mul_right _ (Nat.le_add_right _ _)
  · refine Nat.mul_le_mul_right _ ?_
    split <;> omega
  · omega

end Fields

/-- The largest finite double of a sign. -/
def largest (negative : Bool) : Binary64 := ofMagnitude negative (2047 * Nat.pow 2 52 - 1)

/-- The largest double is an integer. -/
def largestNat : Nat := (2 ^ 53 - 1) * 2 ^ 971

/-- A quotient up to the largest double is rounded to a finite one. -/
theorem isFinite_ofRatio (negative : Bool) {num den : Nat} (den_pos : 0 < den)
    (le : (num / den : ℚ) ≤ largestNat) : (ofRatio negative num den).isFinite = true := by
  have most : nearestBits largestNat 1 = 2047 * 2 ^ 52 - 1 := by decide +kernel
  have bound : nearestBits num den ≤ nearestBits largestNat 1 :=
    nearestBits_mono den_pos one_pos (by simpa only [Nat.cast_one, div_one] using le)
  rw [most] at bound
  rw [ofRatio_eq_nearestBits, if_neg (by rw [Nat.pow_eq]; omega)]
  exact isFinite_ofMagnitude negative (by omega)

/-- A scaled quotient is rounded as one of natural numbers. -/
theorem exists_ofScaled (negative : Bool) (num : Nat) {den : Nat} (positive : 0 < den)
    (power : Int) : ∃ above below : Nat, 0 < below ∧
      ofScaled negative num den power = ofRatio negative above below ∧
        (above / below : ℚ) = num / den * 2 ^ power := by
  unfold ofScaled
  split
  · rename_i nonneg
    refine ⟨_, _, positive, rfl, ?_⟩
    rw [zpow_of_nonneg 2 nonneg, Nat.cast_mul, div_mul_eq_mul_div, Nat.pow_eq, Nat.cast_pow,
      Nat.cast_ofNat]
  · rename_i negative
    refine ⟨_, _, Nat.mul_pos positive (Nat.two_pow_pos _), rfl, ?_⟩
    rw [zpow_of_neg 2 (Int.not_le.mp negative), ← div_eq_mul_inv, div_div, Nat.cast_mul,
      Nat.cast_pow, Nat.cast_ofNat]

/-- A product up to the largest double is rounded to a finite one. -/
theorem isFinite_mul {x y : Binary64} (le : x.abs * y.abs ≤ largestNat) :
    (x.mul y).isFinite = true := by
  obtain ⟨above, below, positive, same, ratio⟩ := exists_ofScaled (x.isNegative != y.isNegative)
    (x.mantissa * y.mantissa) one_pos (x.exponent + y.exponent)
  rw [mul, same]
  refine isFinite_ofRatio _ positive (ratio.trans_le (le_trans (le_of_eq ?_) le))
  rw [abs, abs, zpow_add₀ two_ne_zero, Nat.cast_mul, Nat.cast_one]
  ring

/-- Larger numbers are rounded to larger doubles. -/
theorem abs_ofNat_mono {n m : Nat} (le : n ≤ m) (finite : (ofNat m).isFinite = true) :
    (ofNat n).abs ≤ (ofNat m).abs := by
  have bound : nearestBits n 1 ≤ nearestBits m 1 :=
    nearestBits_mono one_pos one_pos (by gcongr)
  have small : ¬ 2047 * Nat.pow 2 52 ≤ nearestBits m 1 := by
    intro large
    rw [ofNat, ofRatio_eq_nearestBits, if_pos large] at finite
    exact absurd finite (by decide +kernel)
  rw [ofNat, ofNat, ofRatio_eq_nearestBits, ofRatio_eq_nearestBits, if_neg small,
    if_neg fun large => small (large.trans bound)]
  rw [Nat.pow_eq] at small
  exact abs_ofMagnitude_mono false false bound (by omega)

end PathEdit.Binary64
