import PathEdit.Proofs.Binary64.Whole
import PathEdit.Proofs.Json.Numerals

/-! When a number is too large for a float. A number whose leading digits fit 64 bits without sign
never is; any other one is read in two roundings, which reach beyond the largest double for no
number that is at least three halves of a step below the one after it. -/
namespace PathEdit.Json.Numeral

open Binary64 (ofNat largestNat lastMiddle)

variable {limit significand : Nat} {ds : List Char}

/-- The digits left over continue the number. -/
theorem ofDigitChars_absorb (limit significand : Nat) (ds : List Char) :
    Nat.ofDigitChars 10 (absorb limit significand ds).2 (absorb limit significand ds).1 =
      Nat.ofDigitChars 10 ds significand := by
  induction ds generalizing significand with
  | nil => rfl
  | cons c ds ih =>
    unfold absorb
    dsimp only
    split
    · exact ih _
    · rfl

theorem absorb_lt (small : significand < limit) (ds : List Char) :
    (absorb limit significand ds).1 < limit := by
  induction ds generalizing significand with
  | nil => exact small
  | cons c ds ih =>
    unfold absorb
    dsimp only
    split
    · rename_i next
      exact ih next
    · exact small

theorem digitValue_le {c : Char} (digit : c.isDigit = true) : digitValue c ≤ 9 :=
  Nat.sub_le_of_le_add (Char.isDigit_iff_toNat.mp digit).2

/-- Digits are left over only where the next one does not fit. -/
theorem le_absorb (each : ∀ c ∈ ds, c.isDigit = true)
    (left : (absorb limit significand ds).2 ≠ []) :
    limit ≤ 10 * (absorb limit significand ds).1 + 9 := by
  induction ds generalizing significand with
  | nil => exact absurd rfl left
  | cons c ds ih =>
    obtain ⟨first, others⟩ := List.forall_mem_cons.mp each
    unfold absorb at left ⊢
    dsimp only at left ⊢
    split at left <;> rename_i next
    · rw [if_pos next]
      exact ih others left
    · rw [if_neg next]
      have digit := digitValue_le first
      dsimp only
      omega

/-- Few digits all fit. -/
theorem absorb_all (each : ∀ c ∈ ds, c.isDigit = true)
    (room : (significand + 1) * 10 ^ ds.length ≤ limit) :
    (absorb limit significand ds).2 = [] := by
  induction ds generalizing significand with
  | nil => rfl
  | cons c ds ih =>
    obtain ⟨first, others⟩ := List.forall_mem_cons.mp each
    have digit := digitValue_le first
    have unit : 1 ≤ 10 ^ ds.length := Nat.pow_pos (by decide)
    have more : (10 * significand + digitValue c + 1) * 10 ^ ds.length ≤ limit := by
      refine le_trans ?_ room
      rw [List.length_cons, Nat.pow_succ', ← Nat.mul_assoc]
      exact Nat.mul_le_mul_right _ (by omega)
    have next : 10 * significand + digitValue c < limit :=
      lt_of_lt_of_le (Nat.lt_succ_self _) (le_trans (Nat.le_mul_of_pos_right _ unit) more)
    unfold absorb
    dsimp only
    rw [if_pos next]
    exact ih others more

/-- A divisor never makes a number too large. -/
theorem scale_of_neg {power : Int} (negative : power < 0) (steps : Nat) (x : Binary64) :
    (scale steps x power).isSome = true := by
  induction steps generalizing x power with
  | zero => rfl
  | succ steps ih =>
    unfold scale
    rw [if_neg (Int.not_le.mpr negative), if_neg (Int.not_le.mpr negative)]
    split
    · rfl
    · split
      · rfl
      · exact ih (by omega) _

theorem scale_of_isFinite {x : Binary64} {power : Nat} (few : power ≤ 308)
    (finite : (x.mul (tenPower power)).isFinite = true) (steps : Nat) :
    (scale (steps + 1) x power).isSome = true := by
  unfold scale
  rw [if_pos (by omega), if_pos (by omega), Int.toNat_natCast]
  simp [finite]

/-- Bounds on the factors bound the rounded product. -/
theorem isFinite_mul_of_le {x y bound bound' : Binary64} (left : x.abs ≤ bound.abs)
    (right : y.abs ≤ bound'.abs) (whole : 0 ≤ bound.exponent) (whole' : 0 ≤ bound'.exponent)
    (le : bound.mantissa * 2 ^ bound.exponent.toNat *
      (bound'.mantissa * 2 ^ bound'.exponent.toNat) ≤ largestNat) :
    (x.mul y).isFinite = true := by
  have product := mul_le_mul left right (Binary64.zero_le_abs y) (Binary64.zero_le_abs bound)
  refine Binary64.isFinite_mul (product.trans ?_)
  rw [Binary64.abs_of_exponent_nonneg whole, Binary64.abs_of_exponent_nonneg whole']
  exact_mod_cast le

theorem abs_tenPower_mono {power power' : Nat} (le : power ≤ power')
    (finite : (tenPower power').isFinite = true) : (tenPower power).abs ≤ (tenPower power').abs :=
  Binary64.abs_ofNat_mono (Nat.pow_le_pow_right (by decide) le) finite

theorem isFinite_mul_tenPower_few {significand power : Nat} (small : significand < UInt64.size)
    (few : power ≤ 288) : ((ofNat significand).mul (tenPower power)).isFinite = true :=
  isFinite_mul_of_le (Binary64.abs_ofNat_mono small.le (by decide +kernel))
    (abs_tenPower_mono few (by decide +kernel)) (by decide +kernel) (by decide +kernel)
    (by decide +kernel)

/-- One more power of ten leaves room for the significands of numbers below the largest double. -/
theorem isFinite_mul_tenPower_many {significand : Nat}
    (small : significand * 10 ^ 289 ≤ lastMiddle) :
    ((ofNat significand).mul (tenPower 289)).isFinite = true := by
  have le : significand ≤ lastMiddle / 10 ^ 289 :=
    (Nat.le_div_iff_mul_le (by positivity)).mpr small
  exact isFinite_mul_of_le (Binary64.abs_ofNat_mono le (by decide +kernel)) le_rfl
    (by decide +kernel) (by decide +kernel) (by decide +kernel)

theorem float?_eq (negative isWhole : Bool) (ds fs : List Char) :
    float? ⟨negative, ds, fs, false, [], isWhole⟩ =
      (scale 4 (ofNat (absorb UInt64.size (absorb UInt64.size 0 ds).1 fs).1)
        ((absorb UInt64.size 0 ds).2.length -
          (fs.length - (absorb UInt64.size (absorb UInt64.size 0 ds).1 fs).2.length : Nat))).map
        fun x => if negative then x.neg else x := by
  simp [float?, absorb]

/-- A number with few digits in front of the point is never too large. -/
theorem float?_of_few (negative isWhole : Bool) (each : ∀ c ∈ ds, c.isDigit = true)
    (few : ds.length ≤ 19) (fs : List Char) :
    (float? ⟨negative, ds, fs, false, [], isWhole⟩).isSome = true := by
  have room : (0 + 1) * 10 ^ ds.length ≤ UInt64.size := by
    rw [Nat.zero_add, Nat.one_mul]
    exact (Nat.pow_le_pow_right (by decide) few).trans (by decide)
  have small := absorb_lt (absorb_lt (show 0 < UInt64.size by decide) ds) fs
  rw [float?_eq, Option.isSome_map, absorb_all each room]
  generalize (fs.length - (absorb UInt64.size (absorb UInt64.size 0 ds).1 fs).2.length) = places
  cases places with
  | zero => exact scale_of_isFinite (by decide) (isFinite_mul_tenPower_few small (by decide)) 3
  | succ places =>
    refine scale_of_neg ?_ 4 _
    simp only [List.length_nil]
    omega

/-- A number up to the middle of the two largest doubles leaves at most 289 digits over. -/
theorem length_le_of_le {significand length : Nat} (stuck : UInt64.size ≤ 10 * significand + 9)
    (small : significand * 10 ^ length ≤ lastMiddle) : length ≤ 289 := by
  have digits : 1844674407370955161 ≤ significand := by
    rw [show UInt64.size = 18446744073709551616 from rfl] at stuck
    omega
  have beyond : lastMiddle < 1844674407370955161 * 10 ^ 290 := by decide +kernel
  have unit (k : Nat) (le : k ≤ length) : 10 ^ k ≤ 10 ^ length :=
    Nat.pow_le_pow_right (by decide) le
  by_contra many
  have product := Nat.mul_le_mul digits (unit 290 (Nat.lt_of_not_le many))
  exact absurd (beyond.trans_le product) (Nat.not_lt_of_le small)

/-- A number up to the middle of the two largest doubles is not too large. -/
theorem float?_of_le {n : Nat} (small : n ≤ lastMiddle) (negative : Bool) :
    (float? ⟨negative, Nat.toDigits 10 n, [], false, [], true⟩).isSome = true := by
  have fits : (absorb UInt64.size 0 (Nat.toDigits 10 n)).1 < UInt64.size :=
    absorb_lt (by decide) _
  have value := ofDigitChars_absorb UInt64.size 0 (Nat.toDigits 10 n)
  have stuck : (absorb UInt64.size 0 (Nat.toDigits 10 n)).2 ≠ [] →
      UInt64.size ≤ 10 * (absorb UInt64.size 0 (Nat.toDigits 10 n)).1 + 9 :=
    le_absorb (isDigit_of_mem_toDigits n)
  rw [Nat.ofDigitChars_ten_toDigits, Nat.ofDigitChars_eq_ofDigitChars_zero] at value
  rw [float?_eq, Option.isSome_map]
  simp only [absorb, List.length_nil, Nat.sub_zero, Nat.cast_zero, sub_zero]
  generalize absorb UInt64.size 0 (Nat.toDigits 10 n) = parts at *
  obtain ⟨significand, left⟩ := parts
  have bound : significand * 10 ^ left.length ≤ lastMiddle := by
    rw [Nat.mul_comm]
    exact (Nat.le_add_right _ _).trans (value.trans_le small)
  by_cases few : left.length ≤ 288
  · exact scale_of_isFinite (by omega) (isFinite_mul_tenPower_few fits few) 3
  · have large : UInt64.size ≤ 10 * significand + 9 := stuck fun empty => by
      rw [show left = [] from empty] at few
      exact few (Nat.zero_le _)
    have exact : left.length = 289 := by
      have most := length_le_of_le large bound
      omega
    rw [exact] at bound
    rw [exact]
    exact scale_of_isFinite (by decide) (isFinite_mul_tenPower_many bound) 3

end PathEdit.Json.Numeral
