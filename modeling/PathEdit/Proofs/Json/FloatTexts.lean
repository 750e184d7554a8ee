import PathEdit.Proofs.Binary64.Whole
import PathEdit.Proofs.Json.Reading

/-! Texts of finite floats. A whole one is written as an integer, any other one with a point, and
the number that is read of such a text is the same wherever the text stands. -/
namespace PathEdit.Json

open Binary64 (Decimal)

/-- What the text of a float alone is read as. -/
def number? (x : Binary64) : Option Value :=
  (Numeral.read (floatChars x)).bind fun (numeral, _) => numeral.value?

theorem toDigits_mul_ten_pow {n : Nat} (positive : 0 < n) (k : Nat) :
    Nat.toDigits 10 (n * 10 ^ k) = Nat.toDigits 10 n ++ List.replicate k '0' := by
  induction k with
  | zero => simp
  | succ k ih =>
    have large : 10 ≤ n * 10 ^ (k + 1) := by
      have unit := Nat.pow_pos (n := k) (show 0 < 10 by decide)
      have step := Nat.mul_pos positive unit
      rw [Nat.pow_succ, ← Nat.mul_assoc]
      omega
    rw [Nat.toDigits_of_base_le (by decide) large, Nat.pow_succ, ← Nat.mul_assoc,
      Nat.mul_div_cancel _ (by decide), Nat.mul_mod_left, ih, List.append_assoc,
      List.replicate_succ']
    rfl

/-- A number with few digits in front of the point has a text with few of them. -/
theorem length_toDigits_add_le {d : Decimal} (positive : 0 < d.digits) {k : Nat}
    (small : d.toRat < 10 ^ k) : (Nat.toDigits 10 d.digits).length + d.power ≤ k := by
  obtain ⟨rest, length⟩ : ∃ rest, (Nat.toDigits 10 d.digits).length = rest + 1 :=
    Nat.exists_eq_succ_of_ne_zero Nat.length_toDigits_pos.ne'
  have most : 10 ^ rest ≤ d.digits := by
    cases rest with
    | zero => exact positive
    | succ rest =>
      by_contra less
      have short := (Nat.length_toDigits_le_iff (by decide) (Nat.succ_pos rest)).mpr
        (Nat.lt_of_not_le less)
      omega
  have less : (10 ^ (rest + d.power : Int) : ℚ) < 10 ^ (k : Int) := by
    rw [zpow_add₀ (by norm_num), zpow_natCast, zpow_natCast]
    refine lt_of_le_of_lt ?_ small
    have most : (10 ^ rest : ℚ) ≤ d.digits := by exact_mod_cast most
    rw [Decimal.toRat]
    gcongr
  have order := (zpow_lt_zpow_iff_right₀ (by norm_num : (1 : ℚ) < 10)).mp less
  omega

/-- A decimal with a negative power is written with a point. -/
theorem positionalChars_fraction {d : Decimal} (positive : 0 < d.digits) (negative : d.power < 0)
    {k : Nat} (small : d.toRat < 10 ^ k) : ∃ ds fs, Numeral.Whole ds ∧ fs ≠ [] ∧
      (∀ c ∈ fs, c.isDigit = true) ∧ ds.length ≤ max k 1 ∧
        floatStyle.positionalChars (Nat.toDigits 10 d.digits) d.power = ds ++ '.' :: fs := by
  have room := length_toDigits_add_le positive small
  have each := Numeral.isDigit_of_mem_toDigits d.digits
  obtain ⟨c, cs, same, nonzero⟩ := Numeral.exists_toDigits positive
  rw [Binary64.Style.positionalChars, if_neg (Int.not_le.mpr negative), same]
  rw [same] at each room
  split
  · rename_i inside
    obtain ⟨n, count⟩ : ∃ n : Nat, ((c :: cs).length : Int) + d.power = n + 1 :=
      ⟨(((c :: cs).length : Int) + d.power - 1).toNat, by omega⟩
    have take : (c :: cs).take ((c :: cs).length + d.power).toNat = c :: cs.take n := by
      rw [count, show ((n : Int) + 1).toNat = n + 1 by omega, List.take_succ_cons]
    obtain ⟨first, others⟩ := List.forall_mem_cons.mp each
    refine ⟨c :: cs.take n, _, ?_, ?_, ?_, ?_, by rw [take]⟩
    · exact .positive first nonzero fun d present => others d (List.mem_of_mem_take present)
    · rw [← List.length_pos_iff, List.length_drop]
      omega
    · exact fun d present => each d (List.mem_of_mem_drop present)
    · rw [List.length_cons, List.length_take]
      omega
  · refine ⟨['0'], _, .zero, by simp, ?_, Nat.le_max_right k 1, rfl⟩
    intro d present
    rcases List.mem_append.mp present with zeros | digits
    · rw [List.eq_of_mem_replicate zeros]
      rfl
    · exact each d digits

/-- The decimal that is written for a finite float. -/
def written (x : Binary64) : Decimal := if x.isZero then ⟨0, 0⟩ else x.shortest .up

variable {x : Binary64}

theorem floatChars_eq (finite : x.isFinite = true) :
    floatChars x = Binary64.Style.withSign x.isNegative
      (floatStyle.positionalChars (Nat.toDigits 10 (written x).digits) (written x).power) := by
  rw [floatChars, if_pos finite]
  rfl

/-- A whole float is written as an integer. -/
theorem floatChars_whole (finite : x.isFinite = true) (nonneg : 0 ≤ (written x).power) :
    floatChars x =
      Binary64.Style.withSign x.isNegative (Nat.toDigits 10 (written x).toNat) := by
  rw [floatChars_eq finite, Binary64.Style.positionalChars, if_pos nonneg, floatStyle,
    if_neg Bool.false_ne_true, List.append_nil]
  congr 1
  cases zero : x.isZero with
  | true =>
    rw [written, if_pos zero]
    rfl
  | false =>
    have positive := Binary64.shortest_pos finite zero .up
    rw [written, if_neg (by simp [zero]), Decimal.toNat, toDigits_mul_ten_pow positive]

/-- A float with a fraction is written with a point, and with few digits in front of it. -/
theorem floatChars_fraction (finite : x.isFinite = true) (negative : (written x).power < 0) :
    ∃ ds fs, Numeral.Whole ds ∧ fs ≠ [] ∧ (∀ c ∈ fs, c.isDigit = true) ∧ ds.length ≤ 19 ∧
      floatChars x = Binary64.Style.withSign x.isNegative (ds ++ '.' :: fs) := by
  have nonzero : x.isZero = false := by
    cases zero : x.isZero with
    | true =>
      rw [written, if_pos zero] at negative
      exact absurd negative (by decide)
    | false => rfl
  have same : written x = x.shortest .up := by rw [written, if_neg (by simp [nonzero])]
  rw [same] at negative
  have scale : (2 ^ x.exponent : ℚ) ≤ 1 := by
    refine zpow_le_one_of_nonpos₀ one_le_two (le_of_not_gt fun large => ?_)
    have whole := (Binary64.shortest_power_iff finite nonzero .up).mpr
      ⟨_, Binary64.abs_of_exponent_nonneg large.le⟩
    omega
  have small : (x.shortest .up).toRat < 10 ^ 19 := by
    have near := (abs_le.mp (Binary64.shortest_near finite nonzero .up)).2
    have mantissa : (x.mantissa : ℚ) < 2 ^ 53 := by exact_mod_cast Binary64.mantissa_lt x
    have room : (2 ^ 53 + 1 : ℚ) < 10 ^ 19 := by norm_num
    have bound := mul_le_of_le_one_right (Nat.cast_nonneg (α := ℚ) x.mantissa) scale
    rw [Binary64.abs] at near
    linarith
  obtain ⟨ds, fs, whole, nonempty, each, few, text⟩ :=
    positionalChars_fraction (Binary64.shortest_pos finite nonzero .up) negative small
  exact ⟨ds, fs, whole, nonempty, each, few, by rw [floatChars_eq finite, same, text]⟩

/-- A text that begins with digits is read as its number wherever it stands. -/
theorem rereads_of_read {ds more : List Char} {numeral : Numeral} (whole : Numeral.Whole ds)
    (text : floatChars x = Binary64.Style.withSign x.isNegative (ds ++ more))
    (read : ∀ rest, Numeral.stops rest = true →
      Numeral.read (Binary64.Style.withSign x.isNegative (ds ++ (more ++ rest))) =
        some (numeral, rest)) :
    Rereads number? x ∧ number? x = numeral.value? := by
  obtain ⟨c, cs, first, shape⟩ := Reader.exists_withSign whole x.isNegative
  have alone : number? x = numeral.value? := by
    have ended := read [] rfl
    rw [List.append_nil] at ended
    rw [number?, text, ended]
    rfl
  refine ⟨⟨?_, fun depth rest stopped => ?_⟩, alone⟩
  · rw [text, shape]
    exact Reader.begins_numeral first _
  · rw [alone, text, Reader.withSign_append, List.append_assoc, shape, Reader.value_numeral first,
      ← shape, read rest stopped]
    rfl

/-- What is read of a whole float. -/
theorem rereads_whole (finite : x.isFinite = true) (nonneg : 0 ≤ (written x).power) :
    Rereads number? x ∧ number? x = Numeral.value?
      ⟨x.isNegative, Nat.toDigits 10 (written x).toNat, [], false, [], true⟩ := by
  have whole := Numeral.whole_toDigits (written x).toNat
  have text : floatChars x = Binary64.Style.withSign x.isNegative
      (Nat.toDigits 10 (written x).toNat ++ []) := by
    rw [List.append_nil, floatChars_whole finite nonneg]
  exact rereads_of_read whole text fun rest stopped =>
    Numeral.read_whole x.isNegative whole stopped

/-- What is read of a float with a fraction. -/
theorem rereads_fraction (finite : x.isFinite = true) (negative : (written x).power < 0) :
    ∃ ds fs, (∀ c ∈ ds, c.isDigit = true) ∧ ds.length ≤ 19 ∧ Rereads number? x ∧
      number? x = Numeral.value? ⟨x.isNegative, ds, fs, false, [], false⟩ := by
  obtain ⟨ds, fs, whole, nonempty, each, few, text⟩ := floatChars_fraction finite negative
  exact ⟨ds, fs, whole.digits, few, rereads_of_read whole text fun rest stopped =>
    Numeral.read_fraction x.isNegative whole nonempty each stopped⟩

/-- The text of every finite float is read as its number wherever it stands. -/
theorem rereads_of_isFinite (finite : x.isFinite = true) : Rereads number? x := by
  rcases Int.lt_or_le (written x).power 0 with negative | nonneg
  · obtain ⟨_, _, _, _, rereads, _⟩ := rereads_fraction finite negative
    exact rereads
  · exact (rereads_whole finite nonneg).1

end PathEdit.Json
