import PathEdit.Proofs.Json.FloatTexts
import PathEdit.Proofs.Json.Overflow
import PathEdit.Proofs.Json.RoundTrip

/-! Which numbers are read back as the kind they were written as. Integers always are. A float
without a fraction is written without a point, so that it comes back as an integer wherever it is
one of 64 bits; beyond them it comes back as a float, but for the largest ones, whose texts are
read as too large. -/
namespace PathEdit.Json

open Binary64 (largest)

/-- Whether the text of a number is one of an integer of 64 bits. -/
def Numeral.IsInteger (numeral : Numeral) : Prop :=
  numeral.isWhole = true ∧
    if numeral.negative then
      0 < Nat.ofDigitChars 10 numeral.whole 0 ∧ Nat.ofDigitChars 10 numeral.whole 0 ≤ 2 ^ 63
    else Nat.ofDigitChars 10 numeral.whole 0 < 2 ^ 63

theorem Numeral.value?_of_isInteger {numeral : Numeral} (integer : numeral.IsInteger) :
    ∃ n, numeral.value? = some (.integer n) := by
  obtain ⟨whole, bounds⟩ := integer
  unfold value?
  cases sign : numeral.negative with
  | true =>
    refine ⟨.ofInt (-Nat.ofDigitChars 10 numeral.whole 0), ?_⟩
    simp_all
  | false =>
    refine ⟨.ofNat (Nat.ofDigitChars 10 numeral.whole 0), ?_⟩
    simp_all

theorem Numeral.value?_of_not_isInteger {numeral : Numeral} (other : ¬ numeral.IsInteger) :
    numeral.value? = numeral.float?.map .float := by
  unfold IsInteger at other
  unfold value?
  cases whole : numeral.isWhole with
  | true =>
    rw [whole] at other
    cases sign : numeral.negative <;> simp_all
  | false => simp

variable {x : Binary64} {n : Nat}

/-- Whether what is read of the text of a float is a float. -/
def ComesBack (x : Binary64) (read : Option Value) : Prop :=
  ∃ value, read = some value ∧ value.tree.outline = (Tree.float x).outline

theorem comesBack_value?_iff {numeral : Numeral} :
    ComesBack x numeral.value? ↔ ¬ numeral.IsInteger ∧ numeral.float?.isSome = true := by
  by_cases integer : numeral.IsInteger
  · obtain ⟨n, same⟩ := Numeral.value?_of_isInteger integer
    rw [same]
    refine ⟨?_, fun back => absurd integer back.1⟩
    rintro ⟨value, read, kinds⟩
    cases read
    cases kinds
  · rw [Numeral.value?_of_not_isInteger integer]
    cases numeral.float? with
    | none => exact ⟨nofun, nofun⟩
    | some y => exact ⟨fun _ => ⟨integer, rfl⟩, fun _ => ⟨.float y, rfl, rfl⟩⟩

/-- Whether a finite float comes back as a float: it is not the largest of its sign, and it is
negative zero if it is an integer below `2 ^ 63`. -/
def KeepsKind (x : Binary64) : Prop :=
  (∀ negative, x ≠ largest negative) ∧
    ∀ n, x.toInt? = some n → n.natAbs < 2 ^ 63 → x = .zero true

/-- The largest doubles have texts that are read as too large. -/
theorem number?_largest (negative : Bool) : number? (largest negative) = none := by
  have none : ∀ negative, (number? (largest negative)).isNone = true := by decide +kernel
  exact Option.isNone_iff_eq_none.mp (none negative)

theorem ne_largest (back : ComesBack x (number? x)) (negative : Bool) : x ≠ largest negative := by
  rintro rfl
  obtain ⟨value, same, -⟩ := back
  rw [number?_largest] at same
  cases same

/-- A float with a fraction comes back as a float. -/
theorem comesBack_fraction (finite : x.isFinite = true) (negative : (written x).power < 0) :
    ComesBack x (number? x) := by
  obtain ⟨ds, fs, each, few, -, same⟩ := rereads_fraction finite negative
  rw [same, comesBack_value?_iff]
  exact ⟨fun integer => Bool.false_ne_true integer.1, Numeral.float?_of_few _ _ each few fs⟩

section Whole

variable (finite : x.isFinite = true) (nonzero : x.isZero = false) (whole : x.abs = n)
include finite nonzero whole

theorem number?_whole : number? x = Numeral.value?
    ⟨x.isNegative, Nat.toDigits 10 (x.shortest .up).toNat, [], false, [], true⟩ := by
  have same : written x = x.shortest .up := by rw [written, if_neg (by simp [nonzero])]
  have nonneg := (Binary64.shortest_power_iff finite nonzero .up).mpr ⟨n, whole⟩
  rw [← same] at nonneg ⊢
  exact (rereads_whole finite nonneg).2

/-- A whole float below `2 ^ 63` comes back as an integer. -/
theorem not_comesBack_of_lt (small : n < 2 ^ 63) : ¬ ComesBack x (number? x) := by
  have bound := Binary64.toNat_lt finite nonzero whole small .up
  have positive : 0 < (x.shortest .up).toNat :=
    Nat.mul_pos (Binary64.shortest_pos finite nonzero .up) (Nat.pow_pos (by decide))
  rw [number?_whole finite nonzero whole, comesBack_value?_iff]
  refine fun back => back.1 ⟨rfl, ?_⟩
  rw [Nat.ofDigitChars_ten_toDigits]
  split
  · exact ⟨positive, bound.le⟩
  · exact bound

/-- A whole float from `2 ^ 63` on comes back as a float, but for the largest ones. -/
theorem comesBack_of_le (large : 2 ^ 63 ≤ n) (other : ∀ negative, x ≠ largest negative) :
    ComesBack x (number? x) := by
  have bound := Binary64.lt_toNat finite nonzero whole large
  rw [number?_whole finite nonzero whole, comesBack_value?_iff]
  refine ⟨fun integer => ?_,
    Numeral.float?_of_le (Binary64.toNat_le finite nonzero whole other .up) _⟩
  have inside := integer.2
  rw [Nat.ofDigitChars_ten_toDigits] at inside
  split at inside <;> omega

end Whole

theorem eq_zero_of_isZero (zero : x.isZero = true) : x = .zero x.isNegative := by
  have fields := Binary64.ofMagnitude_fields x
  rw [Binary64.isZero, Bool.and_eq_true, beq_iff_eq, beq_iff_eq] at zero
  rw [zero.1, zero.2] at fields
  exact fields.symm

/-- The zero without a sign comes back as an integer, the other one as itself. -/
theorem number?_zero : number? (.zero false) = some (.integer 0) ∧
    number? (.zero true) = some (.float (.zero true)) := by
  decide +kernel

theorem comesBack_zero_iff (negative : Bool) :
    ComesBack (.zero negative) (number? (.zero negative)) ↔ negative = true := by
  cases negative with
  | false =>
    rw [number?_zero.1]
    refine ⟨?_, nofun⟩
    rintro ⟨value, same, kinds⟩
    cases same
    cases kinds
  | true =>
    rw [number?_zero.2]
    exact ⟨fun _ => rfl, fun _ => ⟨_, rfl, rfl⟩⟩

theorem comesBack_iff_keepsKind (finite : x.isFinite = true) :
    ComesBack x (number? x) ↔ KeepsKind x := by
  cases zero : x.isZero with
  | true =>
    rw [eq_zero_of_isZero zero, comesBack_zero_iff]
    generalize x.isNegative = negative
    cases negative with
    | false =>
      refine ⟨nofun, fun keeps => ?_⟩
      have same := keeps.2 0 (by decide +kernel) (by decide)
      cases same
    | true =>
      refine ⟨fun _ => ⟨fun negative => ?_, fun _ _ _ => rfl⟩, fun _ => rfl⟩
      cases negative <;> decide +kernel
  | false =>
    have other : x ≠ .zero true := by
      rintro rfl
      cases zero
    by_cases fraction : (written x).power < 0
    · have back := comesBack_fraction finite fraction
      refine ⟨fun _ => ⟨ne_largest back, fun i same small => ?_⟩, fun _ => back⟩
      have nonneg := (Binary64.shortest_power_iff finite zero .up).mpr
        ⟨_, Binary64.abs_of_toInt? same⟩
      rw [written, if_neg (by simp [zero])] at fraction
      omega
    · rw [written, if_neg (by simp [zero])] at fraction
      obtain ⟨n, whole⟩ :=
        (Binary64.shortest_power_iff finite zero .up).mp (Int.not_lt.mp fraction)
      obtain ⟨i, integer, magnitude⟩ := Binary64.exists_toInt? finite whole
      by_cases small : n < 2 ^ 63
      · refine ⟨fun back => absurd back (not_comesBack_of_lt finite zero whole small), ?_⟩
        exact fun keeps => absurd (keeps.2 i integer (by omega)) other
      · refine ⟨fun back => ⟨ne_largest back, fun j same less => ?_⟩,
          fun keeps => comesBack_of_le finite zero whole (Nat.le_of_not_lt small) keeps.1⟩
        obtain rfl := Option.some.inj (same.symm.trans integer)
        omega

/-- A printed value with finite floats is read back with the same kinds of scalars exactly when
each of its floats keeps its kind. -/
theorem read?_print_sameKinds_iff {layout : Layout} {value : Value} (blank : layout.IsBlank)
    (finite : ∀ x ∈ value.floats, x.isFinite = true) (shallow : value.depth ≤ maxDepth) :
    (∃ other, read? (print layout value) = some other ∧ value.SameKinds other) ↔
      ∀ x ∈ value.floats, KeepsKind x := by
  have rereads : ∀ x ∈ value.floats, Rereads number? x := fun x held =>
    rereads_of_isFinite (finite x held)
  rw [read?, print, String.toList_ofList, readChars?_chars value blank rereads]
  calc (∃ other, reread? number? maxDepth value.tree = some other ∧ value.SameKinds other)
    _ ↔ ∃ other, reread? number? maxDepth value.tree = some other ∧
          other.tree.outline = value.tree.outline :=
        exists_congr fun other => and_congr_right fun _ => eq_comm
    _ ↔ ∀ x ∈ value.floats, ComesBack x (number? x) :=
        reread?_agrees_iff Tree.outline_isLevelwise value.ordered shallow
    _ ↔ ∀ x ∈ value.floats, KeepsKind x :=
        forall₂_congr fun x held => comesBack_iff_keepsKind (finite x held)

/-- A half, negative zero and `2 ^ 63`, which keep their kinds, next to an integer. -/
theorem read?_print_sameKinds_iff_kept :
    (∃ other, read? (print .compact (.array [.float ⟨0x3fe0000000000000⟩, .float (.zero true),
        .integer 3, .float ⟨0x43e0000000000000⟩])) = some other ∧
      (Value.array [.float ⟨0x3fe0000000000000⟩, .float (.zero true), .integer 3,
        .float ⟨0x43e0000000000000⟩]).SameKinds other) ↔
      ∀ x ∈ [⟨0x3fe0000000000000⟩, .zero true, ⟨0x43e0000000000000⟩], KeepsKind x :=
  read?_print_sameKinds_iff Layout.compact_isBlank (by decide +kernel) (by decide +kernel)

/-- The float one is printed like the integer one, and read back as it. -/
theorem read?_print_one :
    (∀ x ∈ (Value.float ⟨0x3ff0000000000000⟩).floats, x.isFinite = true) ∧
      (Value.float ⟨0x3ff0000000000000⟩).depth ≤ maxDepth ∧
      print .compact (.float ⟨0x3ff0000000000000⟩) = "1" ∧
      ¬ ∃ other, read? (print .compact (.float ⟨0x3ff0000000000000⟩)) = some other ∧
        (Value.float ⟨0x3ff0000000000000⟩).SameKinds other := by
  have read : read? (print .compact (.float ⟨0x3ff0000000000000⟩)) = some (.integer 1) := by
    decide +kernel
  refine ⟨by decide +kernel, by decide +kernel, by decide +kernel, ?_⟩
  rintro ⟨other, outcome, kinds⟩
  cases read.symm.trans outcome
  cases kinds

end PathEdit.Json
