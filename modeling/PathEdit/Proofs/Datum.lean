import PathEdit.Datum
import PathEdit.Proofs.Binary64.Exact
import PathEdit.Proofs.Value.Finite

/-! The two ways from plain data into values meet (`Datum.coerce_toRecord`). They part at numbers
only: a large integer without sign is still an integer of the document on one way, and a float on
the other, and a float that is no number stays on one way and becomes a null on the other. -/
namespace PathEdit

namespace Json.Number

theorem ofInt?_toInt (n : Int64) : ofInt? n.toInt = some (ofInt64 n) := by
  have low := n.minValue_le_toInt
  have high := n.toInt_le
  rw [ofInt?, if_pos ⟨low, by simpa using high⟩, Int64.ofInt_toInt]

theorem ofInt?_short (n : UInt32) : ofInt? n.toNat = some (ofInt64 (.ofNat n.toNat)) := by
  have small := n.toNat_lt
  have same : (Int64.ofNat n.toNat).toInt = n.toNat := Int64.toInt_ofNat_of_lt (by omega)
  rw [← same, ofInt?_toInt]

/-- An integer without sign becomes the value of its number, whether or not it fits with sign. -/
theorem value_ofInt?_toNat (n : UInt64) : (ofInt? n.toNat).map value = some (.ofNat n.toNat) := by
  have small := n.toNat_lt
  have least : Int64.minValue.toInt = -2 ^ 63 := rfl
  have most : Int64.maxValue.toInt = 2 ^ 63 - 1 := rfl
  by_cases short : n.toNat < Nat.pow 2 63
  · have fits : Int64.minValue.toInt ≤ n.toNat ∧ (n.toNat : Int) ≤ Int64.maxValue.toInt := by
      rw [Nat.pow_eq] at short
      omega
    rw [ofInt?, if_pos fits, Option.map_some, value_ofInt64, Value.ofNat, if_pos short]
    rfl
  · have beyond : ¬ (Int64.minValue.toInt ≤ n.toNat ∧ (n.toNat : Int) ≤ Int64.maxValue.toInt) := by
      rw [Nat.pow_eq] at short
      omega
    have natural : (0 : Int) ≤ n.toNat ∧ (n.toNat : Int).toNat < UInt64.size :=
      ⟨Int.natCast_nonneg _, small⟩
    rw [ofInt?, if_neg beyond, if_pos natural, Option.map_some, Int.toNat_natCast,
      UInt64.ofNat_toNat, value_natural]

end Json.Number

/-- The value of an integer of 64 bits is kept, as the double nearest to it is finite. -/
theorem Value.finite_ofNat (n : UInt64) : (Value.ofNat n.toNat).finite = .ofNat n.toNat := by
  have small : n.toNat ≤ Binary64.largestNat := n.toNat_lt.le.trans (by decide +kernel)
  have finite : (Binary64.ofNat n.toNat).isFinite = true :=
    Binary64.isFinite_ofRatio false one_pos (by rw [Nat.cast_one, div_one]; exact_mod_cast small)
  rw [Value.ofNat]
  split
  · rfl
  · rw [finite_float, if_pos finite]

namespace Datum

mutual

/-- The document of the record has the value of the datum, but for floats that are no numbers. -/
theorem value?_toRecord : (datum : Datum) → datum.toRecord.value? = some datum.toValue.finite
  | boolean _ | text _ | absent => rfl
  | signed n => by
    rw [toRecord, Record.value?, Record.node?, Json.Number.ofInt?_toInt]
    exact congrArg some (Json.Number.value_ofInt64 n)
  | short n => by
    rw [toRecord, Record.value?, Record.node?, Json.Number.ofInt?_short]
    exact congrArg some (Json.Number.value_ofInt64 _)
  | unsigned n => by
    rw [toRecord, toValue, Value.finite_ofNat, ← Json.Number.value_ofInt?_toNat, Record.value?,
      Record.node?, Option.map_map]
    rfl
  | single x => congrArg some (Json.Node.value_ofFloat x.widen)
  | double x => congrArg some (Json.Node.value_ofFloat x)
  | present content => value?_toRecord content
  | list items => by
    obtain ⟨nodes, made, same⟩ := Option.map_eq_some_iff.mp (values_toRecords items)
    rw [toRecord, toValue, Record.value?, Record.node?, made, Value.finite_array, ← same]
    rfl
  | mapping entries => by
    obtain ⟨nodes, made, same⟩ := Option.map_eq_some_iff.mp (entryValues_toMapping entries)
    rw [toRecord, toValue, Record.value?, Record.node?, made, Value.finite_object,
      Fields.map_ofList, ← same]
    rfl

theorem values_toRecords : (items : List Datum) →
    (Record.nodes? (toRecords items)).map Json.Node.values = some ((toValues items).map .finite)
  | [] => rfl
  | item :: rest => by
    obtain ⟨node, made, same⟩ := Option.map_eq_some_iff.mp (value?_toRecord item)
    obtain ⟨nodes, made', same'⟩ := Option.map_eq_some_iff.mp (values_toRecords rest)
    rw [toRecords, toValues, Record.nodes?, made, made', List.map_cons, ← same, ← same']
    rfl

theorem entryValues_toMapping : (entries : List (String × Datum)) →
    (Record.entryNodes? (toMapping entries)).map Json.Node.entryValues =
      some ((toEntries entries).map fun entry => (entry.1, entry.2.finite))
  | [] => rfl
  | (name, item) :: rest => by
    obtain ⟨node, made, same⟩ := Option.map_eq_some_iff.mp (value?_toRecord item)
    obtain ⟨nodes, made', same'⟩ := Option.map_eq_some_iff.mp (entryValues_toMapping rest)
    rw [toMapping, toEntries, Record.entryNodes?, made, made', List.map_cons, ← same, ← same']
    rfl

end

theorem coerce_eq_finite (datum : Datum) : datum.toRecord.coerce = .ok datum.toValue.finite := by
  rw [Record.coerce, value?_toRecord]

theorem coerce_single (x : Binary32) :
    (single x).toRecord.coerce = .ok (if x.isFinite = true then .float x.widen else .null) := by
  rw [coerce_eq_finite, toValue, Value.finite_float, Binary32.isFinite_widen]

/-- A datum becomes a value through its record, namely its own value with nulls for the floats that
are no numbers; the document of its own value comes back as the same. So the two ways have the same
integers and the same finite floats in the same places. An integer without sign is the same number
on both, the nearest float if it does not fit with sign, and a single is a double of its value. -/
theorem coerce_toRecord (datum : Datum) : ∃ value,
    datum.toRecord.coerce = .ok value ∧
    value = datum.toValue.finite ∧
    datum.toValue.node.value = value ∧
    (∀ path n, value.follow? path = some (.integer n) ↔
      datum.toValue.follow? path = some (.integer n)) ∧
    (∀ path x, value.follow? path = some (.float x) ↔
      x.isFinite = true ∧ datum.toValue.follow? path = some (.float x)) ∧
    (∀ n : UInt64, (unsigned n).toRecord.coerce = .ok (unsigned n).toValue ∧
      (unsigned n).toValue =
        if n.toNat < 2 ^ 63 then .integer (.ofNat n.toNat) else .float (.ofNat n.toNat)) ∧
    ∀ x : Binary32, if x.isFinite = true
      then (single x).toRecord.coerce = .ok (.float x.widen) ∧
        x.widen.isNegative = x.isNegative ∧ x.widen.abs = x.abs
      else (single x).toRecord.coerce = .ok .null := by
  refine ⟨_, datum.coerce_eq_finite, rfl, Value.value_node _, fun path n => ?_, fun path x => ?_,
    fun n => ⟨?_, rfl⟩, fun x => ?_⟩
  · simp only [Value.follow?_finite, Option.map_eq_some_iff, Value.finite_eq_integer_iff,
      exists_eq_right]
  · simp only [Value.follow?_finite, Option.map_eq_some_iff, Value.finite_eq_float_iff,
      and_left_comm, exists_and_left, exists_eq_right]
  · rw [coerce_eq_finite, toValue, Value.finite_ofNat]
  · rw [coerce_single]
    split
    · rename_i finite
      obtain ⟨-, sign, exact⟩ := Binary32.widen_exact finite
      exact ⟨rfl, sign, exact⟩
    · rfl

example : (list [unsigned 18446744073709551615, present (single ⟨0x7f800000⟩),
    mapping [("a", signed (-1)), ("a", double ⟨0x3ff8000000000000⟩)]]).toRecord.value? =
      some (.array [.float ⟨0x43f0000000000000⟩, .null,
        .object (.ofList [("a", .float ⟨0x3ff8000000000000⟩)])]) := by decide +kernel

end Datum
end PathEdit
