import PathEdit.Json.Printer
import PathEdit.Json.Reader

/-! Strings between quotes: every character is read back from its text. -/
namespace PathEdit.Json

theorem hexDigits_four {n : Nat} (small : n < 0x100) :
    hexDigits 4 n = ['0', '0', Nat.digitChar (n / 16), Nat.digitChar (n % 16)] := by
  by_cases single : n < 16
  · have quotient : n / 16 = 0 := by omega
    have rest : n % 16 = n := by omega
    rw [hexDigits, Nat.toDigits_of_lt_base single, quotient, rest]
    rfl
  · have quotient : n / 16 < 16 := by omega
    rw [hexDigits, Nat.toDigits_of_base_le (by decide) (by omega),
      Nat.toDigits_of_lt_base quotient]
    rfl

namespace Reader

theorem hexValue?_digitChar : ∀ n < 16, hexValue? (Nat.digitChar n) = some n := by decide

theorem hexUnit_hexDigits {n : Nat} (small : n < 0x100) (rest : List Char) :
    hexUnit (hexDigits 4 n ++ rest) = some (n, rest) := by
  have high := hexValue?_digitChar (n / 16) (by omega)
  have low := hexValue?_digitChar (n % 16) (by omega)
  have unit : n / 16 * 16 + n % 16 = n := by omega
  have zero : hexValue? '0' = some 0 := rfl
  simp [hexDigits_four small, hexUnit, high, low, zero, unit]

/-- Control characters have numbers that one escape holds. -/
theorem unicodeEscape_control {c : Char} (control : isControl c = true) (rest : List Char) :
    unicodeEscape (hexDigits 4 c.toNat ++ rest) = some (c, rest) := by
  have small : c.toNat < 0xa0 := by
    simp only [isControl, Bool.or_eq_true, Bool.and_eq_true, decide_eq_true_eq] at control
    omega
  have notLow : ¬ (0xdc00 ≤ c.toNat ∧ c.toNat ≤ 0xdfff) := by omega
  have notHigh : ¬ (0xd800 ≤ c.toNat ∧ c.toNat ≤ 0xdbff) := by omega
  simp [unicodeEscape, hexUnit_hexDigits (show c.toNat < 0x100 by omega), notLow, notHigh]

/-- A character that stands for itself. -/
theorem stringChars_plain {c : Char} (quote : c ≠ '"') (solidus : c ≠ '\\')
    (visible : isControl c = false) (fuel : Nat) (text : List Char) :
    stringChars (fuel + 1) (c :: text) =
      (stringChars fuel text).map fun (cs, rest) => (c :: cs, rest) := by
  have large : ¬ c.toNat < 0x20 := by
    simp only [isControl, Bool.or_eq_false_iff, decide_eq_false_iff_not] at visible
    exact visible.1
  rw [stringChars, if_neg quote, if_neg solidus, if_neg large]
  cases stringChars fuel text <;> rfl

/-- A character behind a reverse solidus. -/
theorem stringChars_escaped {c : Char} {text rest : List Char} (fuel : Nat)
    (escaped : escape text = some (c, rest)) :
    stringChars (fuel + 1) ('\\' :: text) =
      (stringChars fuel rest).map fun (cs, rest) => (c :: cs, rest) := by
  rw [stringChars, if_neg (by decide), if_pos rfl, escaped]
  cases outcome : stringChars fuel rest <;> simp [outcome]

/-- One character of a string. -/
theorem stringChars_escape (fuel : Nat) (c : Char) (text : List Char) :
    stringChars (fuel + 1) (Json.escape c ++ text) =
      (stringChars fuel text).map fun (cs, rest) => (c :: cs, rest) := by
  unfold Json.escape
  split
  · exact stringChars_escaped fuel rfl
  · exact stringChars_escaped fuel rfl
  · exact stringChars_escaped fuel rfl
  · exact stringChars_escaped fuel rfl
  · exact stringChars_escaped fuel rfl
  · rename_i quote solidus _ _ _
    split
    · rename_i control
      exact stringChars_escaped fuel (unicodeEscape_control control text)
    · rename_i visible
      exact stringChars_plain quote solidus (Bool.eq_false_iff.mpr visible) fuel text

theorem stringChars_quote {cs : List Char} {fuel : Nat} (enough : cs.length < fuel)
    (rest : List Char) :
    stringChars fuel (cs.flatMap Json.escape ++ '"' :: rest) = some (cs, rest) := by
  induction cs generalizing fuel with
  | nil =>
    obtain ⟨fuel, rfl⟩ := Nat.exists_eq_succ_of_ne_zero (Nat.ne_of_gt enough)
    rfl
  | cons c cs ih =>
    obtain ⟨fuel, rfl⟩ := Nat.exists_eq_succ_of_ne_zero (Nat.ne_zero_of_lt enough)
    rw [List.flatMap_cons, List.append_assoc, stringChars_escape,
      ih (Nat.lt_of_succ_lt_succ enough)]
    rfl

theorem length_le_flatMap_escape (cs : List Char) : cs.length ≤ (cs.flatMap Json.escape).length := by
  induction cs with
  | nil => exact Nat.le_refl 0
  | cons c cs ih =>
    have positive : 0 < (Json.escape c).length := by
      unfold Json.escape
      split
      case h_6 => split <;> simp
      all_goals simp
    rw [List.flatMap_cons, List.length_append, List.length_cons]
    omega

/-- Behind its opening quote a string is read to its closing one. -/
theorem string_quote (s : String) (rest : List Char) :
    string (s.toList.flatMap Json.escape ++ '"' :: rest) = some (s, rest) := by
  have enough : s.toList.length < (s.toList.flatMap Json.escape ++ '"' :: rest).length := by
    have bound := length_le_flatMap_escape s.toList
    rw [List.length_append, List.length_cons]
    omega
  rw [string, stringChars_quote enough]
  simp

end Reader
end PathEdit.Json
