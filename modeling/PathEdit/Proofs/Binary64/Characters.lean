import PathEdit.Json.Printer

/-! The characters of numbers: in every style, digits, signs, points and the mark of an exponent. -/
namespace PathEdit.Binary64

/-- Whether a character may stand in the text of a number. -/
def isNumeric (c : Char) : Bool := c.isDigit || c == '-' || c == '.' || c == 'e'

namespace Style

variable {digits : List Char}

theorem numeric_toDigits (n : Nat) : ∀ c ∈ Nat.toDigits 10 n, isNumeric c = true := by
  intro c present
  simp [isNumeric, Nat.isDigit_of_mem_toDigits (by decide) (by decide) present]

theorem numeric_replicate (n : Nat) : ∀ c ∈ List.replicate n '0', isNumeric c = true := by
  intro c present
  rw [List.eq_of_mem_replicate present]
  rfl

theorem numeric_withSign (negative : Bool) (numeric : ∀ c ∈ digits, isNumeric c = true) :
    ∀ c ∈ withSign negative digits, isNumeric c = true := by
  cases negative with
  | true => exact List.forall_mem_cons.mpr ⟨rfl, numeric⟩
  | false => exact numeric

theorem numeric_positionalChars (style : Style) (numeric : ∀ c ∈ digits, isNumeric c = true)
    (power : Int) : ∀ c ∈ style.positionalChars digits power, isNumeric c = true := by
  rw [positionalChars]
  split
  · have whole := List.forall_mem_append.mpr ⟨numeric, numeric_replicate power.toNat⟩
    refine List.forall_mem_append.mpr ⟨whole, ?_⟩
    split <;> exact List.all_eq_true.mp rfl
  · split
    · refine List.forall_mem_append.mpr ⟨fun c present => ?_, ?_⟩
      · exact numeric c (List.mem_of_mem_take present)
      · refine List.forall_mem_cons.mpr ⟨rfl, fun c present => ?_⟩
        exact numeric c (List.mem_of_mem_drop present)
    · refine List.forall_mem_cons.mpr ⟨rfl, List.forall_mem_cons.mpr ⟨rfl, ?_⟩⟩
      exact List.forall_mem_append.mpr ⟨numeric_replicate _, numeric⟩

theorem numeric_scientificChars (numeric : ∀ c ∈ digits, isNumeric c = true) (exponent : Int) :
    ∀ c ∈ scientificChars digits exponent, isNumeric c = true := by
  have rest : ∀ c ∈ digits.drop 1, isNumeric c = true := fun c present =>
    numeric c (List.mem_of_mem_drop present)
  have magnitude := numeric_toDigits exponent.natAbs
  rw [scientificChars]
  refine List.forall_mem_append.mpr ⟨List.forall_mem_append.mpr ⟨?_, ?_⟩, ?_⟩
  · exact fun c present => numeric c (List.mem_of_mem_take present)
  · split
    · nofun
    · exact List.forall_mem_cons.mpr ⟨rfl, rest⟩
  · refine List.forall_mem_cons.mpr ⟨rfl, ?_⟩
    split
    · exact List.forall_mem_cons.mpr ⟨rfl, magnitude⟩
    · exact magnitude

theorem numeric_decimalChars (style : Style) (decimal : Decimal) :
    ∀ c ∈ style.decimalChars decimal, isNumeric c = true := by
  have digits := numeric_toDigits decimal.digits
  rw [decimalChars]
  split
  · exact numeric_positionalChars style digits _
  · exact numeric_scientificChars digits _

/-- The text of a double is numeric throughout. -/
theorem numeric_chars (style : Style) (x : Binary64) :
    ∀ c ∈ style.chars x, isNumeric c = true :=
  numeric_withSign _ (numeric_decimalChars style _)

theorem withSign_ne_nil (negative : Bool) (some : digits ≠ []) : withSign negative digits ≠ [] := by
  cases negative with
  | true => exact List.cons_ne_nil _ _
  | false => exact some

theorem decimalChars_ne_nil (style : Style) (decimal : Decimal) :
    style.decimalChars decimal ≠ [] := by
  have digits : Nat.toDigits 10 decimal.digits ≠ [] :=
    List.ne_nil_of_length_pos Nat.length_toDigits_pos
  rw [decimalChars]
  split
  · rw [positionalChars]
    split
    · simp [digits]
    · split <;> simp
  · simp [scientificChars]

theorem chars_ne_nil (style : Style) (x : Binary64) : style.chars x ≠ [] :=
  withSign_ne_nil _ (decimalChars_ne_nil style _)

end Style
end PathEdit.Binary64

namespace PathEdit.Json

theorem numeric_intChars (n : Int) : ∀ c ∈ intChars n, Binary64.isNumeric c = true := by
  have digits := Binary64.Style.numeric_toDigits n.natAbs
  rw [intChars]
  split
  · exact List.forall_mem_cons.mpr ⟨rfl, digits⟩
  · exact digits

theorem intChars_ne_nil (n : Int) : intChars n ≠ [] := by
  rw [intChars]
  split
  · exact List.cons_ne_nil _ _
  · exact List.ne_nil_of_length_pos Nat.length_toDigits_pos

end PathEdit.Json
