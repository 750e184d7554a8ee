import PathEdit.Binary64.Style
import PathEdit.Json.Number

/-! Texts of numbers: sign, digits and fraction are read back as they were written, and nothing
behind them is. -/
namespace PathEdit.Json.Numeral

/-- Digits that may stand in front of a point: without zeros that could be left out. -/
inductive Whole : List Char → Prop
  | zero : Whole ['0']
  | positive (first : c.isDigit = true) (nonzero : c ≠ '0') (rest : ∀ d ∈ ds, d.isDigit = true) :
      Whole (c :: ds)

/-- Whether a number ends in front of a text. -/
def stops (rest : List Char) : Bool :=
  rest.head?.all fun c => !c.isDigit && c != '.' && c != 'e' && c != 'E'

variable {ds fs rest : List Char}

theorem head?_of_stops (stopped : stops rest = true) : rest.head?.any Char.isDigit = false := by
  cases rest with
  | nil => rfl
  | cons c rest =>
    simp only [stops, List.head?_cons, Option.all_some, Bool.and_eq_true] at stopped
    simpa using stopped.1.1.1

theorem digits_append (nonempty : ds ≠ []) (each : ∀ d ∈ ds, d.isDigit = true)
    (ended : rest.head?.any Char.isDigit = false) : digits (ds ++ rest) = some (ds, rest) := by
  have none : rest.takeWhile Char.isDigit = [] ∧ rest.dropWhile Char.isDigit = rest := by
    cases rest with
    | nil => exact ⟨rfl, rfl⟩
    | cons c rest =>
      have other : c.isDigit = false := by simpa using ended
      simp [other]
  rw [digits, List.takeWhile_append_of_pos each, List.dropWhile_append_of_pos each, none.1, none.2,
    List.append_nil]
  cases ds with
  | nil => exact absurd rfl nonempty
  | cons => rfl

theorem Whole.digits (whole : Whole ds) : ∀ d ∈ ds, d.isDigit = true := by
  cases whole with
  | zero => simp
  | positive first nonzero rest => exact List.forall_mem_cons.mpr ⟨first, rest⟩

theorem Whole.ne_nil (whole : Whole ds) : ds ≠ [] := by
  cases whole <;> simp

theorem wholeDigits_append (whole : Whole ds) (ended : rest.head?.any Char.isDigit = false) :
    wholeDigits (ds ++ rest) = some (ds, rest) := by
  cases whole with
  | zero => simp [wholeDigits, ended]
  | @positive c ds first nonzero each =>
    have other : wholeDigits (c :: (ds ++ rest)) = Numeral.digits (c :: (ds ++ rest)) := by
      unfold wholeDigits
      split
      · rename_i same
        exact absurd (List.cons.inj same).1 nonzero
      · rfl
    rw [List.cons_append, other]
    exact digits_append (List.cons_ne_nil c ds) (List.forall_mem_cons.mpr ⟨first, each⟩) ended

theorem exponentDigits_of_stops (stopped : stops rest = true) :
    exponentDigits rest = some ((false, []), rest) := by
  cases rest with
  | nil => rfl
  | cons c rest =>
    simp only [stops, List.head?_cons, Option.all_some, Bool.and_eq_true, bne_iff_ne] at stopped
    unfold exponentDigits
    split
    · rename_i same
      exact absurd (List.cons.inj same).1 stopped.1.2
    · rename_i same
      exact absurd (List.cons.inj same).1 stopped.2
    · rfl

theorem fractionDigits_of_stops (stopped : stops rest = true) :
    fractionDigits rest = some ([], rest) := by
  cases rest with
  | nil => rfl
  | cons c rest =>
    simp only [stops, List.head?_cons, Option.all_some, Bool.and_eq_true, bne_iff_ne] at stopped
    unfold fractionDigits
    split
    · rename_i same
      exact absurd (List.cons.inj same).1 stopped.1.1.2
    · rfl

/-- The parts of a number without an exponent. -/
theorem read_parts (negative : Bool) {text behind : List Char}
    (unsigned : text.head? ≠ some '-') (whole : wholeDigits text = some (ds, behind))
    (fraction : fractionDigits behind = some (fs, rest)) (stopped : stops rest = true) :
    read (Binary64.Style.withSign negative text) =
      some (⟨negative, ds, fs, false, [], fs.isEmpty⟩, rest) := by
  have exponent := exponentDigits_of_stops stopped
  cases negative with
  | true => simp [Binary64.Style.withSign, read, whole, fraction, exponent]
  | false =>
    have other : ∀ rest, text = '-' :: rest → False := by
      rintro rest rfl
      exact unsigned rfl
    simp [Binary64.Style.withSign, read, whole, fraction, exponent]

theorem Whole.unsigned (whole : Whole ds) (rest : List Char) :
    (ds ++ rest).head? ≠ some '-' := by
  cases whole with
  | zero => simp
  | positive first nonzero each =>
    rw [List.cons_append, List.head?_cons]
    intro same
    rw [Option.some.inj same] at first
    cases first

/-- The text of a number without a fraction. -/
theorem read_whole (negative : Bool) (whole : Whole ds) (stopped : stops rest = true) :
    read (Binary64.Style.withSign negative (ds ++ rest)) =
      some (⟨negative, ds, [], false, [], true⟩, rest) :=
  read_parts negative (whole.unsigned rest) (wholeDigits_append whole (head?_of_stops stopped))
    (fractionDigits_of_stops stopped) stopped

/-- The text of a number with a fraction. -/
theorem read_fraction (negative : Bool) (whole : Whole ds) (nonempty : fs ≠ [])
    (each : ∀ d ∈ fs, d.isDigit = true) (stopped : stops rest = true) :
    read (Binary64.Style.withSign negative (ds ++ '.' :: (fs ++ rest))) =
      some (⟨negative, ds, fs, false, [], false⟩, rest) := by
  have fraction : fractionDigits ('.' :: (fs ++ rest)) = some (fs, rest) :=
    digits_append nonempty each (head?_of_stops stopped)
  have parts := read_parts negative (whole.unsigned _) (wholeDigits_append whole rfl) fraction
    stopped
  rwa [List.isEmpty_eq_false_iff.mpr nonempty] at parts

theorem isDigit_of_mem_toDigits (n : Nat) : ∀ d ∈ Nat.toDigits 10 n, d.isDigit = true :=
  fun _ present => Nat.isDigit_of_mem_toDigits (by decide) (by decide) present

/-- The digits of a positive number begin with another one than zero. -/
theorem exists_toDigits {n : Nat} (positive : 0 < n) :
    ∃ c ds, Nat.toDigits 10 n = c :: ds ∧ c ≠ '0' := by
  induction n using Nat.strongRecOn with
  | ind n ih =>
    by_cases single : n < 10
    · refine ⟨_, _, Nat.toDigits_of_lt_base single, ?_⟩
      simpa using Nat.ne_of_gt positive
    · obtain ⟨c, ds, front, nonzero⟩ := ih (n / 10) (by omega) (by omega)
      refine ⟨c, ds ++ [Nat.digitChar (n % 10)], ?_, nonzero⟩
      rw [Nat.toDigits_of_base_le (by decide) (by omega), front, List.cons_append]

theorem whole_toDigits (n : Nat) : Whole (Nat.toDigits 10 n) := by
  by_cases zero : n = 0
  · subst zero
    exact .zero
  · obtain ⟨c, ds, same, nonzero⟩ := exists_toDigits (Nat.pos_of_ne_zero zero)
    have each := isDigit_of_mem_toDigits n
    rw [same] at each ⊢
    obtain ⟨first, rest⟩ := List.forall_mem_cons.mp each
    exact .positive first nonzero rest

end PathEdit.Json.Numeral
