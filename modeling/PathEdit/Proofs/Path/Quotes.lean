import Mathlib.Algebra.Group.Nat.Even
import PathEdit.Proofs.Path.Parsing

/-! Quotes in paths. Behind an even number of quotes a quote opens a name, behind an odd number it
closes one, and a name in quotes never touches another name. -/
namespace PathEdit.Grammar

variable {text last front word rest : List Char} {path : Path}

/-- What may stand in front of a name in quotes. -/
def Opens (front : List Char) : Prop := front = [] ∨ front.getLast? = some '.'

/-- What may stand behind a name in quotes. -/
def Closes (rest : List Char) : Prop :=
  rest = [] ∨ rest.head? = some '.' ∨ rest.head? = some '['

/-- The quotes of a text come in pairs, and open and close names by turns. -/
structure Paired (text : List Char) : Prop where
  even : Even (text.count '"')
  opens : ∀ {front rest}, text = front ++ '"' :: rest → Even (front.count '"') → Opens front
  closes : ∀ {front rest}, text = front ++ '"' :: rest → ¬ Even (front.count '"') → Closes rest

namespace Paired

theorem of_notMem (unquoted : '"' ∉ text) : Paired text where
  even := by simp [List.count_eq_zero.mpr unquoted]
  opens same := absurd (by simp [same]) unquoted
  closes same := absurd (by simp [same]) unquoted

theorem eq_of_quoted (unquoted : '"' ∉ word)
    (whole : '"' :: (word ++ ['"']) = front ++ '"' :: rest) :
    front = [] ∨ front = '"' :: word ∧ rest = [] := by
  cases front with
  | nil => exact .inl rfl
  | cons d front =>
    obtain ⟨rfl, same⟩ := List.cons.inj whole
    rcases List.append_eq_append_iff.mp same with ⟨mid, rfl, closing⟩ | ⟨mid, rfl, closing⟩
    · cases mid <;> simp_all
    · cases mid <;> simp_all

theorem quoted (name : Identifier isQuotable word) : Paired ('"' :: (word ++ ['"'])) := by
  have unquoted : '"' ∉ word := name.notMem_of_quotable rfl
  have one : ('"' :: word).count '"' = 1 := by simp [List.count_eq_zero.mpr unquoted]
  refine ⟨?_, fun same even => ?_, fun same odd => ?_⟩
  · exact ⟨1, by simp [List.count_eq_zero.mpr unquoted]⟩
  · rcases eq_of_quoted unquoted same with rfl | ⟨rfl, rfl⟩
    · exact .inl rfl
    · simp [one] at even
  · rcases eq_of_quoted unquoted same with rfl | ⟨rfl, rfl⟩
    · simp at odd
    · exact .inl rfl

theorem spells (spells : Spells text name) : Paired text := by
  cases spells with
  | plain word => exact .of_notMem (word.notMem_of_plain rfl)
  | quoted word => exact .quoted word

theorem point (paired : Paired text) : Paired ('.' :: text) where
  even := by simpa using paired.even
  opens {front rest} whole even := by
    cases front with
    | nil => simp at whole
    | cons d front =>
      obtain ⟨rfl, same⟩ := List.cons.inj whole
      rcases paired.opens same (by simpa using even) with rfl | point
      · exact .inr rfl
      · exact .inr (by simp [List.getLast?_cons, point])
  closes {front rest} whole odd := by
    cases front with
    | nil => simp at whole
    | cons d front =>
      obtain ⟨rfl, same⟩ := List.cons.inj whole
      exact paired.closes same (by simpa using odd)

theorem tail (tail : Tail last step) : Paired last := by
  cases tail with
  | name spells => exact (Paired.spells spells).point
  | @index inner _ inside =>
    refine .of_notMem fun present => ?_
    have inner : '"' ∈ inner := by simpa using present
    have digit := isDigit_of_mem_indexes (indexes_iff.mp inside).1 inner (by decide)
    exact absurd digit (by decide)

end Paired

theorem Tail.head? (tail : Tail last step) : last.head? = some '.' ∨ last.head? = some '[' := by
  cases tail with
  | name => exact .inl rfl
  | index => exact .inr rfl

/-- A step behind a path opens and closes its quotes where the path has closed its own. -/
theorem Paired.append (paired : Paired text) (behind : Paired last)
    (mark : last.head? = some '.' ∨ last.head? = some '[') : Paired (text ++ last) where
  even := by simpa using paired.even.add behind.even
  opens {front rest} whole even := by
    rcases List.append_eq_append_iff.mp whole with ⟨mid, rfl, rfl⟩ | ⟨mid, rfl, same⟩
    · have evenMid : Even (mid.count '"') := by
        simpa [Nat.even_add, paired.even] using even
      rcases behind.opens rfl evenMid with rfl | point
      · simp at mark
      · exact .inr (by simp [List.getLast?_append, point])
    · cases mid with
      | nil =>
        obtain rfl : '"' :: rest = last := same
        simp at mark
      | cons d mid =>
        obtain ⟨rfl, -⟩ := List.cons.inj same
        exact paired.opens rfl even
  closes {front rest} whole odd := by
    rcases List.append_eq_append_iff.mp whole with ⟨mid, rfl, rfl⟩ | ⟨mid, rfl, same⟩
    · exact behind.closes rfl (by simpa [Nat.even_add, paired.even] using odd)
    · cases mid with
      | nil =>
        obtain rfl : '"' :: rest = last := same
        simp at mark
      | cons d mid =>
        obtain ⟨rfl, rfl⟩ := List.cons.inj same
        rcases paired.closes rfl odd with rfl | marked
        · exact .inr (by simpa using mark)
        · exact .inr (by rcases marked with point | bracket <;> simp [*])

theorem Denotes.paired (denotes : Denotes text path) : Paired text := by
  induction denotes with
  | head head =>
    cases head with
    | name spells => exact .spells spells
    | tail tail => exact .tail tail
  | tail _ tail ih => exact ih.append (.tail tail) tail.head?

theorem closes_iff {rest : List Char} : Closes (c :: rest) ↔ c = '.' ∨ c = '[' := by
  simp [Closes]

/-- A name in quotes stands between two joints of the path. -/
theorem Denotes.opens_closes (denotes : Denotes (front ++ '"' :: (word ++ '"' :: rest)) path)
    (name : Identifier isQuotable word) : Opens front ∧ Closes rest := by
  have unquoted : '"' ∉ word := name.notMem_of_quotable rfl
  have even : Even (front.count '"') := by
    by_contra odd
    have closes := denotes.paired.closes rfl odd
    cases name with
    | intro first =>
      rcases closes_iff.mp closes with rfl | rfl <;> exact absurd first (by decide)
  refine ⟨denotes.paired.opens rfl even, ?_⟩
  have whole : front ++ '"' :: (word ++ '"' :: rest) = (front ++ '"' :: word) ++ '"' :: rest := by
    simp
  refine denotes.paired.closes whole ?_
  simpa [List.count_eq_zero.mpr unquoted, Nat.even_add_one] using even

theorem Spells.ne_nil (spells : Spells text name) : text ≠ [] := by
  intro equal
  subst equal
  exact nil_notMem_names ⟨name, spells⟩

theorem Spells.not_opens (spells : Spells text name) : ¬ Opens (front ++ text) := by
  intro opens
  rcases opens with empty | point
  · exact spells.ne_nil (List.append_eq_nil_iff.mp empty).2
  · rw [List.getLast?_append_of_ne_nil _ spells.ne_nil] at point
    exact getLast?_of_names ⟨name, spells⟩ point

theorem Spells.not_closes (spells : Spells text name) : ¬ Closes (text ++ rest) := by
  intro closes
  cases spells with
  | quoted => simp [Closes] at closes
  | plain word =>
    obtain ⟨first, -⟩ := word
    rcases closes_iff.mp closes with rfl | rfl <;> exact absurd first (by decide)

/-- Two names, one of them in quotes, never stand side by side in a path. -/
theorem not_denotes_of_adjacent (first : Spells x m) (second : Spells y n)
    (quoted : '"' ∈ x ∨ '"' ∈ y) : ¬ Denotes (front ++ (x ++ (y ++ rest))) path := by
  intro denotes
  rcases quoted with present | present
  · cases first with
    | plain word => exact word.notMem_of_plain rfl present
    | @quoted legal word =>
      have whole : Denotes (front ++ '"' :: (legal ++ '"' :: (y ++ rest))) path := by
        simpa using denotes
      exact second.not_closes (whole.opens_closes word).2
  · cases second with
    | plain word => exact word.notMem_of_plain rfl present
    | @quoted legal word =>
      have whole : Denotes ((front ++ x) ++ '"' :: (legal ++ '"' :: rest)) path := by
        simpa using denotes
      exact first.not_opens (whole.opens_closes word).1

/-- The standard syntax reads exactly the expressions of the grammar, as the steps that the grammar
gives them, and answers every other one with itself; names in quotes next to names are others. -/
theorem standard_parse_exact :
    (∀ expression path, PathSyntax.standard.parse expression = .ok path ↔
      Denotes expression.toList path) ∧
    (∀ expression e, PathSyntax.standard.parse expression = .error e ↔
      e = .invalidPath expression ∧ ∀ path, ¬ Denotes expression.toList path) ∧
    ∀ front x y rest m n, Spells x m → Spells y n → '"' ∈ x ∨ '"' ∈ y →
      PathSyntax.standard.parse (String.ofList (front ++ (x ++ (y ++ rest)))) =
        .error (.invalidPath (String.ofList (front ++ (x ++ (y ++ rest))))) := by
  refine ⟨fun _ _ => parse_eq_ok_iff, fun _ _ => parse_eq_error_iff, ?_⟩
  intro front x y rest m n first second quoted
  refine parse_eq_error_iff.mpr ⟨rfl, fun path => ?_⟩
  rw [String.toList_ofList]
  exact not_denotes_of_adjacent first second quoted

theorem standard_parse_exact_quoted :
    PathSyntax.standard.parse "a[07].\"b.c\"" = .ok [.key "a", .position 7, .key "b.c"] ∧
      PathSyntax.standard.parse "a\"b\"" = .error (.invalidPath "a\"b\"") := by
  have first : Spells ['a'] "a" := .plain (by decide)
  have index : Indexes ['0', '7'] (.position 7) :=
    .position (List.cons_ne_nil _ _) (List.all_eq_true.mp rfl) (by decide)
  have last : Spells "\"b.c\"".toList "b.c" := @Spells.quoted "b.c".toList (by decide)
  refine ⟨(standard_parse_exact.1 _ _).mpr ?_, ?_⟩
  · exact .tail (.tail (.head (.name first)) (.index index)) (.name last)
  · exact standard_parse_exact.2.2 [] ['a'] "\"b\"".toList [] "a" "b" first
      (@Spells.quoted ['b'] (by decide)) (.inr (by decide))

end PathEdit.Grammar
