import PathEdit.Proofs.Regex.Reader.Names

/-! What an expression that was read consists of, token by token. -/
namespace PathEdit.Regex.Reader

variable {b c : Alternatives} {text rest left : List Char} {flags : Flags}

/-- What a text is read as, with enough fuel. -/
def Parses (b : Alternatives) (text : List Char) (c : Alternatives) (rest : List Char) : Prop :=
  ∃ fuel, alternatives fuel b text = some (c, rest)

/-- Characters that do not begin a blank or a comment. -/
def marks : List Char := ['^', '$', '(', ')', '|', '[', ']', '\\', '?', '*', '+', '0', '-', '9']

theorem skip_mark {c : Char} (mark : c ∈ marks) (text : List Char) :
    flags.skip (c :: text) = c :: text := by
  have blank : marks.all (fun c => c != '#' && !Unicode.isWhiteSpace c) = true := by decide +kernel
  obtain ⟨sharp, space⟩ : c ≠ '#' ∧ Unicode.isWhiteSpace c = false := by
    simpa using List.all_eq_true.mp blank c mark
  simp [Flags.skip, Flags.dropBlanks, sharp, space]

/-- A set that ignoring case does not change. -/
def Caseless (set : CharSet) : Prop :=
  CharSet.anyCase set = set ∧ CharSet.union set (.inter set (.range 0 0x7f)) = set

theorem fold_caseless (set : CharSet) (caseless : Caseless set) : flags.fold set = set := by
  obtain ⟨same, ascii⟩ := caseless
  unfold Flags.fold
  rw [same, ascii]
  split
  · rfl
  · split <;> rfl

/-- What is folded lies in a span, and is folded to the target of the span or beyond it. -/
theorem exists_folding {pair : Nat × Nat} (member : pair ∈ Unicode.foldedPairs) :
    ∃ folding ∈ Unicode.foldings, folding.span.first ≤ pair.1 ∧
      (folding.span.step = 1 → pair.1 ≤ folding.span.last) ∧ folding.target ≤ pair.2 := by
  obtain ⟨folding, held, member⟩ := List.mem_flatMap.mp member
  obtain ⟨⟨first, last⟩, bound, member⟩ := List.mem_flatMap.mp member
  obtain ⟨code, within, rfl⟩ := List.mem_map.mp member
  obtain ⟨above, below⟩ := List.mem_range'_1.mp within
  refine ⟨folding, held, ?_, fun single => ?_, Nat.le_add_right _ _⟩
  · rw [Unicode.Span.bounds] at bound
    split at bound
    · obtain ⟨rfl, rfl⟩ := Prod.mk.inj (List.mem_singleton.mp bound)
      exact above
    · obtain ⟨i, -, same⟩ := List.mem_map.mp bound
      obtain ⟨rfl, -⟩ := Prod.mk.inj same
      exact Nat.le_trans (Nat.le_add_right _ _) above
  · rw [Unicode.Span.bounds, if_pos single] at bound
    obtain ⟨rfl, rfl⟩ := Prod.mk.inj (List.mem_singleton.mp bound)
    dsimp only
    omega

/-- Of the ASCII characters only letters are folded, and none but letters are what is folded to. -/
theorem letters_of_folded {pair : Nat × Nat} (member : pair ∈ Unicode.foldedPairs) :
    64 < pair.1 ∧ (pair.1 < 91 ∨ 96 < pair.1) ∧ 96 < pair.2 := by
  have spans : Unicode.foldings.all (fun folding => 64 < folding.span.first && 96 < folding.target &&
      (folding.span.step == 1 && folding.span.last < 91 || 96 < folding.span.first)) = true := by
    decide +kernel
  obtain ⟨folding, held, above, below, target⟩ := exists_folding member
  have span := List.all_eq_true.mp spans folding held
  simp only [Bool.and_eq_true, Bool.or_eq_true, decide_eq_true_eq, beq_iff_eq] at span
  omega

theorem filterMap_folded {f : Nat × Nat → Option α}
    (still : ∀ pair : Nat × Nat, 64 < pair.1 ∧ (pair.1 < 91 ∨ 96 < pair.1) ∧ 96 < pair.2 →
      f pair = none) : Unicode.foldedPairs.filterMap f = [] :=
  List.filterMap_eq_nil_iff.mpr fun pair member => still pair (letters_of_folded member)

/-- Case makes no difference to characters before and between the capital and the small letters. -/
theorem anyCase_range {first last : Nat} (outside : last ≤ 64 ∨ 90 < first ∧ last ≤ 96) :
    CharSet.anyCase (.range first last) = .range first last := by
  have untouched {code : Nat} (letter : 64 < code ∧ (code < 91 ∨ 96 < code)) :
      (CharSet.range first last).holds code = false := by
    simp only [CharSet.holds, CharSet.range, CodeRange.holds]
    simp
    omega
  simp only [CharSet.anyCase]
  rw [filterMap_folded, filterMap_folded]
  · rfl
  · exact fun _ _ => rfl
  · rintro pair ⟨above, letter, beyond⟩
    have target := untouched ⟨Nat.lt_trans (by decide) beyond, .inr beyond⟩
    simp [untouched ⟨above, letter⟩, target]

theorem caseless_mark : ∀ c ∈ ['.', '[', ']', '*'], Caseless (.single c) := by
  intro c mark
  simp only [List.mem_cons, List.not_mem_nil, or_false] at mark
  rcases mark with rfl | rfl | rfl | rfl <;> exact ⟨anyCase_range (by decide), by decide⟩

theorem caseless_digits : Caseless (.range 48 57) := ⟨anyCase_range (by decide), by decide⟩

namespace Parses

theorem act {ch : Char} {token : Token} (parses : Parses b (ch :: text) c rest) (mark : ch ∈ marks)
    (goes : ch ≠ ')') (read : Reader.token b.flags ch text = some (token, left)) :
    ∃ fuel, Reader.act (alternatives fuel) b token left = some (c, rest) := by
  obtain ⟨fuel, parses⟩ := parses
  cases fuel with
  | zero => cases parses
  | succ fuel =>
    rw [alternatives_succ, skip_mark mark] at parses
    exact ⟨fuel, by simpa [goes, read] using parses⟩

theorem term {ch : Char} {t : Term} (parses : Parses b (ch :: text) c rest) (mark : ch ∈ marks)
    (goes : ch ≠ ')') (read : token b.flags ch text = some (.term t, left)) :
    Parses (b.add t) left c rest :=
  parses.act mark goes read

theorem caret (parses : Parses b ('^' :: text) c rest) :
    Parses (b.add (.leaf (.look b.flags.caret))) text c rest :=
  parses.term (by decide) (by decide) rfl

theorem dollar (parses : Parses b ('$' :: text) c rest) :
    Parses (b.add (.leaf (.look b.flags.dollar))) text c rest :=
  parses.term (by decide) (by decide) rfl

theorem bar (parses : Parses b ('|' :: text) c rest) : Parses b.next text c rest :=
  parses.act (by decide) (by decide) (rfl : token b.flags '|' text = some (.bar, text))

theorem closing (parses : Parses b (')' :: text) c rest) : c = b ∧ rest = ')' :: text := by
  obtain ⟨fuel, parses⟩ := parses
  exact alternatives_closing parses

theorem closed (parses : Parses b (')' :: text) c (')' :: rest)) : c = b ∧ rest = text := by
  obtain ⟨same, rests⟩ := parses.closing
  exact ⟨same, (List.cons.inj rests).2⟩

theorem empty (parses : Parses b [] c rest) : c = b := by
  obtain ⟨fuel, parses⟩ := parses
  cases fuel with
  | zero => cases parses
  | succ fuel =>
    rw [alternatives_succ, b.flags.skip_nil] at parses
    exact (Prod.mk.inj (Option.some.inj parses)).1.symm

theorem again {ch : Char} {low : Nat} {high : Option Nat} {t : Term} {parts : List Part}
    (parses : Parses b (ch :: text) c rest) (mark : ch ∈ marks) (goes : ch ≠ ')')
    (read : token b.flags ch text = Reader.again b.flags low high text)
    (alone : text.head? ≠ some '?') (last : b.parts = .term t :: parts) :
    Parses { b with parts := .term (t.repetition (!b.flags.swapGreed) low high) :: parts } text
      c rest := by
  have kept : preference b.flags text = (!b.flags.swapGreed, text) := by
    unfold preference
    split
    · simp at alone
    · rfl
  rw [Reader.again, kept] at read
  obtain ⟨fuel, parses⟩ := parses.act mark goes read
  refine ⟨fuel, ?_⟩
  simpa [Reader.act, Alternatives.repeatLast?, last] using parses

/-- A group with what stands in it. -/
theorem group {name : Option String} (parses : Parses b ('(' :: text) c rest)
    (skips : b.flags.skip text = text) (opens : opening b.flags text = some (.group name, left)) :
    ∃ inner behind, Parses (.begin b.flags (name.toList ++ b.names)) left inner (')' :: behind) ∧
      Parses { b.add (.group name inner.term) with names := inner.names } behind c rest := by
  have read : token b.flags '(' text = some (.group name, left) := by
    change (opening b.flags (b.flags.skip text)).map _ = _
    rw [skips, opens]
    rfl
  obtain ⟨fuel, parses⟩ := parses.act (by decide) (by decide) read
  obtain ⟨-, parses⟩ := Option.ite_none_left_eq_some.mp parses
  obtain ⟨⟨inner, behind⟩, inside, parses⟩ := Option.bind_eq_some_iff.mp parses
  dsimp only at parses
  split at parses
  · exact ⟨inner, _, ⟨fuel, inside⟩, ⟨fuel, parses⟩⟩
  · cases parses

/-- A group without a name whose content is known. -/
theorem unnamed {inner : Alternatives} (parses : Parses b ('(' :: text) c rest)
    (mark : ∃ ch behind, text = ch :: behind ∧ ch ∈ marks ∧ ch ≠ '?')
    (content : ∀ {d behind}, Parses (.begin b.flags b.names) text d (')' :: behind) →
      d = inner ∧ behind = left) :
    Parses { b.add (.group none inner.term) with names := inner.names } left c rest := by
  obtain ⟨ch, behind, rfl, mark, plain⟩ := mark
  have opens : opening b.flags (ch :: behind) = some (.group none, ch :: behind) := by
    unfold opening
    split <;> simp_all
  obtain ⟨d, _, inside, parses⟩ := parses.group (skip_mark mark behind) opens
  obtain ⟨rfl, rfl⟩ := content inside
  exact parses

/-- A character behind a reverse solidus. -/
theorem escaped {ch : Char} (parses : Parses b ('\\' :: ch :: text) c rest)
    (mark : ch ∈ ['.', '[', ']', '*']) :
    Parses (b.add (.leaf (.text [ch]))) text c rest := by
  have literal : b.flags.literal? ch = some (.single ch) := by
    have ascii : ∀ c ∈ ['.', '[', ']', '*'], c.toNat < 0x80 := by simp
    rw [Flags.literal?, fold_caseless (.single ch) (caseless_mark ch mark), if_pos]
    simp [ascii ch mark]
  have set : Expression.ofSet (.single ch) = .text [ch] := by
    simp [Expression.ofSet, CharSet.only?, CharSet.single, CharSet.range]
  have atom : escape b.flags (ch :: text) = some (.literal ch, text) := by
    simp only [List.mem_cons, List.not_mem_nil, or_false] at mark
    rcases mark with rfl | rfl | rfl | rfl <;> rfl
  refine parses.term (by decide) (by decide) ?_
  change (primitive b.flags ('\\' :: ch :: text)).map _ = _
  rw [primitive, atom]
  simp [literal, set, Term.leaf]

/-- Any digit. -/
theorem digit (parses : Parses b ('[' :: '0' :: '-' :: '9' :: ']' :: text) c rest) :
    Parses (b.add ⟨.set (.range 48 57), 1⟩) text c rest := by
  refine parses.term (by decide) (by decide) ?_
  change (bracketed b.flags ('0' :: '-' :: '9' :: ']' :: text)).map _ = _
  have skip {c : Char} {text : List Char} (mark : c ∈ marks) : b.flags.skip (c :: text) = c :: text :=
    skip_mark mark text
  have opening : classOpening b.flags ('0' :: '-' :: '9' :: ']' :: text) =
      (false, [], '0' :: '-' :: '9' :: ']' :: text) := by
    simp only [classOpening, skip (c := '0') (by decide)]
    rfl
  have range : classItem b.flags ('0' :: '-' :: '9' :: ']' :: text) =
      some (.range 48 57, ']' :: text) := by
    have literal (c : Char) (ascii : c.toNat < 0x80) :
        classLiteral? b.flags (.literal c) = some c := by
      rw [classLiteral?, if_pos]
      simp [ascii]
    rw [classItem_eq, classAtom_other b.flags (by decide), Option.bind_some,
      skip (by decide), afterFirst_hyphen b.flags (skip (by decide)), if_neg (by decide),
      skip (by decide), rangeEnd, classAtom_other b.flags (by decide), Option.bind_some,
      literal '0' (by decide), literal '9' (by decide)]
    rfl
  have body (fuel : Nat) : classBody b.flags (fuel + 2) none [] ('0' :: '-' :: '9' :: ']' :: text) =
      some (⟨.range 48 57, 0⟩, text) := by
    rw [classBody_succ, skip (by decide)]
    change (classItem b.flags ('0' :: '-' :: '9' :: ']' :: text)).bind _ = _
    rw [range, Option.bind_some, classBody_succ, skip (by decide)]
    rfl
  have item : ClassItem.bracketed b.flags false ⟨.range 48 57, 0⟩ = ⟨.range 48 57, 1⟩ := by
    simp [ClassItem.bracketed, CharSet.negateIf, fold_caseless _ caseless_digits]
  have admitted : b.flags.admits (.range 48 57) = true := by
    simp [Flags.admits, CharSet.isAscii, CharSet.range]
  simp only [bracketed, opening, List.length_cons, List.reverse_nil, body, Option.bind_eq_bind,
    Option.bind_some, item, admitted, if_true]
  rfl

end Parses

theorem alternatives_of_read? {e : Expression} (read : Expression.read? text = some e) :
    ∃ b, alternatives (text.length + 1) (.begin .initial []) text = some (b, []) ∧
      e = b.term.expression := by
  obtain ⟨⟨b, rest⟩, found, read⟩ := Option.bind_eq_some_iff.mp read
  rw [Option.ite_none_right_eq_some, Bool.and_eq_true, List.isEmpty_iff] at read
  obtain ⟨⟨rfl, -⟩, same⟩ := read
  exact ⟨b, found, (Option.some.inj same).symm⟩

/-- Whether a text has alternatives outside of all groups. -/
def isDivided (text : List Char) : Bool :=
  (alternatives (text.length + 1) (.begin .initial []) text).any fun found =>
    !found.1.finished.isEmpty

end PathEdit.Regex.Reader
