import PathEdit.Proofs.Regex.Reader.Class
import PathEdit.Regex.Reader.Basic

/-! An expression as a series of tokens, each of which is read in the same way whatever closes the
part of the expression that it ends. -/
namespace PathEdit.Regex.Reader

variable (flags : Flags) {text rest post : List Char}

/-! Openings of groups. -/

/-- Letters of flags are read up to a character that is left. -/
theorem flagLetters_append {on : Bool} {seen seen' : List Char} {flags changed : Flags}
    (read : flagLetters on seen flags text = some (changed, seen', rest)) :
    (∃ c behind, rest = c :: behind) ∧ rest <:+ text ∧
      ∀ post, flagLetters on seen flags (text ++ post) = some (changed, seen', rest ++ post) := by
  induction text generalizing on seen flags with
  | nil => cases read
  | cons c text ih =>
    rw [flagLetters] at read
    simp only [List.cons_append, flagLetters]
    split at read
    · split at read
      · cases read
      · obtain ⟨rfl, rfl, rfl⟩ : flags = changed ∧ seen = seen' ∧ c :: text = rest := by
          simpa using read
        exact ⟨⟨c, text, rfl⟩, List.suffix_refl _, fun _ => by simp [*]⟩
    · rename_i letter
      split at read
      · cases read
      · rename_i fresh
        split at read
        · rename_i hyphen
          obtain ⟨left, suffix, stands⟩ := ih read
          refine ⟨left, suffix.trans (List.suffix_cons c text), fun post => ?_⟩
          simp only [letter, fresh, hyphen, stands]
          rfl
        · rename_i other
          obtain ⟨switched, known, read⟩ := Option.bind_eq_some_iff.mp read
          obtain ⟨left, suffix, stands⟩ := ih read
          refine ⟨left, suffix.trans (List.suffix_cons c text), fun post => ?_⟩
          simp only [letter, fresh, other, known, Option.bind_eq_bind, Option.bind_some, stands]
          rfl

theorem local_groupName : Local groupName := by
  refine ⟨fun {text name rest} found => ?_⟩
  have whole {text : List Char} (absent : '>' ∉ text) : ∀ c ∈ text, (c != '>') = true :=
    fun c present => bne_iff_ne.mpr fun same => absent (same ▸ present)
  by_cases bracket : '>' ∈ text
  · obtain ⟨inside, behind, rfl, absent⟩ := List.eq_append_cons_of_mem bracket
    have cut (behind : List Char) :
        (inside ++ '>' :: behind).takeWhile (· != '>') = inside ∧
          (inside ++ '>' :: behind).dropWhile (· != '>') = '>' :: behind := by
      constructor
      · simp [List.takeWhile_append_of_pos (whole absent)]
      · simp [List.dropWhile_append_of_pos (whole absent)]
    simp only [groupName, cut, Option.ite_none_right_eq_some, Option.some_inj, Prod.mk.injEq] at found
    obtain ⟨valid, rfl, rfl⟩ := found
    refine ⟨⟨inside ++ ['>'], by simp⟩, .inl fun _ => ?_⟩
    simp only [List.append_assoc, List.cons_append, groupName, cut]
    exact if_pos valid
  · have ends := @List.dropWhile_append_of_pos _ (· != '>') text [] (whole bracket)
    rw [List.append_nil] at ends
    simp [groupName, ends] at found

/-- A group whose name is read first. -/
def namedOpening : Reading Opening := fun text =>
  (groupName text).map fun found => (.group (some found.1), found.2)

/-- Flags for the rest of a part or for a group of their own. -/
def flagOpening : Reading Opening := fun text =>
  (flagLetters true [] flags text).bind fun found =>
    match found.2.2 with
    | ')' :: rest => if found.2.1.isEmpty then none else some (.flags found.1, rest)
    | _ :: rest => some (.cluster found.1, rest)
    | [] => none

theorem namedOpening_eq (text : List Char) : namedOpening text =
    (groupName text).bind fun found => some (.group (some found.1), found.2) :=
  Option.map_eq_bind

theorem local_namedOpening : Local namedOpening :=
  local_groupName.map fun name => Opening.group (some name)

theorem local_flagOpening (c : Char) : Local fun text => flagOpening flags (c :: text) := by
  refine ⟨fun {text opening rest} found => ?_⟩
  obtain ⟨⟨changed, seen, left⟩, letters, behind⟩ := Option.bind_eq_some_iff.mp found
  obtain ⟨⟨mark, others, rfl⟩, suffix, stands⟩ := flagLetters_append letters
  obtain ⟨result, longer⟩ : ∃ result : Option Opening, ∀ post,
      flagOpening flags (c :: (text ++ post)) = result.map (·, others ++ post) := by
    refine ⟨if mark = ')' then if seen.isEmpty then none else some (.flags changed)
      else some (.cluster changed), fun post => ?_⟩
    rw [flagOpening, ← List.cons_append, stands]
    simp only [Option.bind_some, List.cons_append]
    split
    · split <;> simp_all
    · simp_all
    · simp_all
  have whole := longer []
  rw [List.append_nil, List.append_nil] at whole
  obtain ⟨opening', known, same⟩ := Option.map_eq_some_iff.mp (whole.symm.trans found)
  obtain ⟨rfl, rfl⟩ := Prod.mk.inj same
  refine ⟨?_, .inl fun {post} _ => by rw [longer, known, Option.map_some]⟩
  rcases List.suffix_cons_iff.mp suffix with same | inside
  · exact (List.cons.inj same).2 ▸ List.suffix_refl _
  · exact (List.suffix_cons mark others).trans inside

/-- What stands behind an opening parenthesis and a question mark. -/
def markedOpening (c : Char) : Reading Opening := fun text =>
  if c = '=' ∨ c = '!' then none
  else if c = '<' then
    if text.head? = some '=' ∨ text.head? = some '!' then none else namedOpening text
  else if c = 'P' then if text.head? = some '<' then namedOpening text.tail else none
  else flagOpening flags (c :: text)

theorem local_markedOpening (c : Char) : Local (markedOpening flags c) := by
  have angled : Local fun text =>
      if text.head? = some '=' ∨ text.head? = some '!' then none else namedOpening text := by
    have exclaimed : Local fun text =>
        if text.head? = some '!' then none else namedOpening text :=
      .peek '!' (by decide) .none local_namedOpening (fun _ => rfl) fun other => if_neg other
    exact .peek '=' (by decide) .none exclaimed (fun _ => rfl) fun other => by simp [other]
  refine .ite _ .none (.ite _ angled (.ite _ ?_ (local_flagOpening flags c)))
  exact .peek '<' (by decide) local_namedOpening .none (fun _ => rfl) fun other => if_neg other

theorem opening_angled (text : List Char) : opening flags ('?' :: '<' :: text) =
    if text.head? = some '=' ∨ text.head? = some '!' then none else namedOpening text := by
  cases text with
  | nil => rfl
  | cons c text =>
    by_cases equal : c = '='
    · subst equal
      rfl
    · by_cases mark : c = '!'
      · subst mark
        rfl
      · rw [namedOpening_eq]
        simp [opening, equal, mark]

theorem opening_letter (text : List Char) : opening flags ('?' :: 'P' :: text) =
    if text.head? = some '<' then namedOpening text.tail else none := by
  have unknown (text : List Char) : flagLetters true [] flags ('P' :: text) = none := rfl
  cases text with
  | nil => rfl
  | cons c text =>
    by_cases angle : c = '<'
    · subst angle
      exact (namedOpening_eq text).symm
    · simp [opening, angle, unknown]

theorem opening_marked (c : Char) (text : List Char) :
    opening flags ('?' :: c :: text) = markedOpening flags c text := by
  unfold markedOpening
  split
  · rcases ‹c = '=' ∨ c = '!'› with rfl | rfl <;> rfl
  · rename_i plain
    obtain ⟨equal, mark⟩ := not_or.mp plain
    split
    · subst c
      exact opening_angled flags text
    · rename_i angle
      split
      · subst c
        exact opening_letter flags text
      · rename_i letter
        simp [opening, equal, mark, angle, letter, -List.isEmpty_iff]
        rfl

theorem local_opening : Local (opening flags) := by
  have marked : Local (uncons (markedOpening flags)) := .uncons (local_markedOpening flags)
  refine .peek '?' (by decide) marked (.pure (.group none)) ?_ ?_
  · intro text
    cases text with
    | nil => rfl
    | cons c text => exact opening_marked flags c text
  · intro text other
    unfold opening
    split <;> simp_all

/-! Repetitions. -/

theorem local_preference : Local fun text => some (preference flags text) :=
  .peek '?' (by decide) (.pure flags.swapGreed) (.pure !flags.swapGreed) (fun _ => rfl)
    fun {text} other => by
    unfold preference
    split
    · simp at other
    · rfl

theorem local_dropSpace : Local fun text => some ((), dropSpace text) := by
  refine ⟨fun {text _ rest} found => ?_⟩
  obtain ⟨-, rfl⟩ := Prod.mk.inj (Option.some.inj found)
  refine ⟨List.dropWhile_suffix _, .inl fun {post} closing => ?_⟩
  have stops : dropSpace post = post := by
    cases closing <;> simp [dropSpace, isWhiteSpace_closing]
  simp only [dropSpace] at stops ⊢
  rw [List.dropWhile_append]
  split
  · rename_i empty
    rw [stops, List.isEmpty_iff.mp empty, List.nil_append]
  · rfl

theorem local_decimalDigits :
    Local fun text => some (decimalDigits flags text.length text) := by
  refine flags.local_longest Char.isDigit id ?_ ?_ ?_ rfl rfl
  · intro fuel
    cases fuel <;> rfl
  · intro fuel c rest digit
    simp [decimalDigits, digit]
  · intro fuel c rest other
    simp [decimalDigits, other]

theorem local_count : Local (count flags) := by
  let value (digits : List Char) : Nat :=
    digits.foldl (fun value c => 10 * value + (c.toNat - '0'.toNat)) 0
  have behind (digits : List Char) : Local fun text =>
      if digits.isEmpty || UInt32.size ≤ value digits then none
      else some (value digits, flags.skip (dropSpace text)) :=
    .ite _ .none (local_dropSpace.bind fun _ => (Local.pure (value digits)).skip flags)
  have digits : Local fun text => (some (decimalDigits flags text.length text)).bind fun found =>
      if found.1.isEmpty || UInt32.size ≤ value found.1 then none
      else some (value found.1, flags.skip (dropSpace found.2)) :=
    (local_decimalDigits flags).bind behind
  exact (local_dropSpace.bind fun _ => digits).congr fun _ => rfl

/-- The closing brace of a repetition whose bounds are both known. -/
def closingBrace (low high : Nat) : Reading (Nat × Option Nat)
  | '\x7d' :: rest => if low ≤ high then some ((low, some high), rest) else none
  | _ => none

/-- The upper bound of a repetition, behind a comma. -/
def upperBound (low : Nat) : Reading (Nat × Option Nat)
  | '\x7d' :: rest => some ((low, none), rest)
  | text => (count flags text).bind fun high => closingBrace low high.1 high.2

/-- The bounds of a repetition behind the lower one. -/
def furtherBound (low : Nat) : Reading (Nat × Option Nat)
  | '\x7d' :: rest => some ((low, some low), rest)
  | ',' :: rest => upperBound flags low (flags.skip rest)
  | _ => none

theorem bounds_eq (text : List Char) : bounds flags text =
    (count flags (flags.skip text)).bind fun low => furtherBound flags low.1 low.2 := rfl

theorem local_closingBrace (low high : Nat) : Local (closingBrace low high) := by
  have admitted : Local fun rest => if low ≤ high then some ((low, some high), rest) else none :=
    .ite _ (.pure _) .none
  exact .peek '}' (by decide) admitted .none (fun _ => rfl) fun other => by
    unfold closingBrace
    split
    · simp at other
    · rfl

theorem local_upperBound (low : Nat) : Local (upperBound flags low) :=
  .peek '}' (by decide) (.pure (low, none))
    ((local_count flags).bind fun high => local_closingBrace low high) (fun _ => rfl) fun other => by
      unfold upperBound
      split
      · simp at other
      · rfl

theorem local_furtherBound (low : Nat) : Local (furtherBound flags low) := by
  have comma : Local fun text =>
      if text.head? = some ',' then upperBound flags low (flags.skip text.tail) else none :=
    .peek ',' (by decide) ((local_upperBound flags low).skip flags) .none (fun _ => rfl)
      fun other => if_neg other
  exact .peek '}' (by decide) (.pure (low, some low)) comma (fun _ => rfl) fun other => by
    unfold furtherBound
    split
    · simp at other
    · rfl
    · rename_i behind
      rw [if_neg]
      intro begins
      obtain ⟨rest, same⟩ := List.head?_eq_some_iff.mp begins
      exact behind rest same

theorem local_bounds : Local (bounds flags) :=
  (((local_count flags).skip flags).bind (local_furtherBound flags)).congr (bounds_eq flags)

/-! Tokens. -/

/-- The expression of a character or escape. -/
def ofAtom? : Atom → Option Expression
  | .literal c => (flags.literal? c).map Expression.ofSet
  | .set set => some (.ofSet set)
  | .look look => some (.look look)

theorem local_primitive (c : Char) : Local fun text => primitive flags (c :: text) := by
  have escaped : Local fun text => (escape flags text).bind fun found =>
      (ofAtom? flags found.1).map (·, found.2) :=
    (local_escape flags).filterMap (ofAtom? flags)
  by_cases point : c = '.'
  · subst point
    exact (Local.of_option (flags.dot?.map Expression.ofSet)).congr fun text => by
      rw [primitive, Option.map_map]
      rfl
  by_cases caret : c = '^'
  · subst caret
    exact (Local.pure (.look flags.caret)).congr fun _ => rfl
  by_cases dollar : c = '$'
  · subst dollar
    exact (Local.pure (.look flags.dollar)).congr fun _ => rfl
  by_cases bar : c = '\\'
  · subst bar
    exact escaped.congr fun text => by
      rw [primitive]
      congr 1
      funext ⟨atom, rest⟩
      cases atom <;> simp [ofAtom?, Function.comp_def]
  exact (Local.of_option ((flags.literal? c).map Expression.ofSet)).congr fun text => by
    unfold primitive
    split <;> simp_all [Function.comp_def]

/-- What is read of an expression in one go. -/
inductive Token where
  | bar
  | setting (flags : Flags)
  | cluster (flags : Flags)
  | group (name : Option String)
  | term (term : Term)
  | again (greedy : Bool) (low : Nat) (high : Option Nat)

def Token.ofOpening : Opening → Token
  | .flags flags => .setting flags
  | .cluster flags => .cluster flags
  | .group name => .group name

/-- A repetition, whose preference may be turned around. -/
def again (low : Nat) (high : Option Nat) : Reading Token := fun text =>
  some (.again (preference flags text).1 low high, (preference flags text).2)

theorem local_again (low : Nat) (high : Option Nat) : Local (again flags low high) :=
  ((local_preference flags).map fun greedy => Token.again greedy low high).congr fun _ => rfl

/-- The token that begins with a character. -/
def token (c : Char) : Reading Token := fun text =>
  if c = '|' then some (.bar, text)
  else if c = '(' then
    (opening flags (flags.skip text)).map fun found => (.ofOpening found.1, found.2)
  else if c = '[' then
    (bracketed flags text).map fun found => (.term ⟨.ofSet found.1.set, found.1.depth⟩, found.2)
  else if c = '?' then again flags 0 (some 1) text
  else if c = '*' then again flags 0 none text
  else if c = '+' then again flags 1 none text
  else if c = '\x7b' then
    (bounds flags text).bind fun found => again flags found.1.1 found.1.2 (flags.skip found.2)
  else (primitive flags (c :: text)).map fun found => (.term (.leaf found.1), found.2)

theorem local_token (c : Char) : Local (token flags c) := by
  have opens : Local fun text =>
      (opening flags (flags.skip text)).map fun found => (Token.ofOpening found.1, found.2) :=
    ((local_opening flags).skip flags).map Token.ofOpening
  have classes : Local fun text => (bracketed flags text).map fun found =>
      (Token.term ⟨.ofSet found.1.set, found.1.depth⟩, found.2) :=
    (local_bracketed flags).map fun item => Token.term ⟨.ofSet item.set, item.depth⟩
  have counted : Local fun text => (bounds flags text).bind fun found =>
      again flags found.1.1 found.1.2 (flags.skip found.2) :=
    (local_bounds flags).bind fun bounds => (local_again flags bounds.1 bounds.2).skip flags
  have single : Local fun text => (primitive flags (c :: text)).map fun found =>
      (Token.term (.leaf found.1), found.2) :=
    (local_primitive flags c).map fun e => Token.term (.leaf e)
  exact .ite _ (.pure _) (.ite _ opens (.ite _ classes (.ite _ (local_again flags 0 (some 1))
    (.ite _ (local_again flags 0 none) (.ite _ (local_again flags 1 none)
      (.ite _ counted single))))))

/-- What a token changes, with what is read behind it. -/
def act (read : Alternatives → Reading Alternatives) (b : Alternatives) :
    Token → Reading Alternatives
  | .bar, rest => read b.next rest
  | .setting changed, rest => read { b with flags := changed, parts := .setting :: b.parts } rest
  | .cluster changed, rest => enclosed read b .cluster changed b.names rest
  | .group name, rest => if name.any b.names.contains then none
    else enclosed read b (.group name) b.flags (name.toList ++ b.names) rest
  | .term t, rest => read (b.add t) rest
  | .again greedy low high, rest =>
    (b.repeatLast? greedy low high).bind fun b => read b rest
where
  /-- A group, and what is read behind it. -/
  enclosed (read : Alternatives → Reading Alternatives) (b : Alternatives) (enclose : Term → Term)
      (changed : Flags) (names : List String) : Reading Alternatives := fun rest =>
    (read (.begin changed names) rest).bind fun found =>
      match found.2 with
      | ')' :: rest => read { b.add (enclose found.1.term) with names := found.1.names } rest
      | _ => none

theorem alternatives_succ (fuel : Nat) (b : Alternatives) (text : List Char) :
    alternatives (fuel + 1) b text =
      match b.flags.skip text with
      | [] => some (b, [])
      | c :: rest =>
        if c = ')' then some (b, c :: rest)
        else (token b.flags c rest).bind fun found =>
          act (alternatives fuel) b found.1 found.2 := by
  rw [alternatives]
  generalize b.flags.skip text = text
  dsimp only
  split
  · rfl
  · rfl
  · rfl
  · rename_i rest
    change _ = ((opening b.flags (b.flags.skip rest)).map _).bind _
    cases opening b.flags (b.flags.skip rest) with
    | none => rfl
    | some found =>
      obtain ⟨opening, rest⟩ := found
      cases opening <;> rfl
  · rename_i rest
    change _ = ((bracketed b.flags rest).map _).bind _
    cases bracketed b.flags rest <;> rfl
  · rfl
  · rfl
  · rfl
  · rename_i rest
    change _ = ((bounds b.flags rest).bind _).bind _
    cases bounds b.flags rest <;> rfl
  · rename_i nonempty close bar group bracket question star plus brace
    obtain ⟨c, rest, rfl⟩ := List.exists_cons_of_ne_nil nonempty
    have other {mark : Char} (absent : ∀ rest', c :: rest = mark :: rest' → False) : c ≠ mark :=
      fun same => absent rest (same ▸ rfl)
    dsimp only
    rw [if_neg (other close), token, if_neg (other bar), if_neg (other group),
      if_neg (other bracket), if_neg (other question), if_neg (other star), if_neg (other plus),
      if_neg (other brace)]
    cases primitive b.flags (c :: rest) <;> rfl

end PathEdit.Regex.Reader
