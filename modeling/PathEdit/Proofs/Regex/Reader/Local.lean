import PathEdit.Regex.Reader.Flags

/-! Readers that read a text in the same way, whatever closes the part of an expression that the text
is. The one exception is a comment at the end of the text, which swallows what follows it. -/
namespace PathEdit.Regex

/-- What may stand behind a part of an expression: the end of a group, or of an alternative. -/
inductive Closing : List Char → Prop where
  | group : Closing (')' :: rest)
  | alternative : Closing ('|' :: rest)

/-- The end of a group at the end of an expression. -/
def groupEnd : List Char := [')', '$']

theorem closing_groupEnd : Closing groupEnd := .group

/-- What closes a part does not begin with another character than it closes. -/
theorem Closing.head?_append (closing : Closing post) {text : List Char} {mark : Char}
    (absent : text.head? ≠ some mark) (inside : mark ∉ [')', '|']) :
    (text ++ post).head? ≠ some mark := by
  obtain ⟨group, alternative⟩ : mark ≠ ')' ∧ mark ≠ '|' := by simpa using inside
  cases text with
  | nil => cases closing <;> simp [Ne.symm group, Ne.symm alternative]
  | cons => exact absent

/-- A reader. -/
abbrev Reading (α : Type) := List Char → Option (α × List Char)

/-- What was read of a text is read of every longer one, or a comment runs to the end. -/
structure Stands (f : Reading α) (text : List Char) (a : α) (rest : List Char) : Prop where
  suffix : rest <:+ text
  stands : (∀ {post}, Closing post → f (text ++ post) = some (a, rest ++ post)) ∨
    rest = [] ∧ f (text ++ groupEnd) = some (a, [])

/-- A reader for which all that it reads stands. -/
structure Local (f : Reading α) : Prop where
  read : ∀ {text a rest}, f text = some (a, rest) → Stands f text a rest

variable {α β : Type} {f : Reading α} {text rest post : List Char} {a : α}

/-- A reader that needs a character, and goes on as it says. -/
def uncons (reads : Char → Reading α) : Reading α
  | [] => none
  | c :: text => reads c text

theorem Stands.eq_of_ne_nil (stands : Stands f text a rest) (nonempty : rest ≠ [])
    (closing : Closing post) : f (text ++ post) = some (a, rest ++ post) := by
  rcases stands.stands with all | ⟨rfl, -⟩
  · exact all closing
  · exact absurd rfl nonempty

namespace Local

/-- The result of a reader that reads nothing, if there is one. -/
theorem of_option (result : Option α) : Local fun text => result.map (·, text) := by
  refine ⟨fun {text a rest} found => ?_⟩
  obtain ⟨_, rfl, same⟩ := Option.map_eq_some_iff.mp found
  obtain ⟨rfl, rfl⟩ := Prod.mk.inj same
  exact ⟨List.suffix_refl _, .inl fun _ => rfl⟩

theorem none : Local fun _ => (Option.none : Option (α × List Char)) := ⟨nofun⟩

theorem congr {g : Reading α} (reads : Local f) (same : ∀ text, g text = f text) : Local g := by
  rwa [show g = f from funext same]

/-- One reader behind another. -/
theorem bind {g : α → Reading β} (first : Local f) (second : ∀ a, Local (g a)) :
    Local fun text => (f text).bind fun found => g found.1 found.2 := by
  refine ⟨fun {text b rest} found => ?_⟩
  obtain ⟨⟨a, mid⟩, front, behind⟩ := Option.bind_eq_some_iff.mp found
  obtain ⟨suffix, stands⟩ := first.read front
  obtain ⟨suffix', stands'⟩ := (second a).read behind
  refine ⟨suffix'.trans suffix, ?_⟩
  rcases stands with all | ⟨rfl, swallowed⟩
  · rcases stands' with all' | ⟨rfl, swallowed'⟩
    · exact .inl fun closing => by simp [all closing, all' closing]
    · exact .inr ⟨rfl, by simp [all closing_groupEnd, swallowed']⟩
  · obtain rfl : rest = [] := List.suffix_nil.mp suffix'
    exact .inr ⟨rfl, by simpa [swallowed] using behind⟩

theorem guard {g : β → Reading α} (condition : Option β) (reads : ∀ b, Local (g b)) :
    Local fun text => condition.bind fun b => g b text := by
  cases condition with
  | none => exact ⟨nofun⟩
  | some b => exact reads b

theorem ite {g : Reading α} (condition : Prop) [Decidable condition] (first : Local f)
    (second : Local g) : Local fun text => if condition then f text else g text := by
  by_cases holds : condition
  · simpa [holds] using first
  · simpa [holds] using second

/-- A reader that needs a character to go on. -/
theorem cons {g : Char → Reading α} (reads : ∀ c, Local (g c)) (same : ∀ c rest, f (c :: rest) = g c rest)
    (stops : f [] = Option.none) : Local f := by
  refine ⟨fun {text a rest} found => ?_⟩
  cases text with
  | nil => simp [stops] at found
  | cons c text =>
    rw [same] at found
    obtain ⟨suffix, stands⟩ := (reads c).read found
    refine ⟨suffix.trans (List.suffix_cons c text), ?_⟩
    simpa only [List.cons_append, same] using stands

theorem uncons {g : Char → Reading α} (reads : ∀ c, Local (g c)) : Local (uncons g) :=
  .cons reads (fun _ _ => rfl) rfl

end Local

/-! Blanks and comments. -/

theorem isWhiteSpace_closing : Unicode.isWhiteSpace ')' = false ∧ Unicode.isWhiteSpace '|' = false := by
  decide +kernel

theorem dropBlanks_closing (closing : Closing post) : Flags.dropBlanks false post = post := by
  cases closing <;> simp [Flags.dropBlanks, isWhiteSpace_closing]

theorem dropBlanks_suffix (inComment : Bool) (text : List Char) :
    Flags.dropBlanks inComment text <:+ text := by
  induction text generalizing inComment with
  | nil => exact List.suffix_refl _
  | cons c text ih =>
    unfold Flags.dropBlanks
    split
    · exact (ih _).trans (List.suffix_cons c text)
    · split
      · exact (ih _).trans (List.suffix_cons c text)
      · split
        · exact (ih _).trans (List.suffix_cons c text)
        · exact List.suffix_refl _

theorem dropBlanks_append (inComment : Bool) (text : List Char) :
    (∀ {post}, Closing post → Flags.dropBlanks inComment (text ++ post) =
        Flags.dropBlanks inComment text ++ post) ∨
      Flags.dropBlanks inComment text = [] ∧ Flags.dropBlanks inComment (text ++ groupEnd) = [] := by
  induction text generalizing inComment with
  | nil =>
    cases inComment with
    | true => exact .inr ⟨rfl, by decide⟩
    | false => exact .inl dropBlanks_closing
  | cons c text ih =>
    simp only [List.cons_append, Flags.dropBlanks]
    split
    · exact ih _
    · split
      · exact ih _
      · split
        · exact ih _
        · exact .inl fun _ => rfl

namespace Flags

variable (flags : Flags)

theorem skip_closing (closing : Closing post) : flags.skip post = post := by
  unfold skip
  split
  · exact dropBlanks_closing closing
  · rfl

theorem skip_nil : flags.skip [] = [] := by
  unfold skip
  split <;> rfl

/-- Skipping as a reader. -/
def skipping : Reading Unit := fun text => some ((), flags.skip text)

theorem local_skipping : Local flags.skipping := by
  refine ⟨fun {text a rest} found => ?_⟩
  obtain ⟨-, rfl⟩ := Prod.mk.inj (Option.some.inj found)
  simp only [skip]
  split
  · refine ⟨dropBlanks_suffix false text, ?_⟩
    simpa [skipping, skip, *] using dropBlanks_append false text
  · exact ⟨List.suffix_refl _, .inl fun _ => by simp [skipping, skip, *]⟩

end Flags

namespace Local

theorem skip (flags : Flags) (reads : Local f) : Local fun text => f (flags.skip text) :=
  (flags.local_skipping.bind fun _ => reads).congr fun _ => rfl

theorem pure (a : α) : Local fun text => some (a, text) := of_option (some a)

/-- What was read, without the values that a condition excludes. -/
theorem filterMap (reads : Local f) (value : α → Option β) :
    Local fun text => (f text).bind fun found => (value found.1).map (·, found.2) :=
  reads.bind fun a => of_option (value a)

theorem map (reads : Local f) (value : α → β) :
    Local fun text => (f text).map fun found => (value found.1, found.2) :=
  (reads.filterMap fun a => some (value a)).congr fun text => by cases f text <;> rfl

/-- A reader that looks for a character first. -/
theorem peek {g h : Reading α} (mark : Char) (inside : mark ∉ [')', '|']) (first : Local g)
    (second : Local h) (marked : ∀ rest, f (mark :: rest) = g rest)
    (other : ∀ {text}, text.head? ≠ some mark → f text = h text) : Local f := by
  refine ⟨fun {text a rest} found => ?_⟩
  by_cases present : text.head? = some mark
  · obtain ⟨text, rfl⟩ := List.head?_eq_some_iff.mp present
    rw [marked] at found
    obtain ⟨suffix, stands⟩ := first.read found
    exact ⟨suffix.trans (List.suffix_cons mark text), by simpa only [List.cons_append, marked] using stands⟩
  · rw [other present] at found
    obtain ⟨suffix, stands⟩ := second.read found
    refine ⟨suffix, stands.imp (fun all _ closing => ?_) (And.imp_right fun swallowed => ?_)⟩
    · rw [other (closing.head?_append present inside), all closing]
    · rw [other (closing_groupEnd.head?_append present inside), swallowed]

/-- Fuel that is measured by the text is enough, if more fuel does not change what was read. -/
theorem fuelled {g : Nat → Reading α} (reads : ∀ fuel, Local (g fuel))
    (more : ∀ {fuel text found}, g fuel text = some found → g (fuel + 1) text = some found)
    {size : List Char → Nat} (grows : ∀ text post, size text ≤ size (text ++ post)) :
    Local fun text => g (size text) text := by
  have enough {fuel fuel' : Nat} (le : fuel ≤ fuel') {text : List Char} {found : α × List Char}
      (read : g fuel text = some found) : g fuel' text = some found := by
    induction le with
    | refl => exact read
    | step _ ih => exact more ih
  refine ⟨fun {text a rest} found => ?_⟩
  obtain ⟨suffix, stands⟩ := (reads _).read found
  refine ⟨suffix, stands.imp (fun all _ closing => ?_) (And.imp_right fun swallowed => ?_)⟩
  · exact enough (grows _ _) (all closing)
  · exact enough (grows _ _) swallowed

/-- A reader that goes on as the next character says, which may stand behind blanks. -/
theorem lookahead {g : Char → Reading α} (flags : Flags) {front : List Char} {c : Char}
    {more : List Char} (reads : Local (g c)) (behind : flags.skip text = c :: more)
    (same : ∀ {text more}, flags.skip text = c :: more → f (front ++ text) = g c (front ++ text))
    (found : f (front ++ text) = some (a, rest)) : Stands f (front ++ text) a rest := by
  have skipped := flags.local_skipping.read (congrArg (fun t => some ((), t)) behind)
  have longer {post : List Char} (closing : Closing post) :
      f (front ++ text ++ post) = g c (front ++ text ++ post) := by
    have next := skipped.eq_of_ne_nil (List.cons_ne_nil _ _) closing
    simp only [Flags.skipping, Option.some.injEq, Prod.mk.injEq, true_and] at next
    rw [List.append_assoc]
    exact same next
  rw [same behind] at found
  obtain ⟨suffix, stands⟩ := reads.read found
  refine ⟨suffix, stands.imp (fun all _ closing => ?_) (And.imp_right fun swallowed => ?_)⟩
  · rw [longer closing, all closing]
  · rw [longer closing_groupEnd, swallowed]

end Local

/-- Characters of a kind, with blanks skipped behind each. -/
def Flags.run (flags : Flags) (kind : Char → Bool) : Nat → Reading (List Char)
  | 0, _ => none
  | _ + 1, [] => some ([], [])
  | fuel + 1, c :: rest =>
    if kind c then (flags.run kind fuel (flags.skip rest)).map fun found => (c :: found.1, found.2)
    else some ([], c :: rest)

theorem Flags.local_run (flags : Flags) {kind : Char → Bool} (group : kind ')' = false)
    (alternative : kind '|' = false) (fuel : Nat) : Local (flags.run kind fuel) := by
  induction fuel with
  | zero => exact .congr .none fun _ => rfl
  | succ fuel ih =>
    refine ⟨fun {text a rest} found => ?_⟩
    cases text with
    | nil =>
      obtain ⟨rfl, rfl⟩ := Prod.mk.inj (Option.some.inj found)
      refine ⟨List.suffix_refl _, .inl fun closing => ?_⟩
      cases closing <;> simp [run, group, alternative]
    | cons c text =>
      by_cases holds : kind c = true
      · have behind (text : List Char) : flags.run kind (fuel + 1) (c :: text) =
            (flags.run kind fuel (flags.skip text)).map fun found => (c :: found.1, found.2) := by
          rw [run, if_pos holds]
        rw [behind] at found
        obtain ⟨suffix, stands⟩ := ((ih.skip flags).map (c :: ·)).read found
        exact ⟨suffix.trans (List.suffix_cons c text), by
          simpa only [List.cons_append, behind] using stands⟩
      · have stops (text : List Char) : flags.run kind (fuel + 1) (c :: text) =
            some ([], c :: text) := by
          rw [run, if_neg holds]
        rw [stops] at found
        obtain ⟨rfl, rfl⟩ := Prod.mk.inj (Option.some.inj found)
        exact ⟨List.suffix_refl _, .inl fun _ => stops _⟩

theorem Flags.run_succ (flags : Flags) {kind : Char → Bool} {fuel : Nat} {text : List Char}
    {found : List Char × List Char} (read : flags.run kind fuel text = some found) :
    flags.run kind (fuel + 1) text = some found := by
  induction fuel generalizing text found with
  | zero => cases read
  | succ fuel ih =>
    cases text with
    | nil => exact read
    | cons c text =>
      rw [run] at read ⊢
      split at read
      · rw [if_pos ‹_›]
        obtain ⟨inner, behind, rfl⟩ := Option.map_eq_some_iff.mp read
        rw [ih behind, Option.map_some]
      · rwa [if_neg ‹_›]

/-- A run with a value for each character always ends, for which the length of the text is enough
fuel. -/
theorem Flags.run_eq (flags : Flags) {kind : Char → Bool} (value : Char → α)
    {f : Nat → List Char → List α × List Char} (empty : ∀ fuel, f fuel [] = ([], []))
    (taken : ∀ {fuel c rest}, kind c = true → f (fuel + 1) (c :: rest) =
      (value c :: (f fuel (flags.skip rest)).1, (f fuel (flags.skip rest)).2))
    (stopped : ∀ {fuel c rest}, kind c = false → f (fuel + 1) (c :: rest) = ([], c :: rest))
    {fuel : Nat} {text : List Char} (enough : text.length ≤ fuel) :
    some (f fuel text) =
      (flags.run kind (fuel + 1) text).map fun found => (found.1.map value, found.2) := by
  induction fuel generalizing text with
  | zero =>
    obtain rfl := List.length_eq_zero_iff.mp (Nat.le_zero.mp enough)
    simp [empty, run]
  | succ fuel ih =>
    cases text with
    | nil => simp [empty, run]
    | cons c text =>
      have shorter : (flags.skip text).length ≤ fuel :=
        Nat.le_trans (flags.local_skipping.read rfl).suffix.length_le (Nat.le_of_succ_le_succ enough)
      cases holds : kind c with
      | true =>
        obtain ⟨found, behind, same⟩ := Option.map_eq_some_iff.mp (ih shorter).symm
        simp [run, holds, taken holds, behind, ← same]
      | false => simp [run, holds, stopped holds]

/-- A run with a value for each character, which is read in the same way whatever closes it. -/
theorem Flags.local_longest (flags : Flags) (kind : Char → Bool) (value : Char → α)
    {f : Nat → List Char → List α × List Char} (empty : ∀ fuel, f fuel [] = ([], []))
    (taken : ∀ {fuel c rest}, kind c = true → f (fuel + 1) (c :: rest) =
      (value c :: (f fuel (flags.skip rest)).1, (f fuel (flags.skip rest)).2))
    (stopped : ∀ {fuel c rest}, kind c = false → f (fuel + 1) (c :: rest) = ([], c :: rest))
    (group : kind ')' = false) (alternative : kind '|' = false) :
    Local fun text => some (f text.length text) := by
  have longest : Local fun text => flags.run kind (text.length + 1) text :=
    .fuelled (flags.local_run group alternative) flags.run_succ (by simp)
  exact (longest.map (List.map value)).congr fun text =>
    flags.run_eq value empty taken stopped (Nat.le_refl _)

end PathEdit.Regex
