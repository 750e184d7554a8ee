import PathEdit.Proofs.Regex.Reader.Token

/-! A text that is an expression in itself is read in the same way behind another one, where the names
of its groups are new. -/
namespace PathEdit.Regex.Reader

/-- Alternatives that were read in the same way as others, but behind some. -/
inductive Grafted (base : Alternatives) : Alternatives → Alternatives → Prop where
  | undivided {parts : List Part} {flags : Flags} {names : List String}
      (fresh : ∀ name ∈ names, name ∉ base.names) :
      Grafted base ⟨[], parts, flags, names⟩
        ⟨base.finished, parts ++ base.parts, flags, names ++ base.names⟩
  | divided {others : List Term} {first parts : List Part} {flags : Flags} {names : List String}
      (fresh : ∀ name ∈ names, name ∉ base.names) :
      Grafted base ⟨others ++ [Part.sequence first.reverse], parts, flags, names⟩
        ⟨others ++ Part.sequence (first ++ base.parts).reverse :: base.finished, parts, flags,
          names ++ base.names⟩

namespace Grafted

variable {base a b : Alternatives} {flags : Flags} {names : List String}

theorem start : Grafted base (.begin base.flags []) base :=
  @undivided base [] base.flags [] nofun

theorem flags_eq (grafted : Grafted base a b) : b.flags = a.flags := by
  cases grafted <;> rfl

theorem names_eq (grafted : Grafted base a b) : b.names = a.names ++ base.names := by
  cases grafted <;> rfl

theorem fresh (grafted : Grafted base a b) : ∀ name ∈ a.names, name ∉ base.names := by
  cases grafted <;> assumption

theorem next (grafted : Grafted base a b) : Grafted base a.next b.next := by
  cases grafted with
  | @undivided parts flags _ fresh => exact @divided base [] parts [] flags _ fresh
  | @divided others first parts flags _ fresh =>
    exact @divided base (Part.sequence parts.reverse :: others) first [] flags _ fresh

theorem push (grafted : Grafted base a b) (part : Part) (flags : Flags) :
    Grafted base { a with flags := flags, parts := part :: a.parts }
      { b with flags := flags, parts := part :: b.parts } := by
  cases grafted with
  | @undivided parts _ _ fresh => exact @undivided base (part :: parts) flags _ fresh
  | @divided others first parts _ _ fresh =>
    exact @divided base others first (part :: parts) flags _ fresh

theorem add (grafted : Grafted base a b) (t : Term) : Grafted base (a.add t) (b.add t) := by
  have pushed := grafted.push (.term t) a.flags
  cases grafted <;> exact pushed

theorem rename (grafted : Grafted base a b) (fresh : ∀ name ∈ names, name ∉ base.names) :
    Grafted base { a with names := names } { b with names := names ++ base.names } := by
  cases grafted with
  | undivided => exact .undivided fresh
  | divided => exact .divided fresh

theorem repeatLast? (grafted : Grafted base a b) {greedy : Bool} {low : Nat} {high : Option Nat}
    {a' : Alternatives} (repeats : a.repeatLast? greedy low high = some a') :
    ∃ b', b.repeatLast? greedy low high = some b' ∧ Grafted base a' b' := by
  unfold Alternatives.repeatLast? at repeats
  split at repeats
  · rename_i t rest parts
    obtain rfl := Option.some.inj repeats
    cases grafted with
    | @undivided _ flags _ fresh =>
      obtain rfl := parts
      exact ⟨_, rfl, @undivided base (.term (t.repetition greedy low high) :: rest) flags _ fresh⟩
    | @divided others first _ flags _ fresh =>
      obtain rfl := parts
      exact ⟨_, rfl,
        @divided base others first (.term (t.repetition greedy low high) :: rest) flags _ fresh⟩
  · cases repeats

/-- Alternatives behind an opening parenthesis begin anew. -/
theorem inner (flags : Flags) (fresh : ∀ name ∈ names, name ∉ base.names) :
    Grafted (.begin flags base.names) (.begin flags names) (.begin flags (names ++ base.names)) :=
  @undivided (.begin flags base.names) [] flags names fresh

theorem term_eq (grafted : Grafted (.begin flags names) a b) : b.term = a.term := by
  cases grafted <;> simp [Alternatives.term, Alternatives.current, Alternatives.begin]

end Grafted

variable {a a' b c : Alternatives} {fuel : Nat} {text rest post r : List Char}

/-- A text whose blanks are skipped already is read as the text with its blanks. -/
theorem alternatives_congr {text' : List Char} (same : b.flags.skip text = b.flags.skip text') :
    alternatives fuel b text = alternatives fuel b text' := by
  cases fuel with
  | zero => rfl
  | succ fuel => rw [alternatives_succ, alternatives_succ, same]

theorem alternatives_nil (read : alternatives fuel b [] = some (c, r)) : r = [] := by
  cases fuel with
  | zero => cases read
  | succ fuel =>
    rw [alternatives_succ, b.flags.skip_nil] at read
    exact (Prod.mk.inj (Option.some.inj read)).2.symm

/-- A closing parenthesis ends the alternatives. -/
theorem alternatives_closing (read : alternatives fuel b (')' :: text) = some (c, r)) :
    c = b ∧ r = ')' :: text := by
  cases fuel with
  | zero => cases read
  | succ fuel =>
    rw [alternatives_succ, b.flags.skip_closing .group] at read
    obtain ⟨rfl, rfl⟩ := Prod.mk.inj (Option.some.inj read)
    exact ⟨rfl, rfl⟩

theorem act_nil {token : Token} (read : act (alternatives fuel) b token [] = some (c, r)) :
    r = [] := by
  have enclosed {enclose : Term → Term} {flags : Flags} {names : List String}
      (read : act.enclosed (alternatives fuel) b enclose flags names [] = some (c, r)) : r = [] := by
    obtain ⟨⟨inner, left⟩, found, behind⟩ := Option.bind_eq_some_iff.mp read
    obtain rfl := alternatives_nil found
    cases behind
  cases token with
  | bar | setting | term => exact alternatives_nil read
  | cluster => exact enclosed read
  | group name =>
    simp only [act] at read
    split at read
    · cases read
    · exact enclosed read
  | again =>
    obtain ⟨_, -, read⟩ := Option.bind_eq_some_iff.mp read
    exact alternatives_nil read

/-- What a text leads to behind any alternatives: the text goes on as it does alone, or a comment at
its end swallows the end of the expression. -/
inductive Pastes (f : Nat → Alternatives → Reading Alternatives) (a : Alternatives)
    (text : List Char) (a' : Alternatives) (rest : List Char) : Prop where
  | whole (all : ∀ {base b post fuel found}, Closing post → Grafted base a b →
      f fuel b (text ++ post) = some found →
        ∃ b' fuel', Grafted base a' b' ∧ alternatives fuel' b' (rest ++ post) = some found)
  | swallowed (empty : rest = []) (all : ∀ {base b fuel found}, Grafted base a b →
      f fuel b (text ++ groupEnd) = some found → found.2 = [])

/-- One step in front of the rest of a text. -/
theorem Pastes.step {f g : Nat → Alternatives → Reading Alternatives} {text' : List Char}
    {a₀ : Alternatives} (pastes : Pastes g a text a' rest)
    (steps : ∀ {base b post fuel found}, Closing post → Grafted base a₀ b →
      f fuel b (text' ++ post) = some found →
        ∃ b' fuel', Grafted base a b' ∧ g fuel' b' (text ++ post) = some found) :
    Pastes f a₀ text' a' rest := by
  cases pastes with
  | whole all =>
    refine .whole fun closing grafted read => ?_
    obtain ⟨_, _, grafted, read⟩ := steps closing grafted read
    exact all closing grafted read
  | swallowed empty all =>
    refine .swallowed empty fun grafted read => ?_
    obtain ⟨_, _, grafted, read⟩ := steps closing_groupEnd grafted read
    exact all grafted read

/-- Reading the rest of a text is pasted. -/
def Further (fuel : Nat) : Prop :=
  ∀ {a text a' rest}, alternatives fuel a text = some (a', rest) → Pastes alternatives a text a' rest

/-- Groups are pasted, with new names for those among them that have one. -/
theorem pastes_enclosed (further : Further fuel) {enclose : Term → Term} {changed : Flags}
    {names : List String} (read : act.enclosed (alternatives fuel) a enclose changed
      (names ++ a.names) text = some (a', rest)) :
    Pastes (fun fuel b text => if names.any b.names.contains then none
      else act.enclosed (alternatives fuel) b enclose changed (names ++ b.names) text)
      a text a' rest := by
  obtain ⟨⟨inner, left⟩, found, behind⟩ := Option.bind_eq_some_iff.mp read
  dsimp only at behind
  split at behind
  · refine (further behind).step fun {base b post _ _} closing grafted read => ?_
    rw [Option.ite_none_left_eq_some] at read
    obtain ⟨new, read⟩ := read
    obtain ⟨⟨inner', left'⟩, found', behind'⟩ := Option.bind_eq_some_iff.mp read
    dsimp only at behind'
    split at behind'
    · have fresh : ∀ name ∈ names ++ a.names, name ∉ base.names := by
        intro name present
        rcases List.mem_append.mp present with extra | old
        · intro taken
          refine new (List.any_eq_true.mpr ⟨name, extra, List.contains_iff_mem.mpr ?_⟩)
          exact grafted.names_eq ▸ List.mem_append_right _ taken
        · exact grafted.fresh name old
      rw [grafted.names_eq, ← List.append_assoc] at found'
      cases further found with
      | swallowed empty => cases empty
      | whole all =>
        obtain ⟨_, _, grafted', read'⟩ := all closing (.inner changed fresh) found'
        obtain ⟨rfl, same⟩ := alternatives_closing read'
        obtain rfl := (List.cons.inj same).2
        refine ⟨_, _, ?_, behind'⟩
        have grafts := (grafted.add (enclose inner.term)).rename grafted'.fresh
        rwa [grafted'.term_eq, grafted'.names_eq]
    · cases behind'
  · cases behind

theorem pastes_act (further : Further fuel) {token : Token}
    (read : act (alternatives fuel) a token text = some (a', rest)) :
    Pastes (fun fuel b => act (alternatives fuel) b token) a text a' rest := by
  cases token with
  | bar => exact (further read).step fun _ grafted read => ⟨_, _, grafted.next, read⟩
  | setting changed =>
    exact (further read).step fun _ grafted read => ⟨_, _, grafted.push .setting changed, read⟩
  | cluster changed =>
    have pastes := @pastes_enclosed _ _ _ _ _ further .cluster changed [] read
    exact pastes.step fun _ grafted read => ⟨_, _, grafted, read⟩
  | group name =>
    obtain ⟨-, read⟩ := Option.ite_none_left_eq_some.mp read
    have pastes := @pastes_enclosed _ _ _ _ _ further (.group name) a.flags name.toList read
    refine pastes.step fun {_ b _ fuel' _} _ grafted read => ⟨b, fuel', grafted, ?_⟩
    have same : name.toList.any b.names.contains = name.any b.names.contains := by
      cases name <;> simp
    rw [same, ← grafted.flags_eq]
    exact read
  | term t => exact (further read).step fun _ grafted read => ⟨_, _, grafted.add t, read⟩
  | again greedy low high =>
    obtain ⟨_, repeats, read⟩ := Option.bind_eq_some_iff.mp read
    refine (further read).step fun _ grafted read' => ?_
    obtain ⟨_, repeats', grafted'⟩ := grafted.repeatLast? repeats
    simp only [act, repeats', Option.bind_some] at read'
    exact ⟨_, _, grafted', read'⟩

/-- Blanks in front of a character are skipped behind any alternatives. -/
theorem Grafted.skip_append {base : Alternatives} (grafted : Grafted base a b) {c : Char}
    (skips : a.flags.skip text = c :: rest) (closing : Closing post) :
    b.flags.skip (text ++ post) = c :: (rest ++ post) := by
  have skipped : Stands a.flags.skipping text () (c :: rest) :=
    a.flags.local_skipping.read (by rw [← skips]; rfl)
  have next := skipped.eq_of_ne_nil (List.cons_ne_nil _ _) closing
  rw [grafted.flags_eq]
  simpa [Flags.skipping] using next

/-- The end of a text is pasted. -/
theorem pastes_end (empty : a.flags.skip text = []) : Pastes alternatives a text a [] := by
  have skipped : Stands a.flags.skipping text () [] :=
    a.flags.local_skipping.read (by rw [← empty]; rfl)
  rcases skipped.stands with all | ⟨-, swallowed⟩
  · refine .whole fun {_ b post fuel _} closing grafted read => ⟨b, fuel, grafted, ?_⟩
    rw [← read]
    refine alternatives_congr ?_
    have skips := all closing
    simp only [Flags.skipping, Option.some_inj, Prod.mk.injEq, true_and] at skips
    rw [grafted.flags_eq, skips, List.nil_append, a.flags.skip_closing closing]
  · refine .swallowed rfl fun {_ b fuel found} grafted read => ?_
    simp only [Flags.skipping, Option.some_inj, Prod.mk.injEq, true_and] at swallowed
    rw [← grafted.flags_eq] at swallowed
    have nothing : alternatives fuel b [] = some found := by
      rw [← read]
      exact alternatives_congr (by rw [swallowed, b.flags.skip_nil])
    exact alternatives_nil nothing

/-- A closing parenthesis is left to the group that it closes. -/
theorem pastes_closing (skips : a.flags.skip text = ')' :: rest) :
    Pastes alternatives a text a (')' :: rest) := by
  refine .whole fun {_ b _ fuel _} closing grafted read => ⟨b, fuel, grafted, ?_⟩
  rw [← read]
  refine alternatives_congr ?_
  rw [grafted.skip_append skips closing]
  exact b.flags.skip_closing .group

/-- A token is pasted, and what it does with the rest of the text. -/
theorem pastes_token (further : Further fuel) {c : Char} {token : Token} {left : List Char}
    (skips : a.flags.skip text = c :: r) (goes : c ≠ ')')
    (found : Reader.token a.flags c r = some (token, left))
    (read : act (alternatives fuel) a token left = some (a', rest)) :
    Pastes alternatives a text a' rest := by
  obtain ⟨-, stands⟩ := (local_token a.flags c).read found
  have behind {base b : Alternatives} {post : List Char} {fuel : Nat}
      {found : Alternatives × List Char} (grafted : Grafted base a b) (closing : Closing post)
      (read : alternatives fuel b (text ++ post) = some found) : ∃ fuel',
        ((Reader.token a.flags c (r ++ post)).bind fun found =>
          act (alternatives fuel') b found.1 found.2) = some found := by
    cases fuel with
    | zero => cases read
    | succ fuel' =>
      rw [alternatives_succ, grafted.skip_append skips closing, grafted.flags_eq] at read
      exact ⟨fuel', by simpa [goes] using read⟩
  rcases stands with all | ⟨rfl, swallowed⟩
  · refine (pastes_act further read).step fun {_ b _ _ _} closing grafted read => ?_
    obtain ⟨fuel', read⟩ := behind grafted closing read
    rw [all closing] at read
    exact ⟨b, fuel', grafted, read⟩
  · refine .swallowed (act_nil read) fun grafted read => ?_
    obtain ⟨fuel', read⟩ := behind grafted closing_groupEnd read
    rw [swallowed] at read
    exact act_nil read

/-- What is an expression in itself is pasted. -/
theorem pastes (fuel : Nat) : Further fuel := by
  induction fuel with
  | zero => nofun
  | succ fuel further =>
    intro a text a' rest read
    rw [alternatives_succ] at read
    split at read
    · rename_i empty
      obtain ⟨rfl, rfl⟩ := Prod.mk.inj (Option.some.inj read)
      exact pastes_end empty
    · rename_i c text' skips
      split at read
      · subst c
        obtain ⟨rfl, rfl⟩ := Prod.mk.inj (Option.some.inj read)
        exact pastes_closing skips
      · rename_i goes
        obtain ⟨⟨token, left⟩, found, read⟩ := Option.bind_eq_some_iff.mp read
        exact pastes_token further skips goes found read

end PathEdit.Regex.Reader
