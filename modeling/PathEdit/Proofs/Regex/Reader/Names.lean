import PathEdit.Proofs.Regex.Groups
import PathEdit.Proofs.Regex.Reader.Paste

/-! The names of the groups that a reader knows are those of all groups in what it read. -/
namespace PathEdit.Regex

namespace Alternatives

/-- The names of the groups in what was read so far. -/
def groups (b : Alternatives) : List String :=
  b.finished.flatMap (·.expression.groups) ++ b.parts.flatMap (·.expression.groups)

variable {a b : Alternatives}

theorem groups_sequence (parts : List Part) :
    (Part.sequence parts).expression.groups = parts.flatMap (·.expression.groups) := by
  simp [Part.sequence, Expression.groups_ofSequence, List.flatMap_map]

theorem groups_current_subset (b : Alternatives) : b.current.expression.groups ⊆ b.groups := by
  rw [current, groups_sequence]
  intro name present
  simp only [List.mem_flatMap, List.mem_reverse] at present
  exact List.mem_append_right _ (List.mem_flatMap.mpr present)

theorem groups_next_subset (b : Alternatives) : b.next.groups ⊆ b.groups := by
  simp only [next, groups, List.flatMap_cons, List.flatMap_nil, List.append_nil]
  exact List.append_subset.mpr ⟨b.groups_current_subset, List.subset_append_left _ _⟩

theorem groups_choice_subset (options : List Term) :
    (Term.choice options).expression.groups ⊆ options.flatMap (·.expression.groups) := by
  unfold Term.choice
  split
  · simp
  · rw [← List.flatMap_map]
    exact Expression.groups_ofChoice_subset _

theorem groups_term_subset (b : Alternatives) : b.term.expression.groups ⊆ b.groups := by
  refine List.Subset.trans (groups_choice_subset _) fun name present => ?_
  obtain ⟨t, inside, named⟩ := List.mem_flatMap.mp present
  rcases List.mem_cons.mp (List.mem_reverse.mp inside) with rfl | earlier
  · exact b.groups_current_subset named
  · exact List.mem_append_left _ (List.mem_flatMap.mpr ⟨t, earlier, named⟩)

theorem groups_repeatLast?_subset {greedy : Bool} {low : Nat} {high : Option Nat}
    (repeats : b.repeatLast? greedy low high = some a) : a.groups ⊆ b.groups ∧ a.names = b.names := by
  unfold repeatLast? at repeats
  split at repeats
  · rename_i t rest parts
    obtain rfl := Option.some.inj repeats
    refine ⟨?_, rfl⟩
    simp only [groups, parts, List.flatMap_cons]
    have body := Expression.groups_ofRepetition_subset greedy low high t.expression
    intro name present
    rcases List.mem_append.mp present with earlier | present
    · exact List.mem_append_left _ earlier
    · rcases List.mem_append.mp present with last | present
      · exact List.mem_append_right _ (List.mem_append_left _ (body last))
      · exact List.mem_append_right _ (List.mem_append_right _ present)
  · cases repeats

theorem groups_add (b : Alternatives) (t : Term) (names : List String) :
    groups { b.add t with names := names } ⊆ t.expression.groups ++ b.groups := by
  intro name present
  simp only [groups, add, List.flatMap_cons, List.mem_append] at present ⊢
  change _ ∨ name ∈ t.expression.groups ∨ _ at present
  tauto

/-- All groups are known by name. -/
def Named (b : Alternatives) : Prop := b.groups ⊆ b.names

end Alternatives

namespace Reader

open Alternatives

variable {a b c : Alternatives} {fuel : Nat} {text rest : List Char}

theorem groups_of_primitive {flags : Flags} {e : Expression}
    (read : primitive flags text = some (e, rest)) : e.groups = [] := by
  unfold primitive at read
  split at read
  · cases read
  · obtain ⟨set, -, same⟩ := Option.map_eq_some_iff.mp read
    obtain ⟨rfl, -⟩ := Prod.mk.inj same
    exact Expression.groups_ofSet set
  · obtain ⟨rfl, -⟩ := Prod.mk.inj (Option.some.inj read)
    rfl
  · obtain ⟨rfl, -⟩ := Prod.mk.inj (Option.some.inj read)
    rfl
  · obtain ⟨⟨atom, behind⟩, -, read⟩ := Option.bind_eq_some_iff.mp read
    cases atom with
    | literal c =>
      obtain ⟨set, -, same⟩ := Option.map_eq_some_iff.mp read
      obtain ⟨rfl, -⟩ := Prod.mk.inj same
      exact Expression.groups_ofSet set
    | set set =>
      obtain ⟨rfl, -⟩ := Prod.mk.inj (Option.some.inj read)
      exact Expression.groups_ofSet set
    | look =>
      obtain ⟨rfl, -⟩ := Prod.mk.inj (Option.some.inj read)
      rfl
  · obtain ⟨set, -, same⟩ := Option.map_eq_some_iff.mp read
    obtain ⟨rfl, -⟩ := Prod.mk.inj same
    exact Expression.groups_ofSet set

theorem groups_of_token {flags : Flags} {c : Char} {t : Term}
    (read : token flags c text = some (.term t, rest)) : t.expression.groups = [] := by
  have repeats {low : Nat} {high : Option Nat} {text : List Char}
      (read : again flags low high text = some (.term t, rest)) : t.expression.groups = [] := by
    cases read
  unfold token at read
  split at read
  · cases read
  split at read
  · obtain ⟨⟨opening, behind⟩, -, same⟩ := Option.map_eq_some_iff.mp read
    cases opening <;> cases same
  split at read
  · obtain ⟨⟨item, behind⟩, -, same⟩ := Option.map_eq_some_iff.mp read
    obtain ⟨same, -⟩ := Prod.mk.inj same
    obtain rfl := Token.term.inj same
    exact Expression.groups_ofSet item.set
  split at read
  · exact repeats read
  split at read
  · exact repeats read
  split at read
  · exact repeats read
  split at read
  · obtain ⟨⟨bounds, behind⟩, -, read⟩ := Option.bind_eq_some_iff.mp read
    exact repeats read
  · obtain ⟨⟨e, behind⟩, found, same⟩ := Option.map_eq_some_iff.mp read
    obtain ⟨same, -⟩ := Prod.mk.inj same
    obtain rfl := Token.term.inj same
    exact groups_of_primitive found

/-- What is read keeps all groups known, and forgets no name. -/
def Knows (read : Alternatives → Reading Alternatives) : Prop :=
  ∀ b {text c rest}, read b text = some (c, rest) → b.Named → c.Named ∧ b.names ⊆ c.names

theorem knows_enclosed {read : Alternatives → Reading Alternatives} (knows : Knows read)
    {enclose : Term → Term} {flags : Flags} {names : List String} (more : b.names ⊆ names)
    (encloses : ∀ t, (enclose t).expression.groups ⊆ names ++ t.expression.groups)
    (found : act.enclosed read b enclose flags names text = some (c, rest)) (named : b.Named) :
    c.Named ∧ b.names ⊆ c.names := by
  obtain ⟨⟨inner, left⟩, inside, behind⟩ := Option.bind_eq_some_iff.mp found
  dsimp only at behind
  split at behind
  · obtain ⟨named', more'⟩ := knows _ inside (List.nil_subset _)
    have known : Named { b.add (enclose inner.term) with names := inner.names } := by
      refine List.Subset.trans (groups_add b _ _) (List.append_subset.mpr ⟨?_, ?_⟩)
      · refine List.Subset.trans (encloses _) (List.append_subset.mpr ⟨more', ?_⟩)
        exact List.Subset.trans inner.groups_term_subset named'
      · exact List.Subset.trans named (List.Subset.trans more more')
    obtain ⟨named'', more''⟩ := knows _ behind known
    exact ⟨named'', List.Subset.trans more (List.Subset.trans more' more'')⟩
  · cases behind

theorem knows_act {read : Alternatives → Reading Alternatives} (knows : Knows read) {token : Token}
    (termed : ∀ t, token = .term t → t.expression.groups = [])
    (found : act read b token text = some (c, rest)) (named : b.Named) :
    c.Named ∧ b.names ⊆ c.names := by
  cases token with
  | bar => exact knows b.next found (List.Subset.trans b.groups_next_subset named)
  | setting changed => exact knows { b with flags := changed, parts := .setting :: b.parts } found named
  | cluster changed =>
    refine knows_enclosed knows (List.Subset.refl _) (fun t => ?_) found named
    exact List.subset_append_right b.names t.expression.groups
  | group name =>
    obtain ⟨-, found⟩ := Option.ite_none_left_eq_some.mp found
    refine knows_enclosed knows (List.subset_append_right _ _) (fun t => ?_) found named
    cases name with
    | none => exact List.subset_append_right _ _
    | some name =>
      exact List.cons_subset_cons name (List.subset_append_right b.names t.expression.groups)
  | term t =>
    refine knows (b.add t) found (List.Subset.trans (groups_add b t b.names) ?_)
    rw [termed t rfl]
    exact named
  | again greedy low high =>
    obtain ⟨_, repeats, found⟩ := Option.bind_eq_some_iff.mp found
    obtain ⟨fewer, same⟩ := groups_repeatLast?_subset repeats
    rw [← same]
    exact knows _ found (List.Subset.trans fewer (same ▸ named))

theorem knows (fuel : Nat) : Knows (alternatives fuel) := by
  induction fuel with
  | zero =>
    intro b text c rest read
    cases read
  | succ fuel ih =>
    intro b text c rest read named
    rw [alternatives_succ] at read
    split at read
    · obtain ⟨rfl, -⟩ := Prod.mk.inj (Option.some.inj read)
      exact ⟨named, List.Subset.refl _⟩
    · split at read
      · obtain ⟨rfl, -⟩ := Prod.mk.inj (Option.some.inj read)
        exact ⟨named, List.Subset.refl _⟩
      · obtain ⟨⟨token, text''⟩, found, read⟩ := Option.bind_eq_some_iff.mp read
        dsimp only at read
        refine knows_act ih (fun t same => ?_) read named
        obtain rfl : token = .term t := same
        exact groups_of_token found

/-- Without groups in either part there are none behind the other. -/
theorem Grafted.groups_eq_nil {base : Alternatives} (grafted : Grafted base a b)
    (alone : a.groups = []) (before : base.groups = []) : b.groups = [] := by
  rw [Alternatives.groups, List.append_eq_nil_iff] at before
  cases grafted with
  | undivided => simp_all [Alternatives.groups]
  | divided => simp_all [Alternatives.groups, Alternatives.groups_sequence]

end Reader
end PathEdit.Regex
