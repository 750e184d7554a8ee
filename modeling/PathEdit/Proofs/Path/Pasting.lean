import PathEdit.Proofs.Path.Frame
import PathEdit.Proofs.Regex.Reader.Parses

/-! The patterns around a format that is an expression in itself. Such a format is read in each of its
places as it is read alone, so that its expression stands for a name in all of them. -/
namespace PathEdit.Frame

open Regex Regex.Reader

variable {a b c : Alternatives} {format text rest behind : List Char} {e : Expression}

/-! Parts of a path expression apart from the format. -/

/-- What stands between brackets, behind alternatives read so far. -/
def indexOptions (greedy : Bool) (b : Alternatives) : Alternatives :=
  ((b.add ((Term.mk (.set (.range 48 57)) 1).repetition greedy 1 none)).next).add
    (.leaf (.text ['*']))

def indexTerm (greedy : Bool) : Term := (indexOptions greedy (.begin .initial [])).term

theorem parses_index (parses : Parses b
    ('[' :: '0' :: '-' :: '9' :: ']' :: '+' :: '|' :: '\\' :: '*' :: ')' :: text) c (')' :: rest)) :
    c = indexOptions (!b.flags.swapGreed) b ∧ rest = text :=
  have repeats := parses.digit.again (by decide) (by decide) rfl (by simp) rfl
  (repeats.bar.escaped (by decide)).closed

theorem parses_brackets (parses : Parses b
    ('\\' :: '[' :: '(' :: '[' :: '0' :: '-' :: '9' :: ']' :: '+' :: '|' :: '\\' :: '*' :: ')' ::
      '\\' :: ']' :: text) c rest) :
    Parses (((b.add (.leaf (.text ['[']))).add
      (.group none (indexTerm (!b.flags.swapGreed)))).add (.leaf (.text [']']))) text c rest :=
  have inside := (parses.escaped (by decide)).unnamed ⟨_, _, rfl, by decide, by decide⟩ parses_index
  inside.escaped (by decide)

theorem parses_point (parses : Parses b ('(' :: '\\' :: '.' :: ')' :: text) c rest) :
    Parses (b.add (.group none (.leaf (.text ['.'])))) text c rest :=
  parses.unnamed ⟨_, _, rfl, by decide, by decide⟩ fun content =>
    (content.escaped (by decide)).closed

/-! Places of the format. -/

/-- A format that is read in all places as it is read alone. -/
structure Whole (format : List Char) (a : Alternatives) : Prop where
  pasted {base c : Alternatives} {post rest : List Char} (closing : Closing post)
    (initial : base.flags = .initial) (parses : Parses base (format ++ post) c rest) :
      ∃ b, Grafted base a b ∧ Parses b post c rest

/-- A format does not swallow what stands behind it, if a group around it is closed. -/
theorem whole_of_group (alone : Parses (.begin .initial []) format a [])
    (initial : b.flags = .initial) (parses : Parses b (format ++ groupEnd) c (')' :: behind)) :
    Whole format a := by
  have start {base : Alternatives} (initial : base.flags = .initial) :
      Grafted base (.begin .initial []) base := initial ▸ Grafted.start
  obtain ⟨fuel, alone⟩ := alone
  cases pastes fuel alone with
  | whole all =>
    refine ⟨fun closing initial parses => ?_⟩
    obtain ⟨_, parses⟩ := parses
    obtain ⟨b, fuel, grafted, parses⟩ := all closing (start initial) parses
    exact ⟨b, grafted, fuel, parses⟩
  | swallowed empty all =>
    obtain ⟨_, parses⟩ := parses
    cases all (start initial) parses

theorem nameExpression_eq (format : List Char) : PathSyntax.nameExpression format =
    '^' :: '(' :: '?' :: 'P' :: '<' :: 'a' :: 't' :: 't' :: 'r' :: 'i' :: 'b' :: 'u' :: 't' :: 'e' ::
      '>' :: (format ++ groupEnd) := rfl

theorem name_of_read? (alone : Parses (.begin .initial []) format a [])
    (read : Expression.read? (PathSyntax.nameExpression format) = some e) :
    Whole format a ∧ ∃ b, Grafted (.begin .initial ["attribute"]) a b ∧
      e.pattern = lone b.term.expression.pattern := by
  obtain ⟨b, found, rfl⟩ := alternatives_of_read? read
  rw [nameExpression_eq] at found
  have parses : Parses _ _ b [] := ⟨_, found⟩
  obtain ⟨inner, behind, inside, parses⟩ := @parses.caret.group _ _ _ _ _ (some "attribute") rfl rfl
  have whole := whole_of_group alone rfl inside
  obtain ⟨b, grafted, parsed⟩ := whole.pasted .group rfl inside
  obtain ⟨rfl, rfl⟩ := parsed.closed
  obtain rfl := parses.dollar.empty
  exact ⟨whole, inner, grafted, rfl⟩

/-- The alternatives of a turn behind its point, which may be missing. -/
def turnStart : Alternatives :=
  ⟨[], [.term ((Term.group none (.leaf (.text ['.']))).repetition true 0 (some 1))], .initial,
    ["parent"]⟩

/-- The end of a turn, behind the format. -/
def turnEnd (b : Alternatives) : Alternatives :=
  ((b.next.add (.leaf (.text ['[']))).add (.group none (indexTerm (!b.flags.swapGreed)))).add
    (.leaf (.text [']']))

/-- The loop over turns. -/
def loopTerm (turn : Term) : Term :=
  Part.sequence [.term ((Term.group none (Part.sequence [.term (.group none turn)])).repetition
    true 0 none)]

/-- A path expression in front of the first of its two formats. -/
def front (text : List Char) : List Char :=
  '^' :: '(' :: '?' :: 'P' :: '<' :: 'p' :: 'a' :: 'r' :: 'e' :: 'n' :: 't' :: '>' :: '(' :: '(' ::
    '(' :: '\\' :: '.' :: ')' :: '?' :: text

/-- A path expression from the first last step on. -/
def middle (text : List Char) : List Char :=
  '(' :: '(' :: '\\' :: '.' :: ')' :: '(' :: '?' :: 'P' :: '<' :: 'a' :: 't' :: 't' :: 'r' :: 'i' ::
    'b' :: 'u' :: 't' :: 'e' :: '>' :: text

/-- A path expression behind the first of its two formats. -/
def turnText (text : List Char) : List Char :=
  '|' :: '\\' :: '[' :: '(' :: '[' :: '0' :: '-' :: '9' :: ']' :: '+' :: '|' :: '\\' :: '*' :: ')' ::
    '\\' :: ']' :: ')' :: ')' :: '*' :: ')' :: text

/-- A path expression behind the second of its two formats. -/
def back : List Char :=
  ')' :: '|' :: '(' :: '\\' :: '[' :: '(' :: '?' :: 'P' :: '<' :: 'i' :: 'n' :: 'd' :: 'e' :: 'x' ::
    '>' :: '(' :: '[' :: '0' :: '-' :: '9' :: ']' :: '+' :: '|' :: '\\' :: '*' :: ')' :: ')' ::
    '\\' :: ']' :: ')' :: ')' :: '$' :: []

theorem pathExpression_eq (format : List Char) : PathSyntax.pathExpression format =
    front (format ++ turnText (middle (format ++ back))) := by
  have regroup {first second third : List Char} (leads : ∀ text, first ++ text = front text)
      (joins : ∀ text, second ++ text = turnText (middle text)) (ends : third = back) :
      first ++ format ++ second ++ format ++ third =
        front (format ++ turnText (middle (format ++ back))) := by
    simp [← leads, ← joins, ends]
  exact regroup (fun _ => rfl) (fun _ => rfl) rfl

/-- The turns in front of the last step. -/
theorem parses_turns (whole : Whole format a) (unquestioned : format.head? ≠ some '?')
    (parses : Parses (.begin .initial ["parent"])
      ('(' :: '(' :: '(' :: '\\' :: '.' :: ')' :: '?' :: (format ++ turnText text)) c (')' :: rest)) :
    ∃ b, Grafted turnStart a b ∧ c.term = loopTerm (turnEnd b).term ∧ c.names = b.names ∧
      rest = text := by
  obtain ⟨outer, rest₂, inside, loop⟩ := @parses.group _ _ _ _ _ none rfl rfl
  obtain ⟨turn, rest₃, inside, turns⟩ := @inside.group _ _ _ _ _ none rfl rfl
  have unmarked : (format ++ turnText text).head? ≠ some '?' :=
    Closing.alternative.head?_append unquestioned (by decide)
  have pointed := @(parses_point inside).again _ _ _ _ _ 0 (some 1) _ _ (by decide) (by decide) rfl
    unmarked rfl
  obtain ⟨b, grafted, pasted⟩ := @whole.pasted turnStart _ _ _ .alternative rfl pointed
  obtain ⟨rfl, rfl⟩ := (parses_brackets pasted.bar).closed
  obtain ⟨rfl, rfl⟩ := turns.closed
  have looped := @loop.again _ _ _ _ _ 0 none _ _ (by decide) (by decide) rfl (by simp) rfl
  obtain ⟨rfl, rfl⟩ := looped.closed
  exact ⟨b, grafted, rfl, rfl, rfl⟩

/-- The alternatives of a last step around a name. -/
def lastOptions (name : Term) (b : Alternatives) : Alternatives :=
  let brackets : Term := Part.sequence [.term (.leaf (.text ['['])),
    .term (.group (some "index") (Part.sequence [.term (.group none (indexTerm true))])),
    .term (.leaf (.text [']']))]
  (((b.add (.group none (.leaf (.text ['.'])))).add (.group (some "attribute") name)).next).add
    (.group none brackets)

theorem parses_last (whole : Whole format a) {names : List String}
    (parses : Parses (.begin .initial names)
      ('(' :: '\\' :: '.' :: ')' :: '(' :: '?' :: 'P' :: '<' :: 'a' :: 't' :: 't' :: 'r' :: 'i' ::
        'b' :: 'u' :: 't' :: 'e' :: '>' :: (format ++ back)) c (')' :: rest)) :
    ∃ b, Grafted (.begin .initial ("attribute" :: names)) a b ∧
      c.term = (lastOptions b.term (.begin .initial names)).term ∧ rest = ['$'] := by
  obtain ⟨name, rest₂, inside, further⟩ :=
    @(parses_point parses).group _ _ _ _ _ (some "attribute") rfl rfl
  obtain ⟨b, grafted, pasted⟩ := whole.pasted .group rfl inside
  obtain ⟨rfl, rfl⟩ := pasted.closed
  obtain ⟨brackets, rest₃, inside, further⟩ := @further.bar.group _ _ _ _ _ none rfl rfl
  obtain ⟨index, rest₄, inside, closed⟩ :=
    @(inside.escaped (by decide)).group _ _ _ _ _ (some "index") rfl rfl
  have indexed := inside.unnamed ⟨_, _, rfl, by decide, by decide⟩ parses_index
  obtain ⟨rfl, rfl⟩ := indexed.closed
  obtain ⟨rfl, rfl⟩ := (closed.escaped (by decide)).closed
  obtain ⟨rfl, rfl⟩ := further.closed
  exact ⟨name, grafted, rfl, rfl⟩

theorem path_of_read? (whole : Whole format a) (unquestioned : format.head? ≠ some '?')
    (read : Expression.read? (PathSyntax.pathExpression format) = some e) :
    ∃ b₁ b₂, Grafted turnStart a b₁ ∧ Grafted (.begin .initial ("attribute" :: b₁.names)) a b₂ ∧
      e.pattern = path (loopTerm (turnEnd b₁).term).expression.pattern
        b₂.term.expression.pattern := by
  obtain ⟨b, found, rfl⟩ := alternatives_of_read? read
  rw [pathExpression_eq] at found
  have parses : Parses _ _ b [] := ⟨_, found⟩
  obtain ⟨parent, rest, inside, parses⟩ := @parses.caret.group _ _ _ _ _ (some "parent") rfl rfl
  obtain ⟨b₁, grafted₁, loop, names, rfl⟩ := parses_turns whole unquestioned inside
  obtain ⟨last, rest, inside, parses⟩ := @parses.group _ _ _ _ _ none rfl rfl
  obtain ⟨b₂, grafted₂, ends, rfl⟩ := parses_last whole inside
  obtain rfl := parses.dollar.empty
  refine ⟨b₁, b₂, grafted₁, names ▸ grafted₂, ?_⟩
  rw [loop, ends]
  rfl

/-! The format itself. -/

/-- A format that stands alone does not begin with a repetition. -/
theorem unquestioned (alone : Parses (.begin .initial []) format a []) :
    format.head? ≠ some '?' := by
  intro question
  obtain ⟨text, rfl⟩ := List.head?_eq_some_iff.mp question
  obtain ⟨fuel, alone⟩ := @alone.act _ _ _ _ _ _ _ (by decide) (by decide) rfl
  cases alone

/-- A format that stands twice in a path expression names no groups. -/
theorem names_eq_nil {b₁ b₂ : Alternatives} (first : Grafted turnStart a b₁)
    (second : Grafted (.begin .initial ("attribute" :: b₁.names)) a b₂) : a.names = [] := by
  refine List.eq_nil_iff_forall_not_mem.mpr fun name present => ?_
  refine second.fresh name present (List.mem_cons_of_mem _ ?_)
  rw [first.names_eq]
  exact List.mem_append_left _ present

theorem groups_eq_nil (alone : Parses (.begin .initial []) format a []) (unnamed : a.names = []) :
    a.groups = [] := by
  obtain ⟨fuel, alone⟩ := alone
  have named := (knows fuel _ alone (List.nil_subset _)).1
  exact List.subset_nil.mp (unnamed ▸ named)

theorem groups_loopTerm_subset (b : Alternatives) :
    (loopTerm (turnEnd b).term).expression.groups ⊆ b.groups := by
  have turn : (loopTerm (turnEnd b).term).expression.groups ⊆
      (turnEnd b).term.expression.groups := by
    rw [loopTerm, Alternatives.groups_sequence, List.flatMap_singleton]
    refine List.Subset.trans (Expression.groups_ofRepetition_subset _ _ _ _) ?_
    change (Part.sequence _).expression.groups ⊆ _
    rw [Alternatives.groups_sequence, List.flatMap_singleton]
    exact List.Subset.refl _
  refine List.Subset.trans turn (List.Subset.trans (turnEnd b).groups_term_subset ?_)
  exact b.groups_next_subset

variable {s : PathSyntax} {format : String}

theorem patterns_of_format (accepted : PathSyntax.ofFormat? format = some s)
    (alone : Parses (.begin .initial []) format.toList a []) :
    a.groups = [] ∧ s.name = lone a.term.expression.pattern ∧ ∃ b, Grafted turnStart a b ∧
      s.path = path (loopTerm (turnEnd b).term).expression.pattern a.term.expression.pattern := by
  have expression {text : List Char} {p : Pattern} (found : Pattern.read? text = some p) :
      ∃ e, Expression.read? text = some e ∧ e.pattern = p := by
    obtain ⟨e, admitted, same⟩ := Option.map_eq_some_iff.mp found
    exact ⟨e, (Option.filter_eq_some_iff.mp admitted).1, same⟩
  obtain ⟨path, found_path, accepted⟩ := Option.bind_eq_some_iff.mp accepted
  obtain ⟨name, found_name, accepted⟩ := Option.bind_eq_some_iff.mp accepted
  obtain rfl := Option.some.inj accepted
  obtain ⟨_, read_path, rfl⟩ := expression found_path
  obtain ⟨_, read_name, rfl⟩ := expression found_name
  obtain ⟨whole, b₃, grafted₃, lone⟩ := name_of_read? alone read_name
  obtain ⟨b₁, b₂, grafted₁, grafted₂, path⟩ := path_of_read? whole (unquestioned alone) read_path
  rw [grafted₃.term_eq] at lone
  rw [grafted₂.term_eq] at path
  exact ⟨groups_eq_nil alone (names_eq_nil grafted₁ grafted₂), lone, b₁, grafted₁, path⟩

/-- The patterns around a format that is an expression in itself have no groups but their own. -/
theorem path_of_format (accepted : PathSyntax.ofFormat? format = some s)
    (read : Expression.read? format.toList = some e) :
    s.name = lone e.pattern ∧ e.groups = [] ∧
      ∃ loop, s.path = path loop e.pattern ∧ loop.groups = [] := by
  obtain ⟨a, alone, rfl⟩ := alternatives_of_read? read
  obtain ⟨unnamed, lone, b, grafted, path⟩ := patterns_of_format accepted ⟨_, alone⟩
  refine ⟨lone, List.subset_nil.mp (unnamed ▸ a.groups_term_subset), _, path, ?_⟩
  have outside := grafted.groups_eq_nil unnamed rfl
  exact List.subset_nil.mp (outside ▸ groups_loopTerm_subset b)

section

variable {parts : List Part} {flags : Flags} {names : List String} {first : Expression}
  {others : List Expression}

/-- The two alternatives of a turn around a name that is not empty. -/
theorem expression_turnEnd (joined : Expression.joinTexts
      ((parts.reverse.map Part.expression).flatMap Expression.parts) = first :: others) :
    (turnEnd ⟨[], parts ++ turnStart.parts, flags, names⟩).term.expression =
      .choice [.sequence (turnStart.term.expression :: first :: others),
        .sequence [.text ['['], .group none (indexTerm !flags.swapGreed).expression,
          .text [']']]] := by
  have start : (Part.sequence (parts ++ turnStart.parts).reverse).expression =
      .sequence (turnStart.term.expression :: first :: others) := by
    have pointed : Expression.joinTexts (((parts ++ turnStart.parts).reverse.map
        Part.expression).flatMap Expression.parts) = turnStart.term.expression :: first :: others := by
      rw [List.reverse_append, List.map_append, List.flatMap_append]
      change Expression.joinTexts (turnStart.term.expression :: _) = _
      rw [← joined]
      rfl
    rw [Part.sequence, Expression.ofSequence, pointed]
  change Expression.ofChoice [(Part.sequence (parts ++ turnStart.parts).reverse).expression, _] = _
  rw [start]
  rfl

theorem pattern_loopTerm {turn : Term} {greedy : Bool}
    (options : turn.expression = .choice [.sequence (turnStart.term.expression :: first :: others),
      .sequence [.text ['['], .group none (indexTerm greedy).expression, .text [']']]]) :
    ∃ nullable, (loopTerm turn).expression.pattern =
      loop nullable greedy (Expression.sequencePattern (first :: others)) := by
  obtain ⟨expression, depth⟩ := turn
  obtain rfl : expression = _ := options
  exact ⟨_, rfl⟩

end

/-- A format without alternatives is one name in all places of a path, unless it is empty. -/
theorem frames_of_format (accepted : PathSyntax.ofFormat? format = some s)
    (read : Expression.read? format.toList = some e)
    (undivided : isDivided format.toList = false) : e = .empty ∨ s.Frames e.pattern := by
  obtain ⟨a, alone, rfl⟩ := alternatives_of_read? read
  obtain ⟨-, lone, b, grafted, path⟩ := patterns_of_format accepted ⟨_, alone⟩
  rw [isDivided, alone] at undivided
  cases grafted with
  | @undivided parts flags names fresh =>
    change (Part.sequence parts.reverse).expression = _ ∨
      s.Frames (Part.sequence parts.reverse).expression.pattern
    cases joined : Expression.joinTexts
        ((parts.reverse.map Part.expression).flatMap Expression.parts) with
    | nil =>
      left
      rw [Part.sequence, Expression.ofSequence, joined]
    | cons first others =>
      right
      have name : (Part.sequence parts.reverse).expression.pattern =
          Expression.sequencePattern (first :: others) := by
        rw [Part.sequence, Expression.ofSequence, joined]
        cases others <;> rfl
      obtain ⟨nullable, loop⟩ := pattern_loopTerm (expression_turnEnd joined)
      rw [name]
      refine ⟨name ▸ lone, nullable, !flags.swapGreed, path.trans ?_⟩
      exact congrArg₂ Frame.path loop name
  | divided => simp at undivided

end PathEdit.Frame
