import PathEdit.Regex.Matching

/-! The runs of a pattern, whatever order they are tried in. A run takes a piece of a text out of
its surroundings and leaves a trace of group boundaries. What may still happen at a place of a text
is a prospect, and the prospects in front of a pattern are composed as the pattern is. -/
namespace PathEdit.Regex

/-- A run of a pattern over `read`, with the rest of the text before and behind it. The last two
indices are the boundaries that it passes and the number of its elementary steps. -/
inductive Run : Pattern → (before read after : List Char) → Trace → Nat → Prop where
  | empty : Run .empty before [] after [] 1
  | char {set : CharSet} (member : set.contains c = true) : Run (.char set) before [c] after [] 1
  | look {look : Look}
      (holds : look.holds ⟨before.length, before.getLast?, after.head?⟩ = true) :
      Run (.look look) before [] after [] 1
  | seq (first : Run a before x (y ++ after) t m) (second : Run b (before ++ x) y after u n) :
      Run (.seq a b) before (x ++ y) after (t ++ u) (m + n)
  | preferred (run : Run a before x after t n) : Run (.alt a b) before x after t n
  | other (run : Run b before x after t n) : Run (.alt a b) before x after t n
  | once (run : Run a before x after t n) : Run (.plus greedy a) before x after t n
  | again (first : Run a before x (y ++ after) t m)
      (rest : Run (.plus greedy a) (before ++ x) y after u n) :
      Run (.plus greedy a) before (x ++ y) after (t ++ u) (m + n)
  | stop : Run (.star greedy a) before [] after [] 1
  | turn (first : Run a before x (y ++ after) t m)
      (rest : Run (.star greedy a) (before ++ x) y after u n) :
      Run (.star greedy a) before (x ++ y) after (t ++ u) (m + n)
  | group (run : Run a before x after t n) :
      Run (.group name a) before x after
        (⟨name, true, before.length⟩ :: (t ++ [⟨name, false, (before ++ x).length⟩])) n

/-- What may happen from one place on: the traces of the ways to the end of the match, with their
numbers of steps. -/
abbrev Prospect := Trace → Nat → Prop

namespace Prospect

/-- No way at all. -/
abbrev none : Prospect := fun _ _ => False

def or (left right : Prospect) : Prospect := fun t n => left t n ∨ right t n

/-- A prospect behind one more step. -/
def late (prospect : Prospect) : Prospect := fun t n => ∃ m, n = m + 1 ∧ prospect t m

/-- A prospect behind a boundary of a group. -/
def behind (b : Boundary) (prospect : Prospect) : Prospect := fun t n =>
  ∃ u, t = b :: u ∧ prospect u n

end Prospect

/-- The prospects at all places of a text between two parts of a pattern. -/
abbrev Goal := (before after : List Char) → Prospect

namespace Goal

/-- The end of the whole match. -/
def done : Goal := fun _ _ t n => t = [] ∧ n = 0

/-- A goal behind the end of a group. -/
def closing (name : String) (goal : Goal) : Goal := fun before after =>
  .behind ⟨name, false, before.length⟩ (goal before after)

/-- A goal at some place from here on. -/
def somewhere (goal : Goal) : Goal := fun before after t n =>
  ∃ skipped rest, after = skipped ++ rest ∧ goal (before ++ skipped) rest t n

theorem somewhere_nil_iff {goal : Goal} :
    goal.somewhere before [] t n ↔ goal before [] t n := by
  constructor
  · intro ahead
    obtain ⟨skipped, rest, same, may⟩ := ahead
    obtain ⟨rfl, rfl⟩ := List.nil_eq_append_iff.mp same
    simpa using may
  · intro may
    exact ⟨[], [], rfl, by simpa using may⟩

theorem somewhere_cons_iff {goal : Goal} : goal.somewhere before (c :: after) t n ↔
    (goal before (c :: after)).or (goal.somewhere (before ++ [c]) after) t n := by
  constructor
  · intro ahead
    obtain ⟨skipped, rest, same, may⟩ := ahead
    cases skipped with
    | nil => exact .inl (by simpa [same] using may)
    | cons first skipped =>
      obtain ⟨rfl, behind⟩ := List.cons.inj same
      exact .inr ⟨skipped, rest, behind, by simpa using may⟩
  · intro ahead
    rcases ahead with may | ⟨skipped, rest, rfl, may⟩
    · exact ⟨[], _, rfl, by simpa using may⟩
    · exact ⟨c :: skipped, rest, rfl, by simpa using may⟩

end Goal

/-- The prospects in front of a pattern, with `goal` behind it. -/
inductive Ahead (a : Pattern) (goal : Goal) : Goal where
  | intro (run : Run a before x after t m) (rest : goal (before ++ x) after u n) :
      Ahead a goal before (x ++ after) (t ++ u) (m + n)

namespace Ahead

variable {goal : Goal} {before after : List Char} {t : Trace} {n : Nat}

theorem empty_iff : Ahead .empty goal before after t n ↔ (goal before after).late t n := by
  constructor
  · intro ahead
    obtain ⟨run, rest⟩ := ahead
    cases run
    exact ⟨_, Nat.add_comm .., by simpa using rest⟩
  · intro ahead
    obtain ⟨m, rfl, rest⟩ := ahead
    have ahead : Ahead .empty goal before ([] ++ after) ([] ++ t) (1 + m) :=
      .intro .empty (by simpa using rest)
    simpa [Nat.add_comm] using ahead

theorem look_iff {look : Look} : Ahead (.look look) goal before after t n ↔
    look.holds ⟨before.length, before.getLast?, after.head?⟩ = true ∧
      (goal before after).late t n := by
  constructor
  · intro ahead
    obtain ⟨run, rest⟩ := ahead
    cases run with
    | look holds => exact ⟨holds, _, Nat.add_comm .., by simpa using rest⟩
  · intro ahead
    obtain ⟨holds, m, rfl, rest⟩ := ahead
    simpa [Nat.add_comm] using Ahead.intro (Run.look holds) (by simpa using rest)

theorem char_nil {set : CharSet} : ¬ Ahead (.char set) goal before [] t n := by
  generalize empty : ([] : List Char) = rest
  intro ahead
  obtain ⟨run, _⟩ := ahead
  cases run
  simp at empty

theorem char_cons_iff {set : CharSet} : Ahead (.char set) goal before (c :: after) t n ↔
    set.contains c = true ∧ (goal (before ++ [c]) after).late t n := by
  constructor
  · generalize same : c :: after = text
    intro ahead
    obtain ⟨run, rest⟩ := ahead
    cases run with
    | char member =>
      cases same
      exact ⟨member, _, Nat.add_comm .., rest⟩
  · intro ahead
    obtain ⟨member, m, rfl, rest⟩ := ahead
    simpa [Nat.add_comm] using Ahead.intro (Run.char member) rest

theorem seq_iff : Ahead (.seq a b) goal before after t n ↔
    Ahead a (Ahead b goal) before after t n := by
  constructor
  · intro ahead
    obtain ⟨run, rest⟩ := ahead
    cases run with
    | seq first second =>
      rw [List.append_assoc, List.append_assoc, Nat.add_assoc]
      exact .intro first (.intro second (by simpa using rest))
  · intro ahead
    obtain ⟨first, second⟩ := ahead
    obtain ⟨second, rest⟩ := second
    rw [← List.append_assoc, ← List.append_assoc, ← Nat.add_assoc]
    exact .intro (.seq first second) (by simpa using rest)

theorem alt_iff : Ahead (.alt a b) goal before after t n ↔
    (Ahead a goal before after).or (Ahead b goal before after) t n := by
  constructor
  · intro ahead
    obtain ⟨run, rest⟩ := ahead
    cases run with
    | preferred run => exact .inl (.intro run rest)
    | other run => exact .inr (.intro run rest)
  · intro ahead
    rcases ahead with ⟨run, rest⟩ | ⟨run, rest⟩
    · exact .intro (.preferred run) rest
    · exact .intro (.other run) rest

theorem plus_iff : Ahead (.plus greedy a) goal before after t n ↔
    Ahead a (fun before after => (goal before after).or
      (Ahead (.plus greedy a) goal before after)) before after t n := by
  constructor
  · intro ahead
    obtain ⟨run, rest⟩ := ahead
    cases run with
    | once run => exact .intro run (.inl rest)
    | again first more =>
      rw [List.append_assoc, List.append_assoc, Nat.add_assoc]
      exact .intro first (.inr (.intro more (by simpa using rest)))
  · intro ahead
    obtain ⟨first, rest | more⟩ := ahead
    · exact .intro (.once first) rest
    · obtain ⟨more, rest⟩ := more
      rw [← List.append_assoc, ← List.append_assoc, ← Nat.add_assoc]
      exact .intro (.again first more) (by simpa using rest)

theorem star_iff : Ahead (.star greedy a) goal before after t n ↔
    (Ahead a (Ahead (.star greedy a) goal) before after).or (goal before after).late t n := by
  constructor
  · intro ahead
    obtain ⟨run, rest⟩ := ahead
    cases run with
    | stop => exact .inr ⟨_, Nat.add_comm .., by simpa using rest⟩
    | turn first more =>
      rw [List.append_assoc, List.append_assoc, Nat.add_assoc]
      exact .inl (.intro first (.intro more (by simpa using rest)))
  · intro ahead
    rcases ahead with ⟨first, more⟩ | ⟨m, rfl, rest⟩
    · obtain ⟨more, rest⟩ := more
      rw [← List.append_assoc, ← List.append_assoc, ← Nat.add_assoc]
      exact .intro (.turn first more) (by simpa using rest)
    · have ahead : Ahead (.star greedy a) goal before ([] ++ after) ([] ++ t) (1 + m) :=
        .intro .stop (by simpa using rest)
      simpa [Nat.add_comm] using ahead

theorem group_iff : Ahead (.group name a) goal before after t n ↔
    Prospect.behind ⟨name, true, before.length⟩
      (Ahead a (goal.closing name) before after) t n := by
  constructor
  · intro ahead
    obtain ⟨run, rest⟩ := ahead
    cases run with
    | group run =>
      have closed : Ahead a (goal.closing name) _ _ _ _ := .intro run ⟨_, rfl, rest⟩
      exact ⟨_, List.cons_append .., by rwa [List.append_assoc]⟩
  · intro ahead
    obtain ⟨_, rfl, run, ⟨u, rfl, rest⟩⟩ := ahead
    have ahead : Ahead (.group name a) goal _ _ _ _ := .intro (.group run) rest
    simpa using ahead

end Ahead
end PathEdit.Regex
