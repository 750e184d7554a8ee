import PathEdit.Path.Syntax
import PathEdit.Proofs.Regex.Language
import PathEdit.Proofs.Regex.Loop

/-! The syntax of paths around the pattern of a name. A text is split in front of its last step,
and of several such places at the one furthest behind that names can be read up to. -/
namespace PathEdit.Frame

open Regex

def digitSet : CharSet := ⟨[⟨48, 57⟩]⟩

/-- What stands between brackets. -/
def index (greedy : Bool) : Pattern :=
  .alt (.seq .empty (.plus greedy (.char digitSet))) (.char (.single '*'))

def bracketed (inner : Pattern) : Pattern :=
  .seq (.char (.single '[')) (.seq inner (.char (.single ']')))

def lastStep (name : Pattern) : Pattern :=
  .alt (.seq (.char (.single '.')) (.group "attribute" name))
    (bracketed (.group "index" (index true)))

/-- A path whose steps before the last one are read in a loop. -/
def path (loop name : Pattern) : Pattern :=
  .leading "parent" loop (.seq (lastStep name) (.look .textEnd))

/-- The loop over the steps before the last one, in which names need no point in front. -/
def loop (nullable greedy : Bool) (name : Pattern) : Pattern :=
  .turns nullable (.single '.') name (bracketed (index greedy))

/-- A name that stands alone. -/
def lone (name : Pattern) : Pattern :=
  .seq (.look .textStart) (.seq (.group "attribute" name) (.look .textEnd))

end PathEdit.Frame

namespace PathEdit

open Regex
open scoped Computability

/-- A syntax with one pattern of names in all places, as one part of the patterns around it. -/
structure PathSyntax.Frames (s : PathSyntax) (name : Pattern) : Prop where
  lone : s.name = Frame.lone name
  path : ∃ nullable greedy, s.path = Frame.path (Frame.loop nullable greedy name) name

namespace Frame

/-- What the pattern admits between brackets. A number may still be too large. -/
def indexes : Language Char :=
  {text | (text ≠ [] ∧ ∀ c ∈ text, c.isDigit = true) ∨ text = ['*']}

/-- The texts of steps in which the names of a language need no point in front. -/
def stepsOf (language : Language Char) : Language Char :=
  {text | text ∈ language ∨ (∃ name ∈ language, text = '.' :: name) ∨
    ∃ index ∈ indexes, text = '[' :: (index ++ [']'])}

/-- The texts of last steps, with the steps that they are read as. -/
inductive Last (language : Language Char) : List Char → Option Step → Prop where
  | name (member : word ∈ language) : Last language ('.' :: word) (some (PathSyntax.keyStep word))
  | index {inner : List Char} (member : inner ∈ indexes) :
      Last language ('[' :: (inner ++ [']'])) (PathSyntax.index? inner)

variable {name : Pattern} {language : Language Char} {before after word text front last : List Char}
  {t : Trace} {step : Option Step}

theorem Last.ne_nil (last : Last language text step) : text ≠ [] := by
  cases last <;> exact List.cons_ne_nil _ _

theorem Last.mem_stepsOf (last : Last language text step) : text ∈ stepsOf language := by
  cases last with
  | name member => exact .inr (.inl ⟨_, member, rfl⟩)
  | index member => exact .inr (.inr ⟨_, member, rfl⟩)

theorem Last.unique {step' : Option Step} (last : Last language text step)
    (other : Last language text step') : step = step' := by
  generalize same : text = text' at other
  cases last with
  | name =>
    cases other with
    | name => rw [(List.cons.inj same).2]
    | index => simp at same
  | index =>
    cases other with
    | name => simp at same
    | index => rw [List.append_cancel_right (List.cons.inj same).2]

theorem isDigit_iff {c : Char} : c.isDigit = true ↔ 48 ≤ c.toNat ∧ c.toNat ≤ 57 := by
  have digit : c.isDigit = (decide (c.val ≥ '0'.val) && decide (c.val ≤ '9'.val)) := rfl
  simp only [digit, Bool.and_eq_true, decide_eq_true_iff, ge_iff_le, UInt32.le_iff_toNat_le]
  rfl

theorem contains_digitSet : digitSet.contains = Char.isDigit := by
  funext c
  apply Bool.eq_iff_iff.mpr
  simp [digitSet, CharSet.contains, CharSet.holds, CodeRange.holds, isDigit_iff]

theorem accepts_index (greedy : Bool) : Accepts (index greedy) indexes := by
  have digits := Accepts.empty.seq ((Accepts.char digitSet).plus greedy)
  refine (digits.alt (.char (.single '*'))).congr fun {text} => ?_
  rw [contains_single, contains_digitSet, Language.mem_add, one_mul, mem_chars_mul, mem_chars]
  constructor
  · intro membership
    rcases membership with ⟨nonempty, each⟩ | rfl
    · obtain ⟨c, rest, rfl⟩ := List.exists_cons_of_ne_nil nonempty
      obtain ⟨first, each⟩ := List.forall_mem_cons.mp each
      exact .inl ⟨c, rest, rfl, first, mem_kstar_chars.mpr each⟩
    · exact .inr ⟨'*', rfl, rfl⟩
  · intro membership
    rcases membership with ⟨c, rest, rfl, first, member⟩ | ⟨c, rfl, star⟩
    · exact .inl ⟨List.cons_ne_nil _ _, List.forall_mem_cons.mpr ⟨first, mem_kstar_chars.mp member⟩⟩
    · obtain rfl := eq_of_beq star
      exact .inr rfl

theorem accepts_turn (accepts : Accepts name language) (greedy : Bool) :
    Accepts (.turn (.single '.') name (bracketed (index greedy))) (stepsOf language) := by
  have point := (Accepts.char (.single '.')).seq .empty
  have named := (Accepts.empty.seq (point.alt .empty)).seq accepts
  have bracketed := (Accepts.char (.single '[')).seq ((accepts_index greedy).seq (.char (.single ']')))
  refine (named.alt bracketed).congr fun {text} => ?_
  rw [contains_single, contains_single, contains_single, Language.mem_add, mem_enclosed_iff,
    one_mul, mul_one, add_mul, one_mul, Language.mem_add, mem_chars_mul]
  constructor
  · intro membership
    rcases membership with name | ⟨name, member, rfl⟩ | index
    · exact .inl (.inr name)
    · exact .inl (.inl ⟨'.', name, rfl, rfl, member⟩)
    · exact .inr index
  · intro membership
    rcases membership with (⟨c, name, rfl, point, member⟩ | name) | index
    · obtain rfl := eq_of_beq point
      exact .inr (.inl ⟨name, member, rfl⟩)
    · exact .inl name
    · exact .inr (.inr index)

theorem accepts_loop (accepts : Accepts name language) (nullable greedy : Bool) :
    Accepts (loop nullable greedy name) (stepsOf language)∗ := by
  have turn := accepts_turn accepts greedy
  cases nullable with
  | false => exact turn.star true
  | true =>
    have whole := (turn.plus true).alt .empty
    rwa [add_comm, Language.one_add_self_mul_kstar_eq_kstar] at whole

theorem reads_lastStep_iff (accepts : Accepts name language) :
    Reads (lastStep name) before last after t ↔
      (∃ word ∈ language, last = '.' :: word ∧ t = around "attribute" (before ++ ['.']) word) ∨
        ∃ inner ∈ indexes, last = '[' :: (inner ++ [']']) ∧
          t = around "index" (before ++ ['[']) inner := by
  rw [lastStep, bracketed, reads_alt_iff, reads_behind_char_iff, reads_behind_char_iff]
  refine or_congr ?_ ?_
  · simp only [accepts.reads_group_iff]
    tauto
  · simp only [reads_before_char_iff, (accepts_index true).reads_group_iff]
    constructor
    · intro reads
      obtain ⟨_, rfl, inner, rfl, member, rfl⟩ := reads
      exact ⟨inner, member, rfl, rfl⟩
    · intro reads
      obtain ⟨inner, member, rfl, rfl⟩ := reads
      exact ⟨_, rfl, inner, rfl, member, rfl⟩

theorem Last.reads (last : Last language text step) (accepts : Accepts name language)
    (before : List Char) : ∃ t, Reads (lastStep name) before text [] t := by
  cases last with
  | name member => exact ⟨_, (reads_lastStep_iff accepts).mpr (.inl ⟨_, member, rfl, rfl⟩)⟩
  | index member => exact ⟨_, (reads_lastStep_iff accepts).mpr (.inr ⟨_, member, rfl, rfl⟩)⟩

/-- What the loop over the first steps leads to. -/
def ending (name : Pattern) : Goal :=
  .closing "parent" (Ahead (.seq (lastStep name) (.look .textEnd)) .done)

theorem ending_iff : (∃ n, ending name before after t n) ↔
    ∃ u, t = ⟨"parent", false, before.length⟩ :: u ∧ Reads (lastStep name) before after [] u := by
  constructor
  · intro ends
    obtain ⟨n, u, rfl, run, rfl, rfl⟩ := ends
    obtain ⟨rfl, reads⟩ := reads_to_end_iff.mp ⟨_, run⟩
    exact ⟨_, rfl, by simpa using reads⟩
  · intro ends
    obtain ⟨u, rfl, reads⟩ := ends
    obtain ⟨m, run⟩ := reads_to_end_iff.mpr ⟨rfl, reads⟩
    have ahead : Ahead (.seq (lastStep name) (.look .textEnd)) .done before (after ++ [])
        (u ++ []) (m + 0) := .intro run ⟨rfl, rfl⟩
    exact ⟨m, u, rfl, by simpa using ahead⟩

/-- Where a text is split: in front of a last step, and not where a name behind a point could be
read on up to another last step. -/
structure Cut (language : Language Char) (text front last : List Char) (step : Option Step) :
    Prop where
  whole : text = front ++ last
  steps : front ∈ (stepsOf language)∗
  ends : Last language last step
  furthest {word front' last' : List Char} {step' : Option Step} (member : word ∈ language)
    (steps : front' ∈ (stepsOf language)∗) (behind : Last language last' step') :
    last ≠ '.' :: (word ++ (front' ++ last'))

/-- No further turn of the loop leads to a last step, where a name behind a point begins none. -/
theorem further_of_reads (accepts : Accepts name language) (nullable greedy : Bool)
    (member : word ∈ language) (steps : front ∈ (stepsOf language)∗)
    (behind : Last language last step) (before : List Char) :
    ∃ t n, (ending name).further nullable (.single '.') name (bracketed (index greedy)) before
      ('.' :: (word ++ (front ++ last))) t n := by
  obtain ⟨u, reads⟩ := behind.reads accepts (before ++ ['.'] ++ word ++ front)
  obtain ⟨n, ends⟩ := ending_iff.mpr ⟨u, rfl, reads⟩
  obtain ⟨m, loop⟩ := (accepts_loop accepts nullable greedy).iff.mpr ⟨steps, rfl⟩
  obtain ⟨k, body⟩ := accepts.iff.mpr ⟨member, rfl⟩
  exact ⟨_, _, Ahead.char_cons_iff.mpr ⟨by decide, _, rfl, .intro body (.intro loop ends)⟩⟩

/-- A split is a cut, whose front loses a point at its end. -/
theorem cut_of_split? {s : PathSyntax} {split : PathSyntax.Split} (frames : s.Frames name)
    (accepts : Accepts name language) (found : s.split? text = some split) :
    ∃ front last, Cut language text front last split.last ∧
      split.parent = PathSyntax.dropPoint front := by
  obtain ⟨nullable, greedy, path⟩ := frames.path
  rw [PathSyntax.split?, path, Option.map_eq_some_iff] at found
  obtain ⟨t, found, rfl⟩ := found
  obtain ⟨_, _, trace, @⟨_, front, last, _, _, _, _, run, ends, furthest⟩⟩ :=
    Pattern.match?_leading found
  obtain ⟨steps, rfl⟩ := (accepts_loop accepts nullable greedy).iff.mp ⟨_, run⟩
  obtain ⟨u, rfl, reads⟩ := ending_iff.mp ⟨_, ends⟩
  obtain rfl : t = around "parent" [] front ++ u := trace
  have furthest {word front' last' : List Char} {step : Option Step} (member : word ∈ language)
      (steps : front' ∈ (stepsOf language)∗) (behind : Last language last' step) :
      last ≠ '.' :: (word ++ (front' ++ last')) := by
    rintro rfl
    obtain ⟨_, _, further⟩ :=
      further_of_reads accepts nullable greedy member steps behind ([] ++ front)
    exact furthest further
  rcases (reads_lastStep_iff accepts).mp reads with
    ⟨word, member, rfl, rfl⟩ | ⟨inner, member, rfl, rfl⟩
  · refine ⟨front, _, ⟨rfl, steps, ?_, furthest⟩, ?_⟩ <;>
      simp [Trace.capture?, last?_append, last?_around, last?_around_of_ne, Nat.add_sub_add_left,
        Last.name member]
  · refine ⟨front, _, ⟨rfl, steps, ?_, furthest⟩, ?_⟩ <;>
      simp [Trace.capture?, last?_append, last?_around, last?_around_of_ne, Nat.add_sub_add_left,
        Last.index member]

/-- What ends with a last step behind other steps is split somewhere. -/
theorem isSome_split? {s : PathSyntax} (frames : s.Frames name) (accepts : Accepts name language)
    (steps : front ∈ (stepsOf language)∗) (ends : Last language last step) :
    (s.split? (front ++ last)).isSome = true := by
  obtain ⟨nullable, greedy, path⟩ := frames.path
  obtain ⟨u, reads⟩ := ends.reads accepts front
  have whole : Reads s.path [] (front ++ last) [] (around "parent" [] front ++ u) := by
    rw [path, Frame.path, Pattern.leading, reads_from_start_iff, reads_seq_iff]
    refine ⟨rfl, front, last, _, u, rfl, rfl, ?_, reads_to_end_iff.mpr ⟨rfl, reads⟩⟩
    exact (accepts_loop accepts nullable greedy).reads_group_iff.mpr ⟨steps, rfl⟩
  obtain ⟨_, run⟩ := whole
  simpa [PathSyntax.split?] using Pattern.isSome_match? run

theorem reads_lone_iff (accepts : Accepts name language) :
    Reads (lone name) before word after t ↔
      before = [] ∧ after = [] ∧ word ∈ language ∧ t = around "attribute" [] word := by
  rw [lone, ← reads_seq_assoc, reads_to_end_iff, reads_from_start_iff, accepts.reads_group_iff]
  tauto

theorem occursIn_iff {s : PathSyntax} (alone : s.name = lone name)
    (accepts : Accepts name language) : s.name.occursIn text = true ↔ text ∈ language := by
  rw [alone, Pattern.occursIn, Option.isSome_iff_exists]
  constructor
  · intro matched
    obtain ⟨t, found⟩ := matched
    obtain ⟨before, word, after, n, rfl, run⟩ := Pattern.exists_run_of_match? found
    obtain ⟨rfl, rfl, member, -⟩ := (reads_lone_iff accepts).mp ⟨n, run⟩
    simpa using member
  · intro member
    obtain ⟨n, run⟩ := (reads_lone_iff accepts).mpr ⟨rfl, rfl, member, rfl⟩
    simpa using Option.isSome_iff_exists.mp (Pattern.isSome_match? run)

end Frame
end PathEdit
