import Mathlib.Computability.Language
import PathEdit.Proofs.Regex.Run

/-! The languages of patterns whose runs depend on nothing but the text that they read. -/
namespace PathEdit.Regex

open scoped Computability

theorem contains_single (d : Char) : (CharSet.single d).contains = (· == d) := by
  funext c
  apply Bool.eq_iff_iff.mpr
  simp [CharSet.contains, CharSet.holds, CharSet.single, CharSet.range, CodeRange.holds,
    ← Char.toNat_inj]
  omega

/-- The texts of one character of a kind. -/
def chars (kind : Char → Bool) : Language Char := {word | ∃ c, word = [c] ∧ kind c = true}

theorem mem_chars {kind : Char → Bool} {word : List Char} :
    word ∈ chars kind ↔ ∃ c, word = [c] ∧ kind c = true := Iff.rfl

theorem mem_kstar_chars {kind : Char → Bool} {word : List Char} :
    word ∈ (chars kind)∗ ↔ ∀ c ∈ word, kind c = true := by
  constructor
  · intro member c present
    obtain ⟨parts, rfl, each⟩ := Language.mem_kstar.mp member
    obtain ⟨part, inParts, inPart⟩ := List.mem_flatten.mp present
    obtain ⟨d, rfl, legal⟩ := each part inParts
    rwa [List.mem_singleton.mp inPart]
  · intro legal
    have single : word = (word.map fun c => [c]).flatten := by simp [← List.flatMap_def]
    rw [single]
    refine Language.join_mem_kstar fun part inParts => ?_
    obtain ⟨c, present, rfl⟩ := List.mem_map.mp inParts
    exact ⟨c, rfl, legal c present⟩

theorem append_mem_kstar {language : Language Char} (front : x ∈ language∗) (last : y ∈ language) :
    x ++ y ∈ language∗ := by
  obtain ⟨parts, rfl, each⟩ := Language.mem_kstar.mp front
  refine Language.mem_kstar.mpr ⟨parts ++ [y], by simp, ?_⟩
  simpa [or_imp, forall_and] using ⟨each, last⟩

theorem mem_chars_mul {kind : Char → Bool} {language : Language Char} {word : List Char} :
    word ∈ chars kind * language ↔
      ∃ c rest, word = c :: rest ∧ kind c = true ∧ rest ∈ language := by
  constructor
  · intro member
    obtain ⟨_, ⟨c, rfl, legal⟩, rest, inRest, rfl⟩ := Language.mem_mul.mp member
    exact ⟨c, rest, rfl, legal, inRest⟩
  · intro membership
    obtain ⟨c, rest, rfl, legal, inRest⟩ := membership
    exact Language.append_mem_mul (mem_chars.mpr ⟨c, rfl, legal⟩) inRest

theorem mem_mul_chars {kind : Char → Bool} {language : Language Char} {word : List Char} :
    word ∈ language * chars kind ↔
      ∃ front c, word = front ++ [c] ∧ front ∈ language ∧ kind c = true := by
  constructor
  · intro member
    obtain ⟨front, inFront, _, ⟨c, rfl, legal⟩, rfl⟩ := Language.mem_mul.mp member
    exact ⟨front, c, rfl, inFront, legal⟩
  · intro membership
    obtain ⟨front, c, rfl, inFront, legal⟩ := membership
    exact Language.append_mem_mul inFront (mem_chars.mpr ⟨c, rfl, legal⟩)

theorem mem_enclosed_iff {left right : Char} {language : Language Char} {word : List Char} :
    word ∈ chars (· == left) * (language * chars (· == right)) ↔
      ∃ inner ∈ language, word = left :: (inner ++ [right]) := by
  rw [mem_chars_mul]
  constructor
  · intro membership
    obtain ⟨c, _, rfl, opening, member⟩ := membership
    obtain ⟨inner, d, rfl, inside, closing⟩ := mem_mul_chars.mp member
    rw [eq_of_beq opening, eq_of_beq closing]
    exact ⟨inner, inside, rfl⟩
  · intro membership
    obtain ⟨inner, inside, rfl⟩ := membership
    exact ⟨left, _, rfl, BEq.rfl, mem_mul_chars.mpr ⟨inner, right, rfl, inside, BEq.rfl⟩⟩

/-- Runs without a count of their steps. -/
def Reads (a : Pattern) (before read after : List Char) (t : Trace) : Prop :=
  ∃ n, Run a before read after t n

/-- A pattern reads the texts of a language wherever they stand, and passes no boundary. -/
structure Accepts (a : Pattern) (language : Language Char) : Prop where
  iff : ∀ {before word after t}, Reads a before word after t ↔ word ∈ language ∧ t = []

variable {before word after : List Char} {t : Trace}

theorem reads_look_iff {look : Look} : Reads (.look look) before word after t ↔
    word = [] ∧ t = [] ∧
      look.holds ⟨before.length, before.getLast?, after.head?⟩ = true := by
  constructor
  · intro reads
    obtain ⟨_, run⟩ := reads
    cases run with
    | look holds => exact ⟨rfl, rfl, holds⟩
  · intro reads
    obtain ⟨rfl, rfl, holds⟩ := reads
    exact ⟨1, .look holds⟩

theorem reads_seq_iff : Reads (.seq a b) before word after t ↔
    ∃ x y u v, word = x ++ y ∧ t = u ++ v ∧
      Reads a before x (y ++ after) u ∧ Reads b (before ++ x) y after v := by
  constructor
  · intro reads
    obtain ⟨_, run⟩ := reads
    cases run with
    | seq first second => exact ⟨_, _, _, _, rfl, rfl, ⟨_, first⟩, ⟨_, second⟩⟩
  · intro reads
    obtain ⟨x, y, u, v, rfl, rfl, ⟨m, first⟩, ⟨n, second⟩⟩ := reads
    exact ⟨m + n, .seq first second⟩

theorem reads_seq_assoc : Reads (.seq (.seq a b) c) before word after t ↔
    Reads (.seq a (.seq b c)) before word after t := by
  constructor
  · intro reads
    obtain ⟨_, run⟩ := reads
    cases run with
    | seq run third =>
      cases run with
      | seq first second =>
        rw [List.append_assoc, List.append_assoc]
        rw [← List.append_assoc] at first third
        exact ⟨_, .seq first (.seq second third)⟩
  · intro reads
    obtain ⟨_, run⟩ := reads
    cases run with
    | seq first run =>
      cases run with
      | seq second third =>
        rw [← List.append_assoc, ← List.append_assoc]
        rw [List.append_assoc] at first third
        exact ⟨_, .seq (.seq first second) third⟩

theorem reads_char_iff {set : CharSet} : Reads (.char set) before word after t ↔
    t = [] ∧ ∃ c, word = [c] ∧ set.contains c = true := by
  constructor
  · intro reads
    obtain ⟨_, run⟩ := reads
    cases run with
    | char member => exact ⟨rfl, _, rfl, member⟩
  · intro reads
    obtain ⟨rfl, c, rfl, member⟩ := reads
    exact ⟨1, .char member⟩

theorem reads_behind_char_iff : Reads (.seq (.char (.single d)) a) before word after t ↔
    ∃ rest, word = d :: rest ∧ Reads a (before ++ [d]) rest after t := by
  rw [reads_seq_iff]
  constructor
  · intro reads
    obtain ⟨_, rest, _, v, rfl, rfl, first, run⟩ := reads
    obtain ⟨rfl, c, rfl, member⟩ := reads_char_iff.mp first
    rw [contains_single, beq_iff_eq] at member
    subst member
    exact ⟨rest, rfl, run⟩
  · intro reads
    obtain ⟨rest, rfl, run⟩ := reads
    refine ⟨[d], rest, [], t, rfl, rfl, reads_char_iff.mpr ⟨rfl, d, rfl, ?_⟩, run⟩
    rw [contains_single, beq_iff_eq]

theorem reads_before_char_iff : Reads (.seq a (.char (.single d))) before word after t ↔
    ∃ front, word = front ++ [d] ∧ Reads a before front (d :: after) t := by
  rw [reads_seq_iff]
  constructor
  · intro reads
    obtain ⟨front, _, u, _, rfl, rfl, run, last⟩ := reads
    obtain ⟨rfl, c, rfl, member⟩ := reads_char_iff.mp last
    rw [contains_single, beq_iff_eq] at member
    subst member
    exact ⟨front, rfl, by simpa using run⟩
  · intro reads
    obtain ⟨front, rfl, run⟩ := reads
    refine ⟨front, [d], t, [], rfl, by simp, run, reads_char_iff.mpr ⟨rfl, d, rfl, ?_⟩⟩
    rw [contains_single, beq_iff_eq]

theorem reads_from_start_iff : Reads (.seq (.look .textStart) a) before word after t ↔
    before = [] ∧ Reads a [] word after t := by
  rw [reads_seq_iff]
  constructor
  · intro reads
    obtain ⟨_, y, _, v, rfl, rfl, start, run⟩ := reads
    obtain ⟨rfl, rfl, holds⟩ := reads_look_iff.mp start
    obtain rfl : before = [] := by simpa [Look.holds] using holds
    exact ⟨rfl, run⟩
  · intro reads
    obtain ⟨rfl, run⟩ := reads
    exact ⟨[], word, [], t, rfl, rfl, reads_look_iff.mpr ⟨rfl, rfl, rfl⟩, run⟩

theorem reads_to_end_iff : Reads (.seq a (.look .textEnd)) before word after t ↔
    after = [] ∧ Reads a before word [] t := by
  rw [reads_seq_iff]
  constructor
  · intro reads
    obtain ⟨x, _, u, _, rfl, rfl, run, stop⟩ := reads
    obtain ⟨rfl, rfl, holds⟩ := reads_look_iff.mp stop
    obtain rfl : after = [] := by simpa [Look.holds] using holds
    exact ⟨rfl, by simpa using run⟩
  · intro reads
    obtain ⟨rfl, run⟩ := reads
    refine ⟨word, [], t, [], by simp, by simp, by simpa using run, ?_⟩
    exact reads_look_iff.mpr ⟨rfl, rfl, rfl⟩

theorem reads_alt_iff : Reads (.alt a b) before word after t ↔
    Reads a before word after t ∨ Reads b before word after t := by
  constructor
  · intro reads
    obtain ⟨_, run⟩ := reads
    cases run with
    | preferred run => exact .inl ⟨_, run⟩
    | other run => exact .inr ⟨_, run⟩
  · intro reads
    rcases reads with ⟨n, run⟩ | ⟨n, run⟩
    · exact ⟨n, .preferred run⟩
    · exact ⟨n, .other run⟩

theorem reads_group_iff : Reads (.group name a) before word after t ↔
    ∃ u, t = ⟨name, true, before.length⟩ ::
        (u ++ [⟨name, false, (before ++ word).length⟩]) ∧
      Reads a before word after u := by
  constructor
  · intro reads
    obtain ⟨_, run⟩ := reads
    cases run with
    | group run => exact ⟨_, rfl, _, run⟩
  · intro reads
    obtain ⟨u, rfl, n, run⟩ := reads
    exact ⟨n, .group run⟩

/-- The boundaries that a group leaves around a text. -/
def around (name : String) (before word : List Char) : Trace :=
  [⟨name, true, before.length⟩, ⟨name, false, (before ++ word).length⟩]

theorem Accepts.reads_group_iff {name : String} (accepts : Accepts a language) :
    Reads (.group name a) before word after t ↔ word ∈ language ∧ t = around name before word := by
  rw [Regex.reads_group_iff]
  constructor
  · intro reads
    obtain ⟨_, rfl, run⟩ := reads
    obtain ⟨member, rfl⟩ := accepts.iff.mp run
    exact ⟨member, rfl⟩
  · intro reads
    obtain ⟨member, rfl⟩ := reads
    exact ⟨[], rfl, accepts.iff.mpr ⟨member, rfl⟩⟩

namespace Accepts

theorem empty : Accepts .empty 1 := by
  refine ⟨fun {before word after t} => ?_⟩
  rw [Language.mem_one]
  constructor
  · intro reads
    obtain ⟨_, run⟩ := reads
    cases run
    exact ⟨rfl, rfl⟩
  · intro reads
    obtain ⟨rfl, rfl⟩ := reads
    exact ⟨1, .empty⟩

theorem char (set : CharSet) : Accepts (.char set) (chars set.contains) :=
  ⟨reads_char_iff.trans and_comm⟩

theorem seq (first : Accepts a left) (second : Accepts b right) :
    Accepts (.seq a b) (left * right) := by
  refine ⟨fun {before word after t} => ?_⟩
  rw [reads_seq_iff, Language.mem_mul]
  constructor
  · intro reads
    obtain ⟨x, y, u, v, rfl, rfl, inFirst, inSecond⟩ := reads
    obtain ⟨inLeft, rfl⟩ := first.iff.mp inFirst
    obtain ⟨inRight, rfl⟩ := second.iff.mp inSecond
    exact ⟨⟨x, inLeft, y, inRight, rfl⟩, rfl⟩
  · intro reads
    obtain ⟨⟨x, inLeft, y, inRight, rfl⟩, rfl⟩ := reads
    exact ⟨x, y, [], [], rfl, rfl, first.iff.mpr ⟨inLeft, rfl⟩, second.iff.mpr ⟨inRight, rfl⟩⟩

theorem alt (first : Accepts a left) (second : Accepts b right) :
    Accepts (.alt a b) (left + right) := by
  refine ⟨fun {before word after t} => ?_⟩
  rw [reads_alt_iff, Language.mem_add, first.iff, second.iff, or_and_right]

theorem star (greedy : Bool) (body : Accepts a language) :
    Accepts (.star greedy a) language∗ := by
  refine ⟨fun {before word after t} => ?_⟩
  constructor
  · intro reads
    obtain ⟨_, run⟩ := reads
    generalize shape : Pattern.star greedy a = p at run
    induction run with
    | stop => exact ⟨Language.nil_mem_kstar language, rfl⟩
    | turn first rest _ ih =>
      cases shape
      obtain ⟨inBody, rfl⟩ := body.iff.mp ⟨_, first⟩
      obtain ⟨inRest, rfl⟩ := ih rfl
      rw [← Language.one_add_self_mul_kstar_eq_kstar]
      exact ⟨.inr (Language.append_mem_mul inBody inRest), rfl⟩
    | _ => cases shape
  · intro reads
    obtain ⟨member, rfl⟩ := reads
    obtain ⟨parts, rfl, each⟩ := Language.mem_kstar.mp member
    clear member
    induction parts generalizing before with
    | nil => exact ⟨1, .stop⟩
    | cons part rest ih =>
      obtain ⟨m, first⟩ := body.iff.mpr ⟨each part (by simp), rfl⟩
      obtain ⟨n, more⟩ := ih fun other present => each other (by simp [present])
      exact ⟨m + n, .turn first more⟩

theorem plus (greedy : Bool) (body : Accepts a language) :
    Accepts (.plus greedy a) (language * language∗) := by
  refine ⟨fun {before word after t} => ?_⟩
  constructor
  · intro reads
    obtain ⟨_, run⟩ := reads
    generalize shape : Pattern.plus greedy a = p at run
    induction run with
    | once run =>
      cases shape
      obtain ⟨inBody, rfl⟩ := body.iff.mp ⟨_, run⟩
      simpa using Language.append_mem_mul inBody (Language.nil_mem_kstar language)
    | again first rest _ ih =>
      cases shape
      obtain ⟨inBody, rfl⟩ := body.iff.mp ⟨_, first⟩
      obtain ⟨inRest, rfl⟩ := ih rfl
      refine ⟨Language.append_mem_mul inBody ?_, rfl⟩
      rw [← Language.one_add_self_mul_kstar_eq_kstar]
      exact .inr inRest
    | _ => cases shape
  · intro reads
    obtain ⟨member, rfl⟩ := reads
    obtain ⟨first, inFirst, rest, inRest, rfl⟩ := Language.mem_mul.mp member
    obtain ⟨parts, rfl, each⟩ := Language.mem_kstar.mp inRest
    clear member inRest
    induction parts generalizing before first with
    | nil =>
      obtain ⟨n, run⟩ := body.iff.mpr ⟨inFirst, rfl⟩
      exact ⟨n, by simpa using run.once⟩
    | cons part parts ih =>
      obtain ⟨m, run⟩ := body.iff.mpr ⟨inFirst, rfl⟩
      obtain ⟨n, more⟩ := ih part (each part (by simp)) fun other present =>
        each other (by simp [present])
      exact ⟨m + n, .again run more⟩

theorem congr (accepts : Accepts a language) (same : ∀ {word}, word ∈ other ↔ word ∈ language) :
    Accepts a other := by
  refine ⟨fun {before word after t} => ?_⟩
  rw [accepts.iff, same]

theorem unique (accepts : Accepts a language) (other : Accepts a language') :
    language = language' := by
  ext word
  have same := accepts.iff.symm.trans (@Accepts.iff a language' other [] word [] [])
  simpa using same

end Accepts

namespace Pattern

/-- Whether a pattern asks what stands around the place of a run. -/
def looks : Pattern → Bool
  | empty | char _ => false
  | look _ => true
  | seq a b | alt a b => a.looks || b.looks
  | plus _ a | star _ a | group _ a => a.looks

/-- The names of the groups in a pattern. -/
def groups : Pattern → List String
  | empty | char _ | look _ => []
  | seq a b | alt a b => a.groups ++ b.groups
  | plus _ a | star _ a => a.groups
  | group name a => name :: a.groups

/-- The texts that a pattern reads, whatever stands around them. -/
def language : Pattern → Language Char
  | empty | look _ => 1
  | char set => chars set.contains
  | seq a b => a.language * b.language
  | alt a b => a.language + b.language
  | plus _ a => a.language * a.language∗
  | star _ a => a.language∗
  | group _ a => a.language

theorem accepts_language (p : Pattern) (blind : p.looks = false) (unnamed : p.groups = []) :
    Accepts p p.language := by
  induction p with
  | empty => exact .empty
  | char set => exact .char set
  | look => cases blind
  | seq a b first second =>
    obtain ⟨blindA, blindB⟩ := Bool.or_eq_false_iff.mp blind
    obtain ⟨unnamedA, unnamedB⟩ := List.append_eq_nil_iff.mp unnamed
    exact (first blindA unnamedA).seq (second blindB unnamedB)
  | alt a b first second =>
    obtain ⟨blindA, blindB⟩ := Bool.or_eq_false_iff.mp blind
    obtain ⟨unnamedA, unnamedB⟩ := List.append_eq_nil_iff.mp unnamed
    exact (first blindA unnamedA).alt (second blindB unnamedB)
  | plus greedy a ih => exact (ih blind unnamed).plus greedy
  | star greedy a ih => exact (ih blind unnamed).star greedy
  | group => cases unnamed

end Pattern

/-! What the boundaries of a group say about its text. -/

theorem last?_append : Trace.last? (t ++ u) name opening =
    (Trace.last? u name opening).or (Trace.last? t name opening) := by
  simp [Trace.last?, Option.map_or]

theorem last?_around : (around name before word).last? name opening =
    some (if opening then before.length else (before ++ word).length) := by
  cases opening <;> simp [around, Trace.last?]

theorem last?_around_of_ne (ne : other ≠ name) :
    (around other before word).last? name opening = none := by
  simp [around, Trace.last?, ne]

end PathEdit.Regex
