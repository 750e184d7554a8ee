import PathEdit.Proofs.Regex.Matching
import PathEdit.Proofs.Regex.Soundness

/-! Greedy loops whose turns may begin with a mark. Such a loop is left in front of a mark only where
no further turn behind the mark leads to a match. -/
namespace PathEdit.Regex

namespace Pattern

/-- A character of a set, if there is one. -/
def mark (set : CharSet) : Pattern := .seq .empty (.alt (.seq (.char set) .empty) .empty)

/-- One pattern behind a mark, or another one. -/
def turn (set : CharSet) (a b : Pattern) : Pattern := .alt (.seq (mark set) a) b

/-- A greedy loop of turns. -/
def turns (nullable : Bool) (set : CharSet) (a b : Pattern) : Pattern :=
  .anyTimes true nullable (turn set a b)

/-- A named group at the beginning of a text, with the rest of a pattern behind it. -/
def leading (name : String) (body rest : Pattern) : Pattern :=
  .seq (.look .textStart) (.seq (.group name body) rest)

end Pattern

namespace Goal

variable (nullable : Bool) (set : CharSet) (a b : Pattern) (goal : Goal)

/-- What a loop of turns leads to behind the mark of a further turn. -/
def further : Goal := Ahead (.char set) (Ahead a (Ahead (.turns nullable set a b) goal))

/-- The goal behind a loop of turns, gone for only where no further turn begins with a mark. -/
def behindLast : Goal := fun before after t n =>
  goal before after t n ∧ ∀ {u m}, ¬ goal.further nullable set a b before after u m

end Goal

namespace Ahead

variable {goal other : Goal} {before after : List Char} {t : Trace} {n : Nat}

theorem imp (ahead : Ahead a goal before after t n)
    (leads : ∀ {before after t n}, goal before after t n → ∃ m, other before after t m) :
    ∃ m, Ahead a other before after t m := by
  obtain ⟨run, rest⟩ := ahead
  obtain ⟨m, may⟩ := leads rest
  exact ⟨_, .intro run may⟩

theorem behind_empty (ahead : Ahead a (Ahead .empty goal) before after t n) :
    ∃ m, Ahead a goal before after t m :=
  ahead.imp fun may =>
    have ⟨m, _, rest⟩ := empty_iff.mp may
    ⟨m, rest⟩

theorem before_empty (ahead : Ahead a goal before after t n) :
    ∃ m, Ahead a (Ahead .empty goal) before after t m :=
  ahead.imp fun may => ⟨_, empty_iff.mpr ⟨_, rfl, may⟩⟩

theorem mark_iff {set : CharSet} : (∃ n, Ahead (.mark set) goal before after t n) ↔
    (∃ n, Ahead (.char set) goal before after t n) ∨ ∃ n, goal before after t n := by
  constructor
  · rintro ⟨n, ahead⟩
    obtain ⟨m, -, ahead⟩ := empty_iff.mp (seq_iff.mp ahead)
    rcases alt_iff.mp ahead with marked | without
    · exact .inl (seq_iff.mp marked).behind_empty
    · obtain ⟨m, -, may⟩ := empty_iff.mp without
      exact .inr ⟨m, may⟩
  · have start {m : Nat} (ahead : Ahead (.alt (.seq (.char set) .empty) .empty) goal before after t m) :
        ∃ n, Ahead (.mark set) goal before after t n :=
      ⟨_, seq_iff.mpr (empty_iff.mpr ⟨m, rfl, ahead⟩)⟩
    rintro (⟨n, marked⟩ | ⟨n, may⟩)
    · obtain ⟨m, marked⟩ := marked.before_empty
      exact start (alt_iff.mpr (.inl (seq_iff.mpr marked)))
    · exact start (alt_iff.mpr (.inr (empty_iff.mpr ⟨n, rfl, may⟩)))

end Ahead

namespace Armed

/-- An armed mark. -/
def mark (set : CharSet) (ahead : Answer) : Armed :=
  let char := seq (.char set ahead) empty ((Passage.stay ahead).andThen .skip)
  let choice := alt char empty (char.passage.orElse .skip)
  seq empty choice (Passage.skip.andThen choice.passage)

/-- An armed turn. -/
def turn (set : CharSet) (ahead : Answer) (p q : Armed) : Armed :=
  let first := seq (mark set ahead) p ((mark set ahead).passage.andThen p.passage)
  alt first q (first.passage.orElse q.passage)

variable {set : CharSet} {a b : Pattern} {back : Goal} {before after : List Char}

theorem complete_mark (ahead rest : Answer) :
    (mark set ahead).passage.complete rest = ahead.or rest := by
  simp only [mark, passage, Passage.complete_andThen, Passage.complete_orElse,
    Passage.complete_skip, Passage.complete_stay]

theorem complete_turn (ahead rest : Answer) (p q : Armed) :
    (turn set ahead p q).passage.complete rest =
      (ahead.or (p.passage.complete rest)).or (q.passage.complete rest) := by
  change (((mark set ahead).passage.andThen p.passage).orElse q.passage).complete rest = _
  rw [Passage.complete_orElse, Passage.complete_andThen, complete_mark]

theorem keeps_turn_iff {armed : Armed} : Keeps armed (.turn set a b) back before after ↔
    ∃ ahead p q, armed = turn set ahead p q ∧
      ahead.Sound (Ahead (.char set) (Ahead a back) before after) ∧
      Keeps p a back before after ∧ Keeps q b back before after := by
  constructor
  · intro keeps
    cases keeps with
    | alt first second =>
      cases first with
      | seq mark first =>
        cases mark with
        | seq start choice =>
          cases choice with
          | alt marked without =>
            cases marked with
            | seq char stop =>
              cases start
              cases without
              cases stop
              cases char with
              | char sound =>
                exact ⟨_, _, _, rfl, sound.imp Ahead.behind_empty, first, second⟩
  · rintro ⟨ahead, p, q, rfl, sound, first, second⟩
    have marked : Keeps (.char set ahead) (.char set) (Ahead .empty (Ahead a back)) before after :=
      .char (sound.imp Ahead.before_empty)
    exact .alt (.seq (.seq .empty (.alt (.seq marked .empty) .empty)) first) second

/-- What a turn answers for, when its mark is complete, too. -/
theorem Fits.turn {armed : Armed} {goal : Goal} (fits : Fits armed (.turn set a b) goal before after) :
    ∃ ahead p q, armed = Armed.turn set ahead p q ∧
      ∀ {t n}, Ahead (.char set) (Ahead a goal) before after t n → ahead.isSome = true := by
  cases fits with
  | alt first second =>
    cases first with
    | seq mark first =>
      cases mark with
      | seq start choice =>
        cases choice with
        | alt marked without =>
          cases marked with
          | seq char stop =>
            cases start
            cases without
            cases stop
            cases char with
            | char agrees =>
              refine ⟨_, _, _, rfl, fun ahead => ?_⟩
              obtain ⟨m, ahead⟩ := ahead.before_empty
              exact agrees.complete ahead

/-- An armed turn stays sound where its loop goes on greedily: with a further turn, and only when
there is none with the exit. -/
theorem keeps_advance_turn {ahead exit : Answer} {p q : Armed} {onward : Passage}
    (keeps : Keeps (turn set ahead p q) (.turn set a b) back (before ++ [c]) after)
    (leads : ∀ rest, onward.complete rest = rest.or exit)
    (last : ahead = none → exit.Sound (back (before ++ [c]) after))
    (turns : ∀ {t n}, Ahead (.turn set a b) back (before ++ [c]) after t n →
      ∃ m, back (before ++ [c]) after t m) :
    Keeps ((turn set ahead p q).advance ⟨before.length, before.getLast?, some c⟩ onward)
      (.turn set a b) back before (c :: after) := by
  obtain ⟨_, _, _, same, sound, first, second⟩ := keeps_turn_iff.mp keeps
  cases same
  have named {t n} (may : Ahead a back (before ++ [c]) after t n) :
      ∃ m, back (before ++ [c]) after t m := by
    obtain ⟨m, unmarked⟩ := Ahead.mark_iff.mpr (.inr ⟨n, may⟩)
    exact turns (Ahead.alt_iff.mpr (.inl (Ahead.seq_iff.mpr unmarked)))
  have marked : ahead.Sound (back (before ++ [c]) after) := sound.imp fun may => by
    obtain ⟨m, may⟩ := Ahead.mark_iff.mpr (.inl ⟨_, may⟩)
    exact turns (Ahead.alt_iff.mpr (.inl (Ahead.seq_iff.mpr may)))
  have other : q.passage.inside.Sound (back (before ++ [c]) after) :=
    second.carries.inside.imp fun may => turns (Ahead.alt_iff.mpr (.inr may))
  -- Whatever part of the turn has just been left, the mark has been asked before the exit is.
  have resumed {rest : Answer} (may : rest.Sound (back (before ++ [c]) after))
      (asked : rest = none → ahead = none) :
      Answer.Sound (rest.or exit) (back (before ++ [c]) after) :=
    may.orElse fun missing => last (asked missing)
  refine keeps_turn_iff.mpr ⟨_, _, _, rfl, ⟨fun {t} found => ?_⟩, first.advance ⟨fun may => ?_⟩,
    second.advance ⟨fun may => ?_⟩⟩
  · obtain ⟨member, found⟩ := Option.ite_none_right_eq_some.mp found
    have nothing : Armed.empty.passage = .skip := rfl
    have inside : Passage.skip.inside = none := rfl
    simp only [Passage.complete_andThen, Passage.complete_orElse, Passage.complete_skip,
      Passage.complete_stay, leads, nothing, inside, Option.or_none] at found
    have behind := resumed (marked.or other) fun missing => (Option.or_eq_none_iff.mp missing).1
    obtain ⟨n, may⟩ := (first.carries.complete behind).way found
    exact ⟨_, Ahead.char_cons_iff.mpr ⟨member, n, rfl, may⟩⟩
  · simp only [Passage.complete_andThen, Passage.complete_orElse, Passage.complete_skip,
      Passage.complete_stay, complete_mark, leads]
    refine resumed ((marked.or (may.imp named)).or other) fun missing => ?_
    exact (Option.or_eq_none_iff.mp (Option.or_eq_none_iff.mp missing).1).1
  · simp only [Passage.complete_andThen, Passage.complete_orElse, Passage.complete_skip,
      Passage.complete_stay, leads]
    have again : (seq (mark set ahead) p ((mark set ahead).passage.andThen p.passage)).passage.inside =
        ahead.or p.passage.inside := by
      change ((mark set ahead).passage.andThen p.passage).inside = _
      rw [← Passage.complete_none, Passage.complete_andThen, complete_mark, Passage.complete_none]
    rw [again]
    have taken := may.imp fun may => turns (Ahead.alt_iff.mpr (.inr may))
    refine resumed ((marked.or (first.carries.inside.imp named)).or taken) fun missing => ?_
    exact (Option.or_eq_none_iff.mp (Option.or_eq_none_iff.mp missing).1).1

/-- A turn asks for what lies behind it only when its mark has no answer. -/
theorem sound_turn {ahead rest : Answer} {p q : Armed}
    (keeps : Keeps (turn set ahead p q) (.turn set a b) back before after)
    (last : ahead = none → rest.Sound (back before after)) :
    ((turn set ahead p q).passage.complete rest).Sound (Ahead (.turn set a b) back before after) := by
  cases answered : ahead with
  | none => exact answered ▸ keeps.carries.complete (last answered)
  | some t =>
    have found (rest : Answer) : (turn set (some t) p q).passage.complete rest = some t := by
      rw [complete_turn, Option.some_or, Option.some_or]
    rw [found rest, ← found none, Passage.complete_none, ← answered]
    exact keeps.carries.inside

/-- What a loop repeats. -/
def body : Armed → Armed
  | star _ a _ | alt (plus _ a _) _ _ => a
  | armed => armed

section Loop

variable {nullable : Bool} {goal : Goal} {loop : Armed}

/-- A loop whose turns may read nothing is left, or begun. -/
theorem turns_nullable (ahead : Ahead (.turns true set a b) goal before after t n) :
    ∃ m, (goal before after).or (Ahead (.plus true (.turn set a b)) goal before after) t m := by
  rcases Ahead.alt_iff.mp ahead with more | stop
  · exact ⟨_, .inr more⟩
  · obtain ⟨m, -, may⟩ := Ahead.empty_iff.mp stop
    exact ⟨m, .inl may⟩

theorem take_turn (ahead : Ahead (.turn set a b) (Ahead (.turns nullable set a b) goal) before after
    t n) : ∃ m, Ahead (.turns nullable set a b) goal before after t m := by
  cases nullable with
  | false => exact ⟨_, Ahead.star_iff.mpr (.inl ahead)⟩
  | true =>
    have ⟨m, ahead⟩ := ahead.imp turns_nullable
    exact ⟨m, Ahead.alt_iff.mpr (.inl (Ahead.plus_iff.mpr ahead))⟩

theorem leave_turns (may : goal before after t n) :
    ∃ m, Ahead (.turns nullable set a b) goal before after t m := by
  cases nullable with
  | false => exact ⟨_, Ahead.star_iff.mpr (.inr ⟨_, rfl, may⟩)⟩
  | true => exact ⟨_, Ahead.alt_iff.mpr (.inr (Ahead.empty_iff.mpr ⟨_, rfl, may⟩))⟩

/-- The mark of an armed loop has an answer wherever it leads further. -/
theorem Fits.body_turn (fits : Fits loop (.turns nullable set a b) goal before after) :
    ∃ ahead p q, loop.body = Armed.turn set ahead p q ∧
      ∀ {t n}, goal.further nullable set a b before after t n → ahead.isSome = true := by
  cases nullable with
  | false =>
    cases fits with
    | star body => exact body.turn
  | true =>
    cases fits with
    | alt body stop =>
      cases body with
      | plus body =>
        obtain ⟨ahead, p, q, same, complete⟩ := body.turn
        refine ⟨ahead, p, q, same, fun further => ?_⟩
        obtain ⟨m, further⟩ := further.imp fun named => named.imp turns_nullable
        exact complete further

/-- Where the mark of a further turn has no answer, an answer behind the loop may be asked for. -/
theorem sound_behindLast {ahead rest : Answer}
    (complete : ∀ {t n}, goal.further nullable set a b before after t n → ahead.isSome = true)
    (sound : rest.Sound (goal before after)) (missing : ahead = none) :
    rest.Sound (Ahead (.turns nullable set a b) (goal.behindLast nullable set a b) before after) :=
  sound.imp fun may =>
    leave_turns ⟨may, fun further => by simpa [missing] using complete further⟩

theorem keeps_advance_turns {onward : Passage} {exit : Answer}
    (fits : Fits loop (.turns nullable set a b) goal (before ++ [c]) after)
    (keeps : Keeps loop.body (.turn set a b)
      (Ahead (.turns nullable set a b) (goal.behindLast nullable set a b)) (before ++ [c]) after)
    (leads : ∀ rest, onward.complete rest = exit) (sound : exit.Sound (goal (before ++ [c]) after)) :
    Keeps (loop.advance ⟨before.length, before.getLast?, some c⟩ onward).body (.turn set a b)
      (Ahead (.turns nullable set a b) (goal.behindLast nullable set a b)) before (c :: after) := by
  obtain ⟨ahead, p, q, same, complete⟩ := fits.body_turn
  rw [same] at keeps
  have last := sound_behindLast complete sound
  cases nullable with
  | false =>
    cases fits with
    | @star body =>
      obtain rfl : body = _ := same
      refine keeps_advance_turn keeps (fun rest => ?_) last take_turn
      change (Passage.orElse .skip (.stay onward.inside)).complete rest = _
      rw [Passage.complete_orElse, Passage.complete_skip, Passage.complete_stay,
        ← Passage.complete_none, leads]
  | true =>
    cases fits with
    | alt fits =>
      cases fits with
      | @plus body =>
        obtain rfl : body = _ := same
        refine keeps_advance_turn keeps (fun rest => ?_) last take_turn
        change (Passage.orElse .skip (onward.andThen _)).complete rest = _
        rw [Passage.complete_orElse, Passage.complete_skip, Passage.complete_andThen, leads]

/-- A loop that is entered takes a further turn where it can. -/
theorem sound_turns {rest : Answer}
    (fits : Fits loop (.turns nullable set a b) goal before after)
    (keeps : Keeps loop.body (.turn set a b)
      (Ahead (.turns nullable set a b) (goal.behindLast nullable set a b)) before after)
    (sound : rest.Sound (goal before after)) :
    (loop.passage.complete rest).Sound
      (Ahead (.turns nullable set a b) (goal.behindLast nullable set a b) before after) := by
  obtain ⟨ahead, p, q, same, complete⟩ := fits.body_turn
  rw [same] at keeps
  have last := sound_behindLast complete sound
  have unasked (rest : Answer) (missing : (turn set ahead p q).passage.complete rest = none) :
      ahead = none := by
    rw [complete_turn] at missing
    exact (Option.or_eq_none_iff.mp (Option.or_eq_none_iff.mp missing).1).1
  cases nullable with
  | false =>
    cases fits with
    | @star body =>
      obtain rfl : body = _ := same
      change (Passage.orElse (.stay _) .skip).complete rest |>.Sound _
      rw [Passage.complete_orElse, Passage.complete_skip, Passage.complete_stay]
      refine (keeps.carries.inside.imp take_turn).orElse fun missing => last (unasked none ?_)
      rwa [Passage.complete_none]
  | true =>
    cases fits with
    | alt fits stop =>
      cases stop
      cases fits with
      | @plus body =>
        obtain rfl : body = _ := same
        change ((turn set ahead p q).passage.orElse .skip).complete rest |>.Sound _
        rw [Passage.complete_orElse, Passage.complete_skip]
        exact ((sound_turn keeps last).imp take_turn).orElse fun missing =>
          last (unasked rest missing)

end Loop

/-- What stands in a group at the beginning. -/
def led : Armed → Armed
  | seq _ (seq (group _ a _) _ _) _ => a
  | armed => armed

end Armed

namespace Pattern

variable {nullable : Bool} {set : CharSet} {a b rest : Pattern} {name : String}

/-- What is bound to the beginning of a text is not found further on. -/
theorem match?_from_start (p : Pattern) (text : List Char) :
    (seq (.look .textStart) p).match? text =
      ((seq (.look .textStart) p).scan none 0 text).armed.passage.complete done := by
  cases text with
  | nil => rfl
  | cons c text =>
    have agrees := (fits_scan (seq (.look .textStart) p) [c] text).2
    have nothing : (scan (seq (.look .textStart) p) (some c) 1 text).found = none := by
      rw [Option.eq_none_iff_forall_ne_some]
      intro t found
      obtain ⟨n, skipped, behind, rfl, may⟩ := agrees.sound found
      have holds := (Ahead.look_iff.mp (Ahead.seq_iff.mp may)).1
      simp [Look.holds] at holds
    change Option.or _ (scan (seq (.look .textStart) p) (some c) 1 text).found = _
    rw [nothing, Option.or_none]
    rfl

theorem sound_behind {armed : Armed} {p : Pattern} {before after : List Char}
    (fits : armed.Fits p .done before after) :
    (armed.passage.complete done).Sound (Ahead p .done before after) :=
  ⟨(fits.joins.agrees (agrees_done ..)).sound⟩

/-- A scan keeps its loop at the beginning to turns that are only left where no further one begins
with a mark. -/
theorem keeps_scan (before text : List Char) :
    (((leading name (turns nullable set a b) rest).scan before.getLast? before.length
      text).armed.led.body).Keeps (turn set a b)
        (Ahead (turns nullable set a b)
          ((Goal.closing name (Ahead rest .done)).behindLast nullable set a b)) before text := by
  induction text generalizing before with
  | nil =>
    cases nullable with
    | false => exact Armed.keeps_at_end _ _ _ _
    | true => exact Armed.keeps_at_end _ _ _ _
  | cons c text ih =>
    have keeps := ih (before ++ [c])
    have fits := (fits_scan (leading name (turns nullable set a b) rest) (before ++ [c]) text).1
    simp only [List.getLast?_append, List.getLast?_singleton, Option.some_or, List.length_append,
      List.length_singleton] at keeps fits
    rw [scan]
    generalize (scan _ (some c) (before.length + 1) text).armed = armed at keeps fits
    cases fits with
    | seq start fits =>
      cases fits with
      | seq fits behind =>
        cases fits with
        | group fits =>
          have ended := Passage.Carries.complete (.boundary ⟨name, false, before.length + 1⟩ _)
            (sound_behind behind)
          refine Armed.keeps_advance_turns fits keeps (fun again => ?_)
            (by simpa [Goal.closing] using ended)
          simp only [Passage.complete_andThen, Passage.complete_stay]

/-- A match that begins with a loop of turns leaves the loop where no further turn that begins with a
mark leads to a match. -/
theorem match?_leading {text : List Char} {t : Trace}
    (found : (leading name (turns nullable set a b) rest).match? text = some t) :
    ∃ u n, t = ⟨name, true, 0⟩ :: u ∧
      Ahead (turns nullable set a b)
        ((Goal.closing name (Ahead rest .done)).behindLast nullable set a b) [] text u n := by
  have keeps := @keeps_scan nullable set a b rest name [] text
  have fits := (fits_scan (leading name (turns nullable set a b) rest) [] text).1
  rw [leading, match?_from_start, ← leading] at found
  simp only [List.getLast?_nil, List.length_nil] at keeps fits
  generalize (scan _ none 0 text).armed = armed at found keeps fits
  cases fits with
  | seq start fits =>
    cases fits with
    | seq fits behind =>
      cases fits with
      | @group body _ _ _ _ _ fits =>
        cases start
        simp only [Armed.passage, Look.holds, List.getLast?_nil, Option.isNone_none, if_true,
          Passage.complete_andThen, Passage.complete_skip] at found
        have ended := Passage.Carries.complete (.boundary ⟨name, false, 0⟩ _) (sound_behind behind)
        have sound := Armed.sound_turns fits keeps ended
        obtain ⟨n, u, rfl, may⟩ := ((Passage.Carries.boundary ⟨name, true, 0⟩ _).complete sound).way found
        exact ⟨u, n, rfl, may⟩

end Pattern
end PathEdit.Regex
