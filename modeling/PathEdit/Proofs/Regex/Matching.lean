import PathEdit.Proofs.Regex.Joins

/-! A scan finds a match exactly when the pattern has a run somewhere in the text, and the trace
that it leaves is the trace of a run. -/
namespace PathEdit.Regex

/-- An armed pattern that answers for the runs from one place of a text, with `goal` behind the
pattern. -/
inductive Armed.Fits : Armed → Pattern → Goal → (before after : List Char) → Prop where
  | empty : Fits .empty .empty goal before after
  | char {set : CharSet} (agrees : ahead.Agrees (Ahead (.char set) goal before after)) :
      Fits (.char set ahead) (.char set) goal before after
  | look (look : Look) : Fits
      (.look look (if look.holds ⟨before.length, before.getLast?, after.head?⟩ then .skip
        else .closed))
      (.look look) goal before after
  | seq (first : Fits a p (Ahead q goal) before after) (second : Fits b q goal before after) :
      Fits (.seq a b (a.passage.andThen b.passage)) (.seq p q) goal before after
  | alt (preferred : Fits a p goal before after) (other : Fits b q goal before after) :
      Fits (.alt a b (a.passage.orElse b.passage)) (.alt p q) goal before after
  | plus {greedy : Bool} (body : Fits a p
        (fun before after => (goal before after).or (Ahead (.plus greedy p) goal before after))
        before after) :
      Fits (.plus greedy a a.passage) (.plus greedy p) goal before after
  | star {greedy : Bool} (body : Fits a p (Ahead (.star greedy p) goal) before after) :
      Fits (.star greedy a (.prefer greedy (.stay a.passage.inside) .skip)) (.star greedy p) goal
        before after
  | group {name : String} (body : Fits a p (goal.closing name) before after) :
      Fits (.group name a ((Passage.boundary ⟨name, true, before.length⟩).andThen
          (a.passage.andThen (.boundary ⟨name, false, before.length⟩))))
        (.group name p) goal before after

namespace Armed

/-- The passage of a pattern leads through it, with one step at least. -/
theorem Fits.joins (fits : Fits armed p goal before after) :
    armed.passage.Joins 1 (Ahead p goal before after) (goal before after) loop := by
  induction fits generalizing loop with
  | empty => exact (Passage.Joins.skip _ _).delay.congr Ahead.empty_iff
  | char agrees => exact .stay agrees
  | look look =>
    simp only [passage]
    split
    · rename_i holds
      exact (Passage.Joins.skip _ _).delay.congr (Ahead.look_iff.trans (and_iff_right holds))
    · rename_i fails
      exact .closed fun may => fails (Ahead.look_iff.mp may).1
  | seq first second ih ih' =>
    exact ((ih.andThen ih').weaken (by omega)).congr Ahead.seq_iff
  | alt preferred other ih ih' => exact (ih.orElse ih').congr Ahead.alt_iff
  | plus body ih =>
    exact ((ih.turn_back Nat.one_pos).congr Ahead.plus_iff).unloop
  | @star _ p goal before after greedy body ih =>
    have stop :=
      (Passage.Joins.skip (goal before after) (Ahead (.star greedy p) goal before after)).delay
    exact (((ih.stay_inside Nat.one_pos).prefer greedy stop).congr Ahead.star_iff).unloop
  | group body ih =>
    exact ((Passage.Joins.boundary _).andThen (ih.andThen (.boundary _))).congr Ahead.group_iff

/-- At the end of a text no character can be read. -/
theorem fits_at_end (p : Pattern) (goal : Goal) (before : List Char) (onward : Passage) :
    Fits ((ofPattern p).advance ⟨before.length, before.getLast?, none⟩ onward) p goal before
      [] := by
  induction p generalizing goal onward with
  | empty => exact .empty
  | char set => exact .char ⟨(nomatch ·), fun may => absurd may Ahead.char_nil⟩
  | look look => exact (Fits.look look : Fits _ _ goal before [])
  | seq a b ih ih' => exact .seq (ih _ _) (ih' _ _)
  | alt a b ih ih' => exact .alt (ih _ _) (ih' _ _)
  | plus greedy a ih => exact .plus (ih _ _)
  | star greedy a ih => exact .star (ih _ _)
  | group name a ih => exact .group (ih _ _)

/-- What was armed behind a character is armed in front of it, where `onward` leads from behind the
pattern back to it. -/
theorem Fits.advance (fits : Fits armed p goal (before ++ [c]) after)
    (joins : onward.Joins 0 (goal (before ++ [c]) after) (Ahead p goal (before ++ [c]) after)
      .none) :
    Fits (armed.advance ⟨before.length, before.getLast?, some c⟩ onward) p goal before
      (c :: after) := by
  generalize place : before ++ [c] = front at fits joins
  induction fits generalizing onward with
  | empty => exact .empty
  | @char _ goal _ _ set agrees =>
    subst place
    have behind := joins.agrees agrees
    refine .char ⟨fun {t} found => ?_, fun may => ?_⟩
    · obtain ⟨member, found⟩ := Option.ite_none_right_eq_some.mp found
      obtain ⟨n, may⟩ := behind.sound found
      exact ⟨n + 1, Ahead.char_cons_iff.mpr ⟨member, n, rfl, may⟩⟩
    · obtain ⟨member, n, rfl, rest⟩ := Ahead.char_cons_iff.mp may
      simpa [member] using behind.complete rest
  | @look goal _ _ look => exact (Fits.look look : Fits _ _ goal before (c :: _))
  | seq first second ih ih' =>
    have onward := (second.joins.andThen joins).weaken (Nat.zero_le _)
    have around := ((joins.congr_there Ahead.seq_iff).andThen first.joins).weaken (Nat.zero_le _)
    exact .seq (ih place (onward.congr_there Ahead.seq_iff)) (ih' place around)
  | @alt _ p goal front after _ q preferred other ih ih' =>
    have branches := joins.congr_there Ahead.alt_iff
    have first := (Passage.Joins.skip (Ahead p goal front after) (goal front after)).orElse
      (other.joins.stay_inside Nat.one_pos)
    have second := (preferred.joins.stay_inside Nat.one_pos).orElse
      (Passage.Joins.skip (Ahead q goal front after) (goal front after))
    exact .alt (ih place (branches.widen.andThen first).unloop)
      (ih' place (branches.widen.andThen second).unloop)
  | @plus _ p goal front after greedy body ih =>
    have turns :=
      (Passage.Joins.skip (Ahead (.plus greedy p) goal front after) _).prefer greedy joins
    exact .plus (ih place ((turns.congr or_comm).congr_there Ahead.plus_iff))
  | @star _ p goal front after greedy body ih =>
    have turns := (Passage.Joins.skip (Ahead p (Ahead (.star greedy p) goal) front after) _).prefer
      greedy (joins.delay.widen.stay_inside Nat.one_pos)
    exact .star (ih place (turns.congr Ahead.star_iff).unloop)
  | @group _ p front after goal name body ih =>
    subst place
    have around := (joins.congr_there Ahead.group_iff).andThen (Passage.Joins.boundary _)
    have closed := (Passage.Joins.boundary ⟨name, false, (before ++ [c]).length⟩).andThen around
    exact .group (ih rfl (by simpa [Goal.closing] using closed))

end Armed

namespace Pattern

theorem agrees_done (before after : List Char) : done.Agrees (Goal.done before after) where
  sound found := ⟨0, (Option.some.inj found).symm, rfl⟩
  complete _ := rfl

/-- What a scan leaves: a pattern armed for the place, and an answer for all runs from there on. -/
theorem fits_scan (p : Pattern) (before text : List Char) :
    (p.scan before.getLast? before.length text).armed.Fits p .done before text ∧
      (p.scan before.getLast? before.length text).found.Agrees
        (Goal.somewhere (Ahead p .done) before text) := by
  induction text generalizing before with
  | nil =>
    have fits := Armed.fits_at_end p .done before .closed
    exact ⟨fits, (fits.joins.agrees (agrees_done ..)).congr Goal.somewhere_nil_iff⟩
  | cons c rest ih =>
    obtain ⟨behind, found⟩ := ih (before ++ [c])
    have fits := behind.advance (.stay (agrees_done ..))
    have answers := (fits.joins.agrees (agrees_done ..)).or found
    simp only [List.getLast?_append, List.getLast?_singleton, Option.some_or, List.length_append,
      List.length_singleton] at fits answers
    exact ⟨fits, answers.congr Goal.somewhere_cons_iff⟩

theorem agrees_match? (p : Pattern) (text : List Char) :
    Answer.Agrees (p.match? text) (Goal.somewhere (Ahead p .done) [] text) :=
  (fits_scan p [] text).2

/-- The trace of a match is that of a run. -/
theorem exists_run_of_match? {p : Pattern} (found : p.match? text = some t) :
    ∃ before read after n, text = before ++ (read ++ after) ∧ Run p before read after t n := by
  obtain ⟨_, before, _, rfl, run, rfl, rfl⟩ := (agrees_match? p text).sound found
  exact ⟨before, _, _, _, rfl, by simpa using run⟩

/-- A pattern with a run in a text has a match there. -/
theorem isSome_match? {p : Pattern} (run : Run p before x after t n) :
    (p.match? (before ++ (x ++ after))).isSome = true := by
  have ahead : Ahead p .done before (x ++ after) (t ++ []) (n + 0) := .intro run ⟨rfl, rfl⟩
  exact (agrees_match? p _).complete ⟨before, _, rfl, ahead⟩

end Pattern
end PathEdit.Regex
