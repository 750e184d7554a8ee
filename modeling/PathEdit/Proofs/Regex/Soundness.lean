import PathEdit.Proofs.Regex.Run

/-! Answers that are right whenever they are given. A goal may leave out ways that the scan never
prefers; its answers are then sound though they are not complete. -/
namespace PathEdit.Regex

/-- An answer, if it is given, is the trace of a way. -/
structure Answer.Sound (answer : Answer) (here : Prospect) : Prop where
  way : ∀ {t}, answer = some t → ∃ n, here t n

namespace Answer.Sound

variable {answer second : Answer} {here other : Prospect}

theorem none (here : Prospect) : Answer.Sound none here := ⟨nofun⟩

theorem imp (sound : answer.Sound here) (leads : ∀ {t n}, here t n → ∃ m, other t m) :
    answer.Sound other where
  way found :=
    have ⟨_, may⟩ := sound.way found
    leads may

theorem or (first : answer.Sound here) (behind : second.Sound here) :
    Answer.Sound (Option.or answer second) here where
  way found := by
    rcases Option.or_eq_some_iff.mp found with found | ⟨_, found⟩
    · exact first.way found
    · exact behind.way found

/-- An answer that is only asked for behind another one need only be sound when that is missing. -/
theorem orElse (first : answer.Sound here) (behind : answer = .none → second.Sound here) :
    Answer.Sound (Option.or answer second) here where
  way found := by
    rcases Option.or_eq_some_iff.mp found with found | ⟨missing, found⟩
    · exact first.way found
    · exact (behind missing).way found

end Answer.Sound

/-- A passage leads from `here` to `there`: in front of a way, it gives a way. -/
structure Passage.Carries (p : Passage) (here there : Prospect) : Prop where
  complete : ∀ {rest : Answer}, rest.Sound there → (p.complete rest).Sound here

namespace Passage.Carries

variable {p q : Passage} {here middle there : Prospect}

theorem skip (here : Prospect) : Passage.skip.Carries here here where
  complete sound := by rwa [complete_skip]

theorem stay {answer : Answer} (sound : answer.Sound here) (there : Prospect) :
    (Passage.stay answer).Carries here there where
  complete _ := by rwa [complete_stay]

theorem boundary (b : Boundary) (there : Prospect) :
    (Passage.boundary b).Carries (there.behind b) there where
  complete sound := ⟨fun found => by
    simp only [Passage.complete, Passage.boundary, Option.none_or, Option.or_none,
      Option.bind_some, Option.map_eq_some_iff] at found
    obtain ⟨t, found, rfl⟩ := found
    exact (sound.way found).imp fun _ may => ⟨t, rfl, may⟩⟩

theorem imp {other : Prospect} (carries : p.Carries here there)
    (leads : ∀ {t n}, here t n → ∃ m, other t m) : p.Carries other there where
  complete sound := (carries.complete sound).imp leads

theorem andThen (first : p.Carries here middle) (second : q.Carries middle there) :
    (p.andThen q).Carries here there where
  complete sound := by
    rw [complete_andThen]
    exact first.complete (second.complete sound)

theorem orElse (first : p.Carries here there) (second : q.Carries here there) :
    (p.orElse q).Carries here there where
  complete sound := by
    rw [complete_orElse]
    exact (first.complete sound).or (second.complete sound)

theorem prefer (greedy : Bool) (more : p.Carries here there) (fewer : q.Carries here there) :
    (Passage.prefer greedy p q).Carries here there := by
  cases greedy with
  | true => exact more.orElse fewer
  | false => exact fewer.orElse more

theorem inside (carries : p.Carries here there) : p.inside.Sound here := by
  rw [← complete_none]
  exact carries.complete (.none there)

end Passage.Carries

/-- An armed pattern whose answers are sound for the runs from one place of a text, with `goal`
behind the pattern. -/
inductive Armed.Keeps : Armed → Pattern → Goal → (before after : List Char) → Prop where
  | empty : Keeps .empty .empty goal before after
  | char {set : CharSet} (sound : ahead.Sound (Ahead (.char set) goal before after)) :
      Keeps (.char set ahead) (.char set) goal before after
  | look (look : Look) : Keeps
      (.look look (if look.holds ⟨before.length, before.getLast?, after.head?⟩ then .skip
        else .closed))
      (.look look) goal before after
  | seq (first : Keeps a p (Ahead q goal) before after) (second : Keeps b q goal before after) :
      Keeps (.seq a b (a.passage.andThen b.passage)) (.seq p q) goal before after
  | alt (preferred : Keeps a p goal before after) (other : Keeps b q goal before after) :
      Keeps (.alt a b (a.passage.orElse b.passage)) (.alt p q) goal before after
  | plus {greedy : Bool} (body : Keeps a p
        (fun before after => (goal before after).or (Ahead (.plus greedy p) goal before after))
        before after) :
      Keeps (.plus greedy a a.passage) (.plus greedy p) goal before after
  | star {greedy : Bool} (body : Keeps a p (Ahead (.star greedy p) goal) before after) :
      Keeps (.star greedy a (.prefer greedy (.stay a.passage.inside) .skip)) (.star greedy p) goal
        before after
  | group {name : String} (body : Keeps a p (goal.closing name) before after) :
      Keeps (.group name a ((Passage.boundary ⟨name, true, before.length⟩).andThen
          (a.passage.andThen (.boundary ⟨name, false, before.length⟩))))
        (.group name p) goal before after

namespace Armed

variable {armed : Armed} {p : Pattern} {goal : Goal} {before after : List Char}

theorem Keeps.carries (keeps : Keeps armed p goal before after) :
    armed.passage.Carries (Ahead p goal before after) (goal before after) := by
  induction keeps with
  | empty => exact (Passage.Carries.skip _).imp fun may => ⟨_, Ahead.empty_iff.mpr ⟨_, rfl, may⟩⟩
  | char sound => exact .stay sound _
  | look look =>
    simp only [passage]
    split
    · rename_i holds
      exact (Passage.Carries.skip _).imp fun may =>
        ⟨_, Ahead.look_iff.mpr ⟨holds, _, rfl, may⟩⟩
    · exact .stay (.none _) _
  | seq first second ih ih' =>
    exact (ih.andThen ih').imp fun may => ⟨_, Ahead.seq_iff.mpr may⟩
  | alt preferred other ih ih' =>
    exact (ih.imp fun may => ⟨_, Ahead.alt_iff.mpr (.inl may)⟩).orElse
      (ih'.imp fun may => ⟨_, Ahead.alt_iff.mpr (.inr may)⟩)
  | plus body ih =>
    refine ⟨fun sound => ?_⟩
    exact (ih.complete (sound.imp fun may => ⟨_, .inl may⟩)).imp fun may =>
      ⟨_, Ahead.plus_iff.mpr may⟩
  | star body ih =>
    refine .prefer _ (.stay (ih.inside.imp fun may => ?_) _) ((Passage.Carries.skip _).imp
      fun may => ?_)
    · exact ⟨_, Ahead.star_iff.mpr (.inl may)⟩
    · exact ⟨_, Ahead.star_iff.mpr (.inr ⟨_, rfl, may⟩)⟩
  | group body ih =>
    exact ((Passage.Carries.boundary _ _).andThen (ih.andThen (.boundary _ _))).imp fun may =>
      ⟨_, Ahead.group_iff.mpr may⟩

/-- At the end of a text no character gives an answer. -/
theorem keeps_at_end (p : Pattern) (goal : Goal) (before : List Char) (onward : Passage) :
    Keeps ((ofPattern p).advance ⟨before.length, before.getLast?, none⟩ onward) p goal before
      [] := by
  induction p generalizing goal onward with
  | empty => exact .empty
  | char set => exact .char (.none _)
  | look look => exact (Keeps.look look : Keeps _ _ goal before [])
  | seq a b ih ih' => exact .seq (ih _ _) (ih' _ _)
  | alt a b ih ih' => exact .alt (ih _ _) (ih' _ _)
  | plus greedy a ih => exact .plus (ih _ _)
  | star greedy a ih => exact .star (ih _ _)
  | group name a ih => exact .group (ih _ _)

/-- Sound answers behind a character give sound answers in front of it, where `onward` leads from
behind the pattern back to it. -/
theorem Keeps.advance {onward : Passage} (keeps : Keeps armed p goal (before ++ [c]) after)
    (leads : onward.Carries (goal (before ++ [c]) after) (Ahead p goal (before ++ [c]) after)) :
    Keeps (armed.advance ⟨before.length, before.getLast?, some c⟩ onward) p goal before
      (c :: after) := by
  generalize place : before ++ [c] = front at keeps leads
  induction keeps generalizing onward with
  | empty => exact .empty
  | char sound =>
    subst place
    refine .char ⟨fun {t} found => ?_⟩
    obtain ⟨member, found⟩ := Option.ite_none_right_eq_some.mp found
    obtain ⟨n, may⟩ := (leads.complete sound).way found
    exact ⟨n + 1, Ahead.char_cons_iff.mpr ⟨member, n, rfl, may⟩⟩
  | @look goal _ _ look => exact (Keeps.look look : Keeps _ _ goal before (c :: _))
  | @seq _ p q goal front after _ first second ih ih' =>
    have whole : onward.Carries (goal front after) (Ahead p (Ahead q goal) front after) :=
      ⟨fun sound => leads.complete (sound.imp fun may => ⟨_, Ahead.seq_iff.mpr may⟩)⟩
    exact .seq (ih place (second.carries.andThen whole)) (ih' place (whole.andThen first.carries))
  | @alt _ p goal front after _ q preferred other ih ih' =>
    have left : (Passage.orElse .skip (.stay _)).Carries
        (Ahead (.alt p q) goal front after) (Ahead p goal front after) :=
      ((Passage.Carries.skip _).imp fun may => ⟨_, Ahead.alt_iff.mpr (.inl may)⟩).orElse
        (.stay (other.carries.inside.imp fun may => ⟨_, Ahead.alt_iff.mpr (.inr may)⟩) _)
    have right : (Passage.orElse (.stay _) .skip).Carries
        (Ahead (.alt p q) goal front after) (Ahead q goal front after) :=
      (Passage.Carries.stay
        (preferred.carries.inside.imp fun may => ⟨_, Ahead.alt_iff.mpr (.inl may)⟩) _).orElse
        ((Passage.Carries.skip _).imp fun may => ⟨_, Ahead.alt_iff.mpr (.inr may)⟩)
    exact .alt (ih place (leads.andThen left)) (ih' place (leads.andThen right))
  | @plus _ p goal front after greedy body ih =>
    refine .plus (ih place (.prefer greedy ?_ ⟨fun sound => ?_⟩))
    · exact (Passage.Carries.skip _).imp fun may => ⟨_, .inr (Ahead.plus_iff.mpr may)⟩
    · exact (leads.complete (sound.imp fun may => ⟨_, Ahead.plus_iff.mpr may⟩)).imp fun may =>
        ⟨_, .inl may⟩
  | @star _ p goal front after greedy body ih =>
    refine .star (ih place (.prefer greedy ?_ (.stay ?_ _)))
    · exact (Passage.Carries.skip _).imp fun may => ⟨_, Ahead.star_iff.mpr (.inl may)⟩
    · exact leads.inside.imp fun may =>
        ⟨_, Ahead.star_iff.mpr (.inr ⟨_, rfl, may⟩)⟩
  | @group _ p front after goal name body ih =>
    subst place
    have again : (onward.andThen (.boundary ⟨name, true, before.length + 1⟩)).Carries
        (goal (before ++ [c]) after) (Ahead p (goal.closing name) (before ++ [c]) after) :=
      leads.andThen ((Passage.Carries.boundary _ _).imp fun may =>
        ⟨_, Ahead.group_iff.mpr (by simpa using may)⟩)
    have closed := (Passage.Carries.boundary ⟨name, false, before.length + 1⟩ _).andThen again
    exact .group (ih rfl (by simpa [Goal.closing] using closed))

end Armed
end PathEdit.Regex
