import PathEdit.Proofs.Regex.Run

/-! What a passage says of runs: it leads from the prospects here to those there. A run is never
lost, though one that comes back to where it was may be cut short. -/
namespace PathEdit.Regex

/-- An answer is one of the traces that may happen, and is missing only when there is none. -/
structure Answer.Agrees (answer : Answer) (here : Prospect) : Prop where
  sound : ∀ {t}, answer = some t → ∃ n, here t n
  complete : ∀ {t n}, here t n → answer.isSome = true

namespace Answer.Agrees

variable {answer : Answer} {here other : Prospect}

theorem congr (agrees : answer.Agrees here) (same : ∀ {t n}, other t n ↔ here t n) :
    answer.Agrees other where
  sound found := (agrees.sound found).imp fun _ => same.mpr
  complete may := agrees.complete (same.mp may)

theorem or {second : Answer} (first : answer.Agrees here) (behind : second.Agrees other) :
    Answer.Agrees (Option.or answer second) (here.or other) where
  sound found := by
    rcases Option.or_eq_some_iff.mp found with found | ⟨_, found⟩
    · exact (first.sound found).imp fun _ => .inl
    · exact (behind.sound found).imp fun _ => .inr
  complete may := by
    rw [Option.isSome_or, Bool.or_eq_true]
    exact may.imp first.complete behind.complete

end Answer.Agrees

namespace Passage

variable {p q : Passage}

theorem isSome_inside :
    p.inside.isSome = true ↔ p.sooner.isSome = true ∨ p.later.isSome = true := by
  simp [inside]

theorem andThen_of_closed (passed : p.through = none) : p.andThen q = p := by
  simp [andThen, passed]

theorem isSome_inside_andThen (passed : p.through = some u) :
    (p.andThen q).inside.isSome = true ↔ p.inside.isSome = true ∨ q.inside.isSome = true := by
  simp only [isSome_inside, andThen, passed, Option.isSome_or, Option.isSome_map, Bool.or_eq_true]
  grind

theorem isSome_inside_orElse :
    (p.orElse q).inside.isSome = true ↔ p.inside.isSome = true ∨ q.inside.isSome = true := by
  cases passed : p.through <;>
    simp only [orElse, passed, inside, Option.isSome_or, Bool.or_eq_true] <;> grind

theorem isSome_through_orElse :
    (p.orElse q).through.isSome = true ↔ p.through.isSome = true ∨ q.through.isSome = true := by
  cases passed : p.through <;> simp [orElse, passed]

/-- A passage leads from `here` to `there`. What may happen here is found inside, or goes on there
with `gain` fewer steps, or comes back to `loop` with fewer steps. -/
structure Joins (p : Passage) (gain : Nat) (here there loop : Prospect) : Prop where
  sooner : ∀ {t}, p.sooner = some t → ∃ n, here t n
  later : ∀ {t}, p.later = some t → ∃ n, here t n
  through : ∀ {u}, p.through = some u → ∀ {t n}, there t n → ∃ m, here (u ++ t) m
  complete : ∀ {t n}, here t n → p.inside.isSome = true ∨
    (p.through.isSome = true ∧ ∃ u m, m + gain ≤ n ∧ there u m) ∨ ∃ u m, m < n ∧ loop u m

variable {gain : Nat} {here there loop : Prospect}

namespace Joins

theorem inside (joins : p.Joins gain here there loop) {t : Trace} (found : p.inside = some t) :
    ∃ n, here t n := by
  rcases Option.or_eq_some_iff.mp found with sooner | ⟨_, later⟩
  · exact joins.sooner sooner
  · exact joins.later later

theorem congr {other : Prospect} (joins : p.Joins gain here there loop)
    (same : ∀ {t n}, other t n ↔ here t n) : p.Joins gain other there loop where
  sooner found := (joins.sooner found).imp fun _ => same.mpr
  later found := (joins.later found).imp fun _ => same.mpr
  through found _ _ rest := (joins.through found rest).imp fun _ => same.mpr
  complete may := joins.complete (same.mp may)

theorem congr_there {other : Prospect} (joins : p.Joins gain here there loop)
    (same : ∀ {t n}, there t n ↔ other t n) : p.Joins gain here other loop where
  sooner := joins.sooner
  later := joins.later
  through found _ _ rest := joins.through found (same.mpr rest)
  complete may := by
    rcases joins.complete may with found | ⟨passed, u, m, fewer, rest⟩ | back
    · exact .inl found
    · exact .inr (.inl ⟨passed, u, m, fewer, same.mp rest⟩)
    · exact .inr (.inr back)

theorem weaken {less : Nat} (joins : p.Joins gain here there loop) (le : less ≤ gain) :
    p.Joins less here there loop where
  sooner := joins.sooner
  later := joins.later
  through := joins.through
  complete may := by
    rcases joins.complete may with found | ⟨passed, u, m, fewer, rest⟩ | back
    · exact .inl found
    · exact .inr (.inl ⟨passed, u, m, by omega, rest⟩)
    · exact .inr (.inr back)

/-- A passage without a way back leads to the same place when there is one. -/
theorem widen (joins : p.Joins gain here there .none) :
    p.Joins gain here there loop where
  sooner := joins.sooner
  later := joins.later
  through := joins.through
  complete may := by
    rcases joins.complete may with found | onward | ⟨_, _, _, never⟩
    · exact .inl found
    · exact .inr (.inl onward)
    · exact never.elim

/-- One more step in front is one more step gained. -/
theorem delay (joins : p.Joins gain here there loop) :
    p.Joins (gain + 1) here.late there loop where
  sooner found := (joins.sooner found).imp' (· + 1) fun n may => ⟨n, rfl, may⟩
  later found := (joins.later found).imp' (· + 1) fun n may => ⟨n, rfl, may⟩
  through found _ _ rest := (joins.through found rest).imp' (· + 1) fun n may => ⟨n, rfl, may⟩
  complete := by
    rintro t _ ⟨n, rfl, may⟩
    rcases joins.complete may with found | ⟨passed, u, m, fewer, rest⟩ | ⟨u, m, fewer, back⟩
    · exact .inl found
    · exact .inr (.inl ⟨passed, u, m, by omega, rest⟩)
    · exact .inr (.inr ⟨u, m, by omega, back⟩)

theorem skip (here loop : Prospect) : Passage.skip.Joins 0 here here loop where
  sooner found := nomatch found
  later found := nomatch found
  through found _ n rest := by
    cases found
    exact ⟨n, rest⟩
  complete may := .inr (.inl ⟨rfl, _, _, Nat.le_refl _, may⟩)

theorem stay {answer : Answer} (agrees : answer.Agrees here) :
    (Passage.stay answer).Joins gain here there loop where
  sooner := agrees.sound
  later found := nomatch found
  through found := nomatch found
  complete may := .inl (isSome_inside.mpr (.inl (agrees.complete may)))

theorem closed (never : ∀ {t n}, ¬ here t n) : Passage.closed.Joins gain here there loop :=
  stay ⟨(nomatch ·), fun may => absurd may never⟩

theorem boundary (b : Boundary) : (Passage.boundary b).Joins 0 (.behind b here) here loop where
  sooner found := nomatch found
  later found := nomatch found
  through found t n rest := by
    cases found
    exact ⟨n, t, rfl, rest⟩
  complete may := by
    obtain ⟨u, rfl, rest⟩ := may
    exact .inr (.inl ⟨rfl, u, _, Nat.le_refl _, rest⟩)

/-- A run that does not stay in a part comes back to where the part leads. -/
theorem stay_inside (joins : p.Joins gain here loop loop) (positive : 0 < gain) {less : Nat} :
    (Passage.stay p.inside).Joins less here there loop where
  sooner := joins.inside
  later found := nomatch found
  through found := nomatch found
  complete may := by
    rcases joins.complete may with found | ⟨_, u, m, fewer, back⟩ | back
    · exact .inl (isSome_inside.mpr (.inl found))
    · exact .inr (.inr ⟨u, m, by omega, back⟩)
    · exact .inr (.inr back)

/-- What a passage leads to may in part be a way back. -/
theorem turn_back (joins : p.Joins gain here (there.or loop) loop) (positive : 0 < gain) :
    p.Joins gain here there loop where
  sooner := joins.sooner
  later := joins.later
  through found _ _ rest := joins.through found (.inl rest)
  complete may := by
    rcases joins.complete may with found | ⟨passed, u, m, fewer, rest | back⟩ | back
    · exact .inl found
    · exact .inr (.inl ⟨passed, u, m, fewer, rest⟩)
    · exact .inr (.inr ⟨u, m, by omega, back⟩)
    · exact .inr (.inr back)

theorem andThen {middle : Prospect} {more : Nat} (first : p.Joins gain here middle loop)
    (second : q.Joins more middle there loop) :
    (p.andThen q).Joins (gain + more) here there loop := by
  cases passed : p.through with
  | none =>
    rw [andThen_of_closed passed]
    refine ⟨first.sooner, first.later, ?_, fun may => ?_⟩
    · simp [passed]
    · rcases first.complete may with found | ⟨leads, _⟩ | back
      · exact .inl found
      · simp [passed] at leads
      · exact .inr (.inr back)
  | some u =>
    refine ⟨fun found => ?_, fun found => ?_, fun found t n rest => ?_, fun may => ?_⟩
    · simp only [Passage.andThen, passed, Option.or_eq_some_iff, Option.map_eq_some_iff] at found
      rcases found with sooner | ⟨_, t, behind, rfl⟩
      · exact first.sooner sooner
      · obtain ⟨n, rest⟩ := second.sooner behind
        exact first.through passed rest
    · simp only [Passage.andThen, passed, Option.or_eq_some_iff, Option.map_eq_some_iff] at found
      rcases found with ⟨t, behind, rfl⟩ | ⟨_, later⟩
      · obtain ⟨n, rest⟩ := second.later behind
        exact first.through passed rest
      · exact first.later later
    · simp only [Passage.andThen, passed, Option.map_eq_some_iff] at found
      obtain ⟨v, leads, rfl⟩ := found
      obtain ⟨m, rest⟩ := second.through leads rest
      simpa using first.through passed rest
    · rw [isSome_inside_andThen passed]
      rcases first.complete may with found | ⟨_, v, m, fewer, rest⟩ | back
      · exact .inl (.inl found)
      · rcases second.complete rest with found | ⟨leads, w, k, less, rest⟩ | ⟨w, k, less, back⟩
        · exact .inl (.inr found)
        · exact .inr (.inl ⟨by simpa [Passage.andThen, passed] using leads, w, k, by omega, rest⟩)
        · exact .inr (.inr ⟨w, k, by omega, back⟩)
      · exact .inr (.inr back)

theorem orElse {other : Prospect} (first : p.Joins gain here there loop)
    (second : q.Joins gain other there loop) :
    (p.orElse q).Joins gain (here.or other) there loop where
  sooner found := by
    cases passed : p.through with
    | none =>
      simp only [Passage.orElse, passed, Option.or_eq_some_iff] at found
      rcases found with inside | ⟨_, sooner⟩
      · exact (first.inside inside).imp fun _ => .inl
      · exact (second.sooner sooner).imp fun _ => .inr
    | some u =>
      simp only [Passage.orElse, passed] at found
      exact (first.sooner found).imp fun _ => .inl
  later found := by
    cases passed : p.through with
    | none =>
      simp only [Passage.orElse, passed] at found
      exact (second.later found).imp fun _ => .inr
    | some u =>
      simp only [Passage.orElse, passed, Option.or_eq_some_iff] at found
      rcases found with later | ⟨_, inside⟩
      · exact (first.later later).imp fun _ => .inl
      · exact (second.inside inside).imp fun _ => .inr
  through {u} found _ _ rest := by
    cases passed : p.through with
    | none =>
      simp only [Passage.orElse, passed] at found
      exact (second.through found rest).imp fun _ => .inr
    | some v =>
      simp only [Passage.orElse, passed] at found
      exact (first.through (passed.trans found) rest).imp fun _ => .inl
  complete may := by
    rw [isSome_inside_orElse, isSome_through_orElse]
    rcases may with may | may
    · rcases first.complete may with found | ⟨passed, onward⟩ | back
      · exact .inl (.inl found)
      · exact .inr (.inl ⟨.inl passed, onward⟩)
      · exact .inr (.inr back)
    · rcases second.complete may with found | ⟨passed, onward⟩ | back
      · exact .inl (.inr found)
      · exact .inr (.inl ⟨.inr passed, onward⟩)
      · exact .inr (.inr back)

theorem prefer {other : Prospect} (greedy : Bool) (more : p.Joins gain here there loop)
    (fewer : q.Joins gain other there loop) :
    (Passage.prefer greedy p q).Joins gain (here.or other) there loop := by
  cases greedy with
  | true => exact more.orElse fewer
  | false => exact (fewer.orElse more).congr or_comm

/-- A way back to where the passage began can be left out: the shortest run does not take it. -/
theorem unloop (joins : p.Joins gain here there here) : p.Joins gain here there loop where
  sooner := joins.sooner
  later := joins.later
  through := joins.through
  complete {t n} may := by
    induction n using Nat.strongRecOn generalizing t with
    | ind n ih =>
      rcases joins.complete may with found | onward | ⟨u, m, fewer, back⟩
      · exact .inl found
      · exact .inr (.inl onward)
      · rcases ih m fewer back with found | ⟨passed, v, k, less, rest⟩ | ⟨v, k, less, loops⟩
        · exact .inl found
        · exact .inr (.inl ⟨passed, v, k, by omega, rest⟩)
        · exact .inr (.inr ⟨v, k, by omega, loops⟩)

/-- The preferred run behind a passage answers for what may happen in front of it. -/
theorem agrees {rest : Answer} (joins : p.Joins gain here there .none)
    (behind : rest.Agrees there) : (p.complete rest).Agrees here where
  sound {t} found := by
    simp only [Passage.complete, Option.or_eq_some_iff, Option.bind_eq_some_iff,
      Option.map_eq_some_iff] at found
    rcases found with sooner | ⟨_, ⟨u, passed, v, answered, rfl⟩ | ⟨_, later⟩⟩
    · exact joins.sooner sooner
    · obtain ⟨n, may⟩ := behind.sound answered
      exact joins.through passed may
    · exact joins.later later
  complete may := by
    rcases joins.complete may with found | ⟨passed, u, m, _, rest⟩ | ⟨_, _, _, never⟩
    · simp only [isSome_inside] at found
      simp only [Passage.complete, Option.isSome_or, Bool.or_eq_true]
      grind
    · obtain ⟨v, passed⟩ := Option.isSome_iff_exists.mp passed
      obtain ⟨w, answered⟩ := Option.isSome_iff_exists.mp (behind.complete rest)
      simp [Passage.complete, passed, answered]
    · exact never.elim

end Joins
end Passage
end PathEdit.Regex
