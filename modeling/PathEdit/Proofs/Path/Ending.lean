import PathEdit.Proofs.Path.Frame
import PathEdit.Proofs.Path.Steps

/-! Whether splitting comes to an end. It does where something is always cut off, which a last step
behind the text in front of it is. -/
namespace PathEdit

open Regex

variable {s : PathSyntax} {text before word after : List Char} {p loop name : Pattern} {t : Trace}

namespace Regex

/-- Without groups there are no boundaries. -/
theorem trace_eq_nil (reads : Reads p before word after t) (unnamed : p.groups = []) : t = [] := by
  obtain ⟨_, run⟩ := reads
  induction run with
  | empty | char | look | stop => rfl
  | seq _ _ first second =>
    obtain ⟨left, right⟩ := List.append_eq_nil_iff.mp unnamed
    rw [first left, second right, List.append_nil]
  | preferred _ ih => exact ih (List.append_eq_nil_iff.mp unnamed).1
  | other _ ih => exact ih (List.append_eq_nil_iff.mp unnamed).2
  | once _ ih => exact ih unnamed
  | again _ _ first rest | turn _ _ first rest => rw [first unnamed, rest unnamed, List.append_nil]
  | group => cases unnamed

end Regex

namespace PathSyntax

/-- Splitting ends where every split leaves less to be split. -/
theorem isSome_steps? (shorter : ∀ {text split}, s.split? text = some split →
    split.parent.length < text.length) (text : List Char) : (s.steps? text).isSome = true := by
  induction length : text.length using Nat.strong_induction_on generalizing text with
  | h _ ih =>
    subst length
    cases plain : isPlain text && s.name.occursIn text with
    | true =>
      obtain ⟨plain, occurs⟩ := Bool.and_eq_true_iff.mp plain
      rw [steps?_of_plain plain occurs]
      rfl
    | false =>
      cases found : s.split? text with
      | none =>
        rw [steps?_of_whole found]
        rfl
      | some split =>
        rw [steps?_of_split found plain, Option.isSome_map]
        split
        · rfl
        · exact ih _ (shorter found) _ rfl

/-- A last step begins with a point or a bracket, and says nothing about the text in front of it. -/
theorem reads_lastStep (reads : Reads (Frame.lastStep name) before word after t)
    (unnamed : name.groups = []) : (∃ c rest, word = c :: rest ∧ (c = '.' ∨ c = '[')) ∧
      ∀ opening, t.last? "parent" opening = none := by
  rw [Frame.lastStep, Frame.bracketed, reads_alt_iff, reads_behind_char_iff,
    reads_behind_char_iff] at reads
  rcases reads with ⟨rest, rfl, point⟩ | ⟨rest, rfl, bracket⟩
  · obtain ⟨u, rfl, inside⟩ := reads_group_iff.mp point
    obtain rfl := trace_eq_nil inside unnamed
    exact ⟨⟨_, _, rfl, .inl rfl⟩, fun _ => last?_around_of_ne (by decide)⟩
  · obtain ⟨inner, rfl, inside⟩ := reads_before_char_iff.mp bracket
    obtain ⟨-, rfl⟩ := (Frame.accepts_index true).reads_group_iff.mp inside
    exact ⟨⟨_, _, rfl, .inr rfl⟩, fun _ => last?_around_of_ne (by decide)⟩

/-- What is split begins anew with a point or a bracket, where the group in front of it is the only one
of its name. -/
theorem parent_of_split? (path : s.path = Frame.path loop name) (unnamed : loop.groups = [])
    (unnamed' : name.groups = []) {split : Split} (found : s.split? text = some split) :
    ∃ front c last, text = front ++ c :: last ∧ (c = '.' ∨ c = '[') ∧
      split.parent = dropPoint front := by
  rw [split?, path, Option.map_eq_some_iff] at found
  obtain ⟨t, found, rfl⟩ := found
  obtain ⟨before, word, after, n, rfl, run⟩ := Pattern.exists_run_of_match? found
  have reads : Reads (Frame.path loop name) before word after t := ⟨n, run⟩
  rw [Frame.path, Pattern.leading, reads_from_start_iff, reads_seq_iff] at reads
  obtain ⟨rfl, front, last, _, v, rfl, rfl, first, second⟩ := reads
  obtain ⟨_, rfl, inside⟩ := reads_group_iff.mp first
  obtain rfl := trace_eq_nil inside unnamed
  obtain ⟨rfl, step⟩ := reads_to_end_iff.mp second
  obtain ⟨⟨c, last, rfl, joins⟩, silent⟩ := reads_lastStep step unnamed'
  refine ⟨front, c, last, by simp, joins, ?_⟩
  change dropPoint ((Trace.capture? (around "parent" [] front ++ v) "parent" _).getD []) = _
  have parent : Trace.capture? (around "parent" [] front ++ v) "parent"
      ([] ++ (front ++ c :: last ++ [])) = some front := by
    simp [Trace.capture?, last?_append, last?_around, silent]
  rw [parent]
  rfl

theorem length_parent_lt (path : s.path = Frame.path loop name) (unnamed : loop.groups = [])
    (unnamed' : name.groups = []) {split : Split} (found : s.split? text = some split) :
    split.parent.length < text.length := by
  obtain ⟨front, c, last, rfl, -, parent⟩ := parent_of_split? path unnamed unnamed' found
  rw [parent]
  refine (isPrefix_dropPoint front).length_le.trans_lt ?_
  simp

end PathSyntax
end PathEdit
