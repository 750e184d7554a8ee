import PathEdit.Proofs.Path.Frame
import PathEdit.Proofs.Path.Grammar

/-! The pattern of names in the standard format, and the texts that it reads. -/
namespace PathEdit.Grammar

open Regex
open PathEdit.Frame (isDigit_iff)
open scoped Computability

/-- The characters that a name may begin with, as a set. -/
def firstSet : CharSet := ⟨[⟨65, 90⟩, ⟨95, 95⟩, ⟨97, 122⟩]⟩

def plainSet : CharSet := ⟨[⟨45, 45⟩, ⟨47, 57⟩, ⟨65, 90⟩, ⟨95, 95⟩, ⟨97, 122⟩]⟩

def quotableSet : CharSet := ⟨[⟨45, 57⟩, ⟨65, 90⟩, ⟨95, 95⟩, ⟨97, 122⟩]⟩

theorem isAlpha_iff {c : Char} : c.isAlpha = true ↔
    (65 ≤ c.toNat ∧ c.toNat ≤ 90) ∨ (97 ≤ c.toNat ∧ c.toNat ≤ 122) := by
  have cases : c.isAlpha = (c.isUpper || c.isLower) := rfl
  have upper : c.isUpper = decide (c.val ≥ 'A'.val ∧ c.val ≤ 'Z'.val) := rfl
  have lower : c.isLower = (decide (c.val ≥ 'a'.val) && decide (c.val ≤ 'z'.val)) := rfl
  simp only [cases, upper, lower, Bool.or_eq_true, Bool.and_eq_true, decide_eq_true_iff, ge_iff_le,
    UInt32.le_iff_toNat_le]
  rfl

theorem contains_firstSet : firstSet.contains = beginsName := by
  funext c
  apply Bool.eq_iff_iff.mpr
  simp [firstSet, CharSet.contains, CharSet.holds, CodeRange.holds, beginsName, isAlpha_iff,
    ← Char.toNat_inj]
  omega

theorem contains_plainSet : plainSet.contains = isPlain := by
  funext c
  apply Bool.eq_iff_iff.mpr
  simp [plainSet, CharSet.contains, CharSet.holds, CodeRange.holds, isPlain_iff, isAlpha_iff,
    isDigit_iff, ← Char.toNat_inj]
  omega

theorem contains_quotableSet : quotableSet.contains = isQuotable := by
  funext c
  apply Bool.eq_iff_iff.mpr
  simp [quotableSet, CharSet.contains, CharSet.holds, CodeRange.holds, isQuotable, isPlain_iff,
    isAlpha_iff, isDigit_iff, ← Char.toNat_inj]
  omega

def firstChars : Pattern := .seq .empty (.plus true (.char firstSet))

def namePattern : Pattern :=
  .alt
    (.seq (.char (.single '"'))
      (.seq firstChars (.seq (.star true (.char quotableSet)) (.char (.single '"')))))
    (.seq firstChars (.star true (.char plainSet)))

/-- What the texts of the standard format are read as. -/
theorem standard_eq : PathSyntax.standard =
    ⟨Frame.path (Frame.loop false true namePattern) namePattern, Frame.lone namePattern⟩ :=
  Option.get_of_eq_some _ (by decide +kernel)

theorem standard_frames : PathSyntax.standard.Frames namePattern where
  lone := congrArg PathSyntax.name standard_eq
  path := ⟨false, true, congrArg PathSyntax.path standard_eq⟩

/-- The texts of names. -/
def names : Language Char := {text | ∃ name, Spells text name}

theorem mem_firstChars_iff {kind : Char → Bool}
    (wider : ∀ {c}, beginsName c = true → kind c = true) :
    text ∈ 1 * (chars beginsName * (chars beginsName)∗) * (chars kind)∗ ↔ Identifier kind text := by
  rw [one_mul, mul_assoc, mem_chars_mul]
  constructor
  · intro membership
    obtain ⟨c, _, rfl, first, member⟩ := membership
    obtain ⟨front, inFront, rest, inRest, rfl⟩ := Language.mem_mul.mp member
    refine .intro first fun d present => ?_
    rcases List.mem_append.mp present with early | late
    · exact wider (mem_kstar_chars.mp inFront d early)
    · exact mem_kstar_chars.mp inRest d late
  · intro membership
    obtain ⟨first, rest⟩ := membership
    exact ⟨_, _, rfl, first,
      Language.append_mem_mul (Language.nil_mem_kstar _) (mem_kstar_chars.mpr rest)⟩

theorem accepts_firstChars :
    Accepts firstChars (1 * (chars beginsName * (chars beginsName)∗)) := by
  rw [← contains_firstSet]
  exact .seq .empty (.plus true (.char firstSet))

theorem mem_names_iff : text ∈ names ↔
    (∃ word, text = '"' :: (word ++ ['"']) ∧ Identifier isQuotable word) ∨
      Identifier isPlain text := by
  constructor
  · intro membership
    obtain ⟨_, spells⟩ := membership
    cases spells with
    | plain name => exact .inr name
    | quoted name => exact .inl ⟨_, rfl, name⟩
  · intro membership
    rcases membership with ⟨word, rfl, name⟩ | name
    · exact ⟨_, .quoted name⟩
    · exact ⟨_, .plain name⟩

theorem accepts_namePattern : Accepts namePattern names := by
  have quoted := (Accepts.char (.single '"')).seq (accepts_firstChars.seq
    (((Accepts.char quotableSet).star true).seq (.char (.single '"'))))
  have plain := accepts_firstChars.seq ((Accepts.char plainSet).star true)
  refine (quoted.alt plain).congr fun {text} => ?_
  rw [contains_single, contains_quotableSet, contains_plainSet, mem_names_iff, Language.mem_add,
    mem_firstChars_iff isPlain_of_beginsName, ← mul_assoc (1 * _), mem_enclosed_iff]
  refine or_congr_left ?_
  constructor
  · intro membership
    obtain ⟨word, rfl, name⟩ := membership
    exact ⟨word, (mem_firstChars_iff isQuotable_of_beginsName).mpr name, rfl⟩
  · intro membership
    obtain ⟨word, name, rfl⟩ := membership
    exact ⟨word, rfl, (mem_firstChars_iff isQuotable_of_beginsName).mp name⟩

end PathEdit.Grammar
