import Mathlib.Data.List.Basic
import PathEdit.Unicode.Property

/-! The ends of texts: what stands behind the last character that is no white space. -/
namespace PathEdit.Unicode

/-- The text without the line break at its end, if there is one. -/
def chomp (text : List Char) : List Char :=
  if text.getLast? = some '\n' then text.dropLast else text

/-- The text with a line break at its end, which is added when there is none. -/
def ended (text : List Char) : List Char :=
  if text.getLast? = some '\n' then text else text ++ ['\n']

/-- Whether nothing but at most one line break stands behind the last character that is no white
space. -/
def isSolid (text : List Char) : Bool := (chomp text).getLast?.any fun c => !isWhiteSpace c

variable {c : Char} {text : List Char}

theorem chomp_break (text : List Char) : chomp (text ++ ['\n']) = text := by simp [chomp]

theorem chomp_concat (other : c ≠ '\n') (text : List Char) : chomp (text ++ [c]) = text ++ [c] := by
  simp [chomp, other]

theorem chomp_ne_nil (several : 1 < text.length) : chomp text ≠ [] := by
  rw [chomp]
  split
  · exact List.ne_nil_of_length_pos (by rw [List.length_dropLast]; omega)
  · exact List.ne_nil_of_length_pos (Nat.lt_of_succ_lt several)

theorem ended_eq (text : List Char) : ended text = chomp text ++ ['\n'] := by
  rw [ended, chomp]
  split
  · rename_i last
    exact (List.dropLast_append_getLast? _ last).symm
  · rfl

theorem chomp_ne_nil_of_isSolid (solid : isSolid text = true) : chomp text ≠ [] := by
  intro none
  rw [isSolid, none] at solid
  cases solid

theorem isSolid_break (text : List Char) :
    isSolid (text ++ ['\n']) = text.getLast?.any fun c => !isWhiteSpace c := by
  rw [isSolid, chomp_break]

theorem isSolid_of_notMem (without : '\n' ∉ text) :
    isSolid text = text.getLast?.any fun c => !isWhiteSpace c := by
  rw [isSolid, chomp, if_neg]
  exact fun last => without (List.mem_of_getLast? last)

theorem isSolid_concat (other : c ≠ '\n') (text : List Char) :
    isSolid (text ++ [c]) = !isWhiteSpace c := by
  rw [isSolid, chomp_concat other, List.getLast?_concat, Option.any_some]

/-- The last character of a line decides. -/
theorem isSolid_line (text : List Char) (c : Char) :
    isSolid (text ++ [c, '\n']) = !isWhiteSpace c := by
  rw [List.append_cons, isSolid_break, List.getLast?_concat, Option.any_some]

theorem notMem_whiteSpace : ∀ code < 0x85, 0x20 < code → Span.holds code whiteSpace = false := by
  decide

theorem isWhiteSpace_of_isDigit (digit : c.isDigit = true) : isWhiteSpace c = false := by
  obtain ⟨first, last⟩ := Char.isDigit_iff_toNat.mp digit
  exact notMem_whiteSpace _ (Nat.lt_of_le_of_lt last (by decide))
    (Nat.lt_of_lt_of_le (by decide) first)

end PathEdit.Unicode
