import PathEdit.Proofs.Path.Parsing

/-! The canonical text of a path is an expression of the grammar, which denotes the path. -/
namespace PathEdit

open Grammar

/-- A step whose name, if it has one, may stand in quotes. -/
def Step.Nameable : Step → Prop
  | key name => Identifier isQuotable name.toList
  | position _ | wildcard => True

variable {path rest : Path} {step : Step} {text : List Char}

namespace Step

theorem spells_nameChars {name : String} (legal : Identifier isQuotable name.toList) :
    Spells (nameChars name.toList) name := by
  suffices spells : Spells (nameChars name.toList) (String.ofList name.toList) by
    rwa [String.ofList_toList] at spells
  unfold nameChars
  split
  · exact .quoted legal
  · rename_i pointless
    refine .plain ?_
    generalize name.toList = word at legal pointless
    obtain ⟨first, rest⟩ := legal
    refine .intro first fun d present => ?_
    have other : d ≠ '.' := by
      intro equal
      subst equal
      exact pointless (by simp [present])
    simpa [isQuotable, other] using rest d present

theorem indexes_toDigits (index : UInt64) :
    Indexes (Nat.toDigits 10 index.toNat) (.position index) := by
  have value : Nat.ofDigitChars 10 (Nat.toDigits 10 index.toNat) 0 = index.toNat :=
    Nat.ofDigitChars_toDigits (by decide) (by decide)
  have inside : Indexes (Nat.toDigits 10 index.toNat)
      (.position (UInt64.ofNat (Nat.ofDigitChars 10 (Nat.toDigits 10 index.toNat) 0))) :=
    .position Nat.toDigits_ne_nil
      (fun _ present => Nat.isDigit_of_mem_toDigits (by decide) (by decide) present)
      (by rw [value]; exact index.toNat_lt)
  rwa [value, UInt64.ofNat_toNat] at inside

theorem tail_chars (legal : step.Nameable) : Tail step.chars step := by
  cases step with
  | key name => exact .name (spells_nameChars legal)
  | position index => exact .index (indexes_toDigits index)
  | wildcard => exact .index .wildcard

theorem head_leadingChars (legal : step.Nameable) : Head step.leadingChars step := by
  cases step with
  | key name => exact .name (spells_nameChars legal)
  | position index => exact .tail (tail_chars legal)
  | wildcard => exact .tail (tail_chars legal)

end Step

namespace Path

/-- Further steps are written behind a path as they are. -/
theorem denotes_append (denotes : Denotes text path) (legal : ∀ step ∈ rest, step.Nameable) :
    Denotes (text ++ rest.flatMap Step.chars) (path ++ rest) := by
  induction rest generalizing text path with
  | nil => simpa using denotes
  | cons step rest ih =>
    obtain ⟨first, legal⟩ := List.forall_mem_cons.mp legal
    simpa using ih (denotes.tail (Step.tail_chars first)) legal

theorem denotes_chars (nonempty : path ≠ []) (legal : ∀ step ∈ path, step.Nameable) :
    Denotes path.chars path := by
  obtain ⟨step, rest, rfl⟩ := List.exists_cons_of_ne_nil nonempty
  obtain ⟨first, legal⟩ := List.forall_mem_cons.mp legal
  exact denotes_append (.head (Step.head_leadingChars first)) legal

theorem parse_text_eq (nonempty : path ≠ []) (legal : ∀ step ∈ path, step.Nameable) :
    PathSyntax.standard.parse path.text = .ok path := by
  rw [parse_eq_ok_iff, text, String.toList_ofList]
  exact denotes_chars nonempty legal

/-- Reading undoes writing, for every path whose names may stand in quotes. -/
theorem standard_parse_text (nonempty : path ≠ [])
    (legal : ∀ name, .key name ∈ path → Identifier isQuotable name.toList) :
    PathSyntax.standard.parse path.text = .ok path := by
  refine parse_text_eq nonempty fun step present => ?_
  cases step with
  | key name => exact legal name present
  | position => trivial
  | wildcard => trivial

theorem standard_parse_text_mixed :
    PathSyntax.standard.parse (Path.text [.key "a.b", .wildcard, .key "c", .position 7]) =
      .ok [.key "a.b", .wildcard, .key "c", .position 7] := by
  refine standard_parse_text (List.cons_ne_nil _ _) fun name present => ?_
  obtain rfl | rfl : name = "a.b" ∨ name = "c" := by simpa using present
  · decide
  · decide

end Path
end PathEdit
