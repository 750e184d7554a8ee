import PathEdit.Path.Syntax

/-! The grammar of path expressions in the standard format. A path is a first step with further
steps behind it; every name behind the first step has a point in front. -/
namespace PathEdit.Grammar

/-- The characters that a name may begin with. -/
def beginsName (c : Char) : Bool := c.isAlpha || c == '_'

/-- The characters of a name without quotes. -/
def isPlain (c : Char) : Bool := c.isAlphanum || c == '_' || c == '/' || c == '-'

/-- In quotes a name may hold points, too. -/
def isQuotable (c : Char) : Bool := isPlain c || c == '.'

theorem isPlain_iff {c : Char} : isPlain c = true ↔
    c.isAlpha = true ∨ c.isDigit = true ∨ c = '_' ∨ c = '/' ∨ c = '-' := by
  simp only [isPlain, Char.isAlphanum, Bool.or_eq_true, beq_iff_eq, or_assoc]

theorem isPlain_of_beginsName (begins : beginsName c = true) : isPlain c = true := by
  rw [beginsName, Bool.or_eq_true, beq_iff_eq] at begins
  rw [isPlain_iff]
  rcases begins with letter | line
  · exact .inl letter
  · exact .inr (.inr (.inl line))

theorem isQuotable_of_beginsName (begins : beginsName c = true) : isQuotable c = true := by
  simp [isQuotable, isPlain_of_beginsName begins]

/-- A name whose characters behind the first one are of a kind. -/
inductive Identifier (kind : Char → Bool) : List Char → Prop where
  | intro (first : beginsName c = true) (rest : ∀ d ∈ cs, kind d = true) :
      Identifier kind (c :: cs)

instance (kind : Char → Bool) : DecidablePred (Identifier kind)
  | [] => .isFalse nofun
  | c :: cs => decidable_of_iff ((beginsName c && cs.all kind) = true) <| by
    rw [Bool.and_eq_true, List.all_eq_true]
    exact ⟨fun ⟨first, rest⟩ => .intro first rest, fun | .intro first rest => ⟨first, rest⟩⟩

variable {kind : Char → Bool} {word : List Char} {c : Char}

theorem Identifier.each (name : Identifier kind word)
    (wider : ∀ {c}, beginsName c = true → kind c = true) : ∀ c ∈ word, kind c = true := by
  obtain ⟨first, rest⟩ := name
  exact List.forall_mem_cons.mpr ⟨wider first, rest⟩

theorem Identifier.notMem (name : Identifier kind word)
    (wider : ∀ {c}, beginsName c = true → kind c = true) (other : kind c = false) : c ∉ word := by
  intro present
  rw [name.each wider c present] at other
  cases other

theorem Identifier.notMem_of_plain (name : Identifier isPlain word) (other : isPlain c = false) :
    c ∉ word := name.notMem isPlain_of_beginsName other

theorem Identifier.notMem_of_quotable (name : Identifier isQuotable word)
    (other : isQuotable c = false) : c ∉ word := name.notMem isQuotable_of_beginsName other

/-- The texts of a name: the name itself, or the name in quotes. -/
inductive Spells : List Char → String → Prop where
  | plain (name : Identifier isPlain cs) : Spells cs (String.ofList cs)
  | quoted (name : Identifier isQuotable cs) : Spells ('"' :: (cs ++ ['"'])) (String.ofList cs)

/-- What stands between brackets: an asterisk, or digits of a number of at most 64 bits. -/
inductive Indexes : List Char → Step → Prop where
  | wildcard : Indexes ['*'] .wildcard
  | position (nonempty : digits ≠ []) (each : ∀ c ∈ digits, c.isDigit = true)
      (bounded : Nat.ofDigitChars 10 digits 0 < UInt64.size) :
      Indexes digits (.position (UInt64.ofNat (Nat.ofDigitChars 10 digits 0)))

/-- A step behind another one. -/
inductive Tail : List Char → Step → Prop where
  | name (spells : Spells text name) : Tail ('.' :: text) (.key name)
  | index (indexes : Indexes text step) : Tail ('[' :: (text ++ [']'])) step

/-- The first step, whose name needs no point. -/
inductive Head : List Char → Step → Prop where
  | name (spells : Spells text name) : Head text (.key name)
  | tail (tail : Tail text step) : Head text step

/-- The expressions of paths. -/
inductive Denotes : List Char → Path → Prop where
  | head (head : Head text step) : Denotes text [step]
  | tail (before : Denotes text path) (tail : Tail last step) :
      Denotes (text ++ last) (path ++ [step])

end PathEdit.Grammar
