import PathEdit.Proofs.Binary64.Characters
import PathEdit.Proofs.Json.Reading

/-! What stands outside of the strings of a JSON text: its brackets, and the blanks behind colons. A
text is followed character by character, so that brackets and colons in strings do not count. -/
namespace PathEdit.Json

/-- Where a character of a JSON text stands. -/
inductive Place where
  | outside
  | inside
  /-- In a string, directly behind a reverse solidus. -/
  | escaped
deriving DecidableEq

namespace Place

/-- The place behind a character. -/
def next : Place → Char → Place
  | outside, c => if c = '"' then inside else outside
  | inside, c => if c = '"' then outside else if c = '\\' then escaped else inside
  | escaped, _ => inside

/-- The place behind a text. -/
def behind (place : Place) (text : List Char) : Place := text.foldl next place

/-- The characters outside of strings, without the quotes. -/
def bare (place : Place) : List Char → List Char
  | [] => []
  | c :: rest =>
    if place = outside ∧ c ≠ '"' then c :: (place.next c).bare rest else (place.next c).bare rest

/-- The text without the blank directly behind each colon outside of strings. -/
def tighten (place : Place) (behindColon : Bool) : List Char → List Char
  | [] => []
  | c :: rest =>
    if behindColon ∧ c = ' ' then place.tighten false rest
    else c :: (place.next c).tighten (place = outside ∧ c = ':') rest

variable {place : Place} {text : List Char}

theorem behind_append (place : Place) (text rest : List Char) :
    place.behind (text ++ rest) = (place.behind text).behind rest := List.foldl_append

theorem bare_append (place : Place) (text rest : List Char) :
    place.bare (text ++ rest) = place.bare text ++ (place.behind text).bare rest := by
  induction text generalizing place with
  | nil => rfl
  | cons c text ih =>
    rw [List.cons_append, bare, bare, ih]
    split <;> rfl

/-- A text without colons stays as it is. -/
theorem tighten_append (without : ':' ∉ place.bare text) (rest : List Char) :
    place.tighten false (text ++ rest) = text ++ (place.behind text).tighten false rest := by
  induction text generalizing place with
  | nil => rfl
  | cons c text ih =>
    rw [bare] at without
    have plain : ¬ (place = outside ∧ c = ':') := by
      rintro ⟨rfl, rfl⟩
      exact without (by simp)
    have later : ':' ∉ (place.next c).bare text := by
      split at without
      · exact fun present => without (List.mem_cons_of_mem _ present)
      · exact without
    rw [List.cons_append, tighten, if_neg (by simp), decide_eq_false plain, ih later]
    rfl

end Place

def isOpening (c : Char) : Bool := c == '[' || c == '\x7b'

def isClosing (c : Char) : Bool := c == ']' || c == '\x7d'

/-- The number of brackets outside of strings that are open behind a text. -/
def openBrackets (text : List Char) : Int :=
  (Place.outside.bare text).countP isOpening - (Place.outside.bare text).countP isClosing

/-- Whether a text begins with a closing bracket. -/
def beginsClosing (text : List Char) : Bool := text.head?.any isClosing

theorem openBrackets_append {text : List Char} (closed : Place.outside.behind text = .outside)
    (rest : List Char) : openBrackets (text ++ rest) = openBrackets text + openBrackets rest := by
  simp only [openBrackets, Place.bare_append, closed, List.countP_append]
  omega

/-- A piece of a JSON text that holds whole strings, no line break, and no colon but in strings. -/
structure Unbroken (text : List Char) : Prop where
  single : '\n' ∉ text
  closed : Place.outside.behind text = .outside
  colonless : ':' ∉ Place.outside.bare text

/-- A piece that leaves the brackets as they are. -/
structure Level (text : List Char) : Prop extends Unbroken text where
  even : openBrackets text = 0

/-- Whether a character means nothing by itself: no quote, bracket, colon or line break. -/
def isBland (c : Char) : Bool :=
  c != '"' && c != ':' && c != '\n' && !isOpening c && !isClosing c

section Bland

variable {text : List Char}

theorem behind_of_bland (bland : ∀ c ∈ text, isBland c = true) :
    Place.outside.behind text = .outside := by
  induction text with
  | nil => rfl
  | cons c text ih =>
    obtain ⟨first, rest⟩ := List.forall_mem_cons.mp bland
    have plain : c ≠ '"' := by rintro rfl; cases first
    exact (congrArg (Place.behind · text) (if_neg plain)).trans (ih rest)

theorem bare_of_bland (bland : ∀ c ∈ text, isBland c = true) : Place.outside.bare text = text := by
  induction text with
  | nil => rfl
  | cons c text ih =>
    obtain ⟨first, rest⟩ := List.forall_mem_cons.mp bland
    have plain : c ≠ '"' := by rintro rfl; cases first
    rw [Place.bare, if_pos ⟨rfl, plain⟩, Place.next, if_neg plain, ih rest]

theorem not_bracket_of_bland {c : Char} (bland : isBland c = true) :
    isOpening c = false ∧ isClosing c = false := by
  simp only [isBland, Bool.and_eq_true, Bool.not_eq_true'] at bland
  exact ⟨bland.1.2, bland.2⟩

theorem level_of_bland (bland : ∀ c ∈ text, isBland c = true) : Level text where
  single present := by cases bland _ present
  closed := behind_of_bland bland
  colonless present := by
    rw [bare_of_bland bland] at present
    cases bland _ present
  even := by
    have opening : text.countP isOpening = 0 := List.countP_eq_zero.mpr fun c present =>
      Bool.not_eq_true _ ▸ (not_bracket_of_bland (bland c present)).1
    have closing : text.countP isClosing = 0 := List.countP_eq_zero.mpr fun c present =>
      Bool.not_eq_true _ ▸ (not_bracket_of_bland (bland c present)).2
    rw [openBrackets, bare_of_bland bland, opening, closing]
    rfl

theorem bland_of_numeric {c : Char} (numeric : Binary64.isNumeric c = true) :
    isBland c = true := by
  simp only [Binary64.isNumeric, Bool.or_eq_true, beq_iff_eq] at numeric
  rcases numeric with ((digit | rfl) | rfl) | rfl
  · have differs (d : Char) (other : d.isDigit = false) : c ≠ d := by
      rintro rfl
      cases digit.symm.trans other
    simp [isBland, isOpening, isClosing, differs '"' rfl, differs ':' rfl, differs '\n' rfl,
      differs '[' rfl, differs ']' rfl, differs '\x7b' rfl, differs '\x7d' rfl]
  · rfl
  · rfl
  · rfl

end Bland

section Quoted

theorem inside_plain {text : List Char} (plain : ∀ c ∈ text, c ≠ '"' ∧ c ≠ '\\') :
    Place.inside.behind text = .inside ∧ Place.inside.bare text = [] := by
  induction text with
  | nil => exact ⟨rfl, rfl⟩
  | cons c text ih =>
    obtain ⟨⟨quote, solidus⟩, rest⟩ := List.forall_mem_cons.mp plain
    have next : Place.inside.next c = .inside := by rw [Place.next, if_neg quote, if_neg solidus]
    obtain ⟨behind, bare⟩ := ih rest
    refine ⟨(congrArg (Place.behind · text) next).trans behind, ?_⟩
    rw [Place.bare, if_neg (by simp), next, bare]

theorem digitChar_plain : ∀ n < 16, Nat.digitChar n ≠ '"' ∧ Nat.digitChar n ≠ '\\' ∧
    Nat.digitChar n ≠ '\n' := by decide

theorem hexDigits_plain {n : Nat} (small : n < 0x100) :
    ∀ c ∈ hexDigits 4 n, c ≠ '"' ∧ c ≠ '\\' ∧ c ≠ '\n' := by
  have high := digitChar_plain (n / 16) (by omega)
  have low := digitChar_plain (n % 16) (by omega)
  simp [hexDigits_four small, high, low]

/-- The text of one character stays in its string, and on its line. -/
structure StaysInside (text : List Char) : Prop where
  behind : Place.inside.behind text = .inside
  bare : Place.inside.bare text = []
  single : '\n' ∉ text

theorem staysInside_escape (c : Char) : StaysInside (escape c) := by
  unfold escape
  split
  case h_6 quote solidus feed _ _ =>
    split
    · rename_i control
      have small : c.toNat < 0x100 := by
        simp only [isControl, Bool.or_eq_true, Bool.and_eq_true, decide_eq_true_eq] at control
        omega
      have digits := hexDigits_plain small
      obtain ⟨behind, bare⟩ := inside_plain fun d present =>
        ⟨(digits d present).1, (digits d present).2.1⟩
      refine ⟨behind, bare, ?_⟩
      rw [List.mem_cons, List.mem_cons]
      rintro (solidus | letter | present)
      · cases solidus
      · cases letter
      · exact (digits _ present).2.2 rfl
    · obtain ⟨behind, bare⟩ := @inside_plain [c] (by simpa using ⟨quote, solidus⟩)
      exact ⟨behind, bare, by simpa using Ne.symm feed⟩
  all_goals exact ⟨rfl, rfl, by decide⟩

theorem staysInside_flatMap (cs : List Char) : StaysInside (cs.flatMap escape) := by
  induction cs with
  | nil => exact ⟨rfl, rfl, List.not_mem_nil⟩
  | cons c cs ih =>
    obtain ⟨behind, bare, single⟩ := staysInside_escape c
    rw [List.flatMap_cons]
    refine ⟨?_, ?_, fun present => ?_⟩
    · rw [Place.behind_append, behind, ih.behind]
    · rw [Place.bare_append, bare, behind, ih.bare, List.append_nil]
    · exact (List.mem_append.mp present).elim single ih.single

/-- A string in quotes leaves the brackets as they are, whatever is in it. -/
theorem level_quote (s : String) : Level (quote s) := by
  obtain ⟨behind, bare, single⟩ := staysInside_flatMap s.toList
  have nothing : Place.outside.bare (quote s) = [] := by
    change Place.inside.bare (s.toList.flatMap escape ++ ['"']) = []
    rw [Place.bare_append, bare, behind]
    rfl
  refine ⟨⟨?_, ?_, ?_⟩, ?_⟩
  · simpa [quote] using single
  · change Place.inside.behind (s.toList.flatMap escape ++ ['"']) = _
    rw [Place.behind_append, behind]
    rfl
  · rw [nothing]
    exact List.not_mem_nil
  · rw [openBrackets, nothing]
    rfl

end Quoted

end PathEdit.Json
