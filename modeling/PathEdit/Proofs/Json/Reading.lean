import PathEdit.Proofs.Json.Numerals
import PathEdit.Proofs.Json.Strings
import PathEdit.Proofs.Value.Shape

/-! What is read back of a printed tree. Everything but floats is read back as it was, so the
outcome is a function of the tree and of what is read back of each float (`reread?`). -/
namespace PathEdit.Json

/-- Whether a layout sets elements apart with blanks only. -/
def Layout.IsBlank (layout : Layout) : Prop :=
  (∀ c ∈ layout.margin, Reader.isBlank c = true) ∧ ∀ c ∈ layout.indent, Reader.isBlank c = true

theorem Layout.compact_isBlank : compact.IsBlank := ⟨nofun, nofun⟩

mutual

/-- What is read back of a tree with at most the given number of levels, from what is read back of
each float. -/
def reread? (number? : Binary64 → Option Value) (depth : Nat) : Tree → Option Value
  | .null => some .null
  | .boolean b => some (.boolean b)
  | .integer n => some (.integer n)
  | .float x => number? x
  | .string s => some (.string s)
  | .array items =>
    match depth with
    | 0 => none
    | depth + 1 => (rereadItems? number? depth items).map .array
  | .object entries =>
    match depth with
    | 0 => none
    | depth + 1 =>
      (rereadEntries? number? depth entries).map fun entries => .object (.ofList entries)

def rereadItems? (number? : Binary64 → Option Value) (depth : Nat) :
    List Tree → Option (List Value)
  | [] => some []
  | item :: rest => do
    let item ← reread? number? depth item
    let rest ← rereadItems? number? depth rest
    return item :: rest

def rereadEntries? (number? : Binary64 → Option Value) (depth : Nat) :
    List (String × Tree) → Option (List (String × Value))
  | [] => some []
  | (name, item) :: rest => do
    let item ← reread? number? depth item
    let rest ← rereadEntries? number? depth rest
    return (name, item) :: rest

end

variable {number? : Binary64 → Option Value} {layout : Layout}

theorem rereadItems?_eq_mapM (depth : Nat) (items : List Tree) :
    rereadItems? number? depth items = items.mapM (reread? number? depth) := by
  induction items with
  | nil => rfl
  | cons item rest ih => rw [rereadItems?, ih, List.mapM_cons]

theorem rereadEntries?_eq_mapM (depth : Nat) (entries : List (String × Tree)) :
    rereadEntries? number? depth entries =
      entries.mapM fun entry => (reread? number? depth entry.2).map (entry.1, ·) := by
  induction entries with
  | nil => rfl
  | cons entry rest ih =>
    rw [rereadEntries?, ih, List.mapM_cons]
    cases reread? number? depth entry.2 <;> rfl

namespace Reader

/-- Whether a text begins with a character that a value may begin with: no blank, and no bracket
that ends the elements in front of it. -/
def begins (text : List Char) : Bool :=
  text.head?.any fun c => !isBlank c && c != ']' && c != '\x7d'

theorem skipBlanks_of_begins {text : List Char} (start : begins text = true) (rest : List Char) :
    skipBlanks (text ++ rest) = text ++ rest := by
  cases text with
  | nil => cases start
  | cons c text =>
    have visible : isBlank c = false := by
      simp only [begins, List.head?_cons, Option.any_some, Bool.and_eq_true] at start
      simpa using start.1.1
    rw [skipBlanks, List.cons_append, List.dropWhile_cons_of_neg (by simp [visible])]

theorem skipBlanks_append {gap : List Char} (blank : ∀ c ∈ gap, isBlank c = true)
    (text : List Char) : skipBlanks (gap ++ text) = skipBlanks text :=
  List.dropWhile_append_of_pos blank

theorem newline_blank (blank : layout.IsBlank) (level : Nat) :
    ∀ c ∈ layout.newline level, isBlank c = true := by
  unfold Layout.newline
  split
  · nofun
  · refine List.forall_mem_cons.mpr ⟨rfl, List.forall_mem_append.mpr ⟨blank.1, fun c present => ?_⟩⟩
    obtain ⟨unit, copy, inside⟩ := List.mem_flatten.mp present
    rw [List.eq_of_mem_replicate copy] at inside
    exact blank.2 c inside

theorem stops_append {gap : List Char} (blank : ∀ c ∈ gap, isBlank c = true) {text : List Char}
    (stopped : Numeral.stops text = true) : Numeral.stops (gap ++ text) = true := by
  cases gap with
  | nil => exact stopped
  | cons c gap =>
    have first := blank c (List.mem_cons_self ..)
    simp only [isBlank, Bool.or_eq_true, beq_iff_eq] at first
    rcases first with ((rfl | rfl) | rfl) | rfl <;> rfl

section Elements

variable {α β : Type} {element : Read α} {text : β → List Char} {result : β → Option α}
  {closing : Char} {gap last : List Char}

/-- Elements set apart with commas and blanks, each read as by itself. -/
theorem elements_intercalate {x : β} {xs : List β} {fuel : Nat} (enough : xs.length < fuel)
    (bracket : closing = ']' ∨ closing = '\x7d')
    (blank : ∀ c ∈ gap, isBlank c = true) (lastBlank : ∀ c ∈ last, isBlank c = true)
    (start : ∀ y ∈ x :: xs, begins (text y) = true)
    (each : ∀ y ∈ x :: xs, ∀ rest, Numeral.stops rest = true →
      element (text y ++ rest) = (result y).map (·, rest)) (rest : List Char) :
    elements element closing fuel
        (List.intercalate [','] ((x :: xs).map (gap ++ text ·)) ++ (last ++ closing :: rest)) =
      ((x :: xs).mapM result).map (·, rest) := by
  induction xs generalizing x fuel with
  | nil =>
    obtain ⟨fuel, rfl⟩ := Nat.exists_eq_succ_of_ne_zero (Nat.ne_of_gt enough)
    have closes : skipBlanks (last ++ closing :: rest) = closing :: rest := by
      rw [skipBlanks_append lastBlank]
      rcases bracket with rfl | rfl <;> rfl
    have stopped : Numeral.stops (last ++ closing :: rest) = true :=
      stops_append lastBlank (by rcases bracket with rfl | rfl <;> rfl)
    have distinct : closing ≠ ',' := by rcases bracket with rfl | rfl <;> decide
    rw [List.map_singleton, List.intercalate_singleton, elements, List.append_assoc,
      skipBlanks_append blank, skipBlanks_of_begins (start x (by simp)),
      each x (by simp) _ stopped, List.mapM_cons, List.mapM_nil]
    cases result x with
    | none => rfl
    | some a =>
      simp only [Option.map_some, Option.bind_eq_bind, Option.bind_some, closes, if_true]
      rfl
  | cons y ys ih =>
    obtain ⟨fuel, rfl⟩ := Nat.exists_eq_succ_of_ne_zero (Nat.ne_zero_of_lt enough)
    obtain ⟨startX, startYs⟩ := List.forall_mem_cons.mp start
    obtain ⟨eachX, eachYs⟩ := List.forall_mem_cons.mp each
    have tail := ih (Nat.lt_of_succ_lt_succ enough) startYs eachYs
    have split : List.intercalate [','] ((x :: y :: ys).map (gap ++ text ·)) =
        gap ++ (text x ++ ',' :: List.intercalate [','] ((y :: ys).map (gap ++ text ·))) := by
      rw [List.map_cons, List.intercalate_cons_of_ne_nil (by simp)]
      simp
    rw [split, elements, List.append_assoc, skipBlanks_append blank, List.append_assoc,
      skipBlanks_of_begins startX, List.cons_append, eachX _ rfl, List.mapM_cons]
    cases result x with
    | none => rfl
    | some a =>
      have comma (text : List Char) : skipBlanks (',' :: text) = ',' :: text := rfl
      simp only [Option.map_some, Option.bind_eq_bind, Option.bind_some, comma, tail]
      cases (y :: ys).mapM result <;> rfl

theorem intercalate_front (gap : List Char) (text : β → List Char) (x : β) (xs : List β) :
    ∃ more, List.intercalate [','] ((x :: xs).map (gap ++ text ·)) = gap ++ (text x ++ more) := by
  cases xs with
  | nil => exact ⟨[], by simp⟩
  | cons y ys =>
    refine ⟨',' :: List.intercalate [','] ((y :: ys).map (gap ++ text ·)), ?_⟩
    rw [List.map_cons, List.intercalate_cons_of_ne_nil (by simp)]
    simp

theorem length_le_intercalate (gap : List Char) {xs : List β}
    (start : ∀ y ∈ xs, begins (text y) = true) :
    xs.length ≤ (List.intercalate [','] (xs.map (gap ++ text ·))).length := by
  induction xs with
  | nil => exact Nat.le_refl 0
  | cons x xs ih =>
    obtain ⟨startX, startXs⟩ := List.forall_mem_cons.mp start
    have positive : 0 < (text x).length := by
      cases same : text x with
      | nil => simp [same, begins] at startX
      | cons => exact Nat.zero_lt_succ _
    cases xs with
    | nil =>
      rw [List.map_singleton, List.intercalate_singleton, List.length_append, List.length_singleton]
      omega
    | cons y ys =>
      have bound := ih startXs
      rw [List.map_cons, List.intercalate_cons_of_ne_nil (by simp), List.length_cons]
      simp only [List.length_append] at bound ⊢
      omega

/-- The first element is not taken for a closing bracket. -/
theorem enclosed_of_begins {first : List Char} (start : begins first = true)
    (bracket : closing = ']' ∨ closing = '\x7d') (blank : ∀ c ∈ gap, isBlank c = true)
    (rest : List Char) :
    enclosed element closing (gap ++ (first ++ rest)) =
      elements element closing (gap ++ (first ++ rest)).length (gap ++ (first ++ rest)) := by
  cases first with
  | nil => cases start
  | cons c first =>
    have visible := skipBlanks_of_begins start rest
    have other : c ≠ closing := by
      simp only [begins, List.head?_cons, Option.any_some, Bool.and_eq_true, bne_iff_ne] at start
      rcases bracket with rfl | rfl
      · exact start.1.2
      · exact start.2
    have positive : (gap ++ (c :: first ++ rest)).length =
        (gap ++ (first ++ rest)).length + 1 := by
      simp only [List.length_append, List.length_cons]
      omega
    rw [enclosed, positive, elements, skipBlanks_append blank, visible, List.cons_append]
    simp only [if_neg other]
    rw [elements, ← List.cons_append, visible]

/-- Printed elements between brackets, behind the opening one. -/
theorem enclosed_enclose {xs : List β} {opening : Char} {level : Nat} {texts : List Char}
    (blank : layout.IsBlank) (bracket : closing = ']' ∨ closing = '\x7d')
    (start : ∀ y ∈ xs, begins (text y) = true)
    (each : ∀ y ∈ xs, ∀ rest, Numeral.stops rest = true →
      element (text y ++ rest) = (result y).map (·, rest))
    (same : layout.enclose level opening closing (xs.map text) = opening :: texts)
    (rest : List Char) :
    enclosed element closing (texts ++ rest) = (xs.mapM result).map (·, rest) := by
  cases xs with
  | nil =>
    obtain rfl : texts = [closing] := (List.cons.inj same).2.symm
    rcases bracket with rfl | rfl <;> rfl
  | cons x xs =>
    obtain rfl : List.intercalate [','] ((x :: xs).map (layout.newline (level + 1) ++ text ·)) ++
        (layout.newline level ++ [closing]) = texts := by
      simpa [Layout.enclose, Function.comp_def] using (List.cons.inj same).2
    have enough : xs.length <
        (List.intercalate [','] ((x :: xs).map (layout.newline (level + 1) ++ text ·)) ++
          (layout.newline level ++ closing :: rest)).length := by
      have bound := length_le_intercalate (layout.newline (level + 1)) start
      rw [List.length_append]
      simp only [List.length_cons] at bound ⊢
      omega
    obtain ⟨more, front⟩ := intercalate_front (layout.newline (level + 1)) text x xs
    have shape : List.intercalate [','] ((x :: xs).map (layout.newline (level + 1) ++ text ·)) ++
        (layout.newline level ++ [closing]) ++ rest =
          layout.newline (level + 1) ++
            (text x ++ (more ++ (layout.newline level ++ closing :: rest))) := by
      rw [front]
      simp
    rw [shape, enclosed_of_begins (start x (by simp)) bracket (newline_blank blank (level + 1)),
      ← List.append_assoc (text x), ← List.append_assoc, ← front]
    exact elements_intercalate enough bracket (newline_blank blank (level + 1))
      (newline_blank blank level) start each rest

end Elements

theorem entry_append (layout : Layout) (name : String) {text : List Char}
    (start : begins text = true) (value : Read Value) (rest : List Char) :
    entry value (quote name ++ layout.colon ++ text ++ rest) =
      (value (text ++ rest)).map fun (v, rest) => ((name, v), rest) := by
  have colon : ∃ gap, (∀ c ∈ gap, isBlank c = true) ∧ layout.colon = ':' :: gap := by
    unfold Layout.colon
    split
    · exact ⟨[], nofun, rfl⟩
    · exact ⟨[' '], by simp [isBlank], rfl⟩
  obtain ⟨gap, gapBlank, colon⟩ := colon
  have shape : quote name ++ layout.colon ++ text ++ rest =
      '"' :: (name.toList.flatMap Json.escape ++ '"' :: ':' :: (gap ++ (text ++ rest))) := by
    simp [quote, colon]
  have here (text : List Char) : skipBlanks (':' :: text) = ':' :: text := rfl
  rw [shape, entry, string_quote]
  simp only [Option.bind_eq_bind, Option.bind_some, here, skipBlanks_append gapBlank,
    skipBlanks_of_begins start]
  cases value (text ++ rest) <;> rfl

/-- A text that begins with a sign or a digit is one of a number. -/
theorem value_numeral {c : Char} (first : (c.isDigit || c == '-') = true) (depth : Nat)
    (text : List Char) :
    value depth (c :: text) =
      (Numeral.read (c :: text)).bind fun (numeral, rest) => numeral.value?.map (·, rest) := by
  unfold value
  split
  case h_7 =>
    cases Numeral.read (c :: text) with
    | none => rfl
    | some outcome => cases same : outcome.1.value? <;> simp [same]
  all_goals
    rename_i same
    rw [(List.cons.inj same).1] at first
    cases first

theorem begins_numeral {c : Char} (first : (c.isDigit || c == '-') = true) (text : List Char) :
    begins (c :: text) = true := by
  have other {d : Char} (wrong : (d.isDigit || d == '-') = false) : c ≠ d := by
    rintro rfl
    rw [first] at wrong
    cases wrong
  have space : c ≠ ' ' := other rfl
  have tab : c ≠ '\t' := other rfl
  have feed : c ≠ '\n' := other rfl
  have carriage : c ≠ '\r' := other rfl
  have bracket : c ≠ ']' := other rfl
  have brace : c ≠ '\x7d' := other rfl
  simp [begins, isBlank, space, tab, feed, carriage, bracket, brace]

theorem exists_withSign {ds : List Char} (whole : Numeral.Whole ds) (negative : Bool) :
    ∃ c cs, (c.isDigit || c == '-') = true ∧
      ∀ rest, Binary64.Style.withSign negative (ds ++ rest) = c :: (cs ++ rest) := by
  cases negative with
  | true => exact ⟨'-', ds, rfl, fun _ => rfl⟩
  | false =>
    cases ds with
    | nil => exact absurd rfl whole.ne_nil
    | cons c cs => exact ⟨c, cs, by simp [whole.digits c (List.mem_cons_self ..)], fun _ => rfl⟩

theorem withSign_append (negative : Bool) (text rest : List Char) :
    Binary64.Style.withSign negative text ++ rest =
      Binary64.Style.withSign negative (text ++ rest) := by
  cases negative <;> rfl

theorem intChars_eq_withSign (n : Int) :
    intChars n = Binary64.Style.withSign (decide (n < 0)) (Nat.toDigits 10 n.natAbs) := by
  unfold intChars Binary64.Style.withSign
  split <;> simp [*]

/-- Every integer fits. -/
theorem value?_integer (n : Int64) :
    Numeral.value? ⟨decide (n.toInt < 0), Nat.toDigits 10 n.toInt.natAbs, [], false, [], true⟩ =
      some (.integer n) := by
  have upper := n.toInt_lt
  have lower := n.le_toInt
  unfold Numeral.value?
  simp only [Nat.ofDigitChars_ten_toDigits, Bool.true_and, Nat.pow_eq]
  by_cases negative : n.toInt < 0
  · have small : 0 < n.toInt.natAbs ∧ n.toInt.natAbs ≤ 2 ^ 63 := by omega
    have same : -(n.toInt.natAbs : Int) = n.toInt := by omega
    simp only [negative, small, same, decide_true, Bool.not_true, Bool.false_and, Bool.and_true,
      Bool.false_eq_true, if_false, if_true, Int64.ofInt_toInt]
  · have small : n.toInt.natAbs < 2 ^ 63 := by omega
    have same : (n.toInt.natAbs : Int) = n.toInt := by omega
    simp only [negative, small, decide_false, Bool.not_false, decide_true, Bool.and_true, if_true,
      ← Int64.ofInt_eq_ofNat, same, Int64.ofInt_toInt]

theorem value_intChars (depth : Nat) (n : Int64) {rest : List Char}
    (stopped : Numeral.stops rest = true) :
    value depth (intChars n.toInt ++ rest) = some (.integer n, rest) := by
  have whole := Numeral.whole_toDigits n.toInt.natAbs
  obtain ⟨c, cs, first, shape⟩ := exists_withSign whole (decide (n.toInt < 0))
  rw [intChars_eq_withSign, withSign_append, shape, value_numeral first, ← shape,
    Numeral.read_whole _ whole stopped]
  simp [value?_integer]

end Reader

theorem itemsChars_eq_map (level : Nat) (items : List Tree) :
    itemsChars layout level items = items.map (treeChars layout level) := by
  induction items with
  | nil => rfl
  | cons item rest ih => rw [itemsChars, ih, List.map_cons]

theorem entriesChars_eq_map (level : Nat) (entries : List (String × Tree)) :
    entriesChars layout level entries =
      entries.map fun entry => quote entry.1 ++ layout.colon ++ treeChars layout level entry.2 := by
  induction entries with
  | nil => rfl
  | cons entry rest ih => rw [entriesChars, ih, List.map_cons]

theorem Layout.exists_enclose (layout : Layout) (level : Nat) (opening closing : Char)
    (parts : List (List Char)) :
    ∃ texts, layout.enclose level opening closing parts = opening :: texts := by
  cases parts <;> exact ⟨_, rfl⟩

/-- Whether the text of a float is read as `number?` says. -/
structure Rereads (number? : Binary64 → Option Value) (x : Binary64) : Prop where
  begins : Reader.begins (floatChars x) = true
  value (depth : Nat) {rest : List Char} (stopped : Numeral.stops rest = true) :
    Reader.value depth (floatChars x ++ rest) = (number? x).map (·, rest)

theorem begins_treeChars (layout : Layout) {tree : Tree}
    (floats : ∀ x ∈ tree.floats, Rereads number? x) (level : Nat) :
    Reader.begins (treeChars layout level tree) = true := by
  cases tree with
  | null => rfl
  | boolean b => cases b <;> rfl
  | integer n =>
    obtain ⟨c, cs, first, shape⟩ := Reader.exists_withSign
      (Numeral.whole_toDigits n.toInt.natAbs) (decide (n.toInt < 0))
    rw [treeChars, Reader.intChars_eq_withSign, ← List.append_nil (Nat.toDigits 10 _), shape]
    exact Reader.begins_numeral first _
  | float x => exact (floats x (by simp [Tree.floats])).begins
  | string s => rfl
  | array items =>
    obtain ⟨texts, shape⟩ := layout.exists_enclose level '[' ']'
      (itemsChars layout (level + 1) items)
    rw [treeChars, shape]
    rfl
  | object entries =>
    obtain ⟨texts, shape⟩ := layout.exists_enclose level '\x7b' '\x7d'
      (entriesChars layout (level + 1) entries)
    rw [treeChars, shape]
    rfl

/-- A printed array is read as `reread?` says when each of its elements is. -/
theorem value_arrayChars {items : List Tree} (blank : layout.IsBlank) {depth level : Nat}
    (start : ∀ item ∈ items, Reader.begins (treeChars layout (level + 1) item) = true)
    (each : ∀ item ∈ items, ∀ rest, Numeral.stops rest = true →
      Reader.value depth (treeChars layout (level + 1) item ++ rest) =
        (reread? number? depth item).map (·, rest)) (rest : List Char) :
    Reader.value (depth + 1) (treeChars layout level (.array items) ++ rest) =
      (reread? number? (depth + 1) (.array items)).map (·, rest) := by
  obtain ⟨texts, shape⟩ := layout.exists_enclose level '[' ']'
    (itemsChars layout (level + 1) items)
  rw [treeChars, shape, List.cons_append]
  rw [itemsChars_eq_map] at shape
  have enclosed := Reader.enclosed_enclose blank (.inl rfl) start each shape rest
  rw [Reader.value, reread?, rereadItems?_eq_mapM]
  simp [enclosed, Function.comp_def]

/-- A printed object is read as `reread?` says when each of its entries is. -/
theorem value_objectChars {entries : List (String × Tree)} (blank : layout.IsBlank)
    {depth level : Nat}
    (start : ∀ entry ∈ entries, Reader.begins (treeChars layout (level + 1) entry.2) = true)
    (each : ∀ entry ∈ entries, ∀ rest, Numeral.stops rest = true →
      Reader.value depth (treeChars layout (level + 1) entry.2 ++ rest) =
        (reread? number? depth entry.2).map (·, rest)) (rest : List Char) :
    Reader.value (depth + 1) (treeChars layout level (.object entries) ++ rest) =
      (reread? number? (depth + 1) (.object entries)).map (·, rest) := by
  obtain ⟨texts, shape⟩ := layout.exists_enclose level '\x7b' '\x7d'
    (entriesChars layout (level + 1) entries)
  rw [treeChars, shape, List.cons_append]
  rw [entriesChars_eq_map] at shape
  have named (entry) (present : entry ∈ entries) (rest) (stopped : Numeral.stops rest = true) :
      Reader.entry (Reader.value depth)
          (quote entry.1 ++ layout.colon ++ treeChars layout (level + 1) entry.2 ++ rest) =
        ((reread? number? depth entry.2).map (entry.1, ·)).map (·, rest) := by
    rw [Reader.entry_append layout entry.1 (start entry present), each entry present rest stopped]
    cases reread? number? depth entry.2 <;> rfl
  have enclosed := Reader.enclosed_enclose blank (.inr rfl) (fun _ _ => rfl) named shape rest
  rw [Reader.value, reread?, rereadEntries?_eq_mapM]
  simp [enclosed, Function.comp_def]

/-- Brackets are refused where no more levels are allowed. -/
theorem value_enclose (level : Nat) {opening closing : Char}
    (bracket : opening = '[' ∨ opening = '\x7b') (parts : List (List Char)) (rest : List Char) :
    Reader.value 0 (layout.enclose level opening closing parts ++ rest) = none := by
  obtain ⟨texts, shape⟩ := layout.exists_enclose level opening closing parts
  rw [shape]
  rcases bracket with rfl | rfl <;> rfl

/-- A printed tree is read as `reread?` says, and nothing behind it is. -/
theorem value_treeChars {tree : Tree} (ordered : tree.Ordered) (blank : layout.IsBlank)
    (floats : ∀ x ∈ tree.floats, Rereads number? x) (depth level : Nat) {rest : List Char}
    (stopped : Numeral.stops rest = true) :
    Reader.value depth (treeChars layout level tree ++ rest) =
      (reread? number? depth tree).map (·, rest) := by
  induction ordered generalizing depth level rest with
  | null => simp [treeChars, Reader.value, Reader.behind?, reread?]
  | boolean b => cases b <;> simp [treeChars, Reader.value, Reader.behind?, reread?]
  | integer n => exact Reader.value_intChars depth n stopped
  | float x => exact (floats x (by simp [Tree.floats])).value depth stopped
  | string s =>
    simp [treeChars, quote, Reader.value, Reader.string_quote, reread?]
  | @array items _ ih =>
    rw [Tree.floats, Tree.itemsFloats_eq_flatMap] at floats
    have inside : ∀ item ∈ items, ∀ x ∈ item.floats, Rereads number? x := fun item present x held =>
      floats x (List.mem_flatMap.mpr ⟨item, present, held⟩)
    cases depth with
    | zero =>
      rw [treeChars]
      exact value_enclose level (.inl rfl) _ rest
    | succ depth =>
      exact value_arrayChars blank
        (fun item present => begins_treeChars layout (inside item present) (level + 1))
        (fun item present _ stopped =>
          ih item present (inside item present) depth (level + 1) stopped) rest
  | @object entries _ _ ih =>
    rw [Tree.floats, Tree.entriesFloats_eq_flatMap] at floats
    have inside : ∀ entry ∈ entries, ∀ x ∈ entry.2.floats, Rereads number? x :=
      fun entry present x held => floats x (List.mem_flatMap.mpr ⟨entry, present, held⟩)
    cases depth with
    | zero =>
      rw [treeChars]
      exact value_enclose level (.inr rfl) _ rest
    | succ depth =>
      exact value_objectChars blank
        (fun entry present => begins_treeChars layout (inside entry present) (level + 1))
        (fun entry present _ stopped =>
          ih entry present (inside entry present) depth (level + 1) stopped) rest

/-- A printed value is read as `reread?` says. -/
theorem readChars?_chars (value : Value) (blank : layout.IsBlank)
    (floats : ∀ x ∈ value.floats, Rereads number? x) :
    readChars? (chars layout value) = reread? number? maxDepth value.tree := by
  have start := begins_treeChars layout floats 0
  have ended : Numeral.stops [] = true := rfl
  have outcome := value_treeChars value.ordered blank floats maxDepth 0 ended
  have visible := Reader.skipBlanks_of_begins start []
  rw [List.append_nil] at outcome visible
  rw [readChars?, chars, visible, outcome]
  cases reread? number? maxDepth value.tree <;> rfl

end PathEdit.Json
