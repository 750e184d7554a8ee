import PathEdit.Proofs.Binary64.Characters
import PathEdit.Proofs.Unicode.Solid
import PathEdit.Proofs.Value.Leaves
import PathEdit.Yaml.Printer

/-! How YAML documents end: like their last leaves. A string without quotes ends as it is, so that
white space at its end is white space at the end of the document. -/
namespace PathEdit

namespace Tree

variable {item : Tree} {leaf : Path × Value}

theorem getLast?_itemLeaves (last : item.leaves.getLast? = some leaf) (index : Nat)
    (items : List Tree) : (itemLeaves index (items ++ [item])).getLast? =
      some (.position (.ofNat (index + items.length)) :: leaf.1, leaf.2) := by
  induction items generalizing index with
  | nil => simp [itemLeaves, last]
  | cons other items ih =>
    rw [List.cons_append, itemLeaves, List.getLast?_append, ih, Option.some_or, List.length_cons,
      Nat.add_right_comm, Nat.add_assoc]

theorem getLast?_entryLeaves (last : item.leaves.getLast? = some leaf) (name : String)
    (entries : List (String × Tree)) : (entryLeaves (entries ++ [(name, item)])).getLast? =
      some (.key name :: leaf.1, leaf.2) := by
  induction entries with
  | nil => simp [entryLeaves, last]
  | cons other entries ih =>
    rw [List.cons_append, entryLeaves, List.getLast?_append, ih, Option.some_or]

end Tree

namespace Yaml

open Unicode (isSolid isWhiteSpace)

/-- Whether a string ends solidly in a document. In quotes it does, whatever is in it. -/
def endsSolid (s : String) : Bool :=
  match styleOf s.toList with
  | .plain | .literal => isSolid s.toList
  | .singleQuoted | .doubleQuoted => true

section Strings

variable {text : List Char} {c : Char}

theorem isSolid_line_concat (start front : List Char) (c : Char) :
    isSolid (start ++ line (front ++ [c])) = !isWhiteSpace c := by
  have shape : start ++ line (front ++ [c]) = (start ++ ' ' :: front) ++ [c, '\n'] := by
    simp [line]
  rw [shape, Unicode.isSolid_line]

theorem isSolid_append_line (start text : List Char) :
    isSolid (start ++ line text) = text.getLast?.any fun c => !isWhiteSpace c := by
  rcases List.eq_nil_or_concat' text with rfl | ⟨front, c, rfl⟩
  · exact Unicode.isSolid_line start ' '
  · rw [isSolid_line_concat, List.getLast?_concat, Option.any_some]

theorem literalChars_append (indent : Nat) (broken : Bool) (front : List Char) (c : Char)
    (rest : List Char) : ∃ before, literalChars indent broken (front ++ c :: rest) =
      before ++ c :: literalChars indent (isBreak c) rest := by
  induction front generalizing broken with
  | nil =>
    rw [List.nil_append, literalChars]
    split
    · rename_i ends
      exact ⟨[], by rw [ends, List.nil_append]⟩
    · rename_i goes
      exact ⟨_, by rw [Bool.eq_false_iff.mpr goes]⟩
  | cons d front ih =>
    rw [List.cons_append, literalChars]
    split
    · obtain ⟨before, shape⟩ := ih true
      exact ⟨d :: before, by rw [shape, List.cons_append]⟩
    · obtain ⟨before, shape⟩ := ih false
      exact ⟨(if broken then blanks indent else []) ++ d :: before,
        by rw [shape, List.append_assoc, List.cons_append]⟩

/-- A block ends as solidly as its text. -/
theorem isSolid_literalChars (some : text ≠ []) (start : List Char) (indent : Nat) :
    isSolid (start ++ '\n' :: literalChars indent true text) = isSolid text := by
  obtain ⟨front, c, rfl⟩ := (List.eq_nil_or_concat' text).resolve_left some
  -- Behind a line feed at the end, the character in front of it decides.
  by_cases feed : c = '\n'
  · subst feed
    rcases List.eq_nil_or_concat' front with rfl | ⟨front, d, rfl⟩
    · exact Unicode.isSolid_line start '\n'
    · obtain ⟨before, shape⟩ := literalChars_append indent true front d ['\n']
      have ends : literalChars indent (isBreak d) ['\n'] = ['\n'] := by simp [literalChars, isBreak]
      rw [List.append_assoc, List.singleton_append, shape, ends, ← List.cons_append,
        ← List.append_assoc, Unicode.isSolid_line, Unicode.isSolid_line]
  · obtain ⟨before, shape⟩ := literalChars_append indent true front c []
    rw [shape, Unicode.isSolid_concat feed, ← List.cons_append, ← List.append_assoc]
    cases ends : isBreak c with
    | true => exact Unicode.isSolid_concat feed _
    | false => exact Unicode.isSolid_line _ c

theorem notMem_of_plain (plain : styleOf text = .plain) : '\n' ∉ text := by
  rw [styleOf] at plain
  split at plain
  · split at plain <;> cases plain
  · rename_i without
    simpa using without

theorem ne_nil_of_literal (literal : styleOf text = .literal) : text ≠ [] := by
  rintro rfl
  cases literal

theorem isSolid_stringLine (start : List Char) (indent : Nat) (s : String) :
    isSolid (start ++ stringLine indent s) = endsSolid s := by
  rw [stringLine, endsSolid]
  cases style : styleOf s.toList with
  | plain =>
    rw [Unicode.isSolid_of_notMem (notMem_of_plain style)]
    exact isSolid_append_line start s.toList
  | singleQuoted =>
    exact isSolid_line_concat start ('\'' :: singleQuotedChars indent false s.toList) '\''
  | doubleQuoted => exact isSolid_line_concat start ('"' :: s.toList.flatMap escape) '"'
  | literal =>
    refine Eq.trans ?_ (isSolid_literalChars (ne_nil_of_literal style)
      (start ++ ' ' :: '|' :: literalHints s.toList) indent)
    rw [List.append_assoc]
    rfl

end Strings

section Leaves

variable {chars : List Char}

theorem isWhiteSpace_of_numeric {c : Char} (numeric : Binary64.isNumeric c = true) :
    isWhiteSpace c = false := by
  simp only [Binary64.isNumeric, Bool.or_eq_true, beq_iff_eq] at numeric
  rcases numeric with ((digit | rfl) | rfl) | rfl
  · exact Unicode.isWhiteSpace_of_isDigit digit
  all_goals rfl

theorem isSolid_numeric (numeric : ∀ c ∈ chars, Binary64.isNumeric c = true) (some : chars ≠ [])
    (start : List Char) : isSolid (start ++ line chars) = true := by
  obtain ⟨front, c, rfl⟩ := (List.eq_nil_or_concat' chars).resolve_left some
  have last : isWhiteSpace c = false := isWhiteSpace_of_numeric (numeric c (by simp))
  rw [isSolid_line_concat, last]
  rfl

theorem isSolid_floatChars (start : List Char) (x : Binary64) :
    isSolid (start ++ line (floatChars x)) = true := by
  rw [floatChars]
  split
  · exact isSolid_numeric (floatStyle.numeric_chars x) (floatStyle.chars_ne_nil x) start
  · exact isSolid_append_line start _

end Leaves

section Containers

theorem itemsChars_concat (indent : Nat) (items : List Tree) (item : Tree) :
    itemsChars indent (items ++ [item]) =
      itemsChars indent items ++ ['-' :: treeChars indent .mark item] := by
  induction items with
  | nil => rfl
  | cons other items ih => rw [List.cons_append, itemsChars, ih, itemsChars, List.cons_append]

theorem entriesChars_concat (indent : Nat) (entries : List (String × Tree)) (name : String)
    (item : Tree) : entriesChars indent (entries ++ [(name, item)]) =
      entriesChars indent entries ++
        [(nameChars indent name).1 ++ treeChars indent (nameChars indent name).2 item] := by
  induction entries with
  | nil => rfl
  | cons other entries ih =>
    rw [List.cons_append, entriesChars, ih, entriesChars, List.cons_append]

theorem exists_intercalate_concat (separator : List Char) (lines : List (List Char))
    (last : List Char) :
    ∃ start, List.intercalate separator (lines ++ [last]) = start ++ last := by
  induction lines with
  | nil => exact ⟨[], by simp⟩
  | cons line lines ih =>
    obtain ⟨start, shape⟩ := ih
    refine ⟨line ++ (separator ++ start), ?_⟩
    rw [List.cons_append, List.intercalate_cons_of_ne_nil (by simp), shape]
    simp

/-- The lines of a container end with its last line, behind a mark or below a name. -/
theorem exists_lines_concat (indent column : Nat) (lines : List (List Char)) (last : List Char) :
    (∃ start, behindMark (lines ++ [last]) indent = start ++ last) ∧
      ∃ start, belowName (lines ++ [last]) column = start ++ last := by
  constructor
  · obtain ⟨start, shape⟩ := exists_intercalate_concat (blanks (indent + 2)) lines last
    exact ⟨' ' :: start, by rw [behindMark, shape, List.cons_append]⟩
  · exact ⟨'\n' :: (lines.flatMap (blanks column ++ ·) ++ blanks column), by simp [belowName]⟩

/-- The text of an array ends with that of its last element. -/
theorem exists_array_concat (indent : Nat) (opener : Opener) (items : List Tree) (item : Tree) :
    ∃ start column, treeChars indent opener (.array (items ++ [item])) =
      start ++ treeChars column .mark item := by
  have some : (items ++ [item]).isEmpty = false := by simp
  have lines (column : Nat) := exists_lines_concat indent column (itemsChars column items)
    ('-' :: treeChars column .mark item)
  simp only [treeChars, some, if_neg Bool.false_ne_true, itemsChars_concat]
  cases opener with
  | mark =>
    obtain ⟨start, shape⟩ := (lines (indent + 2)).1
    exact ⟨start ++ ['-'], indent + 2, by rw [List.append_assoc]; exact shape⟩
  | name =>
    obtain ⟨start, shape⟩ := (lines indent).2
    exact ⟨start ++ ['-'], indent, by rw [List.append_assoc]; exact shape⟩

/-- The text of an object ends with that of its last value. -/
theorem exists_object_concat (indent : Nat) (opener : Opener) (entries : List (String × Tree))
    (name : String) (item : Tree) :
    ∃ start column opened, treeChars indent opener (.object (entries ++ [(name, item)])) =
      start ++ treeChars column opened item := by
  have some : (entries ++ [(name, item)]).isEmpty = false := by simp
  have lines := exists_lines_concat indent (indent + 2) (entriesChars (indent + 2) entries)
    ((nameChars (indent + 2) name).1 ++
      treeChars (indent + 2) (nameChars (indent + 2) name).2 item)
  have either : ∃ start, treeChars indent opener (.object (entries ++ [(name, item)])) =
      start ++ ((nameChars (indent + 2) name).1 ++
        treeChars (indent + 2) (nameChars (indent + 2) name).2 item) := by
    simp only [treeChars, some, if_neg Bool.false_ne_true, entriesChars_concat]
    cases opener with
    | mark => exact lines.1
    | name => exact lines.2
  obtain ⟨start, shape⟩ := either
  exact ⟨_, _, _, shape.trans (List.append_assoc _ _ _).symm⟩

end Containers

/-- The text of a tree ends as solidly as its last leaf. -/
theorem isSolid_treeChars {tree : Tree} (ordered : tree.Ordered) :
    ∃ path leaf, tree.leaves.getLast? = some (path, leaf) ∧
      ∀ start indent opener,
        isSolid (start ++ treeChars indent opener tree) = leaf.string?.all endsSolid := by
  induction ordered with
  | null => exact ⟨[], .null, rfl, fun start _ _ => isSolid_append_line start _⟩
  | boolean b =>
    refine ⟨[], .boolean b, rfl, fun start _ _ => ?_⟩
    cases b <;> exact isSolid_append_line start _
  | integer n =>
    exact ⟨[], .integer n, rfl, fun start _ _ =>
      isSolid_numeric (Json.numeric_intChars n.toInt) (Json.intChars_ne_nil n.toInt) start⟩
  | float x => exact ⟨[], .float x, rfl, fun start _ _ => isSolid_floatChars start x⟩
  | string s => exact ⟨[], .string s, rfl, fun start indent _ => isSolid_stringLine start _ s⟩
  | @array items _ ih =>
    rcases List.eq_nil_or_concat' items with rfl | ⟨items, item, rfl⟩
    · exact ⟨[], .array [], rfl, fun start _ _ => isSolid_append_line start _⟩
    obtain ⟨path, leaf, last, same⟩ := ih item (by simp)
    have listed : (Tree.array (items ++ [item])).leaves = Tree.itemLeaves 0 (items ++ [item]) := by
      simp [Tree.leaves]
    refine ⟨_, leaf, listed ▸ Tree.getLast?_itemLeaves last 0 items, fun start indent opener => ?_⟩
    obtain ⟨before, column, shape⟩ := exists_array_concat indent opener items item
    rw [shape, ← List.append_assoc, same]
  | @object entries _ _ ih =>
    rcases List.eq_nil_or_concat' entries with rfl | ⟨entries, ⟨name, item⟩, rfl⟩
    · exact ⟨[], .object .empty, rfl, fun start _ _ => isSolid_append_line start _⟩
    obtain ⟨path, leaf, last, same⟩ := ih (name, item) (by simp)
    have listed : (Tree.object (entries ++ [(name, item)])).leaves =
        Tree.entryLeaves (entries ++ [(name, item)]) := by
      simp [Tree.leaves]
    refine ⟨_, leaf, listed ▸ Tree.getLast?_entryLeaves last name entries,
      fun start indent opener => ?_⟩
    obtain ⟨before, column, opened, shape⟩ := exists_object_concat indent opener entries name item
    rw [shape, ← List.append_assoc, same]

section Roots

variable {value : Value}

theorem treeChars_ne_nil (indent : Nat) (opener : Opener) (tree : Tree) :
    treeChars indent opener tree ≠ [] := by
  cases tree with
  | null | boolean | integer | float => exact List.cons_ne_nil _ _
  | string s =>
    rw [treeChars, stringLine]
    split <;> exact List.cons_ne_nil _ _
  | array | object =>
    simp only [treeChars]
    split
    · exact List.cons_ne_nil _ _
    · cases opener <;> exact List.cons_ne_nil _ _

theorem nameChars_ne_nil (indent : Nat) (name : String) : (nameChars indent name).1 ≠ [] := by
  rw [nameChars]
  split <;> simp

theorem chars_array {items : List Tree} (some : items ≠ []) (ordered : (Tree.array items).Ordered) :
    chars ⟨.array items, ordered⟩ = (itemsChars 0 items).flatten := by
  cases items with
  | nil => exact absurd rfl some
  | cons item rest => rfl

theorem chars_object {entries : List (String × Tree)} (some : entries ≠ [])
    (ordered : (Tree.object entries).Ordered) :
    chars ⟨.object entries, ordered⟩ = (entriesChars 0 entries).flatten := by
  cases entries with
  | nil => exact absurd rfl some
  | cons entry rest => rfl

/-- Texts that end with the same tree are as solid as each other. -/
theorem isSolid_alike {text other start before : List Char} {item : Tree} (ordered : item.Ordered)
    (shape : text = start ++ treeChars indent opener item)
    (shape' : other = before ++ treeChars column opened item) : isSolid text = isSolid other := by
  obtain ⟨_, _, _, same⟩ := isSolid_treeChars ordered
  rw [shape, shape', same, same]

theorem one_lt_length {text start : List Char} {item : Tree} (some : start ≠ [])
    (shape : text = start ++ treeChars indent opener item) : 1 < text.length := by
  have front := List.length_pos_of_ne_nil some
  have behind := List.length_pos_of_ne_nil (treeChars_ne_nil indent opener item)
  rw [shape, List.length_append]
  omega

theorem chars_alike (container : value.isContainer = true) :
    1 < (chars value).length ∧ isSolid (chars value) = isSolid (treeChars 0 .mark value.tree) := by
  obtain ⟨tree, ordered⟩ := value
  cases ordered with
  | null | boolean | integer | float | string => cases container
  | @array items each =>
    rcases List.eq_nil_or_concat' items with rfl | ⟨items, item, rfl⟩
    · exact ⟨(by decide : 1 < 3), rfl⟩
    have shape : chars ⟨.array (items ++ [item]), .array each⟩ =
        ((itemsChars 0 items).flatten ++ ['-']) ++ treeChars 0 .mark item := by
      rw [chars_array (by simp), itemsChars_concat]
      simp
    obtain ⟨before, column, whole⟩ := exists_array_concat 0 .mark items item
    exact ⟨one_lt_length (by simp) shape, isSolid_alike (each item (by simp)) shape whole⟩
  | @object entries ascending each =>
    rcases List.eq_nil_or_concat' entries with rfl | ⟨entries, ⟨name, item⟩, rfl⟩
    · exact ⟨(by decide : 1 < 3), rfl⟩
    have shape : chars ⟨.object (entries ++ [(name, item)]), .object ascending each⟩ =
        ((entriesChars 0 entries).flatten ++ (nameChars 0 name).1) ++
          treeChars 0 (nameChars 0 name).2 item := by
      rw [chars_object (by simp), entriesChars_concat]
      simp
    obtain ⟨before, column, opened, whole⟩ := exists_object_concat 0 .mark entries name item
    exact ⟨one_lt_length (by simp [nameChars_ne_nil]) shape,
      isSolid_alike (each (name, item) (by simp)) shape whole⟩

/-- The document of a container ends as solidly as its last leaf, and is no line break alone. -/
theorem isSolid_chars (container : value.isContainer = true) :
    Unicode.chomp (chars value) ≠ [] ∧ ∃ path leaf, value.leaves.getLast? = some (path, leaf) ∧
      isSolid (chars value) = leaf.string?.all endsSolid := by
  obtain ⟨several, alike⟩ := chars_alike container
  obtain ⟨path, leaf, last, same⟩ := isSolid_treeChars value.ordered
  exact ⟨Unicode.chomp_ne_nil several, path, leaf, last, alike.trans (same [] 0 .mark)⟩

end Roots

end Yaml
end PathEdit
