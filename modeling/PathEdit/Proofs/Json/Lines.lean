import PathEdit.Proofs.Json.Brackets
import PathEdit.Proofs.Json.Pieces

/-! The lines of JSON texts. A text that is laid out over lines is the text without a layout, cut in
front of elements and closing brackets, with a beginning of its line in front of each piece, and a
blank behind the colon of each name. -/
namespace PathEdit.Json

open Piece (enclose enclose_cons)

/-- One for a content that begins with a closing bracket, which closes a level of its own line. -/
def closing (content : List Char) : Int := if beginsClosing content then 1 else 0

/-- Pieces that lead from a number of open brackets to another one, with each new line at the level
of the brackets that are open at its beginning, less the one that it closes there. -/
inductive Nested : Int → List Piece → Int → Prop
  | nil : Nested d [] d
  | text (unbroken : Unbroken cs) (rest : Nested (d + openBrackets cs) all last) :
      Nested d (.text cs :: all) last
  | colon (rest : Nested d all last) : Nested d (.colon :: all) last
  | newline {level : Nat} (begun : (Lines.ofPieces all).first ≠ [])
      (depth : (level : Int) = d - closing (Lines.ofPieces all).first) (rest : Nested d all last) :
      Nested d (.newline level :: all) last

namespace Nested

variable {d e last : Int} {left right all : List Piece}

theorem append (before : Nested d left e) (behind : Nested e right last) :
    Nested d (left ++ right) last := by
  induction before with
  | nil => exact behind
  | text unbroken _ ih => exact .text unbroken (ih behind)
  | colon _ ih => exact .colon (ih behind)
  | @newline all d e level begun depth _ ih =>
    -- The line may go on in the right pieces; its first character is here, and decides.
    obtain ⟨more, same⟩ := Lines.exists_first_append all right
    obtain ⟨c, cs, front⟩ := List.exists_cons_of_ne_nil begun
    have begins : closing (Lines.ofPieces (all ++ right)).first =
        closing (Lines.ofPieces all).first := by
      rw [same, front]
      rfl
    have starts : (Lines.ofPieces (all ++ right)).first ≠ [] := by
      rw [same, front]
      exact List.cons_ne_nil _ _
    exact .newline starts (depth.trans (congrArg (d - ·) begins.symm)) (ih behind)

theorem level_text {chars : List Char} (level : Level chars) (rest : Nested d all last) :
    Nested d (.text chars :: all) last := by
  refine .text level.toUnbroken ?_
  rwa [level.even, Int.add_zero]

end Nested

/-- The brackets that containers stand in. -/
inductive Pair : Char → Char → Prop
  | square : Pair '[' ']'
  | curly : Pair '\x7b' '\x7d'

namespace Pair

variable {opening closing : Char}

theorem unbroken_opening (pair : Pair opening closing) : Unbroken [opening] := by
  cases pair <;> exact ⟨by decide, rfl, by decide⟩

theorem unbroken_closing (pair : Pair opening closing) : Unbroken [closing] := by
  cases pair <;> exact ⟨by decide, rfl, by decide⟩

theorem level_both (pair : Pair opening closing) : Level [opening, closing] := by
  cases pair <;> exact ⟨⟨by decide, rfl, by decide⟩, rfl⟩

theorem openBrackets_opening (pair : Pair opening closing) : openBrackets [opening] = 1 := by
  cases pair <;> rfl

theorem openBrackets_closing (pair : Pair opening closing) : openBrackets [closing] = -1 := by
  cases pair <;> rfl

theorem opens (pair : Pair opening closing) (rest : List Char) :
    beginsClosing (opening :: rest) = false := by
  cases pair <;> rfl

theorem closes (pair : Pair opening closing) : Json.closing [closing] = 1 := by
  cases pair <;> rfl

end Pair

theorem level_comma : Level [','] := level_of_bland (List.all_eq_true.mp rfl)

/-- Pieces of a value at a level: they close all brackets that they open, and begin with no closing
one. -/
structure Standing (level : Nat) (all : List Piece) : Prop where
  nested : Nested level all level
  begun : (Lines.ofPieces all).first ≠ []
  opens : beginsClosing (Lines.ofPieces all).first = false

namespace Standing

variable {level : Nat} {part : List Piece} {parts : List (List Piece)}

theorem of_level {chars : List Char} (even : Level chars) (some : chars ≠ [])
    (opens : beginsClosing chars = false) (level : Nat) : Standing level [.text chars] where
  nested := .level_text even .nil
  begun := by simpa [Lines.ofPieces] using some
  opens := by simpa [Lines.ofPieces] using opens

/-- The part of an element on lines of its own. -/
theorem own_line (standing : Standing level part) :
    Nested level (.newline level :: part) level := by
  refine .newline standing.begun ?_ standing.nested
  rw [closing, standing.opens]
  simp

theorem intercalate (some : parts ≠ []) (standing : ∀ part ∈ parts, Standing level part) :
    Nested level (List.intercalate [.text [',']] (parts.map (.newline level :: ·))) level := by
  induction parts with
  | nil => exact absurd rfl some
  | cons part rest ih =>
    obtain ⟨first, others⟩ := List.forall_mem_cons.mp standing
    cases rest with
    | nil => simpa using first.own_line
    | cons next rest =>
      have more : (next :: rest).map (Piece.newline level :: ·) ≠ [] := List.cons_ne_nil _ _
      rw [List.map_cons, List.intercalate_cons_of_ne_nil more, List.append_assoc]
      exact first.own_line.append (.level_text level_comma (ih (List.cons_ne_nil _ _) others))

theorem enclose {opening closing : Char} (pair : Pair opening closing)
    (standing : ∀ part ∈ parts, Standing (level + 1) part) :
    Standing level (enclose level opening closing parts) := by
  cases parts with
  | nil => exact .of_level pair.level_both (List.cons_ne_nil _ _) (pair.opens _) level
  | cons part rest =>
    have inner := Standing.intercalate (List.cons_ne_nil part rest) standing
    have outer : Nested (level + 1 : Nat) [.newline level, .text [closing]] level := by
      have closes : Json.closing (Lines.ofPieces [.text [closing]]).first = 1 := pair.closes
      refine .newline (List.cons_ne_nil _ _) (by omega) (.text pair.unbroken_closing ?_)
      rw [pair.openBrackets_closing, Int.natCast_succ, Int.add_neg_cancel_right]
      exact .nil
    refine ⟨.text pair.unbroken_opening ?_, List.cons_ne_nil _ _, pair.opens _⟩
    rw [pair.openBrackets_opening]
    exact inner.append outer

theorem quoted (s : String) (level : Nat) : Standing level [.text (quote s)] :=
  .of_level (level_quote s) (List.cons_ne_nil _ _) rfl level

theorem bland {chars : List Char} (bland : ∀ c ∈ chars, isBland c = true) (some : chars ≠ [])
    (level : Nat) : Standing level [.text chars] := by
  refine .of_level (level_of_bland bland) some ?_ level
  obtain ⟨c, rest, rfl⟩ := List.exists_cons_of_ne_nil some
  exact (not_bracket_of_bland (bland c List.mem_cons_self)).2

theorem numeric {chars : List Char} (numeric : ∀ c ∈ chars, Binary64.isNumeric c = true)
    (some : chars ≠ []) (level : Nat) : Standing level [.text chars] :=
  .bland (fun c present => bland_of_numeric (numeric c present)) some level

theorem floatChars (x : Binary64) (level : Nat) : Standing level [.text (floatChars x)] := by
  rw [Json.floatChars]
  split
  · exact .numeric (floatStyle.numeric_chars x) (floatStyle.chars_ne_nil x) level
  · exact .bland (List.all_eq_true.mp rfl) (List.cons_ne_nil _ _) level

/-- The part of an entry is its name, a colon and the part of its value. -/
theorem entry (standing : Standing level part) (name : String) :
    Standing level (.text (quote name) :: .colon :: part) where
  nested := .level_text (level_quote name) (.colon standing.nested)
  begun := List.cons_ne_nil _ _
  opens := rfl

end Standing

/-- Every ordered tree stands at its level. -/
theorem standing_pieces {tree : Tree} (ordered : tree.Ordered) (level : Nat) :
    Standing level (pieces level tree) := by
  induction ordered generalizing level with
  | null => exact .bland (List.all_eq_true.mp rfl) (List.cons_ne_nil _ _) level
  | boolean b => cases b <;> exact .bland (List.all_eq_true.mp rfl) (List.cons_ne_nil _ _) level
  | integer n => exact .numeric (numeric_intChars n.toInt) (intChars_ne_nil n.toInt) level
  | float x => exact .floatChars x level
  | string s => exact .quoted s level
  | @array items _ ih =>
    rw [pieces, itemsPieces_eq_map]
    refine .enclose .square fun part present => ?_
    obtain ⟨item, member, rfl⟩ := List.mem_map.mp present
    exact ih item member _
  | @object entries _ _ ih =>
    rw [pieces, entriesPieces_eq_map]
    refine .enclose .curly fun part present => ?_
    obtain ⟨entry, member, rfl⟩ := List.mem_map.mp present
    exact (ih entry member _).entry entry.1

/-- Lines of a layout behind a text. Each is the margin, the indent once for each bracket that is
open, less the one that its content begins by closing, and the content. -/
inductive LaidOut (layout : Layout) : List Char → List (List Char) → List (List Char) → Prop
  | nil : LaidOut layout before [] []
  | cons {depth : Nat} (count : (depth : Int) = openBrackets before - closing content)
      (single : '\n' ∉ content) (rest : LaidOut layout (before ++ content) lines contents) :
      LaidOut layout before
        ((layout.margin ++ (List.replicate depth layout.indent).flatten ++ content) :: lines)
        (content :: contents)

/-- A line in a layout. -/
def Layout.line (layout : Layout) (line : Nat × List Char) : List Char :=
  layout.margin ++ (List.replicate line.1 layout.indent).flatten ++ line.2

namespace Nested

variable {d last : Int} {all : List Piece}

/-- The lines that pieces make behind a text, when as many brackets are open there as the pieces
begin with. -/
theorem laidOut (layout : Layout) (nested : Nested d all last) (before : List Char)
    (count : openBrackets before = d) (closed : Place.outside.behind before = .outside) :
    '\n' ∉ (Lines.ofPieces all).first ∧
      LaidOut layout (before ++ (Lines.ofPieces all).first)
        ((Lines.ofPieces all).further.map layout.line)
        ((Lines.ofPieces all).further.map (·.2)) := by
  induction nested generalizing before with
  | nil => exact ⟨List.not_mem_nil, .nil⟩
  | @text cs d all last unbroken _ ih =>
    have deeper : openBrackets (before ++ cs) = d + openBrackets cs := by
      rw [openBrackets_append closed, count]
    have whole : Place.outside.behind (before ++ cs) = .outside := by
      rw [Place.behind_append, closed, unbroken.closed]
    obtain ⟨single, rest⟩ := ih _ deeper whole
    rw [List.append_assoc] at rest
    exact ⟨fun present => (List.mem_append.mp present).elim unbroken.single single, rest⟩
  | @colon d all last _ ih =>
    have deeper : openBrackets (before ++ [':', ' ']) = d := by
      rw [openBrackets_append closed, count]
      exact Int.add_zero d
    have whole : Place.outside.behind (before ++ [':', ' ']) = .outside := by
      rw [Place.behind_append, closed]
      rfl
    obtain ⟨single, rest⟩ := ih _ deeper whole
    rw [List.append_assoc] at rest
    refine ⟨?_, rest⟩
    simpa [Lines.ofPieces] using single
  | newline begun depth _ ih =>
    obtain ⟨single, rest⟩ := ih _ count closed
    refine ⟨List.not_mem_nil, ?_⟩
    rw [Lines.ofPieces, List.append_nil]
    exact .cons (count ▸ depth) single rest

/-- Without the blanks behind colons, the contents are the text on one line. -/
theorem tighten (nested : Nested d all last) :
    Place.outside.tighten false
        ((Lines.ofPieces all).first ++ ((Lines.ofPieces all).further.map (·.2)).flatten) =
      all.flatMap (Piece.render .compact) := by
  induction nested with
  | nil => rfl
  | text unbroken _ ih =>
    rw [Lines.ofPieces, List.append_assoc, Place.tighten_append unbroken.colonless, unbroken.closed,
      ih]
    rfl
  | colon _ ih => exact congrArg (':' :: ·) ih
  | newline _ _ _ ih => exact ih

end Nested

theorem Layout.newline_append {layout : Layout} (laid : layout.isCompact = false)
    (line : Nat × List Char) : layout.newline line.1 ++ line.2 = '\n' :: layout.line line := by
  simp [Layout.newline, laid, Layout.line]

theorem lines_eq_intercalate (first : List Char) (lines : List (List Char)) :
    first ++ lines.flatMap ('\n' :: ·) = List.intercalate ['\n'] (first :: lines) := by
  induction lines generalizing first with
  | nil => simp
  | cons line lines ih =>
    rw [List.intercalate_cons_of_ne_nil (List.cons_ne_nil _ _), ← ih, List.append_assoc]
    rfl

theorem LaidOut.single_lines {layout : Layout} {before : List Char}
    {lines contents : List (List Char)} (laid : LaidOut layout before lines contents)
    (margin : '\n' ∉ layout.margin) (indent : '\n' ∉ layout.indent) :
    ∀ line ∈ lines, '\n' ∉ line := by
  induction laid with
  | nil => nofun
  | cons count single rest ih =>
    refine List.forall_mem_cons.mpr ⟨?_, ih⟩
    simp [margin, indent, single]

/-- A text over lines is the text on one line with a layout: each line after the first is the
margin, the indent once for each open bracket, less the one that the line begins by closing, and a
content; the contents together are the text on one line, but for the blank behind the colon of each
name. -/
theorem print_lines {layout : Layout} (value : Value)
    (some : layout.margin ≠ [] ∨ layout.indent ≠ [])
    (margin : '\n' ∉ layout.margin) (indent : '\n' ∉ layout.indent) :
    ∃ first lines contents,
      (print layout value).toList.splitOn '\n' = first :: lines ∧
      '\n' ∉ first ∧ LaidOut layout first lines contents ∧
      Place.outside.tighten false (first ++ contents.flatten) = (print .compact value).toList := by
  have laid : layout.isCompact = false := by
    rcases some with some | some <;> simp [Layout.isCompact, some]
  have standing := standing_pieces value.ordered 0
  obtain ⟨single, lines⟩ := standing.nested.laidOut layout [] rfl rfl
  refine ⟨_, _, _, ?_, single, lines, ?_⟩
  · rw [print, String.toList_ofList, chars, ← render_pieces value.ordered,
      Lines.render_ofPieces laid, funext (Layout.newline_append laid), ← List.flatMap_map,
      lines_eq_intercalate]
    refine List.splitOn_intercalate _ ?_ (List.cons_ne_nil _ _)
    exact List.forall_mem_cons.mpr ⟨single, lines.single_lines margin indent⟩
  · rw [standing.nested.tighten, render_pieces value.ordered, print, String.toList_ofList]
    rfl

/-- A name and a string full of brackets and colons, on lines whose margin and indent are brackets
themselves. -/
theorem print_lines_bracketed :
    let layout : Layout := ⟨['\x7d'], ['[', '"']⟩
    let value : Value := .object (.ofList
      [("a: [\"", .array [.string "]\\\n: ", .float ⟨0x3ff8000000000000⟩]), ("b", .object .empty)])
    (layout.margin ≠ [] ∨ layout.indent ≠ []) ∧ '\n' ∉ layout.margin ∧ '\n' ∉ layout.indent ∧
      ∃ first lines contents,
        (print layout value).toList.splitOn '\n' = first :: lines ∧
        '\n' ∉ first ∧ LaidOut layout first lines contents ∧
        Place.outside.tighten false (first ++ contents.flatten) = (print .compact value).toList :=
  ⟨by decide, by decide, by decide, print_lines _ (by decide) (by decide) (by decide)⟩

end PathEdit.Json
