import PathEdit.Proofs.Json.Reading

/-! What JSON texts of one value have in common in all layouts: the same pieces, which a layout puts
on lines. -/
namespace PathEdit.Json

/-- What a text is made of in any layout. -/
inductive Piece where
  | text (chars : List Char)
  | colon
  | newline (level : Nat)

namespace Piece

def render (layout : Layout) : Piece → List Char
  | text chars => chars
  | colon => layout.colon
  | newline level => layout.newline level

/-- The pieces of elements between brackets. -/
def enclose (level : Nat) (opening closing : Char) (parts : List (List Piece)) : List Piece :=
  match parts with
  | [] => [text [opening, closing]]
  | parts =>
    text [opening] :: (List.intercalate [text [',']] (parts.map (newline (level + 1) :: ·)) ++
      [newline level, text [closing]])

theorem enclose_cons (level : Nat) (opening closing : Char) (part : List Piece)
    (rest : List (List Piece)) :
    enclose level opening closing (part :: rest) =
      text [opening] :: (List.intercalate [text [',']]
        ((part :: rest).map (newline (level + 1) :: ·)) ++ [newline level, text [closing]]) := rfl

end Piece

open Piece (enclose enclose_cons)

mutual

/-- The pieces of a tree. The text of a scalar is the same in all layouts. -/
def pieces (level : Nat) : Tree → List Piece
  | .array items => enclose level '[' ']' (itemsPieces (level + 1) items)
  | .object entries => enclose level '\x7b' '\x7d' (entriesPieces (level + 1) entries)
  | scalar => [.text (treeChars .compact level scalar)]

def itemsPieces (level : Nat) : List Tree → List (List Piece)
  | [] => []
  | item :: rest => pieces level item :: itemsPieces level rest

def entriesPieces (level : Nat) : List (String × Tree) → List (List Piece)
  | [] => []
  | (name, item) :: rest =>
    (.text (quote name) :: .colon :: pieces level item) :: entriesPieces level rest

end

theorem itemsPieces_eq_map (level : Nat) (items : List Tree) :
    itemsPieces level items = items.map (pieces level) := by
  induction items with
  | nil => rfl
  | cons item rest ih => rw [itemsPieces, ih, List.map_cons]

theorem entriesPieces_eq_map (level : Nat) (entries : List (String × Tree)) :
    entriesPieces level entries =
      entries.map fun entry => .text (quote entry.1) :: .colon :: pieces level entry.2 := by
  induction entries with
  | nil => rfl
  | cons entry rest ih => rw [entriesPieces, ih, List.map_cons]

section Rendering

variable {layout : Layout}

theorem flatMap_intercalate (f : α → List β) (separator : List α) (parts : List (List α)) :
    (List.intercalate separator parts).flatMap f =
      List.intercalate (separator.flatMap f) (parts.map (·.flatMap f)) := by
  induction parts with
  | nil => rfl
  | cons part rest ih =>
    cases rest with
    | nil => simp
    | cons next rest =>
      have more : (next :: rest).map (·.flatMap f) ≠ [] := List.cons_ne_nil _ _
      rw [List.intercalate_cons_of_ne_nil (List.cons_ne_nil _ _), List.flatMap_append,
        List.flatMap_append, ih, ← List.intercalate_cons_of_ne_nil more]
      rfl

theorem render_enclose (level : Nat) (opening closing : Char) (parts : List (List Piece)) :
    (enclose level opening closing parts).flatMap (Piece.render layout) =
      layout.enclose level opening closing (parts.map (·.flatMap (Piece.render layout))) := by
  cases parts with
  | nil => rfl
  | cons part rest =>
    rw [enclose_cons, List.flatMap_cons, List.flatMap_append, flatMap_intercalate, List.map_map]
    simp [Layout.enclose, Piece.render, Function.comp_def]

/-- A text is what its pieces are in its layout. -/
theorem render_pieces {tree : Tree} (ordered : tree.Ordered) (level : Nat) :
    (pieces level tree).flatMap (Piece.render layout) = treeChars layout level tree := by
  induction ordered generalizing level with
  | null => rfl
  | boolean b => cases b <;> rfl
  | integer n => exact List.append_nil _
  | float x => exact List.append_nil _
  | string s => exact List.append_nil _
  | @array items _ ih =>
    rw [pieces, render_enclose, itemsPieces_eq_map, treeChars, itemsChars_eq_map, List.map_map]
    exact congrArg _ (List.map_congr_left fun item present => ih item present _)
  | @object entries _ _ ih =>
    rw [pieces, render_enclose, entriesPieces_eq_map, treeChars, entriesChars_eq_map, List.map_map]
    refine congrArg _ (List.map_congr_left fun entry present => ?_)
    rw [← ih entry present, List.append_assoc]
    rfl

end Rendering

/-- The contents of lines, the further ones with their levels. -/
structure Lines where
  first : List Char
  further : List (Nat × List Char)

/-- The contents of the lines that pieces make, with a blank behind each colon. -/
def Lines.ofPieces : List Piece → Lines
  | [] => ⟨[], []⟩
  | .text chars :: rest => { ofPieces rest with first := chars ++ (ofPieces rest).first }
  | .colon :: rest => { ofPieces rest with first := ':' :: ' ' :: (ofPieces rest).first }
  | .newline level :: rest => ⟨[], (level, (ofPieces rest).first) :: (ofPieces rest).further⟩

namespace Lines

theorem exists_first_append (left right : List Piece) :
    ∃ more, (ofPieces (left ++ right)).first = (ofPieces left).first ++ more := by
  induction left with
  | nil => exact ⟨_, rfl⟩
  | cons piece left ih =>
    obtain ⟨more, same⟩ := ih
    cases piece with
    | text chars => exact ⟨more, (congrArg (chars ++ ·) same).trans (List.append_assoc _ _ _).symm⟩
    | colon => exact ⟨more, congrArg (':' :: ' ' :: ·) same⟩
    | newline level => exact ⟨[], rfl⟩

/-- The lines of a text that is not on one line. -/
theorem render_ofPieces {layout : Layout} (laid : layout.isCompact = false) (all : List Piece) :
    all.flatMap (Piece.render layout) = (ofPieces all).first ++
      (ofPieces all).further.flatMap fun line => layout.newline line.1 ++ line.2 := by
  induction all with
  | nil => rfl
  | cons piece rest ih =>
    rw [List.flatMap_cons, ih]
    cases piece with
    | text chars => exact (List.append_assoc _ _ _).symm
    | colon => simp [Piece.render, Layout.colon, laid, ofPieces]
    | newline level => simp [Piece.render, ofPieces]

end Lines

end PathEdit.Json
