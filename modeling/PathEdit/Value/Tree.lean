import PathEdit.Binary64.Basic

/-! Trees of scalars, arrays and objects, with the order of object entries still open. -/
namespace PathEdit

/-- A tree whose objects list their entries in any order, names possibly repeated. -/
inductive Tree where
  | null
  | boolean (b : Bool)
  | integer (n : Int64)
  | float (x : Binary64)
  | string (s : String)
  | array (items : List Tree)
  | object (entries : List (String × Tree))

namespace Tree

/-- Every object in the tree lists its entries in strictly ascending order of names. -/
inductive Ordered : Tree → Prop
  | null : Ordered null
  | boolean (b : Bool) : Ordered (boolean b)
  | integer (n : Int64) : Ordered (integer n)
  | float (x : Binary64) : Ordered (float x)
  | string (s : String) : Ordered (string s)
  | array {items : List Tree} (each : ∀ item ∈ items, Ordered item) : Ordered (array items)
  | object {entries : List (String × Tree)}
      (ascending : (entries.map Prod.fst).Pairwise (· < ·))
      (each : ∀ entry ∈ entries, Ordered entry.2) : Ordered (object entries)

theorem Ordered.items {items : List Tree} (ordered : (Tree.array items).Ordered) :
    ∀ item ∈ items, item.Ordered := by
  cases ordered with
  | array each => exact each

theorem Ordered.ascending {entries : List (String × Tree)} (ordered : (Tree.object entries).Ordered) :
    (entries.map Prod.fst).Pairwise (· < ·) := by
  cases ordered with
  | object ascending _ => exact ascending

theorem Ordered.entries {entries : List (String × Tree)} (ordered : (Tree.object entries).Ordered) :
    ∀ entry ∈ entries, entry.2.Ordered := by
  cases ordered with
  | object _ each => exact each

mutual

def decEq : (left right : Tree) → Decidable (left = right)
  | null, null => .isTrue rfl
  | boolean a, boolean b => decidable_of_iff (a = b) (by simp)
  | integer a, integer b => decidable_of_iff (a = b) (by simp)
  | float a, float b => decidable_of_iff (a = b) (by simp)
  | string a, string b => decidable_of_iff (a = b) (by simp)
  | array a, array b =>
    match decEqItems a b with
    | .isTrue same => .isTrue (congrArg _ same)
    | .isFalse different => .isFalse fun same => different (array.inj same)
  | object a, object b =>
    match decEqEntries a b with
    | .isTrue same => .isTrue (congrArg _ same)
    | .isFalse different => .isFalse fun same => different (object.inj same)
  | null, boolean _ | null, integer _ | null, float _ | null, string _ | null, array _
  | null, object _ => .isFalse nofun
  | boolean _, null | boolean _, integer _ | boolean _, float _ | boolean _, string _
  | boolean _, array _ | boolean _, object _ => .isFalse nofun
  | integer _, null | integer _, boolean _ | integer _, float _ | integer _, string _
  | integer _, array _ | integer _, object _ => .isFalse nofun
  | float _, null | float _, boolean _ | float _, integer _ | float _, string _
  | float _, array _ | float _, object _ => .isFalse nofun
  | string _, null | string _, boolean _ | string _, integer _ | string _, float _
  | string _, array _ | string _, object _ => .isFalse nofun
  | array _, null | array _, boolean _ | array _, integer _ | array _, float _
  | array _, string _ | array _, object _ => .isFalse nofun
  | object _, null | object _, boolean _ | object _, integer _ | object _, float _
  | object _, string _ | object _, array _ => .isFalse nofun

def decEqItems : (left right : List Tree) → Decidable (left = right)
  | [], [] => .isTrue rfl
  | [], _ :: _ | _ :: _, [] => .isFalse nofun
  | a :: as, b :: bs =>
    match decEq a b with
    | .isFalse different => .isFalse fun same => different (List.cons.inj same).1
    | .isTrue heads =>
      match decEqItems as bs with
      | .isTrue tails => .isTrue (heads ▸ tails ▸ rfl)
      | .isFalse different => .isFalse fun same => different (List.cons.inj same).2

def decEqEntries : (left right : List (String × Tree)) → Decidable (left = right)
  | [], [] => .isTrue rfl
  | [], _ :: _ | _ :: _, [] => .isFalse nofun
  | (key, a) :: as, (key', b) :: bs =>
    if keys : key = key' then
      match decEq a b with
      | .isFalse different => .isFalse fun same => different (by simp_all)
      | .isTrue heads =>
        match decEqEntries as bs with
        | .isTrue tails => .isTrue (keys ▸ heads ▸ tails ▸ rfl)
        | .isFalse different => .isFalse fun same => different (List.cons.inj same).2
    else .isFalse fun same => keys (by simp_all)

end

instance : DecidableEq Tree := decEq

end Tree
end PathEdit
