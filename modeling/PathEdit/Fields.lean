/-! Finite maps from names to values, kept as entries in strictly ascending order of names. Two
maps with the same look-ups are equal (`Fields.ext_get?`), so an equation between maps says
everything about them. -/
namespace PathEdit

/-- A finite map from names, in strictly ascending order of code points. -/
structure Fields (α : Type) where
  entries : List (String × α)
  ascending : (entries.map Prod.fst).Pairwise (· < ·)

namespace Fields

variable {α β : Type}

private theorem lt_of_not_lt {a b : String} (notLess : ¬ a < b) (different : a ≠ b) : b < a := by
  rcases String.le_total a b with below | above
  · exact absurd (String.le_antisymm below (String.not_lt.mp notLess)) different
  · exact Decidable.byContradiction fun stuck =>
      different (String.le_antisymm (String.not_lt.mp stuck) above)

private theorem lookup_here (name : String) (a : α) (rest : List (String × α)) :
    ((name, a) :: rest).lookup name = some a := by simp

private theorem lookup_there {name key : String} (different : name ≠ key) (a : α)
    (rest : List (String × α)) : ((key, a) :: rest).lookup name = rest.lookup name := by
  have differs : (name == key) = false := by simpa using different
  rw [List.lookup_cons, differs]

/-- Puts an entry in its place, over an entry of the same name. -/
def insertEntry (name : String) (a : α) : List (String × α) → List (String × α)
  | [] => [(name, a)]
  | entry :: rest =>
    if name < entry.1 then (name, a) :: entry :: rest
    else if name = entry.1 then (name, a) :: rest
    else entry :: insertEntry name a rest

theorem mem_keys_insertEntry {name key : String} {a : α} {entries : List (String × α)}
    (member : key ∈ (insertEntry name a entries).map Prod.fst) :
    key = name ∨ key ∈ entries.map Prod.fst := by
  induction entries with
  | nil => simpa [insertEntry] using member
  | cons entry rest ih =>
    unfold insertEntry at member
    split at member
    · simpa using member
    · split at member
      · rename_i same
        simp only [List.map_cons, List.mem_cons] at member ⊢
        rcases member with here | there
        · exact .inl here
        · exact .inr (.inr there)
      · simp only [List.map_cons, List.mem_cons] at member ⊢
        rcases member with here | there
        · exact .inr (.inl here)
        · rcases ih there with new | old
          · exact .inl new
          · exact .inr (.inr old)

theorem ascending_insertEntry (name : String) (a : α) {entries : List (String × α)}
    (ascending : (entries.map Prod.fst).Pairwise (· < ·)) :
    ((insertEntry name a entries).map Prod.fst).Pairwise (· < ·) := by
  induction entries with
  | nil => simp [insertEntry]
  | cons entry rest ih =>
    obtain ⟨below, ordered⟩ := List.pairwise_cons.mp ascending
    unfold insertEntry
    split
    · rename_i less
      refine List.pairwise_cons.mpr ⟨?_, ascending⟩
      intro key member
      rcases List.mem_cons.mp member with here | there
      · exact here ▸ less
      · exact String.lt_trans less (below key there)
    · split
      · rename_i same
        exact List.pairwise_cons.mpr ⟨by simpa [same] using below, ordered⟩
      · rename_i notLess different
        refine List.pairwise_cons.mpr ⟨?_, ih ordered⟩
        intro key member
        rcases mem_keys_insertEntry member with new | old
        · exact new ▸ lt_of_not_lt notLess different
        · exact below key old

/-- The map without entries. -/
def empty : Fields α := ⟨[], by simp⟩

/-- The value under a name. -/
def get? (fields : Fields α) (name : String) : Option α := fields.entries.lookup name

def size (fields : Fields α) : Nat := fields.entries.length

def keys (fields : Fields α) : List String := fields.entries.map Prod.fst

def values (fields : Fields α) : List α := fields.entries.map Prod.snd

/-- The map with `a` under `name`, in place of what was there. -/
def insert (fields : Fields α) (name : String) (a : α) : Fields α :=
  ⟨insertEntry name a fields.entries, ascending_insertEntry name a fields.ascending⟩

/-- The map without `name`. -/
def erase (fields : Fields α) (name : String) : Fields α :=
  ⟨fields.entries.filter (·.1 ≠ name),
    fields.ascending.sublist (List.filter_sublist.map Prod.fst)⟩

/-- Applies `f` to every value. -/
def map (f : α → β) (fields : Fields α) : Fields β :=
  ⟨fields.entries.map fun entry => (entry.1, f entry.2),
    by simpa [Function.comp_def] using fields.ascending⟩

/-- Applies `f` to the value under `name`, if there is one. -/
def modify (fields : Fields α) (name : String) (f : α → α) : Fields α :=
  ⟨fields.entries.map fun entry => (entry.1, if entry.1 = name then f entry.2 else entry.2),
    by simpa [Function.comp_def] using fields.ascending⟩

/-- The map of a list of entries; of several entries with one name the last counts. -/
def ofList (entries : List (String × α)) : Fields α :=
  entries.foldl (fun fields entry => fields.insert entry.1 entry.2) empty

@[simp] theorem get?_empty (name : String) : (empty : Fields α).get? name = none := rfl

private theorem lookup_insertEntry (entries : List (String × α)) (name other : String) (a : α) :
    (insertEntry name a entries).lookup other =
      if other = name then some a else entries.lookup other := by
  induction entries with
  | nil =>
    by_cases same : other = name
    · simp [insertEntry, same]
    · simp [insertEntry, same, lookup_there same]
  | cons entry rest ih =>
    obtain ⟨key, value⟩ := entry
    simp only [insertEntry]
    split
    · by_cases same : other = name
      · simp [same]
      · simp only [lookup_there same, same, if_false]
    · split
      · rename_i here
        subst here
        by_cases same : other = name
        · simp [same]
        · simp only [lookup_there same, same, if_false]
      · rename_i different
        by_cases hit : other = key
        · subst hit
          simp only [lookup_here, Ne.symm different, if_false]
        · simp only [lookup_there hit, ih]

@[simp] theorem get?_insert (fields : Fields α) (name other : String) (a : α) :
    (fields.insert name a).get? other = if other = name then some a else fields.get? other :=
  lookup_insertEntry fields.entries name other a

@[simp] theorem get?_erase (fields : Fields α) (name other : String) :
    (fields.erase name).get? other = if other = name then none else fields.get? other := by
  simp only [get?, erase]
  induction fields.entries with
  | nil => simp
  | cons entry rest ih =>
    obtain ⟨key, value⟩ := entry
    by_cases gone : key = name
    · by_cases hit : other = key
      · simpa [gone, hit] using ih
      · simpa only [List.filter_cons, gone, ne_eq, not_true_eq_false, decide_false,
          Bool.false_eq_true, if_false, lookup_there (gone ▸ hit)] using ih
    · by_cases hit : other = key
      · subst hit
        simp [gone]
      · simpa only [List.filter_cons, gone, ne_eq, not_false_eq_true, decide_true, if_true,
          lookup_there hit] using ih

@[simp] theorem get?_map (f : α → β) (fields : Fields α) (name : String) :
    (fields.map f).get? name = (fields.get? name).map f := by
  simp only [get?, map]
  induction fields.entries with
  | nil => rfl
  | cons entry rest ih =>
    obtain ⟨key, value⟩ := entry
    by_cases hit : name = key
    · simp [hit]
    · simpa only [List.map_cons, lookup_there hit] using ih

@[simp] theorem get?_modify (fields : Fields α) (name other : String) (f : α → α) :
    (fields.modify name f).get? other =
      if other = name then (fields.get? other).map f else fields.get? other := by
  simp only [get?, modify]
  induction fields.entries with
  | nil => simp
  | cons entry rest ih =>
    obtain ⟨key, value⟩ := entry
    by_cases hit : other = key
    · subst hit
      by_cases same : other = name <;> simp [same]
    · simpa only [List.map_cons, lookup_there hit] using ih

theorem mem_entries_iff {fields : Fields α} {name : String} {a : α} :
    (name, a) ∈ fields.entries ↔ fields.get? name = some a := by
  obtain ⟨entries, ascending⟩ := fields
  simp only [get?]
  induction entries with
  | nil => simp
  | cons entry rest ih =>
    obtain ⟨key, value⟩ := entry
    obtain ⟨below, ordered⟩ := List.pairwise_cons.mp ascending
    by_cases here : name = key
    · subst here
      have absent : (name, a) ∉ rest := fun member =>
        String.lt_irrefl name (below name (List.mem_map_of_mem member))
      simp [absent, eq_comm]
    · simp [lookup_there here, here, ih ordered]

private theorem lookup_eq_none_of_lt {entries : List (String × α)} {name : String}
    (below : ∀ key ∈ entries.map Prod.fst, name < key) : entries.lookup name = none := by
  rw [List.lookup_eq_none_iff]
  intro entry member
  have less := below entry.1 (List.mem_map_of_mem member)
  simpa using fun equal : name = entry.1 => String.lt_irrefl name (equal ▸ less)

/-- A name that is found in ascending entries is not below the first of them. -/
private theorem not_lt_of_lookup {name key : String} {a value : α} {rest : List (String × α)}
    (ascending : (((key, value) :: rest).map Prod.fst).Pairwise (· < ·))
    (found : ((key, value) :: rest).lookup name = some a) : ¬ name < key := by
  intro less
  have below : ∀ other ∈ ((key, value) :: rest).map Prod.fst, name < other := by
    intro other member
    rcases List.mem_cons.mp member with here | there
    · exact here ▸ less
    · exact String.lt_trans less ((List.pairwise_cons.mp ascending).1 other there)
  rw [lookup_eq_none_of_lt below] at found
  cases found

private theorem entries_eq_of_lookup {left right : List (String × α)}
    (leftAscending : (left.map Prod.fst).Pairwise (· < ·))
    (rightAscending : (right.map Prod.fst).Pairwise (· < ·))
    (same : ∀ name, left.lookup name = right.lookup name) : left = right := by
  induction left generalizing right with
  | nil =>
    cases right with
    | nil => rfl
    | cons entry rest =>
      obtain ⟨key, value⟩ := entry
      simpa using same key
  | cons entry rest ih =>
    obtain ⟨key, value⟩ := entry
    cases right with
    | nil => simpa using same key
    | cons other others =>
      obtain ⟨key', value'⟩ := other
      have notLess : ¬ key < key' :=
        not_lt_of_lookup rightAscending ((same key).symm.trans (lookup_here key value rest))
      have notGreater : ¬ key' < key :=
        not_lt_of_lookup leftAscending ((same key').trans (lookup_here key' value' others))
      obtain rfl : key = key' := Decidable.byContradiction fun different =>
        notGreater (lt_of_not_lt notLess different)
      obtain rfl : value = value' := by simpa using same key
      obtain ⟨below, ordered⟩ := List.pairwise_cons.mp leftAscending
      obtain ⟨below', ordered'⟩ := List.pairwise_cons.mp rightAscending
      refine congrArg _ (ih ordered ordered' fun name => ?_)
      by_cases hit : name = key
      · subst hit
        rw [lookup_eq_none_of_lt below, lookup_eq_none_of_lt below']
      · simpa only [lookup_there hit] using same name

/-- A map is determined by its look-ups. -/
theorem ext_get? {left right : Fields α} (same : ∀ name, left.get? name = right.get? name) :
    left = right := by
  have entries := entries_eq_of_lookup left.ascending right.ascending same
  cases left
  cases right
  cases entries
  rfl

theorem insert_insert (fields : Fields α) (name : String) (a b : α) :
    (fields.insert name a).insert name b = fields.insert name b := by
  refine ext_get? fun other => ?_
  rw [get?_insert, get?_insert, get?_insert]
  split <;> rfl

theorem insert_of_get? {fields : Fields α} {name : String} {a : α}
    (found : fields.get? name = some a) : fields.insert name a = fields := by
  refine ext_get? fun other => ?_
  rw [get?_insert]
  split
  · rename_i same
    rw [same, found]
  · rfl

private theorem insertEntry_of_above {entries : List (String × α)} {name : String}
    (above : ∀ key ∈ entries.map Prod.fst, key < name) (a : α) :
    insertEntry name a entries = entries ++ [(name, a)] := by
  induction entries with
  | nil => rfl
  | cons entry rest ih =>
    obtain ⟨first, above⟩ := List.forall_mem_cons.mp above
    have notBelow : ¬ name < entry.1 := fun below =>
      String.lt_irrefl name (String.lt_trans below first)
    have different : name ≠ entry.1 := fun same => String.lt_irrefl name (same ▸ first)
    rw [insertEntry, if_neg notBelow, if_neg different, ih above, List.cons_append]

private theorem entries_foldl_insert {more : List (String × α)} {fields : Fields α}
    (ascending : ((fields.entries ++ more).map Prod.fst).Pairwise (· < ·)) :
    (more.foldl (fun fields entry => fields.insert entry.1 entry.2) fields).entries =
      fields.entries ++ more := by
  induction more generalizing fields with
  | nil => simp
  | cons entry rest ih =>
    have above : ∀ key ∈ fields.entries.map Prod.fst, key < entry.1 := by
      rw [List.map_append, List.pairwise_append] at ascending
      exact fun key member => ascending.2.2 key member entry.1 (by simp)
    have next : (fields.insert entry.1 entry.2).entries = fields.entries ++ [entry] :=
      insertEntry_of_above above entry.2
    rw [List.foldl_cons, ih (by simpa [next] using ascending), next, List.append_assoc,
      List.singleton_append]

/-- A list of entries in order is the map that it makes. -/
theorem entries_ofList {entries : List (String × α)}
    (ascending : (entries.map Prod.fst).Pairwise (· < ·)) : (ofList entries).entries = entries :=
  entries_foldl_insert (by simpa [empty] using ascending)

theorem ofList_entries (fields : Fields α) : ofList fields.entries = fields := by
  obtain ⟨entries, ascending⟩ := fields
  have same := entries_ofList ascending
  cases made : ofList entries with
  | mk others _ =>
    rw [made] at same
    cases same
    rfl

end Fields
end PathEdit
