/-! States that an automaton shares. -/
namespace PathEdit.Regex.Footprint

/-- The states drawn so far that may be shared, by a description of each. There is a fixed number
of slots, and a state is forgotten when another one takes its slot. -/
structure Shared where
  slots : Array (Option (List Nat × Nat))

namespace Shared

def empty (capacity : Nat) : Shared := ⟨Array.replicate capacity none⟩

/-- The numbers of a description, mixed into 64 bits. -/
def mix (description : List Nat) : UInt64 :=
  description.foldl (fun mixed n => (mixed ^^^ UInt64.ofNat n) * 1099511628211) 14695981039346656037

def slot (shared : Shared) (description : List Nat) : Nat :=
  (mix description).toNat % shared.slots.size

/-- The state of a description, if it is remembered. -/
def find? (shared : Shared) (description : List Nat) : Option Nat := do
  let (found, state) ← (← shared.slots[shared.slot description]?)
  if found = description then some state else none

def remember (shared : Shared) (description : List Nat) (state : Nat) : Shared :=
  ⟨shared.slots.setIfInBounds (shared.slot description) (some (description, state))⟩

end Shared
end PathEdit.Regex.Footprint
