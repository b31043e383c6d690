namespace FenceSync.Shell

/-!
# Tables

A table is a list of keys and values in the order in which the keys were first set.
-/

/-- Values by key. -/
abbrev Table (κ α : Type) := List (κ × α)

namespace Table
variable {κ α : Type} [BEq κ]

/-- The value of a key. -/
def get? (t : Table κ α) (k : κ) : Option α := t.lookup k

/-- The key has a value. -/
def has (t : Table κ α) (k : κ) : Bool := t.any fun e => e.1 == k

/-- Set the value of a key. -/
def set (t : Table κ α) (k : κ) (a : α) : Table κ α :=
  if t.any fun e => e.1 == k then t.map fun e => if e.1 == k then (k, a) else e
  else t ++ [(k, a)]

/-- Remove a key. -/
def erase (t : Table κ α) (k : κ) : Table κ α := t.filter fun e => !(e.1 == k)

/-- Change the value of a key, if it has one. -/
def modify (t : Table κ α) (k : κ) (f : α → α) : Table κ α :=
  t.map fun e => if e.1 == k then (e.1, f e.2) else e

/-- The keys. -/
def keys (t : Table κ α) : List κ := t.map (·.1)

end Table

end FenceSync.Shell
