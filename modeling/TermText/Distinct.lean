/-
# Distinct members

Which members of a list are equal to one another, for an equality that need
not be the equality of the type.
-/

namespace TermText.Distinct

variable {α : Type}

/-- For each member the place of the first member that it equals. -/
def firstEquals (same : α → α → Bool) (members : List α) : List Nat :=
  members.map fun member => members.findIdx (same member)

/-- How many members equal none before them. -/
def count (same : α → α → Bool) (members : List α) : Nat :=
  (firstEquals same members).zipIdx.countP fun place => place.1 == place.2

end TermText.Distinct
