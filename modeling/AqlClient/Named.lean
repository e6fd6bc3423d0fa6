/-!
# Entries by name

A map from names to values that keeps the order in which the names first appeared
(`Named`). A name is a string, unless another type of names is given. `Named.put` replaces
the value of a name that is there already and leaves it in its place; `Named.merge` lays
one map over another. No name occurs twice in a map built by these operations.
-/

namespace AqlClient

/-- Entries by name, in order. -/
abbrev Named (α : Type) (κ : Type := String) := List (κ × α)

namespace Named

variable {α κ : Type} [BEq κ]

/-- The value of a name. -/
def get? (entries : Named α κ) (name : κ) : Option α :=
  (entries.find? fun entry => entry.1 == name).map Prod.snd

/-- Whether a name has a value. -/
def has (entries : Named α κ) (name : κ) : Bool := entries.any fun entry => entry.1 == name

/-- Sets the value of a name: in its place if the name is there, else at the end. -/
def put (entries : Named α κ) (name : κ) (value : α) : Named α κ :=
  if entries.has name then
    entries.map fun entry => if entry.1 == name then (name, value) else entry
  else entries ++ [(name, value)]

/-- Lays the second map over the first. -/
def merge (entries others : Named α κ) : Named α κ :=
  others.foldl (fun acc entry => acc.put entry.1 entry.2) entries

/-- The map of entries given one after the other. -/
def ofPairs (pairs : List (κ × α)) : Named α κ := merge [] pairs

/-- The entries without a given name. -/
def erase (entries : Named α κ) (name : κ) : Named α κ :=
  entries.filter fun entry => entry.1 != name

/-- Whether two maps hold the same values under the same names, in any order. -/
def agrees [BEq α] (entries others : Named α κ) : Bool :=
  entries.length == others.length &&
    entries.all fun entry => others.any fun other => other.1 == entry.1 && other.2 == entry.2

end Named

end AqlClient
