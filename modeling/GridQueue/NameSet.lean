/-
# `GridQueue.NameSet` — sets of names

A set of names is a table without values: its names stand in byte order,
each once.

So two sets with the same names are the same set, whatever the order in
which the names were put in and however often.
-/
import GridQueue.Table

namespace GridQueue

abbrev NameSet := Table String Unit

namespace NameSet

def ofNames (names : List String) : NameSet :=
  Table.ofList (names.map fun n => (n, ()))

/-- The names in byte order, each once. -/
def names (s : NameSet) : List String := Table.keys s

/-- Whether a name is in the set. -/
def has (s : NameSet) (name : String) : Bool := Table.contains s name

end NameSet

end GridQueue
