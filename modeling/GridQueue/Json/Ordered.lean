/-
# `GridQueue.Json.Ordered` — objects in the order of their names

A value whose objects have each name once, in order, is a canonical form
of all values that differ in the order of members only.
-/
import GridQueue.Json.Basic
import GridQueue.Table

namespace GridQueue.Json

mutual

/-- A value with the members of every object in the order of their names;
of members with one name the last counts. -/
def ordered : Json → Json
  | arr items => arr (orderedItems items)
  | obj members => obj (Table.ofList (orderedMembers members)).entries
  | j => j

def orderedItems : List Json → List Json
  | [] => []
  | j :: rest => ordered j :: orderedItems rest

/-- The members in their order, with the value of each ordered. -/
def orderedMembers : List (String × Json) → List (String × Json)
  | [] => []
  | (name, j) :: rest => (name, ordered j) :: orderedMembers rest

end

end GridQueue.Json
