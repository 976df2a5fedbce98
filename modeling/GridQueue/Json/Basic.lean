/-
# `GridQueue.Json.Basic` — JSON values

The members of an object keep their order and their repetitions, so that
a reader can refuse a name that occurs twice.
-/

namespace GridQueue

/-- A JSON value. -/
inductive Json
  | null
  | bool (b : Bool)
  /-- a number written without fraction and exponent that fits 64 bits -/
  | int (n : Int)
  | float (x : Float)
  | str (s : String)
  | arr (items : List Json)
  | obj (members : List (String × Json))
  /-- well-formed text of which no value can be made: a number beyond the
  floats, half a surrogate pair, or nesting beyond the limit -/
  | unreadable

namespace Json

instance : Inhabited Json := ⟨null⟩

def strs (l : List String) : Json := arr (l.map str)

def opt {α : Type} (f : α → Json) : Option α → Json
  | none => null
  | some a => f a

mutual

/-- No part of the value is unreadable. -/
def isReadable : Json → Bool
  | null | bool _ | int _ | float _ | str _ => true
  | arr items => allReadable items
  | obj members => allMembersReadable members
  | unreadable => false

def allReadable : List Json → Bool
  | [] => true
  | j :: rest => isReadable j && allReadable rest

def allMembersReadable : List (String × Json) → Bool
  | [] => true
  | (_, j) :: rest => isReadable j && allMembersReadable rest

end

end Json

end GridQueue
