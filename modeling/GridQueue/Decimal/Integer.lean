/-
# `GridQueue.Decimal.Integer` — integers in settings

An integer is an optional sign and digits, nothing else.
-/

namespace GridQueue.Decimal

/-- The number that digits, at least one, stand for. -/
def natural? (cs : List Char) : Option Nat :=
  if cs ≠ [] ∧ cs.all Char.isDigit then
    some (cs.foldl (fun n c => n * 10 + (c.toNat - '0'.toNat)) 0)
  else none

def unsigned? : List Char → Option Nat
  | '+' :: rest => natural? rest
  | cs => natural? cs

def signed? : List Char → Option Int
  | '-' :: rest => (natural? rest).map fun n => -(n : Int)
  | cs => (unsigned? cs).map Int.ofNat

end GridQueue.Decimal
