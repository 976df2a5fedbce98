/-
# `GridQueue.FloatOrder` — a total preorder of floats

The order of numbers, with the two zeros equal and not-a-number, equal
to itself, above everything.  It is read off an integer (`rankKey`), so
its laws are those of the integers.
-/

namespace GridQueue.FloatOrder

/-- The place of a float in the order.  Among the floats that are
numbers, the binary form without its sign ascends with the magnitude. -/
def rankKey (x : Float) : Int :=
  let bits := x.toBits.toNat
  let magnitude : Nat := bits % 0x8000000000000000
  if magnitude > 0x7ff0000000000000 then 0x8000000000000000
  else if bits ≥ 0x8000000000000000 then -(magnitude : Int)
  else magnitude

def cmp (x y : Float) : Ordering := compare (rankKey x) (rankKey y)

end GridQueue.FloatOrder
