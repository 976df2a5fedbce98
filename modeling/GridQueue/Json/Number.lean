/-
# `GridQueue.Json.Number` — the value of a written number

Digits are gathered into a significand of 64 bits.  Once the next digit
would overflow it, further digits before the point only raise the
exponent and further digits after it are dropped.  The float is the
significand multiplied or divided by a power of ten, rounded after each
step; a number that leaves the range of floats has no value.
-/
import GridQueue.Json.Basic

namespace GridQueue.Json

/-- A number as it is written. -/
structure Numeral where
  negative : Bool
  /-- The digits before the point. -/
  whole : List Nat
  /-- The digits after the point, if there is one. -/
  fraction : Option (List Nat)
  /-- The power of ten: whether it is negative, and its digits. -/
  exponent : Option (Bool × List Nat)

/-- Digits gathered so far, `significand * 10 ^ exponent`. -/
structure Gathered where
  significand : Nat := 0
  exponent : Int := 0
  /-- A digit did not fit. -/
  full : Bool := false

namespace Gathered

/-- Whether another digit still fits 64 bits. -/
def fits (g : Gathered) (digit : Nat) : Bool :=
  !g.full && decide (g.significand * 10 + digit < 0x10000000000000000)

def whole (g : Gathered) (digit : Nat) : Gathered :=
  if g.fits digit then { g with significand := g.significand * 10 + digit }
  else { g with exponent := g.exponent + 1, full := true }

def fraction (g : Gathered) (digit : Nat) : Gathered :=
  if g.fits digit then
    { g with significand := g.significand * 10 + digit, exponent := g.exponent - 1 }
  else { g with full := true }

end Gathered

/-- The largest power of ten that is a float. -/
def maxPower : Nat := 308

/-- `x * 10 ^ e`, if that is in the range of floats. -/
def scale (x : Float) (e : Int) : Option Float :=
  if e.natAbs ≤ maxPower then
    let power := Float.ofScientific 1 false e.natAbs
    if 0 ≤ e then
      let y := x * power
      if y.isInf then none else some y
    else some (x / power)
  else if x == 0.0 then some x
  else if 0 ≤ e then none
  else scale (x / Float.ofScientific 1 false maxPower) (e + maxPower)
termination_by e.natAbs
decreasing_by simp_all [maxPower]; omega

namespace Numeral

/-- The digits read as a decimal number. -/
def ofDigits (digits : List Nat) : Nat := digits.foldl (fun n d => n * 10 + d) 0

/-- Gathers the digits before the point, then those after it. -/
def gathered (n : Numeral) : Gathered :=
  let g : Gathered := n.whole.foldl Gathered.whole {}
  (n.fraction.getD []).foldl Gathered.fraction { g with full := false }

/-- The magnitude of a number with fraction or exponent, or too long for
an integer. -/
def magnitude? (n : Numeral) : Option Float :=
  let g := n.gathered
  let x := Float.ofNat g.significand
  match n.exponent with
  | none => scale x g.exponent
  | some (negative, digits) =>
      let e := ofDigits digits
      if e ≥ 0x80000000 then
        if g.significand ≠ 0 ∧ ¬ negative then none else some 0.0
      else scale x (if negative then g.exponent - e else g.exponent + e)

def float (n : Numeral) : Json :=
  match n.magnitude? with
  | some x => .float (if n.negative then -x else x)
  | none => .unreadable

/-- The value: an integer if it is written as one and fits 64 bits,
signed or not; minus zero is no integer. -/
def value (n : Numeral) : Json :=
  let i := ofDigits n.whole
  if n.fraction.isNone ∧ n.exponent.isNone then
    if ¬ n.negative ∧ i < 0x10000000000000000 then .int i
    else if n.negative ∧ 0 < i ∧ i ≤ 0x8000000000000000 then .int (-(i : Int))
    else n.float
  else n.float

end Numeral

end GridQueue.Json
