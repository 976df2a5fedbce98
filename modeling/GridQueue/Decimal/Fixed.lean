/-
# `GridQueue.Decimal.Fixed` — floats with a fixed number of places

A float is rounded to the nearest multiple of a power of ten, and one
that lies halfway to the multiple with an even last digit.  The exact
value of the float counts, not its shortest decimal.

    2.675 to two places     2.67     the float is a little less
    0.125 to two places     0.12     halfway, and 2 is even
    -0 to two places        -0.00    the sign stays
-/
import GridQueue.Decimal.Shortest

namespace GridQueue.Decimal

/-- The natural number nearest to a quotient, an even one of two. -/
def roundDiv (num den : Nat) : Nat :=
  let below := num / den
  let twice := 2 * (num % den)
  if den < twice ∨ twice = den ∧ below % 2 = 1 then below + 1 else below

/-- The binary form of a float without its sign, times `10 ^ places`,
rounded. -/
def scaled (places bits : Nat) : Nat :=
  let i := Interval.ofBits bits
  let (num, den) := powers places i.exponent
  roundDiv (i.centre * num) den

/-- A natural number of units of `10 ^ -places`. -/
def placesText (places n : Nat) : List Char :=
  let digits := Nat.toDigits 10 n
  let padded := List.replicate (places + 1 - digits.length) '0' ++ digits
  let whole := padded.take (padded.length - places)
  if places = 0 then whole else whole ++ '.' :: padded.drop (padded.length - places)

/-- A float with a fixed number of places. -/
def fixed (places : Nat) (x : Float) : String :=
  let bits := x.toBits.toNat
  let magnitude := bits % 0x8000000000000000
  let sign := if 0x8000000000000000 ≤ bits then ['-'] else []
  if magnitude > 0x7ff0000000000000 then "NaN"
  else if magnitude = 0x7ff0000000000000 then String.ofList (sign ++ "inf".toList)
  else String.ofList (sign ++ placesText places (scaled places magnitude))

end GridQueue.Decimal
