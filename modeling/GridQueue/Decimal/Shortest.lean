/-
# `GridQueue.Decimal.Shortest` — the shortest decimal that reads back

A finite float stands for an interval of reals: those that are rounded
to it.  Among the decimals in that interval, `shortest` takes one with
the fewest digits, and of those the nearest to the float.  All arithmetic
is exact, on natural numbers.
-/

namespace GridQueue.Decimal

/-- A positive number `digits * 10 ^ exponent`. -/
structure Scientific where
  digits : Nat
  exponent : Int
  deriving DecidableEq

/-- Which way a decimal goes that lies halfway between two others. -/
inductive Tie
  | toEven
  | up
  deriving DecidableEq

/-- The interval of a positive float in units of `2 ^ exponent`: the
float is four times its significand, and the reals between `low` and
`high` are rounded to it, the ends included if `closed`. -/
structure Interval where
  low : Nat
  centre : Nat
  high : Nat
  closed : Bool
  exponent : Int

/-- The interval of the float with this binary form, sign left out.
Below a power of two the floats are twice as dense as above. -/
def Interval.ofBits (bits : Nat) : Interval :=
  let fraction := bits % 0x10000000000000
  let biased := bits / 0x10000000000000 % 0x800
  let m := if biased = 0 then fraction else fraction + 0x10000000000000
  let q : Int := Int.ofNat (max 1 biased) - 1075
  { low := 4 * m - (if fraction = 0 ∧ 1 < biased then 1 else 2)
    centre := 4 * m
    high := 4 * m + 2
    closed := m % 2 = 0
    exponent := q - 2 }

/-- `10 ^ k * 2 ^ e` for exponents of either sign, as a fraction. -/
def powers (k e : Int) : Nat × Nat :=
  (Nat.pow 10 k.toNat * Nat.pow 2 e.toNat, Nat.pow 10 (-k).toNat * Nat.pow 2 (-e).toNat)

/-- How many digits the whole part of `x * 2 ^ e` has, negative for
zeros after the point. -/
def magnitude (x : Nat) (e : Int) : Int :=
  let shifted := x * Nat.pow 10 400 * Nat.pow 2 e.toNat / Nat.pow 2 (-e).toNat
  (Nat.toDigits 10 shifted).length - 400

/-- The nearest multiple of `10 ^ k` within the interval, if one of the
two neighbours of the centre lies in it. -/
def Interval.onGrid (tie : Tie) (i : Interval) (k : Int) : Option Nat :=
  let (num, den) := powers (-k) i.exponent
  let inside (c : Nat) : Bool :=
    if i.closed then decide (i.low * num ≤ c * den) && decide (c * den ≤ i.high * num)
    else decide (i.low * num < c * den) && decide (c * den < i.high * num)
  let below := i.centre * num / den
  let above := below + 1
  let up :=
    let twice := 2 * (i.centre * num % den)
    decide (den < twice) ||
      (twice == den && (match tie with | .up => true | .toEven => below % 2 == 1))
  match inside below, inside above with
  | true, true => some (if up then above else below)
  | true, false => some below
  | false, true => some above
  | false, false => none

def Interval.search (tie : Tie) (i : Interval) (size : Int) : Nat → Nat → Scientific
  | 0, _ => ⟨i.centre, i.exponent⟩
  | tries + 1, count =>
      match i.onGrid tie (size - count) with
      | some digits => ⟨digits, size - count⟩
      | none => i.search tie size tries (count + 1)

/-- Drops zeros at the end of the digits. -/
def Scientific.trimmed (s : Scientific) : Scientific :=
  let zeros := ((Nat.toDigits 10 s.digits).reverse.takeWhile (· == '0')).length
  if s.digits = 0 then s else ⟨s.digits / Nat.pow 10 zeros, s.exponent + zeros⟩

/-- The shortest decimal of a positive finite float; seventeen digits are
always enough. -/
def shortest (tie : Tie) (x : Float) : Scientific :=
  let i := Interval.ofBits x.toBits.toNat
  (i.search tie (magnitude i.centre i.exponent) 17 1).trimmed

end GridQueue.Decimal
