/-
# `GridQueue.Decimal.Layout` — how floats are written

A layout says where positional notation ends, whether whole numbers keep
a fraction digit, and what stands for the values that are no numbers.
-/
import GridQueue.Decimal.Shortest

namespace GridQueue.Decimal

/-- The decisions of a notation for floats. -/
structure Layout where
  /-- The most digits before the point in positional notation, no limit
  if absent. -/
  maxWhole : Option Nat
  /-- The most zeros between the point and the first digit, no limit if
  absent. -/
  maxZeros : Option Nat
  /-- Whole numbers in positional notation end in `.0`. -/
  keepFraction : Bool
  tie : Tie
  infinity : String
  notANumber : String

def digitChars (n : Nat) : List Char := Nat.toDigits 10 n

/-- Positional notation of `digits * 10 ^ exponent`. -/
def positional (keepFraction : Bool) (digits : List Char) (exponent : Int) : List Char :=
  let point := digits.length + exponent
  if 0 ≤ exponent then
    digits ++ List.replicate exponent.toNat '0' ++ (if keepFraction then ['.', '0'] else [])
  else if 0 < point then
    digits.take point.toNat ++ '.' :: digits.drop point.toNat
  else
    '0' :: '.' :: (List.replicate (-point).toNat '0' ++ digits)

/-- One digit before the point, and the power of ten. -/
def scientific (digits : List Char) (exponent : Int) : List Char :=
  let power := digits.length + exponent - 1
  let mantissa :=
    match digits with
    | d :: d' :: rest => d :: '.' :: d' :: rest
    | _ => digits
  mantissa ++ 'e' :: (toString power).toList

/-- A positive finite float in a layout. -/
def Layout.positive (l : Layout) (x : Float) : List Char :=
  let s := shortest l.tie x
  let digits := digitChars s.digits
  let point : Int := digits.length + s.exponent
  if l.maxWhole.all (fun n => decide (point ≤ n))
      && l.maxZeros.all (fun n => decide (-point ≤ n)) then
    positional l.keepFraction digits s.exponent
  else scientific digits s.exponent

def Layout.render (l : Layout) (x : Float) : String :=
  let bits := x.toBits.toNat
  let sign := if 0x8000000000000000 ≤ bits then ['-'] else []
  let magnitude := bits % 0x8000000000000000
  if magnitude > 0x7ff0000000000000 then l.notANumber
  else if magnitude = 0x7ff0000000000000 then
    String.ofList (sign ++ l.infinity.toList)
  else if magnitude = 0 then
    String.ofList (sign ++ (if l.keepFraction then "0.0" else "0").toList)
  else String.ofList (sign ++ l.positive (Float.ofBits magnitude.toUInt64))

end GridQueue.Decimal
