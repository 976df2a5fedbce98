/-
# `GridQueue.Yaml.Kind` — what plain scalars stand for

A plain scalar stands for null, a truth value or a number if it is
spelled like one, and otherwise for its own text.  A number with leading
zeros is a text.

    null       the empty text, ~, null, Null, NULL
    bool       true, True, TRUE, false, False, FALSE
    int        12, -3, +4, 0x1f, 0o17, 0b1
    float      1.5, 1e3, .inf, .nan
    text       007, yes, 1_000

Integers of more than 64 bits are kept apart, since an entry that has one
anywhere is refused.
-/

namespace GridQueue.Yaml

/-- What a plain scalar stands for. -/
inductive Kind
  | null
  | bool
  /-- an integer of 64 bits -/
  | int
  /-- an integer that needs more than 64 and at most 128 bits -/
  | wideInt
  | float
  | text
  deriving DecidableEq

namespace Kind

/-- The spellings of null; an empty scalar is null, too. -/
def isNull (s : String) : Bool := ["", "~", "null", "Null", "NULL"].contains s

def isBool (s : String) : Bool :=
  ["true", "True", "TRUE", "false", "False", "FALSE"].contains s

/-- The value of a digit to a base. -/
def digit? (base : Nat) (c : Char) : Option Nat :=
  let n :=
    if '0' ≤ c ∧ c ≤ '9' then c.toNat - '0'.toNat
    else if 'a' ≤ c ∧ c ≤ 'z' then c.toNat - 'a'.toNat + 10
    else if 'A' ≤ c ∧ c ≤ 'Z' then c.toNat - 'A'.toNat + 10
    else base
  if n < base then some n else none

/-- The number that digits, at least one, stand for. -/
def natural? (base : Nat) (cs : List Char) : Option Nat :=
  if cs.isEmpty then none
  else cs.foldlM (fun n c => (digit? base c).map (n * base + ·)) 0

/-- The base named by the start of a number, and the rest. -/
def base? : List Char → Option (Nat × List Char)
  | '0' :: 'x' :: rest => some (16, rest)
  | '0' :: 'o' :: rest => some (8, rest)
  | '0' :: 'b' :: rest => some (2, rest)
  | _ => none

/-- Without a sign: whether it is negative, and the rest. -/
def unsigned : List Char → Bool × List Char
  | '+' :: rest => (false, rest)
  | '-' :: rest => (true, rest)
  | cs => (false, cs)

/-- Leading zeros make a text of digits. -/
def isPadded (cs : List Char) : Bool :=
  match (unsigned cs).2 with
  | '0' :: d :: rest => (d :: rest).all Char.isDigit
  | _ => false

/-- The integer a scalar is spelled like. -/
def integer? (cs : List Char) : Option Int :=
  let (negative, rest) := unsigned cs
  let sign (n : Nat) : Int := if negative then -(n : Int) else n
  match base? rest with
  | some (base, digits) => (natural? base digits).map sign
  | none => if isPadded cs then none else (natural? 10 rest).map sign

/-- The number `m * 10 ^ e` is beyond the floats. -/
def overflows (m : Nat) (e : Int) : Bool :=
  let size := (Nat.toDigits 10 m).length + e
  if m = 0 ∨ size < 308 then false
  else if 310 < size then true
  else decide ((Nat.pow 2 1024 - Nat.pow 2 970) * Nat.pow 10 (-e).toNat ≤ m * Nat.pow 10 e.toNat)

/-- The power of ten after a significand, zero if there is none. -/
def power? : List Char → Option Int
  | [] => some 0
  | e :: rest =>
      if e == 'e' || e == 'E' then
        let (negative, digits) := unsigned rest
        (natural? 10 digits).map fun n => if negative then -(n : Int) else n
      else none

/-- A number with a point or a power of ten, in the range of floats. -/
def isDecimal (cs : List Char) : Bool :=
  let whole := cs.takeWhile Char.isDigit
  let rest := cs.drop whole.length
  let (fraction, rest) := match rest with
    | '.' :: rest => (rest.takeWhile Char.isDigit, rest.dropWhile Char.isDigit)
    | rest => ([], rest)
  let digits := whole ++ fraction
  match natural? 10 digits, power? rest with
  | some m, some e => !overflows m (e - fraction.length)
  | _, _ => false

/-- The spellings of infinity, without a sign. -/
def isInfinity (cs : List Char) : Bool :=
  [".inf", ".Inf", ".INF"].contains (String.ofList cs)

def isNotANumber (cs : List Char) : Bool :=
  [".nan", ".NaN", ".NAN"].contains (String.ofList cs)

def isFloat (cs : List Char) : Bool :=
  let rest := (unsigned cs).2
  !isPadded cs && (isInfinity rest || isNotANumber cs || isDecimal rest)

def ofText (s : String) : Kind :=
  let cs := s.toList
  if isNull s then null
  else if isBool s then bool
  else
    match integer? cs with
    | some n =>
        if -0x8000000000000000 ≤ n ∧ n < 0x10000000000000000 then int
        else if -0x80000000000000000000000000000000 ≤ n ∧ n < 0x100000000000000000000000000000000 then wideInt
        else if isFloat cs then float else text
    | none => if isFloat cs then float else text

end Kind

end GridQueue.Yaml
