/-
# `GridQueue.Sql.Value` — values and rows of a database

A value is null or of one of the types the tables use.  Null is unknown,
so a comparison with it is neither true nor false: `order?` has no answer
then.  Floats are ordered with not-a-number above everything, texts by
their code points.
-/
import GridQueue.FloatOrder
import GridQueue.Time.Instant

namespace GridQueue.Sql

/-- A value in a table, a parameter or an expression. -/
inductive Value
  | null
  | int (n : Int)
  | real (x : Float)
  | text (s : String)
  | bool (b : Bool)
  | time (t : Instant)
  /-- A length of time in nanoseconds, of either sign. -/
  | interval (nanos : Int)
  | ints (l : List Int)
  | texts (l : List String)

namespace Value

/-- How two values compare, if they can be compared. -/
def order? : Value → Value → Option Ordering
  | int m, int n => some (compare m n)
  | real x, real y => some (FloatOrder.cmp x y)
  | real x, int n => some (FloatOrder.cmp x (Float.ofInt n))
  | int m, real y => some (FloatOrder.cmp (Float.ofInt m) y)
  | text s, text t => some (compare s t)
  | bool a, bool b => some (compare a b)
  | time t, time u => some (compare t.nanos u.nanos)
  | _, _ => none

/-- The place of a value among those a query sorts; null comes last. -/
def rank : Value → Value → Ordering
  | null, null => .eq
  | null, _ => .gt
  | _, null => .lt
  | a, b => (order? a b).getD .eq

/-- The value as a condition; null is unknown. -/
def truth? : Value → Option Bool
  | bool b => some b
  | _ => none

/-- The condition holds; an unknown one does not. -/
def isTrue (v : Value) : Bool := v.truth? == some true

def ofTruth : Option Bool → Value
  | some b => bool b
  | none => null

/-- Null, or the value of something that is there. -/
def ofOption {α : Type} (f : α → Value) : Option α → Value
  | some a => f a
  | none => null

/-! ## Reading values -/

def int? : Value → Option Int
  | int n => some n
  | _ => none

def real? : Value → Option Float
  | real x => some x
  | int n => some (Float.ofInt n)
  | _ => none

def text? : Value → Option String
  | text s => some s
  | _ => none

def bool? : Value → Option Bool
  | bool b => some b
  | _ => none

def time? : Value → Option Instant
  | time t => some t
  | _ => none

def texts? : Value → Option (List String)
  | texts l => some l
  | _ => none

def nullable {α : Type} (read : Value → Option α) : Value → Option (Option α)
  | null => some none
  | v => (read v).map some

/-! ## Conditions -/

/-- Both conditions hold; one that fails decides even if the other is
unknown. -/
def conj (a b : Value) : Value :=
  ofTruth <| match a.truth?, b.truth? with
    | some false, _ | _, some false => some false
    | some true, some true => some true
    | _, _ => none

/-- One of the conditions holds; one that does decides even if the other
is unknown. -/
def disj (a b : Value) : Value :=
  ofTruth <| match a.truth?, b.truth? with
    | some true, _ | _, some true => some true
    | some false, some false => some false
    | _, _ => none

def neg (a : Value) : Value := ofTruth (a.truth?.map not)

/-- The value is one of an array. -/
def anyOf : Value → Value → Value
  | int n, ints l => bool (l.contains n)
  | text s, texts l => bool (l.contains s)
  | _, _ => null

/-- Two arrays have an element in common. -/
def overlaps : Value → Value → Value
  | texts l, texts m => bool (l.any fun s => m.contains s)
  | _, _ => null

/-- Every element of an array is in another. -/
def within : Value → Value → Value
  | texts l, texts m => bool (l.all fun s => m.contains s)
  | _, _ => null

/-! ## Arithmetic -/

def add : Value → Value → Value
  | int m, int n => int (m + n)
  | _, _ => null

def sub : Value → Value → Value
  | int m, int n => int (m - n)
  | time t, interval d => time ⟨t.nanos - d, false⟩
  | _, _ => null

def seconds : Value → Value
  | int n => interval (n * 1000000000)
  | _ => null

/-- The greater of two values; null does not count. -/
def greatest (a b : Value) : Value :=
  match a, b with
  | null, b => b
  | a, null => a
  | a, b => if rank a b = .lt then b else a

/-- The first value that is not null. -/
def coalesce (a b : Value) : Value :=
  match a with
  | null => b
  | a => a

/-- The number of elements of an array. -/
def cardinality : Value → Value
  | texts l => int l.length
  | ints l => int l.length
  | _ => null

end Value

/-! ## Rows -/

/-- A row: the values of its columns, by their names. -/
abbrev Row := List (String × Value)

namespace Row

/-- The value of a column, null if there is no such column. -/
def get (r : Row) (column : String) : Value := (r.lookup column).getD .null

def has (r : Row) (column : String) : Bool := r.any fun c => c.1 == column

/-- Sets the value of a column that the row has. -/
def set (r : Row) (column : String) (v : Value) : Row :=
  r.map fun c => if c.1 = column then (c.1, v) else c

def setAll (r : Row) (columns : List (String × Value)) : Row :=
  columns.foldl (fun r c => r.set c.1 c.2) r

end Row

end GridQueue.Sql
