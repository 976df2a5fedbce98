/-
# `GridQueue.Time.Text` — instants as text

An instant is written as date, `T`, time of day and `Z`, with three, six
or nine digits after the seconds when they are not zero.  Reading is
lenient: the date and the time may stand apart by a space, numbers may be
short and preceded by white space, and any offset from UTC is taken.
-/
import GridQueue.Text.Blank
import GridQueue.Time.Calendar
import GridQueue.Time.Instant

namespace GridQueue.Instant

/-! ## Writing -/

/-- A number with at least `width` digits. -/
def padded (width n : Nat) : List Char :=
  let digits := Nat.toDigits 10 n
  List.replicate (width - digits.length) '0' ++ digits

/-- A year has four digits; one that needs more, or comes before year 0,
has a sign. -/
def yearText (year : Int) : List Char :=
  if year < 0 then '-' :: padded 4 year.natAbs
  else if 9999 < year then '+' :: padded 4 year.natAbs
  else padded 4 year.natAbs

def fractionText (nanos : Nat) : List Char :=
  if nanos = 0 then []
  else if nanos % 1000000 = 0 then '.' :: padded 3 (nanos / 1000000)
  else if nanos % 1000 = 0 then '.' :: padded 6 (nanos / 1000)
  else '.' :: padded 9 nanos

/-- Date and time of day in UTC. -/
def localText (t : Instant) : List Char :=
  let total := t.nanos.fdiv 1000000000 - (if t.leap then 1 else 0)
  let days := total.fdiv 86400
  let second := (total - days * 86400).toNat
  let date := Date.ofDays days
  yearText date.year ++ '-' :: padded 2 date.month ++ '-' :: padded 2 date.day
    ++ 'T' :: padded 2 (second / 3600) ++ ':' :: padded 2 (second / 60 % 60)
    ++ ':' :: padded 2 (second % 60 + (if t.leap then 1 else 0))
    ++ fractionText (t.nanos - t.nanos.fdiv 1000000000 * 1000000000).toNat

def text (t : Instant) : String := String.ofList (t.localText ++ ['Z'])

/-- The text of an instant with the offset from UTC spelled out. -/
def offsetText (t : Instant) : String :=
  String.ofList (t.localText ++ "+00:00".toList)

/-! ## Reading -/

def skipBlank (cs : List Char) : List Char := cs.dropWhile Text.isBlank

/-- Drops white space and then this character, which must be there. -/
def skipMark? (mark : Char) (cs : List Char) : Option (List Char) :=
  match skipBlank cs with
  | c :: rest => if c = mark then some rest else none
  | [] => none

/-- A number of up to `width` digits at the front, at least one. -/
def digits? (width : Nat) (cs : List Char) : Option (Nat × List Char) :=
  let ds := (cs.take width).takeWhile Char.isDigit
  if ds.isEmpty then none
  else some (ds.foldl (fun n c => n * 10 + (c.toNat - '0'.toNat)) 0, cs.drop ds.length)

def number? (width : Nat) (cs : List Char) : Option (Nat × List Char) :=
  digits? width (skipBlank cs)

/-- A year: up to four digits, or a sign and any number of them. -/
def year? (cs : List Char) : Option (Int × List Char) :=
  match skipBlank cs with
  | '-' :: rest => (digits? rest.length rest).map fun (n, rest) => (-(n : Int), rest)
  | '+' :: rest => (digits? rest.length rest).map fun (n, rest) => ((n : Int), rest)
  | rest => (digits? 4 rest).map fun (n, rest) => ((n : Int), rest)

def inCalendar (year : Int) : Bool := decide (-262143 ≤ year) && decide (year ≤ 262142)

def date? (cs : List Char) : Option (Int × List Char) := do
  let (year, cs) ← year? cs
  let cs ← skipMark? '-' cs
  let (month, cs) ← number? 2 cs
  let cs ← skipMark? '-' cs
  let (day, cs) ← number? 2 cs
  let date : Date := ⟨year, month, day⟩
  if inCalendar year && date.isValid then some (date.toDays, cs) else none

/-- Nanoseconds after a point, if there is one; digits beyond the ninth
are dropped. -/
def fraction? (cs : List Char) : Option (Nat × List Char) :=
  match cs with
  | '.' :: rest => do
      let (n, after) ← digits? 9 rest
      let count := rest.length - after.length
      some (n * Nat.pow 10 (9 - count), after.dropWhile Char.isDigit)
  | _ => some (0, cs)

/-- A time of day in nanoseconds, and whether it is a sixtieth second. -/
def time? (cs : List Char) : Option ((Nat × Bool) × List Char) := do
  let (hour, cs) ← number? 2 cs
  let cs ← skipMark? ':' cs
  let (minute, cs) ← number? 2 cs
  let cs ← skipMark? ':' cs
  let (second, cs) ← number? 2 cs
  let (nanos, cs) ← fraction? cs
  if hour < 24 ∧ minute < 60 ∧ second ≤ 60 then
    some ((((hour * 60 + minute) * 60 + second) * 1000000000 + nanos, second = 60), cs)
  else none

def twoDigits? : List Char → Option (Nat × List Char)
  | a :: b :: rest =>
      if a.isDigit ∧ b.isDigit then
        some ((a.toNat - '0'.toNat) * 10 + (b.toNat - '0'.toNat), rest)
      else none
  | _ => none

/-- Hours and minutes of an offset, in seconds. -/
def hoursMinutes? (cs : List Char) : Option (Nat × List Char) := do
  let (hours, cs) ← twoDigits? cs
  let (minutes, cs) ← twoDigits? (cs.dropWhile fun c => c == ':' || Text.isBlank c)
  if minutes < 60 then some (hours * 3600 + minutes * 60, cs) else none

def offset? (cs : List Char) : Option (Int × List Char) :=
  match cs with
  | 'Z' :: rest | 'z' :: rest => some (0, rest)
  | '+' :: rest => (hoursMinutes? rest).map fun (s, rest) => ((s : Int), rest)
  | '-' :: rest | '−' :: rest =>
      (hoursMinutes? rest).map fun (s, rest) => (-(s : Int), rest)
  | u :: t :: c :: rest =>
      if [u, t, c].map Char.toUpper = ['U', 'T', 'C'] then some (0, rest) else none
  | _ => none

def read? (s : String) : Option Instant := do
  let (days, cs) ← date? s.toList
  let cs ←
    match cs with
    | 'T' :: rest | 't' :: rest | ' ' :: rest => some rest
    | _ => none
  let ((nanos, leap), cs) ← time? cs
  let (offset, cs) ← offset? (skipBlank cs)
  if offset.natAbs < 86400 ∧ cs.all Text.isBlank then
    some ⟨(days * 86400 - offset) * 1000000000 + nanos, leap⟩
  else none

end GridQueue.Instant
