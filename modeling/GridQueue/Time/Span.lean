/-
# `GridQueue.Time.Span` — spans of time in messages

A span is written in the largest of seconds, milliseconds, microseconds
and nanoseconds of which it has at least one, with as many digits after
the point as it needs.

    1500 ms     1.5s
    90000 ms    90s
    1250 ns     1.25µs
    0 ns        0ns
-/
import GridQueue.Time.Instant

namespace GridQueue.Span

/-- The digits after the point of `rest / 10 ^ places`, with the point;
nothing if they are all zero. -/
def fraction (rest places : Nat) : List Char :=
  let digits := Nat.toDigits 10 rest
  let padded := List.replicate (places - digits.length) '0' ++ digits
  let trimmed := (padded.reverse.dropWhile (· == '0')).reverse
  if trimmed.isEmpty then [] else '.' :: trimmed

/-- A span in units of `10 ^ places` nanoseconds. -/
def inUnit (nanos places : Nat) (unit : String) : String :=
  toString (nanos / Nat.pow 10 places)
    ++ String.ofList (fraction (nanos % Nat.pow 10 places) places) ++ unit

def text (d : Span) : String :=
  if 1000000000 ≤ d.nanos then inUnit d.nanos 9 "s"
  else if 1000000 ≤ d.nanos then inUnit d.nanos 6 "ms"
  else if 1000 ≤ d.nanos then inUnit d.nanos 3 "µs"
  else inUnit d.nanos 0 "ns"

end GridQueue.Span
