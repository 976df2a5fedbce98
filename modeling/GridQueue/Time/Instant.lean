/-
# `GridQueue.Time.Instant` — points and spans of time

An instant counts nanoseconds from 1970-01-01 00:00:00 UTC, before it
negatively.  A span is a length of time, also in nanoseconds and never
negative.
-/

namespace GridQueue

/-- A point of time, in nanoseconds since 1970-01-01 UTC.  A clock that
shows the sixtieth second of a minute names an instant of the following
minute; `leap` keeps that it was named so, and decides nothing but how
the instant is written. -/
structure Instant where
  nanos : Int
  leap : Bool := false
  deriving DecidableEq

/-- A length of time in nanoseconds. -/
structure Span where
  nanos : Nat
  deriving DecidableEq

namespace Span

def ofMillis (ms : Nat) : Span := ⟨ms * 1000000⟩

def ofSeconds (s : Nat) : Span := ⟨s * 1000000000⟩

def millis (d : Span) : Nat := d.nanos / 1000000

def seconds (d : Span) : Nat := d.nanos / 1000000000

/-- The time from one reading of a steady clock to a later one. -/
def between (earlier later : Span) : Span := ⟨later.nanos - earlier.nanos⟩

/-- Spans are counted back from instants in milliseconds of 63 bits. -/
def isCountable (d : Span) : Bool := decide (d.nanos ≤ (0x8000000000000000 - 1) * 1000000)

/-- What is said about a span that is too long to be counted back. -/
def uncountableText : String :=
  "Source duration value is out of range for the target type"

end Span

namespace Instant

def ofMillis (ms : Int) : Instant := ⟨ms * 1000000, false⟩

/-- Whole milliseconds since 1970-01-01 UTC, rounded down. -/
def millis (t : Instant) : Int := t.nanos.fdiv 1000000

def before (t u : Instant) : Prop := t.nanos < u.nanos

instance (t u : Instant) : Decidable (t.before u) :=
  inferInstanceAs (Decidable (t.nanos < u.nanos))

/-- From `u` to `t` in nanoseconds, negative if `t` is earlier. -/
def since (t u : Instant) : Int := t.nanos - u.nanos

/-- The instant a span earlier.  No clock shows one before the first date of
the calendar, and a computation that leads there has no result; what is
proved of `back` is about dates. -/
def back (t : Instant) (d : Span) : Instant := ⟨t.nanos - d.nanos, false⟩

/-- The instant a span earlier, if the span is no longer than can be
counted back. -/
def back? (t : Instant) (d : Span) : Option Instant :=
  if d.isCountable then some (t.back d) else none

def millennium : Instant := ofMillis 946684800000

/-- The instant as a database has it: whole microseconds from 2000 on, and
before 2000 back. -/
def inMicros (t : Instant) : Instant :=
  ⟨millennium.nanos + (t.nanos - millennium.nanos).tdiv 1000 * 1000, false⟩

end Instant

end GridQueue
