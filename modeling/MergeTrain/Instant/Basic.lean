import MergeTrain.Instant.Calendar

/-!
# Instants

A moment of Coordinated Universal Time with nanosecond precision. The last second of a minute may
be followed by a leap second: it is kept as a nanosecond count of a thousand million or more.

## Main definitions

* `Instant` — seconds since 1970-01-01T00:00:00Z and nanoseconds.
* `Instant.before` — the order of instants.
* `Instant.since` — the nanoseconds between two instants.
-/

namespace MergeTrain

/-- The number of nanoseconds in a second. -/
def nanosPerSecond : Nat :=
  1000000000

namespace Instant

/-- The first second of year -262143. -/
def earliest : Int :=
  ((⟨-262143, 1, 1⟩ : Calendar.Date).toDays - Calendar.epochDay) * 86400

/-- The last second of year 262142. -/
def latest : Int :=
  ((⟨262143, 1, 1⟩ : Calendar.Date).toDays - Calendar.epochDay) * 86400 - 1

/-- The seconds and nanoseconds that make an instant: a year in range, and a leap second only at
the end of a minute. -/
def isValid (seconds : Int) (nanos : Nat) : Bool :=
  earliest ≤ seconds && seconds ≤ latest &&
    (nanos < nanosPerSecond || (nanos < 2 * nanosPerSecond && seconds % 60 == 59))

end Instant

/-- A moment of Coordinated Universal Time. -/
structure Instant where
  /-- Seconds since 1970-01-01T00:00:00Z, leap seconds not counted. -/
  seconds : Int
  /-- Nanoseconds since the start of the second; more than a second's worth in a leap second. -/
  nanos : Nat
  valid : Instant.isValid seconds nanos = true
  deriving DecidableEq, Repr

namespace Instant

/-- The instant with these parts, if there is one. -/
def ofParts? (seconds : Int) (nanos : Nat) : Option Instant :=
  if h : isValid seconds nanos = true then some ⟨seconds, nanos, h⟩ else none

/-- The first instant of 1970. -/
def epoch : Instant :=
  ⟨0, 0, by decide⟩

instance : Inhabited Instant :=
  ⟨epoch⟩

/-- Whether `a` comes before `b`. -/
def before (a b : Instant) : Bool :=
  a.seconds < b.seconds || (a.seconds == b.seconds && a.nanos < b.nanos)

/-- The second of the day. -/
def secondOfDay (a : Instant) : Int :=
  a.seconds % 86400

/-- Whether the instant lies in a leap second. -/
def inLeapSecond (a : Instant) : Bool :=
  nanosPerSecond ≤ a.nanos

/-- The leap second between two instants, when one of them lies in it: it counts if the other one
stands at a later second of the day. -/
def leapBetween (a b : Instant) : Int :=
  if b.secondOfDay < a.secondOfDay && b.inLeapSecond then 1
  else if a.secondOfDay < b.secondOfDay && a.inLeapSecond then -1
  else 0

/-- The nanoseconds from `b` to `a`. -/
def since (a b : Instant) : Int :=
  (a.seconds - b.seconds + leapBetween a b) * nanosPerSecond + ((a.nanos : Int) - (b.nanos : Int))

end Instant

/-- The nanoseconds in a number of seconds. -/
def nanosOfSeconds (n : Int) : Int :=
  n * nanosPerSecond

/-- The nanoseconds in a number of minutes. -/
def nanosOfMinutes (n : Int) : Int :=
  nanosOfSeconds (60 * n)

end MergeTrain
