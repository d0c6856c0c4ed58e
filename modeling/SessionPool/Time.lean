/-!
# Durations and instants

Time is counted in whole nanoseconds. A duration is a length of time, an instant is a point on one
clock, counted from the moment at which that clock was started. Instants have an end: adding a
duration that reaches past it gives no instant, and `Instant.after` then answers a point so far
ahead that it is never reached.
-/

set_option autoImplicit false

namespace SessionPool

structure Duration where
  nanos : Nat
deriving DecidableEq, Repr, Inhabited

/-- A point in time, in nanoseconds since its clock was started. -/
structure Instant where
  nanos : Nat
deriving DecidableEq, Repr, Inhabited

namespace Duration

def ofParts (secs nanos : Nat) : Duration := ⟨secs * 1000000000 + nanos⟩

def ofSecs (secs : Nat) : Duration := ⟨secs * 1000000000⟩

def ofMillis (ms : Nat) : Duration := ⟨ms * 1000000⟩

def zero : Duration := ⟨0⟩

/-- The longest duration: seconds fill 64 bits, and the last of them lacks one nanosecond. -/
def longest : Duration := ofParts 18446744073709551615 999999999

instance : LE Duration := ⟨fun a b => a.nanos ≤ b.nanos⟩
instance : LT Duration := ⟨fun a b => a.nanos < b.nanos⟩
instance (a b : Duration) : Decidable (a ≤ b) := inferInstanceAs (Decidable (a.nanos ≤ b.nanos))
instance (a b : Duration) : Decidable (a < b) := inferInstanceAs (Decidable (a.nanos < b.nanos))

theorem le_iff {a b : Duration} : a ≤ b ↔ a.nanos ≤ b.nanos := Iff.rfl

theorem lt_iff {a b : Duration} : a < b ↔ a.nanos < b.nanos := Iff.rfl

def secs (d : Duration) : Nat := d.nanos / 1000000000

/-- What a duration has beyond its whole seconds. -/
def subsecNanos (d : Duration) : Nat := d.nanos % 1000000000

/-- The whole milliseconds of a duration; what is left over does not count. -/
def wholeMillis (d : Duration) : Nat := d.nanos / 1000000

def shorter (a b : Duration) : Duration := if b < a then b else a

/-- Twice as long, but never longer than `longest`. -/
def doubled (d : Duration) : Duration := shorter ⟨2 * d.nanos⟩ longest

end Duration

namespace Instant

def origin : Instant := ⟨0⟩

instance : LE Instant := ⟨fun a b => a.nanos ≤ b.nanos⟩
instance : LT Instant := ⟨fun a b => a.nanos < b.nanos⟩
instance (a b : Instant) : Decidable (a ≤ b) := inferInstanceAs (Decidable (a.nanos ≤ b.nanos))
instance (a b : Instant) : Decidable (a < b) := inferInstanceAs (Decidable (a.nanos < b.nanos))

theorem le_iff {a b : Instant} : a ≤ b ↔ a.nanos ≤ b.nanos := Iff.rfl

theorem lt_iff {a b : Instant} : a < b ↔ a.nanos < b.nanos := Iff.rfl

/-- The first second that an instant can no longer hold. -/
def horizon : Nat := 9223372036854775808

/-- The instant `d` after `t`, if the clock reaches that far. -/
def add? (t : Instant) (d : Duration) : Option Instant :=
  if (t.nanos + d.nanos) / 1000000000 < horizon then some ⟨t.nanos + d.nanos⟩ else none

/-- Thirty years, the wait that stands for one that the clock cannot hold. -/
def farAhead : Duration := .ofSecs (60 * 60 * 24 * 365 * 30)

/-- The instant `d` after `t`; a duration that the clock cannot hold counts as thirty years. -/
def after (t : Instant) (d : Duration) : Instant :=
  (t.add? d).getD ⟨t.nanos + farAhead.nanos⟩

/-- How long after `start` the instant `t` is, zero if it is not after it. -/
def since (t start : Instant) : Duration := ⟨t.nanos - start.nanos⟩

/-- The first whole millisecond at or after an instant: the moment at which a timer set for the
instant goes off. -/
def tick (t : Instant) : Nat := (t.nanos + 999999) / 1000000

def ofTick (ms : Nat) : Instant := ⟨ms * 1000000⟩

end Instant

/-- A timer that a process has set: when it is due, and its number in the order in which timers
were set. -/
structure Timer where
  due : Instant
  number : Nat
deriving DecidableEq, Repr, Inhabited

/-- Whether a timer is due at `now`. -/
def Timer.isDue (t : Timer) (now : Instant) : Bool := t.due ≤ now

end SessionPool
