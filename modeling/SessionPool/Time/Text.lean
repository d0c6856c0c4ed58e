import SessionPool.Time
import SessionPool.Decimal.Places

/-!
# Durations as text

Three forms: seconds and all nine digits of the nanoseconds; seconds rounded to two places, as in
messages; and the largest unit of which the duration has at least one, with the digits that are
needed.
-/

set_option autoImplicit false

namespace SessionPool.Duration

/-- Seconds, a point, and nine digits of nanoseconds. -/
def exactText (d : Duration) : String :=
  toString d.secs ++ "." ++ Text.padded 9 d.subsecNanos

/-- The duration in seconds as a double-precision number: whole seconds and the fraction are
converted each on its own and then added. -/
def inSeconds (d : Duration) : Float :=
  d.secs.toUInt64.toFloat + d.subsecNanos.toUInt64.toFloat / 1000000000.0

def roundedText (d : Duration) : String := Decimal.withPlaces 2 d.inSeconds.toBits

/-- `whole` and a fraction of `width` digits, less the zeros at its end, before a unit. -/
def unitText (whole fraction width : Nat) (unit : String) : String :=
  let digits := ((Text.padded width fraction).toList.reverse.dropWhile (· = '0')).reverse
  toString whole ++ (if digits.isEmpty then "" else "." ++ String.ofList digits) ++ unit

/-- The duration in seconds, milliseconds, microseconds or nanoseconds: the largest unit of which
it has at least one. -/
def shown (d : Duration) : String :=
  let n := d.nanos
  if 0 < d.secs then unitText d.secs d.subsecNanos 9 "s"
  else if 1000000 ≤ n then unitText (n / 1000000) (n % 1000000) 6 "ms"
  else if 1000 ≤ n then unitText (n / 1000) (n % 1000) 3 "µs"
  else toString n ++ "ns"

end SessionPool.Duration
