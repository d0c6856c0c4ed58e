import SessionPool.Time

/-!
# A histogram of connect times

Counts of durations by upper bounds in milliseconds, with a last bucket for whatever exceeds them
all. A duration is placed by its whole milliseconds.
-/

set_option autoImplicit false

namespace SessionPool

/-- The upper bounds of the buckets, in milliseconds. -/
def connectTimeBounds : List Nat := [1, 5, 10, 25, 50, 100, 250, 500, 1000, 2500, 5000]

/-- One count for each bound and one for what exceeds them all. -/
structure Histogram where
  counts : List Nat := List.replicate (connectTimeBounds.length + 1) 0
deriving DecidableEq, Repr, Inhabited

namespace Histogram

/-- The bucket of a duration: the first whose bound its whole milliseconds do not exceed. -/
def bucketOf (d : Duration) : Nat :=
  connectTimeBounds.findIdx fun bound => d.wholeMillis ≤ bound

def record (h : Histogram) (d : Duration) : Histogram :=
  { counts := h.counts.modify (bucketOf d) (· + 1) }

/-- The buckets with their bounds; the last has none. -/
def buckets (h : Histogram) : List (Option Nat × Nat) :=
  (connectTimeBounds.map some ++ [none]).zip h.counts

def total (h : Histogram) : Nat := h.counts.foldr (· + ·) 0

end Histogram

end SessionPool
