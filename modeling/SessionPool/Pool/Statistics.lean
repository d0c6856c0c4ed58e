import SessionPool.Pool.Histogram
import SessionPool.Table
import SessionPool.Text.Quoted

/-!
# Statistics

Counters that a pool keeps, what it reports of itself at one moment, and the rates that follow
from them.
-/

set_option autoImplicit false

namespace SessionPool

/-- What a pool has counted. -/
structure Counters where
  connectionsNum : Nat := 0
  connectionsMs : Nat := 0
  connectionsErrors : Nat := 0
  connectionsLost : Nat := 0
  requestsNum : Nat := 0
  requestsQueued : Nat := 0
  requestsWaitMs : Nat := 0
  requestsErrors : Nat := 0
  usageMs : Nat := 0
  returnsBad : Nat := 0
  connectTime : Histogram := {}
deriving DecidableEq, Repr, Inhabited

def Counters.countOpened (c : Counters) (elapsed : Duration) : Counters :=
  { c with
    connectionsNum := c.connectionsNum + 1
    connectionsMs := c.connectionsMs + elapsed.wholeMillis
    connectTime := c.connectTime.record elapsed }

structure PoolStats where
  poolMin : Nat := 0
  poolMax : Option Nat := none
  poolSize : Nat := 0
  poolAvailable : Nat := 0
  requestsWaiting : Nat := 0
  counters : Counters := {}
  uptime : Duration := .zero
deriving DecidableEq, Repr, Inhabited

/-- The quotient of two natural numbers in double precision. -/
def ratio (a b : Nat) : Float := a.toUInt64.toFloat / b.toUInt64.toFloat

namespace PoolStats

/-- Every statistic under its name; a limit that is not set counts as zero. -/
def table (s : PoolStats) : List (String × Nat) :=
  [("pool_min", s.poolMin),
    ("pool_max", s.poolMax.getD 0),
    ("pool_size", s.poolSize),
    ("pool_available", s.poolAvailable),
    ("requests_waiting", s.requestsWaiting),
    ("connections_num", s.counters.connectionsNum),
    ("connections_ms", s.counters.connectionsMs),
    ("connections_errors", s.counters.connectionsErrors),
    ("connections_lost", s.counters.connectionsLost),
    ("requests_num", s.counters.requestsNum),
    ("requests_queued", s.counters.requestsQueued),
    ("requests_wait_ms", s.counters.requestsWaitMs),
    ("requests_errors", s.counters.requestsErrors),
    ("usage_ms", s.counters.usageMs),
    ("returns_bad", s.counters.returnsBad)]

def get? (s : PoolStats) (name : String) : Option Nat := Table.get? s.table name

/-- The share of requests that did not fail; one if there were none. -/
def successRate (s : PoolStats) : Float :=
  if s.counters.requestsNum = 0 then 1.0
  else ratio (s.counters.requestsNum - s.counters.requestsErrors) s.counters.requestsNum

/-- The average wait of the requests that had to wait, in milliseconds. -/
def averageWaitMs (s : PoolStats) : Float :=
  if s.counters.requestsQueued = 0 then 0.0
  else ratio s.counters.requestsWaitMs s.counters.requestsQueued

end PoolStats

structure Occupancy where
  available : Nat
  inUse : Nat
  total : Nat
  max : Option Nat
  waiting : Nat
deriving DecidableEq, Repr, Inhabited

namespace Occupancy

/-- The share of the limit that is in use, in percent; zero without a limit. -/
def utilization (o : Occupancy) : Float :=
  match o.max with
  | none => 0.0
  | some limit => if limit = 0 then 0.0 else ratio o.inUse limit * 100.0

def isFull (o : Occupancy) : Bool := o.max.any fun limit => limit ≤ o.total

def shown (o : Occupancy) : String :=
  Text.shownRecord "PoolStatus"
    [("available", toString o.available), ("in_use", toString o.inUse),
      ("total", toString o.total), ("max", Text.shownOption (o.max.map toString)),
      ("waiting", toString o.waiting)]

end Occupancy

end SessionPool
