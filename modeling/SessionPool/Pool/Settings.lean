import SessionPool.Pool.Error

/-!
# Settings of a pool

How large a pool is, how long it waits, and how it treats its sessions. Sizes are given as they
are wished for; `checkSize` turns them into the sizes that hold for the kind of pool.
-/

set_option autoImplicit false

namespace SessionPool

/-- What a pool does with sessions that nobody uses. -/
inductive PoolKind
  /-- Keeps them for the next request. -/
  | standard
  /-- Keeps none: each request has a session opened, which is closed when it comes back, unless
  another request waits for it. -/
  | null
deriving DecidableEq, Repr, Inhabited

def PoolKind.shown : PoolKind → String
  | .standard => "Standard"
  | .null => "Null"

structure PoolSettings where
  name : Option String := none
  kind : PoolKind := .standard
  /-- How many sessions are kept open even if nobody uses them. -/
  minSize : Nat := 4
  /-- How many sessions may be open; if it is not set, a standard pool keeps to `minSize` and a
  null pool has no limit. -/
  maxSize : Option Nat := none
  /-- How long a request waits if it does not say. -/
  timeout : Duration := .ofSecs 30
  /-- How many requests may wait; zero sets no limit. -/
  maxWaiting : Nat := 0
  maxLifetime : Option Duration := some (.ofSecs 3600)
  /-- How long a session beyond `minSize` may stay unused. -/
  maxIdle : Option Duration := some (.ofSecs 600)
  attempts : Nat := 3
  retryDelay : Duration := .ofSecs 1
  maxRetryDelay : Duration := .ofSecs 10
  workers : Nat := 3
  /-- The time between two rounds of maintenance. -/
  maintenance : Duration := .ofSecs 1
deriving DecidableEq, Repr, Inhabited

namespace PoolSettings

/-- The settings of a null pool: nothing is kept open, and there is no limit. -/
def nullPool : PoolSettings := { kind := .null, minSize := 0 }

def asNull (s : PoolSettings) : PoolSettings := { s with kind := .null, minSize := 0 }

/-- The sizes that hold for a pool of this kind, or what is wrong with them. -/
def checkSize (kind : PoolKind) (minSize : Nat) (maxSize : Option Nat) :
    Except PoolError (Nat × Option Nat) :=
  match kind with
  | .standard =>
    let limit := maxSize.getD minSize
    if limit = 0 then .error (.config "max_size must be at least 1")
    else if limit < minSize then
      .error (.config ("max_size (" ++ toString limit ++
        ") must be greater or equal than min_size (" ++ toString minSize ++ ")"))
    else .ok (minSize, some limit)
  | .null =>
    if minSize ≠ 0 then
      .error (.config ("null pools must have min_size 0, got " ++ toString minSize))
    else .ok (0, maxSize.filter fun limit => decide (0 < limit))

/-- Whether the settings are valid; of several faults the first in this order is named. -/
def validate (s : PoolSettings) : Except PoolError Unit :=
  match checkSize s.kind s.minSize s.maxSize with
  | .error e => .error e
  | .ok _ =>
    if s.workers = 0 then .error (.config "num_workers must be at least 1")
    else if s.attempts = 0 then .error (.config "reconnect_attempts must be at least 1")
    else if s.maintenance = .zero then
      .error (.config "maintenance_interval must be greater than zero")
    else if s.maxRetryDelay < s.retryDelay then
      .error (.config "reconnect_delay must not exceed reconnect_delay_max")
    else .ok ()

end PoolSettings

end SessionPool
