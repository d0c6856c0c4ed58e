import SessionPool.Pool.Return

/-!
# Upkeep

Maintenance, changes of size, and probes of unused sessions.
-/

set_option autoImplicit false

namespace SessionPool

namespace Pool

/-! ## Maintenance -/

/-- Removes the expired sessions from the unused ones; they are no longer counted. -/
def weedExpired (p : Pool) (now : Instant) : Pool × List Member :=
  let gone := p.idle.filter (·.isExpired now)
  ({ p.drop gone.length with idle := p.idle.filter fun m => !m.isExpired now }, gone)

/-- Removes sessions from the front of the unused ones as long as the first has not been used for
`maxIdle` and the pool is above `minSize`; `size` is what is left of it. -/
def overripe (minSize : Nat) (maxIdle : Duration) (now : Instant) (size : Nat) :
    List Member → List Member
  | [] => []
  | m :: rest =>
    if minSize < size ∧ maxIdle ≤ now.since m.notes.lastUsed then
      m :: overripe minSize maxIdle now (size - 1) rest
    else []

def weedOverripe (p : Pool) (now : Instant) : Pool × List Member :=
  match p.settings.maxIdle with
  | none => (p, [])
  | some maxIdle =>
    let gone := overripe p.minSize maxIdle now p.size p.idle
    ({ p.drop gone.length with idle := p.idle.drop gone.length }, gone)

/-- How many sessions there are above the limit. -/
def excess (p : Pool) : Nat :=
  match p.maxSize with
  | some limit => p.size - limit
  | none => 0

/-- Removes unused sessions above the limit, the last ones first. -/
def weedExcess (p : Pool) : Pool × List Member :=
  let n := min p.excess p.idle.length
  ({ p.drop n with idle := p.idle.take (p.idle.length - n) },
    (p.idle.drop (p.idle.length - n)).reverse)

def weed (p : Pool) (now : Instant) : Pool × List Member :=
  let (p, expired) := p.weedExpired now
  let (p, old) := p.weedOverripe now
  let (p, many) := p.weedExcess
  (p, expired ++ old ++ many)

/-- A round of maintenance: late requests are told so, unused sessions that must not or need not
be kept are closed, and others are opened where they are wanted. -/
def maintain (p : Pool) (now : Instant) : Pool :=
  if p.closed then p
  else
    let (p, gone) := { p with waiting := (p.waiting.expire now).1 }.weed now
    (gone.foldl dispatchClose p).topUp

def maintainNotes (p : Pool) (now : Instant) : List LogRecord :=
  if p.closed then []
  else
    let late := (p.waiting.expire now).2
    let (q, gone) := p.weed now
    (if late = 0 then []
      else [p.record .debug "expired queued requests" [("requests", toString late)]]) ++
    (if gone.isEmpty then []
      else [p.record .debug "closing expired or excess idle connections"
        [("closing", toString gone.length), ("remaining", toString q.size)]])

/-! ## Size -/

/-- Changes the sizes of a pool: unused sessions above the limit are closed, others are opened
where they are wanted. -/
def resize (p : Pool) (minSize : Nat) (maxSize : Option Nat) : Except PoolError Pool :=
  match PoolSettings.checkSize p.settings.kind minSize maxSize with
  | .error e => .error e
  | .ok (minSize, maxSize) =>
    if p.closed then .error .closed
    else
      let (p, many) := { p with minSize, maxSize }.weedExcess
      let p := many.foldl dispatchClose p
      let p := if p.isNull then p
        else
          let (p, live) := p.countLive
          { p with filled := decide (minSize ≤ live) }
      .ok p.topUp

/-! ## Probes -/

/-- The script for a probe, which counts as a call of the hook. -/
def probeCall (p : Pool) : Pool × List Action :=
  ({ p with hookCalls := { p.hookCalls with probe := p.hookCalls.probe + 1 } },
    p.hooks.probe p.hookCalls.probe)

def pickProbe (p : Pool) : Pool × Option Member :=
  if p.closed then (p, none)
  else ({ p with idle := p.idle.tail }, p.idle.head?.map (·.inStage .inUse))

/-- Enters what a probe has found: a session that does not answer is closed and replaced. -/
def judge (p : Pool) (m : Member) (health : Health) (now : Instant) : Pool :=
  if health.isHealthy then p.deliver m now
  else (p.countLost.discard (m.inStage .broken)).topUp

end Pool

end SessionPool
