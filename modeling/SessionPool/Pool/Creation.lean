import SessionPool.Pool.Service

/-!
# Opening sessions in the books

What is entered when a session was opened, when an attempt failed, and when the room that was kept
for a session is given up.
-/

set_option autoImplicit false

namespace SessionPool.Pool

/-- The script for configuring a new session, which counts as a call of the hook. -/
def configureCall (p : Pool) : Pool × List Action :=
  ({ p with hookCalls := { p.hookCalls with configure := p.hookCalls.configure + 1 } },
    p.hooks.configure p.hookCalls.configure)

def takeId (p : Pool) : Pool × Nat := ({ p with nextId := p.nextId + 1 }, p.nextId)

def countOpened (p : Pool) (elapsed : Duration) : Pool :=
  (p.furnish.count (·.countOpened elapsed)).noteFilled

/-- A session that was opened in the background joins the pool. -/
def join (p : Pool) (m : Member) (elapsed : Duration) (now : Instant) : Pool :=
  (p.countOpened elapsed).deliver m now

/-- A request takes over the session that it opened itself. If the pool was closed meanwhile, the
session is closed and the request refused. -/
def takeOver (p : Pool) (m : Member) (elapsed : Duration) : Pool × Except PoolError Member :=
  let p := p.countOpened elapsed
  if p.closed then (p.discard m, .error .closed) else (p, .ok m)

def countFailedOpening (p : Pool) : Pool :=
  p.count fun c => { c with connectionsErrors := c.connectionsErrors + 1 }

/-- Gives up the room for a session that the crew was to open. The request on whose behalf it was
to be opened fails. -/
def releaseRoom (p : Pool) (waiter : Option Nat) (e : PoolError) : Pool :=
  let p := p.unreserve
  match waiter with
  | some ticket => { p with waiting := (p.waiting.fail ticket e).1 }
  | none => p

/-- Gives up the room for a session that a request was to open itself. -/
def vacateRoom (p : Pool) : Pool := p.unreserve.topUp

end SessionPool.Pool
