import SessionPool.Pool.Creation
import SessionPool.Pool.Return

/-!
# Closing a pool

A pool that is closed refuses all requests, hands nothing out and opens nothing.
-/

set_option autoImplicit false

namespace SessionPool.Pool

/-- Closes the pool: requests that wait fail, and the unused sessions are taken out, to be closed
by the caller. -/
def shut (p : Pool) : Pool × List Member :=
  ({ p.drop p.idle.length with
      closed := true
      waiting := (p.waiting.failAll .closed).1
      idle := [] },
    p.idle)

/-- Enters that a task was not done: room is given up, and a member that came back is no longer
counted. -/
def dispose (p : Pool) : Task Member → Pool
  | .add waiter => p.releaseRoom waiter .closed
  | .restore _ => p.drop 1
  | .close _ | .maintain => p

end SessionPool.Pool
