import SessionPool.Process.Acquiring
import SessionPool.Process.Checking
import SessionPool.Process.Closing
import SessionPool.Process.Returning
import SessionPool.Process.Waiting

/-!
# Operations

What the users of a pool have it do, as far as that takes more than one step. An operation that
waits may be given up by its user.
-/

set_option autoImplicit false

namespace SessionPool

inductive Operation
  | acquire (a : Acquiring)
  | release (r : Returning)
  /-- A member is given back to a pool that it does not belong to; this is its own pool. -/
  | misplace (m : Member)
  | wait (w : Waiting)
  | check (c : Checking)
  | close (c : Closing)
deriving DecidableEq, Repr

inductive Outcome
  | served (m : Member)
  | done
  | failed (e : PoolError)
deriving DecidableEq, Repr

namespace Outcome

def ofAcquired : Acquired → Outcome
  | .ok m => served m
  | .error e => failed e

def ofResult : Except PoolError Unit → Outcome
  | .ok () => done
  | .error e => failed e

end Outcome

namespace Operation

def step (env : Env) (p : Pool) : Operation → Option (Stepped Operation Outcome)
  | acquire a => (a.step env p).map fun (env, p, next) => (env, p, next.map acquire .ofAcquired)
  | release r => (r.step env p).map fun (env, p, next) => (env, p, next.map release fun _ => .done)
  | misplace m => some (env, p.returnLater m, .done (.failed .wrongPool))
  | wait w => (w.step env p).map fun (env, p, next) => (env, p, next.map wait .ofResult)
  | check c => (c.step env p).map fun (env, p, next) => (env, p, next.map check .ofResult)
  | close c => (c.step env p).map fun (env, p, next) => (env, p, next.map close fun _ => .done)

def timers : Operation → List Timer
  | acquire a => a.timers
  | release r => r.timers
  | misplace _ => []
  | wait w => w.timers
  | check c => c.timers
  | close _ => []

/-- Whether the operation has not started or waits, so that its user can give it up. -/
def isSuspended : Operation → Bool
  | acquire (.arriving _) | acquire (.queued _ _ _) | acquire (.dialing _ _ _) => true
  | acquire _ => false
  | release (.arriving _) | release (.paused _ _) => true
  | release _ => false
  | misplace _ => true
  | wait _ => true
  | check .starting | check (.paused _ _ _) => true
  | check _ => false
  | close .starting | close (.joining _ _) => true
  | close _ => false

/-- What happens when the user gives the operation up while it is suspended. -/
def cancel (env : Env) (p : Pool) : Operation → Env × Pool
  | acquire a => a.cancel env p
  | release (.arriving m) | misplace m => (env, p.returnLater m)
  | release (.paused m _) | check (.paused _ m _) => (env, p.breakOff m)
  | release _ | check _ | wait _ | close _ => (env, p)

end Operation

end SessionPool
