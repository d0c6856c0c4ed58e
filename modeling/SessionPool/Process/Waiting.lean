import SessionPool.Process.Step

/-!
# Waiting until a pool is filled
-/

set_option autoImplicit false

namespace SessionPool

inductive Waiting
  | starting (timeout : Duration)
  | waiting (cutoff : Timer) (timeout : Duration)
deriving DecidableEq, Repr

namespace Waiting

/-- The next step. A pool that is closed counts first, then one that is filled, then the time. -/
def step (env : Env) (p : Pool) : Waiting → Option (Stepped Waiting (Except PoolError Unit))
  | starting timeout =>
    if p.closed then some (env, p, .done (.error .closed))
    else
      let (cutoff, env) := env.setWait timeout
      some (env, p, .more (.waiting cutoff timeout))
  | waiting cutoff timeout =>
    if p.crew.stopped then some (env, p, .done (.error .closed))
    else if p.filled then some (env, p, .done (.ok ()))
    else if cutoff.isDue env.now then some (env, p, .done (.error (.timeout timeout)))
    else none

def timers : Waiting → List Timer
  | starting _ => []
  | waiting cutoff _ => [cutoff]

end Waiting

end SessionPool
