import SessionPool.Pool.Upkeep
import SessionPool.Process.Adding
import SessionPool.Process.Returning

/-!
# Jobs

What a worker does with a task of the pool.
-/

set_option autoImplicit false

namespace SessionPool

/-- A task that a worker has taken. -/
inductive Job
  | adding (a : Adding)
  | returning (r : Returning)
  | closing (m : Member)
  | maintaining
deriving DecidableEq, Repr

namespace Job

def start (p : Pool) : Task Member → Job
  | .add waiter => .adding (Adding.start p waiter)
  | .restore m => .returning (.arriving m)
  | .close m => .closing m
  | .maintain => .maintaining

def step (env : Env) (p : Pool) : Job → Option (Stepped Job Unit)
  | adding a => (a.step env p).map fun (env, p, next) => (env, p, next.map .adding id)
  | returning r => (r.step env p).map fun (env, p, next) => (env, p, next.map .returning id)
  | closing m => some (m.close env, p, .done ())
  | maintaining =>
    some ({ env with log := env.log ++ p.maintainNotes env.now }, p.maintain env.now, .done ())

def timers : Job → List Timer
  | adding a => a.timers
  | returning r => r.timers
  | closing _ | maintaining => []

end Job

end SessionPool
