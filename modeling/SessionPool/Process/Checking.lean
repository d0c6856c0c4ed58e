import SessionPool.Pool.Upkeep
import SessionPool.Process.Step

/-!
# Probing the unused members

As many probes are made as there were unused members at the start, each of the first member that
is unused then. A member that answers is free again; one that does not is closed and replaced.
-/

set_option autoImplicit false

namespace SessionPool

/-- How far a check has come. -/
inductive Checking
  | starting
  /-- The unused members are to be counted. -/
  | counting
  /-- So many probes are left. -/
  | picking (left : Nat)
  | probing (left : Nat) (m : Member)
  | paused (left : Nat) (m : Member) (pause : Pause)
  /-- What the probe has found is to be entered. -/
  | judging (left : Nat) (m : Member) (health : Health)
deriving DecidableEq, Repr

namespace Checking

/-- Goes on after the probe has come as far as it could. -/
def afterProbe (p : Pool) (left : Nat) (m : Member) :
    Env × Session × Progress → Stepped Checking (Except PoolError Unit)
  | (env, s, .paused pause) => (env, p, .more (.paused left { m with session := s } pause))
  | (env, s, .finished (.ok ())) =>
    (env, p, .more (.judging left { m with session := s } .healthy))
  | (env, s, .finished (.error e)) =>
    (env, p, .more (.judging left { m with session := s } (.unhealthy e.message)))

def judge (env : Env) (p : Pool) (left : Nat) (m : Member) (health : Health) :
    Stepped Checking (Except PoolError Unit) :=
  let env := if health.isHealthy then env
    else p.noteOn env m .warn "discarding broken connection" [("health", health.shown)]
  (env, p.judge m health env.now, .more (.picking left))

def step (env : Env) (p : Pool) : Checking → Option (Stepped Checking (Except PoolError Unit))
  | starting =>
    if p.closed then some (env, p, .done (.error .closed))
    else if p.isNull then some (env, p, .done (.ok ()))
    else some (env, p, .more .counting)
  | counting => some (env, p, .more (.picking p.idle.length))
  | picking 0 => some (env, p, .done (.ok ()))
  | picking (left + 1) =>
    match p.pickProbe with
    | (p, some m) => some (env, p, .more (.probing left m))
    | (p, none) => some (env, p, .done (.ok ()))
  | probing left m =>
    let (p, script) := p.probeCall
    some (afterProbe p left m (Script.run env m.session script))
  | paused left m pause =>
    if pause.timer.isDue env.now then
      some (afterProbe p left m (Script.resume env m.session pause))
    else none
  | judging left m health => some (judge env p left m health)

def timers : Checking → List Timer
  | paused _ _ pause => [pause.timer]
  | starting | counting | picking _ | probing _ _ | judging _ _ _ => []

def member? : Checking → Option Member
  | probing _ m | paused _ m _ | judging _ m _ => some m
  | starting | counting | picking _ => none

end Checking

end SessionPool
