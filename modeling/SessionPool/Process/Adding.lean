import SessionPool.Process.Opening

/-!
# Adding a member in the background

A worker opens a session in the room that was kept for it. If an attempt fails it tries again
after a rest, which grows from attempt to attempt, until the attempts are used up; then, or as soon
as the crew is stopped, it gives up the room.
-/

set_option autoImplicit false

namespace SessionPool

/-- What a worker that adds a member is about to do. -/
inductive AddingPhase
  | opening (o : Opening)
  | joining (m : Member) (elapsed : Duration)
  /-- Enter that the attempt failed. -/
  | failing (e : SessionError)
  | resting (timer : Timer)
  | releasing (e : PoolError)
deriving DecidableEq, Repr

structure Adding where
  /-- The request on whose behalf the member is added. -/
  waiter : Option Nat
  /-- The number of the attempt, counted from one. -/
  attempt : Nat := 1
  /-- The nominal rest after this attempt. -/
  delay : Duration
  phase : AddingPhase := .opening .fresh
deriving DecidableEq, Repr

namespace Adding

def start (p : Pool) (waiter : Option Nat) : Adding := { waiter, delay := p.settings.retryDelay }

/-- How many attempts are made; there is always one. -/
def attempts (p : Pool) : Nat := max p.settings.attempts 1

/-- The nominal rest after the next attempt: twice as long, up to a limit. -/
def nextDelay (p : Pool) (d : Duration) : Duration := d.doubled.shorter p.settings.maxRetryDelay

def inPhase (a : Adding) (phase : AddingPhase) : Adding := { a with phase }

/-- Enters that an attempt failed and decides how to go on. -/
def fail (env : Env) (p : Pool) (a : Adding) (e : SessionError) : Stepped Adding Unit :=
  let p := p.countFailedOpening
  if p.closed then (env, p, .more (a.inPhase (.releasing .closed)))
  else if a.attempt = attempts p then
    (p.note env .error "reconnection attempts exhausted, giving up"
      [("attempts", toString (attempts p)), ("error", e.message)],
      p, .more (a.inPhase (.releasing (.connect e))))
  else
    let (wait, env) := env.drawDelay a.delay
    let env := p.note env .warn "error connecting, retrying"
      [("attempt", toString a.attempt), ("error", e.message)]
    let (timer, env) := env.setWait wait
    (env, p, .more (a.inPhase (.resting timer)))

def step (env : Env) (p : Pool) (a : Adding) : Option (Stepped Adding Unit) :=
  match a.phase with
  | .opening o =>
    if p.crew.stopped then some (env, p, .more (a.inPhase (.releasing .closed)))
    else (o.step env p).map fun (env, p, next) =>
      (env, p, next.bind (fun o => a.inPhase (.opening o)) fun
        | .ok (m, elapsed) => .more (a.inPhase (.joining m elapsed))
        | .error e => .more (a.inPhase (.failing e)))
  | .joining m elapsed => some (env, p.join m elapsed env.now, .done ())
  | .failing e => some (a.fail env p e)
  | .resting timer =>
    if p.crew.stopped then some (env, p, .more (a.inPhase (.releasing .closed)))
    else if timer.isDue env.now then
      some (env, p, .more
        { a with attempt := a.attempt + 1, delay := nextDelay p a.delay, phase := .opening .fresh })
    else none
  | .releasing e => some (env, p.releaseRoom a.waiter e, .done ())

def timers (a : Adding) : List Timer :=
  match a.phase with
  | .opening o => o.timers
  | .resting timer => [timer]
  | .joining _ _ | .failing _ | .releasing _ => []

end Adding

end SessionPool
