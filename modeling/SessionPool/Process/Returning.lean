import SessionPool.Pool.Return
import SessionPool.Process.Step

/-!
# Taking a member back

A member that comes back is reset: a transaction that is left open is rolled back, and the hook is
run. Whatever goes wrong is logged and never reported to whoever gave the member back.
-/

set_option autoImplicit false

namespace SessionPool

/-- How far the return of a member has come. -/
inductive Returning
  | arriving (m : Member)
  /-- The pool has given the member up; it is to be closed. -/
  | closing (m : Member)
  | resetting (m : Member)
  | paused (m : Member) (pause : Pause)
  /-- What the member turned out to be is to be entered. -/
  | settling (m : Member) (fitness : Fitness)
deriving DecidableEq, Repr

namespace Returning

/-- The step to the entry of what the member turned out to be. -/
def found (env : Env) (p : Pool) (m : Member) (f : Fitness) : Stepped Returning Unit :=
  (env, p, .more (.settling m f))

/-- Goes on after the hook has run as far as it could. -/
def afterReset (p : Pool) (m : Member) : Env × Session × Progress → Stepped Returning Unit
  | (env, s, .paused pause) => (env, p, .more (.paused { m with session := s } pause))
  | (env, s, .finished (.error e)) =>
    found (p.noteOn env m .warn
      ("error resetting connection: " ++ e.family ++ ": " ++ e.message) [("error", e.message)])
      p { m with session := s } .unfit
  | (env, s, .finished (.ok ())) =>
    let status := s.reported env.server
    if status = .idle then found env p { m with session := s } .fit
    else
      found (p.noteOn env m .warn
        ("connection left in status " ++ status.name ++ " by reset hook, discarding")
        [("status", status.name)])
        p { m with session := s } .unfit

/-- Runs the hook. -/
def runReset (env : Env) (p : Pool) (m : Member) : Stepped Returning Unit :=
  let (p, script) := p.resetCall
  afterReset p m (Script.run env m.session script)

/-- Rolls back the transaction that was left open, and runs the hook. -/
def rollBack (env : Env) (p : Pool) (m : Member) : Stepped Returning Unit :=
  let status := (m.session.reported env.server).name
  let env := p.noteOn env m .warn ("rolling back returned connection: " ++ status)
    [("status", status)]
  match m.session.rollback env.server with
  | (s, server, .ok ()) => runReset { env with server } p { m with session := s }
  | (s, server, .error e) =>
    found (p.noteOn { env with server } m .warn
      ("rollback failed: " ++ e.family ++ ": " ++ e.message ++ ". Discarding connection")
      [("error", e.message)])
      p { m with session := s } (if e.losesSession then .lost else .unfit)

def reset (env : Env) (p : Pool) (m : Member) : Stepped Returning Unit :=
  if m.session.isBroken env.server then
    found (p.noteOn env m .warn "discarding closed connection: BAD" []) p m .lost
  else if m.session.closed then
    found (p.noteOn env m .warn "discarding closed connection: CLOSED" []) p m .unfit
  else match m.session.reported env.server with
    | .idle => runReset env p m
    | .inTransaction | .inError => rollBack env p m
    | status@(.active) | status@(.unknown) =>
      found (p.noteOn env m .warn ("closing returned connection: " ++ status.name)
        [("status", status.name)]) p m .unfit

def settle (env : Env) (p : Pool) (m : Member) (f : Fitness) : Stepped Returning Unit :=
  let env := match f, p.rejects? m env.now with
    | .fit, some message => p.noteOn env m .debug message []
    | _, _ => env
  (env, p.settle m env.now f, .done ())

def step (env : Env) (p : Pool) : Returning → Option (Stepped Returning Unit)
  | arriving m =>
    match p.receive env.server m env.now with
    | (p, m, true) => some (env, p, .more (.resetting m))
    | (p, m, false) => some (env, p, .more (.closing m))
  | closing m => some (m.close env, p, .done ())
  | resetting m => some (reset env p m)
  | paused m pause =>
    if pause.timer.isDue env.now then
      some (afterReset p m (Script.resume env m.session pause))
    else none
  | settling m f => some (settle env p m f)

def timers : Returning → List Timer
  | paused _ pause => [pause.timer]
  | arriving _ | closing _ | resetting _ | settling _ _ => []

def member : Returning → Member
  | arriving m | closing m | resetting m | paused m _ | settling m _ => m

end Returning

end SessionPool
