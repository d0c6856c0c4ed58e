import SessionPool.Pool.Creation
import SessionPool.Process.Step
import SessionPool.Session.Dial

/-!
# Opening a session

A session is dialled, configured by the hook, and accepted if it is idle after that; a session
that is not accepted is closed. No books are kept here: whoever opens the session enters what came
of it.
-/

set_option autoImplicit false

namespace SessionPool

inductive Opening
  | fresh
  | dialing (began : Instant) (dial : Dial)
  | configuring (began : Instant) (session : Session) (pause : Pause)
deriving DecidableEq, Repr

/-- What came of it: a member and the time that it took to open it. -/
abbrev Opened := Except SessionError (Member × Duration)

namespace Opening

/-- Closes a session that is not accepted. -/
def reject (env : Env) (p : Pool) (s : Session) (e : SessionError) : Stepped Opening Opened :=
  ({ env with server := (s.close env.server).2 }, p, .done (.error e))

def lifetime (env : Env) (p : Pool) : Env × Option Duration :=
  match p.settings.maxLifetime with
  | none => (env, none)
  | some longest =>
    let (d, env) := env.drawLifetime longest
    (env, some d)

/-- Makes a configured session a member. -/
def accept (env : Env) (p : Pool) (began : Instant) (s : Session) : Stepped Opening Opened :=
  let elapsed := env.now.since began
  let (p, id) := p.takeId
  let (env, life) := lifetime env p
  let m : Member := ⟨s, .start id s.pid env.now life⟩
  (p.noteOn env m .debug "connection opened"
    [("backend_pid", toString s.pid), ("elapsed_ms", toString elapsed.wholeMillis)],
    p, .done (.ok (m, elapsed)))

/-- Goes on after the hook has run as far as it could. -/
def afterConfigure (p : Pool) (began : Instant) :
    Env × Session × Progress → Stepped Opening Opened
  | (env, s, .paused pause) => (env, p, .more (.configuring began s pause))
  | (env, s, .finished (.error e)) => reject env p s e
  | (env, s, .finished (.ok ())) =>
    let status := s.reported env.server
    if status = .idle then accept env p began s
    else reject env p s (.badState status (p.hooks.name ++ " configure"))

/-- Goes on after the dial has come as far as it could. -/
def afterDial (p : Pool) (began : Instant) : Env × Dialed → Stepped Opening Opened
  | (env, .waiting dial) => (env, p, .more (.dialing began dial))
  | (env, .finished (.error e)) => (env, p, .done (.error e))
  | (env, .finished (.ok s)) =>
    let (p, script) := p.configureCall
    afterConfigure p began (Script.run env s script)

def step (env : Env) (p : Pool) : Opening → Option (Stepped Opening Opened)
  | fresh => some (afterDial p env.now (Dial.start env p.options))
  | dialing began dial =>
    if dial.isDue env.now then some (afterDial p began (dial.resume env)) else none
  | configuring began s pause =>
    if pause.timer.isDue env.now then some (afterConfigure p began (Script.resume env s pause))
    else none

def timers : Opening → List Timer
  | fresh => []
  | dialing _ dial => dial.timers
  | configuring _ _ pause => [pause.timer]

/-- The session that has been opened and is not a member yet. -/
def session? : Opening → Option Session
  | configuring _ s _ => some s
  | fresh | dialing _ _ => none

end Opening

end SessionPool
