import SessionPool.Process.Step
import SessionPool.Session.Dial

/-!
# Opening a session outside a pool

A session is opened at one given endpoint, or at the first of the candidates that accepts.
-/

set_option autoImplicit false

namespace SessionPool

inductive Connecting
  /-- It has not started; without an endpoint all candidates are tried. -/
  | fresh (options : ConnectOptions) (only : Option Endpoint)
  | calling (options : ConnectOptions) (host : String) (answer : Option Timer)
  | dialing (dial : Dial)
deriving DecidableEq, Repr

namespace Connecting

abbrev Result := Except SessionError Session

/-- Goes on after a dial has come as far as it could. -/
def afterDial : Env × Dialed → Env × Next Connecting Result
  | (env, .finished result) => (env, .done result)
  | (env, .waiting dial) => (env, .more (.dialing dial))

def step (env : Env) : Connecting → Option (Env × Next Connecting Result)
  | fresh options (some e) =>
    match Call.make env options e with
    | (env, .answered result) => some (env, .done result)
    | (env, .waiting answer) => some (env, .more (.calling options e.host answer))
  | fresh options none => some (afterDial (Dial.start env options))
  | calling options host answer =>
    if answer.any (·.isDue env.now) then
      let (env, result) := Call.answer env options host
      some (env, .done result)
    else none
  | dialing dial => if dial.isDue env.now then some (afterDial (dial.resume env)) else none

def timers : Connecting → List Timer
  | fresh _ _ => []
  | calling _ _ answer => answer.toList
  | dialing dial => dial.timers

end Connecting

end SessionPool
