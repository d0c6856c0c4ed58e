import SessionPool.Env
import SessionPool.Session.Options
import SessionPool.Session.Session

/-!
# Opening sessions

A call asks one endpoint for a session; it may wait for the answer, or wait forever. A dial tries
the endpoints one after the other, each within its own time, until one accepts. Both run until
they have to wait; what is left to do is then a value that `resume` takes up again.

A dial does not depend on how the calls are answered: that is up to a `Connector`, and the one that
pools use is `Connector.server`.
-/

set_option autoImplicit false

namespace SessionPool

/-- The state of a call after it was made. -/
inductive Call
  | answered (result : Except SessionError Session)
  /-- Waits for the answer; without a timer there will be none. -/
  | waiting (answer : Option Timer)

namespace Call

def answer (env : Env) (o : ConnectOptions) (host : String) : Env × Except SessionError Session :=
  if env.server.refuses host then
    ({ env with server := env.server.afterRefusal host },
      .error (.transport "connection refused"))
  else
    ({ env with server := env.server.openSession },
      .ok { pid := env.server.nextPid, autocommit := o.autocommit })

def make (env : Env) (o : ConnectOptions) (e : Endpoint) : Env × Call :=
  let env := { env with server := env.server.countAttempt }
  if env.server.isSilent e.host then (env, .waiting none)
  else if env.server.connectDelay = .zero then
    let (env, result) := answer env o e.host
    (env, .answered result)
  else
    let (timer, env) := env.setWait env.server.connectDelay
    (env, .waiting (some timer))

end Call

/-- How sessions are opened: what a call comes to when it is made, and how one that had to wait is
answered in the end. -/
structure Connector where
  make : Env → ConnectOptions → Endpoint → Env × Call
  answer : Env → ConnectOptions → Endpoint → Env × Except SessionError Session

/-- Opens sessions on the server. -/
def Connector.server : Connector where
  make := Call.make
  answer env o e := Call.answer env o e.host

/-- A dial that waits for the answer of one endpoint. -/
structure Dial where
  options : ConnectOptions
  endpoint : Endpoint
  /-- When the answer comes; a silent endpoint gives none. -/
  answer : Option Timer
  /-- When the attempt is given up; without a limit it never is. -/
  cutoff : Option Timer
  rest : List Endpoint
  failures : List HostFailure
deriving DecidableEq, Repr

inductive Dialed
  | finished (result : Except SessionError Session)
  | waiting (dial : Dial)

namespace Dial

/-- The fields that name an endpoint in the log. -/
def fields (e : Endpoint) : List (String × String) :=
  [("host", e.host), ("port", toString e.port)]

def noteFailure (env : Env) (e : Endpoint) (error : SessionError) : Env :=
  env.note .debug "connection attempt failed" (("error", error.message) :: fields e)

def noteSuccess (env : Env) (e : Endpoint) (s : Session) : Env :=
  env.note .debug "connected" (("backend_pid", toString s.pid) :: fields e)

def timers (d : Dial) : List Timer := d.answer.toList ++ d.cutoff.toList

def isDue (d : Dial) (now : Instant) : Bool := d.timers.any (·.isDue now)

end Dial

namespace Connector

variable (c : Connector)

/-- Tries endpoints in turn after some have failed. -/
def tryAll (env : Env) (o : ConnectOptions) (failures : List HostFailure) :
    List Endpoint → Env × Dialed
  | [] => (env, .finished (.error (.connect failures)))
  | e :: rest =>
    let (env, call) := c.make (env.note .debug "connecting" (Dial.fields e)) o e
    match call with
    | .answered (.ok s) => (Dial.noteSuccess env e s, .finished (.ok s))
    | .answered (.error error) =>
      tryAll (Dial.noteFailure env e error) o (failures ++ [⟨e, error.message⟩]) rest
    | .waiting answer =>
      if o.connectTimeout = .zero then
        (env, .waiting ⟨o, e, answer, none, rest, failures⟩)
      else
        let (cutoff, env) := env.setWait o.connectTimeout
        (env, .waiting ⟨o, e, answer, some cutoff, rest, failures⟩)

def start (env : Env) (o : ConnectOptions) : Env × Dialed :=
  if o.endpoints.isEmpty then (env, .finished (.error (.config "no host to connect to")))
  else match o.hostOrder with
    | .asListed => c.tryAll env o [] o.endpoints
    | .shuffled =>
      let (endpoints, env) := env.drawOrder o.endpoints
      c.tryAll env o [] endpoints

/-- The attempt of a dial failed: the next endpoint is tried. -/
def failed (env : Env) (d : Dial) (error : SessionError) : Env × Dialed :=
  c.tryAll (Dial.noteFailure env d.endpoint error) d.options
    (d.failures ++ [⟨d.endpoint, error.message⟩]) d.rest

/-- Goes on with a dial. An answer that is there counts even if the time is up as well. -/
def resume (env : Env) (d : Dial) : Env × Dialed :=
  if d.answer.any (·.isDue env.now) then
    match c.answer env d.options d.endpoint with
    | (env, .ok s) => (Dial.noteSuccess env d.endpoint s, .finished (.ok s))
    | (env, .error error) => c.failed env d error
  else if d.cutoff.any (·.isDue env.now) then c.failed env d .connectTimeout
  else (env, .waiting d)

end Connector

/-- Opens a session at the first candidate that accepts. -/
def Dial.start (env : Env) (o : ConnectOptions) : Env × Dialed := Connector.server.start env o

def Dial.resume (env : Env) (d : Dial) : Env × Dialed := Connector.server.resume env d

end SessionPool
