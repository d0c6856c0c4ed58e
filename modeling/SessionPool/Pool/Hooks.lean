import SessionPool.Env
import SessionPool.Session.Session

/-!
# Hooks

Scripts that a pool runs on its sessions: on every new session, on every session that comes back,
and to find out whether an unused session still answers. A script is a row of actions and ends at
the first that fails. A statement that has to wait interrupts its script; the pause holds what is
left to do.
-/

set_option autoImplicit false

namespace SessionPool

inductive Action
  /-- Executes a statement; if it is not needed, its failure does not matter. -/
  | execute (sql : String) (needed : Bool)
  | rollback
  | close
  | terminate
  | autocommit (on : Bool)
  | fail (e : SessionError)
deriving DecidableEq, Repr

namespace Action

def commit : Action := .execute "COMMIT" true

/-- Finds out whether the session answers. -/
def ping : Action := .execute "" true

end Action

structure Pause where
  timer : Timer
  /-- Whether the script ends if the statement fails. -/
  needed : Bool
  rest : List Action
deriving DecidableEq, Repr

inductive Progress
  | finished (result : Except SessionError Unit)
  | paused (pause : Pause)

namespace Script

/-- Runs a script on a session until it ends or has to wait. -/
def run (env : Env) (s : Session) : List Action → Env × Session × Progress
  | [] => (env, s, .finished (.ok ()))
  | .execute sql needed :: rest =>
    match s.execute env.server sql with
    | (s, .now (.ok _)) => run env s rest
    | (s, .now (.error e)) =>
      if needed then (env, s, .finished (.error e)) else run env s rest
    | (s, .later wait) =>
      let (timer, env) := env.setWait wait
      if timer.isDue env.now then run env s rest
      else (env, s, .paused ⟨timer, needed, rest⟩)
  | .rollback :: rest =>
    match s.rollback env.server with
    | (s, server, .ok ()) => run { env with server } s rest
    | (s, server, .error e) => ({ env with server }, s, .finished (.error e))
  | .close :: rest =>
    let (s, server) := s.close env.server
    run { env with server } s rest
  | .terminate :: rest => run { env with server := env.server.terminate s.pid } s rest
  | .autocommit on :: rest => run env { s with autocommit := on } rest
  | .fail e :: _ => (env, s, .finished (.error e))

/-- Goes on with a script once the wait of its pause is over. -/
def resume (env : Env) (s : Session) (p : Pause) : Env × Session × Progress :=
  match s.wake env.server with
  | (s, .ok _) => run env s p.rest
  | (s, .error e) =>
    if p.needed then (env, s, .finished (.error e)) else run env s p.rest

end Script

/-- The scripts of a pool, each by the number of the call, counted from zero. -/
structure Hooks where
  /-- How errors and the log name the hooks. -/
  name : String := "hooks"
  /-- Run on a new session before it joins the pool. -/
  configure : Nat → List Action := fun _ => []
  /-- Run on a session that comes back before it is used again. -/
  reset : Nat → List Action := fun _ => []
  /-- Run on an unused session to find out whether it still answers. -/
  probe : Nat → List Action := fun _ => [.ping]

structure HookCalls where
  configure : Nat := 0
  reset : Nat := 0
  probe : Nat := 0
deriving DecidableEq, Repr, Inhabited

/-- The scripts of a list in turn; the last one is repeated. -/
def scriptAt (scripts : List (List Action)) (call : Nat) : List Action :=
  (scripts[min call (scripts.length - 1)]?).getD []

end SessionPool
