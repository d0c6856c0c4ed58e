import SessionPool.Pool.Shutdown
import SessionPool.Process.Step

/-!
# Closing a pool

The pool is closed in the books, the crew is told to stop and waited for, the tasks that nobody
took are disposed of, and the unused sessions are closed.
-/

set_option autoImplicit false

namespace SessionPool

/-- How far the closing of a pool has come. `idle` are the sessions that are still to be closed. -/
inductive Closing
  | starting
  | stopping (idle : List Member)
  /-- These members of the crew are waited for, one after the other. -/
  | joining (hands : List Hand) (idle : List Member)
  /-- Tasks that nobody took are disposed of; so many were. -/
  | draining (disposed : Nat) (idle : List Member)
  | emptying (idle : List Member)
deriving DecidableEq, Repr

namespace Closing

/-- Closes the pool in the books. A pool that is closed is left as it is. -/
def start (env : Env) (p : Pool) : Stepped Closing Unit :=
  if p.closed then (env, p, .done ())
  else
    let failed := p.waiting.length
    let env := if failed = 0 then env
      else p.note env .debug "failing queued requests" [("requests", toString failed)]
    let (p, idle) := p.shut
    (env, p, .more (.stopping idle))

/-- Disposes of the next task, or notes how many there were. -/
def drain (env : Env) (p : Pool) (disposed : Nat) (idle : List Member) : Stepped Closing Unit :=
  match p.crew.collect with
  | some (t, crew) =>
    let env := match t.item? with
      | some m => m.close env
      | none => env
    (env, { p with crew }.dispose t, .more (.draining (disposed + 1) idle))
  | none =>
    let env := if disposed = 0 then env
      else env.note .debug "discarded queued tasks" [("tasks", toString disposed)]
    (env, p, .more (.emptying idle))

def step (env : Env) (p : Pool) : Closing → Option (Stepped Closing Unit)
  | starting => some (start env p)
  | stopping idle =>
    let (crew, hands) := p.crew.stop.releaseHands
    some (env, { p with crew }, .more (.joining hands idle))
  | joining (h :: hands) idle =>
    if p.crew.hasLeft h then some (env, p, .more (.joining hands idle)) else none
  | joining [] idle => some (env, p, .more (.draining 0 idle))
  | draining disposed idle => some (drain env p disposed idle)
  | emptying (m :: idle) => some (m.close env, p, .more (.emptying idle))
  | emptying [] => some (p.note env .info "connection pool closed" [], p, .done ())

def idle : Closing → List Member
  | starting => []
  | stopping idle | joining _ idle | draining _ idle | emptying idle => idle

end Closing

end SessionPool
