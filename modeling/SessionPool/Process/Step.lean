import SessionPool.Pool.State

/-!
# Steps of a process

A process moves in steps. Between two steps anything may happen to the pool and to its
surroundings; within a step nothing else does.
-/

set_option autoImplicit false

namespace SessionPool

/-- What a step leads to: what is left to do, or a result. -/
inductive Next (π ρ : Type)
  | more (process : π)
  | done (result : ρ)

/-- The outcome of a step: the surroundings, the pool, and what comes next. A process that has to
wait makes no step. -/
abbrev Stepped (π ρ : Type) := Env × Pool × Next π ρ

namespace Next

/-- The same step as a step of a larger process. -/
def map {π π' ρ ρ' : Type} (f : π → π') (g : ρ → ρ') : Next π ρ → Next π' ρ'
  | more p => .more (f p)
  | done r => .done (g r)

/-- The step of a process that goes on as another one when it is done. -/
def bind {π π' ρ ρ' : Type} (f : π → π') (g : ρ → Next π' ρ') : Next π ρ → Next π' ρ'
  | more p => .more (f p)
  | done r => g r

end Next

def Pool.note (p : Pool) (env : Env) (level : Level) (message : String)
    (fields : List (String × String)) : Env :=
  { env with log := env.log ++ [p.record level message fields] }

def Pool.noteOn (p : Pool) (env : Env) (m : Member) (level : Level) (message : String)
    (fields : List (String × String)) : Env :=
  { env with log := env.log ++ [p.recordOn m level message fields] }

/-- Notes that expired members are closed. -/
def Pool.noteExpired (p : Pool) (env : Env) (ms : List Member) : Env :=
  ms.foldl (fun env m => p.noteOn env m .debug "discarding expired connection" []) env

/-- Closes the session of a member at the server. -/
def Member.close (m : Member) (env : Env) : Env :=
  { env with server := (m.session.close env.server).2 }

end SessionPool
