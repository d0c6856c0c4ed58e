import SessionPool.Log
import SessionPool.Session.Endpoint
import SessionPool.Session.Server
import SessionPool.Time

/-!
# The surroundings of a pool

What a step of a process reads and changes outside the pool: the clock, the server, the timers
that were set, the draws of chance, and the log.
-/

set_option autoImplicit false

namespace SessionPool

/-- What is drawn at random: for each draw, by its number, how the value asked for is changed. -/
structure Chance where
  /-- The lifetime that a session is given in place of the longest one. -/
  lifetime : Nat → Duration → Duration
  /-- The wait before a further attempt in place of the nominal one. -/
  delay : Nat → Duration → Duration
  order : Nat → List Endpoint → List Endpoint

/-- Chance that changes nothing. -/
def Chance.even : Chance where
  lifetime _ d := d
  delay _ d := d
  order _ es := es

structure Env where
  now : Instant := .origin
  server : Server := {}
  /-- How many timers have been set. -/
  timers : Nat := 0
  /-- How often chance has been asked. -/
  draws : Nat := 0
  chance : Chance := .even
  log : Log := []

namespace Env

def setTimer (env : Env) (due : Instant) : Timer × Env :=
  (⟨due, env.timers⟩, { env with timers := env.timers + 1 })

/-- Sets a timer for the end of a wait. -/
def setWait (env : Env) (wait : Duration) : Timer × Env := env.setTimer (env.now.after wait)

def note (env : Env) (level : Level) (message : String) (fields : List (String × String)) : Env :=
  { env with log := env.log ++ [.of level message fields] }

def drawLifetime (env : Env) (d : Duration) : Duration × Env :=
  (env.chance.lifetime env.draws d, { env with draws := env.draws + 1 })

def drawDelay (env : Env) (d : Duration) : Duration × Env :=
  (env.chance.delay env.draws d, { env with draws := env.draws + 1 })

def drawOrder (env : Env) (es : List Endpoint) : List Endpoint × Env :=
  (env.chance.order env.draws es, { env with draws := env.draws + 1 })

end Env

end SessionPool
