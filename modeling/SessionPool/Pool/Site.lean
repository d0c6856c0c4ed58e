import SessionPool.Process.Job
import SessionPool.Process.Operation

/-!
# A pool at work

A pool together with everything that is going on in it: the jobs of its workers, the operations of
its users, and the members that users hold. Any of the parties may make its next step at any time;
`step` says what that step is.
-/

set_option autoImplicit false

namespace SessionPool

/-- A pool with its jobs, operations and handed-out members. -/
structure Site where
  pool : Pool
  /-- The jobs of the busy workers, by their numbers. -/
  jobs : List (Nat × Job) := []
  /-- The operations in progress, by their numbers. -/
  operations : List (Nat × Operation) := []
  held : List Member := []
  /-- The outcomes of operations that have ended, the latest last. -/
  outcomes : List (Nat × Outcome) := []

inductive Party
  | worker (number : Nat)
  | ticker (number : Nat)
  /-- Whoever closes a member that the pool has given up. -/
  | closer (member : Nat)
  | user (operation : Nat)
deriving DecidableEq, Repr

namespace Site

def parties (s : Site) : List Party :=
  (List.range s.pool.crew.workers.length).map .worker ++
    (List.range s.pool.crew.tickers.length).map .ticker ++
    s.pool.leaving.map (fun m => .closer m.id) ++ s.operations.map fun o => .user o.1

/-! ## Steps -/

/-- A worker goes on with its job, or looks for a task. -/
def stepWorker (env : Env) (s : Site) (k : Nat) : Option (Env × Site) :=
  match Table.get? s.jobs k with
  | some job =>
    (job.step env s.pool).map fun
      | (env, pool, .more job) => (env, { s with pool, jobs := Table.put s.jobs k job })
      | (env, pool, .done ()) =>
        (env, { s with
          pool := { pool with crew := pool.crew.finish k }
          jobs := Table.remove s.jobs k })
  | none =>
    (s.pool.crew.seek k true).map fun
      | (crew, none) => (env, { s with pool := { s.pool with crew } })
      | (crew, some t) =>
        (env, { s with
          pool := { s.pool with crew }
          jobs := Table.put s.jobs k (.start s.pool t) })

def stepTicker (env : Env) (s : Site) (j : Nat) : Option (Env × Site) :=
  (s.pool.crew.tick env j .maintain).map fun (env, crew) =>
    (env, { s with pool := { s.pool with crew } })

/-- A member that the pool has given up is closed. -/
def stepCloser (env : Env) (s : Site) (id : Nat) : Option (Env × Site) :=
  (s.pool.leaving.find? fun m => m.id = id).map fun m =>
    (m.close env, { s with pool := { s.pool with
      leaving := s.pool.leaving.filter fun m => !decide (m.id = id) } })

/-- An operation ends; a member that it was given is held from now on. -/
def conclude (s : Site) (number : Nat) (outcome : Outcome) : Site :=
  { s with
    operations := Table.remove s.operations number
    held := match outcome with
      | .served m => s.held ++ [m]
      | .done | .failed _ => s.held
    outcomes := s.outcomes ++ [(number, outcome)] }

def stepUser (env : Env) (s : Site) (number : Nat) : Option (Env × Site) :=
  (Table.get? s.operations number).bind fun o =>
    (o.step env s.pool).map fun
      | (env, pool, .more o) =>
        (env, { s with pool, operations := Table.update s.operations number o })
      | (env, pool, .done outcome) => (env, { s with pool }.conclude number outcome)

/-- The next step of a party; there is none if it has to wait. -/
def step (env : Env) (s : Site) : Party → Option (Env × Site)
  | .worker k => stepWorker env s k
  | .ticker j => stepTicker env s j
  | .closer id => stepCloser env s id
  | .user number => stepUser env s number

def timers (s : Site) : Party → List Timer
  | .worker k => ((Table.get? s.jobs k).map Job.timers).getD []
  | .ticker j => (s.pool.crew.tickers[j]?.map Ticker.timers).getD []
  | .closer _ => []
  | .user number => ((Table.get? s.operations number).map Operation.timers).getD []

/-! ## What users do in one step -/

def start (s : Site) (number : Nat) (o : Operation) : Site :=
  { s with operations := s.operations ++ [(number, o)] }

def cancel (env : Env) (s : Site) (number : Nat) : Env × Site :=
  match Table.get? s.operations number with
  | some o =>
    let (env, pool) := o.cancel env s.pool
    (env, { s with pool, operations := Table.remove s.operations number })
  | none => (env, s)

def heldMember? (s : Site) (id : Nat) : Option Member := s.held.find? fun m => m.id = id

def letGo (s : Site) (id : Nat) : Site :=
  { s with held := s.held.filter fun m => !decide (m.id = id) }

def tryAcquire (env : Env) (s : Site) : Env × Site × Except PoolError (Option Member) :=
  let env := s.pool.noteExpired env (s.pool.spoiledByTry env.now)
  match s.pool.tryTake env.now with
  | (pool, .error e) => (env, { s with pool }, .error e)
  | (pool, .ok none) => (env, { s with pool }, .ok none)
  | (pool, .ok (some m)) =>
    let m := m.handOut env.now
    (env, { s with pool, held := s.held ++ [m] }, .ok (some m))

/-- A user gives a member back without waiting for it to be reset. -/
def giveBack (s : Site) (id : Nat) : Site :=
  match s.heldMember? id with
  | some m => { s.letGo id with pool := s.pool.returnLater m }
  | none => s

/-- A user gives a member back from outside, where nobody can close it: if the crew was stopped,
its session is left as it is. -/
def leaveBehind (s : Site) (id : Nat) : Site :=
  match s.heldMember? id with
  | some m =>
    match s.pool.crew.dispatch (.restore m) with
    | (crew, none) => { s.letGo id with pool := { s.pool with crew } }
    | (_, some _) => { s.letGo id with pool := s.pool.drop 1 }
  | none => s

/-- A user takes a member out of the pool for good. -/
def detach (env : Env) (s : Site) (id : Nat) : Env × Site × Option Session :=
  match s.heldMember? id with
  | some m =>
    (s.pool.noteOn env m .debug "connection detached from pool" [],
      { s.letGo id with pool := s.pool.forget }, some m.session)
  | none => (env, s, none)

/-- The session of a held member changes in the hands of its user. -/
def setSession (s : Site) (id : Nat) (session : Session) : Site :=
  { s with held := s.held.map fun m => if m.id = id then { m with session } else m }

def resize (env : Env) (s : Site) (minSize : Nat) (maxSize : Option Nat) :
    Env × Site × Except PoolError Unit :=
  match s.pool.resize minSize maxSize with
  | .error e => (env, s, .error e)
  | .ok pool =>
    (pool.note env .info "pool resized"
      [("max", Text.shownOption (pool.maxSize.map toString)), ("min", toString pool.minSize)],
      { s with pool }, .ok ())

/-! ## Opening and leaving a pool -/

/-- The name of a pool that was given none. -/
def unnamed : String := "pool-#"

/-- The books of a new pool. -/
def fresh (env : Env) (settings : PoolSettings) (options : ConnectOptions) (hooks : Hooks)
    (minSize : Nat) (maxSize : Option Nat) : Pool where
  name := settings.name.getD unnamed
  settings := settings
  options := options
  hooks := hooks
  since := env.now
  minSize := minSize
  maxSize := maxSize

/-- The first sessions of a new pool: as many as `minSize` asks for, or one to find out whether
the server can be reached if the pool keeps none. -/
def fill (p : Pool) : Pool :=
  match p.settings.kind with
  | .standard => (if p.minSize = 0 then { p with filled := true } else p).topUp
  | .null => (p.dispatchAdd none).1

def create (env : Env) (settings : PoolSettings) (options : ConnectOptions) (hooks : Hooks) :
    Env × Except PoolError Site :=
  match settings.validate,
    PoolSettings.checkSize settings.kind settings.minSize settings.maxSize with
  | .error e, _ | .ok (), .error e => (env, .error e)
  | .ok (), .ok (minSize, maxSize) =>
    let p := fresh env settings options hooks minSize maxSize
    let (env, crew) := Crew.hire env p.crew settings.workers settings.maintenance
    let p := fill { p with crew }
    (p.note env .info "connection pool created"
      [("kind", settings.kind.shown), ("max", Text.shownOption (maxSize.map toString)),
        ("min", toString minSize)], .ok { pool := p })

/-- Whether somebody but the owner of the pool has to do with it. -/
def isInUse (s : Site) : Bool := !s.held.isEmpty || !s.operations.isEmpty || !s.jobs.isEmpty

/-- Nobody has to do with the pool any more: its crew leaves. -/
def dismiss (s : Site) : Site := { s with pool := { s.pool with crew := s.pool.crew.stop } }

end Site

end SessionPool
