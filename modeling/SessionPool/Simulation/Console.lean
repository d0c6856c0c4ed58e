import SessionPool.Session.OptionChange
import SessionPool.Simulation.World

/-!
# A console

Commands to a world, one after the other, with what each of them brings about. Pools, connections
and operations have names. Operations run on their own, or are awaited at once, or are run by hand
whenever they are polled.
-/

set_option autoImplicit false

namespace SessionPool

inductive Mode
  | spawned
  | inline
  | manual
deriving DecidableEq, Repr

/-- How the settings of a new pool reach it. -/
inductive Route
  /-- The settings are handed over as they are, without hooks. -/
  | plain
  /-- A builder also takes hooks and a connection string. -/
  | builder
deriving DecidableEq, Repr

structure Blueprint where
  /-- The name by which the console knows the pool. -/
  key : String
  route : Route := .builder
  settings : PoolSettings := {}
  changes : List OptionChange := []
  connString : Option String := none
  hooks : Hooks := {}

/-- The session that the server is to end. -/
inductive Target
  | name (name : String)
  | pid (pid : Pid)
deriving DecidableEq, Repr

inductive Command
  | connectDelay (d : Duration)
  | failNext (n : Nat)
  | refuseAll (on : Bool)
  | refuseHost (host : String)
  | unreachable (host : String)
  | terminate (target : Target)
  | terminateAll
  | sleep (d : Duration)
  | connect (id : String) (e : Endpoint) (changes : List OptionChange) (mode : Mode)
  | connectAny (id : String) (changes : List OptionChange) (mode : Mode)
  | dropRaw (id : String)
  | clientConfig (changes : List OptionChange)
  | exec (id sql : String)
  | commit (id : String)
  | rollback (id : String)
  | ping (id : String)
  | closeConn (id : String)
  | autocommit (id : String) (on : Bool)
  | failNextRollback (id : String)
  | info (id : String) (settings : List String)
  | openPool (b : Blueprint)
  | acquire (id pool : String) (timeout : Option Duration) (mode : Mode)
  | tryAcquire (id pool : String)
  | release (id pool : String) (mode : Mode)
  | wait (id pool : String) (timeout : Duration) (mode : Mode)
  | check (id pool : String) (mode : Mode)
  | close (id pool : String) (mode : Mode)
  | drop (id : String)
  | dropAll
  | dropOutside (id : String)
  | detach (id : String)
  | resize (pool : String) (minSize : Nat) (maxSize : Option Nat)
  | stats (pool : String)
  | popStats (pool : String)
  | status (pool : String)
  | isClosed (pool : String)
  | config (pool : String)
  | shown (pool : String)
  | dropPool (pool : String)
  | poll (id : String)
  | cancel (id : String)

inductive Complaint
  | noSuchPool
  | noSuchConnection
  | notHeld
  | noSuchRequest
  | idInUse
deriving DecidableEq, Repr

def Complaint.message : Complaint → String
  | .noSuchPool => "no such pool"
  | .noSuchConnection => "no such connection"
  | .notHeld => "not held"
  | .noSuchRequest => "no such request"
  | .idInUse => "id in use"

/-- A member that was handed to a user. -/
structure Handed where
  id : Nat
  pid : Pid
  checkouts : Nat
  stage : Stage
  status : Status
deriving DecidableEq, Repr

/-- What came of an operation. -/
inductive Report
  | done
  | handed (h : Handed)
  | connected (pid : Pid) (status : Status)
  | failed (e : PoolError)
  | unconnected (e : SessionError)
deriving DecidableEq, Repr

structure ConnectionInfo where
  session : Session
  status : Status
  broken : Bool
  settings : List (Option String)
  /-- The notes of its pool, and the time. -/
  notes : Option (Notes × Instant)

/-- The answer to a command. -/
inductive Reply
  | nothing
  | flag (b : Bool)
  | count (n : Nat)
  | word (s : String)
  | rows (result : Except SessionError Nat)
  | ended (result : Except SessionError Unit)
  | report (r : Report)
  | taken (result : Except PoolError (Option Handed))
  | changed (result : Except PoolError Unit)
  | opened (result : Except PoolError String)
  | options (result : Except SessionError ConnectOptions)
  | info (i : ConnectionInfo)
  | stats (s : PoolStats)
  | status (o : Occupancy)
  | settings (s : PoolSettings)
  | complaint (c : Complaint)

inductive Thing
  | member (site id : Nat)
  | raw (s : Session)
deriving DecidableEq, Repr

structure Console where
  run : Run World Actor := { state := {} }
  things : List (String × Thing) := []
  /-- The operations that run on their own. -/
  tasks : List (String × Started) := []
  /-- The operations that are run by hand. -/
  manual : List (String × Started) := []
  seen : List String := []

/-- What a command brought about. -/
structure Entry where
  reply : Reply
  time : Nat
  /-- The operations that have ended, in the order of their beginning. -/
  done : List (String × Report)
  server : Server
  pools : List (String × Occupancy)
  log : Log

namespace Console

def world (c : Console) : World := c.run.state

def env (c : Console) : Env := c.world.env

def setWorld (c : Console) (w : World) : Console :=
  { c with run := World.machine.enroll none { c.run with state := w } }

def setEnv (c : Console) (env : Env) : Console := c.setWorld { c.world with env }

def changeServer (c : Console) (f : Server → Server) : Console :=
  c.setEnv { c.env with server := f c.env.server }

def isTaken (c : Console) (id : String) : Bool :=
  (Table.get? c.things id).isSome || (Table.get? c.tasks id).isSome ||
    (Table.get? c.manual id).isSome

def hold (c : Console) (id : String) (t : Thing) : Console :=
  { c with things := Table.putSorted c.things id t }

def unhold (c : Console) (id : String) : Console :=
  { c with things := Table.remove c.things id }

def site? (c : Console) (pool : String) : Option (Nat × Site) :=
  (Table.get? c.world.owned pool).bind fun n => c.world.sites[n]?.map fun s => (n, s)

/-- The held member of a name: the number of its pool, the pool, and the member. -/
def member? (c : Console) (id : String) : Option (Nat × Site × Member) :=
  match Table.get? c.things id with
  | some (.member n k) =>
    c.world.sites[n]?.bind fun s => (s.heldMember? k).map fun m => (n, s, m)
  | some (.raw _) | none => none

def session? (c : Console) (id : String) : Option Session :=
  match Table.get? c.things id with
  | some (.raw s) => some s
  | some (.member _ _) => (c.member? id).map fun x => x.2.2.session
  | none => none

def setSession (c : Console) (id : String) (session : Session) : Console :=
  match Table.get? c.things id with
  | some (.raw _) => c.hold id (.raw session)
  | some (.member n k) =>
    match c.world.sites[n]? with
    | some s => c.setWorld (c.world.setSite n (s.setSession k session))
    | none => c
  | none => c

/-! ## Operations -/

def handed (c : Console) (m : Member) : Handed :=
  ⟨m.id, m.notes.pid, m.notes.checkouts, m.notes.stage, m.session.reported c.env.server⟩

/-- Reads the outcome of an operation; a connection that came of it is held under its name. -/
def collect? (c : Console) (id : String) (x : Started) : Option (Console × Report) :=
  (c.world.ended? x).map fun ended =>
    let c := c.setWorld (c.world.forgetOutcome x)
    match ended with
    | .operation n (.served m) => (c.hold id (.member n m.id), .handed (c.handed m))
    | .operation _ .done => (c, .done)
    | .operation _ (.failed e) => (c, .failed e)
    | .connect (.ok s) => (c.hold id (.raw s), .connected s.pid (s.reported c.env.server))
    | .connect (.error e) => (c, .unconnected e)

/-- Reads the outcomes of all operations that ran on their own and have ended. -/
def collectAll (c : Console) : Console × List (String × Report) :=
  c.tasks.foldl (fun (c, reports) (id, x) =>
    let forgotten := { c with tasks := Table.remove c.tasks id }
    match forgotten.collect? id x with
    | some (c, r) => (c, reports ++ [(id, r)])
    | none => (if c.world.isGoingOn x then c else forgotten, reports)) (c, [])

/-- Lets an operation run that nobody runs otherwise. -/
def turn (c : Console) (x : Started) : Console :=
  let run := World.machine.turn x.actor Machine.patience c.run
  { c with run := World.machine.enroll none run }

def launch (c : Console) (id : String) (mode : Mode) (started : World × Started) :
    Console × Reply :=
  let (w, x) := started
  match mode with
  | .spawned =>
    ({ c.setWorld w with tasks := c.tasks ++ [(id, x)], seen := id :: c.seen }, .word "started")
  | .inline =>
    let run := World.machine.await x.actor (fun w => !w.isGoingOn x) Machine.patience
      { c.run with state := w.park x }
    match { c with run }.collect? id x with
    | some (c, r) => (c, .report r)
    | none => ({ c with run }, .word "pending")
  | .manual =>
    let c := { c with run := { c.run with state := w.park x } }.turn x
    match c.collect? id x with
    | some (c, r) => (c, .report r)
    | none => ({ c with manual := c.manual ++ [(id, x)] }, .word "pending")

def operate (c : Console) (id pool : String) (mode : Mode) (o : Site → Operation) :
    Console × Reply :=
  match c.site? pool with
  | none => (c, .complaint .noSuchPool)
  | some (n, s) =>
    if c.isTaken id then (c, .complaint .idInUse)
    else c.launch id mode (c.world.startOperation n (o s))

/-- The options of a connection that the console opens outside of the pools. -/
def connectWith (c : Console) (id : String) (changes : List OptionChange) (mode : Mode)
    (only : Option Endpoint) : Console × Reply :=
  if c.isTaken id then (c, .complaint .idInUse)
  else match ({} : ConnectOptions).changeAll changes with
    | .error e => (c, .options (.error e))
    | .ok o => c.launch id mode (c.world.startConnect (.fresh o only))

def releaseTo (c : Console) (id pool : String) (mode : Mode) : Console × Reply :=
  match c.site? pool with
  | none => (c, .complaint .noSuchPool)
  | some (target, _) =>
    match c.member? id with
    | none => (c, .complaint .notHeld)
    | some (n, s, m) =>
      let w := c.world.setSite n (s.letGo m.id)
      let o : Operation := if n = target then .release (.arriving m) else .misplace m
      (c.unhold id).launch id mode (w.startOperation n o)

/-- Runs an operation by hand once more. -/
def poll (c : Console) (id : String) : Console × Reply :=
  match Table.get? c.manual id with
  | none => (c, .complaint .noSuchRequest)
  | some x =>
    let c := c.turn x
    match c.collect? id x with
    | some (c, r) => ({ c with manual := Table.remove c.manual id }, .report r)
    | none => (c, .word "pending")

def cancel (c : Console) (id : String) : Console × Reply :=
  match Table.get? c.tasks id, Table.get? c.manual id with
  | some x, _ => (c.setWorld (c.world.abort x), .word "aborted")
  | none, some x =>
    ({ c.setWorld (c.world.giveUp x) with manual := Table.remove c.manual id }, .word "dropped")
  | none, none =>
    if c.seen.contains id then (c, .word "finished") else (c, .complaint .noSuchRequest)

/-! ## Connections -/

def withSession (c : Console) (id : String) (f : Session → Console × Reply) : Console × Reply :=
  match c.session? id with
  | none => (c, .complaint .noSuchConnection)
  | some s => f s

def finishStatement (c : Console) (id : String) (wait : Duration) :
    Console × Except SessionError Nat :=
  let (timer, env) := c.env.setWait wait
  let run := World.machine.await .speaker (fun w => w.statement.isNone) Machine.patience
    { c.run with state := { c.world with env, statement := some timer } }
  let c := { c with run }
  match c.session? id with
  | none => (c, .ok 0)
  | some s =>
    let (s, result) := s.wake c.env.server
    (c.setSession id s, result)

def execute (c : Console) (id : String) (s : Session) (sql : String) :
    Console × Except SessionError Nat :=
  match s.execute c.env.server sql with
  | (s, .now result) => (c.setSession id s, result)
  | (s, .later wait) => (c.setSession id s).finishStatement id wait

/-- Executes a statement of which only the success matters. -/
def executeFor (c : Console) (id sql : String) : Console × Reply :=
  c.withSession id fun s =>
    let (c, result) := c.execute id s sql
    (c, .ended (result.map fun _ => ()))

def rollback (c : Console) (id : String) : Console × Reply :=
  c.withSession id fun s =>
    let (s, server, result) := s.rollback c.env.server
    ((c.setSession id s).changeServer fun _ => server, .ended result)

def closeConn (c : Console) (id : String) : Console × Reply :=
  c.withSession id fun s =>
    let (s, server) := s.close c.env.server
    ((c.setSession id s).changeServer fun _ => server, .ended (.ok ()))

def adjust (c : Console) (id : String) (f : Session → Session) : Console × Reply :=
  c.withSession id fun s => (c.setSession id (f s), .nothing)

def describe (c : Console) (id : String) (settings : List String) : Console × Reply :=
  c.withSession id fun s =>
    (c, .info {
      session := s
      status := s.reported c.env.server
      broken := s.isBroken c.env.server
      settings := settings.map s.setting?
      notes := (c.member? id).map fun x => (x.2.2.notes, c.env.now) })

def terminate (c : Console) (pid : Pid) : Console × Reply :=
  (c.changeServer (·.terminate pid), .flag (c.env.server.live.contains pid))

def terminateTarget (c : Console) : Target → Console × Reply
  | .pid pid => c.terminate pid
  | .name id => c.withSession id fun s => c.terminate s.pid

/-! ## Pools -/

/-- What every pool of the console connects with, before anything is changed. -/
def baseOptions : ConnectOptions :=
  { endpoints := [⟨"db", defaultPort⟩], autocommit := true, connectTimeout := .ofSecs 5 }

/-- The options of a new pool: a connection string takes the place of all others. -/
def poolOptions (b : Blueprint) (o : ConnectOptions) : Except PoolError ConnectOptions :=
  match b.route, b.connString with
  | .builder, some text => (ConnectionString.parse text).mapError fun e => .config e.message
  | .builder, none | .plain, _ => .ok o

def openPool (c : Console) (b : Blueprint) : Console × Reply :=
  match baseOptions.changeAll b.changes with
  | .error e => (c, .options (.error e))
  | .ok o =>
    match poolOptions b o with
    | .error e => (c, .opened (.error e))
    | .ok o =>
      let hooks := match b.route with
        | .builder => b.hooks
        | .plain => {}
      let (w, result) := c.world.openPool b.key b.settings o hooks
      (c.setWorld w, .opened result)

def withSite (c : Console) (pool : String) (f : Nat → Site → Console × Reply) : Console × Reply :=
  match c.site? pool with
  | none => (c, .complaint .noSuchPool)
  | some (n, s) => f n s

def tryAcquire (c : Console) (id pool : String) : Console × Reply :=
  c.withSite pool fun n s =>
    if c.isTaken id then (c, .complaint .idInUse)
    else
      let (env, s, result) := s.tryAcquire c.env
      let c := c.setWorld (c.world.changeSite n env s)
      match result with
      | .error e => (c, .taken (.error e))
      | .ok none => (c, .taken (.ok none))
      | .ok (some m) => (c.hold id (.member n m.id), .taken (.ok (some (c.handed m))))

def resize (c : Console) (pool : String) (minSize : Nat) (maxSize : Option Nat) :
    Console × Reply :=
  c.withSite pool fun n s =>
    let (env, s, result) := s.resize c.env minSize maxSize
    (c.setWorld (c.world.changeSite n env s), .changed result)

def popStats (c : Console) (pool : String) : Console × Reply :=
  c.withSite pool fun n s =>
    (c.setWorld (c.world.setSite n { s with pool := s.pool.resetCounters }),
      .stats (s.pool.stats c.env.now))

/-! ## Held members -/

/-- Lets go of a held member in some way. -/
def letGo (c : Console) (id : String) (f : Site → Nat → Site) : Console × Reply :=
  match c.member? id with
  | none => (c, .complaint .notHeld)
  | some (n, s, m) =>
    ((c.unhold id).setWorld (c.world.changeSite n c.env (f s m.id)), .nothing)

def dropAll (c : Console) : Console :=
  c.things.foldl (fun c t => (c.letGo t.1 Site.giveBack).1) c

/-- Takes a held member out of its pool; from then on it is a connection like any other. -/
def detach (c : Console) (id : String) : Console × Reply :=
  match c.member? id with
  | none => (c, .complaint .notHeld)
  | some (n, s, m) =>
    match s.detach c.env m.id with
    | (env, s, some session) =>
      ((c.setWorld (c.world.changeSite n env s)).hold id (.raw session), .nothing)
    | (_, _, none) => (c, .complaint .notHeld)

/-- Forgets a connection that belongs to no pool. -/
def dropRaw (c : Console) (id : String) : Console × Reply :=
  match Table.get? c.things id with
  | some (.raw _) => (c.unhold id, .flag true)
  | some (.member _ _) | none => (c, .flag false)

def sleep (c : Console) (d : Duration) : Console :=
  { c with run := World.machine.sleep d c.run }

/-! ## Commands -/

def perform (c : Console) : Command → Console × Reply
  | .connectDelay d => (c.changeServer fun s => { s with connectDelay := d }, .nothing)
  | .failNext n => (c.changeServer fun s => { s with failNext := n }, .nothing)
  | .refuseAll on => (c.changeServer fun s => { s with refuseAll := on }, .nothing)
  | .refuseHost host =>
    (c.changeServer fun s => { s with refusedHosts := s.refusedHosts ++ [host] }, .nothing)
  | .unreachable host =>
    (c.changeServer fun s => { s with silentHosts := s.silentHosts ++ [host] }, .nothing)
  | .terminate target => c.terminateTarget target
  | .terminateAll => (c.changeServer (·.terminateAll), .count c.env.server.live.length)
  | .sleep d => (c.sleep d, .nothing)
  | .connect id e changes mode => c.connectWith id changes mode (some e)
  | .connectAny id changes mode => c.connectWith id changes mode none
  | .dropRaw id => c.dropRaw id
  | .clientConfig changes => (c, .options (({} : ConnectOptions).changeAll changes))
  | .exec id sql =>
    c.withSession id fun s =>
      let (c, result) := c.execute id s sql
      (c, .rows result)
  | .commit id => c.executeFor id "COMMIT"
  | .rollback id => c.rollback id
  | .ping id => c.executeFor id ""
  | .closeConn id => c.closeConn id
  | .autocommit id on => c.adjust id fun s => { s with autocommit := on }
  | .failNextRollback id => c.adjust id fun s => { s with failNextRollback := true }
  | .info id settings => c.describe id settings
  | .openPool b => c.openPool b
  | .acquire id pool timeout mode =>
    c.operate id pool mode fun s => .acquire (.arriving (timeout.getD s.pool.settings.timeout))
  | .tryAcquire id pool => c.tryAcquire id pool
  | .release id pool mode => c.releaseTo id pool mode
  | .wait id pool timeout mode => c.operate id pool mode fun _ => .wait (.starting timeout)
  | .check id pool mode => c.operate id pool mode fun _ => .check .starting
  | .close id pool mode => c.operate id pool mode fun _ => .close .starting
  | .drop id => c.letGo id Site.giveBack
  | .dropAll => (c.dropAll, .nothing)
  | .dropOutside id => c.letGo id Site.leaveBehind
  | .detach id => c.detach id
  | .resize pool minSize maxSize => c.resize pool minSize maxSize
  | .stats pool => c.withSite pool fun _ s => (c, .stats (s.pool.stats c.env.now))
  | .popStats pool => c.popStats pool
  | .status pool => c.withSite pool fun _ s => (c, .status s.pool.occupancy)
  | .isClosed pool => c.withSite pool fun _ s => (c, .flag s.pool.closed)
  | .config pool => c.withSite pool fun _ s => (c, .settings s.pool.settings)
  | .shown pool => c.withSite pool fun _ s => (c, .word s.pool.shown)
  | .dropPool pool =>
    let (w, was) := c.world.leavePool pool
    (c.setWorld w, .flag was)
  | .poll id => c.poll id
  | .cancel id => c.cancel id

def settle (c : Console) : Console := { c with run := World.machine.settle c.run }

def ownedSites (c : Console) : List (String × Site) :=
  c.world.owned.filterMap fun o => c.world.sites[o.2]?.map fun s => (o.1, s)

/-- Notes what a command brought about, and clears the log. -/
def conclude (c : Console) (reply : Reply) : Console × Entry :=
  let (c, done) := c.collectAll
  (c.setEnv { c.env with log := [] },
    { reply
      time := c.env.now.tick
      done
      server := c.env.server
      pools := c.ownedSites.map fun o => (o.1, o.2.pool.occupancy)
      log := c.env.log })

/-- Answers a command and, if asked to, lets everybody run before the next. -/
def answer (c : Console) (reply : Reply) (settling : Bool) : Console × Entry :=
  (if settling then c.settle else c).conclude reply

def step (c : Console) (command : Command) (settling : Bool) : Console × Entry :=
  let (c, reply) := c.perform command
  c.answer reply settling

def pass (c : Console) (settling : Bool) : Console × Entry := c.answer .nothing settling

/-- The statistics of the pools that are still owned. -/
def finalStats (c : Console) : List (String × PoolStats) :=
  c.ownedSites.map fun o => (o.1, o.2.pool.stats c.env.now)

end Console

end SessionPool
