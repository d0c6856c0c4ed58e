import SessionPool.Pool.Site
import SessionPool.Process.Connecting
import SessionPool.Simulation.Executor

/-!
# Several pools and one server

Pools, sessions that are opened outside of them, and the server and the clock that they share. A
pool with which nobody has to do any more is dismissed.
-/

set_option autoImplicit false

namespace SessionPool

structure World where
  env : Env := {}
  /-- All pools that were opened, by their numbers. -/
  sites : List Site := []
  /-- The pools that are still owned, by the names that their owners gave them. -/
  owned : List (String × Nat) := []
  /-- The sessions that are being opened outside of the pools, by number. -/
  connects : List (Nat × Connecting) := []
  connected : List (Nat × Except SessionError Session) := []
  nextNumber : Nat := 0
  /-- The operations and connects that nobody runs unless told to. -/
  parked : List Nat := []
  /-- The operations and connects that are to be given up at their next step. -/
  aborted : List Nat := []
  /-- A statement on a session outside of the pools that waits for its end. -/
  statement : Option Timer := none

inductive Actor
  | party (site : Nat) (p : Party)
  | connect (number : Nat)
  | speaker
deriving DecidableEq, Repr

/-- Something that was started and has an outcome some day. -/
inductive Started
  | operation (site number : Nat)
  | connect (number : Nat)
deriving DecidableEq, Repr

def Started.number : Started → Nat
  | .operation _ number | .connect number => number

def Started.actor : Started → Actor
  | .operation site number => .party site (.user number)
  | .connect number => .connect number

namespace World

def setSite (w : World) (n : Nat) (s : Site) : World := { w with sites := w.sites.set n s }

def isOwned (w : World) (n : Nat) : Bool := w.owned.any fun o => o.2 = n

/-- Dismisses a pool with which nobody has to do any more. -/
def retire (w : World) (n : Nat) : World :=
  match w.sites[n]? with
  | some s => if w.isOwned n || s.isInUse then w else w.setSite n s.dismiss
  | none => w

/-- A change of a pool, which may have been the last that anybody had to do with it. -/
def changeSite (w : World) (n : Nat) (env : Env) (s : Site) : World :=
  ({ w with env }.setSite n s).retire n

/-- Gives something up that was started. -/
def giveUp (w : World) (x : Started) : World :=
  let w := { w with aborted := w.aborted.filter fun k => !decide (k = x.number) }
  match x with
  | .connect number => { w with connects := Table.remove w.connects number }
  | .operation n number =>
    match w.sites[n]? with
    | some s =>
      let (env, s) := s.cancel w.env number
      w.changeSite n env s
    | none => w

def stepConnect (w : World) (number : Nat) : Option World :=
  if w.aborted.contains number then some (w.giveUp (.connect number))
  else (Table.get? w.connects number).bind fun c =>
    (c.step w.env).map fun
      | (env, .more c) => { w with env, connects := Table.update w.connects number c }
      | (env, .done result) =>
        { w with
          env
          connects := Table.remove w.connects number
          connected := w.connected ++ [(number, result)] }

def stepParty (w : World) (n : Nat) (p : Party) : Option World :=
  match p with
  | .user number =>
    if w.aborted.contains number then some (w.giveUp (.operation n number)) else go
  | .worker _ | .ticker _ | .closer _ => go
where
  go : Option World :=
    w.sites[n]?.bind fun s => (s.step w.env p).map fun (env, s) => w.changeSite n env s

/-- The next step of an actor; there is none if it has to wait. -/
def step (w : World) : Actor → Option World
  | .party n p => w.stepParty n p
  | .connect number => w.stepConnect number
  | .speaker =>
    if w.statement.any (·.isDue w.env.now) then some { w with statement := none } else none

def timers (w : World) : Actor → List Timer
  | .party n p => (w.sites[n]?.map fun s => s.timers p).getD []
  | .connect number => ((Table.get? w.connects number).map Connecting.timers).getD []
  | .speaker => w.statement.toList

/-- Whether an actor runs without being told to. -/
def runsFreely (w : World) : Actor → Bool
  | .party _ (.user number) | .connect number => !w.parked.contains number
  | .party _ _ => true
  | .speaker => false

def actors (w : World) : List Actor :=
  let parties := w.sites.zipIdx.flatMap fun x => x.1.parties.map (Actor.party x.2)
  let connects := w.connects.map fun c => Actor.connect c.1
  (parties ++ connects).filter w.runsFreely

def machine : Machine World Actor where
  parties := actors
  step := step
  timers := timers
  now w := w.env.now
  setNow w t := { w with env := { w.env with now := t } }

/-! ## Beginnings and outcomes -/

def startOperation (w : World) (n : Nat) (o : Operation) : World × Started :=
  match w.sites[n]? with
  | some s =>
    ({ w.setSite n (s.start w.nextNumber o) with nextNumber := w.nextNumber + 1 },
      .operation n w.nextNumber)
  | none => (w, .operation n w.nextNumber)

def startConnect (w : World) (c : Connecting) : World × Started :=
  ({ w with connects := w.connects ++ [(w.nextNumber, c)], nextNumber := w.nextNumber + 1 },
    .connect w.nextNumber)

def isGoingOn (w : World) : Started → Bool
  | .operation n number => (w.sites[n]?.any fun s => (Table.get? s.operations number).isSome)
  | .connect number => (Table.get? w.connects number).isSome

/-- What came of something that was started. -/
inductive Ended
  | operation (site : Nat) (outcome : Outcome)
  | connect (result : Except SessionError Session)

/-- What came of something that was started, if it has ended. -/
def ended? (w : World) : Started → Option Ended
  | .operation n number =>
    w.sites[n]?.bind fun s => (Table.get? s.outcomes number).map (.operation n)
  | .connect number => (Table.get? w.connected number).map .connect

def forgetOutcome (w : World) : Started → World
  | .operation n number =>
    match w.sites[n]? with
    | some s => w.setSite n { s with outcomes := Table.remove s.outcomes number }
    | none => w
  | .connect number => { w with connected := Table.remove w.connected number }

/-- Something that was started does not run unless told to. -/
def park (w : World) (x : Started) : World := { w with parked := x.number :: w.parked }

/-- Something that was started is to be given up at its next step. -/
def abort (w : World) (x : Started) : World := { w with aborted := x.number :: w.aborted }

/-! ## Owners -/

/-- Opens a pool; its owner gives it a name. A pool that had the name loses its owner. -/
def openPool (w : World) (name : String) (settings : PoolSettings) (options : ConnectOptions)
    (hooks : Hooks) : World × Except PoolError String :=
  match Site.create w.env settings options hooks with
  | (env, .error e) => ({ w with env }, .error e)
  | (env, .ok s) =>
    let old := Table.get? w.owned name
    let w := { w with
      env
      sites := w.sites ++ [s]
      owned := Table.putSorted w.owned name w.sites.length }
    (match old with
      | some n => w.retire n
      | none => w, .ok s.pool.name)

/-- The owner of a pool leaves it; says whether there was one. -/
def leavePool (w : World) (name : String) : World × Bool :=
  match Table.get? w.owned name with
  | some n => ({ w with owned := Table.remove w.owned name }.retire n, true)
  | none => (w, false)

end World

end SessionPool
