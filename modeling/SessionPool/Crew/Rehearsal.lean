import SessionPool.Crew.Basic
import SessionPool.Crew.Task
import SessionPool.Simulation.Executor
import SessionPool.Table

/-!
# A crew in rehearsal

A crew that works on numbered tasks which do nothing but take time, and reports when it starts and
ends each of them.
-/

set_option autoImplicit false

namespace SessionPool

def Task.text (t : Task Nat) : String :=
  match t with
  | .add (some n) | .restore n | .close n => t.name ++ " " ++ toString n
  | .add none => t.name ++ " -"
  | .maintain => t.name

inductive RehearsedJob
  | taken (t : Task Nat)
  /-- The task takes its time. -/
  | underWay (t : Task Nat) (done : Timer)
deriving DecidableEq, Repr

/-- How far the end of a rehearsal has come. -/
inductive RehearsalEnding
  | joining (hands : List Hand)
  | draining (disposed : Nat)
  | over
deriving DecidableEq, Repr

structure Rehearsal where
  env : Env := {}
  crew : Crew (Task Nat) := {}
  jobs : List (Nat × RehearsedJob) := []
  /-- Whether there is still somebody for whom the crew works. -/
  employed : Bool := true
  /-- The milliseconds that tasks take, by their texts. -/
  lengths : List (String × Nat) := []
  /-- Whether a task that is under way ends at once when the crew is stopped. -/
  hasty : Bool := false
  /-- What was reported, the latest last. -/
  report : List String := []
  ending : RehearsalEnding := .over

inductive Rehearsing
  | worker (number : Nat)
  | ticker (number : Nat)
  | closer
deriving DecidableEq, Repr

namespace Rehearsal

def tell (r : Rehearsal) (what : String) (t : Task Nat) : Rehearsal :=
  { r with report := r.report ++ [toString r.env.now.tick ++ " " ++ what ++ " " ++ t.text] }

def finish (r : Rehearsal) (k : Nat) : Rehearsal :=
  { r with crew := r.crew.finish k, jobs := Table.remove r.jobs k }

/-- A worker goes on with its task, or looks for one. -/
def stepWorker (r : Rehearsal) (k : Nat) : Option Rehearsal :=
  match Table.get? r.jobs k with
  | some (.taken t) =>
    let r := r.tell "run" t
    match Table.get? r.lengths t.text with
    | none => some (r.finish k)
    | some ms =>
      let (done, env) := r.env.setWait (.ofMillis ms)
      some { r with env, jobs := Table.put r.jobs k (.underWay t done) }
  | some (.underWay t done) =>
    if r.hasty && r.crew.stopped then some ((r.tell "interrupted" t).finish k)
    else if done.isDue r.env.now then some ((r.tell "end" t).finish k)
    else none
  | none =>
    (r.crew.seek k r.employed).map fun
      | (crew, none) => { r with crew }
      | (crew, some t) => { r with crew, jobs := Table.put r.jobs k (.taken t) }

/-- The end of a rehearsal goes on: all members are waited for, then what is left is disposed of. -/
def stepCloser (r : Rehearsal) : Option Rehearsal :=
  match r.ending with
  | .joining (h :: hands) =>
    if r.crew.hasLeft h then some { r with ending := .joining hands } else none
  | .joining [] => some { r with ending := .draining 0 }
  | .draining n =>
    match r.crew.collect with
    | some (t, crew) => some { { r with crew }.tell "discard" t with ending := .draining (n + 1) }
    | none => some { r with ending := .over }
  | .over => none

def step (r : Rehearsal) : Rehearsing → Option Rehearsal
  | .worker k => r.stepWorker k
  | .ticker j => (r.crew.tick r.env j .maintain).map fun (env, crew) => { r with env, crew }
  | .closer => r.stepCloser

def timers (r : Rehearsal) : Rehearsing → List Timer
  | .worker k =>
    match Table.get? r.jobs k with
    | some (.underWay _ done) => [done]
    | _ => []
  | .ticker j => (r.crew.tickers[j]?.map Ticker.timers).getD []
  | .closer => []

def machine : Machine Rehearsal Rehearsing where
  parties r := (List.range r.crew.workers.length).map .worker ++
    (List.range r.crew.tickers.length).map .ticker
  step := step
  timers := timers
  now r := r.env.now
  setNow r t := { r with env := { r.env with now := t } }

/-! ## What its owner does -/

def hire (r : Rehearsal) (workers : Nat) (period : Duration) : Rehearsal :=
  let (env, crew) := Crew.hire r.env r.crew workers period
  { r with env, crew }

/-- Hands a task to the crew, which may give it back. -/
def dispatch (r : Rehearsal) (t : Task Nat) : Rehearsal × Option (Task Nat) :=
  let (crew, back) := r.crew.dispatch t
  ({ r with crew }, back)

def stop (r : Rehearsal) : Rehearsal := { r with crew := r.crew.stop }

/-- There is nobody left for whom the crew works. -/
def dismiss (r : Rehearsal) : Rehearsal := { r with employed := false }

def beginEnd (r : Rehearsal) : Rehearsal :=
  let (crew, hands) := r.crew.stop.releaseHands
  { r with crew, ending := .joining hands }

/-- The rehearsal after what was reported has been read. -/
def clearReport (r : Rehearsal) : Rehearsal := { r with report := [] }

/-- Ends a rehearsal and waits for that. -/
def shutDown (r : Run Rehearsal Rehearsing) : Run Rehearsal Rehearsing :=
  machine.await .closer (fun r => r.ending = .over) Machine.patience
    { r with state := r.state.beginEnd }

end Rehearsal

end SessionPool
