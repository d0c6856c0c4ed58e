import SessionPool.Env
import SessionPool.Text.Quoted
import SessionPool.Time.Text

/-!
# A crew and its tasks

A crew of workers takes tasks from one queue, first come first served. Only the worker whose turn
it is may take a task; the others wait in line, and the turn passes on as soon as a task is taken.
Tickers add tasks in regular intervals. A crew that was stopped accepts no task any more, and each
of its members leaves at its next step; what is left in the queue is collected by whoever stopped
it.
-/

set_option autoImplicit false

namespace SessionPool

/-- What a worker is doing. -/
inductive Duty
  /-- It is about to get in line. -/
  | looking
  | inLine
  /-- It has the turn and waits for a task. -/
  | taking
  | busy
  | gone
deriving DecidableEq, Repr, Inhabited

/-- A ticker: the first time and the timer after it, or nothing more to come. -/
inductive Ticker
  | unset (first : Instant) (period : Duration)
  | set (timer : Timer) (period : Duration)
  | gone
deriving DecidableEq, Repr, Inhabited

def Ticker.timers : Ticker → List Timer
  | .set timer _ => [timer]
  | .unset _ _ | .gone => []

inductive Hand
  | worker (number : Nat)
  | ticker (number : Nat)
deriving DecidableEq, Repr

/-- A queue of tasks and those who work on it. -/
structure Crew (τ : Type) where
  /-- The tasks that were accepted and not taken, the oldest first. -/
  tasks : List τ := []
  stopped : Bool := false
  workers : List Duty := []
  turn : Option Nat := none
  /-- The workers that wait for their turn, first come first served. -/
  line : List Nat := []
  tickers : List Ticker := []
  /-- The members that whoever stops the crew still has to wait for. -/
  hands : List Hand := []
deriving DecidableEq, Repr

namespace Crew

variable {τ : Type}

def shown (c : Crew τ) : String :=
  Text.shownRecord "Scheduler"
    [("workers", toString c.hands.length), ("stopped", toString c.stopped)]

/-- Puts a task into the queue, whether the crew was stopped or not. -/
def send (c : Crew τ) (t : τ) : Crew τ := { c with tasks := c.tasks ++ [t] }

/-- Sends a task, or gives it back if the crew was stopped. Nobody comes between the look at the
crew and the sending; where somebody may, the two are taken apart. -/
def dispatch (c : Crew τ) (t : τ) : Crew τ × Option τ :=
  if c.stopped then (c, some t) else (c.send t, none)

def stop (c : Crew τ) : Crew τ := { c with stopped := true }

/-- The crew as somebody sees it who has looked before it was stopped. -/
def unstopped (c : Crew τ) : Crew τ := { c with stopped := false }

/-! ## Hiring -/

def hireWorkers (c : Crew τ) (n : Nat) : Crew τ :=
  { c with
    workers := c.workers ++ List.replicate n .looking
    hands := c.hands ++ (List.range n).map fun i => .worker (c.workers.length + i) }

/-- Hires a ticker for tasks in regular intervals, the first after one of them. -/
def hireTicker (c : Crew τ) (first : Instant) (period : Duration) : Crew τ :=
  { c with
    tickers := c.tickers ++ [.unset first period]
    hands := c.hands ++ [.ticker c.tickers.length] }

/-- Hires workers, and a ticker if the clock can hold its first time. -/
def hire (env : Env) (c : Crew τ) (workers : Nat) (period : Duration) : Env × Crew τ :=
  let c := c.hireWorkers workers
  match env.now.add? period with
  | some first => (env, c.hireTicker first period)
  | none =>
    (env.note .debug "maintenance interval out of range, not ticking"
      [("maintenance_interval", period.shown)], c)

/-! ## Workers -/

def assign (c : Crew τ) (k : Nat) (d : Duty) : Crew τ := { c with workers := c.workers.set k d }

/-- The turn goes to the first in line. -/
def passTurn (c : Crew τ) : Crew τ := { c with turn := c.line.head?, line := c.line.tail }

def leave (c : Crew τ) (k : Nat) : Crew τ :=
  let c := { c.assign k .gone with line := c.line.filter fun j => !decide (j = k) }
  if c.turn = some k then c.passTurn else c

/-- The worker whose turn it is takes a task if there is one. Without an employer nobody works:
the task is lost and the worker leaves. -/
def take (c : Crew τ) (k : Nat) (employed : Bool) : Crew τ × Option τ :=
  match c.tasks with
  | [] => (c.assign k .taking, none)
  | t :: rest =>
    let c := { c with tasks := rest }.passTurn
    if employed then (c.assign k .busy, some t) else (c.leave k, none)

/-- The next step of a worker that is not busy, with the task that it takes in it. There is none
if the worker has to wait or has left. -/
def seek (c : Crew τ) (k : Nat) (employed : Bool) : Option (Crew τ × Option τ) :=
  match c.workers[k]? with
  | some .looking =>
    if c.stopped then some (c.leave k, none)
    else if c.turn.isNone then some ({ c with turn := some k }.take k employed)
    else some ({ c.assign k .inLine with line := c.line ++ [k] }, none)
  | some .inLine =>
    if c.stopped then some (c.leave k, none)
    else if c.turn = some k then some (c.take k employed)
    else none
  | some .taking =>
    if c.stopped then some (c.leave k, none)
    else if c.tasks.isEmpty then none
    else some (c.take k employed)
  | some .busy | some .gone | none => none

def finish (c : Crew τ) (k : Nat) : Crew τ := c.assign k .looking

/-! ## Tickers -/

/-- How late a ticker may be and still keep to its rhythm. -/
def tickerSlack : Duration := .ofMillis 5

/-- When a ticker that was due at `due` and goes off `now` goes off next: a period after it was
due, or after now if it is late. -/
def nextTick (due now : Instant) (period : Duration) : Instant :=
  if due.nanos + tickerSlack.nanos < now.nanos then now.after period else due.after period

/-- The next step of a ticker; there is none if it has to wait or has left. -/
def tick (env : Env) (c : Crew τ) (j : Nat) (task : τ) : Option (Env × Crew τ) :=
  let change := fun t => { c with tickers := c.tickers.set j t }
  match c.tickers[j]? with
  | some (.unset first period) =>
    if c.stopped then some (env, change .gone)
    else
      let (timer, env) := env.setTimer first
      some (env, change (.set timer period))
  | some (.set timer period) =>
    if c.stopped then some (env, change .gone)
    else if timer.isDue env.now then
      let (timer', env) := env.setTimer (nextTick timer.due env.now period)
      some (env, (change (.set timer' period)).send task)
    else none
  | some .gone | none => none

/-! ## The end -/

def hasLeft (c : Crew τ) : Hand → Bool
  | .worker k => c.workers[k]?.all fun d => d = .gone
  | .ticker j => c.tickers[j]?.all fun t => t = .gone

/-- Takes over the list of the members to wait for. -/
def releaseHands (c : Crew τ) : Crew τ × List Hand := ({ c with hands := [] }, c.hands)

/-- Collects the oldest task that nobody took. -/
def collect (c : Crew τ) : Option (τ × Crew τ) :=
  match c.tasks with
  | [] => none
  | t :: rest => some (t, { c with tasks := rest })

end Crew

end SessionPool
