import SessionPool.Time

/-!
# Running parties in order

A machine has parties that make steps on one state. The executor lets them run one after the
other: a party that can make a step joins the end of a queue, the first of the queue runs until it
has to wait, and the clock moves only when nobody can run. Timers that are due at the same time go
off in the order in which they were set.

One more party may be in front: it is tried before the queue whenever the clock has moved, and
again whenever the queue is empty.
-/

set_option autoImplicit false

namespace SessionPool

/-- Parties that make steps on a state. -/
structure Machine (σ π : Type) where
  /-- The parties that the executor runs. -/
  parties : σ → List π
  step : σ → π → Option σ
  timers : σ → π → List Timer
  now : σ → Instant
  setNow : σ → Instant → σ

/-- A state and the queue of the parties that are about to run. -/
structure Run (σ π : Type) where
  state : σ
  ready : List π := []

namespace Machine

variable {σ π : Type} [DecidableEq π]

/-- How many steps, turns or moves of the clock are made at most in one go. -/
def patience : Nat := 4000000

def canStep (m : Machine σ π) (s : σ) (x : π) : Bool := (m.step s x).isSome

/-- The parties that can make a step and are not in the queue join it; the one that is running
does not. -/
def enroll (m : Machine σ π) (running : Option π) (r : Run σ π) : Run σ π :=
  let joining := (m.parties r.state).filter fun x =>
    some x != running && !r.ready.contains x && m.canStep r.state x
  if joining.isEmpty then r else { r with ready := r.ready ++ joining }

/-- Lets a party run until it has to wait. -/
def turn (m : Machine σ π) (x : π) : Nat → Run σ π → Run σ π
  | 0, r => r
  | n + 1, r =>
    match m.step r.state x with
    | some s => turn m x n (m.enroll (some x) { r with state := s })
    | none => r

def drain (m : Machine σ π) : Nat → Run σ π → Run σ π
  | 0, r => r
  | n + 1, r =>
    match r.ready with
    | [] => r
    | x :: rest => drain m n (m.turn x patience { r with ready := rest })

def settle (m : Machine σ π) (r : Run σ π) : Run σ π :=
  m.drain patience (m.enroll none r)

/-! ## The clock -/

/-- The timers of all parties, with the parties. -/
def pending (m : Machine σ π) (s : σ) (parties : List π) : List (Timer × π) :=
  parties.flatMap fun x => (m.timers s x).map fun t => (t, x)

/-- The earliest time after `now` at which one of the timers goes off. -/
def nextTick (now : Instant) (timers : List Timer) : Option Nat :=
  (timers.map (·.due.tick)).filter (now.tick < ·) |>.min?

/-- Moves the clock; the parties whose timers are due then join the queue in the order in which
the timers were set. -/
def moveClock (m : Machine σ π) (r : Run σ π) (tick : Nat) : Run σ π :=
  let now := Instant.ofTick tick
  let before := m.now r.state
  let due := (m.pending r.state (m.parties r.state)).filter fun p =>
    p.1.isDue now && !p.1.isDue before
  let woken := (due.mergeSort fun a b => a.1.number ≤ b.1.number).map (·.2)
  let state := m.setNow r.state now
  let joining := woken.eraseDups.filter fun x => !r.ready.contains x && m.canStep state x
  m.enroll none { state, ready := r.ready ++ joining }

/-- Runs until the clock shows `target`; what is due then has not run yet. -/
def sleepUntil (m : Machine σ π) (target : Nat) : Nat → Run σ π → Run σ π
  | 0, r => r
  | n + 1, r =>
    if target ≤ (m.now r.state).tick then r
    else
      let r := m.settle r
      let timers := (m.pending r.state (m.parties r.state)).map (·.1)
      let tick := match nextTick (m.now r.state) timers with
        | some t => min t target
        | none => target
      sleepUntil m target n (m.moveClock r tick)

def sleep (m : Machine σ π) (d : Duration) (r : Run σ π) : Run σ π :=
  m.sleepUntil ((m.now r.state).after d).tick patience r

/-- Lets the party in front run until `finished` holds, and the others while it waits. If nothing
more can happen, it gives up. -/
def await (m : Machine σ π) (front : π) (finished : σ → Bool) : Nat → Run σ π → Run σ π
  | 0, r => r
  | n + 1, r =>
    let r := m.turn front patience r
    if finished r.state then r
    else
      let r := m.enroll none r
      if !r.ready.isEmpty then await m front finished n (m.drain patience r)
      else
        let timers := (m.pending r.state (front :: m.parties r.state)).map (·.1)
        match nextTick (m.now r.state) timers with
        | some tick => await m front finished n (m.moveClock r tick)
        | none => r

end Machine

end SessionPool
