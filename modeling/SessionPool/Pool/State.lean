import SessionPool.Crew.Basic
import SessionPool.Crew.Task
import SessionPool.Pool.Hooks
import SessionPool.Pool.Member
import SessionPool.Pool.Settings
import SessionPool.Pool.Statistics
import SessionPool.Pool.WaitQueue
import SessionPool.Session.Options

/-!
# The state of a pool

The books of a pool and the crew that works for it. `size` counts every session that the pool is
responsible for, those that are being opened (`opening`) and those that were handed out included;
in use are the sessions that are neither being opened nor idle. The functions on a pool are what
one party does to it at one moment, while nobody else looks at it.
-/

set_option autoImplicit false

namespace SessionPool

structure Pool where
  name : String
  settings : PoolSettings := {}
  options : ConnectOptions := {}
  hooks : Hooks := {}
  since : Instant := .origin
  /-- The unused sessions; the first is handed out next. -/
  idle : List Member := []
  waiting : WaitQueue Member := {}
  /-- How many sessions the pool is responsible for. -/
  size : Nat := 0
  /-- How many of them are being opened. -/
  opening : Nat := 0
  minSize : Nat
  maxSize : Option Nat
  closed : Bool := false
  counters : Counters := {}
  crew : Crew (Task Member) := {}
  /-- Whether the pool has been found filled to `minSize`; a null pool is filled once a session
  was opened. -/
  filled : Bool := false
  /-- The number of the next member. -/
  nextId : Nat := 1
  hookCalls : HookCalls := {}
  /-- The members that are about to be closed without anybody waiting for it. -/
  leaving : List Member := []
  /-- Whether a number in the books was ever to fall below zero. -/
  overdrawn : Bool := false

namespace Pool

def isNull (p : Pool) : Bool := p.settings.kind = .null

def isFull (p : Pool) : Bool := p.maxSize.any fun limit => limit ≤ p.size

def isOverfull (p : Pool) : Bool := p.maxSize.any fun limit => limit < p.size

def live (p : Pool) : Nat := p.size - p.opening

def inUse (p : Pool) : Nat := p.size - p.opening - p.idle.length

def occupancy (p : Pool) : Occupancy where
  available := p.idle.length
  inUse := p.inUse
  total := p.size
  max := p.maxSize
  waiting := p.waiting.length

def stats (p : Pool) (now : Instant) : PoolStats where
  poolMin := p.minSize
  poolMax := p.maxSize
  poolSize := p.size
  poolAvailable := p.idle.length
  requestsWaiting := p.waiting.length
  counters := p.counters
  uptime := now.since p.since

def resetCounters (p : Pool) : Pool := { p with counters := {} }

def shown (p : Pool) : String :=
  Text.shownRecord "Pool"
    [("name", Text.quoted p.name), ("kind", p.settings.kind.shown),
      ("status", p.occupancy.shown)]

/-- A record for the log, with the name of the pool. -/
def record (p : Pool) (level : Level) (message : String) (fields : List (String × String)) :
    LogRecord :=
  .of level message (("pool", p.name) :: fields)

def recordOn (p : Pool) (m : Member) (level : Level) (message : String)
    (fields : List (String × String)) : LogRecord :=
  p.record level message (("connection_id", toString m.id) :: fields)

def count (p : Pool) (f : Counters → Counters) : Pool := { p with counters := f p.counters }

/-! ## Room -/

/-- Makes room in the books for a session that is going to be opened. -/
def reserve (p : Pool) : Pool := { p with size := p.size + 1, opening := p.opening + 1 }

/-- Gives up the room of a session that was going to be opened. -/
def unreserve (p : Pool) : Pool :=
  { p with
    size := p.size - 1
    opening := p.opening - 1
    overdrawn := p.overdrawn || p.size = 0 || p.opening = 0 }

/-- The room of a session that was going to be opened is that of an open session from now on. -/
def furnish (p : Pool) : Pool :=
  { p with opening := p.opening - 1, overdrawn := p.overdrawn || p.opening = 0 }

/-- The pool is no longer responsible for a number of sessions. -/
def drop (p : Pool) (n : Nat) : Pool :=
  { p with size := p.size - n, overdrawn := p.overdrawn || p.size < n }

/-- Counts the open sessions: not more can be on their way than the pool is responsible for. -/
def countLive (p : Pool) : Pool × Nat :=
  ({ p with overdrawn := p.overdrawn || p.size < p.opening }, p.live)

/-- Has a session opened in the background, perhaps on behalf of a request, which fails if nobody
is there to do it. Says whether somebody is. -/
def dispatchAdd (p : Pool) (waiter : Option Nat) : Pool × Bool :=
  match p.crew.dispatch (.add waiter) with
  | (crew, none) => ({ p.reserve with crew }, true)
  | (_, some _) =>
    match waiter with
    | some ticket => ({ p with waiting := (p.waiting.fail ticket .closed).1 }, false)
    | none => (p, false)

/-- A session that is opened in the background is counted, and nobody who waits is touched. -/
theorem dispatchAdd_of_true {p q : Pool} {waiter : Option Nat}
    (h : p.dispatchAdd waiter = (q, true)) :
    q = { p.reserve with crew := { p.crew with tasks := p.crew.tasks ++ [.add waiter] } } := by
  unfold dispatchAdd at h
  split at h
  · rename_i crew hc
    unfold Crew.dispatch Crew.send at hc
    split at hc
    · simp at hc
    · simp only [Prod.mk.injEq, and_true] at h hc
      rw [← h, ← hc]
  · split at h <;> simp at h

/-- Whether a further session should be opened: the pool is below `minSize` or more requests wait
than sessions are being opened, and there is room. -/
def wantsMore (p : Pool) : Bool :=
  (p.size < p.minSize || p.opening < p.waiting.length) && !p.isFull

/-- Has sessions opened as long as more are wanted and somebody is there to do it. -/
def addWanted (p : Pool) : Pool :=
  if p.wantsMore then
    match _h : p.dispatchAdd none with
    | (q, true) => addWanted q
    | (q, false) => q
  else p
termination_by (p.minSize - p.size) + (p.waiting.length - p.opening)
decreasing_by
  rename_i hw
  simp only [wantsMore, Bool.and_eq_true, Bool.or_eq_true, decide_eq_true_eq] at hw
  simp only [dispatchAdd_of_true _h, reserve]
  omega

/-- Has sessions opened until `minSize` is reached and every waiting request has one on its way,
as far as there is room. A pool that is closed or has nobody to do it stays as it is. -/
def topUp (p : Pool) : Pool := if p.closed || p.crew.stopped then p else p.addWanted

/-! ## Closing sessions -/

/-- Has a member closed that the pool is no longer responsible for: by the crew, or on its own if
the crew was stopped. -/
def dispatchClose (p : Pool) (m : Member) : Pool :=
  match p.crew.dispatch (.close m) with
  | (crew, none) => { p with crew }
  | (_, some _) => { p with leaving := p.leaving ++ [m] }

def discard (p : Pool) (m : Member) : Pool := (p.drop 1).dispatchClose m

def discardAll (p : Pool) (ms : List Member) : Pool := ms.foldl discard p

def noteFilled (p : Pool) : Pool :=
  if p.isNull then { p with filled := true }
  else
    let (p, live) := p.countLive
    if p.minSize ≤ live then { p with filled := true } else p

end Pool

end SessionPool
