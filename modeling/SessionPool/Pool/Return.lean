import SessionPool.Pool.Service

/-!
# Sessions that come back

What is entered when a session comes back and when it turned out whether it is fit for use again.
-/

set_option autoImplicit false

namespace SessionPool

/-- What a session that came back turned out to be. -/
inductive Fitness
  | fit
  | unfit
  /-- Lost, and therefore unfit. -/
  | lost
deriving DecidableEq, Repr

namespace Pool

/-- The script for resetting a session, which counts as a call of the hook. -/
def resetCall (p : Pool) : Pool × List Action :=
  ({ p with hookCalls := { p.hookCalls with reset := p.hookCalls.reset + 1 } },
    p.hooks.reset p.hookCalls.reset)

/-- Counts the time for which somebody had a member. -/
def countUse (p : Pool) (m : Member) (now : Instant) : Pool :=
  match m.notes.takenAt with
  | some t => p.count fun c => { c with usageMs := c.usageMs + (now.since t).wholeMillis }
  | none => p

def countLost (p : Pool) : Pool :=
  p.count fun c => { c with connectionsLost := c.connectionsLost + 1 }

/-- A member comes back. It is to be reset, unless the pool is closed or keeps nothing and nobody
waits: then the pool gives it up, and it is to be closed. -/
def receive (p : Pool) (server : Server) (m : Member) (now : Instant) : Pool × Member × Bool :=
  let p := p.countUse m now
  let m := { m with notes := { m.notes with takenAt := none } }
  if p.closed then (p.drop 1, m, false)
  else if p.isNull && p.waiting.isEmpty then
    let p := if m.session.isBroken server then p.countLost else p
    (p.drop 1, m, false)
  else (p, m.inStage .resetting, true)

def countUnfit (p : Pool) : Pool :=
  p.count fun c => { c with returnsBad := c.returnsBad + 1 }

/-- Whether a fit member must not be used again, and how the log puts it. -/
def rejects? (p : Pool) (m : Member) (now : Instant) : Option String :=
  if m.isExpired now then some "discarding expired connection"
  else if p.isOverfull then some "closing connection above max_size"
  else none

def touch (m : Member) (now : Instant) : Member :=
  { m with notes := { m.notes with lastUsed := now } }

/-- Enters what a member that came back turned out to be: fit ones are used again unless they have
expired or are too many, others are closed and replaced. -/
def settle (p : Pool) (m : Member) (now : Instant) : Fitness → Pool
  | .fit =>
    let m := touch m now
    if m.isExpired now then (p.discard m).topUp
    else if p.isOverfull then p.discard m
    else p.deliver m now
  | .unfit => (p.countUnfit.discard (m.inStage .broken)).topUp
  | .lost => (p.countLost.countUnfit.discard (m.inStage .broken)).topUp

/-- A member is given back without waiting for it to be reset. -/
def returnLater (p : Pool) (m : Member) : Pool :=
  match p.crew.dispatch (.restore m) with
  | (crew, none) => { p with crew }
  | (_, some _) => { p.drop 1 with leaving := p.leaving ++ [m] }

/-- A member leaves the pool for good, and another is opened in its place if need be. -/
def forget (p : Pool) : Pool := (p.drop 1).topUp

/-- A member whose reset or probe was broken off: it is closed and replaced. -/
def breakOff (p : Pool) (m : Member) : Pool :=
  let p := (p.drop 1).topUp
  { p with leaving := p.leaving ++ [m] }

end Pool

end SessionPool
