import SessionPool.Session.Session
import SessionPool.Text.Quoted
import SessionPool.Time

/-!
# Members of a pool

A member is a session together with what the pool has written down about it.
-/

set_option autoImplicit false

namespace SessionPool

/-- Where a member is in its life. -/
inductive Stage
  | connecting
  | idle
  | inUse
  | resetting
  | broken
  | closed
deriving DecidableEq, Repr, Inhabited

def Stage.shown : Stage → String
  | .connecting => "Connecting"
  | .idle => "Idle"
  | .inUse => "InUse"
  | .resetting => "Resetting"
  | .broken => "Broken"
  | .closed => "Closed"

/-- What a pool has written down about a session. -/
structure Notes where
  id : Nat
  pid : Pid
  createdAt : Instant
  /-- From when on the member must be replaced. -/
  expiresAt : Option Instant
  /-- When the member was last given back, or opened. -/
  lastUsed : Instant
  /-- Since when somebody has had the member. -/
  takenAt : Option Instant := none
  stage : Stage := .connecting
  checkouts : Nat := 0
deriving DecidableEq, Repr, Inhabited

namespace Notes

/-- The notes on a session opened `now`. A lifetime that the clock cannot hold never ends. -/
def start (id : Nat) (pid : Pid) (now : Instant) (lifetime : Option Duration) : Notes where
  id := id
  pid := pid
  createdAt := now
  expiresAt := lifetime.bind now.add?
  lastUsed := now

def age (n : Notes) (now : Instant) : Duration := now.since n.createdAt

def idleTime (n : Notes) (now : Instant) : Duration := now.since n.lastUsed

/-- Whether the member has to be replaced. -/
def isExpired (n : Notes) (now : Instant) : Bool := n.expiresAt.any (· ≤ now)

end Notes

/-- A session of a pool. -/
structure Member where
  session : Session
  notes : Notes
deriving DecidableEq, Repr, Inhabited

namespace Member

def id (m : Member) : Nat := m.notes.id

def isExpired (m : Member) (now : Instant) : Bool := m.notes.isExpired now

def inStage (m : Member) (stage : Stage) : Member := { m with notes := { m.notes with stage } }

def handOut (m : Member) (now : Instant) : Member :=
  { m with notes := { m.notes with
      stage := .inUse
      takenAt := some now
      checkouts := m.notes.checkouts + 1 } }

end Member

/-- What a probe of a session found. -/
inductive Health
  | healthy
  | unhealthy (reason : String)
deriving DecidableEq, Repr

namespace Health

def isHealthy : Health → Bool
  | healthy => true
  | unhealthy _ => false

def shown : Health → String
  | healthy => "Healthy"
  | unhealthy reason => "Unhealthy(" ++ Text.quoted reason ++ ")"

end Health

end SessionPool
