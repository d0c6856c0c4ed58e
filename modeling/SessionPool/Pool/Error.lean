import SessionPool.Session.Error
import SessionPool.Time.Text

/-!
# What a pool answers instead of a session

The causes for which a request to a pool fails, their wording, and whether trying again later may
help.
-/

set_option autoImplicit false

namespace SessionPool

/-- Why a request to a pool failed. -/
inductive PoolError
  | config (message : String)
  /-- No session became available within the time. -/
  | timeout (timeout : Duration)
  | tooManyRequests (limit : Nat)
  | closed
  | connect (error : SessionError)
  /-- The session belongs to another pool. -/
  | wrongPool
deriving DecidableEq, Repr, Inhabited

namespace PoolError

def message : PoolError → String
  | config text => "pool configuration error: " ++ text
  | timeout t => "couldn't get a connection after " ++ t.roundedText ++ " sec"
  | tooManyRequests limit => "the pool has already " ++ toString limit ++ " requests waiting"
  | closed => "the pool is closed"
  | connect e => e.message
  | wrongPool => "can't return connection to pool: it belongs to a different pool"

/-- Whether the same request may succeed later. -/
def isTransient : PoolError → Bool
  | timeout _ | tooManyRequests _ | connect _ => true
  | _ => false

end PoolError

end SessionPool
