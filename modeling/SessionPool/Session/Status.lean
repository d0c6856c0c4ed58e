/-!
# Transaction status of a session

What a session reports about its transaction. The upper-case names are part of the log's wording.
-/

set_option autoImplicit false

namespace SessionPool

/-- The transaction status of a session. -/
inductive Status
  | idle
  | active
  | inTransaction
  /-- A transaction is open in which a statement failed. -/
  | inError
  /-- The session is gone, or its state is not known. -/
  | unknown
deriving DecidableEq, Repr, Inhabited

def Status.name : Status → String
  | .idle => "IDLE"
  | .active => "ACTIVE"
  | .inTransaction => "INTRANS"
  | .inError => "INERROR"
  | .unknown => "UNKNOWN"

def Status.hasTransaction : Status → Bool
  | .inTransaction | .inError => true
  | _ => false

end SessionPool
