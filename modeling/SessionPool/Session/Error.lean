import SessionPool.Adapter.Kind
import SessionPool.Session.Endpoint
import SessionPool.Session.Status

/-!
# What goes wrong with a session

The causes for which a session cannot be opened or used, their wording, the family under which
each is logged, and whether the session is lost with it.
-/

set_option autoImplicit false

namespace SessionPool

/-- Why an operation on a session, or the attempt to open one, failed. -/
inductive SessionError
  /-- None of the candidate hosts could be reached. -/
  | connect (failures : List HostFailure)
  | connectTimeout
  | transport (text : String)
  | closed
  | lost
  | server (code : Option String) (message : String)
  /-- A hook left the session in a state in which it cannot be used. -/
  | badState (status : Status) (hook : String)
  | config (message : String)
  /-- There is no way to write a kind of value in the format asked for. -/
  | adapt (kind : Adapter.Kind) (wanted : Adapter.Wanted)
  | unknownType (name : String)
  /-- The data cannot be read as a value. -/
  | load (message : String)
deriving DecidableEq, Repr, Inhabited

namespace SessionError

def refused (message : String) : SessionError := .server none message

/-- All failures in one text: a single one on the same line, several on lines of their own. -/
def failuresText : List HostFailure → String
  | [] => "connection failed: no host to connect to"
  | [f] => "connection failed: " ++ f.text
  | fs => "connection failed:" ++ String.join (fs.map fun f => "\n- " ++ f.text)

def message : SessionError → String
  | connect failures => failuresText failures
  | connectTimeout => "connection timeout expired"
  | transport text => "IO error: " ++ text
  | closed => "the connection is closed"
  | lost => "server closed the connection unexpectedly"
  | server _ text => "server error: " ++ text
  | badState status hook => "connection left in status " ++ status.name ++ " by " ++ hook
  | config text => "configuration error: " ++ text
  | adapt kind wanted => "cannot adapt type " ++ kind.name ++ " to format " ++ wanted.name
  | unknownType name => "unknown type name: " ++ name
  | load text => "cannot load value: " ++ text

/-- The family of an error, as the log names it. -/
def family : SessionError → String
  | connect _ | connectTimeout | transport _ | lost => "OperationalError"
  | closed => "InterfaceError"
  | server _ _ => "ProgrammingError"
  | badState _ _ => "BadStateError"
  | config _ => "ConfigError"
  | adapt _ _ | unknownType _ | load _ => "DataError"

/-- Whether the session cannot be used any more after the error. -/
def losesSession : SessionError → Bool
  | connect _ | connectTimeout | transport _ | closed | lost => true
  | _ => false

end SessionError

end SessionPool
