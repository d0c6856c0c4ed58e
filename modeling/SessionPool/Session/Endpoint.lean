/-!
# Endpoints

The address of one candidate server, and the report on an attempt to reach it that failed.
-/

set_option autoImplicit false

namespace SessionPool

structure Endpoint where
  host : String
  port : Nat
deriving DecidableEq, Repr, Inhabited

def Endpoint.text (e : Endpoint) : String := e.host ++ ":" ++ toString e.port

/-- An endpoint that could not be reached, and why. -/
structure HostFailure where
  endpoint : Endpoint
  reason : String
deriving DecidableEq, Repr, Inhabited

def HostFailure.text (f : HostFailure) : String :=
  "host: '" ++ f.endpoint.host ++ "', port: '" ++ toString f.endpoint.port ++ "': " ++ f.reason

end SessionPool
