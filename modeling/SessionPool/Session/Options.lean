import SessionPool.Session.Endpoint
import SessionPool.Table
import SessionPool.Text.Quoted
import SessionPool.Time.Text

/-!
# Connect options

What is needed to open a session: the candidate endpoints, who connects to what, and how. Shown in
a log, the options hide the password.
-/

set_option autoImplicit false

namespace SessionPool

/-- The port of an endpoint that names none. -/
def defaultPort : Nat := 5432

/-- The order in which candidate endpoints are tried. -/
inductive HostOrder
  | asListed
  | shuffled
deriving DecidableEq, Repr, Inhabited

def HostOrder.shown : HostOrder → String
  | .asListed => "Disable"
  | .shuffled => "Random"

/-- What is needed to open a session. -/
structure ConnectOptions where
  /-- Candidate endpoints, tried until one accepts. -/
  endpoints : List Endpoint := [⟨"localhost", defaultPort⟩]
  database : Option String := none
  user : Option String := none
  password : Option String := none
  applicationName : String := "sqlconn"
  /-- The time that each endpoint is given; zero sets no limit. -/
  connectTimeout : Duration := .ofSecs 30
  autocommit : Bool := false
  hostOrder : HostOrder := .asListed
  /-- Settings that only the server knows, in the order of their keys. -/
  extras : List (String × String) := []
deriving DecidableEq, Repr, Inhabited

namespace ConnectOptions

def withHost (o : ConnectOptions) (host : String) (port : Nat) : ConnectOptions :=
  { o with endpoints := [⟨host, port⟩] }

def addHost (o : ConnectOptions) (host : String) (port : Nat) : ConnectOptions :=
  { o with endpoints := o.endpoints ++ [⟨host, port⟩] }

def withCredentials (o : ConnectOptions) (user password : String) : ConnectOptions :=
  { o with user := some user, password := some password }

def withExtra (o : ConnectOptions) (key value : String) : ConnectOptions :=
  { o with extras := Table.putSorted o.extras key value }

/-- The options as a log shows them; of a password only that there is one. -/
def shown (o : ConnectOptions) : String :=
  Text.shownRecord "Config"
    [("hosts", Text.shownList (o.endpoints.map fun e =>
        Text.shownRecord "HostAddr" [("host", Text.quoted e.host), ("port", toString e.port)])),
      ("database", Text.shownOption (o.database.map Text.quoted)),
      ("user", Text.shownOption (o.user.map Text.quoted)),
      ("password", Text.shownOption (o.password.map fun _ => Text.quoted "<redacted>")),
      ("application_name", Text.quoted o.applicationName),
      ("connect_timeout", o.connectTimeout.shown),
      ("autocommit", toString o.autocommit),
      ("load_balance_hosts", o.hostOrder.shown),
      ("options", Text.shownMap (o.extras.map fun p => (Text.quoted p.1, Text.quoted p.2)))]

end ConnectOptions

end SessionPool
