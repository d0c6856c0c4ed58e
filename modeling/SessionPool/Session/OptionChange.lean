import SessionPool.Session.ConnectionString

/-!
# Changes of connect options
-/

set_option autoImplicit false

namespace SessionPool

inductive OptionChange
  /-- Start again from the options that hold if nothing is set. -/
  | reset
  /-- Take the options of a connection string instead. -/
  | parse (text : String)
  | host (host : String) (port : Nat)
  | addHost (host : String) (port : Nat)
  | clearHosts
  | database (name : String)
  | credentials (user password : String)
  | applicationName (name : String)
  | connectTimeout (d : Duration)
  | autocommit (on : Bool)
  | hostOrder (order : HostOrder)
  | extra (key value : String)
deriving DecidableEq, Repr

namespace ConnectOptions

/-- The options after a change. Only a connection string can be wrong. -/
def change (o : ConnectOptions) : OptionChange → Except SessionError ConnectOptions
  | .reset => .ok {}
  | .parse text => ConnectionString.parse text
  | .host host port => .ok (o.withHost host port)
  | .addHost host port => .ok (o.addHost host port)
  | .clearHosts => .ok { o with endpoints := [] }
  | .database name => .ok { o with database := some name }
  | .credentials user password => .ok (o.withCredentials user password)
  | .applicationName name => .ok { o with applicationName := name }
  | .connectTimeout d => .ok { o with connectTimeout := d }
  | .autocommit on => .ok { o with autocommit := on }
  | .hostOrder order => .ok { o with hostOrder := order }
  | .extra key value => .ok (o.withExtra key value)

/-- The options after several changes, up to the first that is wrong. -/
def changeAll (o : ConnectOptions) (changes : List OptionChange) :
    Except SessionError ConnectOptions :=
  changes.foldlM change o

end ConnectOptions

end SessionPool
