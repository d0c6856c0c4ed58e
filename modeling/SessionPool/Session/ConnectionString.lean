import SessionPool.Session.Error
import SessionPool.Session.Options
import SessionPool.Text.Blank
import SessionPool.Text.Case
import SessionPool.Text.Numeral

/-!
# Connection strings

Connect options in one line of text: segments between semicolons, each a key and a value around
its first equals sign, with blanks around both ignored. Keys are known in several spellings and in
upper and lower case; a key that is not known is a setting for the server. The host key lists
endpoints between commas, each with a port after its last colon or without one; those without take
the default port, wherever the string sets it.
-/

set_option autoImplicit false

namespace SessionPool.ConnectionString

/-- What a key sets. -/
inductive Setting
  | hosts
  | port
  | database
  | user
  | password
  | applicationName
  | connectTimeout
  | autocommit
  | hostOrder
  | extra (key : String)
deriving DecidableEq, Repr

def Setting.ofKey : String → Setting
  | "host" | "server" | "data source" => .hosts
  | "port" => .port
  | "database" | "dbname" | "initial catalog" => .database
  | "user" | "user id" | "uid" => .user
  | "password" | "pwd" => .password
  | "application name" | "application_name" | "app" => .applicationName
  | "connect timeout" | "connect_timeout" => .connectTimeout
  | "autocommit" => .autocommit
  | "load balance hosts" | "load_balance_hosts" => .hostOrder
  | key => .extra key

/-- A host of the list, with its port if it names one. -/
abbrev ListedHost := String × Option Nat

structure Draft where
  options : ConnectOptions := {}
  hosts : Option (List ListedHost) := none
  port : Nat := defaultPort
  /-- The keys that were taken as settings for the server, in order. -/
  extraKeys : List String := []

def maxPort : Nat := 65535

/-- The largest number of seconds of a timeout. -/
def maxSeconds : Nat := 18446744073709551615

def readPort (cs : List Char) : Except String Nat :=
  match Text.readNat? maxPort cs with
  | some n => .ok n
  | none => .error ("invalid port: " ++ String.ofList cs)

/-- Reads one item of the list of hosts; `value` is the whole list, for the message. -/
def readHost (value item : List Char) : Except String ListedHost :=
  let item := Text.trimmed item
  if item.isEmpty then .error ("empty host in: " ++ String.ofList value)
  else match Text.cutLast? ':' item with
    | some (host, port) => (readPort port).map fun n => (String.ofList host, some n)
    | none => .ok (String.ofList item, none)

def readHosts (value : List Char) : Except String (List ListedHost) :=
  (Text.pieces ',' value).mapM (readHost value)

def readTimeout (cs : List Char) : Except String Duration :=
  match Text.readNat? maxSeconds cs with
  | some n => .ok (.ofSecs n)
  | none => .error ("invalid timeout: " ++ String.ofList cs)

/-- The words for yes; every other word means no. -/
def readBool (cs : List Char) : Bool :=
  let word := String.ofList (Text.lowerAscii cs)
  word == "true" || word == "yes" || word == "on" || cs == ['1']

/-- Reads the order in which hosts are tried. -/
def readHostOrder (cs : List Char) : Except String HostOrder :=
  match String.ofList (Text.lower cs) with
  | "disable" => .ok .asListed
  | "random" => .ok .shuffled
  | other => .error ("invalid load_balance_hosts: " ++ other)

namespace Draft

/-- Enters a value that was read for a setting. -/
def enter (d : Draft) (value : List Char) : Setting → Except String Draft
  | .hosts => (readHosts value).map fun hosts => { d with hosts := some hosts }
  | .port => (readPort value).map fun n => { d with port := n }
  | .database => .ok { d with options := { d.options with database := String.ofList value } }
  | .user => .ok { d with options := { d.options with user := String.ofList value } }
  | .password => .ok { d with options := { d.options with password := String.ofList value } }
  | .applicationName =>
    .ok { d with options := { d.options with applicationName := String.ofList value } }
  | .connectTimeout =>
    (readTimeout value).map fun t => { d with options := { d.options with connectTimeout := t } }
  | .autocommit => .ok { d with options := { d.options with autocommit := readBool value } }
  | .hostOrder =>
    (readHostOrder value).map fun o => { d with options := { d.options with hostOrder := o } }
  | .extra key =>
    .ok { d with
      options := d.options.withExtra key (String.ofList value)
      extraKeys := d.extraKeys ++ [key] }

/-- The setting and the value of a trimmed segment that is not empty. -/
def split? (segment : List Char) : Option (Setting × List Char) :=
  (Text.cut? '=' segment).map fun p =>
    (Setting.ofKey (String.ofList (Text.lower (Text.trimmed p.1))), Text.trimmed p.2)

/-- Reads one segment; a blank one says nothing. -/
def read (d : Draft) (segment : List Char) : Except String Draft :=
  let segment := Text.trimmed segment
  if segment.isEmpty then .ok d
  else match split? segment with
    | some (setting, value) => d.enter value setting
    | none => .error ("invalid key-value: " ++ String.ofList segment)

/-- Reads segments up to the first that cannot be read; gives what was read, and what is wrong
with that segment. -/
def readAll (d : Draft) : List (List Char) → Draft × Option String
  | [] => (d, none)
  | segment :: rest =>
    match d.read segment with
    | .ok d' => d'.readAll rest
    | .error message => (d, some message)

/-- The options of a finished draft: hosts without a port take the default port, which without a
list of hosts goes to the local host. -/
def finish (d : Draft) : ConnectOptions :=
  match d.hosts with
  | some hosts =>
    { d.options with endpoints := hosts.map fun h => ⟨h.1, h.2.getD d.port⟩ }
  | none =>
    { d.options with endpoints := d.options.endpoints.map fun e => { e with port := d.port } }

end Draft

def segments (s : String) : List (List Char) := Text.pieces ';' s.toList

def parse (s : String) : Except SessionError ConnectOptions :=
  match Draft.readAll {} (segments s) with
  | (d, none) => .ok d.finish
  | (_, some message) => .error (.config message)

/-- The keys that reading a connection string takes as settings for the server, in order, up to
the segment that cannot be read. -/
def extraKeys (s : String) : List String := (Draft.readAll {} (segments s)).1.extraKeys

end SessionPool.ConnectionString
