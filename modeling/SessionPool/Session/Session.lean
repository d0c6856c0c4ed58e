import SessionPool.Session.Error
import SessionPool.Session.Server
import SessionPool.Session.Statement
import SessionPool.Table
import SessionPool.Text.Numeral

/-!
# Sessions

A session as its client holds it. Statements move its transaction status; without autocommit the
first statement opens a transaction, and a statement that fails in a transaction spoils it. Once
the session is closed or lost, nothing succeeds any more.
-/

set_option autoImplicit false

namespace SessionPool

structure Session where
  pid : Pid
  status : Status := .idle
  autocommit : Bool := false
  closed : Bool := false
  /-- The next rollback fails and the session is lost with it. -/
  failNextRollback : Bool := false
  settings : List (String × String) := []
  executed : List String := []
deriving DecidableEq, Repr, Inhabited

/-- What a call on a session comes to: an answer, or a wait of a given length first. -/
inductive Answer (α : Type)
  | now (result : Except SessionError α)
  | later (wait : Duration)

namespace Session

/-- Whether the session was lost while the client had not closed it. -/
def isBroken (s : Session) (server : Server) : Bool := !s.closed && server.broken.contains s.pid

def reported (s : Session) (server : Server) : Status :=
  if s.closed || server.broken.contains s.pid then .unknown else s.status

/-- The value of a setting; its name may be in upper or lower case. -/
def setting? (s : Session) (name : String) : Option String :=
  Table.get? s.settings (String.ofList (Text.lower name.toList))

/-- Whether the session can be used; one that is found lost notes that. -/
def checkUsable (s : Session) (server : Server) : Session × Except SessionError Unit :=
  if s.closed then (s, .error .closed)
  else if server.broken.contains s.pid then ({ s with status := .unknown }, .error .lost)
  else (s, .ok ())

/-- Without autocommit, a statement outside a transaction opens one. -/
def beginImplicit (s : Session) : Session :=
  if !s.autocommit && s.status = .idle then { s with status := .inTransaction } else s

def spoil (s : Session) : Session :=
  if s.status = .inTransaction then { s with status := .inError } else s

def syntaxError (text : List Char) : SessionError :=
  .refused ("syntax error at or near \"" ++ String.ofList text ++ "\"")

/-- Carries out a statement in a session that takes statements. -/
def perform (s : Session) (sql : List Char) : Session × Answer Nat :=
  match Statement.read sql with
  | .begin => ({ s with status := .inTransaction }, .now (.ok 0))
  | .finish => ({ s with status := .idle }, .now (.ok 0))
  | .resetAll => ({ s.beginImplicit with settings := [] }, .now (.ok 0))
  | .set rest =>
    let s := s.beginImplicit
    match readAssignment? rest with
    | some (name, value) => ({ s with settings := Table.put s.settings name value }, .now (.ok 0))
    | none => (s.spoil, .now (.error (syntaxError rest)))
  | .select => (s.beginImplicit, .now (.ok 1))
  | .copy => ({ s with status := .active }, .now (.ok 0))
  | .sleep rest =>
    match Text.readNat? 18446744073709551615 (Text.trimmed rest) with
    | some ms => (s, .later (.ofMillis ms))
    | none => (s, .now (.error (.refused ("invalid sleep: " ++ String.ofList sql))))
  | .other => (s.beginImplicit.spoil, .now (.error (syntaxError sql)))

/-- Executes a statement; the answer is the number of rows. -/
def execute (s : Session) (server : Server) (sql : String) : Session × Answer Nat :=
  match s.checkUsable server with
  | (s, .error e) => (s, .now (.error e))
  | (s, .ok ()) =>
    let sql := Text.trimmed sql.toList
    if sql.isEmpty then (s, .now (.ok 0))
    else
      let s := { s with executed := s.executed ++ [String.ofList sql] }
      if s.status = .active then
        (s, .now (.error (.refused "another command is already in progress")))
      else if s.status = .inError ∧ Statement.read sql ≠ .finish then
        (s, .now (.error (.refused ("current transaction is aborted, commands ignored until " ++
          "end of transaction block"))))
      else s.perform sql

/-- The end of a statement that had to wait. -/
def wake (s : Session) (server : Server) : Session × Except SessionError Nat :=
  match s.checkUsable server with
  | (s, .error e) => (s, .error e)
  | (s, .ok ()) => (s, .ok 0)

/-- Rolls the transaction back. A rollback that was told to fail loses the session. -/
def rollback (s : Session) (server : Server) : Session × Server × Except SessionError Unit :=
  match s.checkUsable server with
  | (s, .error e) => (s, server, .error e)
  | (s, .ok ()) =>
    if s.failNextRollback then
      ({ s with failNextRollback := false, status := .unknown }, server.breakSession s.pid,
        .error .lost)
    else ({ s with executed := s.executed ++ ["ROLLBACK"], status := .idle }, server, .ok ())

def close (s : Session) (server : Server) : Session × Server :=
  if s.closed then (s, server)
  else ({ s with closed := true, status := .unknown }, server.closeSession s.pid)

end Session

end SessionPool
