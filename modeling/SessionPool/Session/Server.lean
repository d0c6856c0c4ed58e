import SessionPool.Session.Status
import SessionPool.Time

/-!
# The database server

A server as its clients see it: it numbers the sessions that it opens, counts attempts, openings
and closings, may be told to answer late, to refuse or to keep silent, and may end sessions on its
own. A session that the server has ended is broken until its client closes it.
-/

set_option autoImplicit false

namespace SessionPool

abbrev Pid := Nat

def firstPid : Pid := 1000

/-- A server: its orders for answering attempts, and its sessions. -/
structure Server where
  nextPid : Pid := firstPid
  /-- How long an attempt waits for its answer. -/
  connectDelay : Duration := .zero
  /-- How many of the next attempts are refused. -/
  failNext : Nat := 0
  refuseAll : Bool := false
  refusedHosts : List String := []
  /-- Hosts that never answer. -/
  silentHosts : List String := []
  /-- The sessions that neither their client has closed nor the server has ended. -/
  live : List Pid := []
  /-- The sessions that are lost to their clients. -/
  broken : List Pid := []
  attempts : Nat := 0
  opened : Nat := 0
  /-- The sessions that their clients have closed, the latest last. -/
  closings : List Pid := []
deriving DecidableEq, Repr, Inhabited

namespace Server

def closed (s : Server) : Nat := s.closings.length

/-- The sessions that their clients have not closed, lost ones included. -/
def unclosed (s : Server) : Nat := s.opened - s.closed

def countAttempt (s : Server) : Server := { s with attempts := s.attempts + 1 }

/-- Whether an attempt at `host` is never answered. -/
def isSilent (s : Server) (host : String) : Bool := s.silentHosts.contains host

/-- Whether an attempt at `host` is refused now; a budget of refusals is used only if nothing else
refuses the attempt. -/
def refuses (s : Server) (host : String) : Bool :=
  s.refuseAll || s.refusedHosts.contains host || 0 < s.failNext

/-- The server after it has refused an attempt at `host`. -/
def afterRefusal (s : Server) (host : String) : Server :=
  if s.refuseAll || s.refusedHosts.contains host then s else { s with failNext := s.failNext - 1 }

def openSession (s : Server) : Server :=
  { s with nextPid := s.nextPid + 1, live := s.live ++ [s.nextPid], opened := s.opened + 1 }

def closeSession (s : Server) (pid : Pid) : Server :=
  { s with
    live := s.live.filter fun p => !decide (p = pid)
    closings := s.closings ++ [pid] }

def breakSession (s : Server) (pid : Pid) : Server := { s with broken := s.broken ++ [pid] }

/-- The server ends a session, if it is still there. -/
def terminate (s : Server) (pid : Pid) : Server :=
  if s.live.contains pid then
    { s with live := s.live.filter fun p => !decide (p = pid), broken := s.broken ++ [pid] }
  else s

def terminateAll (s : Server) : Server :=
  { s with live := [], broken := s.broken ++ s.live }

end Server

end SessionPool
