import SessionPool.Process.Opening

/-!
# Acquiring a session

A request is served with an unused session, opens one itself, or waits until it is served or its
time is up. A request whose caller goes away while it waits passes on what it was given, and one
that was opening a session gives up the room for it.
-/

set_option autoImplicit false

namespace SessionPool

/-- How far a request has come. -/
inductive Acquiring
  | arriving (timeout : Duration)
  | queued (ticket : Nat) (cutoff : Timer) (timeout : Duration)
  /-- Its time was up while it waited. -/
  | givingUp (ticket : Nat) (timeout : Duration)
  /-- It is to open a session before the deadline. -/
  | calling (deadline : Instant) (timeout : Duration)
  | dialing (o : Opening) (cutoff : Timer) (timeout : Duration)
  /-- The session that it opened is to be entered. -/
  | takingOver (m : Member) (elapsed : Duration)
  /-- Its attempt to open a session failed, which is to be entered. -/
  | countingFailure (e : SessionError)
  /-- The room that was kept for its session is to be given up. -/
  | vacating (e : PoolError)
  | failing (e : PoolError)
deriving DecidableEq, Repr

abbrev Acquired := Except PoolError Member

namespace Acquiring

def serve (env : Env) (p : Pool) (m : Member) : Stepped Acquiring Acquired :=
  (env, p, .done (.ok (m.handOut env.now)))

/-- A request fails. That the pool is closed is no failure of the request. -/
def refuse (env : Env) (p : Pool) (e : PoolError) : Stepped Acquiring Acquired :=
  if e = .closed then (env, p, .done (.error e)) else (env, p, .more (.failing e))

def conclude (env : Env) : Pool × Acquired → Stepped Acquiring Acquired
  | (p, .ok m) => serve env p m
  | (p, .error e) => refuse env p e

def arrive (env : Env) (p : Pool) (timeout : Duration) : Stepped Acquiring Acquired :=
  let env := p.noteExpired env (p.spoiledByCheckout env.now)
  match p.checkout env.now timeout with
  | (p, .ready m) => serve env p m
  | (p, .dial) => (env, p, .more (.calling (env.now.after timeout) timeout))
  | (p, .queued ticket) =>
    let (cutoff, env) := env.setTimer (env.now.after timeout)
    (env, p, .more (.queued ticket cutoff timeout))
  | (p, .refused e) => refuse env p e

/-- Goes on after the opening of a session has made a step; `resume` is what is left to do if it
has not come to an end. -/
def afterOpening (resume : Opening → Env → Env × Acquiring) :
    Stepped Opening Opened → Stepped Acquiring Acquired
  | (env, p, .more o) =>
    let (env, a) := resume o env
    (env, p, .more a)
  | (env, p, .done (.ok (m, elapsed))) => (env, p, .more (.takingOver m elapsed))
  | (env, p, .done (.error e)) => (env, p, .more (.countingFailure e))

/-- The next step. An answer that is there counts even if the time is up as well. -/
def step (env : Env) (p : Pool) : Acquiring → Option (Stepped Acquiring Acquired)
  | arriving timeout => some (arrive env p timeout)
  | queued ticket cutoff timeout =>
    match p.waiting.reply? ticket with
    | some result => some (conclude env (p.collectReply ticket, result))
    | none =>
      if !p.waiting.isWaiting ticket then some (refuse env (p.collectReply ticket) .closed)
      else if cutoff.isDue env.now then some (env, p, .more (.givingUp ticket timeout))
      else none
  | givingUp ticket timeout => some (conclude env (p.giveUp ticket timeout))
  | calling deadline timeout =>
    (Opening.fresh.step env p).map <| afterOpening fun o env =>
      let (cutoff, env) := env.setTimer deadline
      (env, .dialing o cutoff timeout)
  | dialing o cutoff timeout =>
    match o.step env p with
    | some stepped =>
      some (afterOpening (fun o env => (env, .dialing o cutoff timeout)) stepped)
    | none =>
      if cutoff.isDue env.now then some (env, p, .more (.vacating (.timeout timeout))) else none
  | takingOver m elapsed => some (conclude env (p.takeOver m elapsed))
  | countingFailure e =>
    let p := p.countFailedOpening
    some (p.note env .warn "error connecting" [("error", e.message)], p,
      .more (.vacating (.connect e)))
  | vacating e => some (env, p.vacateRoom, .more (.failing e))
  | failing e => some (env, p.countFailure, .done (.error e))

def timers : Acquiring → List Timer
  | queued _ cutoff _ => [cutoff]
  | dialing o cutoff _ => o.timers ++ [cutoff]
  | arriving _ | givingUp _ _ | calling _ _ | takingOver _ _ | countingFailure _ | vacating _
  | failing _ => []

/-- What happens when the caller goes away while the request waits. -/
def cancel (env : Env) (p : Pool) : Acquiring → Env × Pool
  | queued ticket _ _ =>
    let env := match p.undelivered? ticket with
      | some m => p.noteOn env m .debug "passing on connection delivered to a cancelled request" []
      | none => env
    (env, p.abandon ticket env.now)
  | dialing _ _ _ => (env, p.vacateRoom)
  | arriving _ | givingUp _ _ | calling _ _ | takingOver _ _ | countingFailure _ | vacating _
  | failing _ => (env, p)

end Acquiring

end SessionPool
