import SessionPool.Pool.State

/-!
# Handing sessions out

How a request is admitted, how a session that is free reaches the request that has waited longest,
and how a request is withdrawn. Requests are served in the order of their arrival: an unused
session is given away at once only if nobody waits.
-/

set_option autoImplicit false

namespace SessionPool

/-- How an admitted request goes on. -/
inductive Checkout
  /-- With an unused session. -/
  | ready (m : Member)
  /-- By opening a session itself. -/
  | dial
  /-- By waiting under a ticket. -/
  | queued (ticket : Nat)
  /-- Not at all. -/
  | refused (e : PoolError)

namespace Pool

def spoiled (p : Pool) (now : Instant) : List Member := p.idle.takeWhile (·.isExpired now)

/-- Takes the first unused session that has not expired. Expired ones in front of it are closed,
and others are opened in their place. -/
def takeIdle (p : Pool) (now : Instant) : Pool × Option Member :=
  let rest := p.idle.dropWhile (·.isExpired now)
  let q := { p with idle := rest.tail }.discardAll (p.spoiled now)
  (if (p.spoiled now).isEmpty then q else q.topUp, rest.head?)

/-- A free session goes to the request that has waited longest, or else becomes idle. A pool that
is closed, or keeps nothing, closes it instead. -/
def deliver (p : Pool) (m : Member) (now : Instant) : Pool :=
  if p.closed || (p.isNull && p.waiting.isEmpty) then p.discard m
  else
    let m := m.inStage .idle
    let f := p.waiting.fulfill (some m) now
    let p := { p with waiting := f.queue }
    match f.served, f.slot with
    | some served, _ =>
      p.count fun c => { c with requestsWaitMs := c.requestsWaitMs + served.waited.wholeMillis }
    | none, some m => if p.isNull then p.discard m else { p with idle := p.idle ++ [m] }
    | none, none => p

/-- A request that has to wait: it takes a ticket, and a session is opened on its behalf if fewer
are being opened than requests wait. -/
def enqueue (p : Pool) (now : Instant) (timeout : Duration) : Pool × Nat :=
  let p := p.count fun c => { c with requestsQueued := c.requestsQueued + 1 }
  let (waiting, ticket) := p.waiting.enqueue now timeout
  let p := { p with waiting }
  if p.opening < p.waiting.length && !p.isFull then ((p.dispatchAdd (some ticket)).1, ticket)
  else (p, ticket)

/-- Counts a request and tells late ones that their time is up. -/
def greet (p : Pool) (now : Instant) : Pool :=
  let p := p.count fun c => { c with requestsNum := c.requestsNum + 1 }
  { p with waiting := (p.waiting.expire now).1 }

/-- Admits a request that has found no unused session. -/
def checkoutElse (p : Pool) (now : Instant) (timeout : Duration) : Pool × Checkout :=
  let limit := p.settings.maxWaiting
  if 0 < limit && limit ≤ p.waiting.length then (p, .refused (.tooManyRequests limit))
  else if p.isNull && p.waiting.isEmpty && !p.isFull then (p.reserve, .dial)
  else
    let (p, ticket) := p.enqueue now timeout
    (p, .queued ticket)

def checkout (p : Pool) (now : Instant) (timeout : Duration) : Pool × Checkout :=
  if p.closed then (p, .refused .closed)
  else
    let p := p.greet now
    if p.waiting.isEmpty then
      match p.takeIdle now with
      | (p, some m) => (p, .ready m)
      | (p, none) => p.checkoutElse now timeout
    else p.checkoutElse now timeout

/-- The expired sessions that admitting a request closes. -/
def spoiledByCheckout (p : Pool) (now : Instant) : List Member :=
  if !p.closed && (p.waiting.expire now).1.isEmpty then p.spoiled now else []

def tryTake (p : Pool) (now : Instant) : Pool × Except PoolError (Option Member) :=
  if p.closed then (p, .error .closed)
  else
    let p := p.count fun c => { c with requestsNum := c.requestsNum + 1 }
    if p.waiting.isEmpty then
      let (p, m) := p.takeIdle now
      (p, .ok m)
    else (p, .ok none)

def spoiledByTry (p : Pool) (now : Instant) : List Member :=
  if !p.closed && p.waiting.isEmpty then p.spoiled now else []

def countFailure (p : Pool) : Pool :=
  p.count fun c => { c with requestsErrors := c.requestsErrors + 1 }

/-! ## Waiting requests -/

/-- The caller of a ticket reads its answer and hangs up. -/
def collectReply (p : Pool) (ticket : Nat) : Pool :=
  { p with waiting := p.waiting.hangUp ticket }

/-- Withdraws a request whose time is up. An answer that came at the last moment still counts. -/
def giveUp (p : Pool) (ticket : Nat) (timeout : Duration) : Pool × Except PoolError Member :=
  if p.waiting.isWaiting ticket then
    ({ p with waiting := (p.waiting.withdraw ticket).1.hangUp ticket }, .error (.timeout timeout))
  else
    match p.waiting.reply? ticket with
    | some result => (p.collectReply ticket, result)
    | none => (p.collectReply ticket, .error (.timeout timeout))

/-- The session that a withdrawn request has been given and not yet taken. -/
def undelivered? (p : Pool) (ticket : Nat) : Option Member :=
  if p.waiting.isWaiting ticket then none
  else match p.waiting.reply? ticket with
    | some (.ok m) => some m
    | _ => none

/-- Withdraws a request whose caller has gone. A session that it was given goes to the next. -/
def abandon (p : Pool) (ticket : Nat) (now : Instant) : Pool :=
  match p.undelivered? ticket with
  | some m => (p.collectReply ticket).deliver m now
  | none => { p with waiting := (p.waiting.withdraw ticket).1.hangUp ticket }

end Pool

end SessionPool
