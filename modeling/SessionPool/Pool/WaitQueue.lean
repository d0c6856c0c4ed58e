import SessionPool.Pool.Error
import SessionPool.Table

/-!
# The queue of waiting requests

Requests wait in the order of their arrival, each under a ticket and with a deadline. A request is
answered once, with an item or with an error; the answer lies ready until its caller reads it. A
caller that hung up cannot be answered any more, and an item offered to it stays with the giver.
-/

set_option autoImplicit false

namespace SessionPool

structure Request where
  ticket : Nat
  arrived : Instant
  deadline : Instant
  /-- The wait that its caller asked for. -/
  timeout : Duration
deriving DecidableEq, Repr, Inhabited

def Request.isLate (r : Request) (now : Instant) : Bool := r.deadline ≤ now

/-- Waiting requests and the answers that their callers have not read yet. -/
structure WaitQueue (α : Type) where
  /-- The waiting requests, the oldest first. -/
  requests : List Request := []
  nextTicket : Nat := 1
  /-- The tickets of the callers that can still be answered. -/
  listening : List Nat := []
  /-- The answers that were given and not read, by ticket. -/
  replies : List (Nat × Except PoolError α) := []

/-- A successful hand-over: who was served, and after what wait. -/
structure Served where
  ticket : Nat
  waited : Duration
deriving DecidableEq, Repr

structure Fulfilled (α : Type) where
  queue : WaitQueue α
  served : Option Served
  /-- What is left in the slot. -/
  slot : Option α

/-- What the caller of a ticket learns if it asks. -/
inductive Heard (α : Type)
  /-- Nothing, because it hung up or has never been there. -/
  | deaf
  | waiting
  | answer (result : Except PoolError α)
  /-- That there will be no answer, or no other one. -/
  | over

namespace WaitQueue

variable {α : Type}

def length (q : WaitQueue α) : Nat := q.requests.length

def isEmpty (q : WaitQueue α) : Bool := q.requests.isEmpty

def isWaiting (q : WaitQueue α) (ticket : Nat) : Bool :=
  q.requests.any fun r => r.ticket = ticket

/-- Whether the caller with a ticket can be answered. -/
def hears (q : WaitQueue α) (ticket : Nat) : Bool := q.listening.contains ticket

def reply? (q : WaitQueue α) (ticket : Nat) : Option (Except PoolError α) :=
  Table.get? q.replies ticket

/-- What the caller of a ticket learns if it asks. -/
def heard (q : WaitQueue α) (ticket : Nat) : Heard α :=
  if !q.hears ticket then .deaf
  else match q.reply? ticket with
    | some result => .answer result
    | none => if q.isWaiting ticket then .waiting else .over

/-- A request arrives `now` and is to be answered within `timeout`. -/
def enqueue (q : WaitQueue α) (now : Instant) (timeout : Duration) : WaitQueue α × Nat :=
  ({ q with
      requests := q.requests ++ [⟨q.nextTicket, now, now.after timeout, timeout⟩]
      nextTicket := q.nextTicket + 1
      listening := q.listening ++ [q.nextTicket] },
    q.nextTicket)

/-- Answers a ticket; a caller that hung up misses the answer. -/
def answer (q : WaitQueue α) (ticket : Nat) (result : Except PoolError α) : WaitQueue α :=
  if q.hears ticket then { q with replies := q.replies ++ [(ticket, result)] } else q

def answerLate (q : WaitQueue α) (r : Request) : WaitQueue α :=
  q.answer r.ticket (.error (.timeout r.timeout))

/-- Offers the content of a slot to the waiting requests in turn: late ones are told so, deaf ones
are forgotten, and the first that is left takes the item. An empty slot stops at that request. -/
def offerTo (q : WaitQueue α) (slot : Option α) (now : Instant) : List Request → Fulfilled α
  | [] => ⟨{ q with requests := [] }, none, slot⟩
  | r :: rest =>
    if r.isLate now then (q.answerLate r).offerTo slot now rest
    else match slot with
      | none => ⟨{ q with requests := r :: rest }, none, none⟩
      | some item =>
        if q.hears r.ticket then
          ⟨{ q.answer r.ticket (.ok item) with requests := rest },
            some ⟨r.ticket, now.since r.arrived⟩, none⟩
        else q.offerTo (some item) now rest

def fulfill (q : WaitQueue α) (slot : Option α) (now : Instant) : Fulfilled α :=
  q.offerTo slot now q.requests

/-- Forgets the request with a ticket without answering it; says whether it waited. -/
def withdraw (q : WaitQueue α) (ticket : Nat) : WaitQueue α × Bool :=
  ({ q with requests := q.requests.filter fun r => !decide (r.ticket = ticket) },
    q.isWaiting ticket)

/-- Answers the request with a ticket with an error; says whether it waited. -/
def fail (q : WaitQueue α) (ticket : Nat) (e : PoolError) : WaitQueue α × Bool :=
  if q.isWaiting ticket then ((q.withdraw ticket).1.answer ticket (.error e), true) else (q, false)

/-- Whether a sweep at `now` removes a request: it is late, or its caller hung up. -/
def isStale (q : WaitQueue α) (now : Instant) (r : Request) : Bool :=
  r.isLate now || !q.hears r.ticket

/-- Removes all stale requests and tells their callers; says how many they were. -/
def expire (q : WaitQueue α) (now : Instant) : WaitQueue α × Nat :=
  let stale := q.requests.filter (q.isStale now)
  let kept := q.requests.filter fun r => !q.isStale now r
  (stale.foldl answerLate { q with requests := kept }, stale.length)

/-- Answers the waiting requests in turn, the `i`th with the error `e i`; says how many they
were. -/
def failEach (q : WaitQueue α) (e : Nat → PoolError) : WaitQueue α × Nat :=
  (q.requests.zipIdx.foldl (fun q r => q.answer r.1.ticket (.error (e r.2)))
    { q with requests := [] },
    q.length)

def failAll (q : WaitQueue α) (e : PoolError) : WaitQueue α × Nat := q.failEach fun _ => e

def read (q : WaitQueue α) (ticket : Nat) : WaitQueue α :=
  { q with replies := Table.remove q.replies ticket }

/-- The caller of a ticket hangs up; an answer that it has not read is gone. -/
def hangUp (q : WaitQueue α) (ticket : Nat) : WaitQueue α :=
  { q.read ticket with listening := q.listening.filter fun t => !decide (t = ticket) }

end WaitQueue

end SessionPool
