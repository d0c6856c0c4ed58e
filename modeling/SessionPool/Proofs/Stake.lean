import Mathlib.Algebra.Order.Group.Multiset
import SessionPool.Pool.Site
import SessionPool.Proofs.Table

/-!
# Stakes

The parties that work on a pool hold parts of what the pool is responsible for: rooms kept for
sessions that are being opened, members that count in the books, members that do not (not yet, or
no more), and tickets of waiting requests. A `Stake` is such a part. Stakes add up, so that the
stake of a site is the sum of the stakes of its jobs, its operations and its users (`Site.stake`).
-/

set_option autoImplicit false

namespace SessionPool

def idsOf (ms : List Member) : Multiset Nat := ↑(ms.map Member.id)

@[simp] theorem idsOf_nil : idsOf [] = 0 := rfl

@[simp] theorem idsOf_cons (m : Member) (ms : List Member) :
    idsOf (m :: ms) = {m.id} + idsOf ms := rfl

@[simp] theorem idsOf_append (a b : List Member) : idsOf (a ++ b) = idsOf a + idsOf b := by
  simp [idsOf]

@[simp] theorem card_idsOf (ms : List Member) : (idsOf ms).card = ms.length := by simp [idsOf]

theorem idsOf_perm {a b : List Member} (h : a.Perm b) : idsOf a = idsOf b :=
  Multiset.coe_eq_coe.2 (h.map _)

/-- What a party has in hand of the things that a pool is responsible for. -/
@[ext] structure Stake where
  rooms : Nat := 0
  /-- The numbers of the members that count in the books. -/
  counted : Multiset Nat := 0
  /-- The numbers of the members that do not. -/
  spare : Multiset Nat := 0
  tickets : Multiset Nat := 0

namespace Stake

instance : Zero Stake := ⟨{}⟩

instance : Add Stake where
  add a b :=
    { rooms := a.rooms + b.rooms
      counted := a.counted + b.counted
      spare := a.spare + b.spare
      tickets := a.tickets + b.tickets }

@[simp] theorem rooms_zero : (0 : Stake).rooms = 0 := rfl
@[simp] theorem counted_zero : (0 : Stake).counted = 0 := rfl
@[simp] theorem spare_zero : (0 : Stake).spare = 0 := rfl
@[simp] theorem tickets_zero : (0 : Stake).tickets = 0 := rfl

variable (a b c : Stake)

@[simp] theorem rooms_add : (a + b).rooms = a.rooms + b.rooms := rfl
@[simp] theorem counted_add : (a + b).counted = a.counted + b.counted := rfl
@[simp] theorem spare_add : (a + b).spare = a.spare + b.spare := rfl
@[simp] theorem tickets_add : (a + b).tickets = a.tickets + b.tickets := rfl

instance : AddCommMonoid Stake where
  add_assoc a b c := by ext1 <;> simp [add_assoc]
  zero_add a := by ext1 <;> simp
  add_zero a := by ext1 <;> simp
  add_comm a b := by ext1 <;> simp [add_comm]
  nsmul := nsmulRec

@[simps] def room : Stake := { rooms := 1 }

/-- Members that count in the books. -/
@[simps] def ofCounted (ms : List Member) : Stake := { counted := idsOf ms }

/-- Members that do not count in the books. -/
@[simps] def ofSpare (ms : List Member) : Stake := { spare := idsOf ms }

@[simps] def ticket (t : Nat) : Stake := { tickets := {t} }

@[simp] theorem ofCounted_nil : ofCounted [] = 0 := rfl

@[simp] theorem ofSpare_nil : ofSpare [] = 0 := rfl

theorem ofCounted_append (a b : List Member) :
    ofCounted (a ++ b) = ofCounted a + ofCounted b := by
  ext1 <;> simp

theorem ofSpare_append (a b : List Member) : ofSpare (a ++ b) = ofSpare a + ofSpare b := by
  ext1 <;> simp

theorem ofCounted_cons (m : Member) (ms : List Member) :
    ofCounted (m :: ms) = ofCounted [m] + ofCounted ms := ofCounted_append [m] ms

theorem ofSpare_cons (m : Member) (ms : List Member) :
    ofSpare (m :: ms) = ofSpare [m] + ofSpare ms := ofSpare_append [m] ms

theorem ofCounted_perm {a b : List Member} (h : a.Perm b) : ofCounted a = ofCounted b := by
  rw [ofCounted, ofCounted, idsOf_perm h]

theorem ofSpare_perm {a b : List Member} (h : a.Perm b) : ofSpare a = ofSpare b := by
  rw [ofSpare, ofSpare, idsOf_perm h]

/-- What a task gives to the worker that takes it. -/
def ofTask : Task Member → Stake
  | .add _ => room
  | .restore m => ofCounted [m]
  | .close m => ofSpare [m]
  | .maintain => 0

def ofTasks (ts : List (Task Member)) : Stake := (ts.map ofTask).sum

theorem ofTasks_nil : ofTasks [] = 0 := rfl

theorem ofTasks_cons (t : Task Member) (ts : List (Task Member)) :
    ofTasks (t :: ts) = ofTask t + ofTasks ts := by
  simp [ofTasks]

theorem ofTasks_append (ts us : List (Task Member)) :
    ofTasks (ts ++ us) = ofTasks ts + ofTasks us := by
  simp [ofTasks]

def won : Acquired → Stake
  | .ok m => ofCounted [m]
  | .error _ => 0

end Stake

/-! ## The stakes of the parties -/

namespace Adding

/-- The member that was opened and is to be entered. -/
def joining (a : Adding) : List Member :=
  match a.phase with
  | .joining m _ => [m]
  | .opening _ | .failing _ | .resting _ | .releasing _ => []

/-- A worker that adds a member keeps the room for it until the member is entered. -/
def stake (a : Adding) : Stake := .room + .ofSpare a.joining

end Adding

namespace Returning

/-- The member, as long as the pool is responsible for it. -/
def counted : Returning → List Member
  | arriving m | resetting m | paused m _ | settling m _ => [m]
  | closing _ => []

/-- The member, once the pool has given it up. -/
def spare : Returning → List Member
  | closing m => [m]
  | arriving _ | resetting _ | paused _ _ | settling _ _ => []

def stake (r : Returning) : Stake := .ofCounted r.counted + .ofSpare r.spare

end Returning

namespace Acquiring

def hasArrived : Acquiring → Bool
  | arriving _ => false
  | queued _ _ _ | givingUp _ _ | calling _ _ | dialing _ _ _ | takingOver _ _ | countingFailure _
  | vacating _ | failing _ => true

/-- Whether the request keeps a room for a session that it opens. -/
def hasRoom : Acquiring → Bool
  | calling _ _ | dialing _ _ _ | takingOver _ _ | countingFailure _ | vacating _ => true
  | arriving _ | queued _ _ _ | givingUp _ _ | failing _ => false

def joining : Acquiring → List Member
  | takingOver m _ => [m]
  | arriving _ | queued _ _ _ | givingUp _ _ | calling _ _ | dialing _ _ _ | countingFailure _
  | vacating _ | failing _ => []

/-- How far the request has come with the session that it opens itself. -/
def opening? : Acquiring → Option Opening
  | calling _ _ => some .fresh
  | dialing o _ _ => some o
  | arriving _ | queued _ _ _ | givingUp _ _ | takingOver _ _ | countingFailure _ | vacating _
  | failing _ => none

def ticket? : Acquiring → Option Nat
  | queued ticket _ _ | givingUp ticket _ => some ticket
  | arriving _ | calling _ _ | dialing _ _ _ | takingOver _ _ | countingFailure _ | vacating _
  | failing _ => none

def stake : Acquiring → Stake
  | queued ticket _ _ | givingUp ticket _ => .ticket ticket
  | takingOver m _ => .room + .ofSpare [m]
  | calling _ _ | dialing _ _ _ | countingFailure _ | vacating _ => .room
  | arriving _ | failing _ => 0

end Acquiring

namespace Checking

def stake (c : Checking) : Stake := .ofCounted c.member?.toList

end Checking

namespace Closing

def stake (c : Closing) : Stake := .ofSpare c.idle

end Closing

namespace Job

def counted : Job → List Member
  | returning r => r.counted
  | adding _ | closing _ | maintaining => []

def spare : Job → List Member
  | adding a => a.joining
  | returning r => r.spare
  | closing m => [m]
  | maintaining => []

def isAdding : Job → Bool
  | adding _ => true
  | returning _ | closing _ | maintaining => false

def stake : Job → Stake
  | adding a => a.stake
  | returning r => r.stake
  | closing m => .ofSpare [m]
  | maintaining => 0

end Job

namespace Operation

def counted : Operation → List Member
  | release r => r.counted
  | misplace m => [m]
  | check c => c.member?.toList
  | acquire _ | wait _ | close _ => []

def spare : Operation → List Member
  | acquire a => a.joining
  | release r => r.spare
  | close c => c.idle
  | misplace _ | wait _ | check _ => []

def isDialing : Operation → Bool
  | acquire a => a.hasRoom
  | release _ | misplace _ | wait _ | check _ | close _ => false

def ticket? : Operation → Option Nat
  | acquire a => a.ticket?
  | release _ | misplace _ | wait _ | check _ | close _ => none

def stake : Operation → Stake
  | acquire a => a.stake
  | release r => r.stake
  | misplace m => .ofCounted [m]
  | wait _ => 0
  | check c => c.stake
  | close c => c.stake

end Operation

namespace Site

/-- The stake of all parties together. -/
def stake (s : Site) : Stake :=
  .ofCounted s.held + Table.total Job.stake s.jobs + Table.total Operation.stake s.operations

end Site

end SessionPool
