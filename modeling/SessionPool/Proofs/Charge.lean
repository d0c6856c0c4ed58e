import SessionPool.Proofs.Stake

/-!
# Charges

What stakes are for the numbers in the books, charges are for the sessions themselves: the sessions
that a party has in hand (`Charge`), those that may be given to a request as they are apart from
the others. Charges add up like stakes, and the charge of a site (`Site.charge`) together with what
lies in its pool (`Pool.sessions`) is every session that anybody can still reach.
-/

set_option autoImplicit false

namespace SessionPool

def sessionsOf (ms : List Member) : Multiset Session := ↑(ms.map Member.session)

@[simp] theorem sessionsOf_nil : sessionsOf [] = 0 := rfl

@[simp] theorem sessionsOf_singleton (m : Member) : sessionsOf [m] = {m.session} := rfl

theorem sessionsOf_cons (m : Member) (ms : List Member) :
    sessionsOf (m :: ms) = {m.session} + sessionsOf ms := rfl

@[simp] theorem sessionsOf_append (a b : List Member) :
    sessionsOf (a ++ b) = sessionsOf a + sessionsOf b := by
  simp [sessionsOf]

theorem sessionsOf_perm {a b : List Member} (h : a.Perm b) : sessionsOf a = sessionsOf b :=
  Multiset.coe_eq_coe.2 (h.map _)

theorem mem_sessionsOf {m : Member} {ms : List Member} (h : m ∈ ms) :
    m.session ∈ sessionsOf ms := Multiset.mem_coe.2 (List.mem_map_of_mem h)

/-- The sessions that a party has in hand. -/
@[ext] structure Charge where
  /-- Those that may be given to a request as they are. -/
  fit : Multiset Session := 0
  /-- Those that may not: nobody has looked at them yet, or they are in use, or to be closed. -/
  worn : Multiset Session := 0

namespace Charge

instance : Zero Charge := ⟨{}⟩

instance : Add Charge := ⟨fun a b => ⟨a.fit + b.fit, a.worn + b.worn⟩⟩

variable (a b : Charge)

@[simp] theorem fit_zero : (0 : Charge).fit = 0 := rfl
@[simp] theorem worn_zero : (0 : Charge).worn = 0 := rfl
@[simp] theorem fit_add : (a + b).fit = a.fit + b.fit := rfl
@[simp] theorem worn_add : (a + b).worn = a.worn + b.worn := rfl

instance : AddCommMonoid Charge where
  add_assoc a b c := by ext1 <;> simp [add_assoc]
  zero_add a := by ext1 <;> simp
  add_zero a := by ext1 <;> simp
  add_comm a b := by ext1 <;> simp [add_comm]
  nsmul := nsmulRec

def all : Multiset Session := a.fit + a.worn

@[simp] theorem all_zero : (0 : Charge).all = 0 := rfl

@[simp] theorem all_add : (a + b).all = a.all + b.all := add_add_add_comm _ _ _ _

/-- Sessions that may be given to a request as they are. -/
@[simps] def ofFit (x : Multiset Session) : Charge := { fit := x }

/-- Sessions that may not. -/
@[simps] def ofWorn (x : Multiset Session) : Charge := { worn := x }

variable (x y : Multiset Session)

@[simp] theorem all_ofFit : (ofFit x).all = x := add_zero x

@[simp] theorem all_ofWorn : (ofWorn x).all = x := zero_add x

@[simp] theorem ofFit_zero : ofFit 0 = 0 := rfl

@[simp] theorem ofWorn_zero : ofWorn 0 = 0 := rfl

theorem ofFit_add : ofFit (x + y) = ofFit x + ofFit y := by ext1 <;> simp

theorem ofWorn_add : ofWorn (x + y) = ofWorn x + ofWorn y := by ext1 <;> simp

def won : Acquired → Charge
  | .ok m => ofFit {m.session}
  | .error _ => 0

/-- What a request that does not wait is given. -/
def tried : Except PoolError (Option Member) → Charge
  | .ok m => ofFit (sessionsOf m.toList)
  | .error _ => 0

end Charge

/-- What a request is admitted with. -/
def Checkout.charge : Checkout → Charge
  | ready m => .ofFit {m.session}
  | dial | queued _ | refused _ => 0

/-! ## The charges of the parties -/

namespace Opening

/-- A session that is being configured. -/
def charge (o : Opening) : Charge := .ofWorn (o.session?.toList : Multiset Session)

/-- A session that was configured and accepted. -/
def accepted : Opened → Charge
  | .ok (m, _) => .ofFit {m.session}
  | .error _ => 0

end Opening

namespace Adding

def charge (a : Adding) : Charge :=
  match a.phase with
  | .opening o => o.charge
  | .joining m _ => .ofFit {m.session}
  | .failing _ | .resting _ | .releasing _ => 0

end Adding

namespace Returning

/-- A member that came back is worn until its reset has found it fit. -/
def charge : Returning → Charge
  | settling m .fit => .ofFit {m.session}
  | settling m .unfit | settling m .lost | arriving m | closing m | resetting m | paused m _ =>
    .ofWorn {m.session}

end Returning

namespace Acquiring

def charge : Acquiring → Charge
  | dialing o _ _ => o.charge
  | takingOver m _ => .ofFit {m.session}
  | arriving _ | queued _ _ _ | givingUp _ _ | calling _ _ | countingFailure _ | vacating _
  | failing _ => 0

end Acquiring

namespace Checking

/-- A member that is probed is worn until its probe has found it healthy. -/
def charge : Checking → Charge
  | judging _ m .healthy => .ofFit {m.session}
  | judging _ m (.unhealthy _) | probing _ m | paused _ m _ => .ofWorn {m.session}
  | starting | counting | picking _ => 0

end Checking

namespace Closing

def charge (c : Closing) : Charge := .ofWorn (sessionsOf c.idle)

end Closing

namespace Job

def charge : Job → Charge
  | adding a => a.charge
  | returning r => r.charge
  | closing m => .ofWorn {m.session}
  | maintaining => 0

end Job

namespace Operation

def charge : Operation → Charge
  | acquire a => a.charge
  | release r => r.charge
  | misplace m => .ofWorn {m.session}
  | wait _ => 0
  | check c => c.charge
  | close c => c.charge

end Operation

/-- A request that was served has been given its session as it was. -/
def Outcome.charge : Outcome → Charge
  | served m => .ofFit {m.session}
  | done | failed _ => 0

def Next.charge {π ρ : Type} (f : π → Charge) (g : ρ → Charge) : Next π ρ → Charge
  | more x => f x
  | done r => g r

namespace Site

/-- The sessions that all parties have in hand together. -/
def charge (s : Site) : Charge :=
  .ofWorn (sessionsOf s.held) + Table.total Job.charge s.jobs +
    Table.total Operation.charge s.operations

end Site

end SessionPool
