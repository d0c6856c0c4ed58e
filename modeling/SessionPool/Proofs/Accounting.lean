import SessionPool.Proofs.Run

/-!
# Accounting

The numbers in the books of a pool are what they stand for: `size` is the number of the sessions
that are being opened, lie unused, or are out, and `opening` that of the sessions that wait for a
worker to open them, are being opened by one, or by a request itself. No member is in two places.
All of this is read off `Site.Reachable.balanced`.
-/

set_option autoImplicit false

namespace SessionPool

/-! ## Stakes and members -/

/-- The members that values of a table have in hand, one after the other. -/
theorem Table.counted_total {κ ν : Type} {f : ν → Stake} {g : ν → List Member}
    (h : ∀ v, (f v).counted = idsOf (g v)) (t : List (κ × ν)) :
    (total f t).counted = idsOf (t.flatMap fun p => g p.2) := by
  induction t with
  | nil => rfl
  | cons p t ih => simp [h, ih]

theorem Table.spare_total {κ ν : Type} {f : ν → Stake} {g : ν → List Member}
    (h : ∀ v, (f v).spare = idsOf (g v)) (t : List (κ × ν)) :
    (total f t).spare = idsOf (t.flatMap fun p => g p.2) := by
  induction t with
  | nil => rfl
  | cons p t ih => simp [h, ih]

theorem Table.rooms_total {κ ν : Type} {f : ν → Stake} {g : ν → Bool}
    (h : ∀ v, (f v).rooms = if g v then 1 else 0) (t : List (κ × ν)) :
    (total f t).rooms = t.countP fun p => g p.2 := by
  induction t with
  | nil => rfl
  | cons p t ih => simp [h, ih, List.countP_cons, add_comm]

theorem Table.tickets_total {κ ν : Type} {f : ν → Stake} {g : ν → Option Nat}
    (h : ∀ v, (f v).tickets = ((g v).toList : Multiset Nat)) (t : List (κ × ν)) :
    (total f t).tickets = (t.filterMap fun p => g p.2 : List Nat) := by
  induction t with
  | nil => rfl
  | cons p t ih =>
    rw [total_cons, Stake.tickets_add, h, ih]
    cases hg : g p.2 <;> simp [hg]

/-- What a job has in hand, part by part. -/
theorem Job.stake_eq (j : Job) :
    j.stake =
      { rooms := if j.isAdding then 1 else 0
        counted := idsOf j.counted
        spare := idsOf j.spare } := by
  cases j with
  | adding a => ext1 <;> simp [stake, isAdding, counted, spare, Adding.stake]
  | returning r => ext1 <;> simp [stake, isAdding, counted, spare, Returning.stake]
  | closing m => rfl
  | maintaining => rfl

/-- What an operation has in hand, part by part. -/
theorem Operation.stake_eq (o : Operation) :
    o.stake =
      { rooms := if o.isDialing then 1 else 0
        counted := idsOf o.counted
        spare := idsOf o.spare
        tickets := (o.ticket?.toList : Multiset Nat) } := by
  cases o with
  | acquire a =>
    cases a <;> ext1 <;> simp [stake, isDialing, counted, spare, ticket?, Acquiring.stake,
      Acquiring.hasRoom, Acquiring.joining, Acquiring.ticket?]
  | release r => ext1 <;> simp [stake, isDialing, counted, spare, ticket?, Returning.stake]
  | misplace m => rfl
  | wait w => rfl
  | check c => rfl
  | close c => rfl

/-! ## Where members are -/

namespace Site

variable {env : Env} {s : Site}

/-- The members that count in the books and are not unused: they lie ready for a caller, are held
by users, or come back, or are being probed. -/
def out (s : Site) : List Member :=
  s.pool.waiting.delivered ++ s.held ++ s.pool.returns ++ s.jobs.flatMap (fun j => j.2.counted) ++
    s.operations.flatMap (fun o => o.2.counted)

/-- The members that a party has in hand, whether they count in the books or not. -/
def inHand (s : Site) : List Member :=
  s.held ++ s.jobs.flatMap (fun j => j.2.counted) ++ s.jobs.flatMap (fun j => j.2.spare) ++
    s.operations.flatMap (fun o => o.2.counted) ++ s.operations.flatMap (fun o => o.2.spare)

/-- All members, each as often as it is somewhere. -/
def members (s : Site) : List Member := s.pool.members ++ s.inHand

/-- How many sessions workers and requests are to open. -/
def adding (s : Site) : Nat :=
  s.pool.adds + s.jobs.countP (fun j => j.2.isAdding) +
    s.operations.countP (fun o => o.2.isDialing)

theorem counted_stake (s : Site) :
    s.stake.counted = idsOf (s.held ++ s.jobs.flatMap (fun j => j.2.counted) ++
      s.operations.flatMap fun o => o.2.counted) := by
  have hj := Table.counted_total (fun j => congrArg Stake.counted (Job.stake_eq j)) s.jobs
  have ho := Table.counted_total (fun o => congrArg Stake.counted (Operation.stake_eq o))
    s.operations
  rw [stake, Stake.counted_add, Stake.counted_add, hj, ho, idsOf_append, idsOf_append]
  rfl

theorem spare_stake (s : Site) :
    s.stake.spare = idsOf (s.jobs.flatMap (fun j => j.2.spare) ++
      s.operations.flatMap fun o => o.2.spare) := by
  have hj := Table.spare_total (fun j => congrArg Stake.spare (Job.stake_eq j)) s.jobs
  have ho := Table.spare_total (fun o => congrArg Stake.spare (Operation.stake_eq o)) s.operations
  rw [stake, Stake.spare_add, Stake.spare_add, hj, ho, idsOf_append, Stake.ofCounted_spare,
    zero_add]

theorem rooms_stake (s : Site) :
    s.stake.rooms = s.jobs.countP (fun j => j.2.isAdding) +
      s.operations.countP fun o => o.2.isDialing := by
  have hj := Table.rooms_total (fun j => congrArg Stake.rooms (Job.stake_eq j)) s.jobs
  have ho := Table.rooms_total (fun o => congrArg Stake.rooms (Operation.stake_eq o)) s.operations
  rw [stake, Stake.rooms_add, Stake.rooms_add, hj, ho, Stake.ofCounted_rooms, zero_add]

theorem tickets_stake (s : Site) :
    s.stake.tickets = (s.operations.filterMap fun o => o.2.ticket? : List Nat) := by
  have hj := Table.tickets_total (g := fun _ => none)
    (fun j => congrArg Stake.tickets (Job.stake_eq j)) s.jobs
  have ho := Table.tickets_total (fun o => congrArg Stake.tickets (Operation.stake_eq o))
    s.operations
  rw [stake, Stake.tickets_add, Stake.tickets_add, hj, ho, Stake.ofCounted_tickets, zero_add]
  simp

theorem Reachable.size_eq (h : Reachable env s) :
    s.pool.size = s.pool.opening + s.pool.idle.length + s.out.length := by
  have hs := h.balanced.size
  rw [Stake.counted_add, Pool.counted_stake, counted_stake, Multiset.card_add, card_idsOf,
    card_idsOf] at hs
  simp only [out, List.length_append] at hs ⊢
  omega

theorem Reachable.opening_eq (h : Reachable env s) : s.pool.opening = s.adding := by
  rw [h.balanced.opening, Stake.rooms_add, Pool.rooms_stake, rooms_stake, adding]
  omega

/-- The members have different numbers, and all of them were given. -/
theorem Reachable.numbered (h : Reachable env s) :
    Pool.Numbered s.pool.nextId (idsOf s.members) := by
  have hi : idsOf s.members = idsOf s.pool.members + s.stake.counted + s.stake.spare := by
    rw [counted_stake, spare_stake]
    simp only [members, inHand, idsOf_append]
    abel
  rw [hi]
  exact h.balanced.numbered_members

/-- The numbers in the books are what they stand for, and no member is in two places. -/
structure Accounted (s : Site) : Prop where
  /-- Every session that the pool is responsible for is being opened, unused, or out. -/
  size : s.pool.size = s.pool.opening + s.pool.idle.length + s.out.length
  opening : s.pool.opening = s.adding
  distinct : (s.members.map Member.id).Nodup
  /-- No number was ever to be taken below zero. -/
  solvent : s.pool.overdrawn = false
  live : s.pool.opening ≤ s.pool.size
  inUse : s.pool.idle.length ≤ s.pool.size - s.pool.opening

/-- **Accounting and exclusive ownership**, in every state that a pool comes to. -/
theorem accounting (h : Reachable env s) : s.Accounted := by
  have hb := h.balanced
  have hsize := h.size_eq
  exact {
    size := hsize
    opening := h.opening_eq
    distinct := Multiset.coe_nodup.1 h.numbered.1
    solvent := hb.solvent
    live := by omega
    inUse := by omega }

/-- The member that was opened lies ready for the first of two requests. -/
theorem accounting_handed :
    ∃ x, replay smallPool (twoRequests ++ [.step (.worker 0)]) = some x ∧
      x.2.pool.waiting.delivered.length = 1 ∧ x.2.Accounted := by
  obtain ⟨x, hx, hd, hr⟩ := Reachable.of_replay smallPool (twoRequests ++ [.step (.worker 0)])
    (fun x => x.2.pool.waiting.delivered.length = 1) (by decide +kernel)
  exact ⟨x, hx, by simpa using hd, accounting hr⟩

end Site

end SessionPool
