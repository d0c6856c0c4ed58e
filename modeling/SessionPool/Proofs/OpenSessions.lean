import SessionPool.Proofs.Capacity
import SessionPool.Proofs.Chronicle

/-!
# Open sessions

A session that was opened for a pool is open until it is closed or taken out of the pool
(`Site.Ledger.live`). In a run in which the limit is set all the time and never lowered
(`Site.LimitedChronicle`), the open sessions that the pool has not given up keep to the limit; those
that it has given up, whose places others may have taken in the meantime, and those that a move let
go are on top of that (`Site.LimitedChronicle.withinLimit`).

They do not count any more as soon as the pool has given them up, before they are closed: a pool may
have more open sessions than its limit allows (`Site.LimitedChronicle.exceeded`).
-/

set_option autoImplicit false

namespace SessionPool

/-! ## Members that are given up -/

def Task.closed? : Task Member → Option Member
  | .close m => some m
  | .add _ | .restore _ | .maintain => none

namespace Job

/-- The members in hand that the pool has given up, and that are still to be closed. -/
def givenUp : Job → List Member
  | adding _ | maintaining => []
  | returning r => r.spare
  | closing m => [m]

/-- The members in hand that are still to be entered. -/
def joining : Job → List Member
  | adding a => a.joining
  | returning _ | closing _ | maintaining => []

theorem spare_eq (j : Job) : j.spare = j.joining ++ j.givenUp := by
  cases j with
  | adding a => exact (List.append_nil _).symm
  | returning | closing | maintaining => rfl

theorem joining_le (j : Job) :
    j.joining.length + j.configuring.card ≤ if j.isAdding then 1 else 0 := by
  cases j with
  | adding a =>
    obtain ⟨waiter, attempt, delay, phase⟩ := a
    cases phase with
    | opening o =>
      cases o <;> simp [joining, configuring, isAdding, Adding.joining, Adding.configuring,
        Opening.session?]
    | joining | failing | resting | releasing =>
      simp [joining, configuring, isAdding, Adding.joining, Adding.configuring]
  | returning | closing | maintaining => exact le_rfl

end Job

namespace Operation

def givenUp : Operation → List Member
  | release r => r.spare
  | close c => c.idle
  | acquire _ | misplace _ | wait _ | check _ => []

def joining : Operation → List Member
  | acquire a => a.joining
  | release _ | misplace _ | wait _ | check _ | close _ => []

theorem spare_eq (o : Operation) : o.spare = o.joining ++ o.givenUp := by
  cases o with
  | acquire a => exact (List.append_nil _).symm
  | release | misplace | wait | check | close => rfl

theorem joining_le (o : Operation) :
    o.joining.length + o.configuring.card ≤ if o.isDialing then 1 else 0 := by
  cases o with
  | acquire a =>
    cases a with
    | dialing o cutoff timeout =>
      cases o <;> simp [joining, configuring, isDialing, Acquiring.joining,
        Acquiring.configuring, Acquiring.hasRoom, Opening.session?]
    | arriving | queued | givingUp | calling | takingOver | countingFailure | vacating | failing =>
      simp [joining, configuring, isDialing, Acquiring.joining, Acquiring.configuring,
        Acquiring.hasRoom]
  | release | misplace | wait | check | close => exact le_rfl

end Operation

namespace Table

variable {ν : Type}

theorem flatMap_append {f g h : ν → List Member} (hf : ∀ v, f v = g v ++ h v)
    (t : List (Nat × ν)) :
    ((t.flatMap fun x => f x.2 : List Member) : Multiset Member) =
      (t.flatMap fun x => g x.2 : List Member) + (t.flatMap fun x => h x.2 : List Member) := by
  induction t with
  | nil => rfl
  | cons x t ih =>
    simp only [List.flatMap_cons, ← Multiset.coe_add, ih]
    rw [hf, ← Multiset.coe_add]
    abel

theorem joining_le {f : ν → List Member} {g : ν → Multiset Session} {b : ν → Bool}
    (h : ∀ v, (f v).length + (g v).card ≤ if b v then 1 else 0) (t : List (Nat × ν)) :
    (t.flatMap fun x => f x.2).length + (total g t).card ≤ t.countP fun x => b x.2 := by
  induction t with
  | nil => exact le_rfl
  | cons x t ih =>
    have one := h x.2
    simp only [List.flatMap_cons, List.length_append, total_cons, Multiset.card_add,
      List.countP_cons]
    omega

end Table

namespace Pool

def closes (p : Pool) : List Member := p.crew.tasks.filterMap Task.closed?

/-- The tasks with a member are to take it back or to close it. -/
theorem items_eq (p : Pool) :
    ((p.crew.tasks.filterMap Task.item? : List Member) : Multiset Member) =
      p.returns + p.closes := by
  unfold returns closes
  induction p.crew.tasks with
  | nil => rfl
  | cons t ts ih =>
    cases t with
    | add | maintain => exact ih
    | restore m => exact (congrArg (m ::ₘ ·) ih).trans (Multiset.cons_add m _ _).symm
    | close m => exact (congrArg (m ::ₘ ·) ih).trans (Multiset.add_cons m _ _).symm

end Pool

namespace Site

variable {env env' : Env} {s s' : Site} {l : Ledger} {mv : Move}

/-- The members that the pool has given up, and that are still to be closed. -/
def givenUp (s : Site) : List Member :=
  s.pool.closes ++ s.pool.leaving ++ s.jobs.flatMap (fun j => j.2.givenUp) ++
    s.operations.flatMap fun o => o.2.givenUp

/-- The members that the pool answers for. -/
def answered (s : Site) : List Member :=
  s.pool.idle ++ s.out ++ s.jobs.flatMap (fun j => j.2.joining) ++
    s.operations.flatMap fun o => o.2.joining

theorem members_eq (s : Site) : (s.members : Multiset Member) = s.answered + s.givenUp := by
  have jobs := Table.flatMap_append Job.spare_eq s.jobs
  have operations := Table.flatMap_append Operation.spare_eq s.operations
  simp only [members, inHand, Pool.members, answered, out, givenUp, ← Multiset.coe_add, jobs,
    operations, s.pool.items_eq]
  abel

/-- The sessions that the pool answers for count in its books, or room is kept for them. -/
theorem answered_le (h : Reachable env s) :
    s.answered.length + s.configuring.card ≤ s.pool.size := by
  have size := h.size_eq
  have opening := h.opening_eq
  have jobs := Table.joining_le Job.joining_le s.jobs
  have operations := Table.joining_le Operation.joining_le s.operations
  simp only [adding, answered, configuring, List.length_append, Multiset.card_add] at opening ⊢
  omega

/-! ## Sessions that are open -/

/-- The sessions that were opened and that are neither closed nor taken out of the pool. -/
def Ledger.live (l : Ledger) (env : Env) : Multiset Pid :=
  l.opened.filter fun i => i ∉ l.detached ∧ i ∉ env.server.closings

/-- An open session is that of a member, or is being configured, or was let go. -/
theorem Ledger.Sound.live_le (h : l.Sound env s) :
    l.live env ≤ pidsOf (sessionsOf s.members) + pidsOf s.configuring + l.abandoned := by
  obtain ⟨closed, hc, whole⟩ := h.whole
  rw [sessions_eq, pidsOf_add] at whole
  have detached : l.detached.filter (fun i => i ∉ l.detached ∧ i ∉ env.server.closings) = 0 :=
    Multiset.filter_eq_nil.2 fun i hi hn => hn.1 hi
  have gone : closed.filter (fun i => i ∉ l.detached ∧ i ∉ env.server.closings) = 0 :=
    Multiset.filter_eq_nil.2 fun i hi hn => hn.2 (hc i hi)
  rw [Ledger.live, ← whole, Multiset.filter_add, Multiset.filter_add, Multiset.filter_add, gone,
    detached, add_zero, add_zero]
  exact add_le_add (Multiset.filter_le _ _) (Multiset.filter_le _ _)

/-! ## Runs that keep to a limit -/

/-- A chronicle in which the limit is set all the time and never lowered. -/
inductive LimitedChronicle : Env → Site → Ledger → Prop
  | created {env env' : Env} {settings : PoolSettings} {options : ConnectOptions} {hooks : Hooks}
      {s : Site} (h : create env settings options hooks = (env', .ok s))
      (hl : s.pool.maxSize ≠ none) : LimitedChronicle env' s {}
  | moved {env env' : Env} {s s' : Site} {l : Ledger} {mv : Move} (h : LimitedChronicle env s l)
      (hm : s.move? env mv = some (env', s')) (hh : mv.IsHonest env s)
      (hl : ∃ limit ∈ s'.pool.maxSize, ∀ before ∈ s.pool.maxSize, before ≤ limit) :
      LimitedChronicle env' s' (l.enter env s mv env')
  | outside {env env' : Env} {s s' : Site} {l : Ledger} {mv : Move} (h : LimitedChronicle env s l)
      (hm : s.move? env mv = some (env', s')) (hu : mv.isUsers = true) (hh : mv.IsHonest env s)
      (hl : ∃ limit ∈ s'.pool.maxSize, ∀ before ∈ s.pool.maxSize, before ≤ limit) :
      LimitedChronicle env' (s.outside s') ((l.enter env s mv env').strand (s.stranded s'))

namespace LimitedChronicle

theorem chronicle (h : LimitedChronicle env s l) : Chronicle env s l := by
  induction h with
  | created h _ => exact .created h
  | moved _ hm hh _ ih => exact ih.moved hm hh
  | outside _ hm hu hh _ ih => exact ih.outside hm hu hh

theorem size_le (h : LimitedChronicle env s l) :
    ∃ limit ∈ s.pool.maxSize, s.pool.size ≤ limit := by
  induction h with
  | created h hl =>
    obtain ⟨limit, hl⟩ := Option.ne_none_iff_exists'.1 hl
    exact ⟨limit, hl, size_create h limit hl⟩
  | moved h hm _ hl ih | outside h hm _ _ hl ih =>
    obtain ⟨before, hb, size⟩ := ih
    obtain ⟨limit, hl, kept⟩ := hl
    have grown := size_move h.chronicle.reachable hm limit hl
    exact ⟨limit, hl, grown.trans (max_le (size.trans (kept before hb)) le_rfl)⟩

end LimitedChronicle

/-! ## Records -/

def Move.keepsSize : Move → Bool
  | .resize _ _ => false
  | .step _ | .acquire _ _ | .wait _ _ | .check _ | .close _ | .release _ _ | .misplace _ _
  | .cancel _ | .tryAcquire | .giveBack _ | .leaveBehind _ | .detach _ | .use _ _ | .resetCounters
  | .readOutcome _ | .pass _ => true

namespace LimitedChronicle

theorem enterAll {mvs : List Move} {l' : Ledger} (h : LimitedChronicle env s l)
    (hp : ∀ mv ∈ mvs, mv.isPlain = true ∧ mv.keepsSize = true)
    (hm : Site.enterAll env s l mvs = some (env', s', l')) : LimitedChronicle env' s' l' := by
  induction mvs generalizing env s l with
  | nil =>
    cases hm
    exact h
  | cons mv rest ih =>
    obtain ⟨x, hx, hm⟩ := Option.bind_eq_some_iff.1 hm
    obtain ⟨⟨plain, keeps⟩, hp⟩ := List.forall_mem_cons.1 hp
    have same : x.2.pool.maxSize = s.pool.maxSize :=
      maxSize_move h.chronicle.reachable hx fun lo hi e => by
        rw [e] at keeps
        cases keeps
    obtain ⟨limit, hl, -⟩ := h.size_le
    refine ih (h.moved hx (Move.honest_of_isPlain plain env s) ⟨limit, same ▸ hl, ?_⟩) hp hm
    intro before hb
    exact (Option.mem_unique hb hl).le

/-- What a record comes to, in which the limit is set and nobody changes it. -/
theorem of_record (settings : PoolSettings) (hooks : Hooks) (mvs : List Move)
    (P : Env × Site × Ledger → Bool)
    (hl : (record settings hooks []).all fun x => x.2.1.pool.maxSize.isSome)
    (h : (mvs.all (fun mv => mv.isPlain && mv.keepsSize) && (record settings hooks mvs).any P) =
      true) :
    ∃ env s l, record settings hooks mvs = some (env, s, l) ∧ P (env, s, l) = true ∧
      LimitedChronicle env s l := by
  obtain ⟨hp, h⟩ := Bool.and_eq_true_iff.1 h
  obtain ⟨⟨env, s, l⟩, hx, hP⟩ := (Option.any_eq_true _ _).1 h
  refine ⟨env, s, l, hx, hP, ?_⟩
  unfold record at hx hl
  split at hx
  · rename_i env₀ s₀ hc
    rw [hc] at hl
    have limited : LimitedChronicle env₀ s₀ {} :=
      .created hc (Option.isSome_iff_ne_none.1 (by simpa [Site.enterAll] using hl))
    refine limited.enterAll (fun mv hmv => ?_) hx
    simpa using List.all_eq_true.1 hp mv hmv
  · cases hx

end LimitedChronicle

/-! ## What keeps to the limit -/

/-- The open sessions keep to the limit, but for those that the pool has given up and those that
were let go. -/
structure WithinLimit (env : Env) (s : Site) (l : Ledger) (limit : Nat) : Prop where
  kept : (l.live env - pidsOf (sessionsOf s.givenUp) - l.abandoned).card ≤ limit
  all : (l.live env).card ≤ limit + s.givenUp.length + l.abandoned.card

namespace LimitedChronicle

/-- **The open sessions keep to the limit**, whatever moves are made in whatever order, but for
those that the pool has given up and those that were let go. -/
theorem withinLimit (h : LimitedChronicle env s l) :
    ∃ limit ∈ s.pool.maxSize, s.WithinLimit env l limit := by
  obtain ⟨limit, hl, size⟩ := h.size_le
  have answered := answered_le h.chronicle.reachable
  have places : l.live env ≤ pidsOf (sessionsOf s.answered) + pidsOf s.configuring + l.abandoned +
      pidsOf (sessionsOf s.givenUp) := by
    refine h.chronicle.sound.live_le.trans (le_of_eq ?_)
    have members : sessionsOf s.members = sessionsOf s.answered + sessionsOf s.givenUp :=
      (congrArg (Multiset.map Member.session) s.members_eq).trans (Multiset.map_add _ _ _)
    rw [members, pidsOf_add]
    abel
  have kept : l.live env - pidsOf (sessionsOf s.givenUp) - l.abandoned ≤
      pidsOf (sessionsOf s.answered) + pidsOf s.configuring :=
    tsub_le_iff_right.2 (tsub_le_iff_right.2 places)
  have card (x : List Member) : (pidsOf (sessionsOf x)).card = x.length := by
    simp [pidsOf, sessionsOf]
  refine ⟨limit, hl, (Multiset.card_le_card kept).trans ?_, ?_⟩
  · rw [Multiset.card_add, card, pidsOf, Multiset.card_map]
    exact answered.trans size
  · have all := Multiset.card_le_card places
    simp only [Multiset.card_add, card] at all
    rw [pidsOf, Multiset.card_map] at all
    omega

def scarcePool (limit : Nat) : PoolSettings :=
  { PoolSettings.nullPool with maxSize := some limit, workers := 1 }

/-- The worker tries the settings of a new pool on a session and closes it. -/
def triedOut : List Move := List.replicate 5 (.step (.worker 0))

def opens (n : Nat) : List Move :=
  .acquire n (.ofSecs 30) :: List.replicate 3 (.step (.user n))

/-- A hook that takes its time over the first session that comes back. -/
def slowReset : Hooks :=
  { reset := fun k => if k = 0 then [.execute "SLEEP 1000" true] else [] }

/-- While a third request waits, both sessions come back, one to the only worker, who does not get
done with it. When the third goes away, the other session has nobody to serve, and its closing has
to wait for the worker. -/
def stuckClosing : List Move :=
  triedOut ++ opens 0 ++ opens 1 ++ [.acquire 2 (.ofSecs 30), .step (.user 2), .giveBack 2] ++
    List.replicate 3 (.step (.worker 0)) ++
    [.release 3 3, .step (.user 3), .cancel 2, .step (.user 3), .step (.user 3)]

def slowConfigure : Hooks :=
  { configure := fun k => if k = 1 then [.execute "SLEEP 1000" true] else [] }

def droppedEarly : List Move :=
  triedOut ++ [.acquire 0 (.ofSecs 30), .step (.user 0), .step (.user 0), .cancel 0]

/-- Two sessions are open within the limit when a member is on its way out. -/
theorem withinLimit_stuck : ∃ env s l,
    record (scarcePool 2) slowReset stuckClosing = some (env, s, l) ∧
      (l.live env).card = 2 ∧ s.givenUp.length = 1 ∧
      ∃ limit ∈ s.pool.maxSize, s.WithinLimit env l limit := by
  obtain ⟨env, s, l, hx, hp, h⟩ := of_record (scarcePool 2) slowReset stuckClosing
    (fun x => (x.2.2.live x.1).card = 2 ∧ x.2.1.givenUp.length = 1) (by decide +kernel)
    (by decide +kernel)
  obtain ⟨live, given⟩ := of_decide_eq_true hp
  exact ⟨env, s, l, hx, live, given, withinLimit h⟩

/-- **Open sessions may exceed the limit:** another session is opened for the place of one that is
still to be closed, or of one that was dropped while it was being configured. -/
theorem exceeded :
    (∃ env s l, record (scarcePool 2) slowReset (stuckClosing ++ opens 4) = some (env, s, l) ∧
      LimitedChronicle env s l ∧ s.pool.maxSize = some 2 ∧ (l.live env).card = 3 ∧
      l.abandoned = 0) ∧
    (∃ env s l, record (scarcePool 1) slowConfigure (droppedEarly ++ opens 1) = some (env, s, l) ∧
      LimitedChronicle env s l ∧ s.pool.maxSize = some 1 ∧ (l.live env).card = 2 ∧
      s.givenUp = []) := by
  constructor
  · obtain ⟨env, s, l, hx, hp, h⟩ := of_record (scarcePool 2) slowReset (stuckClosing ++ opens 4)
      (fun x => x.2.1.pool.maxSize = some 2 ∧ (x.2.2.live x.1).card = 3 ∧ x.2.2.abandoned = 0)
      (by decide +kernel) (by decide +kernel)
    exact ⟨env, s, l, hx, h, of_decide_eq_true hp⟩
  · obtain ⟨env, s, l, hx, hp, h⟩ := of_record (scarcePool 1) slowConfigure
      (droppedEarly ++ opens 1)
      (fun x => x.2.1.pool.maxSize = some 1 ∧ (x.2.2.live x.1).card = 2 ∧ x.2.1.givenUp = [])
      (by decide +kernel) (by decide +kernel)
    exact ⟨env, s, l, hx, h, of_decide_eq_true hp⟩

end LimitedChronicle

end Site

end SessionPool
