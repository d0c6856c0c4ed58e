import SessionPool.Proofs.Outside

/-!
# What becomes of sessions

A chronicle (`Site.Chronicle`) is a run together with a ledger of the sessions that were opened for
the pool, of those that users took out of it, and of those that a move let go. At every moment each
session that was opened is at one place: a member at one place of the pool or in one hand, being
configured, in the ledger among those that were taken out or let go, or it was closed
(`Site.Chronicle.traced`).

An open pool lets no session go but one that is being configured (`Site.Traced.careful`), which
happens when the time of its request is up or its caller goes away; where nobody closes a session on
the side, it also lets go one whose reset or probe is broken off (`Site.Traced.interrupted`).
`Site.Chronicle.missed` has two sessions that get lost with the closing of a pool and one that gets
lost outside.
-/

set_option autoImplicit false

namespace SessionPool

/-! ## Members and sessions that are being configured -/

/-- The sessions that are being configured for a new member. -/
def Adding.configuring (a : Adding) : Multiset Session :=
  match a.phase with
  | .opening o => (o.session?.toList : Multiset Session)
  | .joining _ _ | .failing _ | .resting _ | .releasing _ => 0

def Acquiring.configuring : Acquiring → Multiset Session
  | dialing o _ _ => (o.session?.toList : Multiset Session)
  | arriving _ | queued _ _ _ | givingUp _ _ | calling _ _ | takingOver _ _ | countingFailure _
  | vacating _ | failing _ => 0

def Job.configuring : Job → Multiset Session
  | adding a => a.configuring
  | returning _ | closing _ | maintaining => 0

def Operation.configuring : Operation → Multiset Session
  | acquire a => a.configuring
  | release _ | misplace _ | wait _ | check _ | close _ => 0

theorem Returning.charge_all (r : Returning) :
    r.charge.all = sessionsOf r.counted + sessionsOf r.spare := by
  rcases r with m | m | m | ⟨m, pause⟩ | ⟨m, _ | _ | _⟩ <;> simp [charge, counted, spare]

/-- What a party has in hand are members and sessions that are being configured. -/
theorem Job.charge_all (j : Job) :
    j.charge.all = sessionsOf j.counted + sessionsOf j.spare + j.configuring := by
  cases j with
  | adding a =>
    obtain ⟨waiter, attempt, delay, phase⟩ := a
    cases phase <;>
      simp [charge, counted, spare, configuring, Adding.charge, Adding.joining, Adding.configuring,
        Opening.charge]
  | returning r => exact r.charge_all.trans (add_zero _).symm
  | closing m => simp [charge, counted, spare, configuring]
  | maintaining => rfl

theorem Operation.charge_all (o : Operation) :
    o.charge.all = sessionsOf o.counted + sessionsOf o.spare + o.configuring := by
  cases o with
  | acquire a =>
    cases a <;>
      simp [charge, counted, spare, configuring, Acquiring.charge, Acquiring.joining,
        Acquiring.configuring, Opening.charge]
  | release r => exact r.charge_all.trans (add_zero _).symm
  | misplace m => simp [charge, counted, spare, configuring]
  | wait w => rfl
  | check c =>
    rcases c with _ | _ | left | ⟨left, m⟩ | ⟨left, m, pause⟩ | ⟨left, m, _ | _⟩ <;>
      simp [charge, counted, spare, configuring, Checking.charge, Checking.member?]
  | close c => simp [charge, counted, spare, configuring, Closing.charge]

theorem Job.abandoned_le (p : Pool) (j : Job) : j.abandoned p ≤ j.configuring := by
  cases j with
  | adding a =>
    obtain ⟨waiter, attempt, delay, phase⟩ := a
    cases phase with
    | opening o =>
      simp only [abandoned, Adding.abandoned]
      split
      · exact le_rfl
      · exact Multiset.zero_le _
    | joining | failing | resting | releasing => exact Multiset.zero_le _
  | returning _ | closing _ | maintaining => exact Multiset.zero_le _

theorem Operation.abandoned_le (env : Env) (p : Pool) (o : Operation) :
    o.abandoned env p ≤ o.configuring := by
  cases o with
  | acquire a =>
    cases a with
    | dialing o cutoff timeout =>
      simp only [abandoned, Acquiring.abandoned]
      split
      · exact le_rfl
      · exact Multiset.zero_le _
    | arriving | queued | givingUp | calling | takingOver | countingFailure | vacating | failing =>
      exact Multiset.zero_le _
  | release _ | misplace _ | wait _ | check _ | close _ => exact Multiset.zero_le _

/-- An operation that has not closed the pool drops nothing but what it was configuring. -/
theorem Operation.dropped_le {o : Operation} (h : o.hasShut = false) :
    o.dropped ≤ o.configuring := by
  cases o with
  | acquire a =>
    cases a with
    | dialing o cutoff timeout => exact le_rfl
    | arriving | queued | givingUp | calling | takingOver | countingFailure | vacating | failing =>
      exact Multiset.zero_le _
  | close c =>
    cases c with
    | starting => exact Multiset.zero_le _
    | stopping | joining | draining | emptying => cases h
  | release _ | misplace _ | wait _ | check _ => exact Multiset.zero_le _

theorem Table.sessions_total {ν : Type} {f : ν → Charge} {g h : ν → List Member}
    {k : ν → Multiset Session} (hf : ∀ v, (f v).all = sessionsOf (g v) + sessionsOf (h v) + k v)
    (t : List (Nat × ν)) :
    (total f t).all = sessionsOf (t.flatMap fun p => g p.2) +
      sessionsOf (t.flatMap fun p => h p.2) + total k t := by
  induction t with
  | nil => rfl
  | cons p t ih =>
    simp only [total_cons, Charge.all_add, ih, hf, List.flatMap_cons, sessionsOf_append]
    abel

namespace Site

variable {env env' : Env} {s s' : Site}

/-- The sessions of all members and those that are being configured. -/
def sessions (s : Site) : Multiset Session := s.pool.sessions + s.charge.all

def configuring (s : Site) : Multiset Session :=
  Table.total Job.configuring s.jobs + Table.total Operation.configuring s.operations

theorem sessions_eq (s : Site) : s.sessions = sessionsOf s.members + s.configuring := by
  have hj := Table.sessions_total Job.charge_all s.jobs
  have ho := Table.sessions_total Operation.charge_all s.operations
  simp only [sessions, charge, Charge.all_add, Charge.all_ofWorn, hj, ho, Pool.sessions, Pool.stock,
    Pool.tasked, members, Pool.members, inHand, sessionsOf_append, configuring]
  abel

/-! ## Chronicles -/

/-- The sessions of a pool by their numbers. -/
structure Ledger where
  /-- Those that were opened. -/
  opened : Multiset Pid := 0
  /-- Those that users took out of the pool. -/
  detached : Multiset Pid := 0
  /-- Those that were let go without having been closed. -/
  abandoned : Multiset Pid := 0

/-- The numbers of the sessions that are opened with a move; what the server does meanwhile does not
concern the pool. -/
def Move.opened (env env' : Env) : Move → Multiset Pid
  | .pass _ => 0
  | _ => env.server.issued env'.server

def Ledger.enter (l : Ledger) (env : Env) (s : Site) (mv : Move) (env' : Env) : Ledger where
  opened := l.opened + mv.opened env env'
  detached := l.detached + pidsOf (s.detached mv)
  abandoned := l.abandoned + pidsOf (s.abandoned env mv)

/-- Members are dropped that were to be closed on the side. -/
def Ledger.strand (l : Ledger) (ms : List Member) : Ledger :=
  { l with abandoned := l.abandoned + pidsOf (sessionsOf ms) }

/-- A run of a pool, and what became of its sessions. Users may make their moves where nobody closes
a session on the side. -/
inductive Chronicle : Env → Site → Ledger → Prop
  | created {env env' : Env} {settings : PoolSettings} {options : ConnectOptions} {hooks : Hooks}
      {s : Site} (h : create env settings options hooks = (env', .ok s)) : Chronicle env' s {}
  | moved {env env' : Env} {s s' : Site} {l : Ledger} {mv : Move} (h : Chronicle env s l)
      (hm : s.move? env mv = some (env', s')) (hh : mv.IsHonest env s) :
      Chronicle env' s' (l.enter env s mv env')
  | outside {env env' : Env} {s s' : Site} {l : Ledger} {mv : Move} (h : Chronicle env s l)
      (hm : s.move? env mv = some (env', s')) (hu : mv.isUsers = true) (hh : mv.IsHonest env s) :
      Chronicle env' (s.outside s') ((l.enter env s mv env').strand (s.stranded s'))

variable {l : Ledger} {mv : Move}

theorem Chronicle.reachable (h : Chronicle env s l) : Reachable env s := by
  induction h with
  | created h => exact .created h
  | moved _ hm _ ih => exact ih.moved hm
  | outside _ hm hu _ ih => exact ih.outside hm hu

theorem Ledger.enter_pass (l : Ledger) (env : Env) (s : Site) (e env' : Env) :
    l.enter env s (.pass e) env' = l := by
  simp [enter, Move.opened, Site.detached, Site.abandoned]

/-- Time passes. -/
theorem Chronicle.later (h : Chronicle env s l) (ht : env.now ≤ env'.now)
    (hg : env.server.Grows env'.server) : Chronicle env' s l := by
  have hm : s.move? env (.pass env') = some (env', s) := if_pos ht
  rw [← l.enter_pass env s env' env']
  exact h.moved hm hg

/-! ## Records -/

theorem Move.honest_of_isPlain (h : mv.isPlain = true) (env : Env) (s : Site) :
    mv.IsHonest env s := by
  cases mv with
  | use _ _ | pass _ => cases h
  | step _ | acquire _ _ | wait _ _ | check _ | close _ | release _ _ | misplace _ _ | cancel _
  | tryAcquire | giveBack _ | leaveBehind _ | detach _ | resize _ _ | resetCounters
  | readOutcome _ => trivial

def enterAll (env : Env) (s : Site) (l : Ledger) : List Move → Option (Env × Site × Ledger)
  | [] => some (env, s, l)
  | mv :: rest =>
    (s.move? env mv).bind fun x => enterAll x.1 x.2 (l.enter env s mv x.1) rest

/-- What a new pool comes to by moves in a row, and the ledger of them. -/
def record (settings : PoolSettings) (hooks : Hooks) (mvs : List Move) :
    Option (Env × Site × Ledger) :=
  match create {} settings {} hooks with
  | (env, .ok s) => enterAll env s {} mvs
  | (_, .error _) => none

namespace Chronicle

theorem enterAll {mvs : List Move} {l' : Ledger} (h : Chronicle env s l)
    (hp : ∀ mv ∈ mvs, mv.isPlain = true)
    (hm : Site.enterAll env s l mvs = some (env', s', l')) :
    Chronicle env' s' l' ∧ s'.pool.hooks = s.pool.hooks := by
  induction mvs generalizing env s l with
  | nil =>
    cases hm
    exact ⟨h, rfl⟩
  | cons mv rest ih =>
    obtain ⟨x, hx, hm⟩ := Option.bind_eq_some_iff.1 hm
    obtain ⟨hmv, hp⟩ := List.forall_mem_cons.1 hp
    obtain ⟨hc, hh⟩ := ih (h.moved hx (Move.honest_of_isPlain hmv env s)) hp hm
    exact ⟨hc, hh.trans (h.reachable.steady hx).hooks⟩

/-- What a record comes to is a chronicle, and the pool still has its hooks. -/
theorem of_record (settings : PoolSettings) (hooks : Hooks) (mvs : List Move)
    (P : Env × Site × Ledger → Bool)
    (h : (mvs.all Move.isPlain && (record settings hooks mvs).any P) = true) :
    ∃ env s l, record settings hooks mvs = some (env, s, l) ∧ P (env, s, l) = true ∧
      Chronicle env s l ∧ s.pool.hooks = hooks := by
  obtain ⟨hp, h⟩ := Bool.and_eq_true_iff.1 h
  obtain ⟨⟨env, s, l⟩, hx, hP⟩ := (Option.any_eq_true _ _).1 h
  refine ⟨env, s, l, hx, hP, ?_⟩
  unfold record at hx
  split at hx
  · rename_i hc
    obtain ⟨h, hh⟩ := (created hc).enterAll (List.all_eq_true.1 hp) hx
    exact ⟨h, hh.trans (hooks_create hc)⟩
  · cases hx

end Chronicle

/-! ## What a move does to all sessions -/

theorem Move.opened_of_isPlain (h : mv.isPlain = true) (env env' : Env) :
    mv.opened env env' = env.server.issued env'.server := by
  cases mv with
  | pass _ | use _ _ => cases h
  | step _ | acquire _ _ | wait _ _ | check _ | close _ | release _ _ | misplace _ _ | cancel _
  | tryAcquire | giveBack _ | leaveBehind _ | detach _ | resize _ _ | resetCounters
  | readOutcome _ => rfl

theorem Move.opened_le (env env' : Env) (mv : Move) :
    mv.opened env env' ≤ env.server.issued env'.server := by
  cases hp : mv.isPlain with
  | true => exact (opened_of_isPlain hp env env').le
  | false =>
    cases mv with
    | pass _ => exact Multiset.zero_le _
    | use _ _ => exact le_rfl
    | step _ | acquire _ _ | wait _ _ | check _ | close _ | release _ _ | misplace _ _ | cancel _
    | tryAcquire | giveBack _ | leaveBehind _ | detach _ | resize _ _ | resetCounters
    | readOutcome _ => cases hp

/-- **No move loses a session** that it does not take out of the pool or let go. -/
theorem kept_move (h : s.Regular) (hm : s.move? env mv = some (env', s'))
    (hh : mv.IsHonest env s) (hs : Honest env.server s.sessions) :
    env.server.Grows env'.server ∧ Honest env'.server s'.sessions ∧
      ∃ closed : Multiset Pid, (∀ i ∈ closed, i ∈ env'.server.closings) ∧
        pidsOf s'.sessions + pidsOf (s.detached mv) + pidsOf (s.abandoned env mv) + closed =
          pidsOf s.sessions + mv.opened env env' := by
  rcases passes_uses_or_tends h.keyed h.balanced h.shut hm hh with
    ⟨⟨e, rfl⟩, rfl, hg⟩ | ⟨⟨id, session, rfl, rfl⟩, rfl⟩ | ⟨hp, ht⟩
  · exact ⟨hg, hs.grow hg, 0, by simp, by simp [detached, abandoned, Move.opened]⟩
  · have kept := kept_use (HeldApart.of_balanced h.balanced) hh
    obtain ⟨closed, hc, he⟩ := kept.pids hs
    refine ⟨kept.grows, kept.honest hs, closed, hc, ?_⟩
    simp only [detached, abandoned, pidsOf_zero, add_zero]
    exact he
  · have ho := Move.opened_of_isPlain hp env env'
    have kept := Tended.kept ht
    rw [Charge.all_add, Charge.all_ofWorn, ← add_assoc] at kept
    obtain ⟨closed, hc, he⟩ := kept.pids hs
    refine ⟨kept.grows, (honest_add.1 (kept.honest hs)).1, closed, hc, ?_⟩
    calc pidsOf s'.sessions + pidsOf (s.detached mv) + pidsOf (s.abandoned env mv) + closed
        = pidsOf (s'.sessions + (s.abandoned env mv + s.detached mv)) + closed := by
          rw [pidsOf_add, pidsOf_add]
          abel
      _ = pidsOf s.sessions + env.server.issued env'.server := he
      _ = pidsOf s.sessions + mv.opened env env' := by rw [ho]

/-- Nothing has been opened for a new pool. -/
theorem sessions_create {settings : PoolSettings} {options : ConnectOptions} {hooks : Hooks}
    (h : create env settings options hooks = (env', .ok s)) : s.sessions = 0 := by
  obtain ⟨p, hp, -, -, -, -, -, rfl⟩ := create_ok h
  have hs : p.sessions = 0 := by
    rw [Pool.sessions, Pool.stock, Pool.tasked, hp.idle, hp.waiting, hp.tasks, hp.leaving]
    rfl
  exact (handled_fill p).kept.trans (by rw [hs]; rfl)

/-- What a move lets go was being configured, unless somebody left a member behind or gave the
closing of the pool up. -/
theorem abandoned_cases (hk : s.Keyed) (env : Env) (mv : Move) :
    s.abandoned env mv ≤ s.configuring ∨ (∃ id, mv = .leaveBehind id) ∨
      ∃ n c, mv = .cancel n ∧ Table.get? s.operations n = some (.close c) ∧ c.begun = true := by
  have share {n : Nat} {f : Operation → Multiset Session}
      (hf : ∀ o, Table.get? s.operations n = some o → f o ≤ o.configuring) :
      ((Table.get? s.operations n).map f).getD 0 ≤ s.configuring := by
    cases hg : Table.get? s.operations n with
    | none => exact Multiset.zero_le _
    | some o =>
      rw [configuring, Table.total_of_get? Operation.configuring hk.operations hg]
      refine (hf o hg).trans ?_
      exact (Multiset.le_add_right _ _).trans (Multiset.le_add_left _ _)
  cases mv with
  | step party =>
    refine .inl ?_
    cases party with
    | worker k =>
      cases hg : Table.get? s.jobs k with
      | none =>
        simp only [abandoned, hg, Option.map_none, Option.getD_none]
        exact Multiset.zero_le _
      | some j =>
        rw [configuring, Table.total_of_get? Job.configuring hk.jobs hg]
        simp only [abandoned, hg, Option.map_some, Option.getD_some]
        refine (j.abandoned_le s.pool).trans ?_
        exact (Multiset.le_add_right _ _).trans (Multiset.le_add_right _ _)
    | user n => exact share fun o _ => o.abandoned_le env s.pool
    | ticker _ | closer _ => exact Multiset.zero_le _
  | cancel n =>
    by_cases hc : ∃ c, Table.get? s.operations n = some (.close c) ∧ c.begun = true
    · obtain ⟨c, hg, hb⟩ := hc
      exact .inr (.inr ⟨n, c, rfl, hg, hb⟩)
    · refine .inl (share fun o hg => Operation.dropped_le ?_)
      cases o with
      | close c => exact Bool.eq_false_iff.2 fun hb => hc ⟨c, hg, hb⟩
      | acquire _ | release _ | misplace _ | wait _ | check _ => rfl
  | leaveBehind id => exact .inr (.inl ⟨id, rfl⟩)
  | acquire _ _ | wait _ _ | check _ | close _ | release _ _ | misplace _ _ | tryAcquire
  | giveBack _ | detach _ | use _ _ | resize _ _ | resetCounters | readOutcome _ | pass _ =>
    exact .inl (Multiset.zero_le _)

/-- An open pool lets no session go but one that is being configured. -/
theorem abandoned_le_configuring (hk : s.Keyed) (hs : s.OrderlyShut) (hc : s.pool.closed = false)
    (mv : Move) : s.abandoned env mv ≤ s.configuring := by
  rcases abandoned_cases hk env mv with hl | ⟨id, rfl⟩ | ⟨n, c, -, hg, hb⟩
  · exact hl
  · have hst : s.pool.crew.stopped = false :=
      Bool.eq_false_iff.2 fun hst => by simp [hs.stopped hst] at hc
    have hl : s.abandoned env (.leaveBehind id) = 0 := if_neg (by simp [hst])
    exact hl ▸ Multiset.zero_le _
  · rw [hs.operations n _ hg hb] at hc
    cases hc

/-! ## Where sessions are -/

/-- Each session that was opened for a pool is at one place. -/
structure Traced (env : Env) (s : Site) (l : Ledger) : Prop where
  /-- It is that of a member, or is being configured, or was taken out, let go or closed. -/
  whole : ∃ closed : Multiset Pid, (∀ i ∈ closed, i ∈ env.server.closings) ∧
    l.opened = pidsOf (sessionsOf s.members) + pidsOf s.configuring + l.detached + l.abandoned +
      closed
  distinct : l.opened.Nodup
  /-- One that counts as closed was closed at the server. -/
  honest : Honest env.server s.sessions
  /-- An open pool lets no session go but one that is being configured. -/
  careful : s.pool.closed = false → ∀ mv, s.abandoned env mv ≤ s.configuring
  /-- Outside it also lets go a member whose reset or probe is broken off. -/
  interrupted : s.pool.closed = false → ∀ mv env' s', s.move? env mv = some (env', s') →
    mv.isUsers = true → ∀ m ∈ s.stranded s', ∃ n o, mv = .cancel n ∧
      Table.get? s.operations n = some o ∧ o.interrupted? = some m

/-- The entries of a ledger are right. -/
structure Ledger.Sound (env : Env) (s : Site) (l : Ledger) : Prop where
  whole : ∃ closed : Multiset Pid, (∀ i ∈ closed, i ∈ env.server.closings) ∧
    pidsOf s.sessions + l.detached + l.abandoned + closed = l.opened
  issued : ∀ i ∈ l.opened, i < env.server.nextPid
  distinct : l.opened.Nodup
  honest : Honest env.server s.sessions

theorem Ledger.Sound.enter (hl : l.Sound env s) (h : s.Regular)
    (hm : s.move? env mv = some (env', s')) (hh : mv.IsHonest env s) :
    (l.enter env s mv env').Sound env' s' := by
  obtain ⟨grows, honest, closed, hc, he⟩ := kept_move h hm hh hl.honest
  obtain ⟨past, hp, hw⟩ := hl.whole
  have fresh {i : Pid} (hi : i ∈ mv.opened env env') :
      env.server.nextPid ≤ i ∧ i < env'.server.nextPid :=
    Multiset.mem_Ico.1 (Multiset.mem_of_le (Move.opened_le env env' mv) hi)
  refine ⟨⟨past + closed, fun i hi => ?_, ?_⟩, fun i hi => ?_, ?_, honest⟩
  · rcases Multiset.mem_add.1 hi with hi | hi
    · exact grows.closings (hp i hi)
    · exact hc i hi
  · calc pidsOf s'.sessions + (l.detached + pidsOf (s.detached mv)) +
          (l.abandoned + pidsOf (s.abandoned env mv)) + (past + closed)
        = pidsOf s'.sessions + pidsOf (s.detached mv) + pidsOf (s.abandoned env mv) + closed +
          (l.detached + l.abandoned + past) := by abel
      _ = pidsOf s.sessions + l.detached + l.abandoned + past + mv.opened env env' := by
        rw [he]; abel
      _ = l.opened + mv.opened env env' := by rw [hw]
  · rcases Multiset.mem_add.1 hi with hi | hi
    · exact (hl.issued i hi).trans_le grows.nextPid
    · exact (fresh hi).2
  · have hn := Multiset.nodup_of_le (Move.opened_le env env' mv) (Multiset.nodup_Ico)
    refine Multiset.nodup_add.2 ⟨hl.distinct, hn, Multiset.disjoint_left.2 fun hi hi' => ?_⟩
    exact absurd (hl.issued _ hi) (not_lt.2 (fresh hi').1)

theorem sessions_leaving (s : Site) (kept gone : List Member) :
    sessions { s with pool := { s.pool with leaving := kept ++ gone } } =
      sessions { s with pool := { s.pool with leaving := kept } } + sessionsOf gone := by
  simp only [sessions, Pool.sessions, sessionsOf_append]
  show s.pool.stock + s.pool.tasked + (sessionsOf kept + sessionsOf gone) + s.charge.all =
    s.pool.stock + s.pool.tasked + sessionsOf kept + s.charge.all + sessionsOf gone
  abel

theorem Ledger.Sound.strand (hl : l.Sound env s) {kept gone : List Member}
    (hg : s.pool.leaving = kept ++ gone) :
    (l.strand gone).Sound env { s with pool := { s.pool with leaving := kept } } := by
  have split : s.sessions =
      sessions { s with pool := { s.pool with leaving := kept } } + sessionsOf gone := by
    rw [← sessions_leaving s kept gone, ← hg]
  obtain ⟨closed, hc, hw⟩ := hl.whole
  have honest := hl.honest
  rw [split] at hw honest
  refine ⟨⟨closed, hc, ?_⟩, hl.issued, hl.distinct, (honest_add.1 honest).1⟩
  rw [← show l.opened = (l.strand gone).opened from rfl, ← hw, pidsOf_add]
  show _ + l.detached + (l.abandoned + pidsOf (sessionsOf gone)) + closed = _
  abel

namespace Chronicle

theorem sound (h : Chronicle env s l) : l.Sound env s := by
  induction h with
  | created h =>
    have hs := sessions_create h
    exact ⟨⟨0, by simp, by simp [hs]⟩, by simp, Multiset.nodup_zero, by simp [Honest, hs]⟩
  | moved hc hm hh ih => exact ih.enter hc.reachable.regular hm hh
  | outside hc hm hu hh ih =>
    exact (ih.enter hc.reachable.regular hm hh).strand
      (leaving_eq hc.reachable.orderlyShut hm hu)

/-- **Each session that was opened is at one place**, whatever moves are made in whatever order. -/
theorem traced (h : Chronicle env s l) : s.Traced env l := by
  have hl := h.sound
  have hr := h.reachable
  refine ⟨?_, hl.distinct, hl.honest, abandoned_le_configuring hr.keyed hr.orderlyShut,
    fun ho _ _ _ hm hu _ hs => interrupted_of_stranded hr.lawful ho hm hu hs⟩
  obtain ⟨closed, hc, hw⟩ := hl.whole
  exact ⟨closed, hc, by rw [← hw, sessions_eq, pidsOf_add]⟩

/-- The first of two requests has been handed the session that was opened. -/
theorem traced_handed :
    ∃ env s l, record smallPool {} (twoRequests ++ [.step (.worker 0)]) = some (env, s, l) ∧
      s.pool.waiting.delivered.length = 1 ∧ firstPid ∈ l.opened ∧ s.Traced env l := by
  obtain ⟨env, s, l, hx, hp, hc, -⟩ := of_record smallPool {} (twoRequests ++ [.step (.worker 0)])
    (fun x => x.2.1.pool.waiting.delivered.length = 1 ∧ firstPid ∈ x.2.2.opened)
    (by decide +kernel)
  obtain ⟨hd, ho⟩ := of_decide_eq_true hp
  exact ⟨env, s, l, hx, hd, ho, traced hc⟩

end Chronicle

/-- A session was opened that nobody has: no user took it out of the pool, and it was not closed. -/
def Misses (env : Env) (s : Site) (l : Ledger) (i : Pid) : Prop :=
  i ∈ l.opened ∧ i ∉ pidsOf s.sessions ∧ i ∉ l.detached ∧ i ∉ env.server.closings

instance (env : Env) (s : Site) (l : Ledger) (i : Pid) : Decidable (s.Misses env l i) :=
  inferInstanceAs (Decidable (_ ∧ _))

/-- A hook that takes its time over a new session. -/
def slowHooks : Hooks := { configure := fun _ => [.execute "SLEEP 1000" true] }

/-- The pool is closed while a worker configures a session. -/
def closedTooEarly : List Move :=
  [.step (.worker 0), .step (.worker 0), .close 0, .step (.user 0), .step (.user 0),
    .step (.worker 0)]

/-- The pool is closed with an unused session, and its closing is given up while it waits for the
crew. -/
def closingGivenUp : List Move :=
  [.step (.worker 0), .step (.worker 0), .step (.worker 0), .close 0, .step (.user 0),
    .step (.user 0), .cancel 0]

/-- A hook that takes its time over a session that comes back. -/
def slowReset : Hooks := { reset := fun _ => [.execute "SLEEP 1000" true] }

/-- A member is taken and released, and its reset takes its time. -/
def resetInReturn : List Move :=
  [.step (.worker 0), .step (.worker 0), .step (.worker 0), .tryAcquire, .release 0 1,
    .step (.user 0), .step (.user 0)]

/-- **Sessions get lost when a pool is closed:** one that is being configured, and an unused one if
the closing is given up. **And one gets lost in an open pool** if its release is given up where
nobody closes a session on the side. -/
theorem Chronicle.missed :
    (∃ env s l, record smallPool slowHooks closedTooEarly = some (env, s, l) ∧
      Chronicle env s l ∧ s.Misses env l firstPid) ∧
    (∃ env s l, record smallPool {} closingGivenUp = some (env, s, l) ∧
      Chronicle env s l ∧ s.Misses env l firstPid) ∧
    (∃ env s l, Chronicle env s l ∧ s.pool.closed = false ∧ s.Misses env l firstPid) := by
  refine ⟨?_, ?_, ?_⟩
  · obtain ⟨env, s, l, hx, hp, hc, -⟩ := of_record smallPool slowHooks closedTooEarly
      (fun x => x.2.1.Misses x.1 x.2.2 firstPid) (by decide +kernel)
    exact ⟨env, s, l, hx, hc, of_decide_eq_true hp⟩
  · obtain ⟨env, s, l, hx, hp, hc, -⟩ := of_record smallPool {} closingGivenUp
      (fun x => x.2.1.Misses x.1 x.2.2 firstPid) (by decide +kernel)
    exact ⟨env, s, l, hx, hc, of_decide_eq_true hp⟩
  · obtain ⟨env, s, l, -, hp, hc, -⟩ := of_record smallPool slowReset resetInReturn
      (fun x => (x.2.1.move? x.1 (.cancel 0)).any fun y =>
        (x.2.1.outside y.2).pool.closed = false ∧ (x.2.1.outside y.2).Misses y.1
          ((x.2.2.enter x.1 x.2.1 (.cancel 0) y.1).strand (x.2.1.stranded y.2)) firstPid)
      (by decide +kernel)
    obtain ⟨⟨env', s'⟩, hm, hy⟩ := (Option.any_eq_true _ _).1 hp
    obtain ⟨ho, hy⟩ := of_decide_eq_true hy
    exact ⟨_, _, _, hc.outside hm rfl trivial, ho, hy⟩

end Site

end SessionPool
