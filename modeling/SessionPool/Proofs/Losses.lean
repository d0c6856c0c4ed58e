import SessionPool.Proofs.Chronicle
import SessionPool.Proofs.Expiry
import SessionPool.Proofs.Passing
import SessionPool.Proofs.Verdict

/-!
# Sessions that are lost while they come back

The return of a member makes its steps among those of others, and the server may end the session in
between (`Returning.Among`). A session that was lost before the hook is run on it, be it with its
transaction (`Session.isLostOnReturn`), is counted once, and the return counts nothing else
(`Returning.losses_counted`). One that is lost later is given up without being counted
(`Site.lost_uncounted`): what the hook and the status after it tell of the session is never that it
was lost.
-/

set_option autoImplicit false

namespace SessionPool

/-! ## Sessions that are looked at -/

namespace Session

variable {s : Session} {server : Server}

/-- A session that comes back is lost by the time that the transaction in which it was left, if any,
was to be rolled back. -/
def isLostOnReturn (s : Session) (server : Server) : Bool :=
  if (s.reported server).hasTransaction then (s.rollback server).1.isBroken (s.rollback server).2.1
  else s.isBroken server

/-- The rollback of a session that is there succeeds, or the session is lost with it. -/
theorem rollback_cases (hb : s.isBroken server = false) (hc : s.closed = false) :
    (∃ s', s.rollback server = (s', server, .ok ()) ∧ s'.pid = s.pid ∧
      s'.isBroken server = false) ∨
    ∃ s' server', s.rollback server = (s', server', .error .lost) ∧ s'.pid = s.pid ∧
      s'.isBroken server' = true := by
  have there : server.broken.contains s.pid = false := by simpa [isBroken, hc] using hb
  have usable : s.checkUsable server = (s, .ok ()) := by
    unfold checkUsable
    rw [if_neg (by simp [hc]), there, if_neg Bool.false_ne_true]
  unfold rollback
  rw [usable]
  dsimp only
  split
  · refine .inr ⟨_, _, rfl, rfl, ?_⟩
    simp [isBroken, hc, Server.breakSession]
  · exact .inl ⟨_, rfl, rfl, hb⟩

/-- A session that was lost is not found again. -/
theorem isBroken_grow {a b : Server} (h : s.isBroken a = true) (hg : a.Grows b) :
    s.isBroken b = true := by
  simp only [isBroken, Bool.and_eq_true, List.contains_iff_mem] at h ⊢
  exact ⟨h.1, hg.broken h.2⟩

end Session

/-! ## What is counted -/

namespace Pool

variable {p : Pool} {m : Member} {now : Instant}

/-- How many sessions the pool has found lost. -/
def lost (p : Pool) : Nat := p.counters.connectionsLost

@[simp] theorem lost_topUp : p.topUp.lost = p.lost := by
  rw [topUp_eq]
  rfl

@[simp] theorem lost_discard : (p.discard m).lost = p.lost :=
  congrArg Counters.connectionsLost (counters_discard p m)

@[simp] theorem lost_deliver : (p.deliver m now).lost = p.lost := by
  obtain ⟨⟨n, hc⟩, -⟩ := p.deliver_counts m now
  rw [lost, hc]
  rfl

/-- Only a member that was found lost is counted as lost. -/
theorem lost_settle (f : Fitness) :
    (p.settle m now f).lost = p.lost + if f = .lost then 1 else 0 := by
  cases f with
  | fit =>
    unfold settle
    dsimp only
    split
    · simp
    · split <;> simp
  | unfit | lost =>
    unfold settle
    rw [lost_topUp, lost_discard]
    rfl

theorem lost_breakOff : (p.breakOff m).lost = p.lost := lost_topUp (p := p.drop 1)

/-- A pool that keeps its sessions counts no loss when a member comes back. -/
theorem lost_receive {q : Pool} {m' : Member} {server : Server}
    (h : p.receive server m now = (q, m', true)) : q.lost = p.lost := by
  unfold receive at h
  dsimp only at h
  split at h
  · cases h
  · split at h <;> cases h
    unfold countUse
    split <;> rfl

end Pool

/-! ## Looking at a member -/

namespace Returning

/-- A member with the same number and the same session. -/
structure IsSame (m m' : Member) : Prop where
  id : m'.id = m.id
  pid : m'.session.pid = m.session.pid

/-- How a return stands once it has looked at its member, by whether the session was lost. -/
inductive Looks (m : Member) (lost : Prop) (server : Server) : Next Returning Unit → Prop
  | paused {m' : Member} {pause : Pause} (same : IsSame m m') (kept : ¬ lost) :
      Looks m lost server (.more (.paused m' pause))
  | settling {m' : Member} {f : Fitness} (same : IsSame m m') (found : f = .lost ↔ lost)
      (broken : lost → m'.session.isBroken server = true) :
      Looks m lost server (.more (.settling m' f))

section
variable {env : Env} {p : Pool} {m m₀ : Member} {lost : Prop}

theorem Looks.unlost {server : Server} {f : Fitness} (same : IsSame m₀ m) (hl : ¬ lost)
    (hf : f ≠ .lost) : Looks m₀ lost server (.more (.settling m f)) :=
  .settling same (iff_of_false hf hl) fun h => absurd h hl

/-- Whatever comes of the hook, it is not that the session was lost. -/
theorem looks_afterReset (hl : ¬ lost) (same : IsSame m₀ m) {x : Env × Session × Progress}
    (hx : x.2.1.pid = m.session.pid) :
    Looks m₀ lost (afterReset p m x).1.server (afterReset p m x).2.2 ∧
      (afterReset p m x).2.1 = p := by
  obtain ⟨e, s, (_ | ⟨⟨⟩⟩) | pause⟩ := x <;>
    have same : IsSame m₀ { m with session := s } := ⟨same.id, hx.trans same.pid⟩
  · exact ⟨.unlost same hl nofun, rfl⟩
  · unfold afterReset
    dsimp only
    split <;> exact ⟨.unlost same hl nofun, rfl⟩
  · exact ⟨.paused same hl, rfl⟩

theorem looks_runReset (hl : ¬ lost) (same : IsSame m₀ m) :
    Looks m₀ lost (runReset env p m).1.server (runReset env p m).2.2 ∧
      (runReset env p m).2.1.lost = p.lost := by
  obtain ⟨looks, hq⟩ := looks_afterReset (p := p.resetCall.1) hl same
    (Script.turns_run env m.session (p.hooks.reset p.hookCalls.reset)).pid
  exact ⟨looks, (congrArg Pool.lost hq).trans rfl⟩

/-- A look at a session tells whether it was lost, with its transaction if it was in one. -/
theorem looks_reset (env : Env) (p : Pool) (same : IsSame m₀ m) :
    Looks m₀ (m.session.isLostOnReturn env.server = true) (reset env p m).1.server
      (reset env p m).2.2 ∧ (reset env p m).2.1.lost = p.lost := by
  by_cases ht : (m.session.reported env.server).hasTransaction = true
  · obtain ⟨hb, hc⟩ : m.session.isBroken env.server = false ∧ m.session.closed = false :=
      Session.alive_of_reported (by rintro hs; rw [hs] at ht; cases ht)
    rw [reset_open ht, rollBack_eq, Session.isLostOnReturn, if_pos ht]
    rcases Session.rollback_cases hb hc with ⟨s, hr, hp, hb⟩ | ⟨s, server, hr, hp, hb⟩ <;> rw [hr]
    · exact looks_runReset (by simp [hb]) ⟨same.id, hp.trans same.pid⟩
    · exact ⟨.settling ⟨same.id, hp.trans same.pid⟩ (iff_of_true rfl hb) fun _ => hb, rfl⟩
  · rw [Session.isLostOnReturn, if_neg ht]
    unfold reset
    split
    · rename_i hb
      exact ⟨.settling same (iff_of_true rfl hb) fun _ => hb, rfl⟩
    · rename_i hb
      split
      · exact ⟨.unlost same hb nofun, rfl⟩
      · split <;> rename_i hs
        · exact looks_runReset hb same
        · simp [hs, Status.hasTransaction] at ht
        · simp [hs, Status.hasTransaction] at ht
        · exact ⟨.unlost same hb nofun, rfl⟩
        · exact ⟨.unlost same hb nofun, rfl⟩

end

end Returning

/-! ## Stints -/

/-- A step that a process makes, with others before it and after it that make theirs. -/
structure Stint where
  env : Env
  pool : Pool
  env' : Env
  pool' : Pool

/-- How many losses were counted in some stints. -/
def lostIn (stints : List Stint) : Int :=
  (stints.map fun t => (t.pool'.lost : Int) - t.pool.lost).sum

@[simp] theorem lostIn_nil : lostIn [] = 0 := rfl

@[simp] theorem lostIn_cons (t : Stint) (stints : List Stint) :
    lostIn (t :: stints) = t.pool'.lost - t.pool.lost + lostIn stints := by
  simp [lostIn]

namespace Returning

variable {m m' : Member} {stints : List Stint} {next : Next Returning Unit}

/-- What the return of a member comes to with some stints, the last of them first. It begins in a
pool that is open and keeps its sessions. From then on anything may happen between two stints, but
the pool stays responsible for the member, and the server forgets no session that was lost. -/
inductive Among (m : Member) : List Stint → Next Returning Unit → Prop
  | comes : Among m [] (.more (.arriving m))
  | goesOn {stints : List Stint} {r : Returning} {next : Next Returning Unit} (t : Stint)
      (h : Among m stints (.more r)) (step : r.step t.env t.pool = some (t.env', t.pool', next))
      (opens : stints = [] → t.pool.closed = false ∧ t.pool.isNull = false)
      (size : 0 < t.pool.size)
      (grows : ∀ last ∈ stints.head?, last.env'.server.Grows t.env.server) :
      Among m (t :: stints) next

variable {env : Env} {p : Pool} {x : Stepped Returning Unit}

theorem Among.run {r : Returning} (h : Among m stints (.more r)) (step : r.step env p = some x)
    (opens : stints = [] → p.closed = false ∧ p.isNull = false) (size : 0 < p.size)
    (grows : ∀ last ∈ stints.head?, last.env'.server.Grows env.server) :
    Among m (⟨env, p, x.1, x.2.1⟩ :: stints) x.2.2 :=
  .goesOn ⟨env, p, x.1, x.2.1⟩ h step opens size grows

/-- In a pool that keeps its sessions a return goes on, unless the pool was closed before it
began. -/
theorem Among.advance {r : Returning} (h : Among m stints (.more r)) (step : r.step env p = some x)
    (hn : p.isNull = false) (size : 0 < p.size)
    (grows : ∀ last ∈ stints.head?, last.env'.server.Grows env.server) :
    (∃ m', x.2.2 = .more (.closing m')) ∨ Among m (⟨env, p, x.1, x.2.1⟩ :: stints) x.2.2 := by
  cases h with
  | comes =>
    cases hc : p.closed with
    | false => exact .inr (Among.comes.run step (fun _ => ⟨hc, hn⟩) size grows)
    | true =>
      obtain ⟨c, -, hu⟩ := p.countUse_eq m env.now
      have closing : (p.receive env.server m env.now).2.2 = false := by
        simp [Pool.receive, hu, Pool.recount, hc]
      simp only [Returning.step] at step
      split at step <;> rename_i hr <;> rw [hr] at closing <;> cases closing
      cases step
      exact .inl ⟨_, rfl⟩
  | goesOn t h₀ step₀ opens size₀ grows₀ =>
    exact .inr ((Among.goesOn t h₀ step₀ opens size₀ grows₀).run step
      (fun h => absurd h (List.cons_ne_nil _ _)) size grows)

/-- The entry of what a member turned out to be. -/
structure Settled (m : Member) (lost : Prop) (t : Stint) (m' : Member) (f : Fitness) : Prop where
  same : IsSame m m'
  entered : t.pool' = t.pool.settle m' t.env.now f
  found : f = .lost ↔ lost
  broken : lost → m'.session.isBroken t.env.server = true
  dismissed : lost → t.pool.Dismisses m.id t.pool'

/-- How far a return has come, and what it has counted. -/
inductive Stands (m : Member) : List Stint → Next Returning Unit → Prop
  | comes : Stands m [] (.more (.arriving m))
  | taken {arrived : Stint} {m' : Member} (calm : lostIn [arrived] = 0) (id : m'.id = m.id)
      (session : m'.session = m.session) : Stands m [arrived] (.more (.resetting m'))
  | looked {last look arrived : Stint} {before pauses : List Stint} {next : Next Returning Unit}
      (row : last :: before = pauses ++ [look, arrived]) (calm : lostIn (last :: before) = 0)
      (looks : Looks m (m.session.isLostOnReturn look.env.server = true) last.env'.server next) :
      Stands m (last :: before) next
  | settled {settled look arrived : Stint} {before pauses : List Stint} {m' : Member} {f : Fitness}
      (row : before = pauses ++ [look, arrived])
      (entry : Settled m (m.session.isLostOnReturn look.env.server = true) settled m' f)
      (counted : lostIn (settled :: before) =
        if m.session.isLostOnReturn look.env.server then 1 else 0) :
      Stands m (settled :: before) (.done ())

namespace Stands

variable {t : Stint}

theorem take (opens : t.pool.closed = false ∧ t.pool.isNull = false)
    (h : step t.env t.pool (.arriving m) = some (t.env', t.pool', next)) : Stands m [t] next := by
  simp only [step] at h
  split at h <;> rename_i hr
  · simp only [Option.some.injEq, Prod.mk.injEq] at h
    obtain ⟨-, rfl, rfl⟩ := h
    obtain ⟨c, -, -, hm⟩ := Pool.receive_true hr
    refine .taken ?_ (hm ▸ rfl) (hm ▸ rfl)
    rw [lostIn_cons, Pool.lost_receive hr, sub_self, lostIn_nil, add_zero]
  · have := t.pool.receive_of_open opens.1 opens.2 t.env.server m t.env.now
    rw [hr] at this
    cases this

theorem look {arrived : Stint} (calm : lostIn [arrived] = 0) (id : m'.id = m.id)
    (session : m'.session = m.session)
    (h : step t.env t.pool (.resetting m') = some (t.env', t.pool', next)) :
    Stands m [t, arrived] next := by
  obtain ⟨looks, lost⟩ := looks_reset t.env t.pool
    (show IsSame m m' from ⟨id, congrArg Session.pid session⟩)
  rw [Option.some.inj h, session] at *
  refine .looked (show _ = [] ++ [t, arrived] from rfl) ?_ looks
  rw [lostIn_cons, lost, sub_self, calm, add_zero]

variable {last look arrived : Stint} {before pauses : List Stint}

theorem resume {pause : Pause} (row : last :: before = pauses ++ [look, arrived])
    (calm : lostIn (last :: before) = 0)
    (looks : Looks m (m.session.isLostOnReturn look.env.server = true) last.env'.server
      (.more (.paused m' pause)))
    (h : step t.env t.pool (.paused m' pause) = some (t.env', t.pool', next)) :
    Stands m (t :: last :: before) next := by
  obtain ⟨same, kept⟩ := looks
  simp only [step, Option.ite_none_right_eq_some, Option.some.injEq] at h
  obtain ⟨looks, hq⟩ := looks_afterReset (p := t.pool) kept same
    (Script.turns_resume t.env m'.session pause).pid
  rw [h.2] at looks hq
  refine .looked (show _ = t :: pauses ++ _ from congrArg (t :: ·) row) ?_ looks
  have hq : t.pool' = t.pool := hq
  rw [lostIn_cons, calm, hq, sub_self, add_zero]

theorem settle {f : Fitness} (row : last :: before = pauses ++ [look, arrived])
    (calm : lostIn (last :: before) = 0)
    (looks : Looks m (m.session.isLostOnReturn look.env.server = true) last.env'.server
      (.more (.settling m' f)))
    (size : 0 < t.pool.size) (grows : last.env'.server.Grows t.env.server)
    (h : step t.env t.pool (.settling m' f) = some (t.env', t.pool', next)) :
    Stands m (t :: last :: before) next := by
  obtain - | ⟨same, found, broken⟩ := looks
  have entered : t.pool' = t.pool.settle m' t.env.now f := by
    rw [← pool_settle t.env, Option.some.inj h]
  obtain rfl : .done () = next := congrArg (·.2.2) (Option.some.inj h)
  refine .settled row ⟨same, entered, found, fun hl => Session.isBroken_grow (broken hl) grows,
    fun hl => ?_⟩ ?_
  · rw [entered, ← same.id]
    exact Pool.dismisses_settle size fun hf => by cases hf.symm.trans (found.2 hl)
  · rw [lostIn_cons, calm, entered, Pool.lost_settle]
    by_cases hf : f = .lost
    · simp [hf, found.1 hf]
    · simp [hf, mt found.2 hf]

end Stands

theorem stands_of_among (h : Among m stints next) : Stands m stints next := by
  induction h with
  | comes => exact .comes
  | @goesOn stints r next t h step opens size grows ih =>
    cases ih with
    | comes => exact .take (opens rfl) step
    | taken calm id session => exact .look calm id session step
    | looked row calm looks =>
      cases r with
      | paused m' pause => exact .resume row calm looks step
      | settling m' f => exact .settle row calm looks size (grows _ rfl) step
      | arriving | closing | resetting => cases looks

/-- The session was found lost, which is entered next. -/
def isLoss : Returning → Bool
  | settling _ .lost => true
  | settling _ .fit | settling _ .unfit | arriving _ | closing _ | resetting _ | paused _ _ => false

theorem Among.not_closing {r : Returning} (h : Among m stints (.more r)) (m' : Member) :
    r ≠ .closing m' := by
  rintro rfl
  cases stands_of_among h with
  | looked _ _ looks => cases looks

/-- What a return has counted when it is over, by whether the session was lost when it was looked
at. -/
def Counted (m : Member) (stints : List Stint) : Prop :=
  ∃ settled pauses look arrived m' f, stints = settled :: (pauses ++ [look, arrived]) ∧
    Settled m (m.session.isLostOnReturn look.env.server = true) settled m' f ∧
    (lostIn stints = if m.session.isLostOnReturn look.env.server then 1 else 0) ∧
    (m'.session.isBroken settled.env.server = false → lostIn stints = 0)

end Returning

namespace Site

variable {env env' : Env} {s s' : Site} {l : Ledger} {mv : Move} {party : Party} {r : Returning}

/-! ## Returns in a chronicle -/

theorem grows_move (h : Reachable env s) (hm : s.move? env mv = some (env', s'))
    (hh : mv.IsHonest env s) : env.server.Grows env'.server := by
  rcases passes_uses_or_tends h.keyed h.balanced h.orderlyShut hm hh with
    ⟨-, -, hg⟩ | ⟨-, rfl⟩ | ⟨-, ht⟩
  · exact hg
  · exact .refl _
  · exact Tended.grows ht

theorem stake_returning (hk : s.Keyed) (hr : s.returning? party = some r) :
    ∃ rest, s.stake = r.stake + rest := by
  cases party with
  | worker k =>
    obtain ⟨j, hg, hj⟩ := Option.bind_eq_some_iff.1 hr
    cases j with
    | returning r' =>
      cases hj
      exact ⟨_, stake_job hk hg⟩
    | adding | closing | maintaining => cases hj
  | user n =>
    obtain ⟨o, hg, ho⟩ := Option.bind_eq_some_iff.1 hr
    cases o with
    | release r' =>
      cases ho
      exact ⟨_, stake_operation hk hg⟩
    | acquire | misplace | wait | check | close => cases ho
  | ticker _ | closer _ => cases hr

/-- The pool is responsible for a member that it takes back. -/
theorem size_pos_of_returning (h : Reachable env s) (hr : s.returning? party = some r)
    (hc : ∀ m, r ≠ .closing m) : 0 < s.pool.size := by
  obtain ⟨rest, hs⟩ := stake_returning h.keyed hr
  have counted : r.counted = [r.member] := by
    cases r with
    | closing m => exact absurd rfl (hc m)
    | arriving | resetting | paused | settling => rfl
  have one : r.stake.counted.card = 1 := by
    rw [Returning.stake, counted]
    rfl
  have books := h.balanced.size
  rw [hs, Stake.counted_add, Stake.counted_add, Multiset.card_add, Multiset.card_add, one] at books
  omega

/-- **The returns of a pool that keeps its sessions make their steps among those of others**, unless
the pool was closed before they began. -/
theorem Chronicle.among (h : Chronicle env s l) (hn : s.pool.isNull = false)
    (hr : s.returning? party = some r) :
    (∃ m, r = .closing m) ∨ ∃ m stints, Returning.Among m stints (.more r) ∧
      ∀ last ∈ stints.head?, last.env'.server.Grows env.server := by
  induction h generalizing r with
  | created h =>
    rw [returning?_create h] at hr
    cases hr
  | @moved env env' s s' l mv h hm hh ih | @outside env env' s s' l mv h hm _ hh ih =>
    have reached := h.reachable
    have hn : s.pool.isNull = false := (reached.steady hm).isNull.symm.trans hn
    have grows := grows_move reached hm hh
    rcases returning_origin reached.keyed hm hr with hr | ⟨r₀, -, hr₀, hs⟩ | ⟨m, rfl⟩
    · refine (ih hn hr).imp_right ?_
      rintro ⟨m, stints, among, past⟩
      exact ⟨m, stints, among, fun last hl => (past last hl).trans grows⟩
    · rcases ih hn hr₀ with ⟨m, rfl⟩ | ⟨m, stints, among, past⟩
      · nomatch congrArg (·.2.2) (Option.some.inj hs)
      · have size := size_pos_of_returning reached hr₀ among.not_closing
        rcases among.advance hs hn size past with ⟨m', hm'⟩ | among
        · exact .inl ⟨m', Next.more.inj hm'⟩
        · exact .inr ⟨m, _, among, by simp [Server.Grows.refl]⟩
    · exact .inr ⟨m, [], .comes, by simp⟩

/-- **A session that is lost before the hook runs on it is counted once**, and its member is
dismissed. The returns of a pool that keeps its sessions make their steps among those of others,
unless the member is closed because the pool was closed before. A return that is over has counted
the loss that it found, and none if the session is still there; one that is broken off has counted
nothing. -/
theorem losses_counted (h : Chronicle env s l) (hn : s.pool.isNull = false) :
    (∀ party r x, s.returning? party = some r → r.step env s.pool = some x →
      (∃ m, r = .closing m ∨ x.2.2 = .more (.closing m)) ∨
      ∃ m stints, Returning.Among m stints (.more r) ∧
        Returning.Among m (⟨env, s.pool, x.1, x.2.1⟩ :: stints) x.2.2) ∧
    (∀ m stints, Returning.Among m stints (.done ()) → Returning.Counted m stints) ∧
    ∀ m stints r, Returning.Among m stints (.more r) →
      lostIn stints = 0 ∧ ∀ p : Pool, (p.breakOff r.member).lost = p.lost := by
  refine ⟨fun party r x hr hs => ?_, fun m stints h => ?_,
    fun m stints r h => ⟨?_, fun p => Pool.lost_breakOff⟩⟩
  · rcases h.among hn hr with ⟨m, rfl⟩ | ⟨m, stints, among, past⟩
    · exact .inl ⟨m, .inl rfl⟩
    · have size := size_pos_of_returning h.reachable hr among.not_closing
      rcases among.advance hs hn size past with ⟨m', hx⟩ | next
      · exact .inl ⟨m', .inr hx⟩
      · exact .inr ⟨m, stints, among, next⟩
  · cases Returning.stands_of_among h with
    | looked _ _ looks => cases looks
    | @settled settled look arrived before pauses m' f row entry counted =>
      refine ⟨settled, pauses, look, arrived, m', f, row ▸ rfl, entry, counted, fun hb => ?_⟩
      have kept : ¬ m.session.isLostOnReturn look.env.server = true := fun hl => by
        rw [entry.broken hl] at hb
        cases hb
      rw [counted, if_neg kept]
  · cases Returning.stands_of_among h with
    | comes => rfl
    | taken calm | looked _ calm => exact calm

/-- Meanwhile the server has ended the first session. -/
def endedMeanwhile (env : Env) : Env :=
  { env with now := .ofTick 100, server := env.server.terminate firstPid }

/-- The worker takes the only member back and looks at it. -/
def lookedAt : List Move := .giveBack 1 :: List.replicate 3 (.step (.worker 0))

/-- The server ends a session while somebody uses it. -/
theorem losses_counted_ended :
    ∃ env s l r x m stints, Chronicle env s l ∧ s.returning? (.worker 0) = some r ∧
      r.step env s.pool = some x ∧
      Returning.Counted m (⟨env, s.pool, x.1, x.2.1⟩ :: stints) ∧
      lostIn (⟨env, s.pool, x.1, x.2.1⟩ :: stints) = 1 := by
  obtain ⟨env, s, l, -, hp, h, -⟩ := Chronicle.of_record smallPool {}
    (List.replicate 3 (.step (.worker 0)) ++ [.tryAcquire])
    (fun x => decide (x.1.now ≤ .ofTick 100) &&
      (enterAll (endedMeanwhile x.1) x.2.1 x.2.2 lookedAt).any fun y =>
        decide (y.2.1.pool.isNull = false) &&
          (y.2.1.returning? (.worker 0)).any Returning.isLoss)
    (by decide +kernel)
  obtain ⟨ht, hp⟩ := Bool.and_eq_true_iff.1 hp
  obtain ⟨⟨env', s', l'⟩, hm, hp⟩ := (Option.any_eq_true _ _).1 hp
  obtain ⟨hn, hp⟩ := Bool.and_eq_true_iff.1 hp
  obtain ⟨r, hr, hp⟩ := (Option.any_eq_true _ _).1 hp
  have h : Chronicle (endedMeanwhile env) s l :=
    h.later (of_decide_eq_true ht) (env.server.rests_terminate firstPid).toGrows
  have h := (h.enterAll (by decide) hm).1
  obtain ⟨among, counted, calm⟩ := losses_counted h (of_decide_eq_true hn)
  cases r with
  | settling m f =>
    cases f with
    | lost =>
      rcases among _ _ (Returning.settle env' s'.pool m .lost) hr rfl with
        ⟨_, hc | hc⟩ | ⟨m', stints, before, run⟩
      · cases hc
      · cases hc
      refine ⟨env', s', l', _, _, m', stints, h, hr, rfl, counted _ _ run, ?_⟩
      rw [lostIn_cons, (calm _ _ _ before).1, Returning.pool_settle, Pool.lost_settle]
      simp
    | fit | unfit => cases hp
  | arriving | closing | resetting | paused => cases hp

end Site

/-! ## Losses that are not counted -/

/-- The member that the job enters next as what it turned out to be. -/
def Job.settles? : Job → Option Member
  | returning (.settling m _) => some m
  | adding _ | returning _ | closing _ | maintaining => none

namespace Site

/-- With the step of a worker the return of a member ends whose session is lost, in an open pool
that keeps its sessions. The member is going to be closed, and the pool has never counted a
loss. -/
def LosesUncounted (env : Env) (s : Site) (k : Nat) : Prop :=
  s.pool.isNull = false ∧ s.pool.closed = false ∧
    ∃ j ∈ Table.get? s.jobs k, ∃ m ∈ j.settles?, m.session.isBroken env.server = true ∧
      ∃ x ∈ s.move? env (.step (.worker k)), x.2.pool.lost = 0 ∧
        x.2.pool.goers.map Member.id = s.pool.goers.map Member.id ++ [m.id]

instance (env : Env) (s : Site) (k : Nat) : Decidable (s.LosesUncounted env k) :=
  inferInstanceAs (Decidable (_ ∧ _ ∧ ∃ _ ∈ Table.get? s.jobs k, ∃ _ ∈ _, _ ∧ ∃ _ ∈ _, _))

/-- While the hook runs, the server ends the session. -/
def endedByHook : Hooks := { reset := fun _ => [.terminate] }

def slowHook : Hooks := { reset := fun _ => [.execute "SLEEP 100" true] }

/-- The worker takes the only member back, which has been used, and runs the hook on it. -/
def takenBack : List (Instant × List Move) :=
  [(.ofTick 0, List.replicate 3 (.step (.worker 0)) ++ .tryAcquire :: .giveBack 1 ::
    List.replicate 3 (.step (.worker 0)))]

/-- **Sessions that are lost while the hook runs on them are not counted**, whether the hook leaves
them in another status or fails. -/
theorem lost_uncounted :
    (∃ x, timeline smallPool endedByHook takenBack = some x ∧ Reachable x.1 x.2 ∧
      x.2.LosesUncounted x.1 0) ∧
    ∃ x y, timeline smallPool slowHook takenBack = some x ∧
      moves? x.1 x.2 [.pass (endedMeanwhile x.1), .step (.worker 0)] = some y ∧
      Reachable y.1 y.2 ∧ y.2.LosesUncounted y.1 0 := by
  refine ⟨?_, ?_⟩
  · obtain ⟨x, hx, hp⟩ := (Option.any_eq_true _ _).1 (show
      (timeline smallPool endedByHook takenBack).any (fun x => x.2.LosesUncounted x.1 0) = true
      by decide +kernel)
    exact ⟨x, hx, .timeline hx, of_decide_eq_true hp⟩
  · obtain ⟨x, hx, hp⟩ := (Option.any_eq_true _ _).1 (show
      (timeline smallPool slowHook takenBack).any (fun x =>
        (moves? x.1 x.2 [.pass (endedMeanwhile x.1), .step (.worker 0)]).any fun y =>
          y.2.LosesUncounted y.1 0) = true
      by decide +kernel)
    obtain ⟨y, hy, hp⟩ := (Option.any_eq_true _ _).1 hp
    exact ⟨x, y, hx, hy, (Reachable.timeline hx).moves hy, of_decide_eq_true hp⟩

end Site

end SessionPool
