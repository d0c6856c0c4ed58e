import SessionPool.Proofs.Conduct
import SessionPool.Proofs.Run

/-!
# Moves tend sessions

Every move but a lapse of time, and but for what a user does to the session of a member, tends the
sessions of the pool and of all parties (`Site.tended_move`), apart from those that it lets go: a
session that was being configured, the unused ones of a pool whose closing is given up, one that is
left behind with a stopped crew (`Site.abandoned`), and one that its user takes out of the pool
(`Site.detached`). From this follow the terms that a pool keeps to (`Site.steady_move`), and that a
crew is stopped only after the pool was closed (`Site.Reachable.orderlyShut`).
-/

set_option autoImplicit false

namespace SessionPool.Site

variable {env env' : Env} {s s' : Site}

/-! ## Shares in the sessions of a site -/

def worn (m : Member) : Charge := .ofWorn {m.session}

theorem ofWorn_sessionsOf (ms : List Member) :
    Charge.ofWorn (sessionsOf ms) = (ms.map worn).sum := by
  induction ms with
  | nil => rfl
  | cons m ms ih => rw [sessionsOf_cons, Charge.ofWorn_add, ih, List.map_cons, List.sum_cons, worn]

/-- The sessions of all parties add up. -/
theorem charge_eq_sum (s : Site) : s.charge = s.sum worn Job.charge Operation.charge := by
  rw [charge, sum, ofWorn_sessionsOf]

theorem charge_job (hk : s.Keyed) {k : Nat} {j : Job} (hg : Table.get? s.jobs k = some j) :
    s.charge = j.charge + { s with jobs := Table.remove s.jobs k }.charge := by
  rw [charge_eq_sum, charge_eq_sum]
  exact sum_job _ _ _ hk.jobs hg

theorem charge_putJob (k : Nat) (j : Job) :
    { s with jobs := Table.put s.jobs k j }.charge =
      j.charge + { s with jobs := Table.remove s.jobs k }.charge := by
  rw [charge_eq_sum, charge_eq_sum]
  exact sum_putJob _ _ _ k j

theorem charge_takeJob {k : Nat} (hg : Table.get? s.jobs k = none) (j : Job) :
    { s with jobs := Table.put s.jobs k j }.charge = j.charge + s.charge := by
  rw [charge_eq_sum, charge_eq_sum]
  exact sum_takeJob _ _ _ hg j

theorem charge_operation (hk : s.Keyed) {n : Nat} {o : Operation}
    (hg : Table.get? s.operations n = some o) :
    s.charge = o.charge + { s with operations := Table.remove s.operations n }.charge := by
  rw [charge_eq_sum, charge_eq_sum]
  exact sum_operation _ _ _ hk.operations hg

theorem charge_updateOperation (hk : s.Keyed) {n : Nat} {o : Operation}
    (hg : Table.get? s.operations n = some o) (o' : Operation) :
    { s with operations := Table.update s.operations n o' }.charge =
      o'.charge + { s with operations := Table.remove s.operations n }.charge := by
  rw [charge_eq_sum, charge_eq_sum]
  exact sum_updateOperation _ _ _ hk.operations hg o'

theorem charge_start (n : Nat) (o : Operation) : (s.start n o).charge = s.charge + o.charge := by
  rw [charge_eq_sum, charge_eq_sum]
  exact sum_start _ _ _ n o

theorem charge_conclude (n : Nat) (outcome : Outcome) :
    (s.conclude n outcome).charge =
      handed worn outcome + { s with operations := Table.remove s.operations n }.charge := by
  rw [charge_eq_sum, charge_eq_sum]
  exact sum_conclude _ _ _ n outcome

theorem charge_hold (m : Member) :
    { s with held := s.held ++ [m] }.charge = worn m + s.charge := by
  rw [charge_eq_sum, charge_eq_sum]
  exact sum_hold _ _ _ m

theorem charge_letGo (hd : s.HeldApart) {id : Nat} {m : Member} (h : s.heldMember? id = some m) :
    s.charge = worn m + (s.letGo id).charge := by
  rw [charge_eq_sum, charge_eq_sum]
  exact sum_letGo _ _ _ (perm_held hd h)

/-- The session of the member that a user holds is changed, and no other. -/
theorem charge_setSession (hd : s.HeldApart) {id : Nat} {m : Member}
    (h : s.heldMember? id = some m) (session : Session) :
    (s.setSession id session).charge = .ofWorn {session} + (s.letGo id).charge := by
  have hi : m.id = id := by simpa using List.find?_some h
  have hp : (s.setSession id session).held.Perm ({ m with session } :: (s.letGo id).held) := by
    have hm := (perm_held hd h).map fun m => if m.id = id then { m with session } else m
    refine hm.trans (.of_eq ?_)
    rw [List.map_cons, if_pos hi]
    congr 1
    conv_rhs => rw [← List.map_id (s.letGo id).held]
    refine List.map_congr_left fun x hx => ?_
    have : x.id ≠ id := by simpa using (List.mem_filter.1 hx).2
    simp [this]
  rw [charge_eq_sum, charge_eq_sum]
  simp only [sum, ((hp.map worn).sum_eq), List.map_cons, List.sum_cons]
  simp only [setSession, letGo, worn]
  abel

theorem setSession_of_none {id : Nat} (h : s.heldMember? id = none) (session : Session) :
    s.setSession id session = s := by
  have hm : s.held.map (fun m => if m.id = id then { m with session } else m) = s.held := by
    conv_rhs => rw [← List.map_id s.held]
    refine List.map_congr_left fun m hm => ?_
    have : m.id ≠ id := by simpa using List.find?_eq_none.1 h m hm
    simp [this]
  simp only [setSession, hm]

/-! ## What a move lets go -/

/-- The sessions that a move lets go without closing them: one that was being configured, because
the crew was stopped, the time of a request was up or its caller went away; those that were still
to be closed when the closing of the pool is given up; one that is left behind after the crew was
stopped. A move that is made outside lets go also of the members that it strands. -/
def abandoned (env : Env) (s : Site) : Move → Multiset Session
  | .step (.worker k) => ((Table.get? s.jobs k).map (Job.abandoned s.pool)).getD 0
  | .step (.user n) => ((Table.get? s.operations n).map (Operation.abandoned env s.pool)).getD 0
  | .cancel n => ((Table.get? s.operations n).map Operation.dropped).getD 0
  | .leaveBehind id => if s.pool.crew.stopped then sessionsOf (s.heldMember? id).toList else 0
  | _ => 0

/-- The session that a user takes out of the pool. -/
def detached (s : Site) : Move → Multiset Session
  | .detach id => sessionsOf (s.heldMember? id).toList
  | _ => 0

/-- Whether the move leaves the session of a member alone and the server to itself. -/
def Move.isPlain : Move → Bool
  | .use _ _ | .pass _ => false
  | .step _ | .acquire _ _ | .wait _ _ | .check _ | .close _ | .release _ _ | .misplace _ _
  | .cancel _ | .tryAcquire | .giveBack _ | .leaveBehind _ | .detach _ | .resize _ _
  | .resetCounters | .readOutcome _ => true

/-- Users close sessions through the server, and the server forgets nothing. -/
def Move.IsHonest (env : Env) (s : Site) : Move → Prop
  | .use id session => ∀ m, s.heldMember? id = some m →
    m.session.Becomes env.server env.server session
  | .pass env' => env.server.Grows env'.server
  | _ => True

/-- Whatever the probes that go on still do, the sessions are ready if they succeed. -/
def Sure (env : Env) (s : Site) : Prop :=
  ∀ n o, Table.get? s.operations n = some o → o.Sure env

/-- A crew is stopped, and an operation waits for it, only after the pool was closed. -/
structure OrderlyShut (s : Site) : Prop where
  stopped : s.pool.crew.stopped = true → s.pool.closed = true
  operations : ∀ n o, Table.get? s.operations n = some o → o.hasShut = true → s.pool.closed = true

/-- What a move does to sessions, apart from those that it lets go. -/
def Tends (C : Prop) (env : Env) (s : Site) (env' : Env) (s' : Site) (lost : Multiset Session) :
    Prop :=
  Tended C env s.pool s.charge env' s'.pool (s'.charge + .ofWorn lost)

namespace Tends

variable {C : Prop} {lost : Multiset Session} {a b rest : Charge}

/-- One party acts, and the others keep what they have in hand. -/
theorem share (ha : s.charge = a + rest) (hb : s'.charge = b + rest)
    (h : Tended C env s.pool a env' s'.pool (b + .ofWorn lost)) : Tends C env s env' s' lost := by
  rw [Tends, ha, hb, add_right_comm]
  exact h.frame rest

/-- Whoever acts has nothing in hand before and after. -/
theorem empty (hc : s'.charge = s.charge) (h : Tended C env s.pool 0 env' s'.pool 0) :
    Tends C env s env' s' 0 :=
  share (zero_add _).symm (hc.trans (zero_add _).symm) h.whole

/-- Nothing is done to any session. -/
theorem aside (hc : s'.charge = s.charge) (h : s.pool.Handled 0 s'.pool 0)
    (hs : env'.server = env.server) : Tends C env s env' s' 0 := empty hc (.handled h hs)

/-- An operation starts that has nothing in hand yet. -/
theorem start (n : Nat) {o : Operation} (ho : o.charge = 0) : Tends C env s env (s.start n o) 0 :=
  aside (by rw [charge_start, ho, add_zero]) .refl rfl

variable {id : Nat} {m : Member}

/-- An operation starts with a member that a user lets go. -/
theorem startWith (hd : s.HeldApart) (h : s.heldMember? id = some m) (n : Nat) {o : Operation}
    (ho : o.charge = worn m) : Tends C env s env ((s.letGo id).start n o) 0 :=
  aside (by rw [charge_start, ho, charge_letGo hd h, add_comm]) .refl rfl

/-- A user lets a member go. -/
theorem letGo (hd : s.HeldApart) (h : s.heldMember? id = some m) {q : Pool}
    (hq : s.pool.Handled (worn m) q (.ofWorn lost)) (hs : env'.server = env.server) :
    Tends C env s env' { s.letGo id with pool := q } lost := by
  refine share (b := 0) (charge_letGo hd h) (zero_add _).symm ?_
  rw [zero_add]
  exact .handled hq hs

end Tends

theorem leavingApart (hb : s.pool.Balanced s.stake) : (s.pool.leaving.map Member.id).Nodup := by
  have hle : idsOf s.pool.leaving ≤ idsOf s.pool.members + s.stake.counted + s.stake.spare := by
    rw [Pool.members, idsOf_append, add_assoc, add_assoc]
    exact (Multiset.le_add_right _ _).trans (Multiset.le_add_left _ _)
  exact Multiset.coe_nodup.1 (Multiset.nodup_of_le hle hb.numbered_members.1)

/-- The last of the members that are about to be closed is closed. -/
theorem step_closer_last (env : Env) {kept : List Member} {m : Member}
    (hl : s.pool.leaving = kept ++ [m]) (ha : (s.pool.leaving.map Member.id).Nodup) :
    s.step env (.closer m.id) =
      some (m.close env, { s with pool := { s.pool with leaving := kept } }) := by
  rw [hl] at ha
  have others : ∀ x ∈ kept, x.id ≠ m.id := fun x hx e => by
    rw [List.map_append, List.nodup_append] at ha
    exact ha.2.2 _ (List.mem_map_of_mem hx) _ (List.mem_map_of_mem (.head _)) e
  have found : s.pool.leaving.find? (fun x => x.id = m.id) = some m := by
    rw [hl, List.find?_append, List.find?_eq_none.2 fun x hx => by simpa using others x hx]
    simp
  have left : s.pool.leaving.filter (fun x => !decide (x.id = m.id)) = kept := by
    rw [hl, List.filter_append, List.filter_eq_self.2 fun x hx => by simpa using others x hx]
    simp
  simp only [step, stepCloser, found, left]
  rfl

/-- **What a move does to sessions.** -/
theorem tended_move (hk : s.Keyed) (hb : s.pool.Balanced s.stake) (hs : s.OrderlyShut) {mv : Move}
    (h : s.move? env mv = some (env', s')) (hp : mv.isPlain = true) :
    Tends (s.pool.hooks.TidyProbe ∧ s.Sure env) env s env' s'
      (s.abandoned env mv + s.detached mv) := by
  have hd := HeldApart.of_balanced hb
  have job {k : Nat} {j : Job} (hg : Table.get? s.jobs k = some j) :
      s.abandoned env (.step (.worker k)) + s.detached (.step (.worker k)) =
        j.abandoned s.pool := by
    simp [abandoned, detached, hg]
  have seeking {k : Nat} (hg : Table.get? s.jobs k = none) :
      s.abandoned env (.step (.worker k)) + s.detached (.step (.worker k)) = 0 := by
    simp [abandoned, detached, hg]
  have operation {n : Nat} {o : Operation} (hg : Table.get? s.operations n = some o) :
      s.abandoned env (.step (.user n)) + s.detached (.step (.user n)) =
        o.abandoned env s.pool := by
    simp [abandoned, detached, hg]
  cases moved h with
  | passed | use => cases hp
  | worked hg hj =>
    rw [job hg]
    exact .share (charge_job hk hg) (charge_putJob _ _) (Job.tended hj)
  | finished hg hj =>
    rw [job hg]
    refine .share (charge_job hk hg) (zero_add _).symm ((Job.tended hj).trans (.handled ?_ rfl))
    exact .aside rfl rfl rfl rfl rfl
  | sought hg hj =>
    obtain ⟨hst, ht⟩ := Crew.seek_cases hj
    rw [seeking hg]
    refine .aside rfl (.aside ?_ rfl rfl ht.symm rfl) rfl
    simp only [Pool.terms, hst]
  | took hg hj =>
    obtain ⟨hst, ht⟩ := Crew.seek_cases hj
    rw [seeking hg]
    refine .share (zero_add _).symm (charge_takeJob hg _) (Tended.whole ?_)
    rw [Job.charge_start]
    exact .handled (.takeTask ht hst) rfl
  | ticked ht =>
    obtain ⟨-, hse, hst, hc⟩ := Crew.tick_cases ht
    refine .aside rfl ?_ hse
    rcases hc with hc | hc
    · refine .aside ?_ rfl rfl hc rfl
      simp only [Pool.terms, hst]
    · exact .queueTask (t := .maintain) hc hst
  | closed hm =>
    have hg := Member.perm_find (leavingApart hb) hm
    have departed := Pool.Handled.depart (show s.pool.leaving.Perm ([_] ++ _) from hg)
    exact .empty rfl (Tended.trans (.handled departed rfl) (.closes rfl))
  | wentOn hg ho =>
    rw [operation hg]
    have ht := Operation.tended hb.sound (hs.operations _ _ hg) ho
    exact .share (charge_operation hk hg) (charge_updateOperation hk hg _)
      (ht.mono fun hC => ⟨hC.1, hC.2 _ _ hg⟩)
  | @ended n o _ q outcome hg ho =>
    rw [operation hg]
    have ht := Operation.tended hb.sound (hs.operations _ _ hg) ho
    refine .share (charge_operation hk hg) (charge_conclude _ _)
      ((ht.mono fun hC => ⟨hC.1, hC.2 _ _ hg⟩).trans (.handled ?_ rfl))
    cases outcome with
    | served m => exact Pool.Handled.wear.frame _
    | done | failed e => exact .refl
  | @cancelled n o hg hs =>
    have hl : s.abandoned env (.cancel n) + s.detached (.cancel n) = o.dropped := by
      simp [abandoned, detached, hg]
    rw [hl]
    refine .share (charge_operation hk hg) (zero_add _).symm ?_
    rw [zero_add]
    exact Operation.tended_cancel hb.sound hs
  | acquire _ | wait _ | check _ | close _ => exact .start _ rfl
  | release hm _ => exact .startWith hd hm _ rfl
  | misplace hm _ => exact .startWith hd hm _ rfl
  | taken ht =>
    have he := Pool.Handled.tryTake (p := s.pool) env.now
    rw [ht] at he
    refine .share (zero_add _).symm (charge_hold _) (Tended.whole (.handled ?_ (by simp)))
    exact he.trans .wear
  | @untaken q r ht hr =>
    have he := Pool.Handled.tryTake (p := s.pool) env.now
    have hc : Charge.tried r = 0 := by
      rcases r with e | (_ | m)
      · rfl
      · rfl
      · exact absurd rfl (hr m)
    rw [ht, hc] at he
    exact .aside rfl he (by simp)
  | giveBack hm => exact .letGo hd hm .returnLater rfl
  | @leaveBehind id m c hm hc =>
    have hl : s.abandoned env (.leaveBehind id) = 0 ∧
        s.pool.Handled (.ofWorn {m.session}) { s.pool with crew := c } 0 := by
      rcases s.pool.crew.dispatch_cases (.restore m) with ⟨-, he⟩ | ⟨ho, he⟩ <;> rw [he] at hc <;>
        cases hc
      exact ⟨by simp [abandoned, ho], .queueTask (t := .restore m) rfl rfl⟩
    rw [hl.1]
    exact .letGo hd hm hl.2 rfl
  | @abandoned id m c t hm hc =>
    have ho : s.pool.crew.stopped = true := by
      rcases s.pool.crew.dispatch_cases (.restore m) with ⟨ho, -⟩ | ⟨-, he⟩
      · exact ho
      · rw [he] at hc
        cases hc
    have hl : s.abandoned env (.leaveBehind id) = {m.session} := by
      simp [abandoned, ho, hm]
    rw [hl]
    exact .letGo hd hm (.drop 1) rfl
  | @detach id m hm =>
    have hl : s.detached (.detach id) = {m.session} := by
      simp [detached, hm]
    rw [hl]
    exact .letGo hd hm .forget rfl
  | resized hq => exact .aside rfl (.resize hq) rfl
  | @unheld _ id hv hm =>
    have hl : s.abandoned env mv = 0 ∧ s.detached mv = 0 := by
      rcases hv with rfl | rfl | rfl <;> simp [abandoned, detached, hm]
    rw [hl.1, hl.2]
    exact .aside rfl .refl rfl
  | unsized _ | readOutcome => exact .aside rfl .refl rfl
  | resetCounters => exact .aside rfl (.aside rfl rfl rfl rfl rfl) rfl

/-- What a user does to the session of a member concerns no other session. -/
theorem kept_use (hd : s.HeldApart) {id : Nat} {session : Session}
    (hh : (Move.use id session).IsHonest env s) :
    Kept env.server (s.pool.sessions + s.charge.all) env.server
      (s.pool.sessions + (s.setSession id session).charge.all) := by
  cases hm : s.heldMember? id with
  | none =>
    rw [setSession_of_none hm]
    exact .of_stays (.refl _) _
  | some m =>
    rw [charge_letGo hd hm, charge_setSession hd hm session, worn, Tended.last, Tended.last]
    exact .of_becomes (hh m hm) _

theorem fit_setSession (hd : s.HeldApart) (id : Nat) (session : Session) :
    (s.setSession id session).charge.fit = s.charge.fit := by
  cases hm : s.heldMember? id with
  | none => rw [setSession_of_none hm]
  | some m =>
    rw [charge_letGo hd hm, charge_setSession hd hm session]
    rfl

/-- Time passes while the server goes on, a user does something to the session of a member, or a
move is made that tends sessions. -/
theorem passes_uses_or_tends (hk : s.Keyed) (hb : s.pool.Balanced s.stake) (hs : s.OrderlyShut)
    {mv : Move} (h : s.move? env mv = some (env', s')) (hh : mv.IsHonest env s) :
    ((∃ e, mv = .pass e) ∧ s' = s ∧ env.server.Grows env'.server) ∨
    ((∃ id session, mv = .use id session ∧ s' = s.setSession id session) ∧ env' = env) ∨
    (mv.isPlain = true ∧ Tends (s.pool.hooks.TidyProbe ∧ s.Sure env) env s env' s'
      (s.abandoned env mv + s.detached mv)) := by
  by_cases hp : mv.isPlain = true
  · exact .inr (.inr ⟨hp, tended_move hk hb hs h hp⟩)
  · cases moved h with
    | passed => exact .inl ⟨⟨_, rfl⟩, rfl, hh⟩
    | use => exact .inr (.inl ⟨⟨_, _, rfl, rfl⟩, rfl⟩)
    | unheld hv => rcases hv with rfl | rfl | rfl <;> exact absurd rfl hp
    | worked | finished | sought | took | ticked | closed | wentOn | ended | acquire | wait | check
    | close | release | misplace | cancelled | taken | untaken | giveBack | leaveBehind | abandoned
    | detach | resized | unsized | resetCounters | readOutcome => exact absurd rfl hp

/-! ## The terms of a pool -/

/-- **A pool keeps to its terms**, whatever move is made. -/
theorem steady_move (hk : s.Keyed) (hb : s.pool.Balanced s.stake) (hs : s.OrderlyShut) {mv : Move}
    (h : s.move? env mv = some (env', s')) : s.pool.Steady s'.pool := by
  cases hp : mv.isPlain with
  | true => exact Tended.steady (tended_move hk hb hs h hp)
  | false =>
    cases moved h with
    | use | passed => exact .refl _
    | unheld _ _ => exact .refl _
    | worked | finished | sought | took | ticked | closed | wentOn | ended | acquire | wait | check
    | close | release | misplace | cancelled | taken | untaken | giveBack | leaveBehind | abandoned
    | detach | resized | unsized | resetCounters | readOutcome => cases hp

end Site

/-- An operation goes on to close the pool only after it was closed in the books. -/
theorem Operation.closed_of_hasShut {env env' : Env} {p q : Pool} {o o' : Operation}
    (hb : o.hasShut = true → p.closed = true) (h : o.step env p = some (env', q, .more o'))
    (ho : o'.hasShut = true) : q.closed = true := by
  cases Operation.goesOn h with
  | @close c _ hc =>
    by_cases hc₀ : c.begun = true
    · have hs : p.Steady q := Tended.steady (C := True) (Closing.tended hb hc)
      exact hs.closed (hb hc₀)
    · cases c with
      | starting =>
        simp only [Closing.step, Closing.start, Option.some.injEq] at hc
        split at hc <;> cases hc
        rfl
      | stopping | joining | draining | emptying => exact absurd rfl hc₀
  | acquire | release | wait | check => cases ho

namespace Site

variable {env env' : Env} {s s' : Site}

theorem OrderlyShut.move (hs : s.OrderlyShut) (hk : s.Keyed) (hb : s.pool.Balanced s.stake)
    {mv : Move} (h : s.move? env mv = some (env', s')) : s'.OrderlyShut := by
  have steady := steady_move hk hb hs h
  refine ⟨fun hst => ?_, fun n o ho hsh => ?_⟩
  · rcases steady.stopped hst with hst | hc
    · exact steady.closed (hs.stopped hst)
    · exact hc
  · rcases operation_cases hk h ho with hg | ⟨o₀, hg, hstep⟩ | hn
    · exact steady.closed (hs.operations n o hg hsh)
    · exact Operation.closed_of_hasShut (hs.operations n o₀ hg) hstep hsh
    · cases o with
      | close c =>
        cases c with
        | starting => cases hsh
        | stopping | joining | draining | emptying => cases hn
      | acquire | release | misplace | wait | check => cases hsh

theorem handled_fill (p : Pool) : p.Handled 0 (fill p) 0 := by
  unfold fill
  split
  · refine Pool.Handled.trans ?_ .topUp
    split
    · exact .aside rfl rfl rfl rfl rfl
    · exact .refl
  · exact .dispatchAdd none

/-- The crew of a new pool is at work. -/
theorem orderlyShut_create {settings : PoolSettings} {options : ConnectOptions} {hooks : Hooks}
    (h : create env settings options hooks = (env', .ok s)) : s.OrderlyShut := by
  obtain ⟨p, -, -, -, -, -, hs, rfl⟩ := create_ok h
  have ht : (fill p).crew.stopped = p.crew.stopped :=
    congrArg Pool.Terms.stopped (handled_fill p).terms
  refine ⟨fun hst => ?_, fun n o ho _ => ?_⟩
  · rw [ht, hs] at hst
    cases hst
  · cases ho

theorem hooks_create {settings : PoolSettings} {options : ConnectOptions} {hooks : Hooks}
    (h : create env settings options hooks = (env', .ok s)) : s.pool.hooks = hooks := by
  obtain ⟨p, -, -, -, hh, -, -, rfl⟩ := create_ok h
  exact (congrArg Pool.Terms.hooks (handled_fill p).terms).trans hh

theorem Reachable.orderlyShut (h : Reachable env s) : s.OrderlyShut := by
  induction h with
  | created h => exact orderlyShut_create h
  | moved hr hm ih => exact ih.move hr.keyed hr.balanced hm

/-- Each key occurs once, the books balance, and nobody works as if the pool was closed before it
was. -/
structure Regular (s : Site) : Prop where
  keyed : s.Keyed
  balanced : s.pool.Balanced s.stake
  shut : s.OrderlyShut

theorem Reachable.regular (h : Reachable env s) : s.Regular :=
  ⟨h.keyed, h.balanced, h.orderlyShut⟩

namespace Regular

variable {mv : Move}

theorem move (h : s.Regular) (hm : s.move? env mv = some (env', s')) : s'.Regular where
  keyed := h.keyed.move hm
  balanced := balanced_move h.keyed h.balanced hm
  shut := h.shut.move h.keyed h.balanced hm

theorem tended (h : s.Regular) (hm : s.move? env mv = some (env', s')) (hp : mv.isPlain = true) :
    Tends (s.pool.hooks.TidyProbe ∧ s.Sure env) env s env' s'
      (s.abandoned env mv + s.detached mv) :=
  tended_move h.keyed h.balanced h.shut hm hp

/-- The pool keeps to its terms with the next move. -/
theorem steady (h : s.Regular) (hm : s.move? env mv = some (env', s')) :
    s.pool.Steady s'.pool :=
  steady_move h.keyed h.balanced h.shut hm

end Regular

theorem Reachable.steady (h : Reachable env s) {mv : Move}
    (hm : s.move? env mv = some (env', s')) : s.pool.Steady s'.pool := h.regular.steady hm

end SessionPool.Site
