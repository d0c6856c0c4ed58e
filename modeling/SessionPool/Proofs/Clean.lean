import SessionPool.Proofs.Chronicle

/-!
# Sessions that are handed out

A session may be given to a request if it reports that it is idle, or was lost meanwhile
(`Session.IsReady`). New sessions and those that come back are looked at after their hooks have run,
and so they are ready whatever the hooks do. After a probe nobody looks: whether a session that
answered is ready is up to the probe (`Hooks.TidyProbe`). If the probe leaves those sessions ready
that it succeeds on, as the one that only asks for an answer does (`Hooks.tidyProbe_of_ping`), then
each session that lies unused, lies ready for a caller or is just handed out is ready
(`Site.Chronicle.hands_out_ready`); otherwise it may be in a transaction
(`Site.Chronicle.handed_in_transaction`).
-/

set_option autoImplicit false

namespace SessionPool

variable {env env' : Env} {p q : Pool}

instance (s : Session) (server : Server) : Decidable (s.IsReady server) :=
  inferInstanceAs (Decidable (_ ∨ _))

/-! ## Probes -/

/-- To ask a session for an answer does nothing to it if it answers. -/
theorem Script.run_ping (env : Env) (s : Session) :
    run env s [.ping] = (env, s, .finished (.ok ())) ∨
    ∃ s' e, run env s [.ping] = (env, s', .finished (.error e)) := by
  have ht : (Text.trimmed "".toList).isEmpty = true := rfl
  simp only [Action.ping, run, Session.execute, Session.checkUsable]
  by_cases hc : s.closed = true
  · exact .inr ⟨s, .closed, by simp [hc]⟩
  · by_cases hb : env.server.broken.contains s.pid = true
    · exact .inr ⟨{ s with status := .unknown }, .lost, by simp only [if_neg hc, if_pos hb]; rfl⟩
    · refine .inl ?_
      simp only [if_neg hc, if_neg hb, if_pos ht]

/-- **A probe that only asks for an answer is tidy.** -/
theorem Hooks.tidyProbe_of_ping {h : Hooks} (hp : ∀ call, h.probe call = [.ping]) :
    h.TidyProbe := by
  intro call env s hr env' s' hs
  rw [hp] at hs
  rcases Script.run_ping env s with he | ⟨s₁, e, he⟩ <;> rw [he] at hs <;> cases hs
  exact hr

namespace Checking

variable {c c' : Checking}

theorem Sure.grow (h : c.Sure env) (hg : env.server.Grows env'.server) : c.Sure env' := by
  cases c with
  | probing left m => exact Session.IsReady.grow h hg
  | paused left m pause => exact fun env₁ s₁ hs => h env₁ s₁ (hs.later hg)
  | starting | counting | picking _ | judging _ _ _ => trivial

/-- A probe that goes on is sure if what it has come to is. -/
theorem sure_afterProbe {left : Nat} {m : Member} {x : Env × Session × Progress}
    (hx : ∀ env₁ s₁, Script.Succeeds x env₁ s₁ → s₁.IsReady env₁.server)
    (h : afterProbe p left m x = (env', q, .more c')) : c'.Sure env' := by
  obtain ⟨env₀, s, progress⟩ := x
  rcases progress with (e | ⟨⟨⟩⟩) | pause <;> cases h
  · trivial
  · trivial
  · exact hx

theorem sure_step (ht : p.hooks.TidyProbe) (hr : Ready env.server p.stock) (hs : c.Sure env)
    (h : c.step env p = some (env', q, .more c')) : c'.Sure env' := by
  cases c with
  | starting =>
    simp only [step] at h
    split at h
    · cases h
    · split at h <;> cases h
      trivial
  | counting =>
    cases h
    trivial
  | picking left =>
    cases left with
    | zero => cases h
    | succ left =>
      simp only [step] at h
      split at h <;> rename_i hp <;> cases h
      -- the first of the unused members is picked
      unfold Pool.pickProbe at hp
      split at hp
      · cases hp
      · obtain ⟨-, hm⟩ := Prod.mk.inj hp
        obtain ⟨m₀, hm₀, rfl⟩ := Option.map_eq_some_iff.1 hm
        have hi : m₀.session ∈ sessionsOf p.idle := mem_sessionsOf (List.mem_of_mem_head? hm₀)
        exact hr m₀.session (Multiset.mem_add.2 (.inl hi))
  | probing left m =>
    exact sure_afterProbe (ht _ env m.session hs) (Option.some.inj h)
  | paused left m pause =>
    simp only [step, Option.ite_none_right_eq_some, Option.some.injEq] at h
    exact sure_afterProbe (fun env₁ s₁ hx => hs env₁ s₁ (.resumed (.refl _) hx)) h.2
  | judging left m health =>
    cases h
    trivial

end Checking

namespace Operation

variable {o o' : Operation}

theorem Sure.grow (h : o.Sure env) (hg : env.server.Grows env'.server) : o.Sure env' := by
  cases o with
  | check c => exact Checking.Sure.grow h hg
  | acquire _ | release _ | misplace _ | wait _ | close _ => trivial

theorem sure_step (ht : p.hooks.TidyProbe) (hr : Ready env.server p.stock) (hs : o.Sure env)
    (h : o.step env p = some (env', q, .more o')) : o'.Sure env' := by
  cases Operation.goesOn h with
  | check hc => exact Checking.sure_step ht hr hs hc
  | acquire | release | wait | close => trivial

theorem sure_of_isNew (h : Site.isNew o = true) (env : Env) : o.Sure env := by
  cases o with
  | check c =>
    cases c with
    | starting => trivial
    | counting | picking | probing | paused | judging => cases h
  | acquire _ | release _ | misplace _ | wait _ | close _ => trivial

end Operation

namespace Site

variable {s s' : Site} {l : Ledger} {mv : Move}

/-! ## Moves -/

/-- What is taken for fit is ready for a request, and what is being probed will be. -/
structure Clean (env : Env) (s : Site) : Prop where
  ready : SessionPool.Ready env.server (s.pool.stock + s.charge.fit)
  sure : s.Sure env

theorem Clean.stock (h : s.Clean env) : SessionPool.Ready env.server s.pool.stock :=
  fun x hx => h.ready x (Multiset.mem_add.2 (.inl hx))

/-- **Moves leave a pool clean** whose probe is tidy. -/
theorem Clean.move (hc : s.Clean env) (ht : s.pool.hooks.TidyProbe) (h : Reachable env s)
    (hm : s.move? env mv = some (env', s')) (hh : mv.IsHonest env s) : s'.Clean env' := by
  rcases passes_uses_or_tends h.keyed h.balanced h.orderlyShut hm hh with
    ⟨-, rfl, hg⟩ | ⟨⟨id, session, -, rfl⟩, rfl⟩ | ⟨-, tends⟩
  · exact ⟨fun x hx => (hc.ready x hx).grow hg, fun n o ho => (hc.sure n o ho).grow hg⟩
  · refine ⟨?_, hc.sure⟩
    rw [fit_setSession (HeldApart.of_balanced h.balanced)]
    exact hc.ready
  · have ready := Tended.ready tends ⟨ht, hc.sure⟩ hc.ready
    rw [Charge.fit_add, Charge.ofWorn_fit, add_zero] at ready
    refine ⟨ready, fun n o ho => ?_⟩
    rcases operation_cases h.keyed hm ho with hg | ⟨o₀, hg, hstep⟩ | hn
    · exact (hc.sure n o hg).grow (Tended.grows tends)
    · exact Operation.sure_step ht hc.stock (hc.sure n o₀ hg) hstep
    · exact Operation.sure_of_isNew hn env'

theorem clean_create {settings : PoolSettings} {options : ConnectOptions} {hooks : Hooks}
    (h : create env settings options hooks = (env', .ok s)) : s.Clean env' := by
  have hs : ∀ x, x ∉ s.sessions := by simp [sessions_create h]
  refine ⟨fun x hx => absurd ?_ (hs x), fun n o ho => ?_⟩
  · simp only [sessions, Pool.sessions, Charge.all, Multiset.mem_add] at hx ⊢
    rcases hx with hx | hx
    · exact .inl (.inl (.inl hx))
    · exact .inr (.inl hx)
  · obtain ⟨p, -, -, -, -, -, -, rfl⟩ := create_ok h
    cases ho

theorem Chronicle.clean (h : Chronicle env s l) (ht : s.pool.hooks.TidyProbe) : s.Clean env := by
  induction h with
  | created h => exact clean_create h
  | moved hc hm hh ih =>
    rw [(hc.reachable.steady hm).hooks] at ht
    exact (ih ht).move ht hc.reachable hm hh
  | outside hc hm _ hh ih =>
    have ht := (hc.reachable.steady hm).hooks ▸ ht
    have clean := (ih ht).move ht hc.reachable hm hh
    exact ⟨clean.ready, clean.sure⟩

/-! ## What users are handed -/

theorem Clean.handed (hc : s.Clean env) (ht : s.pool.hooks.TidyProbe) (h : Reachable env s)
    (hm : s.move? env mv = some (env', s')) {m : Member} (hd : s'.held = s.held ++ [m]) :
    m.session.IsReady env'.server := by
  have same {ms : List Member} (hl : ms.length ≤ s.held.length) (he : ms = s.held ++ [m]) :
      False := by
    rw [he, List.length_append, List.length_singleton] at hl
    omega
  cases moved hm with
  | @ended n o _ q outcome hg hs =>
    cases outcome with
    | served m' =>
      obtain rfl : m' = m := List.singleton_inj.1 (List.append_cancel_left hd)
      have tended := Operation.tended h.balanced.sound (h.orderlyShut.operations n o hg) hs
      have all := tended.frame { s with operations := Table.remove s.operations n }.charge
      rw [← charge_operation h.keyed hg] at all
      have handed := all.ready ⟨ht, hc.sure n o hg⟩ hc.ready
      exact handed m'.session (by simp [Next.charge, Outcome.charge])
    | done | failed e => exact (same le_rfl hd).elim
  | @taken q m' hq =>
    obtain rfl : m'.handOut env.now = m := List.singleton_inj.1 (List.append_cancel_left hd)
    have fit := (Pool.Handled.tryTake (p := s.pool) env.now).fit
    rw [hq, Charge.fit_zero, add_zero] at fit
    have hm' : m'.session ∈ q.stock + (Charge.tried (.ok (some m'))).fit := by simp [Charge.tried]
    rw [Pool.server_noteExpired]
    exact hc.stock m'.session (Multiset.mem_of_le fit hm')
  | worked | finished | sought | took | ticked | closed | wentOn | acquire | wait | check | close
  | cancelled | untaken | unheld | resized | unsized | resetCounters | readOutcome | passed =>
    exact (same le_rfl hd).elim
  | release | misplace | giveBack | leaveBehind | abandoned | detach =>
    exact (same (List.length_filter_le _ _) hd).elim
  | use => exact (same (List.length_map _).le hd).elim

/-- Each session that lies unused, lies ready for a caller, or is just handed out, is ready for a
request. -/
structure HandsOutReady (env : Env) (s : Site) : Prop where
  idle : ∀ m ∈ s.pool.idle, m.session.IsReady env.server
  delivered : ∀ m ∈ s.pool.waiting.delivered, m.session.IsReady env.server
  handed : ∀ mv env' s' m, s.move? env mv = some (env', s') → s'.held = s.held ++ [m] →
    m.session.IsReady env'.server

/-- **Sessions are handed out ready for use**, whatever moves are made in whatever order and
whatever the hooks do, if the probe leaves those ready that it succeeds on. -/
theorem Chronicle.hands_out_ready (h : Chronicle env s l) (ht : s.pool.hooks.TidyProbe) :
    s.HandsOutReady env := by
  have hc := h.clean ht
  refine ⟨fun m hm => ?_, fun m hm => ?_, fun mv env' s' m hm hd => ?_⟩
  · exact hc.stock _ (Multiset.mem_add.2 (.inl (mem_sessionsOf hm)))
  · exact hc.stock _ (Multiset.mem_add.2 (.inr (mem_sessionsOf hm)))
  · exact hc.handed ht h.reachable hm hd

/-- One of two requests has been handed the session that was opened. -/
theorem Chronicle.hands_out_ready_handed :
    ∃ env s l, record smallPool {} (twoRequests ++ [.step (.worker 0)]) = some (env, s, l) ∧
      s.pool.waiting.delivered.length = 1 ∧ s.HandsOutReady env := by
  obtain ⟨env, s, l, hx, hp, hc, hh⟩ := of_record smallPool {}
    (twoRequests ++ [.step (.worker 0)])
    (fun x => x.2.1.pool.waiting.delivered.length = 1) (by decide +kernel)
  have ht : s.pool.hooks.TidyProbe := hh ▸ Hooks.tidyProbe_of_ping fun _ => rfl
  exact ⟨env, s, l, hx, of_decide_eq_true hp, hc.hands_out_ready ht⟩

/-- A probe that begins a transaction. -/
def beginningHooks : Hooks := { probe := fun _ => [.execute "BEGIN" true] }

def probedAndRequested : List Move :=
  [.step (.worker 0), .step (.worker 0), .step (.worker 0), .check 0, .step (.user 0),
    .step (.user 0), .step (.user 0), .step (.user 0), .step (.user 0), .step (.user 0),
    .acquire 1 (.ofSecs 30)]

/-- **A session is handed out in a transaction** that its probe has begun. -/
theorem Chronicle.handed_in_transaction :
    ∃ env s l env' s' m, record smallPool beginningHooks probedAndRequested = some (env, s, l) ∧
      Chronicle env s l ∧ s.move? env (.step (.user 1)) = some (env', s') ∧
      s'.held = s.held ++ [m] ∧ ¬m.session.IsReady env'.server := by
  obtain ⟨env, s, l, hx, hp, hc, -⟩ := of_record smallPool beginningHooks probedAndRequested
    (fun x => x.2.1.held = [] ∧ (x.2.1.move? x.1 (.step (.user 1))).any fun y =>
      y.2.held.length = 1 ∧ ∀ m ∈ y.2.held, ¬m.session.IsReady y.1.server)
    (by decide +kernel)
  obtain ⟨hs, hp⟩ := of_decide_eq_true hp
  obtain ⟨⟨env', s'⟩, hm, hd⟩ := (Option.any_eq_true _ _).1 hp
  obtain ⟨hl, hr⟩ := of_decide_eq_true hd
  obtain ⟨m, hm'⟩ := List.length_eq_one_iff.1 hl
  exact ⟨env, s, l, env', s', m, hx, hc, hm, by rw [hs, hm', List.nil_append],
    hr m (hm' ▸ List.mem_singleton_self m)⟩

end Site

end SessionPool
