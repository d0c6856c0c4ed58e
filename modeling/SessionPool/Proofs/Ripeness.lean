import SessionPool.Proofs.Arrival
import SessionPool.Proofs.Expiry
import SessionPool.Proofs.Staff
import SessionPool.Proofs.Weeding

/-!
# Members that nobody has used for long

Maintenance looks for members that have not been used for long at the front of the unused ones, and
stops at the first that is not one of them. It finds them all if the unused members stand in the
order in which they were last used (`Pool.InOrder`). A member that comes back has been used later
than all of them, and it is put behind them (`Site.Reachable.dated`); one that was opened meanwhile,
one that answered its probe and one that is passed on are put there too, whenever they were last
used (`Site.Misplaces`). As long as that does not put a member behind one that was used after it
(`Site.Tidy`), a round of maintenance leaves the pool at its minimum or without members that have
not been used for long (`Site.evicts`); `Site.ripe_kept` has two ways in which it leaves one.
-/

set_option autoImplicit false

namespace SessionPool

variable {env env' : Env} {p q : Pool} {m : Member}

/-! ## When members were last used -/

/-- The notes on a session that was opened begin now, with the next number. -/
theorem Opening.born {o : Opening} {elapsed : Duration}
    (h : o.step env p = some (env', q, .done (.ok (m, elapsed)))) :
    ∃ life, m.notes = .start p.nextId m.session.pid env.now life := by
  have accepted {e : Env} {r : Pool} {began : Instant} {s : Session}
      (h : accept e r began s = (env', q, .done (.ok (m, elapsed)))) :
      ∃ life, m.notes = .start r.nextId m.session.pid e.now life := by
    have hn : (lifetime e r.takeId.1).1.now = e.now := by
      unfold lifetime
      split <;> rfl
    cases h
    refine ⟨(lifetime e r.takeId.1).2, ?_⟩
    rw [← hn]
    rfl
  have configured {r : Pool} {began : Instant} {x : Env × Session × Progress}
      (h : afterConfigure r began x = (env', q, .done (.ok (m, elapsed)))) :
      ∃ life, m.notes = .start r.nextId m.session.pid x.1.now life := by
    obtain ⟨e, s, (_ | ⟨⟨⟩⟩) | pause⟩ := x
    · cases h
    · unfold afterConfigure at h
      dsimp only at h
      split at h
      · exact accepted h
      · cases h
    · cases h
  have dialed {began : Instant} {x : Env × Dialed}
      (h : afterDial p began x = (env', q, .done (.ok (m, elapsed)))) :
      ∃ life, m.notes = .start p.nextId m.session.pid x.1.now life := by
    obtain ⟨e, (_ | s) | dial⟩ := x
    · cases h
    · have ran := configured (x := Script.run e s p.configureCall.2) h
      rw [Script.now_run] at ran
      exact ran
    · cases h
  cases o with
  | fresh =>
    rw [← Dial.now_start env p.options]
    exact dialed (Option.some.inj h)
  | dialing began dial =>
    simp only [step, Option.ite_none_right_eq_some, Option.some.injEq] at h
    rw [← Dial.now_resume env dial]
    exact dialed h.2
  | configuring began s pause =>
    simp only [step, Option.ite_none_right_eq_some, Option.some.injEq] at h
    rw [← Script.now_resume env s pause]
    exact configured h.2

theorem Adding.born {a a' : Adding} {elapsed : Duration}
    (h : a.step env p = some (env', q, .more a')) (hm : a'.phase = .joining m elapsed) :
    ∃ life, m.notes = .start p.nextId m.session.pid env.now life := by
  obtain ⟨waiter, attempt, delay, phase⟩ := a
  cases phase with
  | opening o =>
    simp only [step] at h
    split at h
    · cases h
      cases hm
    · obtain ⟨⟨e, r, next⟩, ho, hx⟩ := Option.map_eq_some_iff.1 h
      rcases next with o' | (error | ⟨m', elapsed'⟩) <;> cases hx <;> cases hm
      exact Opening.born ho
  | joining m elapsed => cases h
  | failing e =>
    simp only [step, fail] at h
    split at h
    · cases h
      cases hm
    · split at h <;> cases h <;> cases hm
  | resting timer =>
    simp only [step] at h
    split at h
    · cases h
      cases hm
    · simp only [Option.ite_none_right_eq_some, Option.some.injEq] at h
      obtain ⟨-, hx⟩ := h
      cases hx
      cases hm
  | releasing e => cases h

theorem Job.lastUsed {j j' : Job} (h : j.step env p = some (env', q, .more j'))
    (hm : j'.opened? = some m) : m.notes.lastUsed = env.now := by
  cases Job.goesOn h with
  | adding ha =>
    simp only [opened?] at hm
    split at hm <;> cases hm
    rename_i hp
    obtain ⟨life, hn⟩ := Adding.born ha hp
    rw [hn]
    rfl
  | returning _ => cases hm

namespace Checking

theorem member?_afterProbe {r : Pool} {left : Nat} {x : Env × Session × Progress} {c' : Checking}
    (h : afterProbe r left m x = (env', q, .more c')) :
    ∃ s, c'.member? = some { m with session := s } := by
  obtain ⟨e, s, (_ | ⟨⟨⟩⟩) | pause⟩ := x <;> cases h <;> exact ⟨s, rfl⟩

theorem member?_origin {c c' : Checking} (h : c.step env p = some (env', q, .more c'))
    (hm : c'.member? = some m) :
    (∃ m₀, c.member? = some m₀ ∧ m.notes = m₀.notes) ∨
    ∃ m₀ ∈ p.idle, m.notes = { m₀.notes with stage := .inUse } := by
  have probed {m₀ : Member} {left : Nat} {r : Pool} {x : Env × Session × Progress}
      (h : afterProbe r left m₀ x = (env', q, .more c')) : m.notes = m₀.notes := by
    obtain ⟨s, hs⟩ := member?_afterProbe h
    rw [hs] at hm
    cases hm
    rfl
  cases c with
  | starting =>
    simp only [step] at h
    split at h
    · cases h
    · split at h <;> cases h
      cases hm
  | counting =>
    cases h
    cases hm
  | picking left =>
    cases left with
    | zero => cases h
    | succ left =>
      simp only [step, Pool.pickProbe] at h
      split at h <;> cases h
      rename_i hp
      cases hm
      split at hp
      · cases hp
      · obtain ⟨m₀, hm₀, rfl⟩ := Option.map_eq_some_iff.1 (Prod.mk.inj hp).2
        exact .inr ⟨m₀, List.mem_of_mem_head? hm₀, rfl⟩
  | probing left m₀ => exact .inl ⟨m₀, rfl, probed (Option.some.inj h)⟩
  | paused left m₀ pause =>
    simp only [step, Option.ite_none_right_eq_some, Option.some.injEq] at h
    exact .inl ⟨m₀, rfl, probed h.2⟩
  | judging left m₀ health =>
    cases h
    cases hm

end Checking

theorem Pool.mem_of_undelivered {ticket : Nat} (h : p.undelivered? ticket = some m) :
    (ticket, .ok m) ∈ p.waiting.replies := by
  unfold undelivered? at h
  split at h
  · cases h
  · split at h <;> cases h
    exact Table.mem_of_get? ‹_›

namespace Site

variable {s s' : Site} {mv : Move}

theorem now_move (h : Reachable env s) (hm : s.move? env mv = some (env', s')) :
    env.now ≤ env'.now := by
  rcases move_cases h.keyed h.balanced hm with ⟨lo, hi, -, hn, -⟩ | ⟨-, hn, -⟩ | ⟨a, b, k, -, -, hl⟩
  · exact hn ▸ Nat.le_refl _
  · exact hn
  · exact hl.now ▸ Nat.le_refl _

/-- No member that is unused or may become so was last used in times to come. -/
structure Dated (env : Env) (s : Site) : Prop where
  idle : ∀ m ∈ s.pool.idle, m.notes.lastUsed ≤ env.now
  /-- Those that lie ready for a request. -/
  ready : ∀ t m, (t, .ok m) ∈ s.pool.waiting.replies → m.notes.lastUsed ≤ env.now
  /-- Those whose session was opened. -/
  opened : ∀ k j m, Table.get? s.jobs k = some j → j.opened? = some m → m.notes.lastUsed ≤ env.now
  /-- Those that are being probed. -/
  probed : ∀ n c m, Table.get? s.operations n = some (.check c) → c.member? = some m →
    m.notes.lastUsed ≤ env.now

theorem Dated.lastUse (h : s.Dated env) {source : Source} (hf : s.frees? mv = some (source, m)) :
    Pool.lastUse env.now m source ≤ env.now := by
  unfold frees? at hf
  split at hf
  · obtain ⟨j, hj, hf⟩ := Option.bind_eq_some_iff.1 hf
    unfold Job.frees? at hf
    split at hf
    · split at hf <;> cases hf
      rename_i hp
      exact h.opened _ _ _ hj (by simp [Job.opened?, hp])
    · cases hf
      exact Nat.le_refl _
    all_goals cases hf
  · obtain ⟨o, ho, hf⟩ := Option.bind_eq_some_iff.1 hf
    unfold Operation.frees? at hf
    split at hf <;> cases hf
    · exact Nat.le_refl _
    · exact h.probed _ _ _ ho rfl
  · obtain ⟨o, ho, hf⟩ := Option.bind_eq_some_iff.1 hf
    unfold Operation.passesOn? at hf
    split at hf
    · obtain ⟨m', hu, hx⟩ := Option.map_eq_some_iff.1 hf
      cases hx
      exact h.ready _ _ (Pool.mem_of_undelivered hu)
    all_goals cases hf
  · cases hf

theorem Dated.move (h : s.Dated env) (hr : Reachable env s)
    (hm : s.move? env mv = some (env', s')) : s'.Dated env' := by
  have later {t : Instant} (ht : t ≤ env.now) : t ≤ env'.now := Nat.le_trans ht (now_move hr hm)
  refine ⟨fun x hx => later ?_, fun t x hx => later ?_, fun k j x hj hx => later ?_,
    fun n c x hc hx => later ?_⟩
  · rcases calm_or_frees hm with calm | ⟨source, m, hf, frees⟩
    · exact h.idle x (calm.idle.subset hx)
    · obtain ⟨m', -, hl, admits⟩ := frees.admits
      rcases List.mem_append.1 (admits.idle.subset hx) with hx | hx
      · exact h.idle x hx
      · rw [List.mem_singleton.1 hx, hl]
        exact h.lastUse hf
  · rcases calm_or_frees hm with calm | ⟨source, m, hf, frees⟩
    · exact h.ready t x (calm.served t x hx)
    · obtain ⟨m', -, hl, admits⟩ := frees.admits
      rcases admits.served t x hx with hx | rfl
      · exact h.ready t x hx
      · rw [hl]
        exact h.lastUse hf
  · rcases job_origin hr.keyed hm hj with hg | ⟨j₀, -, -, hs⟩ | ⟨c, t, -, -, rfl⟩
    · exact h.opened k j x hg hx
    · exact Job.lastUsed hs hx ▸ Nat.le_refl _
    · cases t <;> cases hx
  · rcases operation_origin hr.keyed hm hc with hg | ⟨o₀, -, hg, hs⟩ | hn
    · exact h.probed n c x hg hx
    · cases Operation.goesOn hs with
      | check hc =>
        rcases Checking.member?_origin hc hx with ⟨m₀, hm₀, hn⟩ | ⟨m₀, hm₀, hn⟩ <;> rw [hn]
        · exact h.probed n _ m₀ hg hm₀
        · exact h.idle m₀ hm₀
    · cases c <;> cases hn
      cases hx

theorem Reachable.dated (h : Reachable env s) : s.Dated env := by
  induction h with
  | created h =>
    obtain ⟨p, blank, -, -, -, ho, -, rfl⟩ := create_ok h
    have filled : p.Quiet (fill p) := quiet_fill ho
    refine ⟨fun m hm => ?_, fun t m hm => ?_, fun k j m hj => ?_, fun n c m hc => ?_⟩
    · have hm := filled.idle.subset hm
      rw [blank.idle] at hm
      cases hm
    · have hm := filled.served t m hm
      rw [blank.waiting] at hm
      cases hm
    · cases hj
    · cases hc
  | moved h hm ih => exact ih.move h hm

end Site

/-! ## The order of the unused members -/

namespace Pool

/-- The unused members stand in the order in which they were last used. -/
def InOrder (p : Pool) : Prop := p.idle.Pairwise fun a b => a.notes.lastUsed ≤ b.notes.lastUsed

/-- A member that was not used before any of the unused ones may be put behind them. -/
theorem InOrder.admits (h : p.InOrder) (ha : Admits m p q)
    (hm : ∀ x ∈ p.idle, x.notes.lastUsed ≤ m.notes.lastUsed) : q.InOrder := by
  refine List.Pairwise.sublist ha.idle (List.pairwise_append.2 ⟨h, List.pairwise_singleton _ _, ?_⟩)
  intro x hx y hy
  rw [List.mem_singleton.1 hy]
  exact hm x hx

end Pool

namespace Site

variable {s s' : Site} {mv : Move}

/-- With the move a member becomes free that nobody has just given back, and an unused one was used
after it. -/
def Misplaces (s : Site) (mv : Move) : Prop :=
  ∃ source m, s.frees? mv = some (source, m) ∧ source ≠ .reset ∧
    ∃ x ∈ s.pool.idle, m.notes.lastUsed < x.notes.lastUsed

instance (s : Site) (mv : Move) : Decidable (s.Misplaces mv) :=
  decidable_of_iff ((s.frees? mv).any fun f => f.1 ≠ .reset ∧
      ∃ x ∈ s.pool.idle, f.2.notes.lastUsed < x.notes.lastUsed)
    (by simp [Misplaces, Option.any_eq_true])

/-- **A move keeps the order** if it does not misplace a member. -/
theorem inOrder_move (h : Reachable env s) (hi : s.pool.InOrder)
    (hm : s.move? env mv = some (env', s')) (hp : ¬ s.Misplaces mv) : s'.pool.InOrder := by
  rcases calm_or_frees hm with calm | ⟨source, m, hf, frees⟩
  · exact List.Pairwise.sublist calm.idle hi
  · obtain ⟨m', -, hl, admits⟩ := frees.admits
    refine hi.admits admits fun x hx => ?_
    rw [hl]
    -- one that was given back has been used until now, and none is used in times to come
    by_cases hs : source = .reset
    · rw [hs]
      exact h.dated.idle x hx
    · have used : Pool.lastUse env.now m source = m.notes.lastUsed := by cases source <;> trivial
      rw [used]
      exact Nat.le_of_not_lt fun hlt => hp ⟨source, m, hf, hs, x, hx, hlt⟩

/-- What a pool comes to in which no member was misplaced since it was made or since it had no
unused members. -/
inductive Tidy : Env → Site → Prop
  | created {env env' : Env} {settings : PoolSettings} {options : ConnectOptions} {hooks : Hooks}
      {s : Site} (h : create env settings options hooks = (env', .ok s)) : Tidy env' s
  | emptied {env : Env} {s : Site} (h : Reachable env s) (he : s.pool.idle = []) : Tidy env s
  | moved {env env' : Env} {s s' : Site} {mv : Move} (h : Tidy env s)
      (hm : s.move? env mv = some (env', s')) (hp : ¬ s.Misplaces mv) : Tidy env' s'

theorem Tidy.reachable (h : Tidy env s) : Reachable env s := by
  induction h with
  | created h => exact .created h
  | emptied h _ => exact h
  | moved _ hm _ ih => exact ih.moved hm

theorem idle_create {settings : PoolSettings} {options : ConnectOptions} {hooks : Hooks}
    (h : create env settings options hooks = (env', .ok s)) : s.pool.idle = [] := by
  obtain ⟨p, blank, -, -, -, ho, -, rfl⟩ := create_ok h
  exact (quiet_fill ho).idle_eq_nil blank.idle

theorem Tidy.inOrder (h : Tidy env s) : s.pool.InOrder := by
  have none {p : Pool} (hi : p.idle = []) : p.InOrder := by
    rw [Pool.InOrder, hi]
    exact .nil
  induction h with
  | created h => exact none (idle_create h)
  | emptied _ he => exact none he
  | moved h hm hp ih => exact inOrder_move h.reachable ih hm hp

end Site

/-! ## Maintenance -/

namespace Pool

/-- A pool in which nobody waits has sessions opened up to its minimum only. -/
theorem size_topUp (h : p.waiting.requests = []) : p.topUp.size ≤ max p.size p.minSize := by
  have due : p.due ≤ p.need := p.due_le_need
  have need : p.need = p.minSize - p.size := by
    simp [Pool.need, WaitQueue.length, h]
  rw [topUp_eq]
  show p.size + p.due ≤ max p.size p.minSize
  omega

/-- Maintenance leaves a pool at its minimum or without members that nobody has used for long, if it
finds the unused members in order. -/
theorem InOrder.maintain {now : Instant} {maxIdle : Duration} (ho : p.InOrder)
    (hc : p.closed = false) (hs : p.idle.length ≤ p.size)
    (hw : p.idle = [] ∨ p.waiting.requests = []) (hm : p.settings.maxIdle = some maxIdle) :
    (p.maintain now).size ≤ (p.maintain now).minSize ∨
      ∀ m ∈ (p.maintain now).idle, m.notes.idleTime now < maxIdle := by
  obtain ⟨w, parts, hq⟩ := maintain_eq hc hs now
  have front := front_topUp (p.swept now w)
  rw [← hq] at front
  have idle : (p.maintain now).idle = w.kept := by
    have h : (p.maintain now).idle = (p.swept now w).idle := congrArg Front.idle front
    simpa [swept] using h
  cases hk : w.kept with
  | nil =>
    rw [idle, hk]
    exact .inr (by simp)
  | cons first rest =>
    rcases parts.fresh maxIdle hm with least | fresh
    · -- nobody waits, since there were unused members
      have sub := parts.kept_sublist
      rw [hk] at sub
      have nobody : p.waiting.requests = [] := hw.resolve_left fun hi => by
        rw [hi] at sub
        cases sub
      have minSize : (p.maintain now).minSize = p.minSize := by
        have h : (p.maintain now).minSize = (p.swept now w).minSize := congrArg Front.minSize front
        simpa [swept] using h
      have size : (p.maintain now).size ≤ max (p.size - w.gone.length) p.minSize := by
        have h := (p.swept now w).size_topUp (by simp [swept, nobody])
        rw [← hq] at h
        simpa [swept] using h
      have := w.length_gone
      rw [List.length_append] at least
      exact .inl (by omega)
    · refine .inr fun m hx => ?_
      rw [idle, hk] at hx
      have young : first.notes.idleTime now < maxIdle := fresh first (by simp [hk])
      rcases List.mem_cons.1 hx with rfl | hx
      · exact young
      · -- the first of them is the one that was used least recently
        have order := List.Pairwise.sublist parts.kept_sublist ho
        rw [hk] at order
        have hle := Instant.le_iff.1 ((List.pairwise_cons.1 order).1 m hx)
        refine Duration.lt_iff.2 (Nat.lt_of_le_of_lt ?_ (Duration.lt_iff.1 young))
        exact Nat.sub_le_sub_left hle now.nanos

end Pool

namespace Site

variable {s s' : Site}

/-- **A round of maintenance evicts all members** that nobody has used for long, down to the minimum
of the pool, if none was misplaced. -/
theorem evicts (h : Tidy env s) (hc : s.pool.closed = false) {k : Nat}
    (hj : Table.get? s.jobs k = some .maintaining) {maxIdle : Duration}
    (hm : s.pool.settings.maxIdle = some maxIdle) :
    ∃ env' s', s.move? env (.step (.worker k)) = some (env', s') ∧
      (s'.pool.size ≤ s'.pool.minSize ∨
        ∀ m ∈ s'.pool.idle, m.notes.idleTime env'.now < maxIdle) := by
  have room := h.reachable.balanced.room
  refine ⟨_, _, by simp only [move?, step, stepWorker, hj]; rfl, ?_⟩
  exact h.inOrder.maintain hc (by omega) h.reachable.orderly.apart hm

def tidies (env : Env) (s : Site) : List Move → Bool
  | [] => true
  | mv :: rest => !decide (s.Misplaces mv) && (s.move? env mv).all fun x => tidies x.1 x.2 rest

theorem Tidy.moves {mvs : List Move} (h : Tidy env s) (ht : s.tidies env mvs = true)
    (hm : moves? env s mvs = some (env', s')) : Tidy env' s' := by
  induction mvs generalizing env s with
  | nil =>
    cases hm
    exact h
  | cons mv rest ih =>
    obtain ⟨⟨env₁, s₁⟩, hx, hm⟩ := Option.bind_eq_some_iff.1 hm
    obtain ⟨hp, ht⟩ := Bool.and_eq_true_iff.1 ht
    rw [hx] at ht
    exact ih (h.moved hx (by simpa using hp)) ht hm

def tidyRows (env : Env) (s : Site) : List (Instant × List Move) → Bool
  | [] => true
  | (now, mvs) :: rest =>
    s.tidies env (.pass { env with now } :: mvs) &&
      (moves? env s (.pass { env with now } :: mvs)).all fun x => tidyRows x.1 x.2 rest

theorem Tidy.rows {rows : List (Instant × List Move)} (h : Tidy env s)
    (ht : s.tidyRows env rows = true) (hr : rows? env s rows = some (env', s')) :
    Tidy env' s' := by
  induction rows generalizing env s with
  | nil =>
    cases hr
    exact h
  | cons row rest ih =>
    obtain ⟨⟨env₁, s₁⟩, hx, hr⟩ := Option.bind_eq_some_iff.1 hr
    obtain ⟨hp, ht⟩ := Bool.and_eq_true_iff.1 ht
    rw [hx] at ht
    exact ih (h.moves hp hx) ht hr

/-- What rows of moves come to from the creation of a pool on, none of which misplaces a member. -/
theorem Tidy.of_timeline (settings : PoolSettings) (hooks : Hooks)
    (rows : List (Instant × List Move)) (P : Env × Site → Bool)
    (ht : (create {} settings {} hooks).2.toOption.any
      (·.tidyRows (create {} settings {} hooks).1 rows) = true)
    (h : (timeline settings hooks rows).any P = true) : ∃ x, P x = true ∧ Tidy x.1 x.2 := by
  obtain ⟨x, hx, hp⟩ := (Option.any_eq_true _ _).1 h
  refine ⟨x, hp, ?_⟩
  unfold timeline at hx
  split at hx
  · rename_i hc
    rw [hc] at ht
    exact (Tidy.created hc).rows ht hx
  · cases hx

/-- A pool that keeps no session that nobody has used for a second. -/
def briefPool : PoolSettings :=
  { minSize := 0, maxSize := some 2, workers := 1, maxIdle := some (.ofMillis 990) }

def drawn : List Move :=
  [.acquire 0 (.ofSecs 30), .step (.user 0)] ++ List.replicate 3 (.step (.worker 0)) ++
    [.step (.user 0)]

/-- A member is given back and the worker makes it fit for use. -/
def restored (id : Nat) : List Move := .giveBack id :: List.replicate 4 (.step (.worker 0))

def rounded : List Move := [.step (.ticker 0), .step (.worker 0)]

def inTurn : List (Instant × List Move) :=
  [(.ofTick 0, .step (.ticker 0) :: drawn ++ drawn ++ restored 1), (.ofTick 20, restored 2),
    (.ofTick 1000, rounded)]

/-- The member that came back last is kept, since nobody has used it for a little less than a
second. -/
theorem evicts_older :
    ∃ env s env' s', Tidy env s ∧ s.pool.idle.map Member.id = [1, 2] ∧
      s.move? env (.step (.worker 0)) = some (env', s') ∧ s'.pool.minSize < s'.pool.size ∧
      s'.pool.idle.map Member.id = [2] ∧
      ∀ m ∈ s'.pool.idle, m.notes.idleTime env'.now < .ofMillis 990 := by
  obtain ⟨⟨env, s⟩, hp, tidy⟩ := Tidy.of_timeline briefPool {} inTurn (fun x =>
      x.2.pool.idle.map Member.id = [1, 2] ∧ x.2.pool.closed = false ∧
        Table.get? x.2.jobs 0 = some .maintaining ∧
        x.2.pool.settings.maxIdle = some (.ofMillis 990) ∧
        (x.2.move? x.1 (.step (.worker 0))).any fun y =>
          y.2.pool.minSize < y.2.pool.size ∧ y.2.pool.idle.map Member.id = [2])
    (by decide +kernel) (by decide +kernel)
  obtain ⟨hi, ho, hj, hm, hp⟩ := of_decide_eq_true hp
  obtain ⟨⟨env', s'⟩, hs, hp⟩ := (Option.any_eq_true _ _).1 hp
  obtain ⟨hlt, hi'⟩ := of_decide_eq_true hp
  obtain ⟨_, _, hs', left⟩ := evicts tidy ho hj hm
  cases hs.symm.trans hs'
  exact ⟨env, s, env', s', tidy, hi, hs, hlt, hi', left.resolve_left (Nat.not_le.2 hlt)⟩

/-! ## Members that are kept -/

/-- A round of maintenance leaves a member in an open pool that nobody has used for as long as is
set, although the pool is above its minimum. -/
def KeepsRipe (env : Env) (s : Site) (k : Nat) : Prop :=
  s.pool.isNull = false ∧ s.pool.closed = false ∧ Table.get? s.jobs k = some .maintaining ∧
    ∃ maxIdle ∈ s.pool.settings.maxIdle, ∃ x ∈ s.move? env (.step (.worker k)),
      x.2.pool.minSize < x.2.pool.size ∧ ∃ m ∈ x.2.pool.idle, maxIdle ≤ m.notes.idleTime x.1.now

instance (env : Env) (s : Site) (k : Nat) : Decidable (s.KeepsRipe env k) :=
  inferInstanceAs (Decidable (_ ∧ _ ∧ _ ∧ ∃ _ ∈ s.pool.settings.maxIdle, _))

def briefProbe : Hooks := { probe := fun _ => [.execute "SLEEP 50" true] }

/-- While the member that came back first is being probed, the other one comes back. -/
def probedMeanwhile : List (Instant × List Move) :=
  [(.ofTick 0, .step (.ticker 0) :: drawn ++ drawn ++ restored 1 ++
      .check 0 :: List.replicate 4 (.step (.user 0))),
    (.ofTick 20, restored 2), (.ofTick 50, List.replicate 2 (.step (.user 0))),
    (.ofTick 1000, rounded)]

/-- A request is given the member that comes back first; it goes away once the other one has come
back too. -/
def passedOnMeanwhile : List (Instant × List Move) :=
  [(.ofTick 0, .step (.ticker 0) :: drawn ++ drawn ++
      [.acquire 0 (.ofSecs 30), .step (.user 0)] ++ restored 1),
    (.ofTick 20, restored 2 ++ [.cancel 0]), (.ofTick 1000, rounded)]

/-- **Maintenance may leave members that nobody has used for long**: one that was probed or passed
on stands behind one that was used after it, and is not found. -/
theorem ripe_kept :
    (∃ x, timeline briefPool briefProbe probedMeanwhile = some x ∧ Reachable x.1 x.2 ∧
      x.2.KeepsRipe x.1 0) ∧
    ∃ x, timeline briefPool {} passedOnMeanwhile = some x ∧ Reachable x.1 x.2 ∧
      x.2.KeepsRipe x.1 0 := by
  have kept {hooks : Hooks} {rows : List (Instant × List Move)}
      (h : (timeline briefPool hooks rows).any (fun x => x.2.KeepsRipe x.1 0) = true) :
      ∃ x, timeline briefPool hooks rows = some x ∧ Reachable x.1 x.2 ∧ x.2.KeepsRipe x.1 0 := by
    obtain ⟨x, hx, hp⟩ := (Option.any_eq_true _ _).1 h
    exact ⟨x, hx, .timeline hx, of_decide_eq_true hp⟩
  exact ⟨kept (by decide +kernel), kept (by decide +kernel)⟩

end Site

end SessionPool
