import SessionPool.Proofs.Departure

/-!
# Pools that keep nothing

In a null pool no member is ever unused. A member that comes back is reset only if a request waits
at that moment (`Site.Course.wanted`); otherwise it is closed as it is. A member that becomes free
when no request is left whose time is not up is closed too, and its room is free again
(`Pool.letsGo_deliver`). `Site.Course.keeps_nothing` is all of it together.
-/

set_option autoImplicit false

namespace SessionPool

namespace Pool

variable {now : Instant} {G : Power → Prop} {p q r : Pool} {m : Member}

/-! ## What changes leave as it is -/

theorem Change.settings (h : Change now G p q) : q.settings = p.settings := by
  cases h with
  | aside h => exact congrArg View.settings h
  | enter _ _ => exact settings_countOpened
  | reserve | unreserve | drop | queue | leave | unpark | park | expire | offer | fail | hangUp
  | withdraw | enroll | reset | size | fill | shut | stop | take | depart | staff => rfl

theorem Change.isNull (h : Change now G p q) : q.isNull = p.isNull := by
  rw [Pool.isNull, Pool.isNull, h.settings]

/-- A pool that keeps nothing has nothing unused. -/
theorem Change.idle_eq_nil (h : Change now G p q) (hn : p.isNull = true) (hi : p.idle = []) :
    q.idle = [] := by
  cases h with
  | aside h => exact (congrArg View.idle h).trans hi
  | unpark h =>
    rw [hi] at h
    exact List.sublist_nil.1 h
  | park m h =>
    rw [hn] at h
    cases h
  | enter _ elapsed => exact (congrArg View.idle (p.view_countOpened elapsed)).trans hi
  | shut => rfl
  | reserve | unreserve | drop | queue | leave | expire | offer | fail | hangUp | withdraw | enroll
  | reset | size | fill | stop | take | depart | staff => exact hi

theorem Changes.idle_eq_nil (h : Changes now G p q) (hn : p.isNull = true) (hi : p.idle = []) :
    q.isNull = true ∧ q.idle = [] := by
  induction h with
  | refl => exact ⟨hn, hi⟩
  | step _ c ih => exact ⟨c.isNull.trans ih.1, c.idle_eq_nil ih.1 ih.2⟩

theorem Change.resets (h : Change now G p q) (hG : ¬ G .reset) :
    q.hookCalls.reset = p.hookCalls.reset := by
  cases h with
  | aside h => exact congrArg View.resets h
  | enter _ elapsed => exact congrArg View.resets (p.view_countOpened elapsed)
  | reset hG' => exact absurd hG' hG
  | reserve | unreserve | drop | queue | leave | unpark | park | expire | offer | fail | hangUp
  | withdraw | enroll | size | fill | shut | stop | take | depart | staff => rfl

theorem Changes.resets (h : Changes now G p q) (hG : ¬ G .reset) :
    q.hookCalls.reset = p.hookCalls.reset := by
  induction h with
  | refl => rfl
  | step _ c ih => exact (c.resets hG).trans ih

/-! ## Room that is made -/

/-- What is counted in addition are sessions that are to be opened. -/
theorem rooms_topUp (p : Pool) :
    p.topUp.overdrawn = p.overdrawn ∧ p.topUp.size + p.opening = p.size + p.topUp.opening := by
  rw [topUp_eq]
  refine ⟨rfl, ?_⟩
  simp only [order]
  omega

/-! ## Members that nobody waits for -/

/-- A member is to be closed, as it is. -/
def LeavesBehind (q : Pool) (m : Member) : Prop :=
  ∃ m', m'.id = m.id ∧ m'.session = m.session ∧ (.close m' ∈ q.crew.tasks ∨ m' ∈ q.leaving)

theorem LeavesBehind.topUp (h : q.LeavesBehind m) : q.topUp.LeavesBehind m := by
  have topped : Changes .origin (fun _ => False) q q.topUp := .topUp
  obtain ⟨m', hi, hs, h⟩ := h
  exact ⟨m', hi, hs,
    h.imp (fun h => (topped.tasks id).subset h) fun h => (topped.leaving id).subset h⟩

/-- The pool gives a member up: it is to be closed, and its room is free. -/
structure LetsGo (p : Pool) (m : Member) (q : Pool) : Prop where
  leaves : q.LeavesBehind m
  opening : q.opening = p.opening
  size : q.overdrawn = false → q.size + 1 = p.size

theorem letsGo_discard {m' : Member} (hi : m'.id = m.id) (hs : m'.session = m.session) :
    p.LetsGo m (p.discard m') := by
  have size : (p.drop 1).overdrawn = false → (p.drop 1).size + 1 = p.size := by
    simp only [drop, Bool.or_eq_false_iff, decide_eq_false_iff_not]
    omega
  unfold discard dispatchClose
  rcases (p.drop 1).crew.dispatch_cases (.close m') with ⟨-, hd⟩ | ⟨-, hd⟩ <;> rw [hd]
  · exact ⟨⟨m', hi, hs, .inr (List.mem_append_right _ (.head _))⟩, rfl, size⟩
  · exact ⟨⟨m', hi, hs, .inl (List.mem_append_right _ (.head _))⟩, rfl, size⟩

theorem late_of_live (h : p.waiting.live now = []) :
    ∀ r ∈ p.waiting.requests, r.isLate now = true := fun r hr => by
  simpa using List.filter_eq_nil_iff.1 h r hr

/-- A member that becomes free in a pool that keeps nothing is given up if the time of all who wait
is up. -/
theorem letsGo_deliver {m' : Member} (hn : p.isNull = true) (hl : p.waiting.live now = [])
    (hi : m'.id = m.id) (hs : m'.session = m.session) : p.LetsGo m (p.deliver m' now) := by
  have given (w : WaitQueue Member) :
      p.LetsGo m ({ p with waiting := w }.discard (m'.inStage .idle)) := by
    have h : LetsGo { p with waiting := w } m (discard _ (m'.inStage .idle)) :=
      letsGo_discard hi hs
    exact ⟨h.leaves, h.opening, h.size⟩
  unfold deliver
  split
  · exact letsGo_discard hi hs
  · dsimp only
    rcases p.waiting.fulfill_cases (m'.inStage .idle) now with
      ⟨before, r, after, hq, -, hr, -⟩ | ⟨-, hf⟩
    · -- whom it would go to is late
      have hlate := late_of_live hl r (by simp [hq])
      simp [WaitQueue.isStale, hlate] at hr
    · rw [hf]
      dsimp only
      split
      · exact given _
      · rename_i hk
        exact absurd hn hk

theorem letsGo_join {elapsed : Duration} (hn : p.isNull = true) (hl : p.waiting.live now = []) :
    (p.join m elapsed now).LeavesBehind m ∧
      ((p.join m elapsed now).overdrawn = false → (p.join m elapsed now).size + 1 = p.size) := by
  have h : (p.countOpened elapsed).LetsGo m (p.join m elapsed now) :=
    letsGo_deliver (isNull_countOpened.trans hn) (by rw [waiting_countOpened]; exact hl) rfl rfl
  exact ⟨h.leaves, fun ho => (h.size ho).trans size_countOpened⟩

theorem letsGo_abandon {ticket : Nat} (hn : p.isNull = true) (hl : p.waiting.live now = [])
    (hu : p.undelivered? ticket = some m) : p.LetsGo m (p.abandon ticket now) := by
  have h : (p.collectReply ticket).LetsGo m ((p.collectReply ticket).deliver m now) :=
    letsGo_deliver hn hl rfl rfl
  unfold abandon
  rw [hu]
  exact ⟨h.leaves, h.opening, h.size⟩

/-- Of a member that came back the same is true whatever it turned out to be. An expired or unfit
one is replaced if need be. -/
theorem letsGo_settle {f : Fitness} (hn : p.isNull = true) (hl : p.waiting.live now = []) :
    p.LetsGo m (p.settle m now f) ∨
      (f = .fit → m.isExpired now = true) ∧ (p.settle m now f).LeavesBehind m ∧
        ((p.settle m now f).overdrawn = false →
          (p.settle m now f).size + 1 + p.opening = p.size + (p.settle m now f).opening) := by
  have replaced (p' : Pool) (m' : Member) (hi : m'.id = m.id) (hs : m'.session = m.session) :
      (p'.discard m').topUp.LeavesBehind m ∧ ((p'.discard m').topUp.overdrawn = false →
        (p'.discard m').topUp.size + 1 + p'.opening = p'.size + (p'.discard m').topUp.opening) := by
    have h : p'.LetsGo m (p'.discard m') := letsGo_discard hi hs
    obtain ⟨ho, hr⟩ := (p'.discard m').rooms_topUp
    refine ⟨h.leaves.topUp, fun hov => ?_⟩
    have := h.size (ho ▸ hov)
    have := h.opening
    omega
  cases f with
  | fit =>
    unfold settle
    dsimp only
    split
    · rename_i he
      exact .inr ⟨fun _ => he, replaced p (touch m now) rfl rfl⟩
    · refine .inl ?_
      split
      · exact letsGo_discard rfl rfl
      · exact letsGo_deliver hn hl rfl rfl
  | unfit => exact .inr ⟨nofun, replaced p.countUnfit (m.inStage .broken) rfl rfl⟩
  | lost => exact .inr ⟨nofun, replaced p.countLost.countUnfit (m.inStage .broken) rfl rfl⟩

/-- A member that comes back is given up as it is, or is to be reset. In a pool that keeps nothing
it is reset only if somebody waits. -/
theorem receive_cases (p : Pool) (server : Server) (m : Member) (now : Instant) :
    ∃ q m', m'.id = m.id ∧ m'.session = m.session ∧
      (p.receive server m now = (q, m', false) ∧ (q.overdrawn = false → q.size + 1 = p.size) ∨
      p.receive server m now = (q, m', true) ∧
        (p.isNull = true → p.waiting.requests ≠ [])) := by
  have dropped (p' : Pool) : (p'.drop 1).overdrawn = false → (p'.drop 1).size + 1 = p'.size := by
    simp only [drop, Bool.or_eq_false_iff, decide_eq_false_iff_not]
    omega
  have used : (p.countUse m now).size = p.size ∧ (p.countUse m now).waiting = p.waiting ∧
      (p.countUse m now).isNull = p.isNull := by
    unfold countUse
    split <;> exact ⟨rfl, rfl, rfl⟩
  unfold receive
  dsimp only
  split
  · exact ⟨_, { m with notes := { m.notes with takenAt := none } }, rfl, rfl,
      .inl ⟨rfl, fun ho => (dropped _ ho).trans used.1⟩⟩
  · split
    · refine ⟨_, { m with notes := { m.notes with takenAt := none } }, rfl, rfl,
        .inl ⟨rfl, fun ho => (dropped _ ho).trans ?_⟩⟩
      split <;> exact used.1
    · rename_i hw
      refine ⟨_, Member.inStage { m with notes := { m.notes with takenAt := none } } .resetting,
        rfl, rfl, .inr ⟨rfl, fun hn he => hw ?_⟩⟩
      rw [used.2.1, used.2.2, hn, WaitQueue.isEmpty, he]
      rfl

end Pool

/-! ## Returns -/

namespace Returning

variable {env env' : Env} {p q : Pool} {m : Member} {r r' : Returning}

/-- Whether the member is being reset, or has been. -/
def isAtReset : Returning → Bool
  | resetting _ | paused _ _ | settling _ _ => true
  | arriving _ | closing _ => false

/-- A member that comes back is closed as it is, or reset. -/
theorem step_arriving (env : Env) (p : Pool) (m : Member) :
    ∃ q m', m'.id = m.id ∧ m'.session = m.session ∧
      ((arriving m).step env p = some (env, q, .more (.closing m')) ∧
        (q.overdrawn = false → q.size + 1 = p.size) ∨
      (arriving m).step env p = some (env, q, .more (.resetting m')) ∧
        (p.isNull = true → p.waiting.requests ≠ [])) := by
  obtain ⟨q, m', hi, hs, ⟨hr, h⟩ | ⟨hr, h⟩⟩ := p.receive_cases env.server m env.now
  · refine ⟨q, m', hi, hs, .inl ⟨?_, h⟩⟩
    rw [step, hr]
  · refine ⟨q, m', hi, hs, .inr ⟨?_, h⟩⟩
    rw [step, hr]

theorem afterReset_more {x : Env × Session × Progress}
    (h : (afterReset p m x).2.2 = .more r) :
    r.isAtReset = true ∧ r.member.notes = m.notes := by
  obtain ⟨env', s, (e | ⟨⟨⟩⟩) | pause⟩ := x
  · cases h
    exact ⟨rfl, rfl⟩
  · unfold afterReset at h
    dsimp only at h
    split at h <;> cases h <;> exact ⟨rfl, rfl⟩
  · cases h
    exact ⟨rfl, rfl⟩

theorem reset_more (h : (reset env p m).2.2 = .more r) :
    r.isAtReset = true ∧ r.member.notes = m.notes := by
  have rolled (h : (rollBack env p m).2.2 = .more r) :
      r.isAtReset = true ∧ r.member.notes = m.notes := by
    unfold rollBack at h
    dsimp only at h
    split at h
    · exact afterReset_more h
    · cases h
      exact ⟨rfl, rfl⟩
  unfold reset at h
  split at h
  · cases h
    exact ⟨rfl, rfl⟩
  · split at h
    · cases h
      exact ⟨rfl, rfl⟩
    · split at h
      · exact afterReset_more h
      · exact rolled h
      · exact rolled h
      · cases h
        exact ⟨rfl, rfl⟩
      · cases h
        exact ⟨rfl, rfl⟩

/-- The reset of a member begins when it is received, and goes on with the same member. -/
theorem reset_origin (h : r.step env p = some (env', q, .more r')) (hr : r'.isAtReset = true) :
    (∃ m, r = .arriving m ∧ m.id = r'.member.id ∧ (p.isNull = true → p.waiting.requests ≠ [])) ∨
    r.isAtReset = true ∧ r'.member.notes = r.member.notes := by
  cases r with
  | arriving m =>
    obtain ⟨q', m', hi, -, ⟨hs, -⟩ | ⟨hs, hw⟩⟩ := step_arriving env p m
    · cases h.symm.trans hs
      cases hr
    · cases h.symm.trans hs
      exact .inl ⟨m, rfl, hi.symm, hw⟩
  | closing m => cases h
  | resetting m =>
    have hs : reset env p m = (env', q, .more r') := Option.some.inj h
    exact .inr ⟨rfl, (reset_more (congrArg (fun s => s.2.2) hs)).2⟩
  | paused m pause =>
    simp only [step, Option.ite_none_right_eq_some, Option.some.injEq] at h
    exact .inr ⟨rfl, (afterReset_more (congrArg (fun s => s.2.2) h.2)).2⟩
  | settling m f => cases h

end Returning

namespace Site

variable {env env' : Env} {s s' : Site} {mv : Move} {m : Member} {past : List Moment}
  {party : Party}

theorem powers_reset (h : s.powers mv .reset) :
    ∃ party m, mv = .step party ∧ s.returning? party = some (.resetting m) := by
  cases wields h with
  | @job k j _ hg h =>
    cases j with
    | returning r =>
      obtain ⟨m, rfl⟩ := h
      exact ⟨.worker k, m, rfl, by rw [returning?, hg]; rfl⟩
    | adding | closing | maintaining => exact h.elim
  | @operation n o _ hg h =>
    cases o with
    | release r =>
      obtain ⟨m, rfl⟩ := h
      exact ⟨.user n, m, rfl, by rw [returning?, hg]; rfl⟩
    | acquire | misplace | wait | check | close => exact h.elim

/-! ## Steps of a return -/

theorem step_of_returning {r : Returning} (hr : s.returning? party = some r) {q : Pool}
    {next : Next Returning Unit} (hs : r.step env s.pool = some (env', q, next)) :
    ∃ s', s.step env party = some (env', s') ∧ s'.pool.size = q.size ∧
      s'.pool.opening = q.opening ∧ s'.pool.overdrawn = q.overdrawn ∧
      s'.pool.crew.tasks = q.crew.tasks ∧ s'.pool.leaving = q.leaving ∧
      (∀ m, next = .more (.closing m) → s'.closes? party = some m) := by
  cases party with
  | worker k =>
    obtain ⟨j, hg, hj⟩ := Option.bind_eq_some_iff.1 hr
    cases j with
    | returning r' =>
      cases hj
      have hw : (Job.returning r).step env s.pool = some (env', q, next.map .returning id) := by
        rw [Job.step, hs]
        rfl
      cases next with
      | more r' =>
        refine ⟨_, by rw [step, stepWorker, hg]; simp only [hw]; rfl, rfl, rfl, rfl, rfl, rfl, ?_⟩
        rintro m ⟨⟩
        rw [closes?, Table.get?_put, if_pos rfl]
        rfl
      | done =>
        refine ⟨_, by rw [step, stepWorker, hg]; simp only [hw]; rfl, rfl, rfl, rfl, rfl, rfl, ?_⟩
        intro m hm
        cases hm
    | adding | closing | maintaining => cases hj
  | user n =>
    obtain ⟨o, hg, ho⟩ := Option.bind_eq_some_iff.1 hr
    cases o with
    | release r' =>
      cases ho
      have hw : (Operation.release r).step env s.pool =
          some (env', q, next.map .release fun _ => .done) := by
        rw [Operation.step, hs]
        rfl
      cases next with
      | more r' =>
        refine ⟨_, stepUser_more hg hw, rfl, rfl, rfl, rfl, rfl, ?_⟩
        rintro m ⟨⟩
        rw [closes?, Table.get?_update_self hg]
        rfl
      | done =>
        refine ⟨_, stepUser_done hg hw, rfl, rfl, rfl, rfl, rfl, ?_⟩
        intro m hm
        cases hm
    | acquire | misplace | wait | check | close => cases ho
  | ticker _ | closer _ => cases hr

/-- A member is on its way out, as it is. -/
def GivesUp (s : Site) (m : Member) : Prop :=
  ∃ m', m'.id = m.id ∧ m'.session = m.session ∧ s.Departing m'

theorem givesUp_of_leaves {q : Pool} (h : q.LeavesBehind m)
    (ht : s.pool.crew.tasks = q.crew.tasks) (hl : s.pool.leaving = q.leaving) : s.GivesUp m := by
  obtain ⟨m', hi, hs, h | h⟩ := h
  · exact ⟨m', hi, hs, .inl (ht ▸ h)⟩
  · exact ⟨m', hi, hs, .inr (.inl (hl ▸ h))⟩

/-! ## Members that come back -/

/-- The party is at the reset of a member since it received the member while somebody waited. -/
def WasWanted (past : List Moment) (party : Party) (id : Nat) : Prop :=
  ∃ later x earlier m, past = later ++ x :: earlier ∧ x.move = .step party ∧
    x.site.returning? party = some (.arriving m) ∧ m.id = id ∧
    x.site.pool.waiting.requests ≠ [] ∧
    ∀ y ∈ later, ∃ r, y.site.returning? party = some r ∧ r.isAtReset = true ∧ r.member.id = id

theorem WasWanted.begun {id : Nat} (hr : s.returning? party = some (.arriving m)) (hi : m.id = id)
    (hw : s.pool.waiting.requests ≠ []) : WasWanted (⟨env, s, .step party⟩ :: past) party id :=
  ⟨[], ⟨env, s, .step party⟩, past, m, rfl, rfl, hr, hi, hw, by simp⟩

theorem WasWanted.later {id : Nat} (h : WasWanted past party id) {r : Returning}
    (hr : s.returning? party = some r) (ha : r.isAtReset = true) (hi : r.member.id = id) :
    WasWanted (⟨env, s, mv⟩ :: past) party id := by
  obtain ⟨later, x, earlier, m, rfl, hx⟩ := h
  refine ⟨⟨env, s, mv⟩ :: later, x, earlier, m, rfl, hx.1, hx.2.1, hx.2.2.1, hx.2.2.2.1, ?_⟩
  rintro y (_ | ⟨_, hy⟩)
  · exact ⟨r, hr, ha, hi⟩
  · exact hx.2.2.2.2 y hy

theorem returning?_create {settings : PoolSettings} {options : ConnectOptions} {hooks : Hooks}
    (h : create env settings options hooks = (env', .ok s)) (party : Party) :
    s.returning? party = none := by
  obtain ⟨p, -, -, -, -, -, -, rfl⟩ := create_ok h
  cases party <;> rfl

/-- **In a pool that keeps nothing a member is reset only if somebody waited** when it came back. -/
theorem Course.wanted (h : Course past env s) (hn : s.pool.isNull = true) {r : Returning}
    (hr : s.returning? party = some r) (ha : r.isAtReset = true) :
    WasWanted past party r.member.id := by
  induction h generalizing r with
  | created h =>
    rw [returning?_create h] at hr
    cases hr
  | @moved past env env' s s' mv hp hm ih =>
    have reached := hp.reachable
    have hn : s.pool.isNull = true := (reached.steady hm).isNull.symm.trans hn
    rcases returning_origin reached.keyed hm hr with hr | ⟨r₀, rfl, hr₀, hs⟩ | ⟨m, rfl⟩
    · exact (ih hn hr ha).later hr ha rfl
    · rcases Returning.reset_origin hs ha with ⟨m, rfl, hi, hw⟩ | ⟨ha₀, hn'⟩
      · exact .begun hr₀ hi (hw hn)
      · have before := ih hn hr₀ ha₀
        have hi : r₀.member.id = r.member.id := (congrArg Notes.id hn').symm
        rw [hi] at before
        exact before.later hr₀ ha₀ hi
    · cases ha

/-! ## Nothing is kept -/

theorem Reachable.idle_eq_nil (h : Reachable env s) (hn : s.pool.isNull = true) :
    s.pool.idle = [] := by
  induction h with
  | created h =>
    obtain ⟨p, hb, -, hs, -, -, -, rfl⟩ := create_ok h
    have hn : p.isNull = true := by
      rw [Pool.isNull, show (fill p).settings = p.settings from
        congrArg Pool.Terms.settings (handled_fill p).terms] at hn
      exact hn
    exact ((changes_fill p).idle_eq_nil hn hb.idle).2
  | moved hr hm ih =>
    have hn := (hr.steady hm).isNull.symm.trans hn
    exact ((changes_move hr.orderlyShut hm).idle_eq_nil hn (ih hn)).2

theorem Reachable.stepped (h : Reachable env s) (hs : s.step env party = some (env', s')) :
    Reachable env' s' :=
  h.moved (show s.move? env (.step party) = some (env', s') from hs)

/-! ## What the steps do to them -/

section
variable (h : Reachable env s)
include h

/-- A member that comes back while nobody waits is given up as it is, and its room is free. -/
theorem untouched (hn : s.pool.isNull = true) (hr : s.returning? party = some (.arriving m))
    (hw : s.pool.waiting.requests = []) :
    ∃ s', s.step env party = some (env, s') ∧ s'.GivesUp m ∧ s'.pool.size + 1 = s.pool.size := by
  obtain ⟨q, m', hi, hs, ⟨hstep, hz⟩ | ⟨-, hk⟩⟩ := Returning.step_arriving env s.pool m
  · obtain ⟨s', hm, hsize, -, hov, -, -, hc⟩ := step_of_returning hr hstep
    have solvent := (h.stepped hm).balanced.solvent
    refine ⟨s', hm, ⟨m', hi, hs, .inr (.inr ⟨party, hc m' rfl⟩)⟩, ?_⟩
    rw [hsize]
    exact hz (hov ▸ solvent)
  · exact absurd hw (hk hn)

/-- So is one that was opened in the background when nobody waits any more. -/
theorem freed_of_opened (hn : s.pool.isNull = true) (hl : s.pool.waiting.live env.now = [])
    {k : Nat} {a : Adding} {elapsed : Duration} (hg : Table.get? s.jobs k = some (.adding a))
    (ha : a.phase = .joining m elapsed) (hm : s.move? env (.step (.worker k)) = some (env', s')) :
    s'.GivesUp m ∧ s'.pool.size + 1 = s.pool.size := by
  have hs : (Job.adding a).step env s.pool =
      some (env, s.pool.join m elapsed env.now, .done ()) := by
    rw [Job.step, Adding.step, ha]
    rfl
  obtain ⟨left, size⟩ : (s.pool.join m elapsed env.now).LeavesBehind m ∧ _ :=
    Pool.letsGo_join hn hl
  have solvent := (h.moved hm).balanced.solvent
  cases moved hm with
  | worked hg' hs' =>
    cases hg.symm.trans hg'
    cases hs.symm.trans hs'
  | finished hg' hs' =>
    cases hg.symm.trans hg'
    cases hs.symm.trans hs'
    exact ⟨givesUp_of_leaves left rfl rfl, size solvent⟩
  | sought hg' _ | took hg' _ => cases hg.symm.trans hg'
  | unheld hv => rcases hv with hv | hv | hv <;> cases hv

/-- So is one that came back, and whatever it turned out to be. -/
theorem freed_of_settling (hn : s.pool.isNull = true) (hl : s.pool.waiting.live env.now = [])
    {f : Fitness} (hr : s.returning? party = some (.settling m f))
    (hm : s.move? env (.step party) = some (env', s')) :
    s'.GivesUp m ∧ (s'.pool.size + 1 = s.pool.size ∨ (f = .fit → m.isExpired env.now = true) ∧
      s'.pool.size + 1 + s.pool.opening = s.pool.size + s'.pool.opening) := by
  have hs : (Returning.settling m f).step env s.pool =
      some ((Returning.settle env s.pool m f).1, s.pool.settle m env.now f, .done ()) := by
    rw [← Returning.now_settle (p := s.pool) m f]
    rfl
  obtain ⟨s₁, hm', hz, ho, hov, ht, hv, -⟩ := step_of_returning hr hs
  cases hm'.symm.trans hm
  have solvent := hov ▸ (h.moved hm).balanced.solvent
  rcases Pool.letsGo_settle (m := m) (f := f) hn hl with left | ⟨hf, left, size⟩
  · exact ⟨givesUp_of_leaves left.leaves ht hv, .inl (hz ▸ left.size solvent)⟩
  · exact ⟨givesUp_of_leaves left ht hv, .inr ⟨hf, hz ▸ ho ▸ size solvent⟩⟩

/-- So is one that was given to a request which is withdrawn before it takes the member. -/
theorem freed_of_withdrawn (hn : s.pool.isNull = true) (hl : s.pool.waiting.live env.now = [])
    {n t : Nat} {a : Acquiring} (hg : Table.get? s.operations n = some (.acquire a))
    (ht : a.ticket? = some t) (hr : s.pool.waiting.reply? t = some (.ok m))
    (hm : s.move? env (.cancel n) = some (env', s')) :
    s'.GivesUp m ∧ s'.pool.size + 1 = s.pool.size := by
  have solvent := (h.moved hm).balanced.solvent
  cases moved hm with
  | unheld hv => rcases hv with hv | hv | hv <;> cases hv
  | cancelled hg' hs =>
    cases hg.symm.trans hg'
    cases a with
    | queued ticket cutoff timeout =>
      cases ht
      have hu : s.pool.undelivered? t = some m := by
        rw [Pool.undelivered?, if_neg (by simp [h.balanced.sound.not_waiting_of_reply hr]), hr]
      have hc : ((Operation.acquire (.queued t cutoff timeout)).cancel env s.pool).2 =
          s.pool.abandon t env.now := by
        simp only [Operation.cancel, Acquiring.cancel, hu]
        rfl
      have left := Pool.letsGo_abandon hn hl hu
      exact ⟨givesUp_of_leaves left.leaves (congrArg (fun p => p.crew.tasks) hc)
        (congrArg Pool.leaving hc), (congrArg (fun p => p.size + 1) hc).trans
        (left.size (hc ▸ solvent))⟩
    | arriving _ | dialing _ _ _ => cases ht
    | givingUp _ _ | calling _ _ | takingOver _ _ | countingFailure _ | vacating _ | failing _ =>
      cases hs

/-- A session that a request opened itself goes to that request, or is given up if the pool was
closed meanwhile. -/
theorem taken_over {n : Nat} {elapsed : Duration}
    (hg : Table.get? s.operations n = some (.acquire (.takingOver m elapsed))) :
    ∃ s', s.step env (.user n) = some (env, s') ∧
      (s'.outcomes = s.outcomes ++ [(n, .served (m.handOut env.now))] ∨
        s.pool.closed = true ∧ s'.GivesUp m ∧ s'.pool.size + 1 = s.pool.size) := by
  cases ho : s.pool.closed with
  | false =>
    have hs : (Operation.acquire (.takingOver m elapsed)).step env s.pool =
        some (env, s.pool.countOpened elapsed, .done (.served (m.handOut env.now))) := by
      simp only [Operation.step, Acquiring.step, Pool.takeOver, Pool.closed_countOpened, ho]
      rfl
    exact ⟨_, stepUser_done hg hs, .inl rfl⟩
  | true =>
    have hs : (Operation.acquire (.takingOver m elapsed)).step env s.pool =
        some (env, (s.pool.countOpened elapsed).discard m, .done (.failed .closed)) := by
      simp only [Operation.step, Acquiring.step, Pool.takeOver, Pool.closed_countOpened, ho]
      rfl
    have hm := stepUser_done hg hs
    have solvent := (h.stepped hm).balanced.solvent
    have left : (s.pool.countOpened elapsed).LetsGo m _ := Pool.letsGo_discard rfl rfl
    exact ⟨_, hm, .inr ⟨rfl, givesUp_of_leaves left.leaves rfl rfl,
      (left.size solvent).trans Pool.size_countOpened⟩⟩

end

/-! ## The way back -/

/-- A member is on its way back: a worker is to receive it, or a party has it in hand that brings it
back. -/
def ComesBack (s : Site) (m : Member) : Prop :=
  .restore m ∈ s.pool.crew.tasks ∨ (∃ party, s.returning? party = some (.arriving m)) ∨
    ∃ n, Table.get? s.operations n = some (.misplace m)

theorem comesBack_of_returnLater (hq : s'.pool = s.pool.returnLater m) :
    s'.ComesBack m ∨ s'.GivesUp m := by
  unfold Pool.returnLater at hq
  rcases s.pool.crew.dispatch_cases (.restore m) with ⟨-, hd⟩ | ⟨-, hd⟩ <;> rw [hd] at hq
  · refine .inr ⟨m, rfl, rfl, .inr (.inl ?_)⟩
    rw [hq]
    exact List.mem_append_right _ (.head _)
  · refine .inl (.inl ?_)
    rw [hq]
    exact List.mem_append_right _ (.head _)

/-- **Who comes back is received while somebody waits, or closed as it is.** -/
theorem ComesBack.move (hm : s.ComesBack m) (hr : Reachable env s) (hn : s.pool.isNull = true)
    (h : s.move? env mv = some (env', s')) :
    s'.ComesBack m ∨ s'.GivesUp m ∨ env' = m.close env ∨
      ∃ party, mv = .step party ∧ s.returning? party = some (.arriving m) ∧
        s.pool.waiting.requests ≠ [] := by
  rcases hm with ht | ⟨party, hp⟩ | ⟨n, hg⟩
  · rcases task_move hr ht rfl h with ht | ⟨k, hg⟩ | he
    · exact .inl (.inl ht)
    · exact .inl (.inr (.inl ⟨.worker k, by rw [returning?, hg]; rfl⟩))
    · exact .inr (.inr (.inl he))
  · by_cases hs : mv = .step party
    · subst hs
      by_cases hw : s.pool.waiting.requests = []
      · obtain ⟨s₁, hm, hu, -⟩ := untouched hr hn hp hw
        cases hm.symm.trans h
        exact .inr (.inl hu)
      · exact .inr (.inr (.inr ⟨party, rfl, hp, hw⟩))
    · by_cases hc : ∃ n, party = .user n ∧ mv = .cancel n
      · obtain ⟨n, rfl, rfl⟩ := hc
        obtain ⟨o, hg, ho⟩ := Option.bind_eq_some_iff.1 hp
        obtain rfl := Operation.eq_of_returning ho
        cases moved h with
        | cancelled hg' _ =>
          cases hg.symm.trans hg'
          exact (comesBack_of_returnLater rfl).imp_right .inl
        | unheld hv => rcases hv with hv | hv | hv <;> cases hv
      · exact .inl (.inr (.inl ⟨party, returning?_move h hp hs fun n hn hc' => hc ⟨n, hn, hc'⟩⟩))
  · by_cases hs : mv = .step (.user n)
    · subst hs
      have hd : (Operation.misplace m).step env s.pool =
          some (env, s.pool.returnLater m, .done (.failed .wrongPool)) := rfl
      rw [move?, stepUser_done hg hd] at h
      cases h
      exact (comesBack_of_returnLater rfl).imp_right .inl
    · by_cases hc : mv = .cancel n
      · subst hc
        cases moved h with
        | cancelled hg' _ =>
          cases hg.symm.trans hg'
          exact (comesBack_of_returnLater rfl).imp_right .inl
        | unheld hv => rcases hv with hv | hv | hv <;> cases hv
      · exact .inl (.inr (.inr ⟨n, operation_move h hg hs hc⟩))

/-! ## The whole -/

/-- A null pool keeps nothing. -/
structure KeepsNothing (past : List Moment) (env : Env) (s : Site) : Prop where
  idle : s.pool.idle = []
  /-- A member is at its reset only if a request waited when it was received. -/
  wanted : ∀ party r, s.returning? party = some r → r.isAtReset = true →
    WasWanted past party r.member.id
  /-- The hook is called for such a member only. -/
  calls : ∀ mv env' s', s.move? env mv = some (env', s') →
    s'.pool.hookCalls.reset ≠ s.pool.hookCalls.reset →
    ∃ party m, mv = .step party ∧ s.returning? party = some (.resetting m)
  /-- A member that comes back is received while somebody waits, or closed as it is. -/
  back : ∀ m mv env' s', s.ComesBack m → s.move? env mv = some (env', s') →
    s'.ComesBack m ∨ s'.GivesUp m ∨ env' = m.close env ∨
      ∃ party, mv = .step party ∧ s.returning? party = some (.arriving m) ∧
        s.pool.waiting.requests ≠ []
  /-- If nobody waits when it is received, it is given up, and its room is free. -/
  untouched : ∀ party m, s.returning? party = some (.arriving m) → s.pool.waiting.requests = [] →
    ∃ s', s.step env party = some (env, s') ∧ s'.GivesUp m ∧ s'.pool.size + 1 = s.pool.size
  /-- Who was given up is on its way out until its session is closed. -/
  closed : ∀ m mv env' s', s.Departing m → s.move? env mv = some (env', s') →
    s'.Departing m ∨ env' = m.close env
  /-- If no request is left whose time is not up, a member that was opened is given up. -/
  opened : ∀ k a m elapsed env' s', s.pool.waiting.live env.now = [] →
    Table.get? s.jobs k = some (.adding a) → a.phase = .joining m elapsed →
    s.move? env (.step (.worker k)) = some (env', s') →
    s'.GivesUp m ∧ s'.pool.size + 1 = s.pool.size
  /-- A session that a request opened itself is that request's, if the pool is not closed. -/
  own : ∀ n m elapsed, Table.get? s.operations n = some (.acquire (.takingOver m elapsed)) →
    ∃ s', s.step env (.user n) = some (env, s') ∧
      (s'.outcomes = s.outcomes ++ [(n, .served (m.handOut env.now))] ∨
        s.pool.closed = true ∧ s'.GivesUp m ∧ s'.pool.size + 1 = s.pool.size)
  /-- One that was reset is given up. The room of an unfit or expired one may be taken at once, for
  a request that is late and was not told so yet. -/
  reset : ∀ party m f env' s', s.pool.waiting.live env.now = [] →
    s.returning? party = some (.settling m f) → s.move? env (.step party) = some (env', s') →
    s'.GivesUp m ∧ (s'.pool.size + 1 = s.pool.size ∨ (f = .fit → m.isExpired env.now = true) ∧
      s'.pool.size + 1 + s.pool.opening = s.pool.size + s'.pool.opening)
  /-- One that was given to a request which is withdrawn is given up. -/
  withdrawn : ∀ n a t m env' s', s.pool.waiting.live env.now = [] →
    Table.get? s.operations n = some (.acquire a) → a.ticket? = some t →
    s.pool.waiting.reply? t = some (.ok m) → s.move? env (.cancel n) = some (env', s') →
    s'.GivesUp m ∧ s'.pool.size + 1 = s.pool.size

/-- **A null pool keeps nothing**, in every state that it comes to. -/
theorem Course.keeps_nothing (h : Course past env s) (hn : s.pool.isNull = true) :
    KeepsNothing past env s where
  idle := h.reachable.idle_eq_nil hn
  wanted := fun _ _ => h.wanted hn
  calls := fun _ _ _ hm hc => powers_reset <| by
    by_contra hG
    exact hc ((changes_move h.reachable.orderlyShut hm).resets hG)
  back := fun _ _ _ _ hb hm => hb.move h.reachable hn hm
  untouched := fun _ _ => untouched h.reachable hn
  closed := fun _ _ _ _ hd hm => hd.move h.reachable hm
  opened := fun _ _ _ _ _ _ hl hg ha => freed_of_opened h.reachable hn hl hg ha
  own := fun _ _ _ => taken_over h.reachable
  reset := fun _ _ _ _ _ hl hr => freed_of_settling h.reachable hn hl hr
  withdrawn := fun _ _ _ _ _ _ hl hg ht hr => freed_of_withdrawn h.reachable hn hl hg ht hr

/-- The first session of a null pool is opened and closed again; then one request opens a session
for itself, and another one waits for it. -/
def passedOn : List Move :=
  List.replicate 6 (.step (.worker 0)) ++
    [.acquire 0 (.ofSecs 30), .step (.user 0), .step (.user 0), .step (.user 0),
      .acquire 1 (.ofSecs 30), .step (.user 1), .release 2 2, .step (.user 2)]

/-- A member comes back while a request waits, and is reset. -/
theorem Course.keeps_nothing_wanted :
    ∃ past env s r, Course past env s ∧ s.returning? (.user 2) = some r ∧ r.isAtReset = true ∧
      WasWanted past (.user 2) r.member.id ∧ s.pool.idle = [] := by
  obtain ⟨x, -, hp, hr⟩ := Reachable.of_replay
    { kind := .null, minSize := 0, maxSize := some 1, workers := 1 } passedOn
    (fun x => x.2.pool.isNull && (x.2.returning? (.user 2)).any Returning.isAtReset)
    (by decide +kernel)
  obtain ⟨hn, ha⟩ := Bool.and_eq_true_iff.1 hp
  obtain ⟨r, hr', ha⟩ := (Option.any_eq_true _ _).1 ha
  obtain ⟨past, course⟩ := hr.course
  have keeps := course.keeps_nothing hn
  exact ⟨past, x.1, x.2, r, course, hr', ha, keeps.wanted _ r hr' ha, keeps.idle⟩

end Site

end SessionPool
