import SessionPool.Proofs.Chronicle

/-!
# Sessions that are being configured

A session is configured before it becomes that of a member and never after: with every move, a
session that is being configured was so before, or it was opened with that move
(`Site.configuring_move`).
-/

set_option autoImplicit false

namespace SessionPool

/-- What is being configured after a step was so before it, or it was opened with the step. -/
def Stepped.Configures {π ρ : Type} (f : π → Multiset Session) (env : Env) (x : Multiset Session)
    (s : Stepped π ρ) : Prop :=
  ∀ y, s.2.2 = .more y → pidsOf (f y) ≤ pidsOf x + env.server.issued s.1.server

variable {env env' : Env} {p q : Pool}

namespace Stepped.Configures

variable {π ρ : Type} {f : π → Multiset Session} {x : Multiset Session} {r : ρ}

theorem done : Configures f env x (env', q, .done r) := fun _ h => by cases h

/-- Nothing is being configured. -/
theorem none {y : π} (h : f y = 0) : Configures f env x ((env', q, .more y) : Stepped π ρ) := by
  intro _ he
  cases he
  rw [h]
  exact Multiset.zero_le _

end Stepped.Configures

/-! ## Opening a session -/

namespace Opening

/-- The session that is being configured. -/
def pending (o : Opening) : Multiset Session := (o.session?.toList : Multiset Session)

theorem configures_afterConfigure (began : Instant) {x : Env × Session × Progress}
    {a : Multiset Session} (h : {x.2.1.pid} ≤ pidsOf a + env.server.issued x.1.server) :
    Stepped.Configures pending env a (afterConfigure p began x) := by
  obtain ⟨env', s, progress⟩ := x
  rcases progress with (e | ⟨⟨⟩⟩) | pause
  · exact .done
  · unfold afterConfigure
    dsimp only
    split
    · exact .done
    · exact .done
  · intro _ he
    cases he
    exact h

theorem configures_afterDial (began : Instant) {x : Env × Dialed}
    (h : x.2.IsFair env.server x.1.server) {a : Multiset Session} :
    Stepped.Configures pending env a (afterDial p began x) := by
  obtain ⟨env', dialed⟩ := x
  rcases dialed with (e | s) | dial
  · exact .done
  · refine configures_afterConfigure began ?_
    have opened : env.server.Opens env'.server s := h
    have run := Script.turns_run env' s (p.hooks.configure p.hookCalls.configure)
    have issued := Server.issued_add opened.toGrows run.stays.toGrows
    rw [opened.issued, run.stays.issued, add_zero] at issued
    rw [← issued, run.pid]
    exact Multiset.le_add_left _ _
  · exact .none rfl

theorem configures {o : Opening} {s : Stepped Opening Opened} (h : o.step env p = some s) :
    s.Configures pending env o.pending := by
  cases o with
  | fresh =>
    cases h
    exact configures_afterDial _ (Dial.fair_start env p.options)
  | dialing began dial =>
    simp only [step, Option.ite_none_right_eq_some, Option.some.injEq] at h
    obtain ⟨-, rfl⟩ := h
    exact configures_afterDial _ (Dial.fair_resume env dial)
  | configuring began s pause =>
    simp only [step, Option.ite_none_right_eq_some, Option.some.injEq] at h
    obtain ⟨-, rfl⟩ := h
    refine configures_afterConfigure began ?_
    rw [(Script.turns_resume env s pause).pid]
    exact Multiset.le_add_right _ _

end Opening

/-! ## Jobs -/

theorem Adding.configures {a : Adding} {s : Stepped Adding Unit} (h : a.step env p = some s) :
    s.Configures configuring env a.configuring := by
  obtain ⟨waiter, attempt, delay, phase⟩ := a
  cases phase with
  | opening o =>
    simp only [step] at h
    split at h
    · cases h
      exact .none rfl
    · obtain ⟨⟨env', q, next⟩, ho, rfl⟩ := Option.map_eq_some_iff.1 h
      have opening := Opening.configures ho
      rcases next with o' | (e | ⟨m, elapsed⟩)
      · intro _ he
        cases he
        exact opening o' rfl
      · exact .none rfl
      · exact .none rfl
  | joining m elapsed =>
    cases h
    exact .done
  | failing e =>
    cases h
    unfold fail
    dsimp only
    split
    · exact .none rfl
    · split
      · exact .none rfl
      · exact .none rfl
  | resting timer =>
    simp only [step] at h
    split at h
    · cases h
      exact .none rfl
    · obtain ⟨-, rfl⟩ := by simpa using h
      exact .none rfl
  | releasing e =>
    cases h
    exact .done

theorem Job.configures {j : Job} {s : Stepped Job Unit} (h : j.step env p = some s) :
    s.Configures configuring env j.configuring := by
  cases j with
  | adding a =>
    obtain ⟨⟨env', q, next⟩, ha, rfl⟩ := Option.map_eq_some_iff.1 h
    cases next with
    | more a' =>
      intro _ he
      cases he
      exact Adding.configures ha a' rfl
    | done r => exact .done
  | returning r =>
    obtain ⟨⟨env', q, next⟩, -, rfl⟩ := Option.map_eq_some_iff.1 h
    cases next with
    | more r' => exact .none rfl
    | done r => exact .done
  | closing m =>
    cases h
    exact .done
  | maintaining =>
    cases h
    exact .done

/-! ## Operations -/

namespace Acquiring

theorem configures_refuse (e : PoolError) {x : Multiset Session} :
    Stepped.Configures configuring env x (refuse env' q e) := by
  unfold refuse
  split
  · exact .done
  · exact .none rfl

theorem configures_conclude (r : Pool × Acquired) {x : Multiset Session} :
    Stepped.Configures configuring env x (conclude env' r) := by
  obtain ⟨q, e | m⟩ := r
  · exact configures_refuse e
  · exact .done

theorem configures_afterOpening {resume : Opening → Env → Env × Acquiring}
    (hr : ∀ o env, (resume o env).1.server = env.server ∧
      (resume o env).2.configuring = o.pending) {x : Stepped Opening Opened}
    {a : Multiset Session} (h : x.Configures Opening.pending env a) :
    (afterOpening resume x).Configures configuring env a := by
  obtain ⟨env', q, next⟩ := x
  rcases next with o | (e | ⟨m, elapsed⟩)
  · obtain ⟨hs, hc⟩ := hr o env'
    intro _ he
    cases he
    rw [hc]
    show pidsOf o.pending ≤ pidsOf a + env.server.issued (resume o env').1.server
    rw [hs]
    exact h o rfl
  · exact .none rfl
  · exact .none rfl

theorem configures {a : Acquiring} {s : Stepped Acquiring Acquired} (h : a.step env p = some s) :
    s.Configures configuring env a.configuring := by
  cases a with
  | arriving timeout =>
    cases h
    unfold arrive
    dsimp only
    split
    · exact .done
    · exact .none rfl
    · exact .none rfl
    · exact configures_refuse _
  | queued ticket cutoff timeout =>
    simp only [step] at h
    split at h
    · cases h
      exact configures_conclude _
    · split at h
      · cases h
        exact configures_refuse _
      · simp only [Option.ite_none_right_eq_some, Option.some.injEq] at h
        obtain ⟨-, rfl⟩ := h
        exact .none rfl
  | givingUp ticket timeout =>
    cases h
    exact configures_conclude _
  | calling deadline timeout =>
    simp only [step] at h
    obtain ⟨x, ho, rfl⟩ := Option.map_eq_some_iff.1 h
    exact configures_afterOpening (fun o env => ⟨rfl, rfl⟩) (Opening.configures ho)
  | dialing o cutoff timeout =>
    simp only [step] at h
    split at h
    · rename_i x ho
      cases h
      exact configures_afterOpening (fun o env => ⟨rfl, rfl⟩) (Opening.configures ho)
    · simp only [Option.ite_none_right_eq_some, Option.some.injEq] at h
      obtain ⟨-, rfl⟩ := h
      exact .none rfl
  | takingOver m elapsed =>
    cases h
    exact configures_conclude _
  | countingFailure e =>
    cases h
    exact .none rfl
  | vacating e =>
    cases h
    exact .none rfl
  | failing e =>
    cases h
    exact .done

end Acquiring

theorem Operation.configures {o : Operation} {s : Stepped Operation Outcome}
    (h : o.step env p = some s) : s.Configures configuring env o.configuring := by
  cases o with
  | acquire a =>
    obtain ⟨⟨env', q, next⟩, ha, rfl⟩ := Option.map_eq_some_iff.1 h
    cases next with
    | more a' =>
      intro _ he
      cases he
      exact Acquiring.configures ha a' rfl
    | done r => exact .done
  | misplace m =>
    cases h
    exact .done
  | release _ | wait _ | check _ | close _ =>
    obtain ⟨⟨env', q, next⟩, -, rfl⟩ := Option.map_eq_some_iff.1 h
    cases next with
    | more _ => exact .none rfl
    | done r => exact .done

/-! ## Moves -/

namespace Site

variable {s s' : Site} {mv : Move}

theorem configuring_eq_sum (s : Site) :
    s.configuring = s.sum (fun _ => 0) Job.configuring Operation.configuring := by
  simp [configuring, sum]

theorem configuring_job (hk : s.Keyed) {k : Nat} {j : Job} (hg : Table.get? s.jobs k = some j) :
    s.configuring = j.configuring + { s with jobs := Table.remove s.jobs k }.configuring := by
  rw [configuring_eq_sum, configuring_eq_sum]
  exact sum_job _ _ _ hk.jobs hg

theorem configuring_putJob (k : Nat) (j : Job) :
    { s with jobs := Table.put s.jobs k j }.configuring =
      j.configuring + { s with jobs := Table.remove s.jobs k }.configuring := by
  rw [configuring_eq_sum, configuring_eq_sum]
  exact sum_putJob _ _ _ k j

theorem configuring_takeJob {k : Nat} (hg : Table.get? s.jobs k = none) (j : Job) :
    { s with jobs := Table.put s.jobs k j }.configuring = j.configuring + s.configuring := by
  rw [configuring_eq_sum, configuring_eq_sum]
  exact sum_takeJob _ _ _ hg j

theorem configuring_operation (hk : s.Keyed) {n : Nat} {o : Operation}
    (hg : Table.get? s.operations n = some o) :
    s.configuring =
      o.configuring + { s with operations := Table.remove s.operations n }.configuring := by
  rw [configuring_eq_sum, configuring_eq_sum]
  exact sum_operation _ _ _ hk.operations hg

theorem configuring_updateOperation (hk : s.Keyed) {n : Nat} {o : Operation}
    (hg : Table.get? s.operations n = some o) (o' : Operation) :
    { s with operations := Table.update s.operations n o' }.configuring =
      o'.configuring + { s with operations := Table.remove s.operations n }.configuring := by
  rw [configuring_eq_sum, configuring_eq_sum]
  exact sum_updateOperation _ _ _ hk.operations hg o'

/-- **No session is configured but one that was opened for it**: with every move, what is being
configured was so before, or is new. -/
theorem configuring_move (hk : s.Keyed) (h : s.move? env mv = some (env', s')) :
    pidsOf s'.configuring ≤ pidsOf s.configuring + env.server.issued env'.server := by
  -- others configure what they did
  have share {x y rest : Multiset Session} (hx : s.configuring = x + rest)
      (hy : s'.configuring = y + rest)
      (hle : pidsOf y ≤ pidsOf x + env.server.issued env'.server) :
      pidsOf s'.configuring ≤ pidsOf s.configuring + env.server.issued env'.server := by
    rw [hx, hy, pidsOf_add, pidsOf_add, add_right_comm]
    exact add_le_add_left hle _
  -- most moves leave alone what is being configured
  have same (h : s'.configuring = s.configuring) :
      pidsOf s'.configuring ≤ pidsOf s.configuring + env.server.issued env'.server :=
    h ▸ Multiset.le_add_right _ _
  have start {n : Nat} {o : Operation} (ho : o.configuring = 0) :
      (s.start n o).configuring = s.configuring := by
    rw [configuring_eq_sum, configuring_eq_sum, sum_start, ho, add_zero]
  cases moved h with
  | @worked k j j' _ _ hg hs =>
    exact share (configuring_job hk hg) (configuring_putJob k j') (Job.configures hs j' rfl)
  | finished hg hs =>
    exact share (y := 0) (configuring_job hk hg) (zero_add _).symm (Multiset.zero_le _)
  | @took k _ t hg hs =>
    refine same ?_
    cases t <;> exact (configuring_takeJob hg _).trans (zero_add _)
  | @wentOn n o o' _ _ hg hs =>
    exact share (configuring_operation hk hg) (configuring_updateOperation hk hg o')
      (Operation.configures hs o' rfl)
  | ended hg hs =>
    exact share (y := 0) (configuring_operation hk hg) (zero_add _).symm (Multiset.zero_le _)
  | cancelled hg hs =>
    exact share (y := 0) (configuring_operation hk hg) (zero_add _).symm (Multiset.zero_le _)
  | acquire | wait | check | close | release | misplace => exact same (start rfl)
  | sought | ticked | closed | taken | untaken | giveBack | leaveBehind
  | abandoned | detach | unheld | use | resized | unsized | resetCounters | readOutcome | passed =>
    exact same rfl

end Site

end SessionPool
