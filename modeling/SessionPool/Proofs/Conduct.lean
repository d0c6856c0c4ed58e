import SessionPool.Process.Job
import SessionPool.Process.Operation
import SessionPool.Proofs.Clock
import SessionPool.Proofs.Tending

/-!
# How processes tend sessions

A step of a process tends the sessions that the process has in hand (`Stepped.IsTended`): what it
turns them into is the charge of what comes next. The exceptions are the steps in which a session
that is being configured is let go, because the crew was stopped (`Job.abandoned`) or because the
time of the request is up (`Operation.abandoned`), and the operations that are given up with
sessions in hand (`Operation.dropped`).

Whether a session is fit after a probe is up to the probe (`Hooks.TidyProbe`).
-/

set_option autoImplicit false

namespace SessionPool

/-- A step of a process with `a` in hand; `f` and `g` say what the next process and the result have
in hand. -/
def Stepped.IsTended {π ρ : Type} (C : Prop) (env : Env) (p : Pool) (a : Charge) (f : π → Charge)
    (g : ρ → Charge) (s : Stepped π ρ) : Prop :=
  Tended C env p a s.1 s.2.1 (s.2.2.charge f g)

namespace Tended

variable {C : Prop} {env env' : Env} {p q : Pool} {a b : Charge} {s s' : Session}

/-! ## One session in hand -/

theorem opens (h : env.server.Opens env'.server s) : Tended C env p 0 env' p (.ofWorn {s}) := by
  simpa using opened (C := C) (p := p) (a := 0) h

theorem changes (h : s.Turns env.server env'.server s') :
    Tended C env p (.ofWorn {s}) env' p (.ofWorn {s'}) := by
  simpa using changed (C := C) (p := p) (a := 0) h

theorem closes (h : env'.server = (s.close env.server).2) :
    Tended C env p (.ofWorn {s}) env' p 0 := by
  simpa using closed (C := C) (p := p) (a := 0) h

theorem passes (h : C → s.IsReady env.server) :
    Tended C env p (.ofWorn {s}) env p (.ofFit {s}) := by
  simpa using passed (C := C) (p := p) (a := 0) h

/-- The surroundings of a step change in what does not concern the server. -/
theorem noted (h : Tended C env p a env' q b) {env'' : Env} (hs : env''.server = env'.server) :
    Tended C env p a env'' q b := h.trans (.stay (.of_eq hs))

theorem of_server (hs : env'.server = env.server) : Tended C env p a env' p a := .stay (.of_eq hs)

end Tended

variable {C : Prop} {env env' : Env} {p q : Pool}

@[simp] theorem Pool.server_noteExpired (p : Pool) (env : Env) (ms : List Member) :
    (p.noteExpired env ms).server = env.server := by
  unfold noteExpired
  induction ms generalizing env with
  | nil => rfl
  | cons m ms ih => exact ih _

/-! ## Opening a session -/

namespace Opening

theorem tended_accept (began : Instant) (s : Session) (h : s.reported env.server = .idle) :
    Stepped.IsTended C env p (.ofWorn {s}) charge accepted (accept env p began s) := by
  have hl : (lifetime env p.takeId.1).1.server = env.server := by
    unfold lifetime
    split <;> rfl
  refine Tended.trans (.passes fun _ => .inl h) (.handled ?_ hl)
  exact .aside rfl rfl rfl rfl rfl

/-- A session that was configured is accepted if it is idle, or it is closed. -/
theorem tended_afterConfigure (began : Instant) (x : Env × Session × Progress) :
    Stepped.IsTended C x.1 p (.ofWorn {x.2.1}) charge accepted (afterConfigure p began x) := by
  obtain ⟨env', s, progress⟩ := x
  cases progress with
  | paused pause => exact .refl
  | finished result =>
    cases result with
    | error e => exact .closes rfl
    | ok _ =>
      unfold afterConfigure
      dsimp only
      split
      · rename_i hs
        exact tended_accept began s hs
      · exact .closes rfl

theorem tended_afterDial (began : Instant) {x : Env × Dialed}
    (h : x.2.IsFair env.server x.1.server) :
    Stepped.IsTended C env p 0 charge accepted (afterDial p began x) := by
  obtain ⟨env', dialed⟩ := x
  cases dialed with
  | waiting dial => exact .stay h
  | finished result =>
    cases result with
    | error e => exact .stay h
    | ok s =>
      have called : Pool.Handled p (.ofWorn {s}) p.configureCall.1 (.ofWorn {s}) :=
        .aside rfl rfl rfl rfl rfl
      have run := Script.turns_run env' s p.configureCall.2
      have opened : Tended C env p 0 _ _ _ :=
        ((Tended.opens h).trans (.handled called rfl)).trans (.changes run)
      exact opened.trans (tended_afterConfigure began _)

theorem tended {o : Opening} {s : Stepped Opening Opened} (h : o.step env p = some s) :
    Stepped.IsTended C env p o.charge charge accepted s := by
  cases o with
  | fresh =>
    cases h
    exact tended_afterDial _ (Dial.fair_start env p.options)
  | dialing began dial =>
    simp only [step, Option.ite_none_right_eq_some, Option.some.injEq] at h
    obtain ⟨-, rfl⟩ := h
    exact tended_afterDial _ (Dial.fair_resume env dial)
  | configuring began s pause =>
    simp only [step, Option.ite_none_right_eq_some, Option.some.injEq] at h
    obtain ⟨-, rfl⟩ := h
    exact (Tended.changes (Script.turns_resume env s pause)).trans (tended_afterConfigure _ _)

end Opening

/-! ## Adding a member -/

namespace Adding

/-- The session that a worker lets go in its next step, because the crew was stopped while the
session was being configured. -/
def abandoned (p : Pool) (a : Adding) : Multiset Session :=
  match a.phase with
  | .opening o => if p.crew.stopped then (o.session?.toList : Multiset Session) else 0
  | .joining _ _ | .failing _ | .resting _ | .releasing _ => 0

theorem tended_fail (a : Adding) (e : SessionError) :
    Stepped.IsTended C env p 0 charge (fun _ => 0) (a.fail env p e) := by
  have counted : Pool.Handled p 0 p.countFailedOpening 0 := .count _
  unfold fail
  dsimp only
  split
  · exact .handled counted rfl
  · split
    · exact .handled counted rfl
    · exact .handled counted rfl

theorem tended {a : Adding} {s : Stepped Adding Unit} (h : a.step env p = some s) :
    Tended C env p a.charge s.1 s.2.1
      (s.2.2.charge charge (fun _ => 0) + .ofWorn (a.abandoned p)) := by
  obtain ⟨waiter, attempt, delay, phase⟩ := a
  cases phase with
  | opening o =>
    simp only [step] at h
    split at h
    · rename_i hs
      cases h
      have ha : abandoned p ⟨waiter, attempt, delay, .opening o⟩ = o.session?.toList := if_pos hs
      have hc : charge ⟨waiter, attempt, delay, .opening o⟩ = 0 + o.charge := (zero_add _).symm
      rw [ha, hc]
      exact .refl
    · rename_i hs
      obtain ⟨⟨env', q, next⟩, ho, rfl⟩ := Option.map_eq_some_iff.1 h
      have ha : abandoned p ⟨waiter, attempt, delay, .opening o⟩ = 0 := if_neg hs
      have ht : Tended C env p o.charge env' q _ := Opening.tended ho
      rw [ha, Charge.ofWorn_zero, add_zero]
      rcases next with o | (e | ⟨m, elapsed⟩) <;> exact ht
  | joining m elapsed =>
    cases h
    exact .handled (.join elapsed env.now) rfl
  | failing e =>
    cases h
    have ht : Stepped.IsTended C env p 0 charge (fun _ => 0) _ :=
      tended_fail ⟨waiter, attempt, delay, .failing e⟩ e
    rw [show abandoned p ⟨waiter, attempt, delay, .failing e⟩ = 0 from rfl, Charge.ofWorn_zero,
      add_zero]
    exact ht
  | resting timer =>
    simp only [step] at h
    split at h
    · cases h
      exact .refl
    · obtain ⟨-, rfl⟩ := by simpa using h
      exact .refl
  | releasing e =>
    cases h
    exact .handled (.releaseRoom waiter e) rfl

end Adding

/-! ## Taking a member back -/

namespace Returning

theorem tended_afterReset (m : Member) (x : Env × Session × Progress) :
    Stepped.IsTended C x.1 p (.ofWorn {x.2.1}) charge (fun _ => 0) (afterReset p m x) := by
  obtain ⟨env', s, progress⟩ := x
  cases progress with
  | paused pause => exact .refl
  | finished result =>
    cases result with
    | error e => exact .of_server rfl
    | ok _ =>
      unfold afterReset
      dsimp only
      split
      · rename_i hs
        exact .passes fun _ => .inl hs
      · exact .of_server rfl

theorem tended_runReset (m : Member) :
    Stepped.IsTended C env p (.ofWorn {m.session}) charge (fun _ => 0) (runReset env p m) := by
  have called : Pool.Handled p (.ofWorn {m.session}) p.resetCall.1 (.ofWorn {m.session}) :=
    .aside rfl rfl rfl rfl rfl
  have run := Script.turns_run env m.session p.resetCall.2
  exact ((Tended.handled called rfl).trans (.changes run)).trans (tended_afterReset m _)

theorem tended_rollBack (m : Member) :
    Stepped.IsTended C env p (.ofWorn {m.session}) charge (fun _ => 0) (rollBack env p m) := by
  have hb := Session.turns_rollback env.server m.session
  have rolled {s : Session} {env' : Env} (h : m.session.Turns env.server env'.server s) :
      Tended C env p (.ofWorn {m.session}) env' p (.ofWorn {s}) := .changes h
  unfold rollBack
  dsimp only
  split
  · rename_i s server hr
    simp only [Pool.noteOn] at hr
    rw [hr] at hb
    exact (rolled hb).trans (tended_runReset { m with session := s })
  · rename_i s server e hr
    simp only [Pool.noteOn] at hr
    rw [hr] at hb
    split <;> exact rolled hb

/-- A member that is not idle after its reset is not fit. -/
theorem tended_reset (m : Member) :
    Stepped.IsTended C env p (.ofWorn {m.session}) charge (fun _ => 0) (reset env p m) := by
  unfold reset
  split
  · exact .of_server rfl
  · split
    · exact .of_server rfl
    · split
      · exact tended_runReset m
      · exact tended_rollBack m
      · exact tended_rollBack m
      · exact .of_server rfl
      · exact .of_server rfl

theorem tended {r : Returning} {s : Stepped Returning Unit} (h : r.step env p = some s) :
    Stepped.IsTended C env p r.charge charge (fun _ => 0) s := by
  cases r with
  | arriving m =>
    obtain ⟨hr, hm⟩ := Pool.Handled.receive (p := p) (a := .ofWorn {m.session}) (m := m) env.server
      env.now
    simp only [step] at h
    split at h <;> rename_i q m' hp <;> cases h <;> rw [hp] at hr hm
    all_goals
      show Tended C env p (.ofWorn {m.session}) env q (.ofWorn {m'.session})
      rw [show m'.session = m.session from hm]
      exact .handled hr rfl
  | closing m =>
    cases h
    exact .closes rfl
  | resetting m =>
    cases h
    exact tended_reset m
  | paused m pause =>
    simp only [step, Option.ite_none_right_eq_some, Option.some.injEq] at h
    obtain ⟨-, rfl⟩ := h
    have woken := Script.turns_resume env m.session pause
    exact (Tended.changes woken).trans (tended_afterReset m _)
  | settling m f =>
    cases h
    unfold settle
    dsimp only
    split <;> exact .handled (.settle env.now _) rfl

end Returning

/-! ## Acquiring a session -/

namespace Acquiring

variable {a : Charge}

/-- The session that a request lets go in its next step, because its time is up while the session
is being configured. -/
def abandoned (env : Env) (p : Pool) : Acquiring → Multiset Session
  | dialing o _ _ => if (o.step env p).isNone then (o.session?.toList : Multiset Session) else 0
  | arriving _ | queued _ _ _ | givingUp _ _ | calling _ _ | takingOver _ _ | countingFailure _
  | vacating _ | failing _ => 0

theorem tended_refuse (h : p.Handled a q 0) (hs : env'.server = env.server) (e : PoolError) :
    Tended C env p a (refuse env' q e).1 (refuse env' q e).2.1
      ((refuse env' q e).2.2.charge charge .won) := by
  unfold refuse
  split
  · exact .handled h hs
  · exact .handled h hs

/-- A request takes along the session that it has won. -/
theorem tended_conclude {x : Pool × Acquired} (h : p.Handled a x.1 (.won x.2))
    (hs : env'.server = env.server) :
    Tended C env p a (conclude env' x).1 (conclude env' x).2.1
      ((conclude env' x).2.2.charge charge .won) := by
  obtain ⟨q, e | m⟩ := x
  · exact tended_refuse h hs e
  · exact .handled h hs

theorem tended_arrive (timeout : Duration) :
    Stepped.IsTended C env p 0 charge .won (arrive env p timeout) := by
  have hc := Pool.Handled.checkout (p := p) env.now timeout
  have hn : (p.noteExpired env (p.spoiledByCheckout env.now)).now = env.now := by simp
  have hs : (p.noteExpired env (p.spoiledByCheckout env.now)).server = env.server := by simp
  unfold arrive
  dsimp only
  split <;> rename_i hm <;> rw [hn] at hm <;> rw [hm] at hc
  · exact .handled hc hs
  · exact .handled hc hs
  · exact .handled hc hs
  · exact tended_refuse hc hs _

theorem tended_afterOpening {resume : Opening → Env → Env × Acquiring}
    (hr : ∀ o env, (resume o env).1.server = env.server ∧ (resume o env).2.charge = o.charge)
    {x : Stepped Opening Opened}
    (h : Stepped.IsTended C env p a Opening.charge Opening.accepted x) :
    Stepped.IsTended C env p a charge .won (afterOpening resume x) := by
  obtain ⟨env', q, next⟩ := x
  rcases next with o | (e | ⟨m, elapsed⟩)
  · obtain ⟨hs, hc⟩ := hr o env'
    have ht : Tended C env p a env' q o.charge := h
    rw [← hc] at ht
    exact ht.noted hs
  · exact h
  · exact h

theorem tended {a : Acquiring} {s : Stepped Acquiring Acquired} (hq : p.waiting.Sound)
    (h : a.step env p = some s) :
    Tended C env p a.charge s.1 s.2.1
      (s.2.2.charge charge .won + .ofWorn (a.abandoned env p)) := by
  -- only a request that opens a session may let one go
  have whole {a : Acquiring} (ha : a.abandoned env p = 0)
      (ht : Stepped.IsTended C env p a.charge charge .won s) :
      Tended C env p a.charge s.1 s.2.1
        (s.2.2.charge charge .won + .ofWorn (a.abandoned env p)) := by
    rw [ha, Charge.ofWorn_zero, add_zero]
    exact ht
  cases a with
  | arriving timeout =>
    cases h
    exact whole rfl (tended_arrive timeout)
  | queued ticket cutoff timeout =>
    refine whole rfl ?_
    simp only [step] at h
    split at h
    · rename_i result hr
      cases h
      exact tended_conclude (.collect hq hr) rfl
    · rename_i hr
      split at h
      · cases h
        exact tended_refuse (.collect_of_none hq hr) rfl _
      · simp only [Option.ite_none_right_eq_some, Option.some.injEq] at h
        obtain ⟨-, rfl⟩ := h
        exact .refl
  | givingUp ticket timeout =>
    cases h
    exact whole rfl (tended_conclude (.giveUp hq ticket timeout) rfl)
  | calling deadline timeout =>
    refine whole rfl ?_
    simp only [step] at h
    obtain ⟨x, ho, rfl⟩ := Option.map_eq_some_iff.1 h
    exact tended_afterOpening (fun o env => ⟨rfl, rfl⟩) (Opening.tended ho)
  | dialing o cutoff timeout =>
    simp only [step] at h
    split at h
    · rename_i x ho
      cases h
      refine whole (by simp [abandoned, ho]) ?_
      exact tended_afterOpening (fun o env => ⟨rfl, rfl⟩) (Opening.tended ho)
    · rename_i ho
      simp only [Option.ite_none_right_eq_some, Option.some.injEq] at h
      obtain ⟨-, rfl⟩ := h
      have ha : (dialing o cutoff timeout).abandoned env p = o.session?.toList := by
        simp [abandoned, ho]
      rw [ha, show (dialing o cutoff timeout).charge = 0 + o.charge from (zero_add _).symm]
      exact .refl
  | takingOver m elapsed =>
    cases h
    exact whole rfl (tended_conclude (.takeOver elapsed) rfl)
  | countingFailure e =>
    cases h
    exact .handled (q := p.countFailedOpening) (.count _) rfl
  | vacating e =>
    cases h
    exact .handled .vacateRoom rfl
  | failing e =>
    cases h
    exact .handled (q := p.countFailure) (.count _) rfl

end Acquiring

/-! ## Probing the unused members -/

/-- `Succeeds x env s`: a script that has come to `x` succeeds in the end, with the session `s` in
the surroundings `env`. While it is paused, time passes and the server goes on. -/
inductive Script.Succeeds : Env × Session × Progress → Env → Session → Prop
  | finished {env : Env} {s : Session} : Succeeds (env, s, .finished (.ok ())) env s
  | resumed {env env₁ env₂ : Env} {s s' : Session} {pause : Pause}
      (hg : env.server.Grows env₁.server) (h : Succeeds (Script.resume env₁ s pause) env₂ s') :
      Succeeds (env, s, .paused pause) env₂ s'

/-- A pause may last longer. -/
theorem Script.Succeeds.later {env env' : Env} {s s' : Session} {pause : Pause}
    (h : Succeeds (env', s, .paused pause) env s') {env₀ : Env}
    (hg : env₀.server.Grows env'.server) : Succeeds (env₀, s, .paused pause) env s' := by
  cases h with
  | resumed hg' h => exact .resumed (hg.trans hg') h

/-- A probe that succeeds on a session that is ready for a request leaves it so. -/
def Hooks.TidyProbe (h : Hooks) : Prop :=
  ∀ (call : Nat) (env : Env) (s : Session), s.IsReady env.server →
    ∀ (env' : Env) (s' : Session), Script.Succeeds (Script.run env s (h.probe call)) env' s' →
      s'.IsReady env'.server

namespace Checking

/-- Whatever the probe still does, the session is ready for a request if it succeeds. -/
def Sure (env : Env) : Checking → Prop
  | probing _ m => m.session.IsReady env.server
  | paused _ m pause => ∀ (env' : Env) (s' : Session),
    Script.Succeeds (env, m.session, .paused pause) env' s' → s'.IsReady env'.server
  | starting | counting | picking _ | judging _ _ _ => True

theorem tended_afterProbe (left : Nat) (m : Member) (x : Env × Session × Progress)
    (h : C → ∀ env' s', Script.Succeeds x env' s' → s'.IsReady env'.server) :
    Stepped.IsTended C x.1 p (.ofWorn {x.2.1}) charge (fun _ => 0) (afterProbe p left m x) := by
  obtain ⟨env', s, progress⟩ := x
  rcases progress with (e | ⟨⟨⟩⟩) | pause
  · exact .refl
  · exact .passes fun hc => h hc env' s .finished
  · exact .refl

theorem tended {c : Checking} {s : Stepped Checking (Except PoolError Unit)}
    (h : c.step env p = some s) :
    Stepped.IsTended (p.hooks.TidyProbe ∧ c.Sure env) env p c.charge charge (fun _ => 0) s := by
  cases c with
  | starting =>
    simp only [step] at h
    split at h
    · cases h
      exact .refl
    · split at h
      · cases h
        exact .refl
      · cases h
        exact .refl
  | counting =>
    cases h
    exact .refl
  | picking left =>
    cases left with
    | zero =>
      cases h
      exact .refl
    | succ left =>
      have hp := Pool.Handled.pickProbe (p := p)
      simp only [step] at h
      split at h <;> rename_i hm <;> cases h <;> rw [hm] at hp
      · exact .handled (hp.trans .wear) rfl
      · exact .handled hp rfl
  | probing left m =>
    cases h
    have called : Pool.Handled p (.ofWorn {m.session}) p.probeCall.1 (.ofWorn {m.session}) :=
      .aside rfl rfl rfl rfl rfl
    have run := Script.turns_run env m.session p.probeCall.2
    refine ((Tended.handled called rfl).trans (.changes run)).trans (tended_afterProbe left m _ ?_)
    exact fun ⟨tidy, ready⟩ => tidy _ env m.session ready
  | paused left m pause =>
    simp only [step, Option.ite_none_right_eq_some, Option.some.injEq] at h
    obtain ⟨-, rfl⟩ := h
    have woken := Script.turns_resume env m.session pause
    refine (Tended.changes woken).trans (tended_afterProbe left m _ ?_)
    exact fun ⟨_, sure⟩ env' s' hs => sure env' s' (.resumed (.refl _) hs)
  | judging left m health =>
    cases h
    unfold judge
    dsimp only
    split <;> exact .handled (.judge left health env.now) rfl

end Checking

/-! ## Closing the pool -/

namespace Closing

/-- Whether the pool has been closed in the books. -/
def begun : Closing → Bool
  | starting => false
  | stopping _ | joining _ _ | draining _ _ | emptying _ => true

theorem tended_start : Stepped.IsTended C env p 0 charge (fun _ => 0) (start env p) := by
  unfold start
  split
  · exact .refl
  · refine Tended.trans .shut (.handled .shut ?_)
    dsimp only
    split <;> rfl

/-- The session that a task is about is closed with the task. -/
theorem tended_drain (disposed : Nat) (idle : List Member) :
    Stepped.IsTended C env p (.ofWorn (sessionsOf idle)) charge (fun _ => 0)
      (drain env p disposed idle) := by
  unfold drain
  split
  · rename_i t crew hc
    obtain ⟨ht, hs⟩ := Crew.collect_some hc
    have taken : Tended C env p 0 env { p with crew } _ := .handled (.takeTask ht hs) rfl
    have disposed {env₁ : Env} (closed : Tended C env p 0 env₁ { p with crew } 0) :
        Tended C env p (.ofWorn (sessionsOf idle)) env₁ (Pool.dispose { p with crew } t)
          (.ofWorn (sessionsOf idle)) := by
      have done := (closed.trans (.handled (.dispose t) rfl)).frame (.ofWorn (sessionsOf idle))
      rwa [zero_add] at done
    dsimp only
    cases hi : t.item? with
    | none =>
      rw [hi] at taken
      exact disposed taken
    | some m =>
      rw [hi] at taken
      exact disposed (taken.trans (.closes rfl))
  · refine .of_server ?_
    dsimp only
    split <;> rfl

theorem tended {c : Closing} {s : Stepped Closing Unit} (hb : c.begun = true → p.closed = true)
    (h : c.step env p = some s) : Stepped.IsTended C env p c.charge charge (fun _ => 0) s := by
  cases c with
  | starting =>
    cases h
    exact tended_start
  | stopping idle =>
    cases h
    refine Tended.trans (.stop (hb rfl)) (.handled ?_ rfl)
    exact .aside rfl rfl rfl rfl rfl
  | joining hands idle =>
    cases hands with
    | nil =>
      cases h
      exact .refl
    | cons hand hands =>
      simp only [step, Option.ite_none_right_eq_some, Option.some.injEq] at h
      obtain ⟨-, rfl⟩ := h
      exact .refl
  | draining disposed idle =>
    cases h
    exact tended_drain disposed idle
  | emptying idle =>
    cases idle with
    | nil =>
      cases h
      exact .of_server rfl
    | cons m idle =>
      cases h
      rw [charge, Closing.idle, sessionsOf_cons, Charge.ofWorn_add]
      exact .closed rfl

end Closing

/-! ## Jobs and operations -/

/-- A step of a process as a step of a larger one. -/
theorem Tended.map {π π' ρ ρ' : Type} {a : Charge} {f : π → Charge} {g : ρ → Charge}
    {f' : π' → Charge} {g' : ρ' → Charge} {F : π → π'} {G : ρ → ρ'} {next : Next π ρ}
    {lost : Multiset Session} (h : Tended C env p a env' q (next.charge f g + .ofWorn lost))
    (hf : ∀ x, f' (F x) = f x) (hg : ∀ r, g' (G r) = g r) :
    Tended C env p a env' q ((next.map F G).charge f' g' + .ofWorn lost) := by
  have : (next.map F G).charge f' g' = next.charge f g := by
    cases next with
    | more x => exact hf x
    | done r => exact hg r
  rwa [this]

/-- A step in which no session is let go. -/
theorem Tended.whole {a b : Charge} (h : Tended C env p a env' q b) :
    Tended C env p a env' q (b + .ofWorn 0) := by
  rwa [Charge.ofWorn_zero, add_zero]

/-- Who waits until the pool is filled does nothing to it. -/
theorem Waiting.tended {w : Waiting} {s : Stepped Waiting (Except PoolError Unit)}
    (h : w.step env p = some s) :
    Stepped.IsTended C env p 0 (fun _ => 0) (fun _ => 0) s := by
  cases w with
  | starting timeout =>
    simp only [step] at h
    split at h
    · cases h
      exact .refl
    · cases h
      exact .of_server rfl
  | waiting cutoff timeout =>
    simp only [step] at h
    split at h
    · cases h
      exact .refl
    · split at h
      · cases h
        exact .refl
      · simp only [Option.ite_none_right_eq_some, Option.some.injEq] at h
        obtain ⟨-, rfl⟩ := h
        exact .refl

namespace Job

/-- The session that a worker lets go in its next step. -/
def abandoned (p : Pool) : Job → Multiset Session
  | adding a => a.abandoned p
  | returning _ | closing _ | maintaining => 0

theorem charge_start (t : Task Member) :
    (start p t).charge = .ofWorn (sessionsOf t.item?.toList) := by
  cases t <;> rfl

theorem tended {j : Job} {s : Stepped Job Unit} (h : j.step env p = some s) :
    Tended C env p j.charge s.1 s.2.1
      (s.2.2.charge charge (fun _ => 0) + .ofWorn (j.abandoned p)) := by
  cases j with
  | adding a =>
    obtain ⟨⟨env', q, next⟩, ha, rfl⟩ := Option.map_eq_some_iff.1 h
    exact (Adding.tended ha).map (fun _ => rfl) fun _ => rfl
  | returning r =>
    obtain ⟨⟨env', q, next⟩, hr, rfl⟩ := Option.map_eq_some_iff.1 h
    exact (Returning.tended hr).whole.map (fun _ => rfl) fun _ => rfl
  | closing m =>
    cases h
    exact .closes rfl
  | maintaining =>
    cases h
    exact .handled (.maintain env.now) rfl

end Job

namespace Operation

/-- The session that an operation lets go in its next step. -/
def abandoned (env : Env) (p : Pool) : Operation → Multiset Session
  | acquire a => a.abandoned env p
  | release _ | misplace _ | wait _ | check _ | close _ => 0

/-- The sessions that are let go when an operation is given up: one that was being configured for
a request, and those that were still to be closed with the pool. -/
def dropped : Operation → Multiset Session
  | acquire (.dialing o _ _) => (o.session?.toList : Multiset Session)
  | close c => sessionsOf c.idle
  | acquire _ | release _ | misplace _ | wait _ | check _ => 0

/-- Whatever a probe still does, the session is ready for a request if it succeeds. -/
def Sure (env : Env) : Operation → Prop
  | check c => c.Sure env
  | acquire _ | release _ | misplace _ | wait _ | close _ => True

/-- Whether the operation has closed the pool in the books. -/
def hasShut : Operation → Bool
  | close c => c.begun
  | acquire _ | release _ | misplace _ | wait _ | check _ => false

/-- **What an operation does with sessions.** -/
theorem tended {o : Operation} {s : Stepped Operation Outcome} (hq : p.waiting.Sound)
    (hb : o.hasShut = true → p.closed = true) (h : o.step env p = some s) :
    Tended (p.hooks.TidyProbe ∧ o.Sure env) env p o.charge s.1 s.2.1
      (s.2.2.charge charge Outcome.charge + .ofWorn (o.abandoned env p)) := by
  have done (x : Except PoolError Unit) : (Outcome.ofResult x).charge = 0 := by cases x <;> rfl
  have won (x : Acquired) : (Outcome.ofAcquired x).charge = .won x := by cases x <;> rfl
  cases o with
  | acquire a =>
    obtain ⟨⟨env', q, next⟩, ha, rfl⟩ := Option.map_eq_some_iff.1 h
    exact (Acquiring.tended hq ha).map (fun _ => rfl) won
  | release r =>
    obtain ⟨⟨env', q, next⟩, hr, rfl⟩ := Option.map_eq_some_iff.1 h
    exact (Returning.tended hr).whole.map (fun _ => rfl) fun _ => rfl
  | misplace m =>
    cases h
    exact Tended.whole (.handled .returnLater rfl)
  | wait w =>
    obtain ⟨⟨env', q, next⟩, hw, rfl⟩ := Option.map_eq_some_iff.1 h
    exact (Waiting.tended hw).whole.map (fun _ => rfl) done
  | check c =>
    obtain ⟨⟨env', q, next⟩, hc, rfl⟩ := Option.map_eq_some_iff.1 h
    exact (Checking.tended hc).whole.map (fun _ => rfl) done
  | close c =>
    obtain ⟨⟨env', q, next⟩, hc, rfl⟩ := Option.map_eq_some_iff.1 h
    exact (Closing.tended hb hc).whole.map (fun _ => rfl) fun _ => rfl

/-- An operation is given up while it is suspended. -/
theorem tended_cancel {o : Operation} (hq : p.waiting.Sound) (h : o.isSuspended = true) :
    Tended C env p o.charge (o.cancel env p).1 (o.cancel env p).2 (.ofWorn o.dropped) := by
  cases o with
  | acquire a =>
    cases a with
    | queued ticket cutoff timeout =>
      have hs : ((Acquiring.queued ticket cutoff timeout).cancel env p).1.server = env.server := by
        unfold Acquiring.cancel
        dsimp only
        split <;> rfl
      exact .handled (.abandon hq ticket _) hs
    | dialing o cutoff timeout => exact .handled .vacateRoom rfl
    | arriving timeout => exact .refl
    | givingUp _ _ | calling _ _ | takingOver _ _ | countingFailure _ | vacating _ | failing _ =>
      cases h
  | release r =>
    cases r with
    | arriving m => exact .handled .returnLater rfl
    | paused m pause => exact .handled .breakOff rfl
    | closing _ | resetting _ | settling _ _ => cases h
  | misplace m => exact .handled .returnLater rfl
  | wait w => exact .refl
  | check c =>
    cases c with
    | starting => exact .refl
    | paused left m pause => exact .handled .breakOff rfl
    | counting | picking _ | probing _ _ | judging _ _ _ => cases h
  | close c => exact .refl

end Operation

end SessionPool
