import SessionPool.Process.Operation
import SessionPool.Proofs.Alone

/-!
# What is found out about a member that comes back

A member that comes back is looked at: whether its session was lost or closed, what its status is,
whether an open transaction can be rolled back, and what the hook does to it. `Findings` hold the
answers, and `Findings.Of` says that they are true of a session. Nothing is asked in vain: the
transaction is rolled back only if there is one, and the hook runs only on a session that is ready
for it.

How a session rolls its transaction back is left open here (`Rollback`), so that it may fail in any
way; `Operation.stepWith_rollback` puts in what the sessions of this library do.

`Returning.finds`: a return that has its pool to itself is settled by what is found out.
-/

set_option autoImplicit false

namespace SessionPool

/-- A way to roll back the transaction of a session. -/
abbrev Rollback := Session → Server → Session × Server × Except SessionError Unit

/-! ## Returns with any way to roll back -/

namespace Returning

variable (rollback : Rollback)

/-- Goes on after the transaction was rolled back, or could not be. -/
def afterRollback (env : Env) (p : Pool) (m : Member) :
    Session × Server × Except SessionError Unit → Stepped Returning Unit
  | (s, server, .ok ()) => runReset { env with server } p { m with session := s }
  | (s, server, .error e) =>
    found (p.noteOn { env with server } m .warn
      ("rollback failed: " ++ e.family ++ ": " ++ e.message ++ ". Discarding connection")
      [("error", e.message)])
      p { m with session := s } (if e.losesSession then .lost else .unfit)

theorem rollBack_eq (env : Env) (p : Pool) (m : Member) :
    rollBack env p m = afterRollback
      (p.noteOn env m .warn
        ("rolling back returned connection: " ++ (m.session.reported env.server).name)
        [("status", (m.session.reported env.server).name)])
      p m (m.session.rollback env.server) := by
  cases h : m.session.rollback env.server with
  | mk s rest =>
    obtain ⟨server, e | ⟨⟩⟩ := rest <;> simp only [rollBack, afterRollback, Pool.noteOn, h]

def resetWith (env : Env) (p : Pool) (m : Member) : Stepped Returning Unit :=
  if (m.session.reported env.server).hasTransaction then
    afterRollback
      (p.noteOn env m .warn
        ("rolling back returned connection: " ++ (m.session.reported env.server).name)
        [("status", (m.session.reported env.server).name)])
      p m (rollback m.session env.server)
  else reset env p m

/-- The step of a return in which sessions roll back in a given way. -/
def stepWith (env : Env) (p : Pool) : Returning → Option (Stepped Returning Unit)
  | resetting m => some (resetWith rollback env p m)
  | r => r.step env p

end Returning

theorem Status.hasTransaction_iff {s : Status} :
    s.hasTransaction = true ↔ s = .inTransaction ∨ s = .inError := by
  cases s <;> simp [hasTransaction]

/-- A session that reports more than that it is gone was neither lost nor closed. -/
theorem Session.alive_of_reported {s : Session} {server : Server}
    (h : s.reported server ≠ .unknown) : s.isBroken server = false ∧ s.closed = false := by
  unfold reported at h
  split at h
  · exact absurd rfl h
  · rename_i hs
    have : s.closed = false ∧ server.broken.contains s.pid = false := by simpa using hs
    rw [isBroken, this.1, this.2]
    exact ⟨rfl, rfl⟩

namespace Returning

variable {env : Env} {p : Pool} {m : Member}

theorem reset_idle (h : m.session.reported env.server = .idle) :
    reset env p m = runReset env p m := by
  obtain ⟨hb, hc⟩ : m.session.isBroken env.server = false ∧ m.session.closed = false :=
    Session.alive_of_reported (by simp [h])
  unfold reset
  split <;> simp_all

theorem reset_open (h : (m.session.reported env.server).hasTransaction = true) :
    reset env p m = rollBack env p m := by
  obtain ⟨hb, hc⟩ : m.session.isBroken env.server = false ∧ m.session.closed = false :=
    Session.alive_of_reported (by rintro hs; rw [hs] at h; cases h)
  unfold reset
  rw [if_neg (by simp [hb]), if_neg (by simp [hc])]
  split <;> rename_i hs <;> rw [hs] at h <;> first | rfl | cases h

/-- A session that is neither idle nor in a transaction is given up. -/
theorem reset_unusable (hi : m.session.reported env.server ≠ .idle)
    (ht : (m.session.reported env.server).hasTransaction = false) :
    ∃ message fields f, f ≠ .fit ∧
      reset env p m = found (p.noteOn env m .warn message fields) p m f := by
  unfold reset
  split
  · exact ⟨_, _, .lost, by simp, rfl⟩
  · split
    · exact ⟨_, _, .unfit, by simp, rfl⟩
    · split <;> rename_i hs
      · exact absurd hs hi
      · simp [hs, Status.hasTransaction] at ht
      · simp [hs, Status.hasTransaction] at ht
      · exact ⟨_, _, .unfit, by simp, rfl⟩
      · exact ⟨_, _, .unfit, by simp, rfl⟩

theorem stepWith_rollback (env : Env) (p : Pool) (r : Returning) :
    r.stepWith Session.rollback env p = r.step env p := by
  cases r with
  | resetting m =>
    refine congrArg some ?_
    unfold resetWith
    split
    · rename_i h
      exact ((reset_open h).trans (rollBack_eq env p m)).symm
    · rfl
  | arriving | closing | paused | settling => rfl

end Returning

namespace Operation

/-- The step of an operation in which sessions that come back roll back in a given way. -/
def stepWith (rollback : Rollback) (env : Env) (p : Pool) :
    Operation → Option (Stepped Operation Outcome)
  | release r =>
    (r.stepWith rollback env p).map fun (env, p, next) =>
      (env, p, next.map release fun _ => .done)
  | o => o.step env p

theorem stepWith_rollback : stepWith Session.rollback = step := by
  funext env p o
  cases o with
  | release r =>
    simp only [stepWith, step, Returning.stepWith_rollback]
  | acquire | misplace | wait | check | close => rfl

end Operation

/-! ## Coming to an end -/

namespace Pool

variable {p q : Pool} {m m' : Member}

/-- A pool with other counts. -/
def recount (p : Pool) (c : Counters) (h : HookCalls) : Pool :=
  { p with counters := c, hookCalls := h }

theorem recount_recount (p : Pool) (c c' : Counters) (h h' : HookCalls) :
    (p.recount c h).recount c' h' = p.recount c' h' := rfl

theorem countUse_eq (p : Pool) (m : Member) (now : Instant) :
    ∃ c, c.returnsBad = p.counters.returnsBad ∧ p.countUse m now = p.recount c p.hookCalls := by
  unfold countUse
  split
  · refine ⟨_, ?_, rfl⟩
    rfl
  · exact ⟨p.counters, rfl, rfl⟩

/-- A member that is to be reset is the one that came back, and the pool has only counted. -/
theorem receive_true {server : Server} {now : Instant}
    (h : p.receive server m now = (q, m', true)) :
    ∃ c, c.returnsBad = p.counters.returnsBad ∧ q = p.recount c p.hookCalls ∧
      m' = { m with notes := { m.notes with takenAt := none, stage := .resetting } } := by
  obtain ⟨c, hc, hu⟩ := p.countUse_eq m now
  unfold receive at h
  rw [hu] at h
  dsimp only at h
  split at h
  · cases h
  · split at h
    · cases h
    · cases h
      exact ⟨c, hc, rfl, rfl⟩

/-- A pool that is open and keeps its sessions takes every member back. -/
theorem receive_of_open (hc : p.closed = false) (hn : p.isNull = false) (server : Server)
    (m : Member) (now : Instant) : (p.receive server m now).2.2 = true := by
  obtain ⟨c, -, hu⟩ := p.countUse_eq m now
  have hc : (p.recount c p.hookCalls).closed = false := hc
  have hn : (p.recount c p.hookCalls).isNull = false := hn
  simp [receive, hu, hc, hn]

end Pool

namespace Returning

open Alone (leftAfter)

variable {rollback : Rollback} {env : Env} {p : Pool} {m : Member}

/-- How many steps a return has left at most. -/
def left (p : Pool) : Returning → Nat
  | arriving _ => (p.hooks.reset p.hookCalls.reset).length + 3
  | resetting _ => (p.hooks.reset p.hookCalls.reset).length + 2
  | paused _ pause => pause.rest.length + 2
  | closing _ | settling _ _ => 1

theorem left_afterReset {x : Env × Session × Progress} {n : Nat}
    (h : ∀ env s pause, x = (env, s, .paused pause) → pause.rest.length < n) :
    leftAfter left (afterReset p m x).2.1 (afterReset p m x).2.2 < n + 2 := by
  obtain ⟨env, s, progress⟩ := x
  cases progress with
  | paused pause =>
    have := h env s pause rfl
    simp only [afterReset, leftAfter, left]
    omega
  | finished result =>
    cases result with
    | error e => simp [afterReset, found, leftAfter, left]
    | ok =>
      simp only [afterReset]
      split <;> simp [found, leftAfter, left]

theorem left_runReset (env : Env) :
    leftAfter left (runReset env p m).2.1 (runReset env p m).2.2 < left p (.resetting m) :=
  left_afterReset fun _ _ _ h => Script.length_rest_run h

theorem left_afterRollback (x : Session × Server × Except SessionError Unit) :
    leftAfter left (afterRollback env p m x).2.1 (afterRollback env p m x).2.2 <
      left p (.resetting m) := by
  obtain ⟨s, server, e | ⟨⟩⟩ := x
  · simp [afterRollback, found, leftAfter, left]
  · exact left_runReset _

theorem left_reset : leftAfter left (reset env p m).2.1 (reset env p m).2.2 <
    left p (.resetting m) := by
  cases ht : (m.session.reported env.server).hasTransaction with
  | true =>
    rw [reset_open ht, rollBack_eq]
    exact left_afterRollback _
  | false =>
    by_cases hi : m.session.reported env.server = .idle
    · rw [reset_idle hi]
      exact left_runReset env
    · obtain ⟨message, fields, f, -, h⟩ := reset_unusable (p := p) hi ht
      simp [h, found, leftAfter, left]

theorem shrinks (rollback : Rollback) : Alone.Shrinks (stepWith rollback) left := by
  intro env p r x h
  cases r with
  | arriving m =>
    simp only [stepWith, step] at h
    split at h <;> obtain rfl := Option.some.inj h
    · rename_i hr
      obtain ⟨c, -, rfl, -⟩ := Pool.receive_true hr
      exact Nat.lt_succ_self _
    · simp [leftAfter, left]
  | closing m =>
    cases h
    exact Nat.one_pos
  | settling m f =>
    cases h
    exact Nat.one_pos
  | paused m pause =>
    simp only [stepWith, step, Option.ite_none_right_eq_some, Option.some.injEq] at h
    obtain ⟨-, rfl⟩ := h
    exact left_afterReset fun _ _ _ h => Script.length_rest_resume h
  | resetting m =>
    obtain rfl := Option.some.inj h
    unfold resetWith
    split
    · exact left_afterRollback _
    · exact left_reset

/-- A return waits for nothing but the end of a pause. -/
theorem goesOn (rollback : Rollback) (env : Env) (p : Pool) (r : Returning) :
    ∃ moment x, env.Later moment ∧ stepWith rollback moment p r = some x := by
  have now : env.Later env := ⟨Nat.le_refl _, rfl⟩
  cases r with
  | arriving m =>
    refine ⟨env, ?_⟩
    simp only [stepWith, step]
    split <;> exact ⟨_, now, rfl⟩
  | closing | resetting | settling => exact ⟨env, _, now, rfl⟩
  | paused m pause =>
    let moment : Env := { env with now := ⟨max env.now.nanos pause.timer.due.nanos⟩ }
    have due : pause.timer.isDue moment.now = true := decide_eq_true (Nat.le_max_right _ _)
    exact ⟨moment, _, ⟨Nat.le_max_left _ _, rfl⟩, if_pos due⟩

end Returning

/-! ## What is found out -/

/-- What is found out about a session that comes back. -/
structure Findings where
  /-- Whether the session was lost. -/
  broken : Bool
  closed : Bool
  status : Status
  /-- What rolling back came to, if that was tried. -/
  rollback : Option (Except SessionError Unit)
  /-- What the hook came to, and the status in which it left the session, if it was run. -/
  hook : Option (Except SessionError Unit × Status)

namespace Findings

/-- A transaction was left open in a session that is still there. -/
def HasTransaction (f : Findings) : Prop :=
  f.broken = false ∧ f.closed = false ∧ (f.status = .inTransaction ∨ f.status = .inError)

/-- The session is still there and in no transaction, or in none any more. -/
def IsReady (f : Findings) : Prop :=
  f.broken = false ∧ f.closed = false ∧ (f.status = .idle ∨
    (f.status = .inTransaction ∨ f.status = .inError) ∧ f.rollback = some (.ok ()))

/-- The session may be used again. -/
def Passed (f : Findings) : Prop := f.IsReady ∧ f.hook = some (.ok (), .idle)

/-- Nothing had to be done about the session. -/
def IsClean (f : Findings) : Prop := f.Passed ∧ f.status = .idle

/-- The session on which the hook is run, and the server at that time. -/
def restored (f : Findings) (rollback : Rollback) (s : Session) (server : Server) :
    Session × Server :=
  if f.rollback.isSome then ((rollback s server).1, (rollback s server).2.1) else (s, server)

/-- The findings about a session that is looked at in `env`, with a hook that goes on at the given
moments. -/
structure Of (f : Findings) (rollback : Rollback) (script : List Action) (pauses : List Env)
    (env : Env) (s : Session) : Prop where
  broken : f.broken = s.isBroken env.server
  closed : f.closed = s.closed
  status : f.status = s.reported env.server
  rolledBack : ∀ result, f.rollback = some result ↔
    f.HasTransaction ∧ (rollback s env.server).2.2 = result
  hook : ∀ result status, f.hook = some (result, status) → ∃ log env' s',
    Script.Ends pauses (Script.run { env with server := (f.restored rollback s env.server).2, log }
      (f.restored rollback s env.server).1 script) env' s' result ∧
    s'.reported env'.server = status
  unhooked : f.hook = none → pauses = []

end Findings

namespace Returning

variable {rollback : Rollback} {moments : List Env} {env env' settled : Env} {log : Log}
  {p q : Pool} {m : Member}

/-- A return ends by the entry of what was found out, fit or not, with or without a warning. What
a fit member is rejected for is noted without one. -/
def Settles (fit warned : Prop) (log : Log) (p : Pool) (m : Member) (settled env' : Env)
    (q : Pool) : Prop :=
  ∃ m' f records, m'.notes = m.notes ∧ (f = .fit ↔ fit) ∧ q = p.settle m' settled.now f ∧
    env'.log = log ++ records ∧ ((∃ r ∈ records, r.level = .warn) ↔ warned) ∧
    ((∃ r ∈ records, r.level = .debug) ↔ fit ∧ (p.rejects? m' settled.now).isSome = true)

theorem Settles.noted {fit warned : Prop} {r : LogRecord} (hr : r.level = .warn)
    (h : Settles fit warned (log ++ [r]) p m settled env' q) :
    Settles fit True log p m settled env' q := by
  obtain ⟨m', f, records, hm, hf, hq, hl, -, hd⟩ := h
  refine ⟨m', f, r :: records, hm, hf, hq, by simpa using hl, ?_, ?_⟩
  · exact iff_of_true ⟨r, .head _, hr⟩ trivial
  · simpa [hr] using hd

theorem pool_settle (env : Env) (p : Pool) (m : Member) (f : Fitness) :
    (settle env p m f).2.1 = p.settle m env.now f := by
  unfold settle
  dsimp only
  split <;> rfl

theorem log_settle (env : Env) (p : Pool) (m : Member) (f : Fitness) :
    ∃ records, (settle env p m f).1.log = env.log ++ records ∧
      (∀ r ∈ records, r.level = .debug) ∧
      ((∃ r, r ∈ records) ↔ f = .fit ∧ (p.rejects? m env.now).isSome = true) := by
  cases f with
  | fit =>
    unfold settle
    cases hr : p.rejects? m env.now with
    | some message =>
      refine ⟨_, rfl, ?_, by simp⟩
      simp [Pool.recordOn, Pool.record, LogRecord.of]
    | none => exact ⟨[], by simp, by simp, by simp⟩
  | unfit | lost => exact ⟨[], by simp [settle], by simp, by simp⟩

theorem settling_settles {f : Fitness}
    (h : Alone (stepWith rollback) moments env p (.more (.settling m f)) env' q (.done ())) :
    ∃ settled, moments = [settled] ∧ Settles (f = .fit) False env.log p m settled env' q := by
  obtain ⟨moment, rest, x, rfl, later, h, done⟩ := h.first
  obtain rfl : settle moment p m f = x := Option.some.inj h
  obtain ⟨rfl, rfl, rfl⟩ := Alone.of_done done
  obtain ⟨records, hl, hd, hr⟩ := log_settle moment p m f
  refine ⟨moment, rfl, m, f, records, rfl, Iff.rfl, pool_settle moment p m f,
    hl.trans (by rw [later.log]), ?_, ?_⟩
  · refine iff_of_false ?_ id
    rintro ⟨r, hm, hw⟩
    rw [hd r hm] at hw
    cases hw
  · rw [← hr]
    exact exists_congr fun r => ⟨fun h => h.1, fun hm => ⟨hm, hd r hm⟩⟩

theorem Settles.congr {fit fit' warned warned' : Prop} (hf : fit ↔ fit') (hw : warned ↔ warned')
    (h : Settles fit warned log p m settled env' q) :
    Settles fit' warned' log p m settled env' q := by
  rwa [propext hf, propext hw] at h

theorem finished_settles {s : Session} {result : Except SessionError Unit}
    (h : Alone (stepWith rollback) moments (afterReset p m (env, s, .finished result)).1
      (afterReset p m (env, s, .finished result)).2.1
      (afterReset p m (env, s, .finished result)).2.2 env' q (.done ())) :
    ∃ settled, moments = [settled] ∧
      Settles (result = .ok () ∧ s.reported env.server = .idle)
        (¬ (result = .ok () ∧ s.reported env.server = .idle)) env.log p m settled env' q := by
  cases result with
  | error e =>
    obtain ⟨settled, hm, h⟩ := settling_settles h
    exact ⟨settled, hm, Settles.congr (by simp) (by simp) (Settles.noted rfl h)⟩
  | ok =>
    unfold afterReset at h
    dsimp only at h
    split at h
    · rename_i hs
      obtain ⟨settled, hm, h⟩ := settling_settles h
      exact ⟨settled, hm, h.congr (by simp [hs]) (by simp [hs])⟩
    · -- the hook succeeded, but did not leave the session idle
      rename_i hs
      obtain ⟨settled, hm, h⟩ := settling_settles h
      exact ⟨settled, hm, Settles.congr (by simp [hs]) (by simp [hs]) (Settles.noted rfl h)⟩

theorem afterReset_settles {x : Env × Session × Progress}
    (h : Alone (stepWith rollback) moments (afterReset p m x).1 (afterReset p m x).2.1
      (afterReset p m x).2.2 env' q (.done ())) :
    ∃ pauses settled e s result, moments = pauses ++ [settled] ∧ Script.Ends pauses x e s result ∧
      Settles (result = .ok () ∧ s.reported e.server = .idle)
        (¬ (result = .ok () ∧ s.reported e.server = .idle)) x.1.log p m settled env' q := by
  -- each moment but the last ends a pause of the hook
  induction moments generalizing x m with
  | nil =>
    obtain ⟨e, s, result | pause⟩ := x
    · obtain ⟨settled, hm, -⟩ := finished_settles h
      cases hm
    · cases h
  | cons moment moments ih =>
    obtain ⟨e, s, result | pause⟩ := x
    · obtain ⟨settled, hm, h⟩ := finished_settles h
      exact ⟨[], settled, e, s, result, hm, .finished, h⟩
    · obtain ⟨_, _, x, ⟨⟩, later, h, rest⟩ := h.first
      simp only [stepWith, step, Option.ite_none_right_eq_some, Option.some.injEq] at h
      obtain ⟨due, rfl⟩ := h
      obtain ⟨pauses, settled, e', s', result, rfl, ends, h⟩ := ih rest
      rw [Script.log_resume, later.log] at h
      exact ⟨moment :: pauses, settled, e', s', result, rfl, .paused later due ends, h⟩

theorem runReset_settles (h : Alone (stepWith rollback) moments (runReset env p m).1
      (runReset env p m).2.1 (runReset env p m).2.2 env' q (.done ())) :
    ∃ pauses settled e s result, moments = pauses ++ [settled] ∧
      Script.Ends pauses (Script.run env m.session (p.hooks.reset p.hookCalls.reset)) e s result ∧
      Settles (result = .ok () ∧ s.reported e.server = .idle)
        (¬ (result = .ok () ∧ s.reported e.server = .idle)) env.log p.resetCall.1 m settled env'
        q := by
  obtain ⟨pauses, settled, e, s, result, hm, ends, h⟩ := afterReset_settles h
  rw [Script.log_run] at h
  exact ⟨pauses, settled, e, s, result, hm, ends, h⟩

/-! ## A return is settled by what is found out -/

/-- The pool that has counted a run of the hook, if there was one. -/
def hooked (p : Pool) (f : Findings) : Pool := if f.hook.isSome then p.resetCall.1 else p

/-- A return that looks at a member is settled by what it finds out. -/
structure Finds (rollback : Rollback) (f : Findings) (pauses : List Env) (env : Env) (p : Pool)
    (m : Member) (settled env' : Env) (q : Pool) : Prop where
  findings : f.Of rollback (p.hooks.reset p.hookCalls.reset) pauses env m.session
  ready : f.hook.isSome = true ↔ f.IsReady
  settles : Settles f.Passed (¬ f.IsClean) env.log (hooked p f) m settled env' q

theorem finds_idle (hs : m.session.reported env.server = .idle)
    (h : Alone (stepWith rollback) moments (runReset env p m).1 (runReset env p m).2.1
      (runReset env p m).2.2 env' q (.done ())) :
    ∃ f pauses settled, moments = pauses ++ [settled] ∧
      Finds rollback f pauses env p m settled env' q := by
  obtain ⟨hb, hc⟩ : m.session.isBroken env.server = false ∧ m.session.closed = false :=
    Session.alive_of_reported (by simp [hs])
  obtain ⟨pauses, settled, e, s, result, hm, ends, h⟩ := runReset_settles h
  refine ⟨⟨false, false, .idle, none, some (result, s.reported e.server)⟩, pauses, settled, hm,
    ⟨hb.symm, hc.symm, hs.symm, ?_, ?_, ?_⟩, ?_, ?_⟩
  · simp [Findings.HasTransaction]
  · rintro _ _ ⟨⟩
    exact ⟨env.log, e, s, ends, rfl⟩
  · simp
  · simp [Findings.IsReady]
  · exact h.congr (by simp [Findings.Passed, Findings.IsReady])
      (by simp [Findings.IsClean, Findings.Passed, Findings.IsReady])

theorem finds_open (hs : (m.session.reported env.server).hasTransaction = true) {r : LogRecord}
    (hr : r.level = .warn)
    (h : Alone (stepWith rollback) moments
      (afterRollback { env with log := env.log ++ [r] } p m (rollback m.session env.server)).1
      (afterRollback { env with log := env.log ++ [r] } p m (rollback m.session env.server)).2.1
      (afterRollback { env with log := env.log ++ [r] } p m (rollback m.session env.server)).2.2
      env' q (.done ())) :
    ∃ f pauses settled, moments = pauses ++ [settled] ∧
      Finds rollback f pauses env p m settled env' q := by
  have ht := Status.hasTransaction_iff.1 hs
  have hi : m.session.reported env.server ≠ .idle := by rcases ht with ht | ht <;> simp [ht]
  obtain ⟨hb, hc⟩ : m.session.isBroken env.server = false ∧ m.session.closed = false :=
    Session.alive_of_reported (by rcases ht with ht | ht <;> simp [ht])
  cases hx : rollback m.session env.server with
  | mk s rest =>
    obtain ⟨server, e | ⟨⟨⟩⟩⟩ := rest <;> rw [hx] at h
    · obtain ⟨settled, hm, h⟩ := settling_settles h
      refine ⟨⟨false, false, m.session.reported env.server, some (.error e), none⟩, [], settled, hm,
        ⟨hb.symm, hc.symm, rfl, ?_, ?_, ?_⟩, ?_, ?_⟩
      · intro result
        simp [Findings.HasTransaction, ht, hx]
      · rintro _ _ ⟨⟩
      · simp
      · simp [Findings.IsReady, hi]
      · refine Settles.congr ?_ ?_ (Settles.noted hr (Settles.noted rfl h))
        · exact iff_of_false (by split <;> simp) (by simp [Findings.Passed])
        · simp [Findings.IsClean, hi]
    · obtain ⟨pauses, settled, e, s', result, hm, ends, h⟩ := runReset_settles h
      refine ⟨⟨false, false, m.session.reported env.server, some (.ok ()),
        some (result, s'.reported e.server)⟩, pauses, settled, hm,
        ⟨hb.symm, hc.symm, rfl, ?_, ?_, ?_⟩, ?_, ?_⟩
      · intro result
        simp [Findings.HasTransaction, ht, hx]
      · rintro _ _ ⟨⟩
        refine ⟨env.log ++ [r], e, s', ?_, rfl⟩
        simpa [Findings.restored, hx] using ends
      · simp
      · simp [Findings.IsReady, ht]
      · refine Settles.congr ?_ ?_ (Settles.noted hr h)
        · simp [Findings.Passed, Findings.IsReady, ht]
        · simp [Findings.IsClean, hi]

theorem finds_unusable {f : Fitness} {r : LogRecord} (hf : f ≠ .fit) (hr : r.level = .warn)
    (hi : m.session.reported env.server ≠ .idle)
    (ht : (m.session.reported env.server).hasTransaction = false)
    (h : Alone (stepWith rollback) moments { env with log := env.log ++ [r] } p
      (.more (.settling m f)) env' q (.done ())) :
    ∃ f pauses settled, moments = pauses ++ [settled] ∧
      Finds rollback f pauses env p m settled env' q := by
  obtain ⟨settled, hm, h⟩ := settling_settles h
  refine ⟨⟨m.session.isBroken env.server, m.session.closed, m.session.reported env.server, none,
    none⟩, [], settled, hm, ⟨rfl, rfl, rfl, ?_, ?_, ?_⟩, ?_, ?_⟩
  · intro result
    simp [Findings.HasTransaction, ← Status.hasTransaction_iff, ht]
  · rintro _ _ ⟨⟩
  · simp
  · simp [Findings.IsReady, hi, ← Status.hasTransaction_iff, ht]
  · refine Settles.congr ?_ ?_ (Settles.noted hr h)
    · simp [Findings.Passed, hf]
    · simp [Findings.IsClean, hi]

theorem finds (h : Alone (stepWith rollback) moments (resetWith rollback env p m).1
      (resetWith rollback env p m).2.1 (resetWith rollback env p m).2.2 env' q (.done ())) :
    ∃ f pauses settled, moments = pauses ++ [settled] ∧
      Finds rollback f pauses env p m settled env' q := by
  unfold resetWith at h
  split at h
  · rename_i ht
    exact finds_open ht rfl h
  · rename_i ht
    rw [Bool.not_eq_true] at ht
    by_cases hi : m.session.reported env.server = .idle
    · rw [reset_idle hi] at h
      exact finds_idle hi h
    · obtain ⟨message, fields, f, hf, hr⟩ := reset_unusable (p := p) hi ht
      rw [hr] at h
      exact finds_unusable hf rfl hi ht h

end Returning

end SessionPool
