import SessionPool.Proofs.Losses
import SessionPool.Proofs.Room

/-!
# Adding a member with rests between the attempts

A worker that is to add a member tries to open a session, a number of times, and rests longer and
longer in between. `PoolSettings.rest` says how long in closed form; `Adding.Goes` is the whole
course of it: attempts that failed, each with its entry and the rest after it, and one of three ends
(`Adding.Ending`). The worker makes its steps among those of others (`Adding.Among`), which may do
with the pool what they like as long as the room for the session is kept.

`Site.adds_with_rests` puts it together. Every worker of a pool that adds a member goes such a
course; all of its steps but the last leave the pool alone, apart from counting its failures, and
with the last one the member joins, or the room is given up and the request behind it is told why.
-/

set_option autoImplicit false

namespace SessionPool

/-! ## How long a worker rests -/

namespace Duration

theorem nanos_shorter (a b : Duration) : (a.shorter b).nanos = min a.nanos b.nanos := by
  unfold shorter
  split <;> rename_i h <;> rw [lt_iff] at h <;> omega

theorem nanos_doubled (d : Duration) : d.doubled.nanos = min (2 * d.nanos) longest.nanos :=
  nanos_shorter _ _

end Duration

namespace PoolSettings

variable {s : PoolSettings} {i : Nat}

/-- How long a worker rests after its `i`th attempt, before chance is asked. -/
def rest (s : PoolSettings) (i : Nat) : Duration :=
  ⟨min (s.retryDelay.nanos * 2 ^ (i - 1)) s.maxRetryDelay.nanos⟩

theorem retries_of_validate (h : s.validate = .ok ()) :
    0 < s.attempts ∧ s.retryDelay ≤ s.maxRetryDelay := by
  unfold validate at h
  split at h
  · cases h
  · split at h
    · cases h
    · split at h
      · cases h
      · rename_i ha
        split at h
        · cases h
        · split at h
          · cases h
          · rename_i hd
            rw [Duration.lt_iff] at hd
            rw [Duration.le_iff]
            omega

theorem rest_one (h : s.retryDelay ≤ s.maxRetryDelay) : s.rest 1 = s.retryDelay := by
  rw [Duration.le_iff] at h
  exact congrArg Duration.mk (by simpa using h)

/-- Doubling up to the limit keeps to the closed form, and never runs into the longest duration. -/
theorem rest_succ (hi : 1 ≤ i) (hl : s.maxRetryDelay ≤ .longest) :
    (s.rest i).doubled.shorter s.maxRetryDelay = s.rest (i + 1) := by
  rw [Duration.le_iff] at hl
  suffices nanos : ((s.rest i).doubled.shorter s.maxRetryDelay).nanos = (s.rest (i + 1)).nanos from
    congrArg Duration.mk nanos
  obtain ⟨j, rfl⟩ : ∃ j, i = j + 1 := ⟨i - 1, by omega⟩
  rw [Duration.nanos_shorter, Duration.nanos_doubled]
  simp only [rest, Nat.add_sub_cancel]
  have power : s.retryDelay.nanos * 2 ^ (j + 1) = 2 * (s.retryDelay.nanos * 2 ^ j) := by
    rw [Nat.pow_succ, ← Nat.mul_assoc, Nat.mul_comm]
  rw [power]
  omega

end PoolSettings

/-! ## One attempt -/

namespace Opening

theorem step_unmoved {env env' : Env} {p q : Pool} {o : Opening} {next : Next Opening Opened}
    (h : o.step env p = some (env', q, next)) :
    ∃ calls id, q = { p with hookCalls := calls, nextId := id } := by
  have configured (p : Pool) (began : Instant) (x : Env × Session × Progress) :
      ∃ id, (afterConfigure p began x).2.1 = { p with nextId := id } := by
    obtain ⟨e, s, (_ | ⟨⟨⟩⟩) | pause⟩ := x
    · exact ⟨_, rfl⟩
    · unfold afterConfigure
      dsimp only
      split
      · exact ⟨_, rfl⟩
      · exact ⟨_, rfl⟩
    · exact ⟨_, rfl⟩
  have dialled (began : Instant) (x : Env × Dialed) :
      ∃ calls id, (afterDial p began x).2.1 = { p with hookCalls := calls, nextId := id } := by
    obtain ⟨e, (_ | s) | d⟩ := x
    · exact ⟨_, _, rfl⟩
    · obtain ⟨id, hq⟩ := configured p.configureCall.1 began (Script.run e s p.configureCall.2)
      exact ⟨_, id, hq⟩
    · exact ⟨_, _, rfl⟩
  cases o with
  | fresh =>
    have hd := dialled env.now (Dial.start env p.options)
    rwa [Option.some.inj h] at hd
  | dialing began d =>
    have hd := dialled began (d.resume env)
    rwa [(Option.ite_none_right_eq_some.1 h).2 |> Option.some.inj] at hd
  | configuring began s pause =>
    obtain ⟨id, hq⟩ := configured p began (Script.resume env s pause)
    rw [(Option.ite_none_right_eq_some.1 h).2 |> Option.some.inj] at hq
    exact ⟨_, id, hq⟩

/-- The steps of an attempt to open a session, as far as it has come, while nobody tells the crew to
stop. -/
inductive Along : Opening → List Stint → Next Opening Opened → Prop
  | here {o : Opening} : Along o [] (.more o)
  | ends {o : Opening} {t : Stint} {outcome : Opened} (running : t.pool.crew.stopped = false)
      (step : o.step t.env t.pool = some (t.env', t.pool', .done outcome)) :
      Along o [t] (.done outcome)
  | goesOn {o o' : Opening} {t : Stint} {stints : List Stint} {next : Next Opening Opened}
      (running : t.pool.crew.stopped = false)
      (step : o.step t.env t.pool = some (t.env', t.pool', .more o'))
      (rest : Along o' stints next) : Along o (t :: stints) next

end Opening

/-! ## The course of a creation -/

/-- What a worker that adds a member can rely on at each of its steps. -/
structure Stint.Fits (settings : PoolSettings) (t : Stint) : Prop where
  settings : t.pool.settings = settings
  opening : 0 < t.pool.opening
  room : t.pool.opening ≤ t.pool.size
  sound : t.pool.waiting.Sound

namespace Adding

/-- The steps of a worker from some stage to its end. -/
inductive Runs (settings : PoolSettings) : Adding → List Stint → Prop
  | ends {a : Adding} {t : Stint} (fits : t.Fits settings)
      (step : a.step t.env t.pool = some (t.env', t.pool', .done ())) : Runs settings a [t]
  | goesOn {a a' : Adding} {t : Stint} {stints : List Stint} (fits : t.Fits settings)
      (step : a.step t.env t.pool = some (t.env', t.pool', .more a'))
      (rest : Runs settings a' stints) : Runs settings a (t :: stints)

inductive Ending
  | created (id : Nat)
  | exhausted
  | turnedAway

/-- The failure of an attempt is entered, in a pool that is open or is not. -/
structure Enters (t : Stint) (closed : Bool) : Prop where
  closed : t.pool.closed = closed
  entered : t.pool' = t.pool.countFailedOpening

/-- The worker rests after its `i`th attempt, till a timer goes off. -/
structure Rests (settings : PoolSettings) (i : Nat) (t : Stint) (timer : Timer) : Prop extends
    Enters t false where
  more : i < settings.attempts
  due : timer.due = t.env.now.after (t.env.chance.delay t.env.draws (settings.rest i))

/-- A worker notices that the crew is to stop, and does nothing else. -/
structure Stops (t : Stint) : Prop where
  stopped : t.pool.crew.stopped = true
  kept : t.pool' = t.pool

/-- The course of a worker that makes its `i`th attempt to open a session: the errors with which
this attempt and those after it fail, and how it ends. -/
inductive Goes (settings : PoolSettings) (waiter : Option Nat) :
    Nat → Opening → List SessionError → Ending → List Stint → Prop
  | created {i : Nat} {o : Opening} {stints : List Stint} {m : Member} {elapsed : Duration}
      {last : Stint} (attempt : o.Along stints (.done (.ok (m, elapsed))))
      (joins : last.pool.Joins m.id last.env.now last.pool') :
      Goes settings waiter i o [] (.created m.id) (stints ++ [last])
  | exhausted {o : Opening} {stints : List Stint} {e : SessionError} {t last : Stint}
      (attempt : o.Along stints (.done (.error e))) (enters : Enters t false)
      (releases : last.pool.Releases waiter (.connect e) last.pool') :
      Goes settings waiter settings.attempts o [e] .exhausted (stints ++ [t, last])
  | retried {i : Nat} {o : Opening} {stints rest : List Stint} {e : SessionError} {t t' : Stint}
      {timer : Timer} {errors : List SessionError} {ending : Ending}
      (attempt : o.Along stints (.done (.error e))) (rests : Rests settings i t timer)
      (running : t'.pool.crew.stopped = false) (elapsed : timer.due ≤ t'.env.now)
      (kept : t'.pool' = t'.pool) (next : Goes settings waiter (i + 1) .fresh errors ending rest) :
      Goes settings waiter i o (e :: errors) ending (stints ++ t :: t' :: rest)
  /-- The pool was closed while the attempt was made. -/
  | closed {i : Nat} {o : Opening} {stints : List Stint} {e : SessionError} {t last : Stint}
      (attempt : o.Along stints (.done (.error e))) (enters : Enters t true)
      (releases : last.pool.Releases waiter .closed last.pool') :
      Goes settings waiter i o [e] .turnedAway (stints ++ [t, last])
  /-- The crew was told to stop while the attempt was made. -/
  | brokenOff {i : Nat} {o o' : Opening} {stints : List Stint} {t last : Stint}
      (attempt : o.Along stints (.more o')) (stops : Stops t)
      (releases : last.pool.Releases waiter .closed last.pool') :
      Goes settings waiter i o [] .turnedAway (stints ++ [t, last])
  /-- The crew was told to stop while the worker rested. -/
  | roused {i : Nat} {o : Opening} {stints : List Stint} {e : SessionError} {t t' last : Stint}
      {timer : Timer} (attempt : o.Along stints (.done (.error e)))
      (rests : Rests settings i t timer) (stops : Stops t')
      (releases : last.pool.Releases waiter .closed last.pool') :
      Goes settings waiter i o [e] .turnedAway (stints ++ [t, t', last])

/-! ### Stage by stage -/

variable {settings : PoolSettings} {a : Adding} {stints : List Stint}

theorem pool_of_step {t : Stint} {next : Next Adding Unit} {x : Stepped Adding Unit}
    (step : some x = some (t.env', t.pool', next)) : t.pool' = x.2.1 :=
  (congrArg (·.2.1) (Option.some.inj step)).symm

theorem next_of_step {t : Stint} {next : Next Adding Unit} {x : Stepped Adding Unit}
    (step : some x = some (t.env', t.pool', next)) : next = x.2.2 :=
  (congrArg (·.2.2) (Option.some.inj step)).symm

theorem runs_releasing {e : PoolError} (h : Runs settings a stints)
    (hp : a.phase = .releasing e) :
    ∃ last : Stint, stints = [last] ∧ last.pool.Releases a.waiter e last.pool' := by
  cases h with
  | ends fits step =>
    rw [Adding.step, hp] at step
    refine ⟨_, rfl, ?_⟩
    rw [pool_of_step step]
    exact Pool.releases fits.opening fits.room fits.sound a.waiter e
  | goesOn fits step rest =>
    rw [Adding.step, hp] at step
    cases next_of_step step

theorem runs_joining {m : Member} {elapsed : Duration} (h : Runs settings a stints)
    (hp : a.phase = .joining m elapsed) :
    ∃ last : Stint, stints = [last] ∧ last.pool.Joins m.id last.env.now last.pool' := by
  cases h with
  | ends fits step =>
    rw [Adding.step, hp] at step
    refine ⟨_, rfl, ?_⟩
    rw [pool_of_step step]
    exact Pool.joins fits.opening fits.room m elapsed _
  | goesOn fits step rest =>
    rw [Adding.step, hp] at step
    cases next_of_step step

def StopsAnd (waiter : Option Nat) (t : Stint) (rest : List Stint) : Prop :=
  Stops t ∧ ∃ last : Stint, rest = [last] ∧ last.pool.Releases waiter .closed last.pool'

theorem runs_stopped {a' : Adding} {t : Stint} {rest : List Stint}
    (stopped : t.pool.crew.stopped = true)
    (step : some (t.env, t.pool, Next.more (a.inPhase (.releasing .closed))) =
      some (t.env', t.pool', (.more a' : Next Adding Unit)))
    (run : Runs settings a' rest) : StopsAnd a.waiter t rest := by
  obtain rfl : a' = a.inPhase (.releasing .closed) := Next.more.inj (next_of_step step)
  have releases := runs_releasing run rfl
  exact ⟨⟨stopped, pool_of_step step⟩, releases⟩

/-- The failure of an attempt is entered, and that decides how the worker goes on. -/
theorem runs_failing {e : SessionError} (h : Runs settings a stints) (hp : a.phase = .failing e)
    (hd : a.delay = settings.rest a.attempt) (ha : a.attempt ≤ settings.attempts)
    (first : 0 < settings.attempts) :
    ∃ t rest, stints = t :: rest ∧
      ((Enters t true ∧ ∃ last : Stint, rest = [last] ∧
          last.pool.Releases a.waiter .closed last.pool') ∨
        (Enters t false ∧ a.attempt = settings.attempts ∧ ∃ last : Stint, rest = [last] ∧
          last.pool.Releases a.waiter (.connect e) last.pool') ∨
        ∃ timer, Rests settings a.attempt t timer ∧
          Runs settings (a.inPhase (.resting timer)) rest) := by
  cases h with
  | @ends _ t fits step =>
    have done := next_of_step (x := a.fail t.env t.pool e) (by rw [← step, Adding.step, hp])
    unfold fail at done
    dsimp only at done
    split at done
    · cases done
    · split at done <;> cases done
  | @goesOn _ a' t rest fits step run =>
    rw [Adding.step, hp] at step
    have attempts : attempts t.pool.countFailedOpening = settings.attempts := by
      have hs : t.pool.countFailedOpening.settings = settings := fits.settings
      rw [attempts, hs]
      omega
    refine ⟨t, rest, rfl, ?_⟩
    unfold fail at step
    dsimp only at step
    by_cases hc : t.pool.countFailedOpening.closed = true
    · rw [if_pos hc] at step
      have releases := runs_releasing (next_of_step step |> Next.more.inj |> (· ▸ run)) rfl
      exact .inl ⟨⟨hc, pool_of_step step⟩, releases⟩
    · have hc : t.pool.countFailedOpening.closed = false := by simpa using hc
      rw [hc, if_neg Bool.false_ne_true, attempts] at step
      by_cases hl : a.attempt = settings.attempts
      · rw [if_pos hl] at step
        have releases := runs_releasing (next_of_step step |> Next.more.inj |> (· ▸ run)) rfl
        exact .inr (.inl ⟨⟨hc, pool_of_step step⟩, hl, releases⟩)
      · rw [if_neg hl, hd] at step
        have run := next_of_step step |> Next.more.inj |> (· ▸ run)
        refine .inr (.inr ⟨_, ⟨⟨hc, pool_of_step step⟩, by omega, rfl⟩, run⟩)

theorem runs_resting {timer : Timer} (h : Runs settings a stints) (hp : a.phase = .resting timer) :
    ∃ t rest, stints = t :: rest ∧
      (StopsAnd a.waiter t rest ∨
        t.pool.crew.stopped = false ∧ timer.due ≤ t.env.now ∧ t.pool' = t.pool ∧
          Runs settings { a with
            attempt := a.attempt + 1
            delay := a.delay.doubled.shorter settings.maxRetryDelay
            phase := .opening .fresh } rest) := by
  cases h with
  | @ends _ t fits step =>
    rw [Adding.step, hp] at step
    dsimp only at step
    split at step
    · cases next_of_step step
    · split at step
      · cases next_of_step step
      · cases step
  | @goesOn _ a' t rest fits step run =>
    rw [Adding.step, hp] at step
    refine ⟨t, rest, rfl, ?_⟩
    dsimp only at step
    by_cases hs : t.pool.crew.stopped = true
    · rw [if_pos hs] at step
      exact .inl (runs_stopped hs step run)
    · have hs : t.pool.crew.stopped = false := by simpa using hs
      rw [hs, if_neg Bool.false_ne_true] at step
      obtain ⟨due, step⟩ := Option.ite_none_right_eq_some.1 step
      refine .inr ⟨hs, of_decide_eq_true due, pool_of_step step, ?_⟩
      have run := next_of_step step |> Next.more.inj |> (· ▸ run)
      rwa [nextDelay, fits.settings] at run

/-- An attempt comes to a session or to an error, unless it is broken off. -/
theorem runs_opening {o : Opening} (h : Runs settings a stints) (hp : a.phase = .opening o) :
    ∃ tries rest, stints = tries ++ rest ∧
      ((∃ m elapsed, o.Along tries (.done (.ok (m, elapsed))) ∧ ∃ last : Stint, rest = [last] ∧
          last.pool.Joins m.id last.env.now last.pool') ∨
        (∃ e, o.Along tries (.done (.error e)) ∧ Runs settings (a.inPhase (.failing e)) rest) ∨
        ∃ o' t rest', o.Along tries (.more o') ∧ rest = t :: rest' ∧
          StopsAnd a.waiter t rest') := by
  induction h generalizing o with
  | @ends a t fits step =>
    rw [Adding.step, hp] at step
    dsimp only at step
    split at step
    · cases next_of_step step
    · obtain ⟨⟨env, q, next⟩, -, he⟩ := Option.map_eq_some_iff.1 step
      rcases next with o' | (e | ⟨m, elapsed⟩) <;> cases he
  | @goesOn a a' t rest fits step run ih =>
    rw [Adding.step, hp] at step
    dsimp only at step
    by_cases hs : t.pool.crew.stopped = true
    · rw [if_pos hs] at step
      exact ⟨[], t :: rest, rfl, .inr (.inr ⟨o, t, rest, .here, rfl, runs_stopped hs step run⟩)⟩
    · have hs : t.pool.crew.stopped = false := by simpa using hs
      rw [hs, if_neg Bool.false_ne_true] at step
      obtain ⟨⟨env, q, next⟩, own, he⟩ := Option.map_eq_some_iff.1 step
      rcases next with o' | (e | ⟨m, elapsed⟩) <;> cases he
      · obtain ⟨tries, rest', rfl, h⟩ := ih rfl
        refine ⟨t :: tries, rest', rfl, ?_⟩
        rcases h with ⟨m, elapsed, along, h⟩ | ⟨e, along, h⟩ | ⟨o'', t', rest, along, h⟩
        · exact .inl ⟨m, elapsed, along.goesOn hs own, h⟩
        · exact .inr (.inl ⟨e, along.goesOn hs own, h⟩)
        · exact .inr (.inr ⟨o'', t', rest, along.goesOn hs own, h⟩)
      · exact ⟨[t], rest, rfl, .inr (.inl ⟨e, .ends hs own, run⟩)⟩
      · exact ⟨[t], rest, rfl, .inl ⟨m, elapsed, .ends hs own, runs_joining run rfl⟩⟩

/-- **A worker that runs to its end goes its course**, from any of its attempts on. -/
theorem goes_of_runs (valid : settings.validate = .ok ())
    (finite : settings.maxRetryDelay ≤ .longest) {o : Opening} (h : Runs settings a stints)
    (hp : a.phase = .opening o) (hd : a.delay = settings.rest a.attempt) (first : 1 ≤ a.attempt)
    (last : a.attempt ≤ settings.attempts) :
    ∃ errors ending, Goes settings a.waiter a.attempt o errors ending stints := by
  obtain ⟨some_attempt, -⟩ := PoolSettings.retries_of_validate valid
  -- by induction on the number of steps, over as many attempts as are made
  induction hn : stints.length using Nat.strongRecOn generalizing a o stints with
  | ind n ih =>
    obtain ⟨tries, rest, rfl, ⟨m, elapsed, along, t, rfl, joins⟩ | ⟨e, along, run⟩ |
      ⟨o', t, rest, along, rfl, stops, t', rfl, releases⟩⟩ := runs_opening h hp
    · exact ⟨_, _, .created along joins⟩
    · obtain ⟨t, rest, rfl, ⟨enters, t', rfl, releases⟩ | ⟨enters, hl, t', rfl, releases⟩ |
        ⟨timer, rests, run⟩⟩ := runs_failing run rfl hd last some_attempt
      · exact ⟨_, _, .closed along enters releases⟩
      · have hl : a.attempt = settings.attempts := hl
        rw [hl]
        exact ⟨_, _, .exhausted along enters releases⟩
      · obtain ⟨t', rest, rfl, ⟨stops, t'', rfl, releases⟩ | ⟨running, elapsed, kept, run⟩⟩ :=
          runs_resting run rfl
        · exact ⟨_, _, .roused along rests stops releases⟩
        · have longer : (a.delay.doubled.shorter settings.maxRetryDelay) =
              settings.rest (a.attempt + 1) := by
            rw [hd]
            exact PoolSettings.rest_succ first finite
          have shorter : rest.length < n := by
            rw [← hn]
            simp only [List.length_append, List.length_cons]
            omega
          obtain ⟨errors, ending, goes⟩ :=
            ih _ shorter run rfl longer (Nat.le_succ_of_le first) rests.more rfl
          exact ⟨_, _, .retried along rests running elapsed kept goes⟩
    · exact ⟨_, _, .brokenOff along stops releases⟩

/-! ### The account of a course -/

def errorsIn (stints : List Stint) : Int :=
  (stints.map fun t => (t.pool'.counters.connectionsErrors : Int) -
    t.pool.counters.connectionsErrors).sum

theorem errorsIn_append (a b : List Stint) : errorsIn (a ++ b) = errorsIn a + errorsIn b := by
  simp [errorsIn]

theorem errorsIn_cons (t : Stint) (stints : List Stint) :
    errorsIn (t :: stints) = t.pool'.counters.connectionsErrors -
      t.pool.counters.connectionsErrors + errorsIn stints := by
  simp [errorsIn]

/-- What the last step of a course does, by how the course ends. -/
def Ending.Closes (waiter : Option Nat) (errors : List SessionError) (t : Stint) : Ending → Prop
  | created id => t.pool.Joins id t.env.now t.pool'
  | exhausted => ∃ e, errors.getLast? = some e ∧ t.pool.Releases waiter (.connect e) t.pool'
  | turnedAway => t.pool.Releases waiter .closed t.pool'

/-- How many attempts a course makes from the `i`th on, by its end. -/
def Ending.Fits (settings : PoolSettings) (i : Nat) (errors : List SessionError) : Ending → Prop
  | created _ => i + errors.length ≤ settings.attempts
  | exhausted => i + errors.length = settings.attempts + 1
  | turnedAway => i + errors.length ≤ settings.attempts + 1

structure Account (settings : PoolSettings) (waiter : Option Nat) (i : Nat)
    (errors : List SessionError) (ending : Ending) (stints : List Stint) : Prop where
  fits : ending.Fits settings i errors
  counted : errorsIn stints = errors.length
  /-- Only the last step does something to the pool. -/
  once : ∃ before last, stints = before ++ [last] ∧ (∀ t ∈ before, t.pool.Unmoved t.pool') ∧
    ending.Closes waiter errors last
  /-- It takes a pool that is closed, or a crew that is told to stop, to turn the worker away. -/
  turned : ending = .turnedAway → ∃ t ∈ stints, t.pool.closed = true ∨ t.pool.crew.stopped = true

/-- Steps that leave the pool alone and count as many failures as there are errors. -/
def Quiet (stints : List Stint) (n : Nat) : Prop :=
  (∀ t ∈ stints, t.pool.Unmoved t.pool') ∧ errorsIn stints = n

theorem Quiet.append {a b : List Stint} {m n : Nat} (ha : Quiet a m) (hb : Quiet b n) :
    Quiet (a ++ b) (m + n) := by
  refine ⟨fun t ht => (List.mem_append.1 ht).elim (ha.1 t) (hb.1 t), ?_⟩
  rw [errorsIn_append, ha.2, hb.2]
  push_cast
  rfl

theorem quiet_along {o : Opening} {next : Next Opening Opened} (h : o.Along stints next) :
    Quiet stints 0 := by
  have one {t : Stint} {o : Opening} {next : Next Opening Opened}
      (step : o.step t.env t.pool = some (t.env', t.pool', next)) : Quiet [t] 0 := by
    obtain ⟨calls, id, hq⟩ := Opening.step_unmoved step
    refine ⟨?_, ?_⟩
    · rintro _ (_ | ⟨_, ⟨⟩⟩)
      exact ⟨_, _, _, hq⟩
    · rw [errorsIn_cons, hq]
      simp [errorsIn]
  induction h with
  | here => exact ⟨by simp, rfl⟩
  | ends running step => exact one step
  | goesOn running step rest ih => exact (one step).append ih

theorem Enters.quiet {t : Stint} {closed : Bool} (h : Enters t closed) : Quiet [t] 1 := by
  refine ⟨?_, ?_⟩
  · rintro _ (_ | ⟨_, ⟨⟩⟩)
    rw [h.entered]
    exact t.pool.unmoved_countFailedOpening
  · rw [errorsIn_cons, h.entered]
    simp [errorsIn, Pool.countFailedOpening, Pool.count]

theorem quiet_of_kept {t : Stint} (h : t.pool' = t.pool) : Quiet [t] 0 := by
  refine ⟨?_, ?_⟩
  · rintro _ (_ | ⟨_, ⟨⟩⟩)
    rw [h]
    exact .refl _
  · rw [errorsIn_cons, h]
    simp [errorsIn]

theorem Account.of_quiet {waiter : Option Nat} {i : Nat} {errors : List SessionError}
    {ending : Ending} {before : List Stint} {last : Stint}
    (quiet : Quiet before errors.length) (fits : ending.Fits settings i errors)
    (closes : ending.Closes waiter errors last)
    (turned : ending = .turnedAway →
      ∃ t ∈ before, t.pool.closed = true ∨ t.pool.crew.stopped = true) :
    Account settings waiter i errors ending (before ++ [last]) := by
  refine ⟨fits, ?_, ⟨before, last, rfl, quiet.1, closes⟩, fun he => ?_⟩
  · have same : last.pool'.counters.connectionsErrors = last.pool.counters.connectionsErrors := by
      cases ending with
      | created id => exact closes.errors
      | exhausted =>
        obtain ⟨e, -, releases⟩ := closes
        rw [releases.rest]
      | turnedAway =>
        have releases : last.pool.Releases waiter .closed last.pool' := closes
        rw [releases.rest]
    rw [errorsIn_append, quiet.2, errorsIn_cons, same]
    simp [errorsIn]
  · obtain ⟨t, ht, h⟩ := turned he
    exact ⟨t, List.mem_append_left _ ht, h⟩

/-- An attempt that failed and the rest after it come before what follows. -/
theorem Account.after {waiter : Option Nat} {i : Nat} {errors : List SessionError}
    {e : SessionError} {ending : Ending} {before rest : List Stint}
    (quiet : Quiet before 1) (h : Account settings waiter (i + 1) errors ending rest) :
    Account settings waiter i (e :: errors) ending (before ++ rest) := by
  obtain ⟨between, last, rfl, unmoved, closes⟩ := h.once
  refine ⟨?_, ?_, ⟨before ++ between, last, by simp, ?_, ?_⟩, fun he => ?_⟩
  · have fits := h.fits
    cases ending <;> simp only [Ending.Fits, List.length_cons] at fits ⊢ <;> omega
  · rw [errorsIn_append, quiet.2, h.counted, List.length_cons]
    push_cast
    rw [add_comm]
  · intro t ht
    exact (List.mem_append.1 ht).elim (quiet.1 t) (unmoved t)
  · cases ending with
    | created id => exact closes
    | exhausted =>
      obtain ⟨e', he, releases⟩ := closes
      refine ⟨e', ?_, releases⟩
      rw [List.getLast?_cons, he]
      rfl
    | turnedAway => exact closes
  · obtain ⟨t, ht, hc⟩ := h.turned he
    exact ⟨t, List.mem_append_right _ ht, hc⟩

theorem account_of_goes {waiter : Option Nat} {i : Nat} {o : Opening} {errors : List SessionError}
    {ending : Ending} (h : Goes settings waiter i o errors ending stints)
    (within : i ≤ settings.attempts) : Account settings waiter i errors ending stints := by
  have singly (stints : List Stint) (t last : Stint) :
      stints ++ [t, last] = (stints ++ [t]) ++ [last] := by simp
  induction h with
  | created attempt joins => exact .of_quiet (quiet_along attempt) within joins nofun
  | exhausted attempt enters releases =>
    rw [singly]
    exact .of_quiet ((quiet_along attempt).append enters.quiet) rfl ⟨_, rfl, releases⟩ nofun
  | @retried i o stints rest e t t' timer errors ending attempt rests running elapsed kept next
    ih =>
    have quiet := ((quiet_along attempt).append rests.quiet).append (quiet_of_kept kept)
    have h : Account settings waiter i (e :: errors) ending _ := (ih rests.more).after quiet
    simpa using h
  | @closed i o stints e t last attempt enters releases =>
    rw [singly]
    exact .of_quiet ((quiet_along attempt).append enters.quiet) (Nat.succ_le_succ within) releases
      fun _ => ⟨t, by simp, .inl enters.closed⟩
  | @brokenOff i o o' stints t last attempt stops releases =>
    rw [singly]
    exact .of_quiet ((quiet_along attempt).append (quiet_of_kept stops.kept))
      (Nat.le_succ_of_le within) releases fun _ => ⟨t, by simp, .inr stops.stopped⟩
  | @roused i o stints e t t' last timer attempt rests stops releases =>
    have quiet := ((quiet_along attempt).append rests.quiet).append (quiet_of_kept stops.kept)
    have h : Account settings waiter i [e] .turnedAway _ :=
      .of_quiet quiet (Nat.succ_le_succ within) releases fun _ => ⟨t', by simp, .inr stops.stopped⟩
    simpa using h

/-! ### Among others -/

/-- What a worker has come to that adds a member for some request, with the steps that it has made,
the last of them first. -/
inductive Among (settings : PoolSettings) (waiter : Option Nat) :
    List Stint → Next Adding Unit → Prop
  | starts {p : Pool} (h : p.settings = settings) :
      Among settings waiter [] (.more (.start p waiter))
  | goesOn {stints : List Stint} {a : Adding} {t : Stint} {next : Next Adding Unit}
      (h : Among settings waiter stints (.more a)) (fits : t.Fits settings)
      (step : a.step t.env t.pool = some (t.env', t.pool', next)) :
      Among settings waiter (t :: stints) next

/-- What a worker does from some stage on it does after what it did before. -/
theorem Among.runs {waiter : Option Nat} {before : List Stint} {next : Next Adding Unit}
    (h : Among settings waiter before next) (hn : next = .more a)
    (rest : Runs settings a stints) :
    ∃ p : Pool, p.settings = settings ∧
      Runs settings (.start p waiter) (before.reverse ++ stints) := by
  induction h generalizing a stints with
  | starts hp =>
    cases hn
    exact ⟨_, hp, rest⟩
  | goesOn h fits step ih =>
    subst hn
    obtain ⟨p, hp, run⟩ := ih rfl (.goesOn fits step rest)
    exact ⟨p, hp, by simpa using run⟩

/-- **A worker that has come to its end has gone a course from its first attempt on.** -/
theorem Among.goes {waiter : Option Nat} (valid : settings.validate = .ok ())
    (finite : settings.maxRetryDelay ≤ .longest) (h : Among settings waiter stints (.done ())) :
    ∃ errors ending, Goes settings waiter 1 .fresh errors ending stints.reverse ∧
      Account settings waiter 1 errors ending stints.reverse := by
  obtain ⟨first, ordered⟩ := PoolSettings.retries_of_validate valid
  cases h with
  | @goesOn before a t _ among fits step =>
    obtain ⟨p, rfl, run⟩ := among.runs rfl (.ends fits step)
    have delay : (Adding.start p waiter).delay = p.settings.rest 1 :=
      (PoolSettings.rest_one ordered).symm
    obtain ⟨errors, ending, goes⟩ := goes_of_runs valid finite run rfl delay le_rfl first
    rw [List.reverse_cons]
    exact ⟨errors, ending, goes, account_of_goes goes first⟩

theorem waiter_step {a' : Adding} {env env' : Env} {p q : Pool}
    (h : a.step env p = some (env', q, .more a')) : a'.waiter = a.waiter := by
  unfold step at h
  split at h
  · split at h
    · cases h
      rfl
    · obtain ⟨⟨env₁, p₁, next⟩, -, he⟩ := Option.map_eq_some_iff.1 h
      rcases next with o' | (e | ⟨m, elapsed⟩) <;> cases he <;> rfl
  · cases h
  · unfold fail at h
    dsimp only at h
    split at h
    · cases h
      rfl
    · split at h <;> cases h <;> rfl
  · split at h
    · cases h
      rfl
    · split at h <;> cases h
      rfl
  · cases h

def IsSuspended (a : Adding) : Prop :=
  (∃ o, a.phase = .opening o) ∨ ∃ timer, a.phase = .resting timer

/-- **A worker that waits when the crew is told to stop gives up the room with its next two steps**,
and does nothing else. -/
theorem runs_of_stopped {t : Stint} (h : Runs settings a (t :: stints)) (hs : a.IsSuspended)
    (stopped : t.pool.crew.stopped = true) : StopsAnd a.waiter t stints := by
  rcases hs with ⟨o, hp⟩ | ⟨timer, hp⟩
  · obtain ⟨tries, rest, he, h⟩ := runs_opening h hp
    have none {next : Next Opening Opened} (along : o.Along tries next) : tries = [] := by
      cases along with
      | here => rfl
      | ends running | goesOn running =>
        obtain ⟨rfl, -⟩ := List.cons.inj he
        rw [running] at stopped
        cases stopped
    rcases h with ⟨m, elapsed, along, -⟩ | ⟨e, along, -⟩ | ⟨o', t', rest', along, rfl, stops⟩
    · obtain rfl := none along
      cases along
    · obtain rfl := none along
      cases along
    · obtain rfl := none along
      obtain ⟨rfl, rfl⟩ := List.cons.inj he
      exact stops
  · obtain ⟨t', rest, he, stops | ⟨running, -⟩⟩ := runs_resting h hp
    · obtain ⟨rfl, rfl⟩ := List.cons.inj he
      exact stops
    · obtain ⟨rfl, rfl⟩ := List.cons.inj he
      rw [running] at stopped
      cases stopped

/-- A worker waits for nothing but the session that it opens, or for the end of its rest. -/
theorem waits {env : Env} {p : Pool} (h : a.step env p = none) :
    p.crew.stopped = false ∧ ((∃ o, a.phase = .opening o ∧ o.step env p = none) ∨
      ∃ timer, a.phase = .resting timer ∧ env.now < timer.due) := by
  unfold step at h
  split at h
  · rename_i o hp
    split at h
    · cases h
    · rename_i hs
      exact ⟨by simpa using hs, .inl ⟨o, hp, Option.map_eq_none_iff.1 h⟩⟩
  · cases h
  · cases h
  · rename_i timer hp
    split at h
    · cases h
    · rename_i hs
      split at h
      · cases h
      · rename_i ht
        refine ⟨by simpa using hs, .inr ⟨timer, hp, ?_⟩⟩
        rw [Timer.isDue, decide_eq_true_eq, Instant.le_iff] at ht
        rw [Instant.lt_iff]
        omega
  · cases h

end Adding

/-! ## The workers of a pool -/

namespace Site

variable {env env' : Env} {s s' : Site} {past : List Moment} {k : Nat} {a : Adding}

/-- A pool is never opened with settings that are not valid. -/
theorem Reachable.valid (h : Reachable env s) : s.pool.settings.validate = .ok () := by
  induction h with
  | @created env env' settings options hooks s h =>
    have valid : settings.validate = .ok () := by
      unfold create at h
      split at h
      · cases h
      · cases h
      · rename_i hv _
        exact hv
    obtain ⟨p, -, -, rfl, -, -, -, rfl⟩ := create_ok h
    rwa [show (fill p).settings = p.settings from
      congrArg Pool.Terms.settings (handled_fill p).terms]
  | moved h hm ih => rwa [(h.steady hm).settings]

theorem fits_of_adding (h : Reachable env s) (hg : Table.get? s.jobs k = some (.adding a))
    (env' : Env) (q : Pool) : Stint.Fits s.pool.settings ⟨env, s.pool, env', q⟩ := by
  have balanced := h.balanced
  have room : s.stake.rooms =
      1 + ({ s with jobs := Table.remove s.jobs k } : Site).stake.rooms := by
    rw [stake_job h.keyed hg, Stake.rooms_add]
    simp [Job.stake, Adding.stake]
  have opening := balanced.opening
  have size := balanced.size
  rw [Stake.rooms_add, room] at opening
  exact ⟨rfl, by dsimp only; omega, by dsimp only; omega, balanced.sound⟩

/-- The step that a worker makes at a moment with the member that it adds. -/
def Moment.stint? (k : Nat) (y : Moment) : Option Stint :=
  match y.move, Table.get? y.site.jobs k with
  | .step (.worker j), some (.adding a) =>
    if j = k then (a.step y.env y.site.pool).map fun x => ⟨y.env, y.site.pool, x.1, x.2.1⟩ else none
  | _, _ => none

theorem stint?_of_step {j : Job} (hg : Table.get? s.jobs k = some (.adding a))
    (hm : s.move? env (.step (.worker k)) = some (env', s'))
    (hj : Table.get? s'.jobs k = some j) :
    ∃ a', j = .adding a' ∧ a.step env s.pool = some (env', s'.pool, .more a') ∧
      Moment.stint? k ⟨env, s, .step (.worker k)⟩ = some ⟨env, s.pool, env', s'.pool⟩ := by
  have step : (Job.adding a).step env s.pool = some (env', s'.pool, .more j) := by
    cases moved hm with
    | worked hg' hs =>
      rw [hg] at hg'
      cases hg'
      rw [Table.get?_put, if_pos rfl] at hj
      cases hj
      exact hs
    | finished hg' hs =>
      rw [Table.get?_remove_self] at hj
      cases hj
    | sought hg' | took hg' =>
      rw [hg] at hg'
      cases hg'
    | unheld hv =>
      rcases hv with hv | hv | hv <;> cases hv
  cases Job.goesOn step with
  | adding ha => exact ⟨_, rfl, ha, by simp [Moment.stint?, hg, ha]⟩

theorem stint?_of_other {mv : Move} (hv : mv ≠ .step (.worker k)) :
    Moment.stint? k ⟨env, s, mv⟩ = none := by
  unfold Moment.stint?
  dsimp only
  split
  · rw [if_neg]
    rintro rfl
    exact hv rfl
  · rfl

/-- **A worker that adds a member makes its steps among those of others**, since it took the
task. -/
theorem Course.adds (h : Course past env s) (hg : Table.get? s.jobs k = some (.adding a)) :
    ∃ later earlier, past = later ++ earlier ∧
      Adding.Among s.pool.settings a.waiter (later.filterMap (Moment.stint? k)) (.more a) := by
  induction h generalizing a with
  | created h =>
    obtain ⟨p, -, -, -, -, -, -, rfl⟩ := create_ok h
    cases hg
  | @moved past env env' s s' mv hp hm ih =>
    have hr := hp.reachable
    rw [(hr.steady hm).settings]
    by_cases hv : mv = .step (.worker k)
    · subst hv
      rcases job_origin hr.keyed hm hg with hj | ⟨j, -, hj, hs⟩ | ⟨c, t, -, hseek, ht⟩
      · obtain ⟨a', ha, step, stint⟩ := stint?_of_step hj hm hg
        cases ha
        obtain ⟨later, earlier, rfl, among⟩ := ih hj
        refine ⟨_ :: later, earlier, rfl, ?_⟩
        rw [List.filterMap_cons_some stint]
        exact among.goesOn (fits_of_adding hr hj _ _) step
      · cases Job.goesOn hs with
        | @adding a₀ _ ha =>
          obtain ⟨a', rfl', step, stint⟩ := stint?_of_step hj hm hg
          cases rfl'
          obtain ⟨later, earlier, rfl, among⟩ := ih hj
          refine ⟨_ :: later, earlier, rfl, ?_⟩
          rw [List.filterMap_cons_some stint, Adding.waiter_step step]
          exact among.goesOn (fits_of_adding hr hj _ _) step
      · cases t with
        | add waiter =>
          cases ht
          exact ⟨[], _, rfl, .starts rfl⟩
        | restore | close | maintain => cases ht
    · rcases job_origin hr.keyed hm hg with hj | ⟨j, hv', -⟩ | ⟨c, t, hv', -⟩
      · obtain ⟨later, earlier, rfl, among⟩ := ih hj
        refine ⟨_ :: later, earlier, rfl, ?_⟩
        rw [List.filterMap_cons_none (stint?_of_other hv)]
        exact among
      · exact absurd hv' hv
      · exact absurd hv' hv

/-- **Members are added with rests between the attempts.** Each worker that adds one makes its steps
among those of others. If it has come to its end, it went a course from its first attempt on, with
the account that belongs to it. Told to stop while it may have to wait, it gives up the room and
delivers nothing. It waits for nothing but the session that it opens, or for the end of its rest. -/
theorem adds_with_rests (h : Course past env s)
    (finite : s.pool.settings.maxRetryDelay ≤ .longest) :
    (∀ k a, Table.get? s.jobs k = some (.adding a) → ∃ later earlier, past = later ++ earlier ∧
      Adding.Among s.pool.settings a.waiter (later.filterMap (Moment.stint? k)) (.more a) ∧
      ∀ x, a.step env s.pool = some x → Adding.Among s.pool.settings a.waiter
        (⟨env, s.pool, x.1, x.2.1⟩ :: later.filterMap (Moment.stint? k)) x.2.2) ∧
    (∀ waiter stints, Adding.Among s.pool.settings waiter stints (.done ()) →
      ∃ errors ending,
        Adding.Goes s.pool.settings waiter 1 .fresh errors ending stints.reverse ∧
        Adding.Account s.pool.settings waiter 1 errors ending stints.reverse) ∧
    (∀ a t stints, Adding.Runs s.pool.settings a (t :: stints) → a.IsSuspended →
      t.pool.crew.stopped = true → Adding.StopsAnd a.waiter t stints) ∧
    ∀ (a : Adding) env p, a.step env p = none → p.crew.stopped = false ∧
      ((∃ o, a.phase = .opening o ∧ o.step env p = none) ∨
        ∃ timer, a.phase = .resting timer ∧ env.now < timer.due) := by
  refine ⟨fun k a hg => ?_, fun waiter stints among => among.goes h.reachable.valid finite,
    fun a t stints run hs stopped => Adding.runs_of_stopped run hs stopped,
    fun a env p none => Adding.waits none⟩
  obtain ⟨later, earlier, hp, among⟩ := h.adds hg
  exact ⟨later, earlier, hp, among, fun x hx =>
    among.goesOn (fits_of_adding h.reachable hg x.1 x.2.1) hx⟩

def twoAttempts : PoolSettings :=
  { smallPool with attempts := 2, retryDelay := .ofMillis 10, maxRetryDelay := .ofMillis 15 }

def refusingAt (ms : Nat) : Env := { now := .ofTick ms, server := { refuseAll := true } }

/-- A worker makes two attempts in vain, and is about to give up the room. -/
def inVain : List Move :=
  .pass (refusingAt 0) :: List.replicate 3 (.step (.worker 0)) ++
    .pass (refusingAt 10) :: List.replicate 3 (.step (.worker 0))

/-- With its next step the job gives up the room after two attempts. -/
def givesUpAfterTwo : Job → Bool
  | .adding { attempt := 2, phase := .releasing (.connect _), .. } => true
  | _ => false

theorem adds_with_rests_inVain :
    ∃ past env s a later x errors ending, Course past env s ∧
      s.pool.settings.maxRetryDelay ≤ .longest ∧ Table.get? s.jobs 0 = some (.adding a) ∧
      a.attempt = 2 ∧ a.step env s.pool = some x ∧ x.2.2 = .done () ∧
      Adding.Goes s.pool.settings a.waiter 1 .fresh errors ending
        (⟨env, s.pool, x.1, x.2.1⟩ :: later).reverse ∧
      Adding.Account s.pool.settings a.waiter 1 errors ending
        (⟨env, s.pool, x.1, x.2.1⟩ :: later).reverse := by
  obtain ⟨past, ⟨env, s⟩, hp, -, course⟩ := Course.of_replay twoAttempts inVain
    (fun x => decide (x.2.pool.settings.maxRetryDelay ≤ .longest) &&
      (Table.get? x.2.jobs 0).any givesUpAfterTwo) (by decide +kernel)
  obtain ⟨finite, hp⟩ := Bool.and_eq_true_iff.1 hp
  obtain ⟨j, hj, hg⟩ := (Option.any_eq_true _ _).1 hp
  obtain ⟨waiter, delay, e, rfl⟩ :
      ∃ waiter delay e, j = .adding ⟨waiter, 2, delay, .releasing (.connect e)⟩ := by
    unfold givesUpAfterTwo at hg
    split at hg
    · exact ⟨_, _, _, rfl⟩
    · cases hg
  obtain ⟨adds, ended, -⟩ := adds_with_rests course (of_decide_eq_true finite)
  obtain ⟨later, earlier, -, -, next⟩ := adds 0 _ hj
  obtain ⟨errors, ending, goes, account⟩ := ended _ _ (next _ rfl)
  exact ⟨past, env, s, _, _, _, errors, ending, course, of_decide_eq_true finite, hj, rfl, rfl, rfl,
    goes, account⟩

end Site

end SessionPool
