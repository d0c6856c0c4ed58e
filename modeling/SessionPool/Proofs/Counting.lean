import SessionPool.Proofs.Course
import SessionPool.Proofs.Creator

/-!
# Counting

What a pool counts of requests and of the sessions that are opened is how often it has happened
since the pool was opened, as long as the counters are not set back (`Site.Course.counted`). What
happened is read off the course: which request came, and what its step led to; who went on with
opening a session, and what came of it.

A session that was opened, or an attempt that failed, is counted a step after its opening came to
its end, when whoever wanted the session goes on with the outcome (`Creator`); nobody can be stopped
in between.
-/

set_option autoImplicit false

namespace SessionPool

namespace Site

variable {env env' : Env} {s s' : Site} {past : List Moment} {mv : Move}

/-- Whoever is about to open sessions, or to go on with what came of it. -/
def creators (s : Site) : Multiset Creator :=
  Table.total (fun j => Creator.group j.creator?) s.jobs +
    Table.total (fun o => Creator.group o.creator?) s.operations

/-! ## What happens at a moment -/

namespace Moment

def creator? (x : Moment) : Option Creator :=
  match x.move with
  | .step (.worker k) => (Table.get? x.site.jobs k).bind Job.creator?
  | .step (.user n) => (Table.get? x.site.operations n).bind Operation.creator?
  | _ => none

def request? (x : Moment) : Option Acquiring :=
  match x.creator? with
  | some (.request a) => some a
  | some (.worker _) | none => none

def next? (x : Moment) : Option (Next Acquiring Acquired) :=
  x.request?.bind fun a => (a.step x.env x.site.pool).map fun s => s.2.2

/-- What comes of an attempt to open a session that comes to its end. -/
def attempted? (x : Moment) : Option Opened := x.creator?.bind (·.attempted? x.env x.site.pool)

/-- Somebody asks for a session and does not wait for it. -/
def tries (x : Moment) : Bool :=
  match x.move with
  | .tryAcquire => true
  | _ => false

/-- Somebody asks for a session, whether or not it is to wait for it. -/
def asks (x : Moment) : Bool := x.tries || x.request?.any (!·.hasArrived)

def admits (x : Moment) : Bool := x.asks && !x.site.pool.closed

def queues (x : Moment) : Bool := x.next?.any (·.queues)

/-- A request fails, and not because the pool is closed. -/
def fails (x : Moment) : Bool := x.next?.any (·.fails)

/-- The opening of a session comes to its end with a session. -/
def opens (x : Moment) : Bool := x.attempted?.any (·.isOk)

/-- The opening of a session comes to its end without one. -/
def failsToOpen (x : Moment) : Bool := x.attempted?.any (!·.isOk)

def takesOver (x : Moment) : Bool := x.creator?.any (·.isTakingOver)

/-- Whoever has failed to open a session goes on with that. -/
def takesNote (x : Moment) : Bool := x.creator?.any (·.isTakingNote)

end Moment

/-! ## What a move has to do with whoever opens sessions -/

section

variable {q : Pool} {k n : Nat} {j : Job} {o : Operation}

theorem creators_putJob (hk : s.Keyed) (hg : Table.get? s.jobs k = some j) (j' : Job) :
    { s with pool := q, jobs := Table.put s.jobs k j' }.creators + Creator.group j.creator? =
      s.creators + Creator.group j'.creator? := by
  simp only [creators, Table.total_put, Table.total_of_get? _ hk.jobs hg]
  abel

theorem creators_removeJob (hk : s.Keyed) (hg : Table.get? s.jobs k = some j) :
    { s with pool := q, jobs := Table.remove s.jobs k }.creators + Creator.group j.creator? =
      s.creators + Creator.group none := by
  simp only [creators, Table.total_of_get? _ hk.jobs hg, Creator.group_none]
  abel

theorem creators_takeJob (hg : Table.get? s.jobs k = none) :
    { s with pool := q, jobs := Table.put s.jobs k j }.creators + Creator.group none =
      s.creators + Creator.group j.creator? := by
  simp only [creators, Table.total_put_of_none _ hg, Creator.group_none]
  abel

theorem creators_updateOperation (hk : s.Keyed) (hg : Table.get? s.operations n = some o)
    (o' : Operation) :
    { s with pool := q, operations := Table.update s.operations n o' }.creators +
      Creator.group o.creator? = s.creators + Creator.group o'.creator? := by
  simp only [creators, Table.total_update _ hk.operations hg,
    Table.total_of_get? _ hk.operations hg]
  abel

theorem creators_removeOperation (hk : s.Keyed) (hg : Table.get? s.operations n = some o) :
    { s with pool := q, operations := Table.remove s.operations n }.creators +
      Creator.group o.creator? = s.creators + Creator.group none := by
  simp only [creators, Table.total_of_get? _ hk.operations hg, Creator.group_none]
  abel

theorem creators_start :
    (s.start n o).creators + Creator.group none = s.creators + Creator.group o.creator? := by
  simp only [creators, start, Table.total_append, Table.total_cons, Table.total_nil,
    Creator.group_none]
  abel

end

/-- What a move has to do with whoever opens sessions, and with the tally. -/
inductive Moment.Does (x : Moment) (s' : Site) : Prop
  | request {a : Acquiring} {step : Stepped Acquiring Acquired}
      (hc : x.creator? = some (.request a)) (hs : a.step x.env x.site.pool = some step)
      (tally : s'.pool.tally = step.2.1.tally)
      (creators : s'.creators + Creator.group (some (.request a)) =
        x.site.creators + Creator.group (step.2.2.process?.map .request))
  | worker {a : Adding} {step : Stepped Adding Unit}
      (hc : x.creator? = some (.worker a)) (hs : a.step x.env x.site.pool = some step)
      (tally : s'.pool.tally = step.2.1.tally)
      (creators : s'.creators + Creator.group (some (.worker a)) =
        x.site.creators + Creator.group (step.2.2.process?.map .worker))
  /-- Somebody asks for a session and does not wait for it. -/
  | tries (hm : x.tries = true)
      (tally : s'.pool.tally = (x.site.pool.tryTake x.env.now).1.tally)
      (creators : s'.creators + Creator.group none = x.site.creators + Creator.group none)
  /-- Somebody may begin with it or be given up. -/
  | aside {came gone : Option Creator} (hc : x.creator? = none) (hm : x.tries = false)
      (tally : s'.pool.tally = x.site.pool.tally)
      (creators : s'.creators + Creator.group gone = x.site.creators + Creator.group came)
      (hcame : came.all (·.isNew) = true) (hgone : gone.all (·.isGivenUp) = true)

namespace Moment.Does

theorem of_eq {x : Moment} (hc : x.creator? = none) (hm : x.tries = false)
    (tally : s'.pool.tally = x.site.pool.tally)
    (creators : s'.creators + Creator.group none = x.site.creators + Creator.group none) :
    x.Does s' :=
  .aside hc hm tally creators rfl rfl

theorem of_job {k : Nat} {j : Job} {step : Stepped Job Unit} (hg : Table.get? s.jobs k = some j)
    (hs : j.step env s.pool = some step) (tally : s'.pool.tally = step.2.1.tally)
    (creators : s'.creators + Creator.group j.creator? =
      s.creators + Creator.group (step.2.2.process?.bind Job.creator?)) :
    Does ⟨env, s, .step (.worker k)⟩ s' := by
  have hc : Moment.creator? ⟨env, s, .step (.worker k)⟩ = j.creator? := by
    simp only [Moment.creator?, hg, Option.bind_some]
  have rest (hj : ∀ a, j ≠ .adding a) (hn : j.creator? = none)
      (hn' : step.2.2.process?.bind Job.creator? = none) :
      Does ⟨env, s, .step (.worker k)⟩ s' := by
    rw [hn, hn'] at creators
    exact of_eq (hc.trans hn) rfl (tally.trans (Job.tally_step hj hs)) creators
  cases j with
  | adding a =>
    obtain ⟨⟨env', q, next⟩, ha, rfl⟩ := Option.map_eq_some_iff.1 hs
    refine .worker hc ha tally ?_
    cases next <;> exact creators
  | returning r =>
    obtain ⟨⟨env', q, next⟩, -, rfl⟩ := Option.map_eq_some_iff.1 hs
    refine rest (fun _ h => by cases h) rfl ?_
    cases next <;> rfl
  | closing | maintaining =>
    cases hs
    exact rest (fun _ h => by cases h) rfl rfl

theorem of_operation {n : Nat} {o : Operation} {step : Stepped Operation Outcome}
    (hg : Table.get? s.operations n = some o) (hs : o.step env s.pool = some step)
    (tally : s'.pool.tally = step.2.1.tally)
    (creators : s'.creators + Creator.group o.creator? =
      s.creators + Creator.group (step.2.2.process?.bind Operation.creator?)) :
    Does ⟨env, s, .step (.user n)⟩ s' := by
  have hc : Moment.creator? ⟨env, s, .step (.user n)⟩ = o.creator? := by
    simp only [Moment.creator?, hg, Option.bind_some]
  have rest (ho : ∀ a, o ≠ .acquire a) (hn : o.creator? = none)
      (hn' : step.2.2.process?.bind Operation.creator? = none) :
      Does ⟨env, s, .step (.user n)⟩ s' := by
    rw [hn, hn'] at creators
    exact of_eq (hc.trans hn) rfl (tally.trans (Operation.tally_step ho hs)) creators
  cases o with
  | acquire a =>
    obtain ⟨⟨env', q, next⟩, ha, rfl⟩ := Option.map_eq_some_iff.1 hs
    refine .request hc ha tally ?_
    cases next <;> exact creators
  | misplace m =>
    cases hs
    exact rest (fun _ h => by cases h) rfl rfl
  | release | wait | check | close =>
    obtain ⟨⟨env', q, next⟩, -, rfl⟩ := Option.map_eq_some_iff.1 hs
    refine rest (fun _ h => by cases h) rfl ?_
    cases next <;> rfl

end Moment.Does

/-- **What a move has to do with whoever opens sessions.** -/
theorem moment_does (hk : s.Keyed) (hm : s.move? env mv = some (env', s'))
    (hr : mv ≠ .resetCounters) : Moment.Does ⟨env, s, mv⟩ s' := by
  cases moved hm with
  | worked hg hs => exact .of_job hg hs rfl (creators_putJob hk hg _)
  | finished hg hs => exact .of_job hg hs rfl (creators_removeJob hk hg)
  | wentOn hg hs => exact .of_operation hg hs rfl (creators_updateOperation hk hg _)
  | @ended n o _ q _ hg hs =>
    exact .of_operation hg hs rfl (creators_removeOperation (s := s) (q := q) hk hg)
  | sought hg hs =>
    exact .of_eq (by simp only [Moment.creator?, hg, Option.bind_none]) rfl rfl rfl
  | @took k c t hg hs =>
    have hc : Moment.creator? ⟨env, s, .step (.worker k)⟩ = none := by
      simp only [Moment.creator?, hg, Option.bind_none]
    refine .aside hc rfl rfl (creators_takeJob hg) ?_ rfl
    cases t <;> rfl
  | @cancelled n o hg hs =>
    refine .aside rfl rfl o.tally_cancel (creators_removeOperation hk hg) rfl ?_
    cases o with
    | acquire a => cases a <;> first | rfl | cases hs
    | release | misplace | wait | check | close => rfl
  | taken ht => exact .tries rfl (congrArg (·.1.tally) ht.symm) rfl
  | untaken ht => exact .tries rfl (congrArg (·.1.tally) ht.symm) rfl
  | acquire hn => exact .aside rfl rfl rfl creators_start rfl rfl
  | wait hn | check hn | close hn => exact .of_eq rfl rfl rfl creators_start
  | release hm hn | misplace hm hn =>
    exact .of_eq rfl rfl rfl (creators_start (s := s.letGo _))
  | resized h => exact .of_eq rfl rfl (Pool.tally_resize h) rfl
  | resetCounters => exact absurd rfl hr
  | unheld hv => rcases hv with rfl | rfl | rfl <;> exact .of_eq rfl rfl rfl rfl
  | giveBack => exact .of_eq rfl rfl Pool.tally_returnLater rfl
  | detach => exact .of_eq rfl rfl Pool.tally_forget rfl
  | leaveBehind | abandoned | ticked | closed | use | unsized | readOutcome | passed =>
    exact .of_eq rfl rfl rfl rfl

/-! ## What a move adds to the counters -/

namespace Moment

variable {x : Moment}

/-- What is counted with a move is what happens with it. -/
def Counts (x : Moment) (s' : Site) : Prop :=
  x.site.pool.counters.Gains s'.pool.counters x.admits x.queues x.fails x.takesOver x.takesNote

/-- What becomes of those who open sessions with a move. -/
structure Leads (x : Moment) (s' : Site) : Prop where
  takingOver : s'.creators.countP (·.isTakingOver) + x.takesOver.toNat =
    x.site.creators.countP (·.isTakingOver) + x.opens.toNat
  takingNote : s'.creators.countP (·.isTakingNote) + x.takesNote.toNat =
    x.site.creators.countP (·.isTakingNote) + x.failsToOpen.toNat
  admitted : s'.creators.countP (·.isAdmitted) + x.fails.toNat ≤
    x.site.creators.countP (·.isAdmitted) + x.admits.toNat
  excused : ∀ c ∈ s'.creators, c.isExcused = true

theorem creator?_of_tries (ht : x.tries = true) : x.creator? = none := by
  unfold tries at ht
  split at ht
  · rename_i hm
    rw [creator?, hm]
  · cases ht

theorem tries_of_creator? {c : Creator} (hc : x.creator? = some c) : x.tries = false := by
  cases ht : x.tries with
  | false => rfl
  | true =>
    rw [creator?_of_tries ht] at hc
    cases hc

/-- What happens when nobody goes on with opening sessions. -/
structure IsQuiet (x : Moment) : Prop where
  queues : x.queues = false
  fails : x.fails = false
  opens : x.opens = false
  failsToOpen : x.failsToOpen = false
  takesOver : x.takesOver = false
  takesNote : x.takesNote = false

theorem quiet (hc : x.creator? = none) : x.IsQuiet := by
  have hr : x.request? = none := by simp only [request?, hc]
  constructor <;>
    simp [queues, fails, opens, failsToOpen, takesOver, takesNote, next?, attempted?, hr, hc]

/-- What becomes of those who open sessions, from who comes to it and who goes. -/
theorem Leads.of_balance {came gone : Option Creator}
    (balance : s'.creators + Creator.group gone = x.site.creators + Creator.group came)
    (takesOver : x.takesOver = gone.any (·.isTakingOver))
    (takesNote : x.takesNote = gone.any (·.isTakingNote))
    (opens : x.opens = came.any (·.isTakingOver))
    (failsToOpen : x.failsToOpen = came.any (·.isTakingNote))
    (admitted : (came.any (·.isAdmitted)).toNat + x.fails.toNat ≤
      (gone.any (·.isAdmitted)).toNat + x.admits.toNat)
    (before : ∀ c ∈ x.site.creators, c.isExcused = true)
    (new : came.all (·.isExcused) = true) : x.Leads s' := by
  have count (b : Creator → Bool) : s'.creators.countP (b ·) + (gone.any b).toNat =
      x.site.creators.countP (b ·) + (came.any b).toNat := by
    have h := congrArg (Multiset.countP (b ·)) balance
    rwa [Multiset.countP_add, Multiset.countP_add, Creator.countP_group, Creator.countP_group] at h
  refine ⟨takesOver ▸ opens ▸ count _, takesNote ▸ failsToOpen ▸ count _, ?_, ?_⟩
  · have := count (·.isAdmitted)
    omega
  · intro c hc
    have hc : c ∈ x.site.creators + Creator.group came :=
      balance ▸ Multiset.mem_add.2 (.inl hc)
    rcases Multiset.mem_add.1 hc with hc | hc
    · exact before c hc
    · cases came with
      | none => cases hc
      | some c' =>
        obtain rfl := Multiset.mem_singleton.1 hc
        exact new

structure IsStep (x : Moment) (a : Acquiring) (next : Next Acquiring Acquired) : Prop where
  admits : x.admits = (!a.hasArrived && !x.site.pool.closed)
  queues : x.queues = next.queues
  fails : x.fails = a.isFailing
  opens : x.opens = next.process?.any (·.isTakingOver)
  failsToOpen : x.failsToOpen = next.process?.any (·.isTakingNote)
  takesOver : x.takesOver = a.isTakingOver
  takesNote : x.takesNote = a.isTakingNote

theorem isStep {a : Acquiring} {step : Stepped Acquiring Acquired}
    (hc : x.creator? = some (.request a)) (hs : a.step x.env x.site.pool = some step)
    (he : a.isExcused = true) : x.IsStep a step.2.2 := by
  have waits := tries_of_creator? hc
  have request : x.request? = some a := by simp only [request?, hc]
  have next : x.next? = some step.2.2 := by
    simp only [next?, request, hs, Option.bind_some, Option.map_some]
  have attempted : x.attempted? = a.attempted? x.env x.site.pool := by
    rw [attempted?, hc, Option.bind_some, Creator.attempted?]
  have goes := Acquiring.proceeds hs
  exact {
    admits := by rw [admits, asks, waits, request, Option.any_some, Bool.false_or]
    queues := by rw [queues, next, Option.any_some]
    fails := by rw [fails, next, Option.any_some, goes.fails he]
    opens := by rw [opens, attempted, goes.takingOver]
    failsToOpen := by rw [failsToOpen, attempted, goes.takingNote]
    takesOver := by rw [takesOver, hc, Option.any_some, Creator.isTakingOver]
    takesNote := by rw [takesNote, hc, Option.any_some, Creator.isTakingNote] }

structure IsWork (x : Moment) (a : Adding) (next : Next Adding Unit) : Prop where
  admits : x.admits = false
  queues : x.queues = false
  fails : x.fails = false
  opens : x.opens = next.process?.any (·.isTakingOver)
  failsToOpen : x.failsToOpen = next.process?.any (·.isTakingNote)
  takesOver : x.takesOver = a.isTakingOver
  takesNote : x.takesNote = a.isTakingNote

theorem isWork {a : Adding} {step : Stepped Adding Unit} (hc : x.creator? = some (.worker a))
    (hs : a.step x.env x.site.pool = some step) : x.IsWork a step.2.2 := by
  have waits := tries_of_creator? hc
  have request : x.request? = none := by simp only [request?, hc]
  have next : x.next? = none := by simp only [next?, request, Option.bind_none]
  have attempted : x.attempted? = a.attempted? x.env x.site.pool := by
    rw [attempted?, hc, Option.bind_some, Creator.attempted?]
  have goes := Adding.proceeds hs
  exact {
    admits := by rw [admits, asks, waits, request]; rfl
    queues := by rw [queues, next]; rfl
    fails := by rw [fails, next]; rfl
    opens := by rw [opens, attempted, goes.takingOver]
    failsToOpen := by rw [failsToOpen, attempted, goes.takingNote]
    takesOver := by rw [takesOver, hc, Option.any_some, Creator.isTakingOver]
    takesNote := by rw [takesNote, hc, Option.any_some, Creator.isTakingNote] }

namespace Does

/-- **What is counted with a move is what happens with it.** -/
theorem counts (h : x.Does s') (he : ∀ c ∈ x.creator?, c.isExcused = true) :
    x.Counts s' := by
  refine Counters.Gains.of_tally ?_
  change x.site.pool.tally.Gains s'.pool.tally _ _ _ _ _
  cases h with
  | request hc hs tally creators =>
    have what := isStep hc hs (he _ hc)
    rw [tally, what.admits, what.queues, what.fails, what.takesOver, what.takesNote]
    exact Acquiring.gains hs
  | worker hc hs tally creators =>
    have what := isWork hc hs
    rw [tally, what.admits, what.queues, what.fails, what.takesOver, what.takesNote]
    exact Adding.gains hs
  | tries hm tally creators =>
    have quiet := quiet (creator?_of_tries hm)
    rw [tally, admits, asks, hm, Bool.true_or, Bool.true_and, quiet.queues, quiet.fails,
      quiet.takesOver, quiet.takesNote]
    exact x.site.pool.gains_tryTake x.env.now
  | aside hc hm tally creators hcame hgone =>
    have quiet := quiet hc
    have admits : x.admits = false := by
      have request : x.request? = none := by simp only [request?, hc]
      rw [admits, asks, hm, request]
      rfl
    rw [tally, admits, quiet.queues, quiet.fails, quiet.takesOver, quiet.takesNote]
    exact .nothing

theorem whole (h : x.Does s') (hw : x.site.pool.counters.connectTime.IsWhole) :
    s'.pool.counters.connectTime.IsWhole := by
  change s'.pool.tally.connectTime.IsWhole
  cases h with
  | request hc hs tally creators =>
    rw [tally]
    exact (Acquiring.gains hs).whole hw
  | worker hc hs tally creators =>
    rw [tally]
    exact (Adding.gains hs).whole hw
  | tries hm tally creators =>
    rw [tally]
    exact (x.site.pool.gains_tryTake x.env.now).whole hw
  | aside hc hm tally creators hcame hgone =>
    rw [tally]
    exact hw

/-- **What becomes of those who open sessions.** -/
theorem leads (h : x.Does s') (he : ∀ c ∈ x.creator?, c.isExcused = true)
    (hs : ∀ c ∈ x.site.creators, c.isExcused = true) : x.Leads s' := by
  cases h with
  | @request a step hc hstep tally creators =>
    have what := isStep hc hstep (he _ hc)
    have goes := Acquiring.proceeds hstep
    refine Leads.of_balance creators what.takesOver what.takesNote ?_ ?_ ?_ hs ?_
    · rw [what.opens, Option.any_map]
      rfl
    · rw [what.failsToOpen, Option.any_map]
      rfl
    · rw [what.fails, what.admits, Option.any_map]
      exact goes.admitted (he _ hc)
    · rw [Option.all_map]
      exact goes.excused (he _ hc)
  | @worker a step hc hstep tally creators =>
    have what := isWork hc hstep
    refine Leads.of_balance creators what.takesOver what.takesNote ?_ ?_ ?_ hs ?_
    · rw [what.opens, Option.any_map]
      rfl
    · rw [what.failsToOpen, Option.any_map]
      rfl
    · rw [what.fails, what.admits, Option.any_map]
      cases step.2.2.process? <;> exact le_rfl
    · rw [Option.all_map]
      cases step.2.2.process? <;> rfl
  | tries hm tally creators =>
    have quiet := quiet (creator?_of_tries hm)
    exact .of_balance creators quiet.takesOver quiet.takesNote quiet.opens quiet.failsToOpen
      (by simp [quiet.fails]) hs rfl
  | aside hc hm tally creators hcame hgone =>
    have quiet := quiet hc
    obtain ⟨opened, unopened, admitted, excused⟩ := Creator.of_isNew hcame
    obtain ⟨opened', unopened'⟩ := Creator.of_isGivenUp hgone
    refine .of_balance creators ?_ ?_ ?_ ?_ ?_ hs excused
    · rw [quiet.takesOver, opened']
    · rw [quiet.takesNote, unopened']
    · rw [quiet.opens, opened]
    · rw [quiet.failsToOpen, unopened]
    · rw [quiet.fails, admitted]
      exact Nat.zero_le _

end Does

end Moment

/-! ## Courses -/

theorem tally_create {settings : PoolSettings} {options : ConnectOptions} {hooks : Hooks}
    (h : create env settings options hooks = (env', .ok s)) : s.pool.tally = {} := by
  have filled (p : Pool) : (fill p).tally = p.tally := by
    unfold fill
    split
    · rw [Pool.tally_topUp]
      split <;> rfl
    · exact Pool.tally_dispatchAdd none
  unfold create at h
  split at h
  · cases h
  · cases h
  · cases h
    exact filled _

theorem mem_creators (hk : s.Keyed) {c : Creator} (hc : Moment.creator? ⟨env, s, mv⟩ = some c) :
    c ∈ s.creators := by
  have part {rest : Multiset Creator} {c' : Option Creator} (hc : c' = some c)
      (h : rest + Creator.group c' = s.creators + Creator.group none) : c ∈ s.creators := by
    rw [Creator.group_none, add_zero, hc] at h
    exact h ▸ Multiset.mem_add.2 (.inr (Multiset.mem_singleton_self c))
  unfold Moment.creator? at hc
  split at hc
  · obtain ⟨j, hg, hj⟩ := Option.bind_eq_some_iff.1 hc
    exact part hj (creators_removeJob (q := s.pool) hk hg)
  · obtain ⟨o, hg, ho⟩ := Option.bind_eq_some_iff.1 hc
    exact part ho (creators_removeOperation (q := s.pool) hk hg)
  · cases hc

theorem countP_cons (f : Moment → Bool) (x : Moment) (past : List Moment) :
    (x :: past).countP f = past.countP f + (f x).toNat := by
  rw [List.countP_cons]
  cases f x <;> rfl

/-- What is counted is what has happened. Those who have opened a session, or failed to, and have
not gone on yet are still to be counted. -/
structure Counted (past : List Moment) (s : Site) : Prop where
  requestsNum : s.pool.counters.requestsNum = past.countP Moment.admits
  requestsQueued : s.pool.counters.requestsQueued = past.countP Moment.queues
  requestsErrors : s.pool.counters.requestsErrors = past.countP Moment.fails
  errors_le : s.pool.counters.requestsErrors ≤ s.pool.counters.requestsNum
  connectionsNum : s.pool.counters.connectionsNum = past.countP Moment.takesOver
  total : s.pool.counters.connectTime.total = s.pool.counters.connectionsNum
  connectionsErrors : s.pool.counters.connectionsErrors = past.countP Moment.takesNote
  opens : past.countP Moment.opens =
    s.pool.counters.connectionsNum + s.creators.countP (·.isTakingOver)
  failsToOpen : past.countP Moment.failsToOpen =
    s.pool.counters.connectionsErrors + s.creators.countP (·.isTakingNote)

/-- What is counted, with what the next move needs. -/
structure Tallied (past : List Moment) (s : Site) : Prop extends Counted past s where
  whole : s.pool.counters.connectTime.IsWhole
  excused : ∀ c ∈ s.creators, c.isExcused = true
  /-- A request that is let in may still fail as long as it has not come to its end. -/
  admitted : past.countP Moment.fails + s.creators.countP (·.isAdmitted) ≤
    past.countP Moment.admits

theorem Tallied.create {settings : PoolSettings} {options : ConnectOptions} {hooks : Hooks}
    (h : create env settings options hooks = (env', .ok s)) : Tallied [] s := by
  have creators : s.creators = 0 := by
    obtain ⟨p, -, -, -, -, -, -, rfl⟩ := create_ok h
    rfl
  have count (b : Creator → Bool) : s.creators.countP (b ·) = 0 := by rw [creators]; rfl
  have tally := tally_create h
  have zero {α : Type} (f : Counters → α) : f s.pool.tally = f {} := congrArg f tally
  exact {
    requestsNum := zero (·.requestsNum)
    requestsQueued := zero (·.requestsQueued)
    requestsErrors := zero (·.requestsErrors)
    errors_le := (zero (·.requestsErrors)).le.trans (Nat.zero_le _)
    connectionsNum := zero (·.connectionsNum)
    total := (zero (·.connectTime.total)).trans (zero (·.connectionsNum)).symm
    connectionsErrors := zero (·.connectionsErrors)
    opens := by
      rw [count]
      exact (zero (·.connectionsNum)).symm
    failsToOpen := by
      rw [count]
      exact (zero (·.connectionsErrors)).symm
    whole := by
      have := zero (·.connectTime)
      exact this ▸ Histogram.isWhole_empty
    excused := fun c hc => by
      rw [creators] at hc
      cases hc
    admitted := by
      rw [count]
      exact le_rfl }

/-- In every state the histogram has all its buckets. -/
theorem Reachable.whole (h : Reachable env s) : s.pool.counters.connectTime.IsWhole := by
  induction h with
  | created h => exact (Tallied.create h).whole
  | @moved env env' s s' mv hr hm ih =>
    by_cases h : mv = .resetCounters
    · subst h
      cases hm
      exact Histogram.isWhole_empty
    · exact (moment_does hr.keyed hm h).whole ih

theorem Tallied.move {x : Moment} (h : Tallied past x.site) (hk : x.site.Keyed)
    (hm : x.site.move? x.env x.move = some (env', s')) (hr : x.move ≠ .resetCounters) :
    Tallied (x :: past) s' := by
  have does : x.Does s' := moment_does hk hm hr
  have who : ∀ c ∈ x.creator?, c.isExcused = true := fun c hc => h.excused c (mem_creators hk hc)
  have gains : x.Counts s' := does.counts who
  have leads := does.leads who h.excused
  have admitted := leads.admitted
  have takingOver := leads.takingOver
  have takingNote := leads.takingNote
  exact {
    requestsNum := by rw [gains.requestsNum, h.requestsNum, countP_cons]
    requestsQueued := by rw [gains.requestsQueued, h.requestsQueued, countP_cons]
    requestsErrors := by rw [gains.requestsErrors, h.requestsErrors, countP_cons]
    errors_le := by
      rw [gains.requestsErrors, gains.requestsNum, h.requestsErrors, h.requestsNum]
      have := h.admitted
      omega
    connectionsNum := by rw [gains.connectionsNum, h.connectionsNum, countP_cons]
    total := by rw [gains.total h.whole, h.total, gains.connectionsNum]
    connectionsErrors := by rw [gains.connectionsErrors, h.connectionsErrors, countP_cons]
    opens := by
      rw [countP_cons, h.opens, gains.connectionsNum]
      omega
    failsToOpen := by
      rw [countP_cons, h.failsToOpen, gains.connectionsErrors]
      omega
    whole := gains.whole h.whole
    excused := leads.excused
    admitted := by
      rw [countP_cons, countP_cons]
      have := h.admitted
      omega }

theorem Course.tallied (h : Course past env s) (hr : ∀ x ∈ past, x.move ≠ .resetCounters) :
    Tallied past s := by
  induction h with
  | created h => exact .create h
  | moved h hm ih =>
    obtain ⟨now, before⟩ := List.forall_mem_cons.1 hr
    exact (ih before).move h.reachable.keyed hm now

/-- **The counters count exactly** what has happened since the pool was opened, in whatever order
and whoever was given up, as long as they are not set back. -/
theorem Course.counted (h : Course past env s) (hr : ∀ x ∈ past, x.move ≠ .resetCounters) :
    Counted past s :=
  (h.tallied hr).toCounted

/-- A small pool at which one request may wait. -/
def oneWaits : PoolSettings := { smallPool with maxWaiting := 1 }

/-- One asks in vain, one gets in line, and one finds the line full, while a session is opened. -/
def threeAsk : List Move :=
  [.tryAcquire, .acquire 0 (.ofSecs 30), .step (.user 0), .acquire 1 (.ofSecs 30), .step (.user 1),
    .step (.user 1), .step (.worker 0), .step (.worker 0)]

/-- Three have asked, one of them has failed, and a session has been opened that is still to be
counted. -/
theorem Course.counted_three : ∃ past env s, Course past env s ∧
    past.map Moment.move = threeAsk.reverse ∧ Counted past s ∧
    past.countP Moment.admits = 3 ∧ past.countP Moment.queues = 1 ∧
    past.countP Moment.fails = 1 ∧ past.countP Moment.takesOver = 0 ∧
    past.countP Moment.opens = 1 := by
  obtain ⟨past, x, hp, moves, course⟩ := Course.of_replay oneWaits threeAsk
    (fun x => x.2.pool.counters.requestsNum = 3 ∧ x.2.pool.counters.requestsQueued = 1 ∧
      x.2.pool.counters.requestsErrors = 1 ∧ x.2.pool.counters.connectionsNum = 0 ∧
      x.2.creators.countP (·.isTakingOver) = 1) (by decide +kernel)
  obtain ⟨num, queued, errors, opened, ready⟩ := of_decide_eq_true hp
  have counted := course.counted fun x hx => by
    have hm : x.move ∈ threeAsk.reverse := moves ▸ List.mem_map_of_mem hx
    intro hr
    rw [hr] at hm
    simp [threeAsk] at hm
  refine ⟨past, x.1, x.2, course, moves, counted, counted.requestsNum ▸ num,
    counted.requestsQueued ▸ queued, counted.requestsErrors ▸ errors,
    counted.connectionsNum ▸ opened, ?_⟩
  rw [counted.opens, opened, ready]

end Site

end SessionPool
