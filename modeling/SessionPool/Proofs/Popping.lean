import Mathlib.Data.Option.Basic
import SessionPool.Proofs.Counting
import SessionPool.Proofs.Credit

/-!
# Reading the statistics and setting them back

The statistics of a pool may be read, and they may be popped: read and the counters set back with
the same stroke. A run in which they are popped now and then is compared with the run in which they
are only read instead (`Site.Event.quiet`): everything else is the same, event by event, and nothing
that was counted is lost, since what was popped and what is left add up to what is counted when
nothing is popped (`Site.Reachable.pops_lose_nothing`). The reason is that a pool does the same
whatever it has counted before, so that what was popped can be had as a credit.
-/

set_option autoImplicit false

namespace SessionPool

/-! ## What the counters read -/

/-- What can be read off the counters. -/
inductive Reading
  | connectionsNum
  | connectionsMs
  | connectionsErrors
  | connectionsLost
  | requestsNum
  | requestsQueued
  | requestsWaitMs
  | requestsErrors
  | usageMs
  | returnsBad
  | connectTime (bucket : Nat)

namespace Reading

def of (c : Counters) : Reading → Nat
  | connectionsNum => c.connectionsNum
  | connectionsMs => c.connectionsMs
  | connectionsErrors => c.connectionsErrors
  | connectionsLost => c.connectionsLost
  | requestsNum => c.requestsNum
  | requestsQueued => c.requestsQueued
  | requestsWaitMs => c.requestsWaitMs
  | requestsErrors => c.requestsErrors
  | usageMs => c.usageMs
  | returnsBad => c.returnsBad
  | connectTime bucket => c.connectTime.count bucket

def total (cs : List Counters) (r : Reading) : Nat := cs.foldr (fun c n => r.of c + n) 0

theorem of_empty (r : Reading) : r.of {} = 0 := by
  cases r with
  | connectTime bucket => exact Histogram.count_empty bucket
  | connectionsNum | connectionsMs | connectionsErrors | connectionsLost | requestsNum
  | requestsQueued | requestsWaitMs | requestsErrors | usageMs | returnsBad => rfl

theorem of_add {a c : Counters} (ha : a.connectTime.IsWhole) (hc : c.connectTime.IsWhole)
    (r : Reading) : r.of (a + c) = r.of a + r.of c := by
  cases r with
  | connectTime bucket => exact ha.count_add hc bucket
  | connectionsNum | connectionsMs | connectionsErrors | connectionsLost | requestsNum
  | requestsQueued | requestsWaitMs | requestsErrors | usageMs | returnsBad => rfl

end Reading

namespace Counters

variable {c : Counters}

theorem add_empty (hc : c.connectTime.IsWhole) : c + {} = c :=
  congrArg (fun h => { c with connectTime := h }) hc.add_empty

theorem empty_add (hc : c.connectTime.IsWhole) : {} + c = c := by
  have plain : ({} + c : Counters) =
      ⟨0 + c.connectionsNum, 0 + c.connectionsMs, 0 + c.connectionsErrors, 0 + c.connectionsLost,
        0 + c.requestsNum, 0 + c.requestsQueued, 0 + c.requestsWaitMs, 0 + c.requestsErrors,
        0 + c.usageMs, 0 + c.returnsBad, {} + c.connectTime⟩ := rfl
  simp only [plain, Nat.zero_add, hc.empty_add]

end Counters

namespace Site

/-! ## Events -/

/-- What may happen to a pool. -/
inductive Event
  /-- A move that does not set the counters back. -/
  | move (mv : Move) (h : mv ≠ .resetCounters)
  /-- The statistics are read. -/
  | stats
  /-- The statistics are read, and the counters are set back. -/
  | popStats

def Event.quiet : Event → Event
  | move mv h => move mv h
  | stats | popStats => stats

/-- What is told at once. -/
inductive Notice
  | nothing
  | tried (result : Except PoolError (Option Member))
  | detached (session : Option Session)
  | resized (result : Except PoolError Unit)
  | stats (s : PoolStats)

/-- What is told at once about a move; the outcome of an operation is found with the pool. -/
def notice (env : Env) (s : Site) : Move → Notice
  | .tryAcquire => .tried (s.tryAcquire env).2.2
  | .detach id => .detached (s.detach env id).2.2
  | .resize minSize maxSize => .resized (s.resize env minSize maxSize).2.2
  | _ => .nothing

/-- What happened, what was told, and where it led to. -/
structure Seen where
  event : Event
  notice : Notice
  env : Env
  site : Site

/-- What comes of an event. There is nothing if it cannot happen. -/
def after? (env : Env) (s : Site) : Event → Option Seen
  | .move mv h => (s.move? env mv).map fun x => ⟨.move mv h, s.notice env mv, x.1, x.2⟩
  | .stats => some ⟨.stats, .stats (s.pool.stats env.now), env, s⟩
  | .popStats =>
    some ⟨.popStats, .stats (s.pool.stats env.now), env, { s with pool := s.pool.resetCounters }⟩

/-- What comes of events in a row. -/
def follow (env : Env) (s : Site) : List Event → Option (List Seen)
  | [] => some []
  | c :: rest => (s.after? env c).bind fun x => (follow x.env x.site rest).map (x :: ·)

def last (s : Site) (seen : List Seen) : Site := (seen.getLast?.map Seen.site).getD s

/-! ## The same but for the counters -/

def uncounted (s : Site) : Site := { s with pool := s.pool.resetCounters }

def Notice.uncounted : Notice → Notice
  | stats s => stats { s with counters := {} }
  | nothing => nothing
  | tried result => tried result
  | detached session => detached session
  | resized result => resized result

def Seen.popped? (x : Seen) : Option Counters :=
  match x.event, x.notice with
  | .popStats, .stats s => some s.counters
  | _, _ => none

/-- The same was seen, but for the counters, where nothing is popped. -/
structure Seen.Agrees (x y : Seen) : Prop where
  event : y.event = x.event.quiet
  notice : y.notice.uncounted = x.notice.uncounted
  env : y.env = x.env
  site : y.site.uncounted = x.site.uncounted

/-- What was seen where the statistics were popped, and where they were only read instead. -/
structure LosesNothing (s : Site) (popping quiet : List Seen) : Prop where
  agrees : List.Forall₂ Seen.Agrees popping quiet
  adds_up : ∀ r : Reading, r.total (popping.filterMap Seen.popped?) +
    r.of (s.last popping).pool.counters = r.of (s.last quiet).pool.counters

/-! ## Where the statistics are popped -/

section

variable {env : Env} {s : Site} {a : Counters}

theorem notice_credit (mv : Move) : (s.credit a).notice env mv = s.notice env mv := by
  cases mv with
  | tryAcquire => exact congrArg (fun x => Notice.tried x.2.2) tryAcquire_credit
  | detach id => exact congrArg (fun x => Notice.detached x.2.2) (detach_credit id)
  | resize lo hi => exact congrArg (fun x => Notice.resized x.2.2) (resize_credit lo hi)
  | step | acquire | wait | check | close | release | misplace | cancel | giveBack | leaveBehind
  | use | resetCounters | readOutcome | pass => rfl

theorem last_cons (x : Seen) (seen : List Seen) : s.last (x :: seen) = x.site.last seen := by
  unfold last
  rw [List.getLast?_cons]
  cases seen.getLast? <;> rfl

theorem credit_popped (ha : a.connectTime.IsWhole) (hs : s.pool.counters.connectTime.IsWhole) :
    s.credit a = { s with pool := s.pool.resetCounters }.credit (a + s.pool.counters) :=
  congrArg (fun c => { s with pool := { s.pool with counters := c } })
    (Counters.add_empty (c := a + s.pool.counters) (ha.add hs)).symm

/-- What comes of both runs goes together. -/
theorem rel_map {α β : Type} {R S : α → β → Prop} {f : α → α} {g : β → β} {x : Option α}
    {y : Option β} (h : Option.Rel R x y) (hs : ∀ a b, R a b → S (f a) (g b)) :
    Option.Rel S (x.map f) (y.map g) := by
  cases h with
  | some h => exact .some (hs _ _ h)
  | none => exact .none

/-- What was popped before, what is popped from now on, and what is left, add up to what is counted
where nothing is popped. -/
structure KeepsCredit (a : Counters) (s : Site) (popping quiet : List Seen) : Prop where
  agrees : List.Forall₂ Seen.Agrees popping quiet
  adds_up : ∀ r : Reading, r.of a + (r.total (popping.filterMap Seen.popped?) +
    r.of (s.last popping).pool.counters) = r.of ((s.credit a).last quiet).pool.counters

namespace KeepsCredit

theorem cons {x y : Seen} {popping quiet : List Seen} (h : KeepsCredit a x.site popping quiet)
    (hp : x.popped? = none) (hy : y.site = x.site.credit a) (hxy : x.Agrees y) :
    KeepsCredit a s (x :: popping) (y :: quiet) where
  agrees := .cons hxy h.agrees
  adds_up r := by
    rw [List.filterMap_cons_none hp, last_cons, last_cons, hy]
    exact h.adds_up r

theorem pop {popping quiet : List Seen} (ha : a.connectTime.IsWhole)
    (hs : s.pool.counters.connectTime.IsWhole)
    (h : KeepsCredit (a + s.pool.counters) { s with pool := s.pool.resetCounters } popping quiet) :
    KeepsCredit a s
      (⟨.popStats, .stats (s.pool.stats env.now), env, { s with pool := s.pool.resetCounters }⟩ ::
        popping)
      (⟨.stats, .stats ((s.credit a).pool.stats env.now), env, s.credit a⟩ :: quiet) where
  agrees := .cons ⟨rfl, rfl, rfl, rfl⟩ h.agrees
  adds_up r := by
    have sums := h.adds_up r
    rw [r.of_add ha hs, ← credit_popped ha hs] at sums
    have popped : Seen.popped? ⟨.popStats, .stats (s.pool.stats env.now), env,
        { s with pool := s.pool.resetCounters }⟩ = some s.pool.counters := rfl
    rw [last_cons, last_cons, ← sums, List.filterMap_cons_some popped]
    show r.of a + (r.of s.pool.counters + r.total _ +
      r.of (last { s with pool := s.pool.resetCounters } popping).pool.counters) = _
    omega

end KeepsCredit

/-- **A run in which the statistics are popped**, and one in which they are only read instead, that
has counted as much as was popped before. -/
theorem follow_credit (events : List Event) (hr : Reachable env s) (ha : a.connectTime.IsWhole) :
    Option.Rel (KeepsCredit a s) (s.follow env events)
      ((s.credit a).follow env (events.map Event.quiet)) := by
  induction events generalizing env s a with
  | nil =>
    refine .some ⟨.nil, fun r => ?_⟩
    exact (congrArg (r.of a + ·) (Nat.zero_add _)).trans (r.of_add ha hr.whole).symm
  | cons c rest ih =>
    cases c with
    | move mv h =>
      show Option.Rel _ ((Option.map _ (s.move? env mv)).bind _)
        ((Option.map _ ((s.credit a).move? env mv)).bind _)
      rw [move?_credit h, notice_credit]
      cases hm : s.move? env mv with
      | none => exact .none
      | some x =>
        exact rel_map (ih (hr.moved hm) ha) fun _ _ hk => hk.cons rfl rfl ⟨rfl, rfl, rfl, rfl⟩
    | stats => exact rel_map (ih hr ha) fun _ _ hk => hk.cons rfl rfl ⟨rfl, rfl, rfl, rfl⟩
    | popStats =>
      have whole : (a + s.pool.counters).connectTime.IsWhole := ha.add hr.whole
      have after : s.move? env .resetCounters = some (env, _) := rfl
      have popped := ih (hr.moved after) whole
      rw [← credit_popped ha hr.whole] at popped
      exact rel_map popped fun _ _ hk => hk.pop ha hr.whole

end

/-- **Popping the statistics loses nothing and disturbs nothing**, whatever happens in whatever
order: where they are only read instead, the same can happen, the same comes of each event but for
the counters, and these read in the end what was popped and what is left together. -/
theorem Reachable.pops_lose_nothing {env : Env} {s : Site} (h : Reachable env s)
    (events : List Event) :
    Option.Rel (LosesNothing s) (s.follow env events) (s.follow env (events.map Event.quiet)) := by
  have none : s.credit {} = s :=
    congrArg (fun c => { s with pool := { s.pool with counters := c } })
      (Counters.empty_add h.whole)
  have follows := follow_credit (a := {}) events h Histogram.isWhole_empty
  rw [none] at follows
  have loses (popping quiet : List Seen) (hk : KeepsCredit {} s popping quiet) :
      s.LosesNothing popping quiet := by
    refine ⟨hk.agrees, fun r => ?_⟩
    have sums := hk.adds_up r
    rwa [none, r.of_empty, Nat.zero_add] at sums
  have lost := rel_map (f := id) (g := id) follows loses
  rwa [Option.map_id, id, id] at lost

def popsTwice : List Event :=
  [.move .tryAcquire (by simp), .popStats, .move (.step (.worker 0)) (by simp),
    .move (.step (.worker 0)) (by simp), .move (.step (.worker 0)) (by simp), .popStats,
    .move .tryAcquire (by simp)]

/-- The first request is popped first, the session that was opened is popped next, and the second
request is left; both requests are counted where nothing is popped. -/
theorem Reachable.pops_lose_nothing_twice : ∃ env s popping quiet, Reachable env s ∧
    s.follow env popsTwice = some popping ∧
    s.follow env (popsTwice.map Event.quiet) = some quiet ∧ s.LosesNothing popping quiet ∧
    (popping.filterMap Seen.popped?).map (·.requestsNum) = [1, 0] ∧
    (popping.filterMap Seen.popped?).map (·.connectionsNum) = [0, 1] ∧
    (s.last quiet).pool.counters.requestsNum = 2 := by
  obtain ⟨⟨env, s⟩, -, hp, hr⟩ := Reachable.of_replay smallPool []
    (fun x => (x.2.follow x.1 popsTwice).any fun popping =>
      (popping.filterMap Seen.popped?).map (·.requestsNum) = [1, 0] ∧
      (popping.filterMap Seen.popped?).map (·.connectionsNum) = [0, 1] ∧
      Reading.total (popping.filterMap Seen.popped?) .requestsNum = 1 ∧
      (x.2.last popping).pool.counters.requestsNum = 1) (by decide +kernel)
  obtain ⟨popping, follows, hp⟩ := (Option.any_eq_true _ _).1 hp
  obtain ⟨requests, opened, popped, left⟩ := of_decide_eq_true hp
  have loses := hr.pops_lose_nothing popsTwice
  rw [follows] at loses
  cases hq : s.follow env (popsTwice.map Event.quiet) with
  | none =>
    rw [hq] at loses
    cases loses
  | some quiet =>
    rw [hq] at loses
    cases loses with
    | some loses =>
      refine ⟨env, s, popping, quiet, hr, follows, hq, loses, requests, opened, ?_⟩
      have sums : _ + _ = (s.last quiet).pool.counters.requestsNum := loses.adds_up .requestsNum
      rw [← sums, popped]
      exact congrArg (1 + ·) left

end Site

end SessionPool
