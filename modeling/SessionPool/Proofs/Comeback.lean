import SessionPool.Proofs.Closed
import SessionPool.Proofs.Departure

/-!
# What has nothing to do with members that come back

A use is entered when a member that comes back is received, and at no other time. A member is in the
queue of those that were given back from when its user has given it back until a worker takes it
upon itself. Whatever else is done to a pool enters no use and puts nobody into that queue
(`Pool.Apart`): there is one lemma for each function on a pool and one for each process. So a move
enters a use only with the member that it receives, and whoever is in the queue after it was there
before or with a user (`Site.TakesBack`).
-/

set_option autoImplicit false

namespace SessionPool

/-- For how long a member has been in use, in milliseconds. -/
def Member.use (m : Member) (now : Instant) : Nat :=
  m.notes.takenAt.elim 0 fun t => (now.since t).wholeMillis

namespace Pool

/-- For how long members have been in use that have come back, in milliseconds. -/
def usage (p : Pool) : Nat := p.counters.usageMs

/-- No use was entered, and nobody was given back. -/
structure Apart (p q : Pool) : Prop where
  usage : q.usage = p.usage
  returns : q.returns.Sublist p.returns

variable {p q r : Pool} {m : Member} {now : Instant}

namespace Apart

theorem refl (p : Pool) : p.Apart p := ⟨rfl, .refl _⟩

theorem trans (h : p.Apart q) (h' : q.Apart r) : p.Apart r :=
  ⟨h'.usage.trans h.usage, h'.returns.trans h.returns⟩

/-- The crew has the same tasks. -/
theorem aside (hu : q.usage = p.usage) (ht : q.crew.tasks = p.crew.tasks) : p.Apart q :=
  ⟨hu, by rw [Pool.returns, ht]; exact .refl _⟩

/-- The crew is given other tasks than to take members back. -/
theorem queue {l : List (Task Member)} (hu : q.usage = p.usage)
    (ht : q.crew.tasks = p.crew.tasks ++ l) (other : l.filterMap Task.restored? = []) :
    p.Apart q := by
  refine ⟨hu, ?_⟩
  rw [Pool.returns, ht, List.filterMap_append, other, List.append_nil]
  exact .refl _

/-- Tasks are taken out of the queue. -/
theorem crew {c : Crew (Task Member)} (h : c.tasks.Sublist p.crew.tasks) :
    p.Apart { p with crew := c } := ⟨rfl, h.filterMap _⟩

/-! ## Closing members and having others opened -/

theorem dispatchClose : p.Apart (p.dispatchClose m) := by
  unfold Pool.dispatchClose
  rcases p.crew.dispatch_cases (.close m) with ⟨-, h⟩ | ⟨-, h⟩ <;> rw [h]
  · exact aside rfl rfl
  · exact queue rfl rfl rfl

theorem closeAll : ∀ (ms : List Member) (p : Pool), p.Apart (ms.foldl Pool.dispatchClose p)
  | [], p => .refl p
  | _ :: ms, _ => dispatchClose.trans (closeAll ms _)

theorem discard : p.Apart (p.discard m) :=
  (aside rfl rfl : p.Apart (p.drop 1)).trans dispatchClose

theorem discardAll : ∀ (ms : List Member) (p : Pool), p.Apart (p.discardAll ms)
  | [], p => .refl p
  | _ :: ms, _ => discard.trans (discardAll ms _)

theorem dispatchAdd (waiter : Option Nat) : p.Apart (p.dispatchAdd waiter).1 := by
  unfold Pool.dispatchAdd
  rcases p.crew.dispatch_cases (.add waiter) with ⟨-, h⟩ | ⟨-, h⟩ <;> rw [h]
  · cases waiter <;> exact aside rfl rfl
  · exact queue rfl rfl rfl

theorem order (n : Nat) : p.Apart (p.order n) := by
  refine queue (l := List.replicate n (.add none)) rfl rfl ?_
  simp [Task.restored?]

theorem topUp : p.Apart p.topUp := by
  rw [topUp_eq]
  exact order _

theorem fill : p.Apart (Site.fill p) := by
  unfold Site.fill
  split
  · refine trans ?_ topUp
    split
    · exact aside rfl rfl
    · exact .refl p
  · exact dispatchAdd none

theorem countOpened (elapsed : Duration) : p.Apart (p.countOpened elapsed) := by
  unfold Pool.countOpened noteFilled
  split
  · exact aside rfl rfl
  · dsimp only
    split <;> exact aside rfl rfl

/-! ## Members that are free -/

theorem deliver : p.Apart (p.deliver m now) := by
  unfold Pool.deliver
  split
  · exact discard
  · dsimp only
    split
    · exact aside rfl rfl
    · split
      · refine trans ?_ discard
        exact aside rfl rfl
      · exact aside rfl rfl
    · exact aside rfl rfl

theorem join (elapsed : Duration) : p.Apart (p.join m elapsed now) :=
  (countOpened elapsed).trans deliver

theorem takeOver (elapsed : Duration) : p.Apart (p.takeOver m elapsed).1 := by
  unfold Pool.takeOver
  dsimp only
  split
  · exact (countOpened elapsed).trans discard
  · exact countOpened elapsed

theorem releaseRoom (waiter : Option Nat) (e : PoolError) : p.Apart (p.releaseRoom waiter e) := by
  cases waiter <;> exact aside rfl rfl

theorem vacateRoom : p.Apart p.vacateRoom := (aside rfl rfl : p.Apart p.unreserve).trans topUp

/-! ## Requests -/

theorem takeIdle (now : Instant) : p.Apart (p.takeIdle now).1 := by
  have taken : p.Apart { p with idle := (p.idle.dropWhile (·.isExpired now)).tail } :=
    aside rfl rfl
  unfold Pool.takeIdle
  dsimp only
  split
  · exact taken.trans (discardAll _ _)
  · exact (taken.trans (discardAll _ _)).trans topUp

theorem checkoutElse (now : Instant) (timeout : Duration) :
    p.Apart (p.checkoutElse now timeout).1 := by
  unfold Pool.checkoutElse enqueue
  dsimp only
  split
  · exact .refl p
  · split
    · exact aside rfl rfl
    · split
      · refine trans ?_ (dispatchAdd _)
        exact aside rfl rfl
      · exact aside rfl rfl

theorem checkout (now : Instant) (timeout : Duration) : p.Apart (p.checkout now timeout).1 := by
  have greeted : p.Apart (p.greet now) := aside rfl rfl
  unfold Pool.checkout
  split
  · exact .refl p
  · dsimp only
    split
    · have taken := takeIdle (p := p.greet now) now
      split <;> rename_i ht <;> rw [ht] at taken
      · exact greeted.trans taken
      · exact (greeted.trans taken).trans (checkoutElse now timeout)
    · exact greeted.trans (checkoutElse now timeout)

theorem tryTake (now : Instant) : p.Apart (p.tryTake now).1 := by
  unfold Pool.tryTake
  split
  · exact .refl p
  · dsimp only
    split
    · refine trans ?_ (takeIdle now)
      exact aside rfl rfl
    · exact aside rfl rfl

theorem giveUp (ticket : Nat) (timeout : Duration) : p.Apart (p.giveUp ticket timeout).1 := by
  unfold Pool.giveUp
  split
  · exact aside rfl rfl
  · split <;> exact aside rfl rfl

theorem abandon (ticket : Nat) : p.Apart (p.abandon ticket now) := by
  unfold Pool.abandon
  split
  · exact (aside rfl rfl : p.Apart (p.collectReply ticket)).trans deliver
  · exact aside rfl rfl

/-! ## What a member turned out to be -/

theorem replace : p.Apart (p.discard m).topUp := discard.trans topUp

theorem settle (f : Fitness) : p.Apart (p.settle m now f) := by
  cases f with
  | fit =>
    unfold Pool.settle
    dsimp only
    split
    · exact replace
    · split
      · exact discard
      · exact deliver
  | unfit => exact (aside rfl rfl : p.Apart p.countUnfit).trans replace
  | lost => exact (aside rfl rfl : p.Apart p.countLost.countUnfit).trans replace

theorem breakOff : p.Apart (p.breakOff m) := by
  have dropped : p.Apart (p.drop 1).topUp := (aside rfl rfl : p.Apart (p.drop 1)).trans topUp
  exact dropped.trans (aside rfl rfl)

theorem forget : p.Apart p.forget := (aside rfl rfl : p.Apart (p.drop 1)).trans topUp

theorem judge (health : Health) : p.Apart (p.judge m health now) := by
  unfold Pool.judge
  split
  · exact deliver
  · exact (aside rfl rfl : p.Apart p.countLost).trans replace

/-! ## Upkeep -/

theorem pickProbe : p.Apart p.pickProbe.1 := by
  unfold Pool.pickProbe
  split <;> exact aside rfl rfl

theorem weedOverripe (now : Instant) : p.Apart (p.weedOverripe now).1 := by
  unfold Pool.weedOverripe
  split <;> exact aside rfl rfl

theorem weed (now : Instant) : p.Apart (p.weed now).1 := by
  have expired : p.Apart (p.weedExpired now).1 := aside rfl rfl
  have excess {q : Pool} : q.Apart q.weedExcess.1 := aside rfl rfl
  exact (expired.trans (weedOverripe now)).trans excess

theorem maintain (now : Instant) : p.Apart (p.maintain now) := by
  have swept : p.Apart { p with waiting := (p.waiting.expire now).1 } := aside rfl rfl
  unfold Pool.maintain
  split
  · exact .refl p
  · exact ((swept.trans (weed now)).trans (closeAll _ _)).trans topUp

theorem resize {lo : Nat} {hi : Option Nat} (h : p.resize lo hi = .ok q) : p.Apart q := by
  unfold Pool.resize at h
  split at h
  · cases h
  · rename_i lo hi _
    split at h
    · cases h
    · have shed : p.Apart (Pool.weedExcess { p with minSize := lo, maxSize := hi }).1 :=
        aside rfl rfl
      have closed := shed.trans
        (closeAll (Pool.weedExcess { p with minSize := lo, maxSize := hi }).2 _)
      dsimp only at h
      split at h
      · cases h
        exact closed.trans topUp
      · cases h
        refine (closed.trans ?_).trans topUp
        exact aside rfl rfl

theorem dispose (t : Task Member) : p.Apart (p.dispose t) := by
  cases t with
  | add waiter => exact releaseRoom waiter .closed
  | restore m => exact aside rfl rfl
  | close _ | maintain => exact .refl p

theorem collect {t : Task Member} {c : Crew (Task Member)} (h : p.crew.collect = some (t, c)) :
    p.Apart { p with crew := c } := by
  obtain ⟨ht, -⟩ := Crew.collect_some h
  refine crew ?_
  rw [ht]
  exact List.sublist_cons_self t c.tasks

end Apart

/-! ## Members that come back -/

theorem usage_countUse (p : Pool) (m : Member) (now : Instant) :
    (p.countUse m now).usage = p.usage + m.use now := by
  unfold countUse Member.use
  cases m.notes.takenAt <;> rfl

theorem returns_countUse (p : Pool) (m : Member) (now : Instant) :
    (p.countUse m now).returns = p.returns := by
  unfold countUse
  split <;> rfl

/-- For how long a member has been in use is entered when it is received. -/
theorem receive_entry (p : Pool) (server : Server) (m : Member) (now : Instant) :
    (p.receive server m now).1.usage = p.usage + m.use now ∧
      (p.receive server m now).1.returns = p.returns := by
  have used := p.usage_countUse m now
  have same := p.returns_countUse m now
  unfold receive
  dsimp only
  split
  · exact ⟨used, same⟩
  · split
    · refine ⟨?_, ?_⟩
      · split <;> exact used
      · split <;> exact same
    · exact ⟨used, same⟩

/-- Who is given back is in the queue, unless nobody is there to do it. -/
theorem mem_returns_returnLater {x : Member} (h : x ∈ (p.returnLater m).returns) :
    x ∈ p.returns ∨ x = m := by
  unfold returnLater at h
  rcases p.crew.dispatch_cases (.restore m) with ⟨-, hd⟩ | ⟨-, hd⟩ <;> rw [hd] at h
  · exact .inl h
  · have hx : x ∈ p.returns ++ [m] := by simpa [returns, Task.restored?] using h
    exact (List.mem_append.1 hx).imp_right List.mem_singleton.1

theorem usage_returnLater : (p.returnLater m).usage = p.usage := by
  unfold returnLater
  rcases p.crew.dispatch_cases (.restore m) with ⟨-, hd⟩ | ⟨-, hd⟩ <;> rw [hd] <;> rfl

end Pool

/-! ## Processes -/

variable {env env' : Env} {p q : Pool}

namespace Opening

theorem apart_afterConfigure (began : Instant) (x : Env × Session × Progress) :
    p.Apart (afterConfigure p began x).2.1 := by
  obtain ⟨env', s, (e | ⟨⟨⟩⟩) | pause⟩ := x
  · exact .refl p
  · unfold afterConfigure
    dsimp only
    split
    · exact .aside rfl rfl
    · exact .refl p
  · exact .refl p

theorem apart_afterDial (began : Instant) (x : Env × Dialed) :
    p.Apart (afterDial p began x).2.1 := by
  obtain ⟨env', (e | s) | dial⟩ := x
  · exact .refl p
  · have called : p.Apart p.configureCall.1 := .aside rfl rfl
    exact called.trans (apart_afterConfigure began _)
  · exact .refl p

theorem apart {o : Opening} {s : Stepped Opening Opened} (h : o.step env p = some s) :
    p.Apart s.2.1 := by
  cases o with
  | fresh =>
    cases h
    exact apart_afterDial _ _
  | dialing began dial =>
    simp only [step, Option.ite_none_right_eq_some, Option.some.injEq] at h
    obtain ⟨-, rfl⟩ := h
    exact apart_afterDial _ _
  | configuring began s pause =>
    simp only [step, Option.ite_none_right_eq_some, Option.some.injEq] at h
    obtain ⟨-, rfl⟩ := h
    exact apart_afterConfigure _ _

end Opening

namespace Adding

theorem apart_fail (a : Adding) (e : SessionError) : p.Apart (a.fail env p e).2.1 := by
  have counted : p.Apart p.countFailedOpening := .aside rfl rfl
  unfold fail
  dsimp only
  split
  · exact counted
  · split <;> exact counted

theorem apart {a : Adding} {s : Stepped Adding Unit} (h : a.step env p = some s) :
    p.Apart s.2.1 := by
  obtain ⟨waiter, attempt, delay, phase⟩ := a
  cases phase with
  | opening o =>
    simp only [step] at h
    split at h
    · cases h
      exact .refl p
    · obtain ⟨x, ho, rfl⟩ := Option.map_eq_some_iff.1 h
      exact Opening.apart ho
  | joining m elapsed =>
    cases h
    exact .join elapsed
  | failing e =>
    cases h
    exact apart_fail _ e
  | resting timer =>
    simp only [step] at h
    split at h
    · cases h
      exact .refl p
    · obtain ⟨-, rfl⟩ := by simpa using h
      exact .refl p
  | releasing e =>
    cases h
    exact .releaseRoom waiter e

end Adding

namespace Returning

/-- The member that is received with the next step. -/
def arriving? : Returning → Option Member
  | arriving m => some m
  | closing _ | resetting _ | paused _ _ | settling _ _ => none

theorem apart_runReset (m : Member) : p.Apart (runReset env p m).2.1 := by
  have called : p.Apart p.resetCall.1 := .aside rfl rfl
  unfold runReset
  rw [pool_afterReset]
  exact called

theorem apart_reset (m : Member) : p.Apart (reset env p m).2.1 := by
  have rolled : p.Apart (rollBack env p m).2.1 := by
    unfold rollBack
    dsimp only
    split
    · exact apart_runReset _
    · exact .refl p
  unfold reset
  split
  · exact .refl p
  · split
    · exact .refl p
    · split
      · exact apart_runReset m
      · exact rolled
      · exact rolled
      · exact .refl p
      · exact .refl p

theorem pool_receive {m : Member} {s : Stepped Returning Unit}
    (h : (arriving m).step env p = some s) : s.2.1 = (p.receive env.server m env.now).1 := by
  simp only [step] at h
  split at h <;> rename_i hm <;> cases h <;> rw [hm]

/-- After the first step of a return, no use is entered any more. -/
theorem apart {r : Returning} (hr : r.arriving? = none) {s : Stepped Returning Unit}
    (h : r.step env p = some s) : p.Apart s.2.1 := by
  cases r with
  | arriving m => cases hr
  | closing m =>
    cases h
    exact .refl p
  | resetting m =>
    cases h
    exact apart_reset m
  | paused m pause =>
    simp only [step, Option.ite_none_right_eq_some, Option.some.injEq] at h
    obtain ⟨-, rfl⟩ := h
    rw [pool_afterReset]
    exact .refl p
  | settling m f =>
    cases h
    exact .settle f

end Returning

namespace Acquiring

theorem apart_arrive (timeout : Duration) : p.Apart (arrive env p timeout).2.1 := by
  have hn : (p.noteExpired env (p.spoiledByCheckout env.now)).now = env.now := by simp
  have hc := Pool.Apart.checkout (p := p) env.now timeout
  unfold arrive
  dsimp only
  split <;> rename_i hm <;> rw [hn] at hm <;> rw [hm] at hc
  · exact hc
  · exact hc
  · exact hc
  · rw [pool_refuse]
    exact hc

theorem apart {a : Acquiring} {s : Stepped Acquiring Acquired} (h : a.step env p = some s) :
    p.Apart s.2.1 := by
  have collected (ticket : Nat) : p.Apart (p.collectReply ticket) := .aside rfl rfl
  cases a with
  | arriving timeout =>
    cases h
    exact apart_arrive timeout
  | queued ticket cutoff timeout =>
    simp only [step] at h
    split at h
    · cases h
      rw [pool_conclude]
      exact collected ticket
    · split at h
      · cases h
        rw [pool_refuse]
        exact collected ticket
      · simp only [Option.ite_none_right_eq_some, Option.some.injEq] at h
        obtain ⟨-, rfl⟩ := h
        exact .refl p
  | givingUp ticket timeout =>
    cases h
    rw [pool_conclude]
    exact .giveUp ticket timeout
  | calling deadline timeout =>
    simp only [step] at h
    obtain ⟨x, ho, rfl⟩ := Option.map_eq_some_iff.1 h
    rw [pool_afterOpening]
    exact Opening.apart ho
  | dialing o cutoff timeout =>
    simp only [step] at h
    split at h
    · rename_i x ho
      cases h
      rw [pool_afterOpening]
      exact Opening.apart ho
    · simp only [Option.ite_none_right_eq_some, Option.some.injEq] at h
      obtain ⟨-, rfl⟩ := h
      exact .refl p
  | takingOver m elapsed =>
    cases h
    rw [pool_conclude]
    exact .takeOver elapsed
  | countingFailure e =>
    cases h
    exact .aside rfl rfl
  | vacating e =>
    cases h
    exact .vacateRoom
  | failing e =>
    cases h
    exact .aside rfl rfl

end Acquiring

namespace Checking

theorem apart {c : Checking} {s : Stepped Checking (Except PoolError Unit)}
    (h : c.step env p = some s) : p.Apart s.2.1 := by
  cases c with
  | starting =>
    simp only [step] at h
    split at h
    · cases h
      exact .refl p
    · split at h <;> cases h <;> exact .refl p
  | counting =>
    cases h
    exact .refl p
  | picking left =>
    cases left with
    | zero =>
      cases h
      exact .refl p
    | succ left =>
      have hp := Pool.Apart.pickProbe (p := p)
      simp only [step] at h
      split at h <;> rename_i hm <;> cases h <;> rw [hm] at hp <;> exact hp
  | probing left m =>
    cases h
    rw [pool_afterProbe]
    exact .aside rfl rfl
  | paused left m pause =>
    simp only [step, Option.ite_none_right_eq_some, Option.some.injEq] at h
    obtain ⟨-, rfl⟩ := h
    rw [pool_afterProbe]
    exact .refl p
  | judging left m health =>
    cases h
    exact .judge health

end Checking

namespace Closing

theorem apart {c : Closing} {s : Stepped Closing Unit} (h : c.step env p = some s) :
    p.Apart s.2.1 := by
  cases c with
  | starting =>
    cases h
    unfold start
    split
    · exact .refl p
    · exact .aside rfl rfl
  | stopping idle =>
    cases h
    exact .aside rfl rfl
  | joining hands idle =>
    cases hands with
    | nil =>
      cases h
      exact .refl p
    | cons hand hands =>
      simp only [step, Option.ite_none_right_eq_some, Option.some.injEq] at h
      obtain ⟨-, rfl⟩ := h
      exact .refl p
  | draining disposed idle =>
    cases h
    unfold drain
    split
    · rename_i t crew hc
      exact (Pool.Apart.collect hc).trans (.dispose t)
    · exact .refl p
  | emptying idle => cases idle <;> cases h <;> exact .refl p

end Closing

theorem Job.apart {j : Job} (hj : j.returning?.bind Returning.arriving? = none)
    {s : Stepped Job Unit} (h : j.step env p = some s) : p.Apart s.2.1 := by
  cases j with
  | adding a =>
    obtain ⟨x, ha, rfl⟩ := Option.map_eq_some_iff.1 h
    exact Adding.apart ha
  | returning r =>
    obtain ⟨x, hr, rfl⟩ := Option.map_eq_some_iff.1 h
    exact Returning.apart hj hr
  | closing m =>
    cases h
    exact .refl p
  | maintaining =>
    cases h
    exact .maintain env.now

namespace Operation

/-- The member that the operation gives back with its next step, or when it is given up. -/
def yields? : Operation → Option Member
  | release (.arriving m) | misplace m => some m
  | acquire _ | release _ | wait _ | check _ | close _ => none

theorem apart {o : Operation} (ho : o.yields? = none) {s : Stepped Operation Outcome}
    (h : o.step env p = some s) : p.Apart s.2.1 := by
  cases o with
  | acquire a =>
    obtain ⟨x, ha, rfl⟩ := Option.map_eq_some_iff.1 h
    exact Acquiring.apart ha
  | release r =>
    obtain ⟨x, hr, rfl⟩ := Option.map_eq_some_iff.1 h
    refine Returning.apart ?_ hr
    cases r with
    | arriving m => cases ho
    | closing _ | resetting _ | paused _ _ | settling _ _ => rfl
  | misplace m => cases ho
  | wait w =>
    obtain ⟨x, hw, rfl⟩ := Option.map_eq_some_iff.1 h
    rw [Waiting.pool_step hw]
    exact .refl p
  | check c =>
    obtain ⟨x, hc, rfl⟩ := Option.map_eq_some_iff.1 h
    exact Checking.apart hc
  | close c =>
    obtain ⟨x, hs, rfl⟩ := Option.map_eq_some_iff.1 h
    exact Closing.apart hs

theorem apart_cancel {o : Operation} (ho : o.yields? = none) (env : Env) (p : Pool) :
    p.Apart (o.cancel env p).2 := by
  cases o with
  | acquire a =>
    cases a with
    | queued ticket cutoff timeout => exact .abandon ticket
    | dialing o cutoff timeout => exact .vacateRoom
    | arriving | givingUp | calling | takingOver | countingFailure | vacating | failing =>
      exact .refl p
  | release r =>
    cases r with
    | arriving m => cases ho
    | paused m pause => exact .breakOff
    | closing _ | resetting _ | settling _ _ => exact .refl p
  | misplace m => cases ho
  | check c =>
    cases c with
    | paused left m pause => exact .breakOff
    | starting | counting | picking _ | probing _ _ | judging _ _ _ => exact .refl p
  | wait _ | close _ => exact .refl p

end Operation

/-! ## Moves -/

namespace Site

variable {s s' : Site} {mv : Move}

/-- The member that is received with a move. -/
def received? (s : Site) : Move → Option Member
  | .step party => (s.returning? party).bind Returning.arriving?
  | _ => none

/-- A user has a member in hand, or an operation that is to give it back. -/
def Yields (s : Site) (m : Member) : Prop :=
  m ∈ s.held ∨ ∃ n o, Table.get? s.operations n = some o ∧ o.yields? = some m

/-- A use is entered with the member that is received, and who was given back was with a user. -/
structure TakesBack (env : Env) (s : Site) (mv : Move) (q : Pool) : Prop where
  usage : mv ≠ .resetCounters →
    q.usage = s.pool.usage + (s.received? mv).elim 0 fun m => m.use env.now
  returns : ∀ m ∈ q.returns, m ∈ s.pool.returns ∨ s.Yields m

theorem TakesBack.of_apart (h : s.pool.Apart q) (hr : s.received? mv = none) :
    s.TakesBack env mv q where
  usage := fun _ => by
    rw [hr]
    exact h.usage
  returns := fun _ hm => .inl (h.returns.subset hm)

/-- A member is given back by whoever had it. -/
theorem TakesBack.returnLater {m : Member} (h : s.Yields m) (hr : s.received? mv = none) :
    s.TakesBack env mv (s.pool.returnLater m) where
  usage := fun _ => by
    rw [hr]
    exact Pool.usage_returnLater
  returns := fun x hx => (Pool.mem_returns_returnLater hx).imp_right fun (e : x = m) => e ▸ h

/-- A member is received. -/
theorem TakesBack.receive {m : Member} (hr : s.received? mv = some m) :
    s.TakesBack env mv (s.pool.receive env.server m env.now).1 := by
  obtain ⟨used, same⟩ := s.pool.receive_entry env.server m env.now
  refine ⟨fun _ => ?_, fun x hx => .inl (same ▸ hx)⟩
  rw [hr]
  exact used

theorem takesBack_job {k : Nat} {j : Job} (hg : Table.get? s.jobs k = some j)
    {x : Stepped Job Unit} (h : j.step env s.pool = some x) :
    s.TakesBack env (.step (.worker k)) x.2.1 := by
  have hr : s.received? (.step (.worker k)) = j.returning?.bind Returning.arriving? := by
    rw [received?, returning?, hg, Option.bind_some]
  cases ha : j.returning?.bind Returning.arriving? with
  | none => exact .of_apart (Job.apart ha h) (hr.trans ha)
  | some m =>
    obtain ⟨r, hj, hm⟩ := Option.bind_eq_some_iff.1 ha
    cases j with
    | returning r' =>
      cases hj
      cases r with
      | arriving m' =>
        cases hm
        obtain ⟨y, hy, rfl⟩ := Option.map_eq_some_iff.1 h
        have entered : s.TakesBack env (.step (.worker k)) _ := .receive (hr.trans ha)
        rw [← Returning.pool_receive hy] at entered
        exact entered
      | closing | resetting | paused | settling => cases hm
    | adding | closing | maintaining => cases hj

theorem takesBack_operation {n : Nat} {o : Operation} (hg : Table.get? s.operations n = some o)
    {x : Stepped Operation Outcome} (h : o.step env s.pool = some x) :
    s.TakesBack env (.step (.user n)) x.2.1 := by
  have hr : s.received? (.step (.user n)) = o.returning?.bind Returning.arriving? := by
    rw [received?, returning?, hg, Option.bind_some]
  cases ho : o.yields? with
  | none =>
    refine .of_apart (Operation.apart ho h) (hr.trans ?_)
    cases o with
    | release r => cases r <;> trivial
    | acquire | misplace | wait | check | close => rfl
  | some m =>
    have yields : s.Yields m := .inr ⟨n, o, hg, ho⟩
    cases o with
    | release r =>
      cases r with
      | arriving m' =>
        cases ho
        obtain ⟨y, hy, rfl⟩ := Option.map_eq_some_iff.1 h
        have entered : s.TakesBack env (.step (.user n)) _ := .receive hr
        rw [← Returning.pool_receive hy] at entered
        exact entered
      | closing | resetting | paused | settling => cases ho
    | misplace m' =>
      cases ho
      cases h
      exact .returnLater yields hr
    | acquire | wait | check | close => cases ho

theorem takesBack_cancel {n : Nat} {o : Operation} (hg : Table.get? s.operations n = some o) :
    s.TakesBack env (.cancel n) (o.cancel env s.pool).2 := by
  cases ho : o.yields? with
  | none => exact .of_apart (Operation.apart_cancel ho env s.pool) rfl
  | some m =>
    have yields : s.Yields m := .inr ⟨n, o, hg, ho⟩
    cases o with
    | release r =>
      cases r with
      | arriving m' =>
        cases ho
        exact .returnLater yields rfl
      | closing | resetting | paused | settling => cases ho
    | misplace m' =>
      cases ho
      exact .returnLater yields rfl
    | acquire | wait | check | close => cases ho

/-- **Uses are entered with members that come back**, and only users give members back. -/
theorem takesBack_move (h : s.move? env mv = some (env', s')) : s.TakesBack env mv s'.pool := by
  have held {id : Nat} {m : Member} (hm : s.heldMember? id = some m) : s.Yields m :=
    .inl (List.mem_of_find?_eq_some hm)
  cases moved h with
  | worked hg hs => exact takesBack_job hg hs
  | finished hg hs =>
    obtain ⟨usage, returns⟩ := takesBack_job hg hs
    exact ⟨usage, returns⟩
  | sought hg hs =>
    obtain ⟨-, ht⟩ := Crew.seek_cases hs
    refine .of_apart (.crew (ht ▸ .refl _)) ?_
    rw [received?, returning?, hg]
    rfl
  | took hg hs =>
    obtain ⟨-, ht⟩ := Crew.seek_cases hs
    refine .of_apart (.crew (ht ▸ List.sublist_cons_self _ _)) ?_
    rw [received?, returning?, hg]
    rfl
  | ticked ht =>
    obtain ⟨-, -, -, hc | hc⟩ := Crew.tick_cases ht
    · exact .of_apart (.aside rfl hc) rfl
    · exact .of_apart (.queue (l := [.maintain]) rfl hc rfl) rfl
  | wentOn hg hs => exact takesBack_operation hg hs
  | ended hg hs => exact takesBack_operation hg hs
  | cancelled hg _ => exact takesBack_cancel hg
  | taken ht | untaken ht _ =>
    have taken := Pool.Apart.tryTake (p := s.pool) env.now
    rw [ht] at taken
    exact .of_apart taken rfl
  | giveBack hm => exact .returnLater (held hm) rfl
  | @leaveBehind id m c hm hd =>
    refine ⟨fun _ => rfl, fun x hx => ?_⟩
    rcases s.pool.crew.dispatch_cases (.restore m) with ⟨-, he⟩ | ⟨-, he⟩ <;> rw [he] at hd <;>
      cases hd
    have hx : x ∈ s.pool.returns ++ [m] := by simpa [Pool.returns, Task.restored?] using hx
    refine (List.mem_append.1 hx).imp_right fun hx => ?_
    rw [List.mem_singleton.1 hx]
    exact held hm
  | abandoned _ _ => exact .of_apart (.aside rfl rfl) rfl
  | detach _ => exact .of_apart .forget rfl
  | resized hq => exact .of_apart (.resize hq) rfl
  | resetCounters => exact ⟨fun hn => absurd rfl hn, fun _ hm => .inl hm⟩
  | unheld hv =>
    refine .of_apart (.refl _) ?_
    rcases hv with rfl | rfl | rfl <;> rfl
  | closed _ | acquire _ | wait _ | check _ | close _ | release _ _ | misplace _ _ | use
  | unsized _ | readOutcome | passed _ => exact .of_apart (.aside rfl rfl) rfl

end Site

end SessionPool
