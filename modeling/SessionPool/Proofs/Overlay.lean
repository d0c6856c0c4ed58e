import SessionPool.Process.Job
import SessionPool.Process.Operation
import SessionPool.Proofs.Crew
import SessionPool.Proofs.WaitQueue

/-!
# What the functions on a pool do not look at

No function on a pool looks at the counters, and few look at anything of the crew but whether it was
stopped and how it takes tasks on. An overlay (`Overlay`) changes what is not looked at: it passes
through whatever is counted on the side, and a plain one (`Overlay.IsPlain`) also through what is
counted of requests and of sessions that are opened. There is one lemma for each function: it does
the same to a pool under an overlay, and the outcome is under the overlay as well.
-/

set_option autoImplicit false

namespace SessionPool

namespace Counters

/-- Waits, uses, and sessions that are lost or unfit are counted on the side. -/
inductive OnSide : (Counters → Counters) → Prop
  | wait (n : Nat) : OnSide fun c => { c with requestsWaitMs := c.requestsWaitMs + n }
  | use (n : Nat) : OnSide fun c => { c with usageMs := c.usageMs + n }
  | lost : OnSide fun c => { c with connectionsLost := c.connectionsLost + 1 }
  | unfit : OnSide fun c => { c with returnsBad := c.returnsBad + 1 }

/-- How requests and the sessions that are opened are counted. -/
inductive OnTally : (Counters → Counters) → Prop
  | request : OnTally fun c => { c with requestsNum := c.requestsNum + 1 }
  | queued : OnTally fun c => { c with requestsQueued := c.requestsQueued + 1 }
  | failed : OnTally fun c => { c with requestsErrors := c.requestsErrors + 1 }
  | opened (elapsed : Duration) : OnTally (·.countOpened elapsed)
  | failedOpening : OnTally fun c => { c with connectionsErrors := c.connectionsErrors + 1 }

end Counters

/-- A change of what the functions on a pool do not look at. -/
structure Overlay where
  crew : Crew (Task Member) → Crew (Task Member)
  counters : Counters → Counters
  stopped : ∀ c, (crew c).stopped = c.stopped
  dispatch : ∀ c t, (crew c).dispatch t = (crew (c.dispatch t).1, (c.dispatch t).2)
  onSide : ∀ f c, Counters.OnSide f → counters (f c) = f (counters c)

/-- It passes through all that is counted. -/
def Overlay.IsPlain (o : Overlay) : Prop :=
  ∀ f c, Counters.OnTally f → o.counters (f c) = f (o.counters c)

/-- Only the counters are changed. -/
def Overlay.ofCounters (counters : Counters → Counters)
    (onSide : ∀ f c, Counters.OnSide f → counters (f c) = f (counters c)) : Overlay where
  crew := id
  counters
  stopped := fun _ => rfl
  dispatch := fun _ _ => rfl
  onSide

def Pool.under (p : Pool) (o : Overlay) : Pool :=
  { p with crew := o.crew p.crew, counters := o.counters p.counters }

/-- What a function on a pool comes to, with the pool under an overlay. -/
def Overlay.over {α : Type} (o : Overlay) (x : Pool × α) : Pool × α := (x.1.under o, x.2)

namespace Pool

variable {p : Pool} {o : Overlay} {m : Member} {ms : List Member} {now : Instant}
  {timeout : Duration}

/-! ## Counting -/

theorem under_side {f : Counters → Counters} (hf : Counters.OnSide f) :
    (p.under o).count f = (p.count f).under o :=
  congrArg (fun c => { p.under o with counters := c }) (o.onSide f p.counters hf).symm

theorem under_tally (ho : o.IsPlain) {f : Counters → Counters} (hf : Counters.OnTally f) :
    (p.under o).count f = (p.count f).under o :=
  congrArg (fun c => { p.under o with counters := c }) (ho f p.counters hf).symm

theorem under_countLost : (p.under o).countLost = p.countLost.under o := under_side .lost

theorem under_countUnfit : (p.under o).countUnfit = p.countUnfit.under o := under_side .unfit

theorem under_countUse : (p.under o).countUse m now = (p.countUse m now).under o := by
  unfold countUse
  split
  · exact under_side (.use _)
  · rfl

/-! ## Closing sessions and having others opened -/

theorem under_dispatchClose : (p.under o).dispatchClose m = (p.dispatchClose m).under o := by
  have hd : (p.under o).crew.dispatch (.close m) = _ := o.dispatch p.crew (.close m)
  unfold dispatchClose
  rw [hd]
  rcases p.crew.dispatch_cases (.close m) with ⟨-, hd⟩ | ⟨-, hd⟩ <;> rw [hd] <;> rfl

theorem under_discard : (p.under o).discard m = (p.discard m).under o :=
  under_dispatchClose (p := p.drop 1)

theorem under_closeAll :
    ms.foldl dispatchClose (p.under o) = (ms.foldl dispatchClose p).under o := by
  induction ms generalizing p with
  | nil => rfl
  | cons m ms ih => rw [List.foldl_cons, under_dispatchClose, ih, List.foldl_cons]

theorem under_discardAll : (p.under o).discardAll ms = (p.discardAll ms).under o := by
  unfold discardAll
  induction ms generalizing p with
  | nil => rfl
  | cons m ms ih => rw [List.foldl_cons, under_discard, ih, List.foldl_cons]

theorem under_dispatchAdd (p : Pool) (waiter : Option Nat) :
    (p.under o).dispatchAdd waiter = o.over (p.dispatchAdd waiter) := by
  have hd : (p.under o).crew.dispatch (.add waiter) = _ := o.dispatch p.crew (.add waiter)
  unfold dispatchAdd
  rw [hd]
  rcases p.crew.dispatch_cases (.add waiter) with ⟨-, hd⟩ | ⟨-, hd⟩ <;> rw [hd]
  · cases waiter <;> rfl
  · rfl

theorem under_addWanted (p : Pool) : (p.under o).addWanted = p.addWanted.under o := by
  have wants (p : Pool) : (p.under o).wantsMore = p.wantsMore := rfl
  fun_induction addWanted p with
  | case1 p hw q hq ih =>
    have hd := under_dispatchAdd (o := o) p none
    rw [hq] at hd
    rw [← ih, addWanted, if_pos ((wants p).trans hw)]
    split <;> rename_i hq' <;> cases hd.symm.trans hq'
    rfl
  | case2 p hw q hq =>
    have hd := under_dispatchAdd (o := o) p none
    rw [hq] at hd
    rw [addWanted, if_pos ((wants p).trans hw)]
    split <;> rename_i hq' <;> cases hd.symm.trans hq'
    rfl
  | case3 p hw => rw [addWanted, if_neg (by rw [wants]; exact hw)]

theorem under_topUp : (p.under o).topUp = p.topUp.under o := by
  have hc : ((p.under o).closed || (p.under o).crew.stopped) = (p.closed || p.crew.stopped) :=
    congrArg (p.closed || ·) (o.stopped p.crew)
  unfold topUp
  rw [hc, under_addWanted]
  split <;> rfl

theorem under_replaced : ((p.under o).discard m).topUp = (p.discard m).topUp.under o := by
  rw [under_discard, under_topUp]

theorem under_noteFilled : (p.under o).noteFilled = p.noteFilled.under o := by
  unfold noteFilled
  show (if p.isNull = true then _ else if p.minSize ≤ p.live then _ else _) =
    under (if p.isNull = true then _ else if p.minSize ≤ p.live then _ else _) o
  split
  · rfl
  · split <;> rfl

/-! ## Requests -/

theorem under_takeIdle : (p.under o).takeIdle now = o.over (p.takeIdle now) := by
  let q : Pool := { p with idle := (p.idle.dropWhile (·.isExpired now)).tail }
  have taken : (q.under o).discardAll (p.spoiled now) = (q.discardAll (p.spoiled now)).under o :=
    under_discardAll
  unfold takeIdle
  dsimp only
  refine Prod.ext ?_ rfl
  show (if (p.spoiled now).isEmpty = true then _ else topUp _) =
    under (if (p.spoiled now).isEmpty = true then _ else topUp _) o
  split
  · exact taken
  · exact (congrArg topUp taken).trans under_topUp

theorem under_deliver : (p.under o).deliver m now = (p.deliver m now).under o := by
  have hc : ((p.under o).closed || (p.under o).isNull && (p.under o).waiting.isEmpty) =
      (p.closed || p.isNull && p.waiting.isEmpty) := rfl
  unfold deliver
  rw [hc]
  split
  · exact under_discard
  · dsimp only
    have hw : (p.under o).waiting = p.waiting := rfl
    rw [hw]
    rcases p.waiting.fulfill_cases (m.inStage .idle) now with
      ⟨before, r, after, -, -, -, hf⟩ | ⟨-, hf⟩ <;> rw [hf]
    · exact under_side (p := { p with waiting := _ }) (.wait _)
    · dsimp only
      show (if p.isNull = true then _ else _) = under (if p.isNull = true then _ else _) o
      split
      · exact under_discard (p := { p with waiting := _ })
      · rfl

theorem under_enqueue (ho : o.IsPlain) :
    (p.under o).enqueue now timeout = o.over (p.enqueue now timeout) := by
  have counted := under_tally (p := p) ho .queued
  unfold enqueue
  rw [counted]
  generalize p.count _ = q
  dsimp only
  show (if (decide (q.opening < (q.waiting.enqueue now timeout).1.length) && !q.isFull) = true
    then _ else _) = o.over (if (decide (q.opening < (q.waiting.enqueue now timeout).1.length) &&
      !q.isFull) = true then _ else _)
  split
  · exact congrArg (fun x : Pool × Bool => (x.1, (q.waiting.enqueue now timeout).2))
      (under_dispatchAdd { q with waiting := (q.waiting.enqueue now timeout).1 } _)
  · rfl

theorem under_greet (ho : o.IsPlain) : (p.under o).greet now = (p.greet now).under o := by
  have counted := under_tally (p := p) ho .request
  unfold greet
  rw [counted]
  rfl

theorem under_checkoutElse (ho : o.IsPlain) :
    (p.under o).checkoutElse now timeout = o.over (p.checkoutElse now timeout) := by
  unfold checkoutElse
  show (if (decide (0 < p.settings.maxWaiting) && decide (p.settings.maxWaiting ≤ p.waiting.length))
      = true then _ else if (p.isNull && p.waiting.isEmpty && !p.isFull) = true then _ else _) =
    o.over (if (decide (0 < p.settings.maxWaiting) &&
      decide (p.settings.maxWaiting ≤ p.waiting.length)) = true then _ else
      if (p.isNull && p.waiting.isEmpty && !p.isFull) = true then _ else _)
  split
  · rfl
  · split
    · rfl
    · rw [under_enqueue ho]
      rfl

theorem under_checkout (ho : o.IsPlain) :
    (p.under o).checkout now timeout = o.over (p.checkout now timeout) := by
  unfold checkout
  rw [under_greet ho]
  show (if p.closed = true then _ else _) = o.over (if p.closed = true then _ else _)
  split
  · rfl
  · generalize p.greet now = q
    dsimp only
    show (if q.waiting.isEmpty = true then _ else _) =
      o.over (if q.waiting.isEmpty = true then _ else _)
    split
    · rw [under_takeIdle]
      rcases q.takeIdle now with ⟨r, _ | m⟩
      · exact under_checkoutElse ho
      · rfl
    · exact under_checkoutElse ho

theorem under_tryTake (ho : o.IsPlain) : (p.under o).tryTake now = o.over (p.tryTake now) := by
  have counted := under_tally (p := p) ho .request
  unfold tryTake
  rw [counted]
  generalize p.count _ = q
  dsimp only
  show (if p.closed = true then _ else if q.waiting.isEmpty = true then _ else _) =
    o.over (if p.closed = true then _ else if q.waiting.isEmpty = true then _ else _)
  split
  · rfl
  · split
    · rw [under_takeIdle]
      rfl
    · rfl

theorem under_giveUp (ticket : Nat) :
    (p.under o).giveUp ticket timeout = o.over (p.giveUp ticket timeout) := by
  unfold giveUp
  show (if p.waiting.isWaiting ticket = true then _ else _) =
    o.over (if p.waiting.isWaiting ticket = true then _ else _)
  split
  · rfl
  · have same : (p.under o).waiting = p.waiting := rfl
    rw [same]
    rcases p.waiting.reply? ticket with _ | result <;> rfl

theorem under_abandon (ticket : Nat) :
    (p.under o).abandon ticket now = (p.abandon ticket now).under o := by
  unfold abandon
  have hu : (p.under o).undelivered? ticket = p.undelivered? ticket := rfl
  rw [hu]
  split
  · exact under_deliver (p := p.collectReply ticket)
  · rfl

/-! ## Members that come back -/

theorem under_receive (server : Server) :
    (p.under o).receive server m now = o.over (p.receive server m now) := by
  unfold receive
  rw [under_countUse]
  generalize p.countUse m now = q
  dsimp only
  show (if q.closed = true then _ else if (q.isNull && q.waiting.isEmpty) = true then _ else _) =
    o.over (if q.closed = true then _ else if (q.isNull && q.waiting.isEmpty) = true then _ else _)
  split
  · rfl
  · split
    · split
      · exact congrArg (fun q : Pool => (q.drop 1, _)) under_countLost
      · rfl
    · rfl

theorem under_settle (f : Fitness) : (p.under o).settle m now f = (p.settle m now f).under o := by
  cases f with
  | fit =>
    unfold settle
    dsimp only
    have hover : (p.under o).isOverfull = p.isOverfull := rfl
    rw [hover]
    split
    · exact under_replaced
    · split
      · exact under_discard
      · exact under_deliver
  | unfit =>
    show ((p.under o).countUnfit.discard _).topUp = _
    rw [under_countUnfit]
    exact under_replaced
  | lost =>
    show ((p.under o).countLost.countUnfit.discard _).topUp = _
    rw [under_countLost, under_countUnfit]
    exact under_replaced

theorem under_returnLater : (p.under o).returnLater m = (p.returnLater m).under o := by
  have hd : (p.under o).crew.dispatch (.restore m) = _ := o.dispatch p.crew (.restore m)
  unfold returnLater
  rw [hd]
  rcases p.crew.dispatch_cases (.restore m) with ⟨-, hd⟩ | ⟨-, hd⟩ <;> rw [hd] <;> rfl

theorem under_forget : (p.under o).forget = p.forget.under o := under_topUp (p := p.drop 1)

theorem under_breakOff : (p.under o).breakOff m = (p.breakOff m).under o := by
  have left : ((p.under o).drop 1).topUp = (p.drop 1).topUp.under o := under_topUp (p := p.drop 1)
  unfold breakOff
  rw [left]
  rfl

/-! ## Sessions that are opened -/

theorem under_countOpened (ho : o.IsPlain) (elapsed : Duration) :
    (p.under o).countOpened elapsed = (p.countOpened elapsed).under o := by
  have counted := under_tally (p := p.furnish) ho (.opened elapsed)
  show ((p.furnish.under o).count _).noteFilled = _
  rw [counted]
  exact under_noteFilled

theorem under_join (ho : o.IsPlain) (elapsed : Duration) :
    (p.under o).join m elapsed now = (p.join m elapsed now).under o := by
  unfold join
  rw [under_countOpened ho]
  exact under_deliver

theorem under_takeOver (ho : o.IsPlain) (elapsed : Duration) :
    (p.under o).takeOver m elapsed = o.over (p.takeOver m elapsed) := by
  unfold takeOver
  rw [under_countOpened ho]
  generalize p.countOpened elapsed = q
  show (if q.closed = true then _ else _) = o.over (if q.closed = true then _ else _)
  split
  · exact congrArg (fun q : Pool => (q, _)) under_discard
  · rfl

theorem under_releaseRoom (waiter : Option Nat) (e : PoolError) :
    (p.under o).releaseRoom waiter e = (p.releaseRoom waiter e).under o := by
  cases waiter <;> rfl

theorem under_vacateRoom : (p.under o).vacateRoom = p.vacateRoom.under o :=
  under_topUp (p := p.unreserve)

theorem under_dispose (t : Task Member) : (p.under o).dispose t = (p.dispose t).under o := by
  cases t with
  | add waiter => exact under_releaseRoom waiter .closed
  | restore | close | maintain => rfl

/-! ## Upkeep -/

theorem under_weedOverripe : (p.under o).weedOverripe now = o.over (p.weedOverripe now) := by
  have same : (p.under o).settings = p.settings := rfl
  unfold weedOverripe
  rw [same]
  rcases p.settings.maxIdle with _ | maxIdle <;> rfl

theorem under_weed : (p.under o).weed now = o.over (p.weed now) := by
  have expired : (p.under o).weedExpired now = o.over (p.weedExpired now) := rfl
  have excess (q : Pool) : (q.under o).weedExcess = o.over q.weedExcess := rfl
  unfold weed
  rw [expired]
  simp only [Overlay.over, under_weedOverripe, excess]

theorem under_maintain : (p.under o).maintain now = (p.maintain now).under o := by
  let q : Pool := { p with waiting := (p.waiting.expire now).1 }
  have weeded : (q.under o).weed now = o.over (q.weed now) := under_weed
  unfold maintain
  show (if p.closed = true then _ else (List.foldl _ (Prod.fst (weed _ now)) _).topUp) =
    under (if p.closed = true then _ else _) o
  split
  · rfl
  · have closed := congrArg (fun x => (x.2.foldl dispatchClose x.1).topUp) weeded
    exact closed.trans ((congrArg topUp under_closeAll).trans under_topUp)

theorem under_maintainNotes : (p.under o).maintainNotes now = p.maintainNotes now := by
  have weeded : (p.under o).weed now = o.over (p.weed now) := under_weed
  unfold maintainNotes
  rw [weeded]
  rfl

theorem under_resize (lo : Nat) (hi : Option Nat) :
    (p.under o).resize lo hi = (p.resize lo hi).map (·.under o) := by
  have same : PoolSettings.checkSize (p.under o).settings.kind lo hi =
    PoolSettings.checkSize p.settings.kind lo hi := rfl
  unfold resize
  rw [same]
  rcases PoolSettings.checkSize p.settings.kind lo hi with e | ⟨lo, hi⟩
  · rfl
  · show (if p.closed = true then _ else _) = Except.map _ (if p.closed = true then _ else _)
    split
    · rfl
    · have weeded : { p.under o with minSize := lo, maxSize := hi }.weedExcess =
        o.over { p with minSize := lo, maxSize := hi }.weedExcess := rfl
      simp only [weeded, Overlay.over]
      generalize { p with minSize := lo, maxSize := hi }.weedExcess = x
      rw [under_closeAll]
      generalize x.2.foldl dispatchClose x.1 = r
      refine congrArg Except.ok (Eq.trans (congrArg topUp ?_) under_topUp)
      show (if r.isNull = true then _ else _) = under (if r.isNull = true then _ else _) o
      split <;> rfl

theorem under_judge (health : Health) :
    (p.under o).judge m health now = (p.judge m health now).under o := by
  unfold judge
  split
  · exact under_deliver
  · rw [under_countLost]
    exact under_replaced

end Pool

/-! ## Processes -/

/-- A step of a process, with the pool under an overlay. -/
def Overlay.step {π ρ : Type} (o : Overlay) (s : Stepped π ρ) : Stepped π ρ :=
  (s.1, s.2.1.under o, s.2.2)

variable {env : Env} {p : Pool} {o : Overlay} {m : Member}

namespace Opening

theorem under_afterConfigure (began : Instant) (x : Env × Session × Progress) :
    afterConfigure (p.under o) began x = o.step (afterConfigure p began x) := by
  obtain ⟨env', s, (e | ⟨⟨⟩⟩) | pause⟩ := x
  · rfl
  · unfold afterConfigure
    dsimp only
    split <;> rfl
  · rfl

theorem under_afterDial (began : Instant) (x : Env × Dialed) :
    afterDial (p.under o) began x = o.step (afterDial p began x) := by
  obtain ⟨env', (e | s) | dial⟩ := x
  · rfl
  · exact under_afterConfigure (p := p.configureCall.1) began _
  · rfl

theorem step_under (a : Opening) : a.step env (p.under o) = (a.step env p).map o.step := by
  cases a with
  | fresh => exact congrArg some (under_afterDial ..)
  | dialing began dial =>
    simp only [step]
    split
    · exact congrArg some (under_afterDial ..)
    · rfl
  | configuring began s pause =>
    simp only [step]
    split
    · exact congrArg some (under_afterConfigure ..)
    · rfl

end Opening

namespace Adding

theorem under_fail (ho : o.IsPlain) (a : Adding) (e : SessionError) :
    a.fail env (p.under o) e = o.step (a.fail env p e) := by
  have counted : (p.under o).countFailedOpening = p.countFailedOpening.under o :=
    Pool.under_tally ho .failedOpening
  unfold fail
  rw [counted]
  generalize p.countFailedOpening = q
  show (if q.closed = true then _ else if a.attempt = attempts q then _ else _) =
    o.step (if q.closed = true then _ else if a.attempt = attempts q then _ else _)
  split
  · rfl
  · split <;> rfl

theorem step_under (ho : o.IsPlain) (a : Adding) :
    a.step env (p.under o) = (a.step env p).map o.step := by
  obtain ⟨waiter, attempt, delay, phase⟩ := a
  have working : (p.under o).crew.stopped = p.crew.stopped := o.stopped p.crew
  cases phase with
  | opening a =>
    simp only [step, working, Opening.step_under]
    split
    · rfl
    · rw [Option.map_map, Option.map_map]
      rfl
  | joining m elapsed => exact congrArg (fun q => some (env, q, _)) (Pool.under_join ho elapsed)
  | failing e => exact congrArg some (under_fail ho _ e)
  | resting timer =>
    simp only [step, working]
    split
    · rfl
    · split <;> rfl
  | releasing e => exact congrArg (fun q => some (env, q, _)) (Pool.under_releaseRoom waiter e)

end Adding

namespace Returning

theorem under_afterReset (x : Env × Session × Progress) :
    afterReset (p.under o) m x = o.step (afterReset p m x) := by
  obtain ⟨env', s, (e | ⟨⟨⟩⟩) | pause⟩ := x
  · rfl
  · unfold afterReset
    dsimp only
    split <;> rfl
  · rfl

theorem under_runReset (m : Member) : runReset env (p.under o) m = o.step (runReset env p m) :=
  under_afterReset (p := p.resetCall.1) _

theorem under_rollBack : rollBack env (p.under o) m = o.step (rollBack env p m) := by
  have noted (env : Env) (message : String) (fields : List (String × String)) :
      (p.under o).noteOn env m .warn message fields = p.noteOn env m .warn message fields := rfl
  unfold rollBack
  dsimp only
  simp only [noted]
  rcases m.session.rollback _ with ⟨s, server, e | ⟨⟨⟩⟩⟩
  · rfl
  · exact under_runReset _

theorem under_reset : reset env (p.under o) m = o.step (reset env p m) := by
  unfold reset
  split
  · rfl
  · split
    · rfl
    · split
      · exact under_runReset m
      · exact under_rollBack
      · exact under_rollBack
      · rfl
      · rfl

theorem under_settle (f : Fitness) : settle env (p.under o) m f = o.step (settle env p m f) := by
  unfold settle
  dsimp only
  rw [Pool.under_settle]
  rfl

theorem step_under (r : Returning) : r.step env (p.under o) = (r.step env p).map o.step := by
  cases r with
  | arriving m =>
    simp only [step]
    rw [Pool.under_receive]
    rcases p.receive env.server m env.now with ⟨q, m', _ | _⟩ <;> rfl
  | closing m => rfl
  | resetting m => exact congrArg some under_reset
  | paused m pause =>
    simp only [step]
    split
    · exact congrArg some (under_afterReset _)
    · rfl
  | settling m f => exact congrArg some (under_settle f)

end Returning

namespace Acquiring

theorem under_refuse (e : PoolError) : refuse env (p.under o) e = o.step (refuse env p e) := by
  unfold refuse
  split <;> rfl

theorem under_conclude (x : Pool × Acquired) :
    conclude env (o.over x) = o.step (conclude env x) := by
  obtain ⟨q, e | m⟩ := x
  · exact under_refuse e
  · rfl

theorem under_arrive (ho : o.IsPlain) (timeout : Duration) :
    arrive env (p.under o) timeout = o.step (arrive env p timeout) := by
  have noted : (p.under o).noteExpired env ((p.under o).spoiledByCheckout env.now) =
      p.noteExpired env (p.spoiledByCheckout env.now) := rfl
  unfold arrive
  dsimp only
  rw [noted, Pool.under_checkout ho]
  rcases p.checkout _ timeout with ⟨q, m | _ | ticket | e⟩
  · rfl
  · rfl
  · rfl
  · exact under_refuse e

theorem under_afterOpening (resume : Opening → Env → Env × Acquiring)
    (s : Stepped Opening Opened) :
    afterOpening resume (o.step s) = o.step (afterOpening resume s) := by
  obtain ⟨env', q, a | e | ⟨m, elapsed⟩⟩ := s <;> rfl

theorem step_under (ho : o.IsPlain) (a : Acquiring) :
    a.step env (p.under o) = (a.step env p).map o.step := by
  cases a with
  | arriving timeout => exact congrArg some (under_arrive ho timeout)
  | queued ticket cutoff timeout =>
    have same : (p.under o).waiting = p.waiting := rfl
    simp only [step, same]
    cases hr : p.waiting.reply? ticket with
    | some result => exact congrArg some (under_conclude (p.collectReply ticket, result))
    | none =>
      show (if (!p.waiting.isWaiting ticket) = true then _ else _) =
        Option.map _ (if (!p.waiting.isWaiting ticket) = true then _ else _)
      split
      · exact congrArg some (under_refuse (p := p.collectReply ticket) .closed)
      · split <;> rfl
  | givingUp ticket timeout =>
    simp only [step, Pool.under_giveUp, under_conclude]
    rfl
  | calling deadline timeout =>
    simp only [step, Opening.step_under, Option.map_map]
    exact congrArg (Option.map · _) (funext fun s => under_afterOpening _ s)
  | dialing a cutoff timeout =>
    simp only [step, Opening.step_under]
    cases a.step env p with
    | some s => exact congrArg some (under_afterOpening _ s)
    | none =>
      dsimp only [Option.map_none]
      split <;> rfl
  | takingOver m elapsed =>
    simp only [step, Pool.under_takeOver ho, under_conclude]
    rfl
  | countingFailure e =>
    have counted : (p.under o).countFailedOpening = p.countFailedOpening.under o :=
      Pool.under_tally ho .failedOpening
    simp only [step, counted]
    rfl
  | vacating e => exact congrArg (fun q => some (env, q, _)) Pool.under_vacateRoom
  | failing e =>
    have counted : (p.under o).countFailure = p.countFailure.under o := Pool.under_tally ho .failed
    exact congrArg (fun q => some (env, q, _)) counted

theorem cancel_under (a : Acquiring) :
    a.cancel env (p.under o) = ((a.cancel env p).1, (a.cancel env p).2.under o) := by
  cases a with
  | queued ticket cutoff timeout =>
    exact congrArg (fun q => (_, q)) (Pool.under_abandon ticket)
  | dialing a cutoff timeout => exact congrArg (fun q => (_, q)) Pool.under_vacateRoom
  | arriving | givingUp | calling | takingOver | countingFailure | vacating | failing => rfl

end Acquiring

namespace Checking

theorem under_afterProbe (left : Nat) (x : Env × Session × Progress) :
    afterProbe (p.under o) left m x = o.step (afterProbe p left m x) := by
  obtain ⟨env', s, (e | ⟨⟨⟩⟩) | pause⟩ := x <;> rfl

theorem step_under (c : Checking) : c.step env (p.under o) = (c.step env p).map o.step := by
  cases c with
  | starting =>
    show (if p.closed = true then _ else if p.isNull = true then _ else _) =
      Option.map _ (if p.closed = true then _ else if p.isNull = true then _ else _)
    split
    · rfl
    · split <;> rfl
  | counting => rfl
  | picking left =>
    cases left with
    | zero => rfl
    | succ left =>
      have picked : (p.under o).pickProbe = o.over p.pickProbe := by
        show (if p.closed = true then _ else _) = o.over (if p.closed = true then _ else _)
        split <;> rfl
      simp only [step, picked]
      rcases p.pickProbe with ⟨q, _ | m⟩ <;> rfl
  | probing left m => exact congrArg some (under_afterProbe (p := p.probeCall.1) left _)
  | paused left m pause =>
    simp only [step]
    split
    · exact congrArg some (under_afterProbe left _)
    · rfl
  | judging left m health =>
    refine congrArg some ?_
    unfold judge
    dsimp only
    rw [Pool.under_judge]
    rfl

end Checking

theorem Waiting.step_under (w : Waiting) :
    w.step env (p.under o) = (w.step env p).map o.step := by
  have working : (p.under o).crew.stopped = p.crew.stopped := o.stopped p.crew
  cases w with
  | starting timeout =>
    show (if p.closed = true then _ else _) = Option.map _ (if p.closed = true then _ else _)
    split <;> rfl
  | waiting cutoff timeout =>
    simp only [step, working]
    show (if p.crew.stopped = true then _ else if p.filled = true then _ else _) =
      Option.map _ (if p.crew.stopped = true then _ else if p.filled = true then _ else _)
    split
    · rfl
    · split
      · rfl
      · split <;> rfl

/-- Who closes a pool looks at its crew, but not at the counters. -/
theorem Closing.step_under {f : Counters → Counters}
    {hf : ∀ g c, Counters.OnSide g → f (g c) = g (f c)} (c : Closing) :
    c.step env (p.under (.ofCounters f hf)) =
      (c.step env p).map (Overlay.ofCounters f hf).step := by
  cases c with
  | starting =>
    show some (if p.closed = true then _ else _) =
      Option.map _ (some (if p.closed = true then _ else _))
    split <;> rfl
  | stopping idle => rfl
  | joining hands idle =>
    cases hands with
    | nil => rfl
    | cons hand hands =>
      show (if p.crew.hasLeft hand = true then _ else _) =
        Option.map _ (if p.crew.hasLeft hand = true then _ else _)
      split <;> rfl
  | draining disposed idle =>
    have same : (p.under (.ofCounters f hf)).crew = p.crew := rfl
    refine congrArg some ?_
    unfold drain
    rw [same]
    rcases p.crew.collect with _ | ⟨t, crew⟩
    · rfl
    · have disposed := Pool.under_dispose (p := { p with crew }) (o := .ofCounters f hf) t
      show (_, ({ p with crew }.under (.ofCounters f hf)).dispose t, _) = _
      rw [disposed]
      rfl
  | emptying idle => cases idle <;> rfl

theorem Operation.cancel_under (x : Operation) :
    x.cancel env (p.under o) = ((x.cancel env p).1, (x.cancel env p).2.under o) := by
  cases x with
  | acquire r => exact r.cancel_under
  | release r =>
    cases r with
    | arriving m => exact congrArg (fun q => (env, q)) Pool.under_returnLater
    | paused m pause => exact congrArg (fun q => (env, q)) Pool.under_breakOff
    | closing | resetting | settling => rfl
  | misplace m => exact congrArg (fun q => (env, q)) Pool.under_returnLater
  | check c =>
    cases c with
    | paused left m pause => exact congrArg (fun q => (env, q)) Pool.under_breakOff
    | starting | counting | picking | probing | judging => rfl
  | wait | close => rfl

theorem Job.step_under (ho : o.IsPlain) (j : Job) :
    j.step env (p.under o) = (j.step env p).map o.step := by
  cases j with
  | adding a =>
    simp only [step, Adding.step_under ho, Option.map_map]
    rfl
  | returning r =>
    simp only [step, Returning.step_under, Option.map_map]
    rfl
  | closing m => rfl
  | maintaining =>
    simp only [step, Pool.under_maintain, Pool.under_maintainNotes]
    rfl

end SessionPool
