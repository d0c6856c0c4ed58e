import SessionPool.Proofs.Freeing
import SessionPool.Proofs.Overlay

/-!
# The tally

The tally of a pool (`Pool.tally`) is what it counts of requests and of the sessions that are
opened. Only five entries change it: a request is let in, gets in line, or fails, and a session that
was opened is entered, or that none could be opened. Everything else that is done to a pool leaves
the tally as it is, since it does the same under an overlay that holds the tally fixed
(`Overlay.fixed`). So a step of a request or of a worker that adds a member changes the tally as its
kind says (`Acquiring.tally_step`, `Adding.tally_step`), and no other step changes it.
-/

set_option autoImplicit false

namespace SessionPool

/-- What is counted of requests and of the sessions that are opened. -/
def Counters.tally (c : Counters) : Counters :=
  { c with requestsWaitMs := 0, usageMs := 0, connectionsLost := 0, returnsBad := 0 }

def Pool.tally (p : Pool) : Counters := p.counters.tally

/-- A request has found the pool open. -/
def Counters.greeted (c : Counters) (queued : Bool) : Counters :=
  { c with
    requestsNum := c.requestsNum + 1
    requestsQueued := c.requestsQueued + queued.toNat }

def Checkout.isQueued : Checkout → Bool
  | queued _ => true
  | ready _ | dial | refused _ => false

/-- The tally is held fixed. -/
def Overlay.fixed (c : Counters) : Overlay :=
  .ofCounters
    (fun d => { c with
      requestsWaitMs := d.requestsWaitMs
      usageMs := d.usageMs
      connectionsLost := d.connectionsLost
      returnsBad := d.returnsBad })
    fun f d hf => by cases hf <;> rfl

namespace Pool

variable {p q : Pool} {m : Member} {ms : List Member} {now : Instant} {timeout : Duration}

/-! ## What leaves the tally as it is -/

/-- Who does the same under every overlay leaves the tally as it is. -/
theorem tally_of_under {f : Pool → Pool} (h : ∀ o, f (p.under o) = (f p).under o) :
    (f p).tally = p.tally := by
  have fixed := h (.fixed p.counters)
  have same : p.under (.fixed p.counters) = p := rfl
  rw [same] at fixed
  rw [fixed]
  rfl

theorem tally_of_over {α : Type} {f : Pool → Pool × α} (h : ∀ o, f (p.under o) = o.over (f p)) :
    (f p).1.tally = p.tally :=
  tally_of_under (f := fun p => (f p).1) fun o => congrArg Prod.fst (h o)

theorem tally_of_step {π ρ : Type} {f : Pool → Option (Stepped π ρ)} {s : Stepped π ρ}
    (h : f (p.under (.fixed p.counters)) = (f p).map (Overlay.fixed p.counters).step)
    (hs : f p = some s) : s.2.1.tally = p.tally := by
  have same : p.under (.fixed p.counters) = p := rfl
  rw [same, hs] at h
  rw [Option.some.inj h]
  rfl

@[simp] theorem tally_topUp : p.topUp.tally = p.tally := tally_of_under fun _ => under_topUp

@[simp] theorem tally_discard : (p.discard m).tally = p.tally :=
  tally_of_under (f := (discard · m)) fun _ => under_discard

@[simp] theorem tally_dispatchAdd (waiter : Option Nat) :
    (p.dispatchAdd waiter).1.tally = p.tally :=
  tally_of_over (f := (dispatchAdd · waiter)) fun _ => under_dispatchAdd p waiter

@[simp] theorem tally_noteFilled : p.noteFilled.tally = p.tally :=
  tally_of_under fun _ => under_noteFilled

@[simp] theorem tally_takeIdle : (p.takeIdle now).1.tally = p.tally :=
  tally_of_over (f := (takeIdle · now)) fun _ => under_takeIdle

@[simp] theorem tally_deliver : (p.deliver m now).tally = p.tally :=
  tally_of_under (f := (deliver · m now)) fun _ => under_deliver

@[simp] theorem tally_giveUp (ticket : Nat) : (p.giveUp ticket timeout).1.tally = p.tally :=
  tally_of_over (f := (giveUp · ticket timeout)) fun _ => under_giveUp ticket

@[simp] theorem tally_returnLater : (p.returnLater m).tally = p.tally :=
  tally_of_under (f := (returnLater · m)) fun _ => under_returnLater

@[simp] theorem tally_forget : p.forget.tally = p.tally := tally_of_under fun _ => under_forget

@[simp] theorem tally_releaseRoom (waiter : Option Nat) (e : PoolError) :
    (p.releaseRoom waiter e).tally = p.tally :=
  tally_of_under (f := (releaseRoom · waiter e)) fun _ => under_releaseRoom waiter e

@[simp] theorem tally_vacateRoom : p.vacateRoom.tally = p.tally :=
  tally_of_under fun _ => under_vacateRoom

theorem tally_resize {lo : Nat} {hi : Option Nat} (h : p.resize lo hi = .ok q) :
    q.tally = p.tally := by
  have fixed := under_resize (p := p) (o := .fixed p.counters) lo hi
  have same : p.under (.fixed p.counters) = p := rfl
  rw [same, h] at fixed
  rw [Except.ok.inj fixed]
  rfl

/-! ## What is entered in the tally -/

@[simp] theorem tally_countOpened (elapsed : Duration) :
    (p.countOpened elapsed).tally = p.tally.countOpened elapsed :=
  tally_noteFilled (p := p.furnish.count _)

@[simp] theorem tally_join (elapsed : Duration) :
    (p.join m elapsed now).tally = p.tally.countOpened elapsed :=
  tally_deliver.trans (tally_countOpened elapsed)

@[simp] theorem tally_takeOver (elapsed : Duration) :
    (p.takeOver m elapsed).1.tally = p.tally.countOpened elapsed := by
  have opened := tally_countOpened (p := p) elapsed
  unfold takeOver
  dsimp only
  split
  · exact tally_discard.trans opened
  · exact opened

theorem tally_checkoutElse : (p.checkoutElse now timeout).1.tally =
    { p.tally with
      requestsQueued := p.tally.requestsQueued +
        (p.checkoutElse now timeout).2.isQueued.toNat } := by
  unfold checkoutElse
  dsimp only
  split
  · rfl
  · split
    · rfl
    · unfold enqueue
      dsimp only
      split
      · exact tally_dispatchAdd _
      · rfl

theorem tally_checkout (hc : p.closed = false) :
    (p.checkout now timeout).1.tally =
      p.tally.greeted (p.checkout now timeout).2.isQueued := by
  have greeted : (p.greet now).tally = p.tally.greeted false := rfl
  unfold checkout
  rw [if_neg (by simp [hc])]
  dsimp only
  split
  · have taken : ((p.greet now).takeIdle now).1.tally = (p.greet now).tally := tally_takeIdle
    split <;> rename_i ht <;> rw [ht, greeted] at taken
    · exact taken
    · rw [tally_checkoutElse, taken]
      rfl
  · rw [tally_checkoutElse, greeted]
    rfl

theorem checkout_closed (hc : p.closed = true) :
    p.checkout now timeout = (p, .refused .closed) := if_pos hc

theorem tally_tryTake (hc : p.closed = false) :
    (p.tryTake now).1.tally = p.tally.greeted false := by
  have counted : (p.count fun c => { c with requestsNum := c.requestsNum + 1 }).tally =
    p.tally.greeted false := rfl
  unfold tryTake
  rw [if_neg (by simp [hc])]
  dsimp only
  split
  · exact tally_takeIdle.trans counted
  · exact counted

end Pool

/-! ## Steps -/

variable {env env' : Env} {p q : Pool}

/-- A request gets in line. -/
def Next.queues : Next Acquiring Acquired → Bool
  | .more (.queued _ _ _) => true
  | .more _ | .done _ => false

theorem Opening.tally_step {o : Opening} {s : Stepped Opening Opened} (h : o.step env p = some s) :
    s.2.1.tally = p.tally :=
  Pool.tally_of_step (f := fun p => o.step env p) o.step_under h

namespace Acquiring

/-- What a step of a request enters in the tally. -/
def entered (p : Pool) (next : Next Acquiring Acquired) (c : Counters) : Acquiring → Counters
  | arriving _ => if p.closed then c else c.greeted next.queues
  | takingOver _ elapsed => c.countOpened elapsed
  | countingFailure _ => { c with connectionsErrors := c.connectionsErrors + 1 }
  | failing _ => { c with requestsErrors := c.requestsErrors + 1 }
  | queued _ _ _ | givingUp _ _ | calling _ _ | dialing _ _ _ | vacating _ => c

theorem queues_refuse (e : PoolError) : (refuse env p e).2.2.queues = false := by
  unfold refuse
  split <;> rfl

theorem queues_arrive (timeout : Duration) :
    (arrive env p timeout).2.2.queues = (p.checkout env.now timeout).2.isQueued := by
  have hn : (p.noteExpired env (p.spoiledByCheckout env.now)).now = env.now := by simp
  unfold arrive
  dsimp only
  split <;> rename_i hm <;> rw [hn] at hm <;> rw [hm]
  · rfl
  · rfl
  · rfl
  · exact queues_refuse _

theorem tally_arrive (timeout : Duration) :
    (arrive env p timeout).2.1.tally = (p.checkout env.now timeout).1.tally := by
  have hn : (p.noteExpired env (p.spoiledByCheckout env.now)).now = env.now := by simp
  unfold arrive
  dsimp only
  split <;> rename_i hm <;> rw [hn] at hm
  · exact congrArg (·.1.tally) hm.symm
  · exact congrArg (·.1.tally) hm.symm
  · exact congrArg (·.1.tally) hm.symm
  · rw [hm]
    exact congrArg Pool.tally (pool_refuse _)

/-- **What a step of a request enters in the tally.** -/
theorem tally_step {a : Acquiring} {s : Stepped Acquiring Acquired} (h : a.step env p = some s) :
    s.2.1.tally = a.entered p s.2.2 p.tally := by
  cases a with
  | arriving timeout =>
    cases h
    rw [tally_arrive, entered, queues_arrive]
    split
    · rename_i hc
      rw [Pool.checkout_closed hc]
    · rename_i hc
      exact Pool.tally_checkout (by simpa using hc)
  | queued ticket cutoff timeout =>
    simp only [step] at h
    split at h
    · cases h
      rw [pool_conclude]
      rfl
    · split at h
      · cases h
        rw [pool_refuse]
        rfl
      · simp only [Option.ite_none_right_eq_some, Option.some.injEq] at h
        obtain ⟨-, rfl⟩ := h
        rfl
  | givingUp ticket timeout =>
    cases h
    rw [pool_conclude]
    exact Pool.tally_giveUp ticket
  | calling deadline timeout =>
    simp only [step] at h
    obtain ⟨x, ho, rfl⟩ := Option.map_eq_some_iff.1 h
    rw [pool_afterOpening]
    exact Opening.tally_step ho
  | dialing o cutoff timeout =>
    simp only [step] at h
    split at h
    · rename_i x ho
      cases h
      rw [pool_afterOpening]
      exact Opening.tally_step ho
    · simp only [Option.ite_none_right_eq_some, Option.some.injEq] at h
      obtain ⟨-, rfl⟩ := h
      rfl
  | takingOver m elapsed =>
    cases h
    rw [pool_conclude]
    exact Pool.tally_takeOver elapsed
  | countingFailure e =>
    cases h
    rfl
  | vacating e =>
    cases h
    exact Pool.tally_vacateRoom
  | failing e =>
    cases h
    rfl

end Acquiring

namespace Adding

/-- What a step of a worker that adds a member enters in the tally. -/
def entered (c : Counters) (a : Adding) : Counters :=
  match a.phase with
  | .joining _ elapsed => c.countOpened elapsed
  | .failing _ => { c with connectionsErrors := c.connectionsErrors + 1 }
  | .opening _ | .resting _ | .releasing _ => c

theorem tally_fail (a : Adding) (e : SessionError) :
    (a.fail env p e).2.1.tally = p.countFailedOpening.tally := by
  unfold fail
  dsimp only
  split
  · rfl
  · split <;> rfl

theorem tally_step {a : Adding} {s : Stepped Adding Unit} (h : a.step env p = some s) :
    s.2.1.tally = a.entered p.tally := by
  obtain ⟨waiter, attempt, delay, phase⟩ := a
  cases phase with
  | opening o =>
    simp only [step] at h
    split at h
    · cases h
      rfl
    · obtain ⟨x, ho, rfl⟩ := Option.map_eq_some_iff.1 h
      exact Opening.tally_step ho
  | joining m elapsed =>
    cases h
    exact Pool.tally_join elapsed
  | failing e =>
    cases h
    exact tally_fail _ e
  | resting timer =>
    simp only [step] at h
    split at h
    · cases h
      rfl
    · obtain ⟨-, rfl⟩ := by simpa using h
      rfl
  | releasing e =>
    cases h
    exact Pool.tally_releaseRoom waiter e

end Adding

/-- No job but that of adding a member enters anything. -/
theorem Job.tally_step {j : Job} (hj : ∀ a, j ≠ .adding a) {s : Stepped Job Unit}
    (h : j.step env p = some s) : s.2.1.tally = p.tally := by
  cases j with
  | adding a => exact absurd rfl (hj a)
  | returning r =>
    obtain ⟨x, hr, rfl⟩ := Option.map_eq_some_iff.1 h
    exact Pool.tally_of_step (f := fun p => r.step env p) r.step_under hr
  | closing m =>
    cases h
    rfl
  | maintaining =>
    cases h
    exact Pool.tally_of_under (f := (Pool.maintain · env.now)) fun _ => Pool.under_maintain

namespace Operation

/-- No operation but a request enters anything. -/
theorem tally_step {o : Operation} (ho : ∀ a, o ≠ .acquire a) {s : Stepped Operation Outcome}
    (h : o.step env p = some s) : s.2.1.tally = p.tally := by
  cases o with
  | acquire a => exact absurd rfl (ho a)
  | release r =>
    obtain ⟨x, hr, rfl⟩ := Option.map_eq_some_iff.1 h
    exact Pool.tally_of_step (f := fun p => r.step env p) r.step_under hr
  | misplace m =>
    cases h
    exact Pool.tally_returnLater
  | wait w =>
    obtain ⟨x, hw, rfl⟩ := Option.map_eq_some_iff.1 h
    exact Pool.tally_of_step (f := fun p => w.step env p) w.step_under hw
  | check c =>
    obtain ⟨x, hc, rfl⟩ := Option.map_eq_some_iff.1 h
    exact Pool.tally_of_step (f := fun p => c.step env p) c.step_under hc
  | close c =>
    obtain ⟨x, hc, rfl⟩ := Option.map_eq_some_iff.1 h
    exact Pool.tally_of_step (f := fun p => c.step env p) c.step_under hc

/-- Who gives an operation up enters nothing. -/
theorem tally_cancel (x : Operation) : (x.cancel env p).2.tally = p.tally :=
  Pool.tally_of_under (f := fun p => (x.cancel env p).2) fun _ => congrArg Prod.snd x.cancel_under

end Operation

end SessionPool
