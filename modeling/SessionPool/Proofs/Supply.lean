import SessionPool.Proofs.Arrival
import SessionPool.Proofs.Errand

/-!
# Sessions on their way

Once a pool has had the sessions opened that it wants (`Pool.topUp`), it wants none any more
(`Pool.toppedUp_topUp`), and so it is after every move with which that is done
(`Site.toppedUp_move`). What follows for the requests that wait depends on who opens the sessions:
those that the crew opens go to the requests that wait, those that a request opens for itself do
not, and the pool counts both alike. In a pool that keeps its sessions no request opens one itself
(`Site.Reachable.not_dialing`), so each request that waits has a session on its way as far as there
is room. In a pool that keeps none, as many may be missing as other requests open for themselves
(`Site.supplied`), and they are (`Site.unsupplied`).
-/

set_option autoImplicit false

namespace SessionPool

namespace Pool

variable {p q : Pool}

/-! ## Nothing is wanted any more -/

/-- The pool has had the sessions opened that it wants: to do so again would change nothing. -/
def ToppedUp (p : Pool) : Prop := p.topUp = p

theorem wantsMore_eq_false_iff :
    p.wantsMore = false ↔
      p.isFull = true ∨ p.minSize ≤ p.size ∧ p.waiting.length ≤ p.opening := by
  simp only [wantsMore, Bool.and_eq_false_iff, Bool.or_eq_false_iff, decide_eq_false_iff_not,
    not_lt, Bool.not_eq_false']
  exact or_comm

/-- A pool that is closed, or has nobody to open sessions, has none opened. -/
theorem toppedUp_of_shut (h : p.closed = true ∨ p.crew.stopped = true) : p.ToppedUp :=
  if_pos (by simpa using h)

theorem toppedUp_of_not_wantsMore (h : p.wantsMore = false) : p.ToppedUp := by
  unfold ToppedUp topUp
  split
  · rfl
  · rw [addWanted, if_neg (by simp [h])]

theorem ToppedUp.not_wantsMore (h : p.ToppedUp) (hc : p.closed = false)
    (hs : p.crew.stopped = false) : p.wantsMore = false := by
  have due : p.due = 0 := topUp_eq_self_iff.1 h
  rw [Pool.due, if_neg (by simp [hc, hs])] at due
  rw [← Bool.not_eq_true, wantsMore_iff, due]
  exact Nat.lt_irrefl 0

/-- What is done to a pool that is topped up leaves it so, if it does when the pool is open. -/
theorem ToppedUp.of_terms (h : p.ToppedUp) (ht : q.terms = p.terms)
    (ho : p.crew.stopped = false → p.wantsMore = false → q.wantsMore = false) : q.ToppedUp := by
  have hc : q.closed = p.closed := congrArg Terms.closed ht
  have hs : q.crew.stopped = p.crew.stopped := congrArg Terms.stopped ht
  by_cases hp : p.closed = true ∨ p.crew.stopped = true
  · exact toppedUp_of_shut (by rwa [hc, hs])
  · simp only [not_or, Bool.not_eq_true] at hp
    exact toppedUp_of_not_wantsMore (ho hp.2 (h.not_wantsMore hp.1 hp.2))

/-- **One round is enough.** -/
theorem toppedUp_topUp (p : Pool) : p.topUp.ToppedUp := p.topUp_topUp

/-! ## After which a pool is topped up -/

theorem toppedUp_breakOff (p : Pool) (m : Member) : (p.breakOff m).ToppedUp :=
  (toppedUp_topUp (p.drop 1)).of_terms rfl fun _ hw => hw

theorem toppedUp_settle (p : Pool) {m : Member} {now : Instant} {f : Fitness}
    (h : f = .fit → m.isExpired now = true) : (p.settle m now f).ToppedUp := by
  cases f with
  | fit =>
    have he : (touch m now).isExpired now = true := h rfl
    unfold settle
    dsimp only
    rw [if_pos he]
    exact toppedUp_topUp _
  | unfit | lost => exact toppedUp_topUp _

theorem toppedUp_judge (p : Pool) (m : Member) {health : Health}
    (h : health.isHealthy = false) (now : Instant) : (p.judge m health now).ToppedUp := by
  unfold judge
  rw [if_neg (by simp [h])]
  exact toppedUp_topUp _

theorem toppedUp_maintain (hc : p.closed = false) (now : Instant) : (p.maintain now).ToppedUp := by
  unfold maintain
  rw [if_neg (by simp [hc])]
  exact toppedUp_topUp _

theorem toppedUp_resize {minSize : Nat} {maxSize : Option Nat}
    (h : p.resize minSize maxSize = .ok q) : q.ToppedUp := by
  unfold resize at h
  split at h
  · cases h
  · split at h
    · cases h
    · cases h
      exact toppedUp_topUp _

variable {now : Instant}

theorem toppedUp_takeIdle (h : (p.spoiled now).isEmpty = false) : (p.takeIdle now).1.ToppedUp := by
  unfold takeIdle
  dsimp only
  rw [if_neg (by simp [h])]
  exact toppedUp_topUp _

theorem toppedUp_tryTake (h : (p.spoiledByTry now).isEmpty = false) :
    (p.tryTake now).1.ToppedUp := by
  unfold spoiledByTry at h
  split at h
  · rename_i ho
    obtain ⟨hc, hw⟩ : p.closed = false ∧ p.waiting.isEmpty = true := by simpa using ho
    unfold tryTake
    rw [if_neg (by simp [hc])]
    dsimp only
    split
    · exact toppedUp_takeIdle h
    · rename_i hn
      exact absurd hw hn
  · cases h

theorem wantsMore_reserve (h : p.wantsMore = false) : p.reserve.wantsMore = false := by
  rw [wantsMore_eq_false_iff] at h ⊢
  rcases h with h | ⟨hs, hw⟩
  · obtain ⟨limit, hm, hl⟩ := (Option.any_eq_true _ _).1 h
    have hl' : limit ≤ p.size + 1 := Nat.le_succ_of_le (of_decide_eq_true hl)
    exact .inl ((Option.any_eq_true _ _).2 ⟨limit, hm, decide_eq_true hl'⟩)
  · exact .inr ⟨Nat.le_succ_of_le hs, Nat.le_succ_of_le hw⟩

theorem wantsMore_dispatchAdd (hs : p.crew.stopped = false) (waiter : Option Nat) :
    (p.dispatchAdd waiter).1.wantsMore = p.reserve.wantsMore := by
  unfold dispatchAdd
  rcases p.crew.dispatch_cases (.add waiter) with ⟨hs', -⟩ | ⟨-, hd⟩
  · rw [hs] at hs'
    cases hs'
  · rw [hd]
    rfl

/-- If only one session is missing, it is enough to have one opened. -/
theorem wantsMore_addOne (hs : p.crew.stopped = false) (waiter : Option Nat)
    (h : p.isFull = true ∨ p.minSize ≤ p.size ∧ p.waiting.length ≤ p.opening + 1) :
    (if p.opening < p.waiting.length && !p.isFull then (p.dispatchAdd waiter).1
      else p).wantsMore = false := by
  cases hf : p.isFull with
  | true =>
    rw [if_neg (by simp)]
    exact wantsMore_eq_false_iff.2 (.inl hf)
  | false =>
    obtain ⟨hsize, hw⟩ := h.resolve_left (by simp [hf])
    by_cases ho : p.opening < p.waiting.length
    · rw [if_pos (by simp [ho]), wantsMore_dispatchAdd hs]
      exact wantsMore_eq_false_iff.2 (.inr ⟨Nat.le_succ_of_le hsize, hw⟩)
    · rw [if_neg (by simp [ho])]
      exact wantsMore_eq_false_iff.2 (.inr ⟨hsize, not_lt.1 ho⟩)

/-- A request that joins the line has a session opened on its behalf if one is wanted. -/
theorem wantsMore_enqueue (hs : p.crew.stopped = false) (h : p.wantsMore = false)
    (timeout : Duration) : (p.enqueue now timeout).1.wantsMore = false := by
  have hl : (p.waiting.enqueue now timeout).1.length = p.waiting.length + 1 := by
    simp [WaitQueue.enqueue, WaitQueue.length]
  unfold enqueue
  dsimp only
  rw [apply_ite Prod.fst]
  refine wantsMore_addOne (p := { p.count _ with waiting := _ }) hs _ ?_
  exact (wantsMore_eq_false_iff.1 h).imp_right fun h =>
    ⟨h.1, hl.trans_le (Nat.succ_le_succ h.2)⟩

theorem ToppedUp.checkoutElse (h : p.ToppedUp) (timeout : Duration) :
    (p.checkoutElse now timeout).1.ToppedUp := by
  refine h.of_terms (Handled.checkoutElse now timeout).terms fun hs hw => ?_
  unfold Pool.checkoutElse
  dsimp only
  split
  · exact hw
  · split
    · exact wantsMore_reserve hw
    · exact wantsMore_enqueue hs hw timeout

theorem toppedUp_checkout (h : (p.spoiledByCheckout now).isEmpty = false) (timeout : Duration) :
    (p.checkout now timeout).1.ToppedUp := by
  unfold spoiledByCheckout at h
  split at h
  · rename_i ho
    obtain ⟨hc, hw⟩ : p.closed = false ∧ (p.waiting.expire now).1.isEmpty = true := by
      simpa using ho
    have hw : (p.greet now).waiting.isEmpty = true := hw
    have ht : ((p.greet now).takeIdle now).1.ToppedUp := toppedUp_takeIdle h
    unfold checkout
    rw [if_neg (by simp [hc])]
    dsimp only
    rw [if_pos hw]
    split <;> rename_i hm <;> rw [hm] at ht
    · exact ht
    · exact ht.checkoutElse timeout
  · cases h

/-! ## Requests that open sessions themselves -/

/-- A request is admitted to open a session itself only if the pool keeps none. -/
theorem isNull_of_checkout {now : Instant} {timeout : Duration}
    (h : p.checkout now timeout = (q, .dial)) : p.isNull = true := by
  have hs : q.settings = p.settings := by
    have ht := congrArg Terms.settings (Handled.checkout (p := p) now timeout).terms
    rwa [h] at ht
  have admitted {r : Pool} (hr : r.checkoutElse now timeout = (q, .dial)) : q.isNull = true := by
    unfold checkoutElse at hr
    dsimp only at hr
    split at hr
    · cases hr
    · split at hr
      · rename_i hn
        cases hr
        exact (Bool.and_eq_true_iff.1 (Bool.and_eq_true_iff.1 hn).1).1
      · cases hr
  have hq : q.isNull = true := by
    unfold checkout at h
    split at h
    · cases h
    · dsimp only at h
      split at h
      · split at h
        · cases h
        · exact admitted h
      · exact admitted h
  rwa [isNull, hs] at hq

end Pool

/-! ## Steps with which a pool is topped up -/

/-- Whether the step with which a return comes to its end has the pool topped up. -/
def Returning.topsUp (now : Instant) : Returning → Bool
  | settling m f => decide (f ≠ .fit) || m.isExpired now
  | arriving _ | closing _ | resetting _ | paused _ _ => false

/-- Whether the next step of a job has the pool topped up. -/
def Job.topsUp (env : Env) (p : Pool) : Job → Bool
  | returning r => r.topsUp env.now
  | maintaining => !p.closed
  | adding _ | closing _ => false

/-- Whether the next step of an operation has the pool topped up. -/
def Operation.topsUp (env : Env) (p : Pool) : Operation → Bool
  | acquire (.arriving _) => !(p.spoiledByCheckout env.now).isEmpty
  | acquire (.vacating _) => true
  | release r => r.topsUp env.now
  | check (.judging _ _ health) => !health.isHealthy
  | acquire _ | misplace _ | wait _ | check _ | close _ => false

/-- Whether the pool is topped up when the operation is given up. -/
def Operation.topsUpDropped : Operation → Bool
  | acquire (.dialing _ _ _) | release (.paused _ _) | check (.paused _ _ _) => true
  | acquire _ | release _ | misplace _ | wait _ | check _ | close _ => false

section

variable {env env' : Env} {p q : Pool}

theorem Returning.toppedUp {r : Returning} {next : Next Returning Unit}
    (h : r.step env p = some (env', q, next)) (ht : r.topsUp env.now = true) : q.ToppedUp := by
  cases r with
  | settling m f =>
    have hs : (settle env p m f).2.1 = p.settle m env.now f := by
      unfold settle
      dsimp only
      split <;> rfl
    have hq : (settle env p m f).2.1 = q :=
      congrArg (fun x : Stepped Returning Unit => x.2.1) (Option.some.inj h)
    rw [← hq, hs]
    refine Pool.toppedUp_settle p fun hf => ?_
    subst hf
    simpa [topsUp] using ht
  | arriving _ | closing _ | resetting _ | paused _ _ => cases ht

theorem Job.toppedUp {j : Job} {next : Next Job Unit} (h : j.step env p = some (env', q, next))
    (ht : j.topsUp env p = true) : q.ToppedUp := by
  cases j with
  | returning r =>
    obtain ⟨⟨env₁, q₁, next₁⟩, hr, he⟩ := Option.map_eq_some_iff.1 h
    cases he
    exact r.toppedUp hr ht
  | maintaining =>
    cases h
    exact Pool.toppedUp_maintain (by simpa [topsUp] using ht) env.now
  | adding _ | closing _ => cases ht

theorem Acquiring.pool_arrive (timeout : Duration) :
    (arrive env p timeout).2.1 = (p.checkout env.now timeout).1 := by
  have hn : (p.noteExpired env (p.spoiledByCheckout env.now)).now = env.now := by simp
  unfold arrive
  dsimp only
  split <;> rename_i hm <;> rw [hn] at hm <;> rw [hm]
  · rfl
  · unfold refuse
    split <;> rfl

theorem Operation.toppedUp {o : Operation} {next : Next Operation Outcome}
    (h : o.step env p = some (env', q, next)) (ht : o.topsUp env p = true) : q.ToppedUp := by
  cases o with
  | acquire a =>
    obtain ⟨⟨env₁, q₁, next₁⟩, ha, he⟩ := Option.map_eq_some_iff.1 h
    cases he
    cases a with
    | arriving timeout =>
      have hq : (Acquiring.arrive env p timeout).2.1 = q :=
        congrArg (fun x : Stepped Acquiring Acquired => x.2.1) (Option.some.inj ha)
      rw [← hq, Acquiring.pool_arrive]
      exact Pool.toppedUp_checkout (by simpa [topsUp] using ht) timeout
    | vacating e =>
      cases ha
      exact Pool.toppedUp_topUp _
    | queued | givingUp | calling | dialing | takingOver | countingFailure | failing => cases ht
  | release r =>
    obtain ⟨⟨env₁, q₁, next₁⟩, hr, he⟩ := Option.map_eq_some_iff.1 h
    cases he
    exact r.toppedUp hr ht
  | check c =>
    obtain ⟨⟨env₁, q₁, next₁⟩, hc, he⟩ := Option.map_eq_some_iff.1 h
    cases he
    cases c with
    | judging left m health =>
      cases hc
      exact Pool.toppedUp_judge p m (by simpa [topsUp] using ht) _
    | starting | counting | picking | probing | paused => cases ht
  | misplace _ | wait _ | close _ => cases ht

theorem Operation.toppedUp_dropped {o : Operation} (h : o.topsUpDropped = true) :
    (o.cancel env p).2.ToppedUp := by
  cases o with
  | acquire a =>
    cases a with
    | dialing o cutoff timeout => exact Pool.toppedUp_topUp _
    | arriving | queued | givingUp | calling | takingOver | countingFailure | vacating | failing =>
      cases h
  | release r =>
    cases r with
    | paused m pause => exact Pool.toppedUp_breakOff p m
    | arriving | closing | resetting | settling => cases h
  | check c =>
    cases c with
    | paused left m pause => exact Pool.toppedUp_breakOff p m
    | starting | counting | picking | probing | judging => cases h
  | misplace _ | wait _ | close _ => cases h

end

namespace Site

variable {env env' : Env} {s s' : Site}

/-- Whether a move has the pool topped up. -/
def topsUp (env : Env) (s : Site) : Move → Bool
  | .step (.worker k) => (Table.get? s.jobs k).any fun j => j.topsUp env s.pool
  | .step (.user n) => (Table.get? s.operations n).any fun o => o.topsUp env s.pool
  | .cancel n => (Table.get? s.operations n).any Operation.topsUpDropped
  | .tryAcquire => !(s.pool.spoiledByTry env.now).isEmpty
  | .detach id => (s.heldMember? id).isSome
  | .resize lo hi => (s.pool.resize lo hi).isOk
  | _ => false

/-- **After a move that has the pool topped up it is so.** -/
theorem toppedUp_move {mv : Move} (h : s.move? env mv = some (env', s'))
    (ht : s.topsUp env mv = true) : s'.pool.ToppedUp := by
  have keyed {ν : Type} {x : Option ν} {v : ν} {f : ν → Bool} (hg : x = some v)
      (hf : x.any f = true) : f v = true := by
    subst hg
    exact hf
  cases moved h with
  | worked hg hj => exact Job.toppedUp hj (keyed hg ht)
  | finished hg hj => exact (Job.toppedUp hj (keyed hg ht)).of_terms rfl fun _ hw => hw
  | sought hg | took hg => simp [topsUp, hg] at ht
  | wentOn hg ho => exact Operation.toppedUp ho (keyed hg ht)
  | ended hg ho => exact Operation.toppedUp ho (keyed hg ht)
  | cancelled hg _ => exact Operation.toppedUp_dropped (keyed hg ht)
  | taken hq | untaken hq =>
    have hp := Pool.toppedUp_tryTake (p := s.pool) (by simpa [topsUp] using ht)
    rwa [hq] at hp
  | detach _ => exact Pool.toppedUp_topUp _
  | unheld hv hm => rcases hv with rfl | rfl | rfl <;> simp [topsUp, hm] at ht
  | resized hq => exact Pool.toppedUp_resize hq
  | unsized hq => simp [topsUp, hq, Except.isOk, Except.toBool] at ht
  | ticked | closed | acquire | wait | check | close | release | misplace | giveBack | leaveBehind
  | abandoned | use | resetCounters | readOutcome | passed => cases ht

/-! ## Who opens sessions -/

/-- How many sessions the crew is to open. -/
def creations (s : Site) : Nat := s.pool.adds + s.jobs.countP fun j => j.2.isAdding

/-- How many requests open a session for themselves. -/
def dials (s : Site) : Nat := s.operations.countP fun o => o.2.isDialing

/-- **No request of a pool that keeps its sessions opens one itself.** -/
theorem Reachable.not_dialing (h : Reachable env s) (hn : s.pool.isNull = false) {n : Nat}
    {o : Operation} (ho : Table.get? s.operations n = some o) : o.isDialing = false := by
  induction h generalizing n o with
  | created h =>
    obtain ⟨p, -, -, -, -, -, -, rfl⟩ := create_ok h
    cases ho
  | @moved env env' s s' mv hr hm ih =>
    have hs := (hr.steady hm).settings
    have hn : s.pool.isNull = false := by rwa [Pool.isNull, hs] at hn
    refine Bool.eq_false_iff.2 fun hd => ?_
    rcases dialing_move hr.keyed hm ho hd with ⟨o₀, hg, hd⟩ | ⟨a, a', q, ha, hr₀, hr₁⟩
    · rw [ih hn hg] at hd
      cases hd
    · obtain ⟨timeout, r, hc⟩ := Acquiring.checkout_of_dialing ha hr₀ hr₁
      rw [Pool.isNull_of_checkout hc] at hn
      cases hn

theorem Reachable.dials_eq_zero (h : Reachable env s) (hn : s.pool.isNull = false) :
    s.dials = 0 := by
  refine List.countP_eq_zero.2 fun ⟨n, o⟩ hm => ?_
  simp [h.not_dialing hn (Table.get?_of_mem h.keyed.operations hm)]

/-! ## The requests that wait -/

/-- They have sessions on their way, as far as there is room. -/
structure Supplied (s : Site) : Prop where
  least : s.pool.isFull = true ∨ s.pool.minSize ≤ s.pool.size
  /-- Not more are missing than are opened by requests for themselves. -/
  all : s.pool.isFull = true ∨ s.pool.waiting.length ≤ s.creations + s.dials
  /-- None is missing if the pool keeps its sessions. -/
  kept : s.pool.isNull = false → s.pool.isFull = true ∨ s.pool.waiting.length ≤ s.creations

/-- **The requests that wait have sessions on their way**, whenever an open pool has had the
sessions opened that it wants. -/
theorem supplied (h : Reachable env s) (hc : s.pool.closed = false) (ht : s.pool.ToppedUp) :
    s.Supplied := by
  have hs : s.pool.crew.stopped = false :=
    Bool.eq_false_iff.2 fun hs => by simp [h.orderlyShut.stopped hs] at hc
  have hw := Pool.wantsMore_eq_false_iff.1 (ht.not_wantsMore hc hs)
  have ho : s.pool.opening = s.creations + s.dials := h.opening_eq
  have all : s.pool.isFull = true ∨ s.pool.waiting.length ≤ s.creations + s.dials :=
    hw.imp_right fun hw => ho ▸ hw.2
  refine ⟨hw.imp_right And.left, all, fun hn => all.imp_right fun hl => ?_⟩
  rwa [h.dials_eq_zero hn, add_zero] at hl

/-- A session is opened for a request that waits when a member is taken out of the pool. -/
def oneDetached : List Move :=
  [.step (.worker 0), .step (.worker 0), .step (.worker 0), .acquire 0 (.ofSecs 30),
    .step (.user 0), .acquire 1 (.ofSecs 30), .step (.user 1)]

theorem supplied_detach :
    ∃ x env' s', replay { smallPool with maxSize := some 2 } oneDetached = some x ∧
      x.2.move? x.1 (.detach 1) = some (env', s') ∧ s'.pool.isFull = false ∧
      s'.pool.waiting.length = 1 ∧ s'.Supplied := by
  obtain ⟨x, hx, hp, hr⟩ := Reachable.of_replay { smallPool with maxSize := some 2 } oneDetached
    (fun x => (x.2.heldMember? 1).isSome ∧ (x.2.move? x.1 (.detach 1)).any fun y =>
      y.2.pool.closed = false ∧ y.2.pool.isFull = false ∧ y.2.pool.waiting.length = 1)
    (by decide +kernel)
  obtain ⟨hh, hp⟩ := of_decide_eq_true hp
  obtain ⟨⟨env', s'⟩, hm, hd⟩ := (Option.any_eq_true _ _).1 hp
  obtain ⟨hc, hf, hw⟩ := of_decide_eq_true hd
  exact ⟨x, env', s', hx, hm, hf, hw, supplied (hr.moved hm) hc (toppedUp_move hm hh)⟩

/-- A pool for two sessions that keeps none. -/
def passingPool : PoolSettings := { PoolSettings.nullPool with maxSize := some 2, workers := 1 }

/-- Three requests come to a pool for two: the first is served, the second opens a session itself,
and the third waits. -/
def threeRequests : List Move :=
  [.step (.worker 0), .step (.worker 0), .step (.worker 0), .acquire 0 (.ofSecs 30),
    .step (.user 0), .step (.user 0), .step (.user 0), .acquire 1 (.ofSecs 30), .step (.user 1),
    .acquire 2 (.ofSecs 30), .step (.user 2)]

/-- **A request may wait with no session on its way although there is room:** a member is taken out
of a pool that keeps none while another request opens a session for itself. -/
theorem unsupplied :
    ∃ x env' s', replay passingPool threeRequests = some x ∧
      x.2.move? x.1 (.detach 2) = some (env', s') ∧ Reachable env' s' ∧
      s'.pool = (x.2.pool.drop 1).topUp ∧ s'.pool.ToppedUp ∧ s'.pool.closed = false ∧
      ¬(s'.pool.isFull = true ∨ s'.pool.waiting.length ≤ s'.creations) := by
  obtain ⟨x, hx, hp, hr⟩ := Reachable.of_replay passingPool threeRequests
    (fun x => (x.2.heldMember? 2).isSome ∧ (x.2.move? x.1 (.detach 2)).any fun y =>
      y.2.pool.closed = false ∧
        ¬(y.2.pool.isFull = true ∨ y.2.pool.waiting.length ≤ y.2.creations))
    (by decide +kernel)
  obtain ⟨hh, hp⟩ := of_decide_eq_true hp
  obtain ⟨⟨env', s'⟩, hm, hd⟩ := (Option.any_eq_true _ _).1 hp
  obtain ⟨hc, hf⟩ := of_decide_eq_true hd
  have hp : s'.pool = (x.2.pool.drop 1).topUp := by
    cases moved hm with
    | detach _ => rfl
    | unheld hv hn =>
      rcases hv with hv | hv | hv <;> cases hv
      simp [hn] at hh
  exact ⟨x, env', s', hx, hm, hr.moved hm, hp, toppedUp_move hm hh, hc, hf⟩

end Site

end SessionPool
