import SessionPool.Proofs.Answer
import SessionPool.Proofs.Arrival
import SessionPool.Proofs.Attempts
import SessionPool.Proofs.Expiry
import SessionPool.Proofs.Told

/-!
# Why requests fail

A request that fails does so for a cause of its own (`Site.Call.Cause`): too many others waited when
it arrived, its time was up when it was told so or gave up, the pool was closed, or the session
could not be opened that it was to open itself or that was to be opened on its behalf. While it is
under way, what it is about to do agrees with what has happened since it arrived
(`Site.Call.Stands`), and so does what it is told (`Site.Call.Waits`); each of its own steps keeps
this up (`Site.Call.leads_step`), and so does whatever others do (`Site.Call.stands_move`).
Therefore every failure has its cause (`Site.Course.failure_cause`).
-/

set_option autoImplicit false

namespace SessionPool

namespace Pool

variable {p q : Pool} {now : Instant} {timeout : Duration}

theorem front_takeIdle (p : Pool) (now : Instant) : (p.takeIdle now).1.front =
    { p.front with idle := (p.idle.dropWhile (·.isExpired now)).tail } := by
  unfold takeIdle
  dsimp only
  split
  · exact front_discardAll _ _
  · exact (front_topUp _).trans (front_discardAll _ _)

theorem checkout_cases {c : Checkout} (h : p.checkout now timeout = (q, c)) :
    (c = .refused .closed ∧ p.closed = true) ∨ (∃ m, c = .ready m) ∨
    ∃ p₁ : Pool, p.closed = false ∧ p₁.waiting = (p.waiting.expire now).1 ∧
      p₁.settings = p.settings ∧ p₁.crew.stopped = p.crew.stopped ∧
      p₁.checkoutElse now timeout = (q, c) := by
  unfold checkout at h
  split at h
  · rename_i hc
    cases h
    exact .inl ⟨rfl, hc⟩
  · rename_i hc
    have hc : p.closed = false := by simpa using hc
    dsimp only at h
    split at h
    · have taken := Quiet.takeIdle (p := p.greet now) now
      have front := (p.greet now).front_takeIdle now
      split at h <;> rename_i ht <;> rw [ht] at taken front
      · cases h
        exact .inr (.inl ⟨_, rfl⟩)
      · exact .inr (.inr ⟨_, hc, congrArg Front.waiting front, congrArg Front.settings front,
          taken.crew.stopped, h⟩)
    · exact .inr (.inr ⟨p.greet now, hc, rfl, rfl, rfl, h⟩)

theorem refused_of_checkout (hs : p.waiting.Sound) {e : PoolError}
    (h : p.checkout now timeout = (q, .refused e)) :
    (e = .closed ∧ p.closed = true) ∨
    ∃ limit, e = .tooManyRequests limit ∧ p.settings.maxWaiting = limit ∧ 0 < limit ∧
      limit ≤ (p.waiting.live now).length := by
  rcases checkout_cases h with ⟨he, hc⟩ | ⟨m, hm⟩ | ⟨p₁, -, hw, hset, -, h⟩
  · cases he
    exact .inl ⟨rfl, hc⟩
  · cases hm
  · unfold checkoutElse at h
    dsimp only at h
    split at h
    · rename_i hl
      cases h
      obtain ⟨h0, hl⟩ := by simpa using hl
      refine .inr ⟨_, rfl, hset ▸ rfl, h0, hl.trans ?_⟩
      have kept : q.waiting.requests = p.waiting.live now := by
        rw [hw, WaitQueue.expire_eq]
        exact List.filter_congr fun r hr => by rw [hs.isStale_iff hr]
      exact (congrArg List.length kept).le
    · split at h <;> cases h

theorem queued_of_checkout (hs : p.waiting.Sound) (ho : p.crew.stopped = true → p.closed = true)
    {t : Nat} (h : p.checkout now timeout = (q, .queued t)) :
    q.waiting.reply? t = none ∧ ∀ r ∈ q.waiting.requests, r.ticket = t →
      r.deadline = now.after timeout ∧ r.timeout = timeout := by
  rcases checkout_cases h with ⟨he, -⟩ | ⟨m, hm⟩ | ⟨p₁, hc, hw, -, hst, h⟩
  · cases he
  · cases hm
  · have hst : p₁.crew.stopped = false := by
      rw [hst]
      exact Bool.eq_false_iff.2 fun hn => by simp [ho hn] at hc
    have joined : t = p₁.waiting.nextTicket ∧ q.waiting = (p₁.waiting.enqueue now timeout).1 := by
      unfold checkoutElse at h
      dsimp only at h
      split at h
      · cases h
      · split at h
        · cases h
        · unfold enqueue at h
          dsimp only at h
          split at h
          · cases h
            refine ⟨rfl, ?_⟩
            simp [dispatchAdd, Crew.dispatch, hst, count, reserve]
          · cases h
            exact ⟨rfl, rfl⟩
    have sound : p₁.waiting.Sound := hw ▸ hs.expire now
    obtain ⟨rfl, hq⟩ := joined
    rw [hq]
    refine ⟨?_, fun r hr ht => ?_⟩
    · exact (sound.enqueue now timeout).reply?_of_waiting (by simp [WaitQueue.enqueue,
        WaitQueue.isWaiting])
    · rcases List.mem_append.1 hr with hr | hr
      · have issued := sound.issued r.ticket (by simpa [WaitQueue.hears] using sound.hears hr)
        omega
      · rw [List.mem_singleton.1 hr]
        exact ⟨rfl, rfl⟩

end Pool

namespace Acquiring

def hasGivenUp : Acquiring → Bool
  | givingUp _ _ | vacating (.timeout _) => true
  | arriving _ | queued _ _ _ | calling _ _ | dialing _ _ _ | takingOver _ _ | countingFailure _
  | vacating _ | failing _ => false

end Acquiring

namespace Site

variable {env env' : Env} {s s' : Site} {past : List Moment} {mv : Move} {n t : Nat} {e : PoolError}

/-! ## What happens to a request -/

namespace Moment

/-- With the move of this moment an answer comes to lie ready for a request that waits under a
ticket. -/
structure Answers (y : Moment) (s' : Site) (n t : Nat) (result : Acquired) : Prop where
  leads : ∃ env', y.site.move? y.env y.move = some (env', s')
  waits : ∃ a, Table.get? y.site.operations n = some (.acquire a) ∧ a.ticket? = some t
  before : y.site.pool.waiting.reply? t ≠ some result
  after : s'.pool.waiting.reply? t = some result

def GivesUp (y : Moment) (n : Nat) : Prop :=
  y.move = .step (.user n) ∧ ∃ a env' q a', Table.get? y.site.operations n = some (.acquire a) ∧
    a.hasGivenUp = false ∧ a.step y.env y.site.pool = some (env', q, .more a') ∧
    a'.hasGivenUp = true

def FailsToDial (y : Moment) (n : Nat) (e : SessionError) : Prop :=
  y.move = .step (.user n) ∧ ∃ a o, Table.get? y.site.operations n = some (.acquire a) ∧
    a.opening? = some o ∧ o.Fails y.env y.site.pool e

/-- At this moment a request finds the pool closed when it takes over the session that it has
opened itself. -/
def ComesTooLate (y : Moment) (n : Nat) : Prop :=
  y.move = .step (.user n) ∧ y.site.pool.closed = true ∧
    ∃ m elapsed, Table.get? y.site.operations n = some (.acquire (.takingOver m elapsed))

/-- At this moment a worker gives up, because of an error, the room for the session that it was to
open on behalf of the request with a ticket. -/
def GivesUpRoom (y : Moment) (k t : Nat) (e : SessionError) : Prop :=
  y.move = .step (.worker k) ∧ ∃ a, Table.get? y.site.jobs k = some (.adding a) ∧
    a.waiter = some t ∧ a.phase = .releasing (.connect e)

end Moment

/-- A request, and what has happened since it arrived. -/
structure Call where
  /-- The number of the operation. -/
  number : Nat
  timeout : Duration
  /-- What the pool had been through before. -/
  earlier : List Moment
  arrival : Moment
  /-- What has happened since, the latest first. -/
  since : List Moment

namespace Call

variable {c : Call} {y : Moment}

def deadline (c : Call) : Instant := c.arrival.env.now.after c.timeout

/-- Why a request fails with an error. -/
inductive Cause (c : Call) : PoolError → Prop
  /-- As many waited as may wait whose time was not up, and no member was unused. -/
  | crowded {limit : Nat} (hl : c.arrival.site.pool.settings.maxWaiting = limit) (h0 : 0 < limit)
      (hw : limit ≤ (c.arrival.site.pool.waiting.live c.arrival.env.now).length)
      (hi : c.arrival.site.pool.idle = []) : Cause c (.tooManyRequests limit)
  /-- It was told that its time was up, and it was. -/
  | expired {y : Moment} {s' : Site} {t : Nat} (hy : y ∈ c.since)
      (ha : y.Answers s' c.number t (.error (.timeout c.timeout)))
      (hd : c.deadline ≤ y.env.now) : Cause c (.timeout c.timeout)
  | gaveUp {y : Moment} (hy : y ∈ c.since) (hg : y.GivesUp c.number)
      (hd : c.deadline ≤ y.env.now) : Cause c (.timeout c.timeout)
  | refused (h : c.arrival.site.pool.closed = true) : Cause c .closed
  /-- It was told that the pool was closed, and it was. -/
  | shut {y : Moment} {s' : Site} {t : Nat} (hy : y ∈ c.since)
      (ha : y.Answers s' c.number t (.error .closed)) (hc : s'.pool.closed = true) : Cause c .closed
  | overtaken {y : Moment} (hy : y ∈ c.since) (h : y.ComesTooLate c.number) : Cause c .closed
  | dialed {y : Moment} {e : SessionError} (hy : y ∈ c.since) (hf : y.FailsToDial c.number e) :
      Cause c (.connect e)
  /-- It was told that the session could not be opened on its behalf. All attempts had failed, the
  last one with the error. -/
  | added {later between : List Moment} {y : Moment} {s' : Site} {k t : Nat} {e : SessionError}
      (hy : c.since = later ++ y :: between)
      (ha : y.Answers s' c.number t (.error (.connect e))) (hg : y.GivesUpRoom k t e)
      (hf : ∀ i, 1 ≤ i → i ≤ Adding.attempts y.site.pool →
        ∃ e, HasFailed (between ++ c.arrival :: c.earlier) k (some t) i e)
      (hl : HasFailed (between ++ c.arrival :: c.earlier) k (some t)
        (Adding.attempts y.site.pool) e) : Cause c (.connect e)

/-- The request has been under way since it arrived. -/
structure Runs (c : Call) (past : List Moment) : Prop where
  whole : c.since ++ c.arrival :: c.earlier = past
  arrived : c.arrival.move = .step (.user c.number)
  begun : Table.get? c.arrival.site.operations c.number = some (.acquire (.arriving c.timeout))
  going : ∀ y ∈ c.since, ∃ a, Table.get? y.site.operations c.number = some (.acquire a) ∧
    a.hasArrived = true

def later (c : Call) (y : Moment) : Call := { c with since := y :: c.since }

theorem Runs.later (h : c.Runs past) {a : Acquiring}
    (hg : Table.get? y.site.operations c.number = some (.acquire a)) (ha : a.hasArrived = true) :
    (c.later y).Runs (y :: past) where
  whole := congrArg (y :: ·) h.whole
  arrived := h.arrived
  begun := h.begun
  going := fun z hz => by
    rcases List.mem_cons.1 hz with rfl | hz
    · exact ⟨a, hg, ha⟩
    · exact h.going z hz

theorem Cause.later (h : c.Cause e) (y : Moment) : (c.later y).Cause e := by
  have since {z : Moment} (hz : z ∈ c.since) : z ∈ (c.later y).since := List.mem_cons_of_mem _ hz
  cases h with
  | crowded hl h0 hw hi => exact .crowded hl h0 hw hi
  | expired hy ha hd => exact .expired (since hy) ha hd
  | gaveUp hy hg hd => exact .gaveUp (since hy) hg hd
  | refused h => exact .refused h
  | shut hy ha hc => exact .shut (since hy) ha hc
  | overtaken hy h => exact .overtaken (since hy) h
  | dialed hy hf => exact .dialed (since hy) hf
  | @added later between z _ _ _ _ hy ha hg hf hl =>
    have hy : (c.later y).since = (y :: later) ++ z :: between := congrArg (y :: ·) hy
    exact .added hy ha hg hf hl

/-! ## What a request is about to do -/

/-- A request that waits under a ticket: it has its deadline, and what it is told has a cause. -/
structure Waits (c : Call) (w : WaitQueue Member) (t : Nat) : Prop where
  queued : ∀ r ∈ w.requests, r.ticket = t → r.deadline = c.deadline ∧ r.timeout = c.timeout
  told : ∀ e, w.reply? t = some (.error e) → c.Cause e

/-- What the request is about to do agrees with what has happened since it arrived. -/
def Stands (c : Call) (w : WaitQueue Member) : Acquiring → Prop
  | .arriving _ => False
  | .queued t cutoff timeout => cutoff.due = c.deadline ∧ timeout = c.timeout ∧ c.Waits w t
  | .givingUp t timeout => timeout = c.timeout ∧ c.Cause (.timeout c.timeout) ∧ c.Waits w t
  | .calling deadline timeout => deadline = c.deadline ∧ timeout = c.timeout
  | .dialing _ cutoff timeout => cutoff.due = c.deadline ∧ timeout = c.timeout
  | .takingOver _ _ => True
  | .countingFailure e => c.Cause (.connect e)
  | .vacating e | .failing e => c.Cause e

def Leads (c : Call) (w : WaitQueue Member) : Next Acquiring Acquired → Prop
  | .more a => c.Stands w a
  | .done (.ok _) => True
  | .done (.error e) => c.Cause e

variable {w : WaitQueue Member} {p q : Pool} {next : Next Acquiring Acquired}

theorem leads_refuse (h : c.Cause e) (hs : Acquiring.refuse env p e = (env', q, next)) :
    c.Leads w next := by
  unfold Acquiring.refuse at hs
  split at hs <;> cases hs <;> exact h

theorem leads_conclude {x : Pool × Acquired} (h : ∀ e, x.2 = .error e → c.Cause e)
    (hs : Acquiring.conclude env x = (env', q, next)) : c.Leads w next := by
  obtain ⟨p, e | m⟩ := x
  · exact leads_refuse (h e rfl) hs
  · cases hs
    trivial

def arriving (n : Nat) (timeout : Duration) (past : List Moment) (env : Env) (s : Site) : Call where
  number := n
  timeout := timeout
  earlier := past
  arrival := ⟨env, s, .step (.user n)⟩
  since := []

theorem runs_arriving {timeout : Duration}
    (hg : Table.get? s.operations n = some (.acquire (.arriving timeout))) :
    (arriving n timeout past env s).Runs (⟨env, s, .step (.user n)⟩ :: past) where
  whole := rfl
  arrived := rfl
  begun := hg
  going := fun _ hy => absurd hy List.not_mem_nil

theorem leads_arrive (h : Reachable env s) {timeout : Duration}
    (hs : (Acquiring.arriving timeout).step env s.pool = some (env', q, next)) :
    (arriving n timeout past env s).Leads q.waiting next := by
  have hn : (s.pool.noteExpired env (s.pool.spoiledByCheckout env.now)).now = env.now := by simp
  have sound := h.balanced.sound
  simp only [Acquiring.step, Acquiring.arrive, Option.some.injEq] at hs
  rw [hn] at hs
  split at hs <;> rename_i hc
  · cases hs
    trivial
  · cases hs
    exact ⟨rfl, rfl⟩
  · cases hs
    obtain ⟨hr, hq⟩ := Pool.queued_of_checkout sound h.orderlyShut.stopped hc
    refine ⟨rfl, rfl, hq, fun e he => ?_⟩
    rw [hr] at he
    cases he
  · refine leads_refuse ?_ hs
    rcases Pool.refused_of_checkout sound hc with
      ⟨rfl, hclosed⟩ | ⟨limit, rfl, hl, h0, hw⟩
    · exact .refused hclosed
    · refine .crowded hl h0 hw (h.orderly.apart.resolve_right fun hr => ?_)
      have none : s.pool.waiting.live env.now = [] := by simp [WaitQueue.live, hr]
      have hw : limit ≤ (s.pool.waiting.live env.now).length := hw
      rw [none] at hw
      exact absurd hw (Nat.not_le.2 h0)

theorem mem_listening (h : Reachable env s) {a : Acquiring}
    (hg : Table.get? s.operations n = some (.acquire a)) (ht : a.ticket? = some t) :
    t ∈ s.pool.waiting.listening := by
  have hm : t ∈ (s.operations.filterMap fun o => o.2.ticket? : List Nat) :=
    List.mem_filterMap.2 ⟨_, Table.mem_of_get? hg, ht⟩
  rw [← Multiset.mem_coe, ← tickets_stake, ← h.balanced.tickets_eq] at hm
  exact hm

theorem gaveUp {a a' : Acquiring} (hg : Table.get? s.operations c.number = some (.acquire a))
    (hn : a.hasGivenUp = false) (hs : a.step env s.pool = some (env', q, .more a'))
    (ha : a'.hasGivenUp = true) (hd : c.deadline ≤ env.now) :
    (c.later ⟨env, s, .step (.user c.number)⟩).Cause (.timeout c.timeout) :=
  .gaveUp (.head _) ⟨rfl, a, env', q, a', hg, hn, hs, ha⟩ hd

theorem leads_opening {a : Acquiring} {o : Opening} {stepped : Stepped Opening Opened}
    {resume : Opening → Env → Env × Acquiring}
    (hg : Table.get? s.operations c.number = some (.acquire a)) (ha : a.opening? = some o)
    (ho : o.step env s.pool = some stepped)
    (hs : Acquiring.afterOpening resume stepped = (env', q, next))
    (hr : ∀ o env₁, (c.later ⟨env, s, .step (.user c.number)⟩).Stands q.waiting
      (resume o env₁).2) :
    (c.later ⟨env, s, .step (.user c.number)⟩).Leads q.waiting next := by
  obtain ⟨env₁, p₁, o' | (e | ⟨m, elapsed⟩)⟩ := stepped
  · cases hs
    exact hr o' env₁
  · cases hs
    exact Cause.dialed (.head _) ⟨rfl, a, o, hg, ha, _, _, ho⟩
  · cases hs
    trivial

theorem leads_queued (h : Reachable env s) {cutoff : Timer}
    (hg : Table.get? s.operations c.number = some (.acquire (.queued t cutoff c.timeout)))
    (hd : cutoff.due = c.deadline) (hw : c.Waits s.pool.waiting t)
    (hs : (Acquiring.queued t cutoff c.timeout).step env s.pool = some (env', q, next)) :
    (c.later ⟨env, s, .step (.user c.number)⟩).Leads q.waiting next := by
  have stepped := hs
  simp only [Acquiring.step] at hs
  split at hs
  · rename_i result hr
    refine leads_conclude (fun e he => ?_) (Option.some.inj hs)
    cases he
    exact (hw.told e hr).later _
  · rename_i hr
    split at hs
    · -- a caller that listens either waits or has an answer
      rename_i hn
      have placed := h.balanced.sound.placed.mem_iff.1 (mem_listening h hg rfl)
      rcases List.mem_append.1 placed with hq | hk
      · simp [WaitQueue.isWaiting_iff.2 hq] at hn
      · exact absurd hk (Table.get?_eq_none_iff.1 hr)
    · simp only [Option.ite_none_right_eq_some, Option.some.injEq] at hs
      obtain ⟨hdue, hs⟩ := hs
      cases hs
      have due : c.deadline ≤ env.now := hd ▸ of_decide_eq_true hdue
      exact ⟨rfl, gaveUp hg rfl stepped rfl due, hw.queued,
        fun e he => (hw.told e he).later _⟩

/-- A request that has given up still reads an answer that came at the last moment. -/
theorem leads_givingUp {y : Moment} (hc : c.Cause (.timeout c.timeout))
    (hw : c.Waits s.pool.waiting t)
    (hs : (Acquiring.givingUp t c.timeout).step env s.pool = some (env', q, next)) :
    (c.later y).Leads q.waiting next := by
  refine leads_conclude (fun e he => ?_) (Option.some.inj hs)
  unfold Pool.giveUp at he
  split at he
  · cases he
    exact hc.later y
  · split at he
    · rename_i hr
      cases he
      exact (hw.told e hr).later y
    · cases he
      exact hc.later y

theorem leads_dialing {o : Opening} {cutoff : Timer}
    (hg : Table.get? s.operations c.number = some (.acquire (.dialing o cutoff c.timeout)))
    (hd : cutoff.due = c.deadline)
    (hs : (Acquiring.dialing o cutoff c.timeout).step env s.pool = some (env', q, next)) :
    (c.later ⟨env, s, .step (.user c.number)⟩).Leads q.waiting next := by
  have stepped := hs
  simp only [Acquiring.step] at hs
  split at hs
  · rename_i x ho
    exact leads_opening hg rfl ho (Option.some.inj hs) fun _ _ => ⟨hd, rfl⟩
  · simp only [Option.ite_none_right_eq_some, Option.some.injEq] at hs
    obtain ⟨hdue, hs⟩ := hs
    cases hs
    exact gaveUp hg rfl stepped rfl (hd ▸ of_decide_eq_true hdue)

theorem leads_takingOver {m : Member} {elapsed : Duration}
    (hg : Table.get? s.operations c.number = some (.acquire (.takingOver m elapsed)))
    (hs : (Acquiring.takingOver m elapsed).step env s.pool = some (env', q, next)) :
    (c.later ⟨env, s, .step (.user c.number)⟩).Leads q.waiting next := by
  refine leads_conclude (fun e he => ?_) (Option.some.inj hs)
  unfold Pool.takeOver at he
  dsimp only at he
  split at he
  · rename_i hc
    cases he
    rw [Pool.closed_countOpened] at hc
    exact .overtaken (.head _) ⟨rfl, hc, m, elapsed, hg⟩
  · cases he

theorem leads_step (h : Reachable env s) {a : Acquiring}
    (hg : Table.get? s.operations c.number = some (.acquire a))
    (hst : c.Stands s.pool.waiting a) (hs : a.step env s.pool = some (env', q, next)) :
    (c.later ⟨env, s, .step (.user c.number)⟩).Leads q.waiting next := by
  cases a with
  | arriving timeout => exact hst.elim
  | queued t cutoff timeout =>
    obtain ⟨hd, rfl, hw⟩ := hst
    exact leads_queued h hg hd hw hs
  | givingUp t timeout =>
    obtain ⟨rfl, hc, hw⟩ := hst
    exact leads_givingUp hc hw hs
  | calling deadline timeout =>
    obtain ⟨rfl, rfl⟩ := hst
    simp only [Acquiring.step] at hs
    obtain ⟨x, ho, he⟩ := Option.map_eq_some_iff.1 hs
    exact leads_opening hg rfl ho he fun _ _ => ⟨rfl, rfl⟩
  | dialing o cutoff timeout =>
    obtain ⟨hd, rfl⟩ := hst
    exact leads_dialing hg hd hs
  | takingOver m elapsed => exact leads_takingOver hg hs
  | countingFailure e =>
    cases hs
    exact Cause.later hst _
  | vacating e | failing e =>
    cases hs
    exact Cause.later hst _

/-! ## What others do -/

theorem cause_of_tells (h : Course past env s) (hc : c.Runs past)
    (hm : s.move? env mv = some (env', s')) (hw : c.Waits s.pool.waiting t)
    (ha : (Moment.mk env s mv).Answers s' c.number t (.error e)) (ht : Tells env s mv s' t e) :
    (c.later ⟨env, s, mv⟩).Cause e := by
  cases ht with
  | @late x hx ht hl =>
    obtain ⟨hd, hto⟩ := hw.queued x hx ht
    rw [hto] at ha ⊢
    exact .expired (.head _) ha (hd ▸ of_decide_eq_true hl)
  | closed hclosed => exact .shut (.head _) ha hclosed
  | @failed k a e hv hg hwait hp =>
    subst hv
    have tried := h.tried hg
    have phase := tried.phase
    rw [hp] at phase
    obtain ⟨rfl, hclosed⟩ | ⟨e', rfl, hl, hf⟩ := phase
    · have hr := h.reachable
      have steady := hr.steady hm
      exact .shut (.head _) ha (steady.closed hclosed)
    · have attempts := tried.failed
      rw [hwait, ← hc.whole] at attempts hf
      rw [hl] at attempts hf
      have hy : (c.later ⟨env, s, .step (.worker k)⟩).since = [] ++ _ :: c.since := rfl
      refine .added hy ha ⟨rfl, a, hg, hwait, hp⟩ (fun i h1 hi => ?_) hf
      rcases Nat.lt_or_eq_of_le hi with hi | rfl
      · exact attempts i h1 hi
      · exact ⟨e', hf⟩

theorem Waits.move (h : Course past env s) (hc : c.Runs past)
    (hm : s.move? env mv = some (env', s')) (hw : c.Waits s.pool.waiting t) {a : Acquiring}
    (hg : Table.get? s.operations c.number = some (.acquire a)) (ht : a.ticket? = some t) :
    (c.later ⟨env, s, mv⟩).Waits s'.pool.waiting t := by
  have sound := h.reachable.balanced.sound
  have issued : t < s.pool.waiting.nextTicket := sound.issued t (mem_listening h.reachable hg ht)
  refine ⟨fun r hr he => ?_, fun e he => ?_⟩
  · rcases (follows_move h.reachable hm).requests r hr with hr | hn
    · exact hw.queued r hr he
    · omega
  · by_cases ho : s.pool.waiting.reply? t = some (.error e)
    · exact (hw.told e ho).later _
    · rcases tells_move h.reachable hm issued (Table.mem_of_get? he) with hin | tells
      · exact absurd (Table.get?_of_mem sound.replies_nodup hin) ho
      · exact cause_of_tells h hc hm hw ⟨⟨env', hm⟩, ⟨a, hg, ht⟩, ho, he⟩ tells

theorem stands_move (h : Course past env s) (hc : c.Runs past)
    (hm : s.move? env mv = some (env', s')) {a : Acquiring}
    (hg : Table.get? s.operations c.number = some (.acquire a))
    (hst : c.Stands s.pool.waiting a) :
    (c.later ⟨env, s, mv⟩).Stands s'.pool.waiting a := by
  cases a with
  | arriving timeout => exact hst
  | queued t cutoff timeout => exact ⟨hst.1, hst.2.1, hst.2.2.move h hc hm hg rfl⟩
  | givingUp t timeout => exact ⟨hst.1, hst.2.1.later _, hst.2.2.move h hc hm hg rfl⟩
  | calling | dialing | takingOver => exact hst
  | countingFailure e => exact Cause.later hst _
  | vacating e | failing e => exact Cause.later hst _

end Call

/-! ## Courses -/

theorem leads_of_step (h : Reachable env s) {a : Acquiring} {q : Pool}
    {next : Next Acquiring Acquired} (hg : Table.get? s.operations n = some (.acquire a))
    (hc : a.hasArrived = true →
      ∃ c : Call, c.number = n ∧ c.Runs past ∧ c.Stands s.pool.waiting a)
    (hs : a.step env s.pool = some (env', q, next)) :
    ∃ c : Call, c.number = n ∧ c.Runs (⟨env, s, .step (.user n)⟩ :: past) ∧
      c.Leads q.waiting next := by
  cases ha : a.hasArrived with
  | true =>
    obtain ⟨c, rfl, runs, stands⟩ := hc ha
    exact ⟨c.later _, rfl, runs.later hg ha, Call.leads_step h hg stands hs⟩
  | false =>
    cases a with
    | arriving timeout =>
      exact ⟨_, rfl, Call.runs_arriving hg, Call.leads_arrive h hs⟩
    | queued | givingUp | calling | dialing | takingOver | countingFailure | vacating | failing =>
      cases ha

/-- **What a request is about to do** agrees with what has happened since it arrived. -/
theorem Course.call (h : Course past env s) {a : Acquiring}
    (hg : Table.get? s.operations n = some (.acquire a)) (ha : a.hasArrived = true) :
    ∃ c : Call, c.number = n ∧ c.Runs past ∧ c.Stands s.pool.waiting a := by
  induction h generalizing a with
  | created h =>
    obtain ⟨p, -, -, -, -, -, -, rfl⟩ := create_ok h
    cases hg
  | @moved past env env' s s' mv hp hm ih =>
    rcases operation_origin hp.reachable.keyed hm hg with hg | ⟨o, rfl, hg, hs⟩ | hn
    · obtain ⟨c, rfl, runs, stands⟩ := ih hg ha
      exact ⟨c.later _, rfl, runs.later hg ha, Call.stands_move hp runs hm hg stands⟩
    · cases Operation.goesOn hs with
      | acquire stepped => exact leads_of_step hp.reachable hg (ih hg) stepped
    · cases a with
      | arriving timeout => cases ha
      | queued | givingUp | calling | dialing | takingOver | countingFailure | vacating | failing =>
        cases hn

theorem step_of_returns {a : Acquiring} (hg : Table.get? s.operations n = some (.acquire a))
    (hr : s.Returns env n (.error e) env' s') :
    ∃ q, a.step env s.pool = some (env', q, .done (.error e)) := by
  obtain ⟨hs, ho⟩ := hr
  have hm : s.move? env (.step (.user n)) = some (env', s') := hs
  cases moved hm with
  | wentOn hg' _ =>
    have hl := congrArg List.length ho
    simp at hl
  | @ended _ o _ q outcome hg' hs' =>
    cases hg.symm.trans hg'
    obtain ⟨⟨env₁, p₁, next⟩, ha, he⟩ := Option.map_eq_some_iff.1 hs'
    have hl : outcome = .failed e := (Prod.mk.inj (List.head_eq_of_cons_eq
      (List.append_cancel_left ho))).2
    rcases next with a' | (e' | m) <;> cases he <;> cases hl
    exact ⟨q, ha⟩
  | unheld hv => rcases hv with hv | hv | hv <;> cases hv

/-- **Every request that fails has a cause of its own** for that. -/
theorem Course.failure_cause (h : Course past env s) {a : Acquiring}
    (hg : Table.get? s.operations n = some (.acquire a))
    (hr : s.Returns env n (.error e) env' s') :
    ∃ c : Call, c.number = n ∧ c.Runs (⟨env, s, .step (.user n)⟩ :: past) ∧ c.Cause e := by
  obtain ⟨q, hs⟩ := step_of_returns hg hr
  exact leads_of_step h.reachable hg (h.call hg) hs

/-- A pool that opens its only session on demand, and tries twice. -/
def onDemand : PoolSettings := { minSize := 0, maxSize := some 1, workers := 1, attempts := 2 }

def refusing : Hooks := { configure := fun _ => [.fail (.config "refused")] }

/-- A worker tries twice to open a session on behalf of a request, which then reads that it
failed. -/
def refusedTwice : List (Instant × List Move) :=
  [(.ofTick 0, .acquire 0 (.ofSecs 30) :: [.user 0, .worker 0, .worker 0, .worker 0].map .step),
    (.ofTick 9000, [.worker 0, .worker 0, .worker 0, .worker 0, .user 0].map .step)]

theorem Course.failure_cause_refused : ∃ past env s env' s' c, Course past env s ∧
    Adding.attempts s.pool = 2 ∧
    s.Returns env 0 (.error (.connect (.config "refused"))) env' s' ∧
    c.number = 0 ∧ Call.Runs c (⟨env, s, .step (.user 0)⟩ :: past) ∧
    Call.Cause c (.connect (.config "refused")) := by
  obtain ⟨x, hp, hr⟩ := Reachable.of_timeline onDemand refusing refusedTwice
    (fun x => Adding.attempts x.2.pool = 2 ∧ Table.get? x.2.operations 0 =
      some (.acquire (.failing (.connect (.config "refused"))))) (by decide +kernel)
  obtain ⟨ha, hg⟩ := of_decide_eq_true hp
  obtain ⟨past, course⟩ := hr.course
  obtain ⟨env', s', returns⟩ := Failing.step x.1 ⟨_, hg, rfl⟩
  obtain ⟨c, hn, runs, cause⟩ := course.failure_cause hg returns
  exact ⟨past, x.1, x.2, env', s', c, course, ha, returns, hn, runs, cause⟩

end Site

end SessionPool
