import SessionPool.Proofs.Line
import SessionPool.Proofs.Powers

/-!
# What requests are told

A request that waits is told that it failed for one of three reasons (`Pool.Tells`): its time was
up, the pool is closed, or a session was to be opened on its behalf and whoever was to do so has
given up. Nobody else's failure is any of them (`Site.tells_move`).
-/

set_option autoImplicit false

namespace SessionPool

/-- Whoever is told that a request's time was up made one that was late. -/
theorem WaitQueue.late_of_mem_lateReplies {α : Type} {q : WaitQueue α} {now : Instant}
    {rs : List Request} {t : Nat} {result : Except PoolError α}
    (h : (t, result) ∈ q.lateReplies now rs) :
    ∃ r ∈ rs, r.ticket = t ∧ r.isLate now = true ∧ result = .error (.timeout r.timeout) := by
  obtain ⟨r, hr, he⟩ := List.mem_map.1 h
  obtain ⟨hm, hl⟩ := List.mem_filter.1 hr
  cases he
  exact ⟨r, hm, rfl, (Bool.and_eq_true_iff.1 hl).1, rfl⟩

namespace Pool

variable {now : Instant} {G : Power → Prop} {p q r : Pool} {t : Nat} {e : PoolError}

/-- A pool at a later time: further requests have further tickets, and what was shut stays so. -/
structure Follows (p q : Pool) : Prop where
  tickets : p.waiting.nextTicket ≤ q.waiting.nextTicket
  requests : ∀ x ∈ q.waiting.requests,
    x ∈ p.waiting.requests ∨ p.waiting.nextTicket ≤ x.ticket
  shut : p.closed = true ∨ p.crew.stopped = true → q.closed = true ∨ q.crew.stopped = true

namespace Follows

theorem refl : p.Follows p := ⟨le_rfl, fun _ hx => .inl hx, id⟩

theorem trans (h : p.Follows q) (h' : q.Follows r) : p.Follows r where
  tickets := h.tickets.trans h'.tickets
  requests := fun x hx => (h'.requests x hx).elim (h.requests x) fun ht => .inr (h.tickets.trans ht)
  shut := h'.shut ∘ h.shut

/-- Requests may leave the line. -/
theorem shrink (ht : q.waiting.nextTicket = p.waiting.nextTicket)
    (hr : q.waiting.requests.Sublist p.waiting.requests) (hc : q.closed = p.closed)
    (hs : q.crew.stopped = p.crew.stopped) : p.Follows q where
  tickets := ht.ge
  requests := fun _ hx => .inl (hr.subset hx)
  shut := by rw [hc, hs]; exact id

end Follows

/-- Why a request with a ticket is told that it failed. -/
inductive Tells (now : Instant) (G : Power → Prop) (p q : Pool) (t : Nat) : PoolError → Prop
  /-- Its time was up. -/
  | late {x : Request} (hx : x ∈ p.waiting.requests ∨ p.waiting.nextTicket ≤ x.ticket)
      (ht : x.ticket = t) (hl : x.isLate now = true) : Tells now G p q t (.timeout x.timeout)
  | closed (h : q.closed = true ∨ q.crew.stopped = true) : Tells now G p q t .closed
  /-- Somebody had the power to fail it. -/
  | failed {e : PoolError} (h : G (.fail t e)) : Tells now G p q t e

theorem Change.follows (h : Change now G p q) : p.Follows q := by
  cases h with
  | aside h =>
    have hw : q.waiting = p.waiting := congrArg View.waiting h
    exact .shrink (by rw [hw]) (by rw [hw]) (congrArg View.closed h) (congrArg View.stopped h)
  | enter _ elapsed =>
    have stopped := congrArg View.stopped (p.view_countOpened elapsed)
    exact .shrink (by simp) (by simp) closed_countOpened stopped
  | expire => exact .shrink (by rw [WaitQueue.expire_eq]) (p.waiting.requests_expire now) rfl rfl
  | offer m =>
    refine .shrink ?_ (p.waiting.requests_fulfill m now) rfl rfl
    rcases p.waiting.fulfill_cases m now with ⟨_, _, _, -, -, -, hf⟩ | ⟨-, hf⟩ <;> rw [hf]
  | fail ticket e _ =>
    refine .shrink ?_ (p.waiting.requests_fail ticket e) rfl rfl
    dsimp only
    rw [WaitQueue.fail_eq]
    split <;> rfl
  | withdraw ticket => exact .shrink rfl List.filter_sublist rfl rfl
  | enroll timeout =>
    refine ⟨Nat.le_succ _, fun x hx => ?_, id⟩
    rcases List.mem_append.1 hx with hx | hx
    · exact .inl hx
    · rw [List.mem_singleton.1 hx]
      exact .inr le_rfl
  | shut _ =>
    refine ⟨?_, fun x hx => ?_, fun _ => .inl rfl⟩
    · rw [Pool.shut, WaitQueue.failAll_eq]
    · have hx : x ∈ (p.waiting.failAll .closed).1.requests := hx
      rw [WaitQueue.requests_failAll] at hx
      cases hx
  | stop _ => exact ⟨le_rfl, fun _ hx => .inl hx, fun _ => .inr rfl⟩
  | staff _ _ hs => exact .shrink rfl (.refl _) rfl hs
  | reserve | unreserve | drop | queue | leave | unpark | park | hangUp | reset | size | fill | take
  | depart => exact .shrink rfl (.refl _) rfl rfl

theorem Changes.follows (h : Changes now G p q) : p.Follows q := by
  induction h with
  | refl => exact .refl
  | step _ c ih => exact ih.trans c.follows

/-- One change tells a request that it failed for its own reasons only. -/
theorem Change.tells (h : Change now G p q) (hr : (t, .error e) ∈ q.waiting.replies) :
    (t, .error e) ∈ p.waiting.replies ∨ Tells now G p q t e := by
  have late {rs : List Request} (hs : ∀ x ∈ rs, x ∈ p.waiting.requests)
      (h : (t, .error e) ∈ p.waiting.lateReplies now rs) : Tells now G p q t e := by
    obtain ⟨x, hx, ht, hl, he⟩ := WaitQueue.late_of_mem_lateReplies h
    cases he
    exact .late (.inl (hs x hx)) ht hl
  cases h with
  | aside h =>
    rw [show q.waiting = p.waiting from congrArg View.waiting h] at hr
    exact .inl hr
  | enter _ elapsed =>
    rw [waiting_countOpened] at hr
    exact .inl hr
  | expire =>
    simp only [WaitQueue.expire_eq, List.mem_append] at hr
    exact hr.imp_right (late fun _ => id)
  | offer m =>
    dsimp only at hr
    rcases p.waiting.fulfill_cases m now with ⟨before, x, after, hq, -, -, hf⟩ | ⟨-, hf⟩ <;>
      rw [hf] at hr
    · rcases List.mem_append.1 hr with hr | hr
      · exact .inl hr
      · rcases List.mem_append.1 hr with hr | hr
        · exact .inr (late (fun x hx => hq ▸ List.mem_append_left _ hx) hr)
        · cases List.mem_singleton.1 hr
    · exact (List.mem_append.1 hr).imp_right (late fun _ => id)
  | fail ticket e' hG =>
    simp only [WaitQueue.fail_eq] at hr
    split at hr
    · rcases List.mem_append.1 hr with hr | hr
      · exact .inl hr
      · split at hr
        · cases List.mem_singleton.1 hr
          rcases hG with hG | ⟨rfl, hc⟩
          · exact .inr (.failed hG)
          · exact .inr (.closed hc)
        · cases hr
    · exact .inl hr
  | hangUp ticket => exact .inl (List.mem_filter.1 hr).1
  | shut _ =>
    have hr : (t, .error e) ∈ (p.waiting.failAll .closed).1.replies := hr
    rw [WaitQueue.failAll_eq] at hr
    rcases List.mem_append.1 hr with hr | hr
    · exact .inl hr
    · obtain ⟨x, -, he⟩ := List.mem_map.1 hr
      cases he
      exact .inr (.closed (.inl rfl))
  | reserve | unreserve | drop | queue | leave | unpark | park | withdraw | enroll | reset | size
  | fill | stop | take | depart | staff => exact .inl hr

/-- **Whatever is done to a pool**, a request is told that it failed for its own reasons only. -/
theorem Changes.tells (h : Changes now G p q) (hr : (t, .error e) ∈ q.waiting.replies) :
    (t, .error e) ∈ p.waiting.replies ∨ Tells now G p q t e := by
  induction h with
  | refl => exact .inl hr
  | @step q r h c ih =>
    have before {e : PoolError} (ht : Tells now G p q t e) : Tells now G p r t e := by
      cases ht with
      | late hx ht hl => exact .late hx ht hl
      | closed hc => exact .closed (c.follows.shut hc)
      | failed hG => exact .failed hG
    rcases c.tells hr with hr | ht
    · exact (ih hr).imp_right before
    · refine .inr ?_
      cases ht with
      | late hx ht hl =>
        exact .late
          (hx.elim (h.follows.requests _) fun hn => .inr (h.follows.tickets.trans hn)) ht hl
      | closed hc => exact .closed hc
      | failed hG => exact .failed hG

end Pool

namespace Site

variable {env env' : Env} {s s' : Site} {mv : Move} {t : Nat} {e : PoolError}

/-- Only a worker that gives up the room for a session fails a request, the one on whose behalf the
session was to be opened. -/
theorem powers_fail (h : s.powers mv (.fail t e)) :
    ∃ k a, mv = .step (.worker k) ∧ Table.get? s.jobs k = some (.adding a) ∧ a.waiter = some t ∧
      a.phase = .releasing e := by
  cases wields h with
  | @job k j _ hg h =>
    cases j with
    | adding a => exact ⟨k, a, rfl, hg, h.1, h.2⟩
    | returning | closing | maintaining => exact h.elim
  | @operation _ o _ _ h => cases o <;> exact h.elim

/-- Why a request with a ticket is told with a move that it failed. -/
inductive Tells (env : Env) (s : Site) (mv : Move) (s' : Site) (t : Nat) : PoolError → Prop
  /-- Its time is up. -/
  | late {x : Request} (hx : x ∈ s.pool.waiting.requests) (ht : x.ticket = t)
      (hl : x.isLate env.now = true) : Tells env s mv s' t (.timeout x.timeout)
  | closed (h : s'.pool.closed = true) : Tells env s mv s' t .closed
  /-- A worker gives up the room for the session that it was to open on behalf of the request. -/
  | failed {k : Nat} {a : Adding} {e : PoolError} (hv : mv = .step (.worker k))
      (hg : Table.get? s.jobs k = some (.adding a)) (hw : a.waiter = some t)
      (hp : a.phase = .releasing e) : Tells env s mv s' t e

theorem follows_move (h : Reachable env s) (hm : s.move? env mv = some (env', s')) :
    s.pool.Follows s'.pool := (changes_move h.orderlyShut hm).follows

/-- **A request that waits is told that it failed** for its own reasons only. -/
theorem tells_move (h : Reachable env s) (hm : s.move? env mv = some (env', s'))
    (ht : t < s.pool.waiting.nextTicket) (hr : (t, .error e) ∈ s'.pool.waiting.replies) :
    (t, .error e) ∈ s.pool.waiting.replies ∨ Tells env s mv s' t e := by
  refine ((changes_move h.orderlyShut hm).tells hr).imp_right fun tells => ?_
  cases tells with
  | late hx he hl => exact .late (hx.resolve_right fun hn => by omega) he hl
  | closed hc => exact .closed (hc.elim id (h.moved hm).orderlyShut.stopped)
  | failed hG =>
    obtain ⟨k, a, hv, hg, hw, hp⟩ := powers_fail hG
    exact .failed hv hg hw hp

end Site

end SessionPool
