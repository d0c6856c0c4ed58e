import SessionPool.Proofs.Accounting
import SessionPool.Proofs.Line

/-!
# First come, first served

In no state does a request wait beside an unused member (`Site.idle_or_requests_eq_nil`). A member
that is handed to a waiting request goes to the one that arrived first among those that still wait
and whose time is not up, and a request that has just arrived is served, or opens a session itself,
only if there is no such request (`Site.arrival_order`).
-/

set_option autoImplicit false

namespace SessionPool

/-! ## Requests that have just arrived -/

namespace Pool

variable {p q : Pool} {now : Instant} {m : Member}

theorem late_of_expire (hs : p.waiting.Sound) (h : (p.waiting.expire now).1.isEmpty = true) :
    ∀ r ∈ p.waiting.requests, r.isLate now = true := by
  intro r hr
  have he : (p.waiting.expire now).1.requests = [] := List.isEmpty_iff.1 h
  rw [WaitQueue.expire_eq] at he
  have := List.filter_eq_nil_iff.1 he r hr
  rw [hs.isStale_iff hr] at this
  simpa using this

/-- A request is served at once, or opens a session itself, only if all that wait are late. -/
theorem late_of_checkout (hs : p.waiting.Sound) {timeout : Duration} {c : Checkout}
    (h : p.checkout now timeout = (q, c)) (hc : (∃ m, c = .ready m) ∨ c = .dial) :
    ∀ r ∈ p.waiting.requests, r.isLate now = true := by
  unfold checkout at h
  split at h
  · cases h
    rcases hc with ⟨m, hc⟩ | hc <;> cases hc
  · by_cases hw : (p.greet now).waiting.isEmpty = true
    · exact late_of_expire hs hw
    · -- somebody is left in the line, and the request joins it or is refused
      dsimp only at h
      rw [if_neg hw] at h
      unfold checkoutElse at h
      dsimp only at h
      split at h
      · cases h
        rcases hc with ⟨m, hc⟩ | hc <;> cases hc
      · split at h
        · rename_i hd
          simp [hw] at hd
        · cases h
          rcases hc with ⟨m, hc⟩ | hc <;> cases hc

theorem requests_of_tryTake (h : p.tryTake now = (q, .ok (some m))) :
    p.waiting.requests = [] := by
  unfold tryTake at h
  split at h
  · cases h
  · dsimp only at h
    split at h
    · rename_i hw
      exact List.isEmpty_iff.1 hw
    · cases h

/-- A member that lies ready for its caller, or that somebody has in hand, is not an unused one. -/
theorem Balanced.not_idle {k : Stake} (h : p.Balanced k) {i : Nat}
    (hi : i ∈ idsOf p.waiting.delivered ∨ i ∈ k.counted ∨ i ∈ k.spare) :
    i ∉ idsOf p.idle := by
  have hn := Multiset.nodup_iff_count_le_one.1 h.numbered_members.1 i
  simp only [members, idsOf_append, Multiset.count_add] at hn
  intro hp
  have := Multiset.count_pos.2 hp
  rcases hi with hi | hi | hi
  · have := Multiset.count_pos.2 hi
    omega
  · have := Multiset.count_pos.2 hi
    omega
  · have := Multiset.count_pos.2 hi
    omega

theorem mem_delivered_of_giveUp {ticket : Nat} {timeout : Duration}
    (h : (p.giveUp ticket timeout).2 = .ok m) : m ∈ p.waiting.delivered := by
  unfold giveUp at h
  split at h
  · cases h
  · split at h
    · rename_i hr
      cases h
      exact WaitQueue.mem_delivered hr
    · cases h

theorem eq_of_takeOver {m' : Member} {elapsed : Duration}
    (h : (p.takeOver m elapsed).2 = .ok m') : m' = m := by
  unfold takeOver at h
  dsimp only at h
  split at h <;> cases h
  rfl

end Pool

namespace Acquiring

variable {env env' : Env} {p q : Pool} {k : Stake} {m : Member}

/-- A request is served at once with an unused member, with what lay ready for it, or with the
session that it opened itself. -/
theorem served_cases {a : Acquiring} (h : a.step env p = some (env', q, .done (.ok m))) :
    ∃ m₀, m = m₀.handOut env.now ∧
      ((∃ timeout r, p.checkout env.now timeout = (r, .ready m₀)) ∨ m₀ ∈ p.waiting.delivered ∨
        ∃ elapsed, a = .takingOver m₀ elapsed) := by
  have ready {x : Pool × Acquired}
      (hc : conclude env x = (env', q, .done (.ok m))) :
      ∃ m₀, x.2 = .ok m₀ ∧ m = m₀.handOut env.now := by
    obtain ⟨p₁, e | m₀⟩ := x
    · simp only [conclude, refuse] at hc
      split at hc <;> cases hc
    · cases hc
      exact ⟨m₀, rfl, rfl⟩
  cases a with
  | arriving timeout =>
    have hn : (p.noteExpired env (p.spoiledByCheckout env.now)).now = env.now := by simp
    simp only [step, arrive, Option.some.injEq] at h
    split at h <;> rename_i hc
    · rw [hn] at hc
      cases h
      exact ⟨_, by rw [hn], .inl ⟨timeout, _, hc⟩⟩
    · cases h
    · cases h
    · unfold refuse at h
      split at h <;> cases h
  | queued ticket cutoff timeout =>
    simp only [step] at h
    split at h
    · rename_i hr
      obtain ⟨m₀, hx, hm⟩ := ready (Option.some.inj h)
      cases hx
      exact ⟨m₀, hm, .inr (.inl (WaitQueue.mem_delivered hr))⟩
    · split at h
      · obtain ⟨m₀, hx, -⟩ := ready (x := (_, .error _)) (Option.some.inj h)
        cases hx
      · split at h <;> cases h
  | givingUp ticket timeout =>
    obtain ⟨m₀, hx, hm⟩ := ready (Option.some.inj h)
    exact ⟨m₀, hm, .inr (.inl (Pool.mem_delivered_of_giveUp hx))⟩
  | calling deadline timeout =>
    simp only [step] at h
    obtain ⟨⟨env₁, p₁, next⟩, -, he⟩ := Option.map_eq_some_iff.1 h
    rcases next with o | (e | ⟨m, elapsed⟩) <;> cases he
  | dialing o cutoff timeout =>
    simp only [step] at h
    split at h
    · rename_i x _
      obtain ⟨env₁, p₁, next⟩ := x
      rcases next with o | (e | ⟨m, elapsed⟩) <;> cases h
    · split at h <;> cases h
  | takingOver m' elapsed =>
    obtain ⟨m₀, hx, hm⟩ := ready (Option.some.inj h)
    obtain rfl := Pool.eq_of_takeOver hx
    exact ⟨m₀, hm, .inr (.inr ⟨elapsed, rfl⟩)⟩
  | countingFailure e => cases h
  | vacating e => cases h
  | failing e => cases h

theorem late_of_served {a : Acquiring} (hb : p.Balanced (a.stake + k))
    (h : a.step env p = some (env', q, .done (.ok m))) (hm : m.id ∈ idsOf p.idle) :
    ∀ r ∈ p.waiting.requests, r.isLate env.now = true := by
  obtain ⟨m₀, rfl, ⟨timeout, r, hc⟩ | hd | ⟨elapsed, rfl⟩⟩ := served_cases h
  · exact Pool.late_of_checkout hb.sound hc (.inl ⟨m₀, rfl⟩)
  · have hi : m₀.id ∈ idsOf p.waiting.delivered := List.mem_map_of_mem hd
    exact absurd hm (hb.not_idle (.inl hi))
  · refine absurd hm (hb.not_idle (.inr (.inr ?_)))
    simp [stake, Member.id, Member.handOut]

theorem checkout_of_dialing {a a' : Acquiring} (h : a.step env p = some (env', q, .more a'))
    (ha : a.hasRoom = false) (ha' : a'.hasRoom = true) :
    ∃ (timeout : Duration) (r : Pool), p.checkout env.now timeout = (r, .dial) := by
  have ended {env₁ : Env} {x : Pool × Acquired} (hc : conclude env₁ x = (env', q, .more a')) :
      False := by
    obtain ⟨p₁, e | m₀⟩ := x
    · simp only [conclude, refuse] at hc
      split at hc <;> cases hc
      cases ha'
    · cases hc
  cases a with
  | arriving timeout =>
    have hn : (p.noteExpired env (p.spoiledByCheckout env.now)).now = env.now := by simp
    simp only [step, arrive, Option.some.injEq] at h
    split at h <;> rename_i hc
    · cases h
    · rw [hn] at hc
      exact ⟨timeout, _, hc⟩
    · cases h
      cases ha'
    · exact (ended (x := (_, .error _)) h).elim
  | queued ticket cutoff timeout =>
    simp only [step] at h
    split at h
    · exact (ended (Option.some.inj h)).elim
    · split at h
      · exact (ended (x := (_, .error _)) (Option.some.inj h)).elim
      · split at h <;> cases h
        cases ha'
  | givingUp ticket timeout => exact (ended (Option.some.inj h)).elim
  | failing e => cases h
  | calling _ _ | dialing _ _ _ | takingOver _ _ | countingFailure _ | vacating _ => cases ha

theorem late_of_dialing {a a' : Acquiring} (hs : p.waiting.Sound)
    (h : a.step env p = some (env', q, .more a')) (ha : a.hasRoom = false)
    (ha' : a'.hasRoom = true) : ∀ r ∈ p.waiting.requests, r.isLate env.now = true := by
  obtain ⟨timeout, r, hc⟩ := checkout_of_dialing h ha ha'
  exact Pool.late_of_checkout hs hc (.inr rfl)

end Acquiring

namespace Operation

variable {env env' : Env} {p q : Pool} {o o' : Operation}

theorem acquire_of_served {m : Member} (h : o.step env p = some (env', q, .done (.served m))) :
    ∃ a, o = .acquire a ∧ a.step env p = some (env', q, .done (.ok m)) := by
  cases o with
  | acquire a =>
    obtain ⟨⟨env₁, p₁, next⟩, ha, he⟩ := Option.map_eq_some_iff.1 h
    rcases next with a' | (e | m') <;> cases he
    exact ⟨a, rfl, ha⟩
  | misplace m => cases h
  | release _ | close _ =>
    obtain ⟨⟨env₁, p₁, next⟩, -, he⟩ := Option.map_eq_some_iff.1 h
    cases next <;> cases he
  | wait _ | check _ =>
    obtain ⟨⟨env₁, p₁, next⟩, -, he⟩ := Option.map_eq_some_iff.1 h
    rcases next with _ | (_ | _) <;> cases he

theorem acquire_of_dialing (h : o.step env p = some (env', q, .more o'))
    (hd : o'.isDialing = true) :
    ∃ a a', o = .acquire a ∧ o' = .acquire a' ∧ a.step env p = some (env', q, .more a') := by
  cases Operation.goesOn h with
  | acquire ha => exact ⟨_, _, rfl, rfl, ha⟩
  | release | wait | check | close => cases hd

end Operation

namespace Site

variable {env env' : Env} {s s' : Site}

/-! ## Who gets a member, and who opens a session -/

theorem held_cases {mv : Move} (h : s.move? env mv = some (env', s')) {m : Member}
    (hm : m ∈ s'.held) :
    (∃ m₀ ∈ s.held, m₀.notes = m.notes) ∨
    (∃ n a q, mv = .step (.user n) ∧ Table.get? s.operations n = some (.acquire a) ∧
      a.step env s.pool = some (env', q, .done (.ok m))) ∨
    (∃ q m₀, mv = .tryAcquire ∧ s.pool.tryTake env.now = (q, .ok (some m₀)) ∧
      m = m₀.handOut env.now) := by
  cases moved h with
  | @ended n o _ q outcome hg hs =>
    cases outcome with
    | served m' =>
      obtain ⟨a, rfl, ha⟩ := Operation.acquire_of_served hs
      rcases List.mem_append.1 hm with hm | hm
      · exact .inl ⟨m, hm, rfl⟩
      · obtain rfl := List.mem_singleton.1 hm
        exact .inr (.inl ⟨n, a, q, rfl, hg, ha⟩)
    | done | failed e => exact .inl ⟨m, hm, rfl⟩
  | taken ht =>
    rcases List.mem_append.1 hm with hm | hm
    · exact .inl ⟨m, hm, rfl⟩
    · obtain rfl := List.mem_singleton.1 hm
      exact .inr (.inr ⟨_, _, rfl, ht, rfl⟩)
  | use =>
    obtain ⟨m₀, hm₀, rfl⟩ := List.mem_map.1 hm
    refine .inl ⟨m₀, hm₀, ?_⟩
    split <;> rfl
  | release | misplace | giveBack | leaveBehind | abandoned | detach =>
    exact .inl ⟨m, (List.mem_filter.1 hm).1, rfl⟩
  | worked | finished | sought | took | ticked | closed | wentOn | acquire | wait | check | close
  | cancelled | untaken | unheld | resized | unsized | resetCounters | readOutcome | passed =>
    exact .inl ⟨m, hm, rfl⟩

theorem held_move {mv : Move} (h : s.move? env mv = some (env', s')) {m : Member}
    (hm : m ∈ s'.held) :
    (∃ m₀ ∈ s.held, m₀.id = m.id) ∨
    (∃ n a q, Table.get? s.operations n = some (.acquire a) ∧
      a.step env s.pool = some (env', q, .done (.ok m))) ∨
    (∃ q m₀, s.pool.tryTake env.now = (q, .ok (some m₀)) ∧ m₀.id = m.id) := by
  rcases held_cases h hm with ⟨m₀, hm₀, hn⟩ | ⟨n, a, q, -, hg, ha⟩ | ⟨q, m₀, -, ht, rfl⟩
  · exact .inl ⟨m₀, hm₀, congrArg Notes.id hn⟩
  · exact .inr (.inl ⟨n, a, q, hg, ha⟩)
  · exact .inr (.inr ⟨q, m₀, ht, rfl⟩)

theorem dialing_move (hk : s.Keyed) {mv : Move} (h : s.move? env mv = some (env', s')) {n : Nat}
    {o : Operation} (ho : Table.get? s'.operations n = some o) (hd : o.isDialing = true) :
    (∃ o₀, Table.get? s.operations n = some o₀ ∧ o₀.isDialing = true) ∨
    (∃ (a a' : Acquiring) (q : Pool), a.step env s.pool = some (env', q, .more a') ∧
      a.hasRoom = false ∧ a'.hasRoom = true) := by
  rcases operation_cases hk h ho with ho | ⟨o₀, hg, hs⟩ | hn
  · exact .inl ⟨o, ho, hd⟩
  · obtain ⟨a, a', rfl, rfl, ha⟩ := Operation.acquire_of_dialing hs hd
    cases hr : a.hasRoom with
    | true => exact .inl ⟨.acquire a, hg, hr⟩
    | false => exact .inr ⟨a, a', _, ha, hr, hd⟩
  · -- an operation that has just started does not open a session yet
    cases o with
    | acquire a =>
      cases a with
      | arriving timeout => cases hd
      | queued | givingUp | calling | dialing | takingOver | countingFailure | vacating | failing =>
        cases hn
    | release _ | misplace _ | wait _ | check _ | close _ => cases hd

/-! ## The order of arrival -/

/-- **No request waits beside an unused member.** -/
theorem idle_or_requests_eq_nil (h : Reachable env s) :
    s.pool.idle = [] ∨ s.pool.waiting.requests = [] := h.orderly.apart

theorem requests_eq_nil_of_opened :
    ∃ x, replay smallPool [.step (.worker 0), .step (.worker 0), .step (.worker 0)] = some x ∧
      x.2.pool.idle.length = 1 ∧ (x.2.pool.idle = [] ∨ x.2.pool.waiting.requests = []) := by
  obtain ⟨x, hx, hi, hr⟩ := Reachable.of_replay smallPool
    [.step (.worker 0), .step (.worker 0), .step (.worker 0)]
    (fun x => x.2.pool.idle.length = 1) (by decide +kernel)
  exact ⟨x, hx, by simpa using hi, idle_or_requests_eq_nil hr⟩

def AllLate (now : Instant) (s : Site) : Prop :=
  ∀ r ∈ s.pool.waiting.requests, r.isLate now = true

/-- The caller of a ticket is there. -/
def Awaits (s : Site) (ticket : Nat) : Prop :=
  ∃ n o, Table.get? s.operations n = some o ∧ o.ticket? = some ticket

theorem awaits_of_mem (h : Reachable env s) {r : Request} (hr : r ∈ s.pool.waiting.requests) :
    s.Awaits r.ticket := by
  have hb := h.balanced
  have hl : r.ticket ∈ s.pool.waiting.listening := by
    simpa [WaitQueue.hears] using hb.sound.hears hr
  have hm : r.ticket ∈ s.operations.filterMap fun o => o.2.ticket? := by
    rw [← Multiset.mem_coe, ← tickets_stake, ← hb.tickets_eq]
    exact hl
  obtain ⟨⟨n, o⟩, ho, he⟩ := List.mem_filterMap.1 hm
  exact ⟨n, o, Table.get?_of_mem h.keyed.operations ho, he⟩

theorem inTurn_move (h : Reachable env s) {mv : Move} (hm : s.move? env mv = some (env', s')) :
    Pool.InTurn env.now s.pool s'.pool := by
  have hb := h.balanced
  rcases move_cases h.keyed hb hm with
    ⟨lo, hi, -, -, rfl | ⟨q, hq, rfl⟩⟩ | ⟨-, -, rfl⟩ | ⟨a, b, k, ha, -, hl⟩
  · exact (Pool.NoneServed.of_eq rfl).inTurn
  · exact (Pool.NoneServed.resize hb hq).inTurn
  · exact (Pool.NoneServed.of_eq rfl).inTurn
  · rw [ha] at hb
    exact hl.row.inTurn hb

/-- The first request whose time is not up has arrived before all others. -/
theorem first_of_live (h : Reachable env s) {r : Request} {rest : List Request}
    (hl : s.pool.waiting.live env.now = r :: rest) :
    r ∈ s.pool.waiting.requests ∧ r.isLate env.now = false ∧
      ∀ x ∈ s.pool.waiting.requests, x.isLate env.now = false → x ≠ r →
        r.ticket < x.ticket ∧ r.arrived ≤ x.arrived := by
  have hr : r ∈ s.pool.waiting.live env.now := hl ▸ List.mem_cons_self
  obtain ⟨hr, hlate⟩ := List.mem_filter.1 hr
  refine ⟨hr, by simpa using hlate, fun x hx hxl hne => ?_⟩
  have hmem : x ∈ r :: rest := hl ▸ List.mem_filter.2 ⟨hx, by simp [hxl]⟩
  have hrest : x ∈ rest := (List.mem_cons.1 hmem).resolve_left hne
  have hs : (r :: rest).Sublist s.pool.waiting.requests := hl ▸ List.filter_sublist
  have ht := h.balanced.sound.ordered.sublist hs
  have ha := h.orderly.sorted.sublist hs
  exact ⟨List.rel_of_pairwise_cons ht hrest, List.rel_of_pairwise_cons ha hrest⟩

/-- A move from one state to another that lets no request overtake an older one that waits and
whose time is not up. -/
structure KeepsOrder (env : Env) (s s' : Site) : Prop where
  /-- A member is handed to the earliest of the requests that wait and whose time is not up. -/
  handed : ∀ t m, (t, .ok m) ∈ s'.pool.waiting.replies → (t, .ok m) ∉ s.pool.waiting.replies →
    ∃ r ∈ s.pool.waiting.requests, r.ticket = t ∧ s.Awaits t ∧ r.isLate env.now = false ∧
      ∀ x ∈ s.pool.waiting.requests, x.isLate env.now = false → x ≠ r →
        r.ticket < x.ticket ∧ r.arrived ≤ x.arrived
  /-- A user gets an unused member only if there is no such request. -/
  taken : ∀ m ∈ s.pool.idle, ∀ m' ∈ s'.held, m'.id = m.id → s.AllLate env.now
  /-- A request starts to open a session itself only if there is no such request. -/
  dialing : ∀ n o, Table.get? s'.operations n = some o → o.isDialing = true →
    (∃ o₀, Table.get? s.operations n = some o₀ ∧ o₀.isDialing = true) ∨ s.AllLate env.now

/-- **First come, first served**, whatever moves are made in whatever order. -/
theorem arrival_order (h : Reachable env s) {mv : Move}
    (hm : s.move? env mv = some (env', s')) : KeepsOrder env s s' := by
  have hb := h.balanced
  refine ⟨fun t m ht hn => ?_, fun m hi m' hm' he => ?_, fun n o ho hd => ?_⟩
  · obtain ⟨r, rest, hl, rfl⟩ := (inTurn_move h hm t m ht).resolve_left hn
    obtain ⟨hr, hlate, hfirst⟩ := first_of_live h hl
    exact ⟨r, hr, rfl, awaits_of_mem h hr, hlate, hfirst⟩
  · have hid : m'.id ∈ idsOf s.pool.idle := he ▸ List.mem_map_of_mem hi
    rcases held_move hm hm' with ⟨m₀, hm₀, he₀⟩ | ⟨n, a, q, hg, ha⟩ | ⟨q, m₀, ht, -⟩
    · refine absurd hid (hb.not_idle (.inr (.inl ?_)))
      rw [counted_stake, ← he₀]
      simp only [idsOf_append, Multiset.mem_add]
      exact .inl (.inl (List.mem_map_of_mem hm₀))
    · rw [stake_operation h.keyed hg] at hb
      exact Acquiring.late_of_served hb ha hid
    · intro r hr
      rw [Pool.requests_of_tryTake ht] at hr
      cases hr
  · rcases dialing_move h.keyed hm ho hd with h₀ | ⟨a, a', q, ha, hr, hr'⟩
    · exact .inl h₀
    · exact .inr (Acquiring.late_of_dialing hb.sound ha hr hr')

/-- The worker hands the session of a small pool to the first of two requests. -/
theorem arrival_order_handed :
    ∃ x env' s', replay smallPool twoRequests = some x ∧
      x.2.move? x.1 (.step (.worker 0)) = some (env', s') ∧
      x.2.pool.waiting.requests.length = 2 ∧ s'.pool.waiting.delivered.length = 1 ∧
      KeepsOrder x.1 x.2 s' := by
  obtain ⟨x, hx, hp, hr⟩ := Reachable.of_replay smallPool twoRequests
    (fun x => x.2.pool.waiting.requests.length = 2 ∧
      (x.2.move? x.1 (.step (.worker 0))).any fun y => y.2.pool.waiting.delivered.length = 1)
    (by decide +kernel)
  obtain ⟨hq, hp⟩ := of_decide_eq_true hp
  obtain ⟨⟨env', s'⟩, hm, hd⟩ := (Option.any_eq_true _ _).1 hp
  exact ⟨x, env', s', hx, hm, hq, by simpa using hd, arrival_order hr hm⟩

end Site

end SessionPool
