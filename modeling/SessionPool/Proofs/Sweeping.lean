import SessionPool.Proofs.Serving

/-!
# Sweeping a queue

A sweep removes the requests that nobody can serve any more. What is left, `takers`, is all that a
delivery looks at (`offers`), so it makes no difference for whom an item reaches whether the queue
was swept before: `Annals.sweeps_aside` says that a sweep and a delivery may change places, that of
two sweeps the later one counts, and that a whole run in the order of time serves the same requests
with its sweeps and without them.
-/

set_option autoImplicit false

namespace SessionPool.WaitQueue

variable {α : Type} {q : WaitQueue α} {now : Instant}

/-- The requests that an item can be handed to, the oldest first. -/
def takers (q : WaitQueue α) (now : Instant) : List Request :=
  q.requests.filter fun r => !q.isStale now r

theorem takers_eq_nil_iff : q.takers now = [] ↔ ∀ r ∈ q.requests, q.isStale now r = true := by
  simp [takers, List.filter_eq_nil_iff]

theorem takers_eq_self_iff :
    q.takers now = q.requests ↔ ∀ r ∈ q.requests, q.isStale now r = false := by
  simp [takers, List.filter_eq_self]

/-- What stands before the first that can be served is left out. -/
theorem takers_first {before after : List Request} {w : Request}
    (hq : q.requests = before ++ w :: after) (hb : ∀ r ∈ before, q.isStale now r = true)
    (hw : q.isStale now w = false) :
    q.takers now = w :: after.filter fun r => !q.isStale now r := by
  have hbn : (before.filter fun r => !q.isStale now r) = [] := by
    simpa [List.filter_eq_nil_iff] using hb
  rw [takers, hq, List.filter_append, hbn, List.nil_append, List.filter_cons_of_pos (by simp [hw])]

/-! ## Time -/

theorem Request.late_mono {r : Request} {t₁ t₂ : Instant} (h : t₁ ≤ t₂)
    (hl : r.isLate t₁ = true) : r.isLate t₂ = true := by
  simp only [Request.isLate, decide_eq_true_eq, Instant.le_iff] at h hl ⊢
  exact Nat.le_trans hl h

theorem stale_mono {t₁ t₂ : Instant} (h : t₁ ≤ t₂) {r : Request} (hs : q.isStale t₁ r = true) :
    q.isStale t₂ r = true := by
  simp only [isStale, Bool.or_eq_true] at hs ⊢
  exact hs.imp_left (Request.late_mono h)

/-- Who can be served later can be served now. -/
theorem takers_later {t₁ t₂ : Instant} (h : t₁ ≤ t₂) :
    q.takers t₂ = (q.takers t₁).filter fun r => !q.isStale t₂ r := by
  rw [takers, takers, List.filter_filter]
  refine List.filter_congr fun r _ => ?_
  cases hs : q.isStale t₁ r with
  | false => simp
  | true => simp [stale_mono h hs]

/-! ## Sweeps and deliveries -/

theorem requests_sweep (q : WaitQueue α) (now : Instant) :
    (q.expire now).1.requests = q.takers now := by
  rw [expire_eq]
  rfl

theorem nextTicket_sweep (q : WaitQueue α) (now : Instant) :
    (q.expire now).1.nextTicket = q.nextTicket := by
  rw [expire_eq]

theorem takers_sweep {t₁ t₂ : Instant} (h : t₁ ≤ t₂) : (q.expire t₁).1.takers t₂ = q.takers t₂ := by
  rw [takers, requests_sweep, isStale_congr (listening_expire q t₁), takers_later h]

/-- After a sweep everybody can be served. -/
theorem swept (q : WaitQueue α) (now : Instant) :
    ∀ r ∈ (q.expire now).1.requests, (q.expire now).1.isStale now r = false := by
  rw [← takers_eq_self_iff, takers_sweep (Nat.le_refl _), requests_sweep]

/-- A sweep removes as many as it says. -/
theorem count_sweep (q : WaitQueue α) (now : Instant) :
    (q.expire now).2 + (q.expire now).1.requests.length = q.requests.length := by
  have hp := (List.filter_append_perm (q.isStale now) q.requests).length_eq
  rw [List.length_append] at hp
  rw [requests_sweep, takers]
  exact hp

/-- What a delivery comes to depends on those that can be served, and on nobody else. -/
structure Offers (q : WaitQueue α) (slot : Option α) (now : Instant) : Prop where
  served : (q.fulfill slot now).served =
    slot.bind fun _ => (q.takers now).head?.map fun w => ⟨w.ticket, now.since w.arrived⟩
  left : (q.fulfill slot now).slot = if (q.takers now).isEmpty then slot else none
  takers : (q.fulfill slot now).queue.takers now =
    if slot.isSome then (q.takers now).tail else q.takers now
  rest : (q.fulfill slot now).queue.listening = q.listening ∧
    (q.fulfill slot now).queue.nextTicket = q.nextTicket

theorem offers (q : WaitQueue α) (slot : Option α) (now : Instant) : q.Offers slot now := by
  cases slot with
  | none =>
    obtain ⟨before, after, hq, hb, -, hf⟩ := q.fulfill_none now
    have hbn : (before.filter fun r => !q.isStale now r) = [] := by
      rw [List.filter_eq_nil_iff]
      intro r hr
      simp [isStale, hb r hr]
    have htakers : q.takers now = after.filter fun r => !q.isStale now r := by
      rw [WaitQueue.takers, hq, List.filter_append, hbn, List.nil_append]
    constructor
    · rw [hf]
      rfl
    · rw [hf]
      simp
    · rw [hf, htakers]
      rfl
    · rw [hf]
      exact ⟨rfl, rfl⟩
  | some m =>
    rcases q.fulfill_cases m now with ⟨before, w, after, hq, hb, hw, hf⟩ | ⟨hall, hf⟩
    · have htakers := takers_first hq hb hw
      constructor
      · rw [hf, htakers]
        rfl
      · rw [hf, htakers]
        rfl
      · rw [hf, htakers]
        rfl
      · rw [hf]
        exact ⟨rfl, rfl⟩
    · have htakers := takers_eq_nil_iff.2 hall
      constructor
      · rw [hf, htakers]
        rfl
      · rw [hf, htakers]
        rfl
      · rw [hf, htakers]
        rfl
      · rw [hf]
        exact ⟨rfl, rfl⟩

/-- In a swept queue nobody is passed by, so that those who are not served stay. -/
theorem requests_sweep_fulfill (q : WaitQueue α) (slot : Option α) (now : Instant) :
    ((q.expire now).1.fulfill slot now).queue.requests =
      if slot.isSome then (q.takers now).tail else q.takers now := by
  have o := (q.expire now).1.offers slot now
  have w := (Act.fulfill slot now).works (q.expire now).1
  have hs : ((q.expire now).1.fulfill slot now).queue.takers now =
      ((q.expire now).1.fulfill slot now).queue.requests := by
    rw [takers_eq_self_iff, isStale_congr o.rest.1]
    intro r hr
    refine swept q now r ?_
    simpa [Act.arrivals] using w.queued.subset hr
  rw [← hs, o.takers, takers_sweep (Nat.le_refl _)]

/-! ## Queues that nobody can tell apart -/

/-- The same requests wait, under the same tickets, and every caller hears the same. -/
structure Alike (q q' : WaitQueue α) : Prop where
  requests : q'.requests = q.requests
  nextTicket : q'.nextTicket = q.nextTicket
  listening : q'.listening = q.listening
  heard : ∀ t, q'.heard t = q.heard t

/-- The order in which answers lie ready cannot be told. -/
theorem Alike.of_perm {q' : WaitQueue α} (hn : (Table.keys q.replies).Nodup)
    (requests : q'.requests = q.requests) (nextTicket : q'.nextTicket = q.nextTicket)
    (listening : q'.listening = q.listening) (replies : q.replies.Perm q'.replies) :
    q.Alike q' := by
  refine ⟨requests, nextTicket, listening, ?_⟩
  intro t
  have hr : q'.reply? t = q.reply? t := (Table.get?_perm hn replies t).symm
  rw [WaitQueue.heard, hears, hr, isWaiting, listening, requests]
  rfl

theorem lateReplies_congr {q' : WaitQueue α} (h : q'.listening = q.listening) (now : Instant)
    (rs : List Request) : q'.lateReplies now rs = q.lateReplies now rs := by
  simp [lateReplies, hears, h]

theorem lateReplies_append (q : WaitQueue α) (now : Instant) (a b : List Request) :
    q.lateReplies now (a ++ b) = q.lateReplies now a ++ q.lateReplies now b := by
  simp [lateReplies]

theorem replies_sweep (q : WaitQueue α) (now : Instant) :
    (q.expire now).1.replies = q.replies ++ q.lateReplies now q.requests := by
  rw [expire_eq]

/-- The same callers are told the same, whether the queue is swept before a delivery or after
it. -/
theorem replies_sweep_fulfill (q : WaitQueue α) (slot : Option α) (now : Instant) :
    ((q.expire now).1.fulfill slot now).queue.replies.Perm
      ((q.fulfill slot now).queue.expire now).1.replies := by
  have stale := isStale_congr (listening_expire q now) now
  cases slot with
  | none =>
    -- the swept queue has nobody to pass by, and the other one is swept of the rest
    have intime : ∀ r ∈ (q.expire now).1.requests.head?, r.isLate now = false := by
      intro r hr
      have hs := swept q now r (List.mem_of_mem_head? hr)
      simp only [isStale, Bool.or_eq_false_iff] at hs
      exact hs.1
    obtain ⟨before, after, hq, -, -, hf⟩ := q.fulfill_none now
    have front : (q.expire now).1.requests = [] ++ (q.expire now).1.requests := rfl
    have early : ((q.expire now).1.fulfill none now).queue.replies =
        q.replies ++ (q.lateReplies now before ++ q.lateReplies now after) := by
      rw [fulfill_empty front (by simp) intime, replies_sweep, hq, lateReplies_append]
      exact List.append_nil _
    have late : ((q.fulfill none now).queue.expire now).1.replies =
        q.replies ++ q.lateReplies now before ++ q.lateReplies now after := by
      rw [replies_sweep, hf]
      rfl
    rw [early, late, List.append_assoc]
  | some m =>
    rcases q.fulfill_cases m now with ⟨before, w, after, hq, hb, hw, hf⟩ | ⟨hall, hf⟩
    · have queued : (q.expire now).1.requests = [] ++ w :: after.filter fun r => !q.isStale now r :=
        (requests_sweep q now).trans (takers_first hq hb hw)
      have hl : w.isLate now = false := (Bool.or_eq_false_iff.1 hw).1
      -- the item is handed over between those that stood before it and those behind
      have early : ((q.expire now).1.fulfill (some m) now).queue.replies =
          q.replies ++ (q.lateReplies now before ++ q.lateReplies now after) ++
            [(w.ticket, .ok m)] := by
        rw [fulfill_first m queued (by simp) (stale ▸ hw), replies_sweep, hq, lateReplies_append,
          lateReplies_cons_of_not hl]
        rfl
      have late : ((q.fulfill (some m) now).queue.expire now).1.replies =
          q.replies ++ (q.lateReplies now before ++ [(w.ticket, .ok m)]) ++
            q.lateReplies now after := by
        rw [replies_sweep, hf]
        rfl
      rw [early, late, List.append_assoc, List.append_assoc, List.append_assoc, List.append_assoc]
      refine .append_left _ (.append_left _ ?_)
      exact List.perm_append_comm
    · have queued : (q.expire now).1.requests = [] := by
        rw [requests_sweep, takers_eq_nil_iff.2 hall]
      rw [fulfill_nobody m (by simp [queued]), replies_sweep, replies_sweep, hf, queued]
      exact .refl _

/-! ## Two sweeps -/

/-- Of two sweeps the later one leaves what it leaves alone, and tells the same callers. -/
theorem replies_sweep_sweep {t₁ t₂ : Instant} (h : t₁ ≤ t₂) :
    ((q.expire t₁).1.expire t₂).1.replies.Perm (q.expire t₂).1.replies := by
  have told : (q.requests.filter fun r => r.isLate t₁ && q.hears r.ticket) ++
      (q.takers t₁).filter (fun r => r.isLate t₂ && q.hears r.ticket) =
      ((q.requests.filter fun r => r.isLate t₂ && q.hears r.ticket).filter fun r => r.isLate t₁) ++
        (q.requests.filter fun r => r.isLate t₂ && q.hears r.ticket).filter
          fun r => !r.isLate t₁ := by
    rw [takers, List.filter_filter, List.filter_filter, List.filter_filter]
    congr 1
    · refine List.filter_congr fun r _ => ?_
      cases hl : r.isLate t₁ with
      | false => simp
      | true => simp [Request.late_mono h hl]
    · refine List.filter_congr fun r _ => ?_
      cases hh : q.hears r.ticket <;> simp [isStale, hh, Bool.and_comm]
  have hl := listening_expire q t₁
  rw [replies_sweep, replies_sweep, replies_sweep, requests_sweep, lateReplies_congr hl,
    List.append_assoc, lateReplies, lateReplies, lateReplies, ← List.map_append, told]
  exact .append_left _ ((List.filter_append_perm _ _).map _)

/-! ## What the other acts leave of those that can be served -/

theorem takers_filtered {q' : WaitQueue α} (p : Request → Bool)
    (hr : q'.requests = q.requests.filter p) (hl : q'.listening = q.listening) :
    q'.takers now = (q.takers now).filter p := by
  rw [takers, takers, hr, isStale_congr hl, List.filter_filter, List.filter_filter]
  refine List.filter_congr fun r _ => ?_
  rw [Bool.and_comm]

theorem takers_withdraw (q : WaitQueue α) (ticket : Nat) :
    (q.withdraw ticket).1.takers now = (q.takers now).filter fun r => !decide (r.ticket = ticket) :=
  takers_filtered _ rfl rfl

theorem takers_failEach (q : WaitQueue α) (e : Nat → PoolError) :
    (q.failEach e).1.takers now = [] := by
  rw [failEach_eq]
  rfl

theorem takers_fail (q : WaitQueue α) (ticket : Nat) (e : PoolError) :
    (q.fail ticket e).1.takers now =
      (q.takers now).filter fun r => !decide (r.ticket = ticket) := by
  refine takers_filtered _ ?_ (listening_fail q ticket e)
  rw [fail_eq]
  split
  · rfl
  · rename_i hw
    exact (requests_without (by simpa using hw)).symm

theorem takers_hangUp (q : WaitQueue α) (ticket : Nat) :
    (q.hangUp ticket).takers now = (q.takers now).filter fun r => !decide (r.ticket = ticket) := by
  rw [takers, takers, List.filter_filter]
  refine List.filter_congr fun r _ => ?_
  cases hl : r.isLate now with
  | true => simp [isStale, hl]
  | false =>
    simp only [isStale, hl, hears, hangUp, Bool.false_or, Bool.not_not]
    rw [Bool.eq_iff_iff]
    simp [and_comm]

/-- A new request is heard of under a ticket that nobody else has. -/
theorem takers_enqueue (issued : ∀ r ∈ q.requests, r.ticket < q.nextTicket) (t : Instant)
    (timeout : Duration) :
    (q.enqueue t timeout).1.takers now = q.takers now ++
      ([⟨q.nextTicket, t, t.after timeout, timeout⟩] : List Request).filter
        fun r => !r.isLate now := by
  rw [takers, enqueue, List.filter_append]
  congr 1
  · refine List.filter_congr fun r hr => ?_
    have hne : r.ticket ≠ q.nextTicket := Nat.ne_of_lt (issued r hr)
    simp [isStale, hears, hne]
  · refine List.filter_congr fun r hr => ?_
    obtain rfl := List.mem_singleton.1 hr
    simp [isStale, hears]

/-! ## A run with its sweeps and without them -/

namespace Act

/-- The time at which an act is done, if it depends on the time. -/
def moment? : Act α → Option Instant
  | enqueue now _ | fulfill _ now | expire now => some now
  | fail .. | withdraw _ | failEach _ | read _ | hangUp _ => none

def isSweep : Act α → Bool
  | expire _ => true
  | _ => false

/-- What a delivery reports: whom it served, and what is left in the slot. -/
def report (q : WaitQueue α) : Act α → List (Option Served × Option α)
  | fulfill slot now => [((q.fulfill slot now).served, (q.fulfill slot now).slot)]
  | _ => []

theorem issued_after (issued : ∀ r ∈ q.requests, r.ticket < q.nextTicket) (a : Act α) :
    ∀ r ∈ (a.after q).requests, r.ticket < (a.after q).nextTicket := by
  have w := a.works q
  intro r hr
  rw [w.next]
  rcases List.mem_append.1 (w.queued.subset hr) with hr | hr
  · exact Nat.lt_add_right _ (issued r hr)
  · rcases a.arrivals_cases q with ha | ⟨s, ha, hn⟩ <;> rw [ha] at hr ⊢
    · cases hr
    · obtain rfl := List.mem_singleton.1 hr
      simp [hn]

end Act

/-- What the deliveries of a run report, in their order. -/
def reports (q : WaitQueue α) : List (Act α) → List (Option Served × Option α)
  | [] => []
  | a :: acts => a.report q ++ reports (a.after q) acts

/-- No act is done at an earlier time than one before it. -/
def Chronological (acts : List (Act α)) : Prop :=
  (acts.filterMap Act.moment?).Pairwise (· ≤ ·)

theorem Chronological.uncons {a : Act α} {acts : List (Act α)} (hc : Chronological (a :: acts))
    (hn : ∀ t ∈ (a :: acts).filterMap Act.moment?, now ≤ t) :
    ∃ t, now ≤ t ∧ (∀ u ∈ a.moment?, u = t) ∧ (∀ u ∈ acts.filterMap Act.moment?, t ≤ u) ∧
      Chronological acts := by
  cases hm : a.moment? with
  | none =>
    rw [Chronological, List.filterMap_cons_none hm] at hc
    rw [List.filterMap_cons_none hm] at hn
    exact ⟨now, Nat.le_refl _, by simp, hn, hc⟩
  | some t =>
    rw [Chronological, List.filterMap_cons_some hm] at hc
    rw [List.filterMap_cons_some hm] at hn
    obtain ⟨first, hc⟩ := List.pairwise_cons.1 hc
    refine ⟨t, hn t List.mem_cons_self, ?_, first, hc⟩
    intro u hu
    exact (Option.some.inj hu).symm

/-- Two queues that agree on whom they can serve from `now` on. -/
structure Concur (now : Instant) (q q' : WaitQueue α) : Prop where
  takers : q'.takers now = q.takers now
  hears : ∀ t, q'.hears t = q.hears t
  nextTicket : q'.nextTicket = q.nextTicket
  issued : ∀ r ∈ q.requests, r.ticket < q.nextTicket
  issued' : ∀ r ∈ q'.requests, r.ticket < q'.nextTicket

namespace Concur

variable {q' : WaitQueue α} {a : Act α}

theorem later (h : Concur now q q') {t : Instant} (ht : now ≤ t) : Concur t q q' := by
  refine ⟨?_, h.hears, h.nextTicket, h.issued, h.issued'⟩
  rw [takers_later ht, takers_later ht, h.takers]
  refine List.filter_congr fun r _ => ?_
  rw [isStale, isStale, h.hears]

theorem report_eq (h : Concur now q q') (ha : ∀ t ∈ a.moment?, t = now) :
    a.report q' = a.report q := by
  cases a with
  | fulfill slot t =>
    obtain rfl := ha t rfl
    have o := q.offers slot t
    have o' := q'.offers slot t
    simp only [Act.report, o.served, o'.served, o.left, o'.left, h.takers]
  | _ => rfl

theorem takers_after (h : Concur now q q') (ha : ∀ t ∈ a.moment?, t = now) :
    (a.after q').takers now = (a.after q).takers now := by
  cases a with
  | enqueue t timeout =>
    rw [Act.after, Act.after, takers_enqueue h.issued, takers_enqueue h.issued', h.takers,
      h.nextTicket]
  | fulfill slot t =>
    obtain rfl := ha t rfl
    rw [Act.after, Act.after, (q.offers slot t).takers, (q'.offers slot t).takers, h.takers]
  | fail ticket e => rw [Act.after, Act.after, takers_fail, takers_fail, h.takers]
  | withdraw ticket => rw [Act.after, Act.after, takers_withdraw, takers_withdraw, h.takers]
  | expire t =>
    obtain rfl := ha t rfl
    rw [Act.after, Act.after, takers_sweep (Nat.le_refl _), takers_sweep (Nat.le_refl _), h.takers]
  | failEach e => rw [Act.after, Act.after, takers_failEach, takers_failEach]
  | read ticket => exact h.takers
  | hangUp ticket => rw [Act.after, Act.after, takers_hangUp, takers_hangUp, h.takers]

/-- Every act keeps two queues in agreement. -/
theorem after (h : Concur now q q') (ha : ∀ t ∈ a.moment?, t = now) :
    Concur now (a.after q) (a.after q') := by
  have w := a.works q
  have w' := a.works q'
  have arrivals : (a.arrivals q').map (·.ticket) = (a.arrivals q).map (·.ticket) := by
    cases a with
    | enqueue t timeout => exact congrArg (fun n => [n]) h.nextTicket
    | _ => rfl
  refine ⟨h.takers_after ha, ?_, ?_, a.issued_after h.issued, a.issued_after h.issued'⟩
  · intro t
    rw [Bool.eq_iff_iff, w.hears, w'.hears, h.hears, arrivals]
  · rw [w.next, w'.next, h.nextTicket]
    simpa using congrArg List.length arrivals

/-- A sweep of one of them leaves two queues in agreement. -/
theorem sweep (h : Concur now q q') : Concur now (q.expire now).1 q' := by
  have w := (Act.expire now).works q
  refine ⟨?_, ?_, ?_, Act.issued_after h.issued (.expire now), h.issued'⟩
  · rw [takers_sweep (Nat.le_refl _), h.takers]
  · intro t
    rw [h.hears, WaitQueue.hears, WaitQueue.hears, listening_expire]
  · exact h.nextTicket.trans w.next.symm

/-- **A run serves the same without its sweeps.** -/
theorem reports_filter (h : Concur now q q') {acts : List (Act α)} (hc : Chronological acts)
    (hn : ∀ t ∈ acts.filterMap Act.moment?, now ≤ t) :
    reports q' (acts.filter fun a => !a.isSweep) = reports q acts := by
  induction acts generalizing now q q' with
  | nil => rfl
  | cons a acts ih =>
    obtain ⟨t, hnt, ha, rest, chronological⟩ := hc.uncons hn
    have agree := h.later hnt
    cases hs : a.isSweep with
    | true =>
      rw [List.filter_cons_of_neg (by simp [hs]), reports]
      cases a with
      | expire u =>
        obtain rfl := ha u rfl
        exact ih agree.sweep chronological rest
      | _ => cases hs
    | false =>
      rw [List.filter_cons_of_pos (by simp [hs]), reports, reports, agree.report_eq ha,
        ih (agree.after ha) chronological rest]

end Concur

/-! ## Sweeps make no difference -/

namespace Annals

/-- **Sweeps make no difference** for whom a delivery reaches. In any queue a sweep and a delivery
at the same time may change places; of two sweeps the later one is enough, and counts for both; and
any run in the order of time reports the same deliveries with its sweeps and without them. -/
theorem sweeps_aside (acts : List (Act α)) :
    (∀ (slot : Option α) (now : Instant),
      (((of acts).queue.expire now).1.fulfill slot now).served =
          ((of acts).queue.fulfill slot now).served ∧
        (((of acts).queue.expire now).1.fulfill slot now).slot =
          ((of acts).queue.fulfill slot now).slot ∧
        (((of acts).queue.expire now).1.fulfill slot now).queue.Alike
          (((of acts).queue.fulfill slot now).queue.expire now).1) ∧
    (∀ t₁ t₂ : Instant, t₁ ≤ t₂ →
      (((of acts).queue.expire t₁).1.expire t₂).1.Alike ((of acts).queue.expire t₂).1 ∧
        ((of acts).queue.expire t₁).2 + (((of acts).queue.expire t₁).1.expire t₂).2 =
          ((of acts).queue.expire t₂).2) ∧
    (Chronological acts →
      reports {} (acts.filter fun a => !a.isSweep) = reports ({} : WaitQueue α) acts) := by
  -- what was done to a queue, and two acts more, is a run again
  have distinct (a b : Act α) :
      (Table.keys (b.after (a.after (of acts).queue)).replies).Nodup := by
    have places := (orderly (acts ++ [a] ++ [b])).places_nodup
    rw [of_concat, of_concat] at places
    exact (List.nodup_append.1 places).2.1
  generalize (of acts).queue = q at distinct
  refine ⟨?_, ?_, ?_⟩
  · intro slot now
    have o := q.offers slot now
    have o' := (q.expire now).1.offers slot now
    have hl : (q.expire now).1.takers now = q.takers now := takers_sweep (Nat.le_refl _)
    refine ⟨?_, ?_, ?_⟩
    · rw [o'.served, o.served, hl]
    · rw [o'.left, o.left, hl]
    · refine .of_perm (distinct (.expire now) (.fulfill slot now)) ?_ ?_ ?_
        (replies_sweep_fulfill q slot now)
      · rw [requests_sweep, requests_sweep_fulfill, o.takers]
      · rw [nextTicket_sweep, o.rest.2, o'.rest.2, nextTicket_sweep]
      · rw [listening_expire, o.rest.1, o'.rest.1, listening_expire]
  · intro t₁ t₂ h
    have requests : ((q.expire t₁).1.expire t₂).1.requests = (q.expire t₂).1.requests := by
      rw [requests_sweep, requests_sweep, takers_sweep h]
    constructor
    · refine .of_perm (distinct (.expire t₁) (.expire t₂)) requests.symm ?_ ?_
        (replies_sweep_sweep h)
      · rw [nextTicket_sweep, nextTicket_sweep, nextTicket_sweep]
      · rw [listening_expire, listening_expire, listening_expire]
    · have c₁ := q.count_sweep t₁
      have c₂ := q.count_sweep t₂
      have c₁₂ := (q.expire t₁).1.count_sweep t₂
      rw [requests] at c₁₂
      omega
  · intro hc
    have same : Concur ⟨0⟩ ({} : WaitQueue α) {} := ⟨rfl, fun _ => rfl, rfl, by simp, by simp⟩
    exact same.reports_filter hc fun t _ => Nat.zero_le _

/-- A run in which one sweep finds a late request and one whose caller hung up, and another sweep
comes between an empty slot and an item. -/
def dusted : List (Act Nat) :=
  [.enqueue ⟨0⟩ ⟨10⟩, .enqueue ⟨0⟩ ⟨100⟩, .enqueue ⟨2⟩ ⟨3⟩, .hangUp 2, .expire ⟨6⟩,
    .enqueue ⟨6⟩ ⟨50⟩, .fulfill none ⟨15⟩, .expire ⟨20⟩, .fulfill (some 7) ⟨20⟩,
    .fulfill (some 8) ⟨21⟩]

theorem sweeps_aside_dusted :
    (⟨6⟩ : Instant) ≤ ⟨20⟩ ∧
      ((of mixed).queue.expire ⟨6⟩).2 = 2 ∧ ((of mixed).queue.expire ⟨20⟩).2 = 4 ∧
      (((of mixed).queue.expire ⟨6⟩).1.expire ⟨20⟩).2 = 2 ∧
      Chronological dusted ∧
      reports {} (dusted.filter fun a => !a.isSweep) =
        [(none, none), (some ⟨4, ⟨14⟩⟩, none), (none, some 8)] := by
  have order : Chronological dusted := by
    unfold Chronological
    decide
  have early : ((of mixed).queue.expire ⟨6⟩).2 = 2 := by decide
  have late : ((of mixed).queue.expire ⟨20⟩).2 = 4 := by decide
  have both := ((sweeps_aside mixed).2.1 ⟨6⟩ ⟨20⟩ (by decide)).2
  refine ⟨by decide, early, late, by omega, order, ?_⟩
  rw [(sweeps_aside dusted).2.2 order]
  decide

end Annals

end SessionPool.WaitQueue
