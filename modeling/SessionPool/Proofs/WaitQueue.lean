import Mathlib.Data.List.Nodup
import SessionPool.Pool.WaitQueue
import SessionPool.Proofs.Table

/-!
# What the queue of waiting requests does

`fulfill_cases` says whom an item reaches that is offered to the queue: the first request that is
not stale, or nobody, and then the queue is empty. The other operations are given by equations:
each takes requests out of the queue and adds a reply for those of them whose callers listen.

`Sound q`: the requests stand in the order of their tickets, and every caller that listens either
waits in the queue or has one unread reply, never both. It is kept by every operation that a pool
carries out (`Sound.enqueue`, `Sound.answered`, `Sound.forget`).
-/

set_option autoImplicit false

namespace SessionPool.WaitQueue

variable {α : Type}

def items (replies : List (Nat × Except PoolError α)) : List α :=
  replies.filterMap fun a => a.2.toOption

/-- The items that were handed over and not taken by their callers yet. -/
def delivered (q : WaitQueue α) : List α := items q.replies

def tickets (q : WaitQueue α) : List Nat := q.requests.map (·.ticket)

def lateReply (r : Request) : Nat × Except PoolError α := (r.ticket, .error (.timeout r.timeout))

/-- What the callers of late requests are told, as far as they listen. -/
def lateReplies (q : WaitQueue α) (now : Instant) (rs : List Request) :
    List (Nat × Except PoolError α) :=
  (rs.filter fun r => r.isLate now && q.hears r.ticket).map lateReply

/-! ## The operations as equations -/

theorem answer_eq (q : WaitQueue α) (ticket : Nat) (result : Except PoolError α) :
    q.answer ticket result =
      { q with replies := q.replies ++ if q.hears ticket then [(ticket, result)] else [] } := by
  unfold answer
  split <;> simp

theorem answerLate_eq (q : WaitQueue α) (r : Request) :
    q.answerLate r =
      { q with replies := q.replies ++ if q.hears r.ticket then [lateReply r] else [] } :=
  answer_eq q _ _

theorem lateReplies_cons {q : WaitQueue α} {now : Instant} {r : Request} (h : r.isLate now = true)
    (rs : List Request) :
    q.lateReplies now (r :: rs) =
      (if q.hears r.ticket then [lateReply r] else []) ++ q.lateReplies now rs := by
  unfold lateReplies
  by_cases hh : q.hears r.ticket = true <;> simp [h, hh]

theorem lateReplies_cons_of_not {q : WaitQueue α} {now : Instant} {r : Request}
    (h : r.isLate now = false) (rs : List Request) :
    q.lateReplies now (r :: rs) = q.lateReplies now rs := by
  simp [lateReplies, h]

/-- Whether a request is stale depends only on who listens. -/
theorem isStale_congr {q q' : WaitQueue α} (h : q'.listening = q.listening) (now : Instant) :
    q'.isStale now = q.isStale now := by
  funext r
  simp [isStale, hears, h]

theorem offerTo_cases (m : α) (now : Instant) : ∀ (rs : List Request) (q : WaitQueue α),
    (∃ before r after, rs = before ++ r :: after ∧ (∀ x ∈ before, q.isStale now x = true) ∧
      q.isStale now r = false ∧
      q.offerTo (some m) now rs =
        ⟨{ q with
            requests := after
            replies := q.replies ++ (q.lateReplies now before ++ [(r.ticket, .ok m)]) },
          some ⟨r.ticket, now.since r.arrived⟩, none⟩) ∨
    ((∀ x ∈ rs, q.isStale now x = true) ∧
      q.offerTo (some m) now rs =
        ⟨{ q with requests := [], replies := q.replies ++ q.lateReplies now rs }, none, some m⟩)
  | [], q => by
    refine .inr ⟨by simp, ?_⟩
    simp [offerTo, lateReplies]
  | r :: rs, q => by
    by_cases hl : r.isLate now = true
    · have hr : q.isStale now r = true := by simp [isStale, hl]
      -- the late request is told so, which leaves the listeners as they are
      have heq : q.offerTo (some m) now (r :: rs) = (q.answerLate r).offerTo (some m) now rs := by
        rw [offerTo, if_pos hl]
      rw [heq, answerLate_eq]
      rcases offerTo_cases m now rs
        { q with replies := q.replies ++ if q.hears r.ticket then [lateReply r] else [] } with
        ⟨before, s, after, rfl, hb, hs, h⟩ | ⟨hb, h⟩
      · refine .inl ⟨r :: before, s, after, rfl, ?_, hs, ?_⟩
        · rintro x (_ | ⟨_, hx⟩)
          · exact hr
          · exact hb x hx
        · rw [h, lateReplies_cons hl]
          simp only [List.append_assoc]
          rfl
      · refine .inr ⟨?_, ?_⟩
        · rintro x (_ | ⟨_, hx⟩)
          · exact hr
          · exact hb x hx
        · rw [h, lateReplies_cons hl]
          simp only [List.append_assoc]
          rfl
    · have hl : r.isLate now = false := by simpa using hl
      by_cases hh : q.hears r.ticket = true
      · refine .inl ⟨[], r, rs, rfl, by simp, by simp [isStale, hl, hh], ?_⟩
        simp [offerTo, hl, hh, answer_eq, lateReplies]
      · have hh : q.hears r.ticket = false := by simpa using hh
        have hr : q.isStale now r = true := by simp [isStale, hh]
        have heq : q.offerTo (some m) now (r :: rs) = q.offerTo (some m) now rs := by
          simp [offerTo, hl, hh]
        rw [heq]
        rcases offerTo_cases m now rs q with ⟨before, s, after, rfl, hb, hs, h⟩ | ⟨hb, h⟩
        · refine .inl ⟨r :: before, s, after, rfl, ?_, hs, ?_⟩
          · rintro x (_ | ⟨_, hx⟩)
            · exact hr
            · exact hb x hx
          · rw [h, lateReplies_cons_of_not hl]
        · refine .inr ⟨?_, ?_⟩
          · rintro x (_ | ⟨_, hx⟩)
            · exact hr
            · exact hb x hx
          · rw [h, lateReplies_cons_of_not hl]

/-- **An item offered to the queue** goes to the first request that is not stale, and those before
it leave the queue; without such a request the item stays and the queue is empty. -/
theorem fulfill_cases (q : WaitQueue α) (m : α) (now : Instant) :
    (∃ before r after, q.requests = before ++ r :: after ∧
      (∀ x ∈ before, q.isStale now x = true) ∧ q.isStale now r = false ∧
      q.fulfill (some m) now =
        ⟨{ q with
            requests := after
            replies := q.replies ++ (q.lateReplies now before ++ [(r.ticket, .ok m)]) },
          some ⟨r.ticket, now.since r.arrived⟩, none⟩) ∨
    ((∀ x ∈ q.requests, q.isStale now x = true) ∧
      q.fulfill (some m) now =
        ⟨{ q with requests := [], replies := q.replies ++ q.lateReplies now q.requests },
          none, some m⟩) :=
  offerTo_cases m now q.requests q

/-- An empty slot reaches only the late requests at the head of the queue, which are told so. -/
theorem offerTo_none (now : Instant) : ∀ (rs : List Request) (q : WaitQueue α),
    ∃ before after, rs = before ++ after ∧ (∀ x ∈ before, x.isLate now = true) ∧
      (∀ x ∈ after.head?, x.isLate now = false) ∧
      q.offerTo none now rs =
        ⟨{ q with requests := after, replies := q.replies ++ q.lateReplies now before },
          none, none⟩
  | [], q => ⟨[], [], rfl, by simp, by simp, by simp [offerTo, lateReplies]⟩
  | r :: rs, q => by
    by_cases hl : r.isLate now = true
    · have heq : q.offerTo none now (r :: rs) = (q.answerLate r).offerTo none now rs := by
        rw [offerTo, if_pos hl]
      obtain ⟨before, after, rfl, hb, ha, h⟩ := offerTo_none now rs
        { q with replies := q.replies ++ if q.hears r.ticket then [lateReply r] else [] }
      refine ⟨r :: before, after, rfl, ?_, ha, ?_⟩
      · rintro x (_ | ⟨_, hx⟩)
        · exact hl
        · exact hb x hx
      · rw [heq, answerLate_eq, h, lateReplies_cons hl]
        simp only [List.append_assoc]
        rfl
    · have hl : r.isLate now = false := by simpa using hl
      refine ⟨[], r :: rs, rfl, by simp, ?_, ?_⟩
      · rintro x ⟨⟩
        exact hl
      · simp [offerTo, hl, lateReplies]

theorem fulfill_none (q : WaitQueue α) (now : Instant) :
    ∃ before after, q.requests = before ++ after ∧ (∀ x ∈ before, x.isLate now = true) ∧
      (∀ x ∈ after.head?, x.isLate now = false) ∧
      q.fulfill none now =
        ⟨{ q with requests := after, replies := q.replies ++ q.lateReplies now before },
          none, none⟩ :=
  offerTo_none now q.requests q

theorem foldl_answerLate (now : Instant) : ∀ (rs : List Request) (q : WaitQueue α),
    (∀ r ∈ rs, q.isStale now r = true) →
    rs.foldl answerLate q = { q with replies := q.replies ++ q.lateReplies now rs }
  | [], q, _ => by simp [lateReplies]
  | r :: rs, q, h => by
    have hrs : ∀ x ∈ rs, (q.answerLate r).isStale now x = true := fun x hx => by
      rw [isStale_congr (by rw [answerLate_eq]) now]
      exact h x (List.mem_cons_of_mem _ hx)
    rw [List.foldl_cons, foldl_answerLate now rs _ hrs, answerLate_eq]
    have hr := h r List.mem_cons_self
    by_cases hl : r.isLate now = true
    · rw [lateReplies_cons hl, List.append_assoc]
      rfl
    · -- a request that is stale without being late has a caller that hung up
      have hl : r.isLate now = false := by simpa using hl
      have hh : r.ticket ∉ q.listening := by simpa [isStale, hl, hears] using hr
      rw [lateReplies_cons_of_not hl]
      simp [hh, lateReplies, hears]

theorem expire_eq (q : WaitQueue α) (now : Instant) :
    (q.expire now).1 =
      { q with
        requests := q.requests.filter fun r => !q.isStale now r
        replies := q.replies ++ q.lateReplies now q.requests } := by
  have stale : (q.requests.filter (q.isStale now)).filter
      (fun r => r.isLate now && q.hears r.ticket) =
      q.requests.filter fun r => r.isLate now && q.hears r.ticket := by
    rw [List.filter_filter]
    refine List.filter_congr fun r _ => ?_
    cases h : r.isLate now <;> simp [isStale, h]
  have h := foldl_answerLate now (q.requests.filter (q.isStale now))
    { q with requests := q.requests.filter fun r => !q.isStale now r }
    fun r hr => (List.mem_filter.1 hr).2
  refine h.trans ?_
  rw [lateReplies, lateReplies]
  exact congrArg (fun rs => { q with
    requests := q.requests.filter fun r => !q.isStale now r
    replies := q.replies ++ rs.map lateReply }) stale

theorem foldl_answer {β : Type} (ticket : β → Nat) (result : β → Except PoolError α) (l : List β)
    (q : WaitQueue α) :
    l.foldl (fun q b => q.answer (ticket b) (result b)) q =
      { q with replies := q.replies ++
          (l.filter fun b => q.hears (ticket b)).map fun b => (ticket b, result b) } := by
  induction l generalizing q with
  | nil => simp
  | cons b l ih =>
    rw [List.foldl_cons, ih, answer_eq]
    by_cases hh : q.hears (ticket b) = true
    · simp [hears] at hh ⊢
      simp [hh]
    · simp [hears] at hh ⊢
      simp [hh]

theorem failEach_eq (q : WaitQueue α) (e : Nat → PoolError) :
    (q.failEach e).1 =
      { q with
        requests := []
        replies := q.replies ++
          (q.requests.zipIdx.filter fun r => q.hears r.1.ticket).map
            fun r => (r.1.ticket, .error (e r.2)) } :=
  foldl_answer (fun r : Request × Nat => r.1.ticket) (fun r => .error (e r.2)) _ _

theorem failAll_eq (q : WaitQueue α) (e : PoolError) :
    (q.failAll e).1 =
      { q with
        requests := []
        replies := q.replies ++
          (q.requests.filter fun r => q.hears r.ticket).map fun r => (r.ticket, .error e) } := by
  have hf : (q.requests.filter fun r => q.hears r.ticket) =
      (q.requests.zipIdx.filter fun r => q.hears r.1.ticket).map Prod.fst := by
    conv_lhs => rw [← List.zipIdx_map_fst 0 q.requests]
    rw [List.filter_map]
    rfl
  rw [failAll, failEach_eq, hf, List.map_map]
  rfl

theorem fail_eq (q : WaitQueue α) (ticket : Nat) (e : PoolError) :
    (q.fail ticket e).1 =
      if q.isWaiting ticket then
        { q with
          requests := q.requests.filter fun r => !decide (r.ticket = ticket)
          replies := q.replies ++ if q.hears ticket then [(ticket, .error e)] else [] }
      else q := by
  unfold fail
  split
  · rw [answer_eq]
    rfl
  · rfl

/-- Withdrawing a request and hanging up removes its ticket from everywhere. -/
theorem hangUp_withdraw (q : WaitQueue α) (ticket : Nat) :
    (q.withdraw ticket).1.hangUp ticket =
      { q with
        requests := q.requests.filter fun r => !decide (r.ticket = ticket)
        listening := q.listening.filter fun t => !decide (t = ticket)
        replies := Table.remove q.replies ticket } := rfl

theorem isWaiting_iff {q : WaitQueue α} {ticket : Nat} :
    q.isWaiting ticket = true ↔ ticket ∈ q.tickets := by
  simp [isWaiting, tickets]

theorem requests_without {q : WaitQueue α} {ticket : Nat} (h : q.isWaiting ticket = false) :
    (q.requests.filter fun r => !decide (r.ticket = ticket)) = q.requests := by
  refine List.filter_eq_self.2 fun r hr => ?_
  have : r.ticket ≠ ticket := fun e => by
    rw [isWaiting_iff.2 (List.mem_map.2 ⟨r, hr, e⟩)] at h
    cases h
  simpa using this

theorem hangUp_of_not_waiting {q : WaitQueue α} {ticket : Nat} (h : q.isWaiting ticket = false) :
    q.hangUp ticket = (q.withdraw ticket).1.hangUp ticket := by
  rw [hangUp_withdraw, requests_without h]
  rfl

/-! ## Items that lie ready -/

@[simp] theorem items_append (a b : List (Nat × Except PoolError α)) :
    items (a ++ b) = items a ++ items b := List.filterMap_append

@[simp] theorem items_nil : items ([] : List (Nat × Except PoolError α)) = [] := rfl

@[simp] theorem items_ok (ticket : Nat) (m : α) : items [(ticket, .ok m)] = [m] := rfl

@[simp] theorem items_error (ticket : Nat) (e : PoolError) :
    items ([(ticket, .error e)] : List (Nat × Except PoolError α)) = [] := rfl

@[simp] theorem items_map_error {β : Type} (l : List β) (f : β → Nat) (g : β → PoolError) :
    items (l.map fun b => (f b, (.error (g b) : Except PoolError α))) = [] :=
  List.filterMap_eq_nil_iff.2 fun a ha => by
    obtain ⟨b, -, rfl⟩ := List.mem_map.1 ha
    rfl

@[simp] theorem items_lateReplies (q : WaitQueue α) (now : Instant) (rs : List Request) :
    items (q.lateReplies now rs) = [] := items_map_error _ _ _

/-- An item that a caller could read lies ready. -/
theorem mem_delivered {q : WaitQueue α} {ticket : Nat} {m : α}
    (h : q.reply? ticket = some (.ok m)) : m ∈ q.delivered :=
  List.mem_filterMap.2 ⟨(ticket, .ok m), Table.mem_of_get? h, rfl⟩

@[simp] theorem delivered_expire (q : WaitQueue α) (now : Instant) :
    (q.expire now).1.delivered = q.delivered := by
  simp [expire_eq, delivered]

@[simp] theorem delivered_failAll (q : WaitQueue α) (e : PoolError) :
    (q.failAll e).1.delivered = q.delivered := by
  simp [failAll_eq, delivered]

@[simp] theorem delivered_fail (q : WaitQueue α) (ticket : Nat) (e : PoolError) :
    (q.fail ticket e).1.delivered = q.delivered := by
  rw [fail_eq]
  split
  · split <;> simp [delivered]
  · rfl

/-- An item that is taken lies ready for the caller that took it. -/
theorem delivered_fulfill (q : WaitQueue α) (m : α) (now : Instant) :
    (q.fulfill (some m) now).queue.delivered =
      q.delivered ++ if (q.fulfill (some m) now).served.isSome then [m] else [] := by
  rcases q.fulfill_cases m now with ⟨before, r, after, -, -, -, hf⟩ | ⟨-, hf⟩ <;>
    simp [hf, delivered]

/-! ## Requests that wait -/

theorem requests_expire (q : WaitQueue α) (now : Instant) :
    (q.expire now).1.requests.Sublist q.requests := by
  rw [expire_eq]
  exact List.filter_sublist

theorem requests_fulfill (q : WaitQueue α) (m : α) (now : Instant) :
    (q.fulfill (some m) now).queue.requests.Sublist q.requests := by
  rcases q.fulfill_cases m now with ⟨before, r, after, hq, -, -, hf⟩ | ⟨-, hf⟩ <;> rw [hf]
  · rw [hq]
    exact List.sublist_append_of_sublist_right (List.sublist_cons_self r after)
  · exact List.nil_sublist _

theorem requests_fail (q : WaitQueue α) (ticket : Nat) (e : PoolError) :
    (q.fail ticket e).1.requests.Sublist q.requests := by
  rw [fail_eq]
  split
  · exact List.filter_sublist
  · exact .refl _

theorem requests_failAll (q : WaitQueue α) (e : PoolError) : (q.failAll e).1.requests = [] := by
  rw [failAll_eq]

/-! ## Callers that listen -/

@[simp] theorem listening_expire (q : WaitQueue α) (now : Instant) :
    (q.expire now).1.listening = q.listening := by
  rw [expire_eq]

@[simp] theorem listening_failAll (q : WaitQueue α) (e : PoolError) :
    (q.failAll e).1.listening = q.listening := by
  rw [failAll_eq]

@[simp] theorem listening_fail (q : WaitQueue α) (ticket : Nat) (e : PoolError) :
    (q.fail ticket e).1.listening = q.listening := by
  rw [fail_eq]
  split <;> rfl

@[simp] theorem listening_fulfill (q : WaitQueue α) (m : α) (now : Instant) :
    (q.fulfill (some m) now).queue.listening = q.listening := by
  rcases q.fulfill_cases m now with ⟨before, r, after, -, -, -, hf⟩ | ⟨-, hf⟩ <;> rw [hf]

/-- A caller that hangs up takes along the item that lies ready for it. -/
theorem delivered_hangUp {q : WaitQueue α} (hn : (Table.keys q.replies).Nodup) (ticket : Nat) :
    q.delivered.Perm
      (((q.reply? ticket).bind Except.toOption).toList ++ (q.hangUp ticket).delivered) := by
  cases hr : q.reply? ticket with
  | none =>
    have : Table.remove q.replies ticket = q.replies :=
      Table.remove_of_notMem (Table.get?_eq_none_iff.1 hr)
    simp [delivered, hangUp, read, this]
  | some r =>
    refine ((Table.perm_of_get? hn hr).filterMap _).trans (.of_eq ?_)
    cases r <;> rfl

/-! ## The queue and its callers -/

/-- The requests stand in the order of their tickets, and each caller that listens either waits or
has one reply. -/
structure Sound (q : WaitQueue α) : Prop where
  ordered : q.requests.Pairwise fun a b => a.ticket < b.ticket
  issued : ∀ t ∈ q.listening, t < q.nextTicket
  distinct : q.listening.Nodup
  placed : q.listening.Perm (q.tickets ++ Table.keys q.replies)

namespace Sound

variable {q : WaitQueue α}

theorem empty : Sound ({} : WaitQueue α) where
  ordered := .nil
  issued := by simp
  distinct := .nil
  placed := .nil

theorem hears (h : Sound q) {r : Request} (hr : r ∈ q.requests) : q.hears r.ticket = true := by
  have : r.ticket ∈ q.tickets := List.mem_map_of_mem hr
  simpa [WaitQueue.hears] using h.placed.mem_iff.2 (List.mem_append_left _ this)

/-- Nobody hangs up while its request waits, so a stale request is a late one. -/
theorem isStale_iff (h : Sound q) {r : Request} (hr : r ∈ q.requests) (now : Instant) :
    q.isStale now r = r.isLate now := by
  simp [isStale, h.hears hr]

theorem places_nodup (h : Sound q) : (q.tickets ++ Table.keys q.replies).Nodup :=
  h.placed.nodup_iff.1 h.distinct

theorem tickets_nodup (h : Sound q) : q.tickets.Nodup := (List.nodup_append.1 h.places_nodup).1

theorem replies_nodup (h : Sound q) : (Table.keys q.replies).Nodup :=
  (List.nodup_append.1 h.places_nodup).2.1

theorem reply?_of_waiting (h : Sound q) {ticket : Nat} (hw : q.isWaiting ticket = true) :
    q.reply? ticket = none := by
  refine Table.get?_eq_none_iff.2 fun hr => ?_
  exact (List.nodup_append.1 h.places_nodup).2.2 _ (isWaiting_iff.1 hw) _ hr rfl

theorem not_waiting_of_reply (h : Sound q) {ticket : Nat} {r : Except PoolError α}
    (hr : q.reply? ticket = some r) : q.isWaiting ticket = false := by
  cases hw : q.isWaiting ticket with
  | false => rfl
  | true =>
    rw [h.reply?_of_waiting hw] at hr
    cases hr

theorem lateReplies_keys (h : Sound q) {now : Instant} {rs : List Request}
    (hm : ∀ r ∈ rs, r ∈ q.requests) (hl : ∀ r ∈ rs, q.isStale now r = true) :
    Table.keys (q.lateReplies now rs) = rs.map (·.ticket) := by
  have : rs.filter (fun r => r.isLate now && q.hears r.ticket) = rs :=
    List.filter_eq_self.2 fun r hr => by
      rw [← h.isStale_iff (hm r hr), hl r hr, h.hears (hm r hr)]
      rfl
  rw [lateReplies, this]
  simp [Table.keys, lateReply, Function.comp_def]

/-- Some requests leave the queue and their callers are answered. -/
theorem answered (h : Sound q) {rs : List Request} {replies : List (Nat × Except PoolError α)}
    (hs : rs.Sublist q.requests)
    (hp : (rs.map (·.ticket) ++ Table.keys replies).Perm q.tickets) :
    Sound { q with requests := rs, replies := q.replies ++ replies } where
  ordered := h.ordered.sublist hs
  issued := h.issued
  distinct := h.distinct
  placed := by
    refine h.placed.trans ((hp.symm.append_right _).trans ?_)
    simp only [tickets, Table.keys, List.map_append, List.append_assoc]
    exact .append_left _ List.perm_append_comm

theorem enqueue (h : Sound q) (now : Instant) (timeout : Duration) :
    Sound (q.enqueue now timeout).1 where
  ordered := by
    refine List.pairwise_append.2 ⟨h.ordered, List.pairwise_singleton _ _, fun r hr s hs => ?_⟩
    rw [List.mem_singleton.1 hs]
    exact h.issued _ (by simpa [WaitQueue.hears] using h.hears hr)
  issued := fun t ht => by
    rcases List.mem_append.1 ht with ht | ht
    · exact Nat.lt_succ_of_lt (h.issued t ht)
    · rw [List.mem_singleton.1 ht]
      exact Nat.lt_succ_self _
  distinct := by
    refine List.nodup_append.2 ⟨h.distinct, List.nodup_singleton _, fun t ht u hu e => ?_⟩
    rw [e, List.mem_singleton.1 hu] at ht
    exact Nat.lt_irrefl _ (h.issued _ ht)
  placed := by
    refine (h.placed.append_right _).trans ?_
    simp only [WaitQueue.enqueue, tickets, List.map_append, List.append_assoc]
    exact .append_left _ List.perm_append_comm

theorem forget (h : Sound q) (ticket : Nat) : Sound ((q.withdraw ticket).1.hangUp ticket) where
  ordered := h.ordered.filter _
  issued := fun t ht => h.issued t (List.mem_filter.1 ht).1
  distinct := h.distinct.filter _
  placed := by
    refine (h.placed.filter _).trans (.of_eq ?_)
    rw [hangUp_withdraw, List.filter_append, ← Table.keys_remove, tickets, List.filter_map]
    rfl

theorem fulfill (h : Sound q) (m : α) (now : Instant) : Sound (q.fulfill (some m) now).queue := by
  rcases q.fulfill_cases m now with ⟨before, r, after, hq, hb, -, hf⟩ | ⟨hb, hf⟩ <;> rw [hf]
  · refine h.answered (hq ▸ List.sublist_append_of_sublist_right (List.sublist_cons_self _ _)) ?_
    have hm : ∀ x ∈ before, x ∈ q.requests := fun x hx => hq ▸ List.mem_append_left _ hx
    have hk : Table.keys (q.lateReplies now before ++ [(r.ticket, .ok m)]) =
        before.map (·.ticket) ++ [r.ticket] := by
      rw [← h.lateReplies_keys hm hb]
      simp [Table.keys]
    rw [hk, tickets, hq]
    simp only [List.map_append, List.map_cons]
    refine List.perm_append_comm.trans ?_
    simp
  · refine h.answered (List.nil_sublist _) ?_
    rw [h.lateReplies_keys (fun r hr => hr) hb]
    exact .refl _

theorem expire (h : Sound q) (now : Instant) : Sound (q.expire now).1 := by
  rw [expire_eq]
  refine h.answered List.filter_sublist ?_
  have hf : q.lateReplies now q.requests =
      q.lateReplies now (q.requests.filter (q.isStale now)) := by
    rw [lateReplies, lateReplies, List.filter_filter]
    congr 1
    refine List.filter_congr fun r hr => ?_
    rw [h.isStale_iff hr, h.hears hr]
    simp
  rw [hf, h.lateReplies_keys (fun r hr => (List.mem_filter.1 hr).1)
    (fun r hr => (List.mem_filter.1 hr).2), ← List.map_append]
  exact (List.perm_append_comm.trans (List.filter_append_perm _ _)).map _

theorem failAll (h : Sound q) (e : PoolError) : Sound (q.failAll e).1 := by
  rw [failAll_eq]
  refine h.answered (List.nil_sublist _) ?_
  rw [List.filter_eq_self.2 fun r hr => h.hears hr]
  simp [Table.keys, tickets, Function.comp_def]

theorem fail (h : Sound q) (ticket : Nat) (e : PoolError) : Sound (q.fail ticket e).1 := by
  rw [fail_eq]
  split
  · rename_i hw
    have ht : ticket ∈ q.tickets := isWaiting_iff.1 hw
    obtain ⟨r, hr, hrt⟩ := List.mem_map.1 ht
    refine h.answered List.filter_sublist ?_
    rw [if_pos (hrt ▸ h.hears hr)]
    have : (q.requests.filter fun r => !decide (r.ticket = ticket)).map (·.ticket) =
        q.tickets.erase ticket := by
      rw [h.tickets_nodup.erase_eq_filter, tickets, List.filter_map]
      congr 1
    rw [this]
    exact List.perm_append_comm.trans (List.perm_cons_erase ht).symm
  · exact h

end Sound

end SessionPool.WaitQueue
