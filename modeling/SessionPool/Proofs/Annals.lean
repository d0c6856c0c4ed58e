import Mathlib.Data.List.Induction
import Mathlib.Data.List.Nodup
import SessionPool.Proofs.WaitQueue

/-!
# A queue of requests over its whole life

The queue by itself, without a pool that keeps to any rules: whatever is done to it, in any order,
at any times and with any tickets (`Act`). `Annals` write down what the queue itself forgets: the
requests that arrived, the answers that were given and taken, the items that were offered, and
those that stayed with their givers.

`Act.works` says what one act does, in any queue: which requests it leaves, whom it tells what, and
where an offered item goes. `Annals.Orderly` is what every act keeps. From both, `Annals.account`
gives the account of a whole run: tickets rise, the queue stands in their order, a request whose
caller listens waits until it is told or withdrawn, nobody is told twice, and no item is lost or
doubled.
-/

set_option autoImplicit false

namespace SessionPool.WaitQueue

variable {α : Type}

/-- What can be done to a queue. -/
inductive Act (α : Type)
  | enqueue (now : Instant) (timeout : Duration)
  | fulfill (slot : Option α) (now : Instant)
  | fail (ticket : Nat) (e : PoolError)
  | withdraw (ticket : Nat)
  | expire (now : Instant)
  | failEach (e : Nat → PoolError)
  | read (ticket : Nat)
  | hangUp (ticket : Nat)

namespace Act

def after (q : WaitQueue α) : Act α → WaitQueue α
  | enqueue now timeout => (q.enqueue now timeout).1
  | fulfill slot now => (q.fulfill slot now).queue
  | fail ticket e => (q.fail ticket e).1
  | withdraw ticket => (q.withdraw ticket).1
  | expire now => (q.expire now).1
  | failEach e => (q.failEach e).1
  | read ticket => q.read ticket
  | hangUp ticket => q.hangUp ticket

/-- The request that an act enters, under the ticket that it issues. -/
def arrivals (q : WaitQueue α) : Act α → List Request
  | enqueue now timeout => [⟨(q.enqueue now timeout).2, now, now.after timeout, timeout⟩]
  | _ => []

/-- The answers that an act adds to those that lie ready. -/
def answers (q : WaitQueue α) (a : Act α) : List (Nat × Except PoolError α) :=
  (a.after q).replies.drop q.replies.length

/-- The ticket whose answer an act takes away, for its caller or with it. -/
def taken (q : WaitQueue α) : Act α → List Nat
  | read ticket | hangUp ticket => if (q.reply? ticket).isSome then [ticket] else []
  | _ => []

def offered : Act α → List α
  | fulfill slot _ => slot.toList
  | _ => []

/-- What is in the slot of the giver afterwards. -/
def left (q : WaitQueue α) : Act α → List α
  | fulfill slot now => (q.fulfill slot now).slot.toList
  | _ => []

/-- What a waiting request may be told by an act: the item that is offered, the error that is
given for it, or that its own time is up. -/
inductive Resolves (q : WaitQueue α) (r : Request) : Act α → Except PoolError α → Prop
  | handed (m : α) {now : Instant} (intime : r.isLate now = false) :
      Resolves q r (.fulfill (some m) now) (.ok m)
  | passed (slot : Option α) {now : Instant} (late : r.isLate now = true) :
      Resolves q r (.fulfill slot now) (.error (.timeout r.timeout))
  | swept {now : Instant} (late : r.isLate now = true) :
      Resolves q r (.expire now) (.error (.timeout r.timeout))
  | failed (e : PoolError) : Resolves q r (.fail r.ticket e) (.error e)
  | drained {e : Nat → PoolError} {i : Nat} (place : q.requests[i]? = some r) :
      Resolves q r (.failEach e) (.error (e i))

/-- What one act does to a queue. -/
structure Works (q : WaitQueue α) (a : Act α) : Prop where
  next : (a.after q).nextTicket = q.nextTicket + (a.arrivals q).length
  hears : ∀ t, (a.after q).hears t = true ↔
    (q.hears t = true ∨ t ∈ (a.arrivals q).map (·.ticket)) ∧ a ≠ .hangUp t
  /-- Nobody overtakes anybody, and who arrives is the last. -/
  queued : (a.after q).requests.Sublist (q.requests ++ a.arrivals q)
  /-- Of those that waited or arrive, each is told or waits on, not both, and no other is told. -/
  once : (Table.keys (a.answers q) ++ (a.after q).tickets).Subperm
    (q.tickets ++ (a.arrivals q).map (·.ticket))
  told : ∀ x ∈ a.answers q,
    ∃ r ∈ q.requests, r.ticket = x.1 ∧ q.hears x.1 = true ∧ a.Resolves q r x.2
  /-- Who waited and listens waits on, is told, or is withdrawn. -/
  stays : ∀ r ∈ q.requests, r ∈ (a.after q).requests ∨ a = .withdraw r.ticket ∨
    q.hears r.ticket = false ∨ r.ticket ∈ Table.keys (a.answers q)
  takes : ∀ t ∈ a.taken q, t ∈ Table.keys q.replies
  unread : (a.after q).replies = (q.replies.filter fun x => x.1 ∉ a.taken q) ++ a.answers q
  conserved : a.offered.Perm (items (a.answers q) ++ a.left q)

/-! ## What an act does -/

/-- Requests leave the queue, and some of their callers are told something. -/
structure Resolving (q : WaitQueue α) (a : Act α) (kept : List Request)
    (replies : List (Nat × Except PoolError α)) : Prop where
  eq : a.after q = { q with requests := kept, replies := q.replies ++ replies }
  sublist : kept.Sublist q.requests
  once : (Table.keys replies ++ kept.map (·.ticket)).Subperm q.tickets
  told : ∀ x ∈ replies,
    ∃ r ∈ q.requests, r.ticket = x.1 ∧ q.hears x.1 = true ∧ a.Resolves q r x.2
  stays : ∀ r ∈ q.requests, r ∈ kept ∨ a = .withdraw r.ticket ∨
    q.hears r.ticket = false ∨ r.ticket ∈ Table.keys replies
  conserved : a.offered.Perm (items replies ++ a.left q)

theorem Resolving.works {q : WaitQueue α} {a : Act α} {kept : List Request}
    {replies : List (Nat × Except PoolError α)} (h : Resolving q a kept replies)
    (arrivals : a.arrivals q = []) (taken : a.taken q = []) (stay : ∀ t, a ≠ .hangUp t) :
    Works q a := by
  have answers : a.answers q = replies := by
    rw [Act.answers, h.eq, List.drop_left]
  constructor
  · rw [h.eq, arrivals]
    rfl
  · intro t
    rw [h.eq, arrivals]
    simp [stay t, WaitQueue.hears]
  · rw [h.eq, arrivals, List.append_nil]
    exact h.sublist
  · rw [answers, h.eq, arrivals]
    simpa [tickets] using h.once
  · rw [answers]
    exact h.told
  · rw [answers, h.eq]
    exact h.stays
  · simp [taken]
  · rw [answers, h.eq, taken]
    simp
  · rw [answers]
    exact h.conserved

theorem mem_lateReplies {q : WaitQueue α} {now : Instant} {rs : List Request}
    {x : Nat × Except PoolError α} :
    x ∈ q.lateReplies now rs ↔
      ∃ r ∈ rs, r.isLate now = true ∧ q.hears r.ticket = true ∧ lateReply r = x := by
  simp [lateReplies, and_assoc]

theorem keys_lateReplies (q : WaitQueue α) (now : Instant) (rs : List Request) :
    Table.keys (q.lateReplies now rs) =
      (rs.filter fun r => r.isLate now && q.hears r.ticket).map (·.ticket) := by
  simp [Table.keys, lateReplies, lateReply]

/-- A stale request whose caller listens is told that it is late. -/
theorem stale_told {q : WaitQueue α} {now : Instant} {rs : List Request} {r : Request}
    (hr : r ∈ rs) (hs : q.isStale now r = true) :
    q.hears r.ticket = false ∨ r.ticket ∈ Table.keys (q.lateReplies now rs) := by
  cases hh : q.hears r.ticket with
  | false => exact .inl rfl
  | true =>
    have hl : r.isLate now = true := by simpa [isStale, hh] using hs
    refine .inr (List.mem_map.2 ⟨lateReply r, mem_lateReplies.2 ⟨r, hr, hl, hh, rfl⟩, rfl⟩)

theorem resolving_fulfill_none (q : WaitQueue α) (now : Instant) :
    ∃ kept replies, Resolving q (.fulfill none now) kept replies := by
  obtain ⟨before, after, hq, hb, -, hf⟩ := q.fulfill_none now
  refine ⟨after, q.lateReplies now before, congrArg Fulfilled.queue hf, ?_, ?_, ?_, ?_, ?_⟩
  · rw [hq]
    exact List.sublist_append_right before after
  · rw [keys_lateReplies, tickets, hq, List.map_append]
    exact ((List.filter_sublist.map _).append_right _).subperm
  · intro x hx
    obtain ⟨r, hr, hl, hh, rfl⟩ := mem_lateReplies.1 hx
    exact ⟨r, hq ▸ List.mem_append_left _ hr, rfl, hh, .passed none hl⟩
  · intro r hr
    rw [hq] at hr
    rcases List.mem_append.1 hr with hr | hr
    · have hs : q.isStale now r = true := by simp [isStale, hb r hr]
      exact .inr (.inr (stale_told hr hs))
    · exact .inl hr
  · simp [offered, left, hf]

theorem resolving_fulfill_some (q : WaitQueue α) (m : α) (now : Instant) :
    ∃ kept replies, Resolving q (.fulfill (some m) now) kept replies := by
  rcases q.fulfill_cases m now with ⟨before, s, after, hq, hb, hs, hf⟩ | ⟨hb, hf⟩
  · refine ⟨after, q.lateReplies now before ++ [(s.ticket, (.ok m : Except PoolError α))],
      congrArg Fulfilled.queue hf, ?_, ?_, ?_, ?_, ?_⟩
    · rw [hq]
      exact List.sublist_append_of_sublist_right (List.sublist_cons_self s after)
    · have hk : Table.keys (q.lateReplies now before ++ [(s.ticket, .ok m)]) =
          Table.keys (q.lateReplies now before) ++ [s.ticket] := by simp [Table.keys]
      rw [hk, keys_lateReplies, tickets, hq, List.map_append, List.append_assoc]
      exact ((List.filter_sublist.map _).append_right _).subperm
    · obtain ⟨hl, hh⟩ : s.isLate now = false ∧ q.hears s.ticket = true := by
        simpa [isStale] using hs
      intro x hx
      rcases List.mem_append.1 hx with hx | hx
      · obtain ⟨r, hr, hl, hh, rfl⟩ := mem_lateReplies.1 hx
        exact ⟨r, hq ▸ List.mem_append_left _ hr, rfl, hh, .passed _ hl⟩
      · obtain rfl := List.mem_singleton.1 hx
        exact ⟨s, hq ▸ List.mem_append_right _ List.mem_cons_self, rfl, hh, .handed m hl⟩
    · intro r hr
      rw [hq] at hr
      rcases List.mem_append.1 hr with hr | hr
      · rcases stale_told hr (hb r hr) with hh | hk
        · exact .inr (.inr (.inl hh))
        · refine .inr (.inr (.inr ?_))
          rw [Table.keys, List.map_append]
          exact List.mem_append_left _ hk
      · rcases List.mem_cons.1 hr with rfl | hr
        · exact .inr (.inr (.inr (by simp [Table.keys])))
        · exact .inl hr
    · simp [offered, left, hf]
  · refine ⟨[], q.lateReplies now q.requests, congrArg Fulfilled.queue hf, List.nil_sublist _,
      ?_, ?_, ?_, ?_⟩
    · rw [keys_lateReplies, tickets]
      simpa using (List.filter_sublist.map Request.ticket).subperm
    · intro x hx
      obtain ⟨r, hr, hl, hh, rfl⟩ := mem_lateReplies.1 hx
      exact ⟨r, hr, rfl, hh, .passed _ hl⟩
    · intro r hr
      exact .inr (.inr (stale_told hr (hb r hr)))
    · simp [offered, left, hf]

theorem resolving_expire (q : WaitQueue α) (now : Instant) :
    ∃ kept replies, Resolving q (.expire now) kept replies := by
  refine ⟨_, _, q.expire_eq now, List.filter_sublist, ?_, ?_, ?_, ?_⟩
  · -- who is told is stale, and who stays is not
    rw [keys_lateReplies, tickets, ← List.map_append]
    have hf : (q.requests.filter fun r => r.isLate now && q.hears r.ticket).Sublist
        (q.requests.filter fun r => q.isStale now r) := by
      refine List.monotone_filter_right _ fun r hr => ?_
      have hl : r.isLate now = true ∧ q.hears r.ticket = true := by simpa using hr
      simp [isStale, hl.1]
    have hp := List.filter_append_perm (fun r => q.isStale now r) q.requests
    exact ((hf.append_right _).map _).subperm.trans (hp.map _).subperm
  · intro x hx
    obtain ⟨r, hr, hl, hh, rfl⟩ := mem_lateReplies.1 hx
    exact ⟨r, hr, rfl, hh, .swept hl⟩
  · intro r hr
    by_cases hs : q.isStale now r = true
    · exact .inr (.inr (stale_told hr hs))
    · exact .inl (List.mem_filter.2 ⟨hr, by simpa using hs⟩)
  · simp [offered, left]

theorem tickets_without (q : WaitQueue α) (ticket : Nat) :
    (q.requests.filter fun r => !decide (r.ticket = ticket)).map (·.ticket) =
      q.tickets.filter fun t => !decide (t = ticket) := by
  rw [tickets, List.filter_map]
  rfl

theorem resolving_withdraw (q : WaitQueue α) (ticket : Nat) :
    Resolving q (.withdraw ticket) (q.requests.filter fun r => !decide (r.ticket = ticket)) [] := by
  constructor
  · simp [after, WaitQueue.withdraw]
  · exact List.filter_sublist
  · rw [tickets]
    simpa [Table.keys] using (List.filter_sublist.map Request.ticket).subperm
  · simp
  · intro r hr
    by_cases ht : r.ticket = ticket
    · exact .inr (.inl (ht ▸ rfl))
    · exact .inl (List.mem_filter.2 ⟨hr, by simpa using ht⟩)
  · simp [offered, left]

theorem resolving_fail (q : WaitQueue α) (ticket : Nat) (e : PoolError) :
    ∃ kept replies, Resolving q (.fail ticket e) kept replies := by
  by_cases hw : q.isWaiting ticket = true
  · have eq := q.fail_eq ticket e
    rw [if_pos hw] at eq
    have ht : ticket ∈ q.tickets := isWaiting_iff.1 hw
    refine ⟨_, _, eq, List.filter_sublist, ?_, ?_, ?_, ?_⟩
    · have hk : (Table.keys (if q.hears ticket then
          [(ticket, (.error e : Except PoolError α))] else [])).Sublist [ticket] := by
        split <;> simp [Table.keys]
      rw [tickets_without]
      refine ((hk.append_right _).subperm).trans ?_
      -- one request with the ticket is enough to make up for the one that is told
      have he : (q.tickets.filter fun t => !decide (t = ticket)).Sublist
          (q.tickets.erase ticket) := by
        have notMem : ticket ∉ q.tickets.filter fun t => !decide (t = ticket) := by simp
        rw [← List.erase_of_not_mem notMem]
        exact List.filter_sublist.erase ticket
      exact (List.subperm_cons ticket |>.2 he.subperm).trans (List.perm_cons_erase ht).symm.subperm
    · intro x hx
      obtain ⟨r, hr, hrt⟩ := List.mem_map.1 ht
      by_cases hh : q.hears ticket = true
      · rw [if_pos hh, List.mem_singleton] at hx
        subst hx
        exact ⟨r, hr, hrt, hh, hrt ▸ .failed e⟩
      · rw [if_neg hh] at hx
        cases hx
    · intro r hr
      by_cases hrt : r.ticket = ticket
      · by_cases hh : q.hears ticket = true
        · refine .inr (.inr (.inr ?_))
          simp [hh, hrt, Table.keys]
        · exact .inr (.inr (.inl (by simpa [hrt] using hh)))
      · exact .inl (List.mem_filter.2 ⟨hr, by simpa using hrt⟩)
    · simp only [offered, left, List.append_nil]
      split <;> exact .nil
  · refine ⟨q.requests, [], ?_, List.Sublist.refl _, ?_, by simp, fun r hr => .inl hr, ?_⟩
    · simp only [after, List.append_nil]
      rw [fail_eq, if_neg hw]
    · simp [Table.keys, tickets, List.Subperm.refl]
    · simp [offered, left]

theorem resolving_failEach (q : WaitQueue α) (e : Nat → PoolError) :
    ∃ replies, Resolving q (.failEach e) [] replies := by
  refine ⟨_, q.failEach_eq e, List.nil_sublist _, ?_, ?_, ?_, ?_⟩
  · have hk : ((q.requests.zipIdx.filter fun r => q.hears r.1.ticket).map fun r =>
        r.1.ticket).Sublist q.tickets := by
      have hz : q.requests.zipIdx.map (fun r => r.1.ticket) = q.tickets := by
        rw [tickets, ← List.zipIdx_map_fst 0 q.requests, List.map_map]
        simp
      exact hz ▸ List.filter_sublist.map _
    simpa [Table.keys, Function.comp_def] using hk.subperm
  · intro x hx
    obtain ⟨⟨r, i⟩, hm, rfl⟩ := List.mem_map.1 hx
    obtain ⟨hm, hh⟩ := List.mem_filter.1 hm
    have place : q.requests[i]? = some r := List.mem_zipIdx_iff_getElem?.1 hm
    exact ⟨r, List.mem_of_getElem? place, rfl, hh, .drained place⟩
  · intro r hr
    cases hh : q.hears r.ticket with
    | false => exact .inr (.inr (.inl rfl))
    | true =>
      obtain ⟨i, hi⟩ := List.mem_iff_getElem?.1 hr
      have hm : (r, i) ∈ q.requests.zipIdx := List.mem_zipIdx_iff_getElem?.2 hi
      have told : (r.ticket, (.error (e i) : Except PoolError α)) ∈
          (q.requests.zipIdx.filter fun r => q.hears r.1.ticket).map
            fun r => (r.1.ticket, .error (e r.2)) :=
        List.mem_map.2 ⟨(r, i), List.mem_filter.2 ⟨hm, hh⟩, rfl⟩
      exact .inr (.inr (.inr (List.mem_map.2 ⟨_, told, rfl⟩)))
  · simp [offered, left]

theorem works_enqueue (q : WaitQueue α) (now : Instant) (timeout : Duration) :
    Works q (.enqueue now timeout) := by
  have answers : Act.answers q (.enqueue now timeout) = [] := by
    simp [Act.answers, after, WaitQueue.enqueue]
  constructor
  · rfl
  · intro t
    simp [after, arrivals, WaitQueue.enqueue, WaitQueue.hears]
  · exact .refl _
  · rw [answers]
    simp [after, arrivals, WaitQueue.enqueue, tickets, Table.keys, List.Subperm.refl]
  · simp [answers]
  · intro r hr
    exact .inl (List.mem_append_left _ hr)
  · simp [taken]
  · simp [answers, taken, after, WaitQueue.enqueue]
  · simp [answers, offered, left]

/-- A caller takes its answer away and may hang up with it; nobody is told anything. -/
theorem works_of_removal {q : WaitQueue α} {a : Act α} {ticket : Nat}
    (requests : (a.after q).requests = q.requests)
    (next : (a.after q).nextTicket = q.nextTicket)
    (replies : (a.after q).replies = Table.remove q.replies ticket)
    (hears : ∀ t, (a.after q).hears t = true ↔ q.hears t = true ∧ a ≠ .hangUp t)
    (arrivals : a.arrivals q = [])
    (taken : a.taken q = if (q.reply? ticket).isSome then [ticket] else [])
    (conserved : a.offered.Perm (a.left q)) : Works q a := by
  have answers : a.answers q = [] := by
    rw [Act.answers, replies]
    exact List.drop_eq_nil_of_le (List.length_filter_le _ _)
  constructor
  · rw [next, arrivals]
    rfl
  · intro t
    rw [hears, arrivals]
    simp
  · rw [requests]
    exact List.sublist_append_left _ _
  · rw [answers, WaitQueue.tickets, requests, arrivals]
    simp [Table.keys, WaitQueue.tickets, List.Subperm.refl]
  · simp [answers]
  · intro r hr
    exact .inl (requests ▸ hr)
  · intro t ht
    rw [taken] at ht
    cases hr : q.reply? ticket with
    | none => simp [hr] at ht
    | some x =>
      obtain rfl : t = ticket := by simpa [hr] using ht
      exact List.mem_map.2 ⟨_, Table.mem_of_get? hr, rfl⟩
  · rw [answers, replies, taken, List.append_nil]
    cases hr : q.reply? ticket with
    | none =>
      rw [Table.remove_of_notMem (Table.get?_eq_none_iff.1 hr)]
      simp
    | some x =>
      simp [Table.remove]
  · rw [answers]
    exact conserved

/-- **What an act does**, in any queue. -/
theorem works (q : WaitQueue α) (a : Act α) : Works q a := by
  cases a with
  | enqueue now timeout => exact works_enqueue q now timeout
  | fulfill slot now =>
    cases slot with
    | none =>
      obtain ⟨kept, replies, h⟩ := resolving_fulfill_none q now
      exact h.works rfl rfl nofun
    | some m =>
      obtain ⟨kept, replies, h⟩ := resolving_fulfill_some q m now
      exact h.works rfl rfl nofun
  | fail ticket e =>
    obtain ⟨kept, replies, h⟩ := resolving_fail q ticket e
    exact h.works rfl rfl nofun
  | withdraw ticket => exact (resolving_withdraw q ticket).works rfl rfl nofun
  | expire now =>
    obtain ⟨kept, replies, h⟩ := resolving_expire q now
    exact h.works rfl rfl nofun
  | failEach e =>
    obtain ⟨replies, h⟩ := resolving_failEach q e
    exact h.works rfl rfl nofun
  | read ticket =>
    refine works_of_removal rfl rfl rfl ?_ rfl rfl (.refl _)
    intro t
    simp [after, WaitQueue.read, WaitQueue.hears]
  | hangUp ticket =>
    refine works_of_removal rfl rfl rfl ?_ rfl rfl (.refl _)
    intro t
    simp [after, WaitQueue.hangUp, WaitQueue.hears, @eq_comm _ t ticket]

/-- Who arrives gets the next ticket. -/
theorem arrivals_cases (q : WaitQueue α) (a : Act α) :
    a.arrivals q = [] ∨ ∃ r, a.arrivals q = [r] ∧ r.ticket = q.nextTicket := by
  cases a with
  | enqueue now timeout => exact .inr ⟨_, rfl, rfl⟩
  | _ => exact .inl rfl

theorem mem_taken_hangUp {q : WaitQueue α} {ticket : Nat} (h : ticket ∈ Table.keys q.replies) :
    ticket ∈ Act.taken q (.hangUp ticket) := by
  have hs : (q.reply? ticket).isSome = true := by
    rw [Option.isSome_iff_ne_none, ne_eq, reply?, Table.get?_eq_none_iff, not_not]
    exact h
  simp [taken, hs]

end Act

/-! ## What every act keeps -/

/-- A queue and what was written down about it. -/
structure Annals (α : Type) where
  queue : WaitQueue α := {}
  /-- The requests as they were when they arrived. -/
  arrived : List Request := []
  answers : List (Nat × Except PoolError α) := []
  /-- The tickets whose answers were taken. -/
  taken : List Nat := []
  offered : List α := []
  /-- The items that stayed with their givers. -/
  left : List α := []

namespace Annals

def enter (h : Annals α) (a : Act α) : Annals α where
  queue := a.after h.queue
  arrived := h.arrived ++ a.arrivals h.queue
  answers := h.answers ++ a.answers h.queue
  taken := h.taken ++ a.taken h.queue
  offered := h.offered ++ a.offered
  left := h.left ++ a.left h.queue

/-- The annals of a queue that was empty at first. -/
def of (acts : List (Act α)) : Annals α := acts.foldl enter {}

theorem of_concat (acts : List (Act α)) (a : Act α) : of (acts ++ [a]) = (of acts).enter a :=
  List.foldl_concat enter {} a acts

structure Orderly (h : Annals α) : Prop where
  increasing : h.arrived.Pairwise fun a b => a.ticket < b.ticket
  issued : ∀ r ∈ h.arrived, r.ticket < h.queue.nextTicket
  queued : h.queue.requests.Sublist h.arrived
  once : (Table.keys h.answers ++ h.queue.tickets).Nodup
  answered : ∀ t ∈ Table.keys h.answers, t ∈ h.arrived.map (·.ticket)
  taken : ∀ t ∈ h.taken, t ∈ Table.keys h.answers
  takenOnce : h.taken.Nodup
  unread : h.queue.replies = h.answers.filter fun x => x.1 ∉ h.taken
  listens : ∀ x ∈ h.queue.replies, h.queue.hears x.1 = true
  conserved : h.offered.Perm (items h.answers ++ h.left)

namespace Orderly

theorem empty : Orderly ({} : Annals α) where
  increasing := .nil
  issued := by simp
  queued := .refl _
  once := .nil
  answered := by simp [Table.keys]
  taken := by simp
  takenOnce := .nil
  unread := rfl
  listens := by simp
  conserved := .refl _

variable {h : Annals α}

theorem keys_replies (o : Orderly h) {t : Nat} (ht : t ∈ Table.keys h.queue.replies) :
    t ∈ Table.keys h.answers ∧ t ∉ h.taken := by
  obtain ⟨x, hx, rfl⟩ := List.mem_map.1 ht
  rw [o.unread] at hx
  obtain ⟨hx, hn⟩ := List.mem_filter.1 hx
  exact ⟨List.mem_map_of_mem hx, by simpa using hn⟩

theorem tickets_arrived (o : Orderly h) {t : Nat} (ht : t ∈ h.queue.tickets) :
    t ∈ h.arrived.map (·.ticket) :=
  (o.queued.map (·.ticket)).subset ht

theorem lt_next (o : Orderly h) {t : Nat} (ht : t ∈ h.arrived.map (·.ticket)) :
    t < h.queue.nextTicket := by
  obtain ⟨r, hr, rfl⟩ := List.mem_map.1 ht
  exact o.issued r hr

/-- Who is told waited, so it has not been told before. -/
theorem told_waiting (o : Orderly h) {a : Act α} {t : Nat}
    (ht : t ∈ Table.keys (a.answers h.queue)) :
    t ∈ h.queue.tickets ∧ t ∉ Table.keys h.answers := by
  obtain ⟨x, hx, rfl⟩ := List.mem_map.1 ht
  obtain ⟨r, hr, hrx, -, -⟩ := (a.works h.queue).told x hx
  have hw : x.1 ∈ h.queue.tickets := List.mem_map.2 ⟨r, hr, hrx⟩
  exact ⟨hw, fun hk => (List.nodup_append.1 o.once).2.2 _ hk _ hw rfl⟩

/-- **Every act keeps the annals in order.** -/
theorem enter (o : Orderly h) (a : Act α) : Orderly (h.enter a) := by
  have w := a.works h.queue
  have keys : Table.keys (h.enter a).answers =
      Table.keys h.answers ++ Table.keys (a.answers h.queue) := by
    simp [Annals.enter, Table.keys]
  constructor
  · -- the next ticket is higher than all that were issued
    refine List.pairwise_append.2 ⟨o.increasing, ?_, ?_⟩
    · rcases a.arrivals_cases h.queue with ha | ⟨r, ha, -⟩ <;> rw [ha]
      · exact .nil
      · exact List.pairwise_singleton _ _
    · intro r hr s hs
      rcases a.arrivals_cases h.queue with ha | ⟨_, ha, hn⟩ <;> rw [ha] at hs
      · cases hs
      · obtain rfl := List.mem_singleton.1 hs
        exact hn ▸ o.issued r hr
  · intro r hr
    change r.ticket < (a.after h.queue).nextTicket
    rw [w.next]
    rcases List.mem_append.1 hr with hr | hr
    · exact Nat.lt_add_right _ (o.issued r hr)
    · rcases a.arrivals_cases h.queue with ha | ⟨s, ha, hn⟩ <;> rw [ha] at hr ⊢
      · cases hr
      · obtain rfl := List.mem_singleton.1 hr
        simp [hn]
  · exact w.queued.trans (o.queued.append_right _)
  · rw [keys, List.append_assoc]
    have fresh : (Table.keys h.answers ++
        (h.queue.tickets ++ (a.arrivals h.queue).map (·.ticket))).Nodup := by
      rw [← List.append_assoc]
      refine List.nodup_append.2 ⟨o.once, ?_, ?_⟩
      · rcases a.arrivals_cases h.queue with ha | ⟨r, ha, -⟩ <;> simp [ha]
      · intro t ht u hu htu
        have hlt : t < h.queue.nextTicket := by
          rcases List.mem_append.1 ht with ht | ht
          · exact o.lt_next (o.answered t ht)
          · exact o.lt_next (o.tickets_arrived ht)
        rcases a.arrivals_cases h.queue with ha | ⟨r, ha, hn⟩ <;> rw [ha] at hu
        · cases hu
        · have hu : u = h.queue.nextTicket := by simpa [hn] using hu
          omega
    obtain ⟨l, hp, hs⟩ := (List.subperm_append_left (Table.keys h.answers)).2 w.once
    exact hp.nodup_iff.1 (fresh.sublist hs)
  · intro t ht
    rw [keys] at ht
    simp only [Annals.enter, List.map_append]
    rcases List.mem_append.1 ht with ht | ht
    · exact List.mem_append_left _ (o.answered t ht)
    · exact List.mem_append_left _ (o.tickets_arrived (o.told_waiting ht).1)
  · intro t ht
    rw [keys]
    rcases List.mem_append.1 ht with ht | ht
    · exact List.mem_append_left _ (o.taken t ht)
    · exact List.mem_append_left _ (o.keys_replies (w.takes t ht)).1
  · refine List.nodup_append.2 ⟨o.takenOnce, ?_, ?_⟩
    · cases a <;> simp only [Act.taken] <;> first | exact .nil | (split <;> simp)
    · rintro t ht _ hu rfl
      exact (o.keys_replies (w.takes t hu)).2 ht
  · have old : ∀ x ∈ a.answers h.queue, x.1 ∉ h.taken ++ a.taken h.queue := by
      intro x hx ht
      have hn := (o.told_waiting (List.mem_map_of_mem hx)).2
      rcases List.mem_append.1 ht with ht | ht
      · exact hn (o.taken _ ht)
      · exact hn (o.keys_replies (w.takes _ ht)).1
    change (a.after h.queue).replies = (h.answers ++ a.answers h.queue).filter fun x =>
      decide (x.1 ∉ h.taken ++ a.taken h.queue)
    rw [w.unread, o.unread, List.filter_append, List.filter_filter]
    congr 1
    · refine List.filter_congr fun x _ => ?_
      simp [Bool.and_comm]
    · exact (List.filter_eq_self.2 fun x hx => decide_eq_true (old x hx)).symm
  · intro x hx
    change x ∈ (a.after h.queue).replies at hx
    refine (w.hears x.1).2 ?_
    rw [w.unread] at hx
    rcases List.mem_append.1 hx with hx | hx
    · obtain ⟨unread, hn⟩ := List.mem_filter.1 hx
      refine ⟨.inl (o.listens x unread), ?_⟩
      rintro rfl
      have hn : x.1 ∉ Act.taken h.queue (.hangUp x.1) := by simpa using hn
      exact hn (Act.mem_taken_hangUp (List.mem_map_of_mem unread))
    · obtain ⟨r, -, -, hh, hres⟩ := w.told x hx
      refine ⟨.inl hh, ?_⟩
      rintro rfl
      cases hres
  · have hi : items (h.enter a).answers = items h.answers ++ items (a.answers h.queue) :=
      items_append _ _
    rw [hi]
    refine (o.conserved.append w.conserved).trans ?_
    simp only [Annals.enter, List.append_assoc]
    refine .append_left _ ?_
    rw [← List.append_assoc, ← List.append_assoc]
    exact List.perm_append_comm.append_right _

end Orderly

theorem orderly (acts : List (Act α)) : Orderly (of acts) := by
  induction acts using List.reverseRecOn with
  | nil => exact .empty
  | append_singleton acts a ih =>
    rw [of_concat]
    exact ih.enter a

/-- Who does not listen any more has hung up. -/
theorem hears_or_hungUp (acts : List (Act α)) {r : Request} (hr : r ∈ (of acts).arrived) :
    (of acts).queue.hears r.ticket = true ∨ .hangUp r.ticket ∈ acts := by
  induction acts using List.reverseRecOn with
  | nil => cases hr
  | append_singleton acts a ih =>
    rw [of_concat] at hr ⊢
    by_cases ha : a = .hangUp r.ticket
    · exact .inr (by simp [ha])
    · rcases List.mem_append.1 hr with hr | hr
      · rcases ih hr with hh | hm
        · exact .inl (((a.works _).hears r.ticket).2 ⟨.inl hh, ha⟩)
        · exact .inr (List.mem_append_left _ hm)
      · exact .inl (((a.works _).hears r.ticket).2 ⟨.inr (List.mem_map_of_mem hr), ha⟩)

/-! ## The account of a run -/

/-- In the course of a run, a request that waited, and whose caller listened, was told `x`. -/
def Told (acts : List (Act α)) (r : Request) (x : Except PoolError α) : Prop :=
  ∃ before a after, acts = before ++ a :: after ∧
    r ∈ (of before).queue.requests ∧ (of before).queue.hears r.ticket = true ∧
    (r.ticket, x) ∈ a.answers (of before).queue ∧ a.Resolves (of before).queue r x

theorem Told.later {acts : List (Act α)} {r : Request} {x : Except PoolError α}
    (h : Told acts r x) (b : Act α) : Told (acts ++ [b]) r x := by
  obtain ⟨before, a, after, rfl, rest⟩ := h
  exact ⟨before, a, after ++ [b], by simp, rest⟩

/-- What has become of a request. -/
inductive Fate (acts : List (Act α)) (r : Request) : Prop
  | waits (waiting : r ∈ (of acts).queue.requests)
  | told {x : Except PoolError α} (told : Told acts r x)
  | withdrawn {before after : List (Act α)} (run : acts = before ++ .withdraw r.ticket :: after)
      (waited : r ∈ (of before).queue.requests)
  /-- Its caller had hung up when it was its turn. -/
  | forgotten {before after : List (Act α)} {a : Act α} (run : acts = before ++ a :: after)
      (waited : r ∈ (of before).queue.requests) (hungUp : .hangUp r.ticket ∈ before)
      (deaf : (of before).queue.hears r.ticket = false)

theorem Fate.later {acts : List (Act α)} {r : Request} (f : Fate acts r)
    (hr : r ∈ (of acts).arrived) (a : Act α) : Fate (acts ++ [a]) r := by
  have longer : ∀ {before after : List (Act α)} {b : Act α}, acts = before ++ b :: after →
      acts ++ [a] = before ++ b :: (after ++ [a]) := by
    rintro before after b rfl
    simp
  cases f with
  | told h => exact .told (h.later a)
  | withdrawn run waited => exact .withdrawn (longer run) waited
  | forgotten run waited hungUp deaf => exact .forgotten (longer run) waited hungUp deaf
  | waits waiting =>
    have w := a.works (of acts).queue
    rcases w.stays r waiting with hw | rfl | hd | ht
    · exact .waits (by rw [of_concat]; exact hw)
    · exact .withdrawn rfl waiting
    · have hungUp : .hangUp r.ticket ∈ acts := (hears_or_hungUp acts hr).resolve_left (by simp [hd])
      exact .forgotten rfl waiting hungUp hd
    · obtain ⟨x, hx, hrx⟩ := List.mem_map.1 ht
      obtain ⟨s, hs, hsx, hh, resolves⟩ := w.told x hx
      -- tickets are issued once, so it is this request that was told
      have distinct := (List.nodup_append.1 (orderly acts).once).2.1
      obtain rfl : s = r := List.inj_on_of_nodup_map distinct hs waiting (hsx.trans hrx)
      refine .told ⟨acts, a, [], rfl, waiting, hsx ▸ hh, ?_, resolves⟩
      rw [hsx]
      exact hx

theorem fates (acts : List (Act α)) {r : Request} (hr : r ∈ (of acts).arrived) :
    Fate acts r := by
  induction acts using List.reverseRecOn with
  | nil => cases hr
  | append_singleton acts a ih =>
    by_cases ho : r ∈ (of acts).arrived
    · exact (ih ho).later ho a
    · rw [of_concat] at hr
      have hn : r ∈ a.arrivals (of acts).queue := (List.mem_append.1 hr).resolve_left ho
      refine .waits ?_
      rw [of_concat]
      cases a with
      | enqueue now timeout => exact List.mem_append_right _ hn
      | _ => cases hn

theorem told_of_answers (acts : List (Act α)) {x : Nat × Except PoolError α}
    (hx : x ∈ (of acts).answers) : ∃ r ∈ (of acts).arrived, r.ticket = x.1 ∧ Told acts r x.2 := by
  induction acts using List.reverseRecOn with
  | nil => cases hx
  | append_singleton acts a ih =>
    rw [of_concat] at hx ⊢
    rcases List.mem_append.1 hx with hx | hx
    · obtain ⟨r, hr, hrx, told⟩ := ih hx
      exact ⟨r, List.mem_append_left _ hr, hrx, told.later a⟩
    · obtain ⟨r, hr, hrx, hh, resolves⟩ := (a.works (of acts).queue).told x hx
      refine ⟨r, List.mem_append_left _ ((orderly acts).queued.subset hr), hrx, ?_⟩
      exact ⟨acts, a, [], rfl, hr, hrx ▸ hh, by rw [hrx]; exact hx, resolves⟩

structure Account (acts : List (Act α)) : Prop where
  /-- Tickets are issued in rising order. -/
  increasing : (of acts).arrived.Pairwise fun a b => a.ticket < b.ticket
  /-- The queue holds requests as they arrived, in the order of their tickets. -/
  queued : (of acts).queue.requests.Sublist (of acts).arrived
  sorted : (of acts).queue.requests.Pairwise fun a b => a.ticket < b.ticket
  /-- Nobody is told twice, and who was told does not wait. -/
  once : (Table.keys (of acts).answers ++ (of acts).queue.tickets).Nodup
  fates : ∀ r ∈ (of acts).arrived, Fate acts r
  told : ∀ x ∈ (of acts).answers, ∃ r ∈ (of acts).arrived, r.ticket = x.1 ∧ Told acts r x.2
  /-- What a caller was told it hears when it asks, until it takes the answer, once. -/
  heard : ∀ x ∈ (of acts).answers, x.1 ∉ (of acts).taken → (of acts).queue.heard x.1 = .answer x.2
  takenOnce : (of acts).taken.Nodup
  /-- An item that is offered is handed to one caller or stays in the slot. -/
  placed : ∀ before a after, acts = before ++ a :: after →
    a.offered.Perm (items (a.answers (of before).queue) ++ a.left (of before).queue)
  conserved : (of acts).offered.Perm (items (of acts).answers ++ (of acts).left)

/-- **The account of a queue** holds after any acts, in any order, at any times. -/
theorem account (acts : List (Act α)) : Account acts := by
  have o := orderly acts
  refine ⟨o.increasing, o.queued, o.increasing.sublist o.queued, o.once,
    fun r hr => fates acts hr, fun x hx => told_of_answers acts hx, ?_, o.takenOnce, ?_,
    o.conserved⟩
  · intro x hx ht
    have hm : x ∈ (of acts).queue.replies := by
      rw [o.unread]
      exact List.mem_filter.2 ⟨hx, by simpa using ht⟩
    have distinct : (Table.keys (of acts).queue.replies).Nodup := by
      rw [o.unread]
      exact (List.nodup_append.1 o.once).1.sublist (List.filter_sublist.map _)
    have reply : (of acts).queue.reply? x.1 = some x.2 := Table.get?_of_mem distinct hm
    simp [heard, o.listens x hm, reply]
  · intro before a _ _
    exact (a.works _).conserved

end Annals

end SessionPool.WaitQueue
