import SessionPool.Proofs.Run

/-!
# The line of waiting requests

What single entries do to the line. No request joins it while an unused member lies ready, and it
stands in the order of arrival (`Orderly`). A request that is served is the first of those whose
time is not up (`Row.inTurn`).
-/

set_option autoImplicit false

namespace SessionPool

/-- The waiting requests whose time is not up. -/
def WaitQueue.live {α : Type} (q : WaitQueue α) (now : Instant) : List Request :=
  q.requests.filter fun r => !r.isLate now

namespace Pool

variable {now : Instant} {l : Line} {p q r : Pool} {a b k : Stake}

/-! ## Order -/

/-- Nobody waits beside an unused member, and the requests stand in the order of arrival. -/
structure Orderly (now : Instant) (p : Pool) : Prop where
  apart : p.idle = [] ∨ p.waiting.requests = []
  sorted : p.waiting.requests.Pairwise fun x y => x.arrived ≤ y.arrived
  past : ∀ x ∈ p.waiting.requests, x.arrived ≤ now

namespace Orderly

/-- Members and requests may go. -/
theorem shrink (h : p.Orderly now) (hi : p.idle = [] → q.idle = [])
    (hr : q.waiting.requests.Sublist p.waiting.requests) : q.Orderly now where
  apart := h.apart.imp hi fun e => by
    rw [e] at hr
    exact List.sublist_nil.1 hr
  sorted := h.sorted.sublist hr
  past := fun x hx => h.past x (hr.subset hx)

theorem later (h : p.Orderly now) {now' : Instant} (ht : now ≤ now') : p.Orderly now' :=
  ⟨h.apart, h.sorted, fun x hx => Nat.le_trans (h.past x hx) ht⟩

theorem enroll (h : p.Orderly now) (timeout : Duration)
    (hf : p.idle = [] ∨ p.waiting.requests ≠ []) :
    Orderly now { p with waiting := (p.waiting.enqueue now timeout).1 } where
  apart := .inl (hf.elim id fun hr => h.apart.resolve_right hr)
  sorted := by
    refine List.pairwise_append.2 ⟨h.sorted, List.pairwise_singleton _ _, fun x hx y hy => ?_⟩
    rw [List.mem_singleton.1 hy]
    exact h.past x hx
  past := fun x hx => by
    rcases List.mem_append.1 hx with hx | hx
    · exact h.past x hx
    · rw [List.mem_singleton.1 hx]
      exact Nat.le_refl _

end Orderly

theorem Entry.orderly (h : Entry now l p a q b) (hp : p.Orderly now) : q.Orderly now := by
  cases h with
  | aside h _ =>
    have hw : q.waiting = p.waiting := congrArg Books.waiting h
    exact hp.shrink (fun e => (congrArg Books.idle h).trans e) (hw ▸ .refl _)
  | unpark h =>
    refine hp.shrink (fun e => ?_) (.refl _)
    rw [e] at h
    exact (List.append_eq_nil_iff.1 h.nil_eq.symm).2
  | park m h => exact ⟨.inr h, hp.sorted, hp.past⟩
  | expire => exact hp.shrink id (p.waiting.requests_expire now)
  | sweep h => exact hp.shrink id (p.waiting.requests_fulfill _ now)
  | hand h => exact hp.shrink id (p.waiting.requests_fulfill _ now)
  | withdraw h => exact hp.shrink id List.filter_sublist
  | fail ticket e => exact hp.shrink id (p.waiting.requests_fail ticket e)
  | failAll e => exact hp.shrink id (p.waiting.requests_failAll e ▸ List.nil_sublist _)
  | enroll timeout h => exact hp.enroll timeout h
  | reserve | unreserve | furnish | countLive | number | drop | lose | leave | depart | queueTask
  | takeTask | collect => exact hp.shrink id (.refl _)

theorem Entries.orderly (h : Entries now l p a q b) (hp : p.Orderly now) : q.Orderly now := by
  induction h with
  | refl => exact hp
  | step _ e ih => exact e.orderly ih

theorem Row.orderly (h : Row now p a q b) (hp : p.Orderly now) : q.Orderly now := by
  cases h with
  | changing h => exact h.orderly hp
  | serving before e after => exact after.orderly (e.orderly (before.orderly hp))

theorem Blank.orderly (h : p.Blank) : p.Orderly now where
  apart := .inl h.idle
  sorted := by simp [h.waiting]
  past := by simp [h.waiting]

/-- A change of the size leaves the line in order. -/
theorem Orderly.resize {lo : Nat} {hi : Option Nat} (h : p.Orderly now)
    (hq : p.resize lo hi = .ok q) : q.Orderly now := by
  obtain ⟨lo, hi, he⟩ : ∃ lo hi, Entries now .still _ 0 q 0 := resize_entries hq
  exact he.orderly (h.shrink id (.refl _))

/-! ## Turns -/

/-- No request has been served. -/
def NoneServed (p q : Pool) : Prop :=
  ∀ t m, (t, .ok m) ∈ q.waiting.replies → (t, .ok m) ∈ p.waiting.replies

/-- If a request has been served, it was the first of those whose time is not up. -/
def InTurn (now : Instant) (p q : Pool) : Prop :=
  ∀ t m, (t, .ok m) ∈ q.waiting.replies → (t, .ok m) ∈ p.waiting.replies ∨
    ∃ r rest, p.waiting.live now = r :: rest ∧ r.ticket = t

namespace NoneServed

theorem inTurn (h : NoneServed p q) : InTurn now p q := fun t m hq => .inl (h t m hq)

theorem trans (h : NoneServed p q) (h' : NoneServed q r) : NoneServed p r :=
  fun t m hr => h t m (h' t m hr)

theorem of_eq (h : q.waiting = p.waiting) : NoneServed p q := fun _ _ hq => h ▸ hq

/-- Callers may take their replies. -/
theorem of_remove {ticket : Nat} (h : q.waiting.replies = Table.remove p.waiting.replies ticket) :
    NoneServed p q := fun t m hq => by
  rw [h] at hq
  exact (List.mem_filter.1 hq).1

/-- Callers may be given replies with errors. -/
theorem of_append {replies : List (Nat × Except PoolError Member)}
    (h : q.waiting.replies = p.waiting.replies ++ replies)
    (he : ∀ x ∈ replies, ∃ e, x.2 = .error e) : NoneServed p q := fun t m hq => by
  rw [h] at hq
  refine (List.mem_append.1 hq).resolve_right fun hr => ?_
  obtain ⟨e, he⟩ := he _ hr
  cases he

end NoneServed

theorem error_of_mem_lateReplies {w : WaitQueue Member} {rs : List Request}
    {x : Nat × Except PoolError Member} (h : x ∈ w.lateReplies now rs) : ∃ e, x.2 = .error e := by
  obtain ⟨r, -, rfl⟩ := List.mem_map.1 h
  exact ⟨_, rfl⟩

/-- A member is handed to the first request whose time is not up. -/
theorem inTurn_fulfill {m : Member} (hs : p.waiting.Sound) :
    InTurn now p { p with waiting := (p.waiting.fulfill (some m) now).queue } := by
  rcases p.waiting.fulfill_cases m now with ⟨before, r, after, hq, hb, hr, hf⟩ | ⟨-, hf⟩ <;>
    rw [hf]
  · intro t m' ht
    rcases List.mem_append.1 ht with ht | ht
    · exact .inl ht
    · refine .inr ⟨r, after.filter fun r => !r.isLate now, ?_, ?_⟩
      · have hmem : ∀ x ∈ before ++ r :: after, x ∈ p.waiting.requests := fun x hx => hq ▸ hx
        have hlate : before.filter (fun r => !r.isLate now) = [] := by
          refine List.filter_eq_nil_iff.2 fun x hx => ?_
          have := hs.isStale_iff (hmem x (List.mem_append_left _ hx)) now
          simp [← this, hb x hx]
        have hlive : r.isLate now = false := by
          rw [← hs.isStale_iff (hmem r (by simp)) now, hr]
        rw [WaitQueue.live, hq, List.filter_append, hlate,
          List.filter_cons_of_pos (by simp [hlive])]
        rfl
      · rcases List.mem_append.1 ht with ht | ht
        · obtain ⟨e, he⟩ := error_of_mem_lateReplies ht
          cases he
        · cases List.mem_singleton.1 ht
          rfl
  · exact (NoneServed.of_append rfl fun x hx => error_of_mem_lateReplies hx).inTurn

/-- Only one kind of entry serves a request, and it does so in turn. -/
theorem Entry.served_cases (h : Entry now l p a q b) (hs : p.waiting.Sound) :
    NoneServed p q ∨ l = .serving ∧ InTurn now p q := by
  cases h with
  | aside h _ => exact .inl (.of_eq (congrArg Books.waiting h))
  | expire =>
    refine .inl (.of_append (congrArg WaitQueue.replies (p.waiting.expire_eq now)) ?_)
    exact fun x hx => error_of_mem_lateReplies hx
  | @sweep _ _ m h =>
    rcases p.waiting.fulfill_cases m now with ⟨before, r, after, -, -, -, hf⟩ | ⟨-, hf⟩
    · rw [hf] at h
      cases h
    · rw [hf]
      exact .inl (.of_append rfl fun x hx => error_of_mem_lateReplies hx)
  | hand h => exact .inr ⟨rfl, inTurn_fulfill hs⟩
  | collect h => exact .inl (.of_remove rfl)
  | withdraw h => exact .inl (.of_remove rfl)
  | fail ticket e =>
    rw [WaitQueue.fail_eq]
    split
    · refine .inl (.of_append rfl fun x hx => ?_)
      split at hx
      · rw [List.mem_singleton.1 hx]
        exact ⟨e, rfl⟩
      · cases hx
    · exact .inl (.of_eq rfl)
  | failAll e =>
    refine .inl (.of_append (congrArg WaitQueue.replies (p.waiting.failAll_eq e)) fun x hx => ?_)
    obtain ⟨r, -, rfl⟩ := List.mem_map.1 hx
    exact ⟨e, rfl⟩
  | enroll | reserve | unreserve | furnish | countLive | number | drop | lose | leave | depart
  | queueTask | takeTask | unpark | park => exact .inl fun t m hq => hq

theorem Entry.noneServed (h : Entry now l p a q b) (hs : p.waiting.Sound) (hl : l ≠ .serving) :
    NoneServed p q := (h.served_cases hs).resolve_right fun hq => hl hq.1

/-- While the line stands still, nobody whose time is not up leaves it. -/
theorem Entry.live_still (h : Entry now .still p a q b) (hs : p.waiting.Sound) :
    q.waiting.live now = p.waiting.live now := by
  cases h with
  | aside h _ =>
    have hw : q.waiting = p.waiting := congrArg Books.waiting h
    rw [hw]
  | expire =>
    have he : (p.waiting.expire now).1.requests =
        p.waiting.requests.filter fun r => !p.waiting.isStale now r := by
      rw [WaitQueue.expire_eq]
    rw [WaitQueue.live, WaitQueue.live, he, List.filter_filter]
    refine List.filter_congr fun r hr => ?_
    rw [hs.isStale_iff hr, Bool.and_self]
  | @sweep _ _ m h =>
    rcases p.waiting.fulfill_cases m now with ⟨before, r, after, -, -, -, hf⟩ | ⟨hall, hf⟩
    · rw [hf] at h
      cases h
    · rw [hf]
      symm
      refine List.filter_eq_nil_iff.2 fun r hr => ?_
      simp [← hs.isStale_iff hr, hall r hr]
  | reserve | unreserve | furnish | countLive | number | drop | lose | leave | depart | queueTask
  | takeTask | unpark | park | collect => rfl

theorem Entries.noneServed (h : Entries now l p a q b) (hp : p.Balanced (a + k))
    (hl : l ≠ .serving) : NoneServed p q := by
  induction h with
  | refl => exact .of_eq rfl
  | step h e ih =>
    have hs := (h.balanced hp).sound
    exact ih.trans (e.noneServed hs hl)

theorem Entries.live_still (h : Entries now .still p a q b) (hp : p.Balanced (a + k)) :
    q.waiting.live now = p.waiting.live now := by
  induction h with
  | refl => rfl
  | step h e ih =>
    have hs := (h.balanced hp).sound
    exact (e.live_still hs).trans ih

/-- **A row of entries serves requests in turn.** -/
theorem Row.inTurn (h : Row now p a q b) (hp : p.Balanced (a + k)) : InTurn now p q := by
  cases h with
  | changing h => exact (h.noneServed hp (by simp)).inTurn
  | @serving p' q' a' b' k' before e after =>
    have hp' := before.balanced hp
    have hlive := before.live_still hp
    have hbefore := before.noneServed hp (by simp)
    have hq' : q'.Balanced (b' + k' + k) := by
      rw [add_assoc] at hp' ⊢
      exact e.balanced hp'
    have hafter := after.noneServed hq' (by simp)
    intro t m ht
    -- who is served is so by the entry in the middle, and the line was the same before it
    have hturn : InTurn now p' q' :=
      (e.served_cases hp'.sound).elim NoneServed.inTurn fun h => h.2
    rcases hturn t m (hafter t m ht) with ht | ht
    · exact .inl (hbefore t m ht)
    · exact .inr (hlive ▸ ht)

/-- Nobody is served by a change of the size. -/
theorem NoneServed.resize {lo : Nat} {hi : Option Nat} (hp : p.Balanced k)
    (hq : p.resize lo hi = .ok q) : NoneServed p q := by
  obtain ⟨lo, hi, he⟩ : ∃ lo hi, Entries .origin .still _ 0 q 0 := resize_entries hq
  have hp : Balanced { p with minSize := lo, maxSize := hi } (0 + k) :=
    (zero_add k).symm ▸ hp.congr rfl
  exact he.noneServed hp (by simp)

end Pool

namespace Site

/-- The line is in order in every state. -/
theorem Reachable.orderly {env : Env} {s : Site} (h : Reachable env s) :
    s.pool.Orderly env.now := by
  induction h with
  | created h =>
    obtain ⟨p, q, hp, hq, rfl⟩ := create_cases h
    exact hq.orderly hp.orderly
  | moved hr hm ih =>
    rcases move_cases hr.keyed hr.balanced hm with
      ⟨lo, hi, -, ht, rfl | ⟨q, hq, rfl⟩⟩ | ⟨-, ht, rfl⟩ | ⟨a, b, k, -, -, hl⟩
    · exact ht ▸ ih
    · exact ht ▸ ih.resize hq
    · exact ih.later ht
    · exact hl.now ▸ hl.row.orderly ih

end Site

end SessionPool
