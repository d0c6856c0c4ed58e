import SessionPool.Proofs.Change
import SessionPool.Proofs.Verdict

/-!
# What becomes of the room for a session

Room was made for a session that the crew is to open. Either the session comes to take it, and the
member is handed on (`Pool.Joins`), or the room is given up and the request on whose behalf it was
made is told why (`Pool.Releases`). Until then the pool stays as it is, apart from what the attempts
count (`Pool.Unmoved`).
-/

set_option autoImplicit false

namespace SessionPool

namespace Pool

variable {p q : Pool} {m : Member} {id : Nat} {now : Instant}

/-- Nothing happens to a pool, except that it counts failures, calls its hooks and numbers
members. -/
def Unmoved (p q : Pool) : Prop :=
  ∃ errors calls id, q = { p with
    counters := { p.counters with connectionsErrors := errors }, hookCalls := calls, nextId := id }

theorem Unmoved.refl (p : Pool) : p.Unmoved p := ⟨_, _, _, rfl⟩

theorem unmoved_countFailedOpening (p : Pool) : p.Unmoved p.countFailedOpening := ⟨_, _, _, rfl⟩

/-- The room for a session is given up, and the request behind it, if it still waits, fails. -/
structure Releases (p : Pool) (waiter : Option Nat) (e : PoolError) (q : Pool) : Prop where
  size : q.size + 1 = p.size
  opening : q.opening + 1 = p.opening
  told : ∀ ticket, waiter = some ticket → p.waiting.isWaiting ticket = true →
    q.waiting.reply? ticket = some (.error e)
  requests : q.waiting.requests = p.waiting.requests.filter fun r => some r.ticket ≠ waiter
  others : ∀ ticket, some ticket ≠ waiter → q.waiting.reply? ticket = p.waiting.reply? ticket
  /-- A request that does not wait any more, or that there has never been, is not told. -/
  untold : (∀ ticket, waiter = some ticket → p.waiting.isWaiting ticket = false) →
    q.waiting = p.waiting
  rest : q = { p with
    size := q.size, opening := q.opening, waiting := q.waiting, overdrawn := q.overdrawn }

theorem releases (ho : 0 < p.opening) (hs : p.opening ≤ p.size) (sound : p.waiting.Sound)
    (waiter : Option Nat) (e : PoolError) : p.Releases waiter e (p.releaseRoom waiter e) := by
  have size : p.size - 1 + 1 = p.size := by omega
  have opening : p.opening - 1 + 1 = p.opening := by omega
  cases waiter with
  | none =>
    refine ⟨size, opening, nofun, ?_, fun _ _ => rfl, fun _ => rfl, rfl⟩
    exact (List.filter_eq_self.2 fun r _ => by simp).symm
  | some ticket =>
    have kept : p.waiting.requests.filter (fun r => decide (some r.ticket ≠ some ticket)) =
        p.waiting.requests.filter fun r => !decide (r.ticket = ticket) :=
      List.filter_congr fun r _ => by simp
    have waiting : (p.releaseRoom (some ticket) e).waiting = (p.waiting.fail ticket e).1 := rfl
    rw [p.waiting.fail_eq ticket e] at waiting
    by_cases hw : p.waiting.isWaiting ticket = true
    · rw [if_pos hw] at waiting
      obtain ⟨r, hr, rfl⟩ := List.mem_map.1 (WaitQueue.isWaiting_iff.1 hw)
      rw [if_pos (sound.hears hr)] at waiting
      have unread := sound.reply?_of_waiting hw
      refine ⟨size, opening, ?_, ?_, ?_, ?_, rfl⟩
      · rintro _ ⟨⟩ -
        rw [waiting]
        exact Table.get?_append_self unread _
      · rw [waiting]
        exact kept.symm
      · intro other ho
        rw [waiting]
        exact Table.get?_append_other (by simpa using ho) _
      · intro never
        rw [never _ rfl] at hw
        cases hw
    · rw [if_neg hw] at waiting
      have absent : ∀ r ∈ p.waiting.requests, r.ticket ≠ ticket := by
        rintro r hr rfl
        exact hw (WaitQueue.isWaiting_iff.2 (List.mem_map_of_mem hr))
      refine ⟨size, opening, ?_, ?_, ?_, fun _ => waiting, rfl⟩
      · rintro _ ⟨⟩ h
        exact absurd h hw
      · rw [waiting, kept]
        exact (List.filter_eq_self.2 fun r hr => by simpa using absent r hr).symm
      · intro other _
        rw [waiting]

/-- What becomes of a member that is handed on: it is in service, or it is closed because the pool
keeps nothing and nobody waits for it. -/
inductive Delivers (p : Pool) (id : Nat) (now : Instant) (q : Pool) : Prop
  | kept (keeps : p.Keeps id now q)
  | closed (null : p.isNull = true)
      (nobody : ∀ r ∈ p.waiting.requests, p.waiting.isStale now r = true)
      (size : q.size + 1 = p.size) (idle : q.idle = p.idle)
      (goes : ∃ m, m.id = id ∧ q.goers.Perm (m :: p.goers))

/-- A session that was opened for the crew joins the pool. -/
structure Joins (p : Pool) (id : Nat) (now : Instant) (q : Pool) : Prop where
  opening : q.opening + 1 = p.opening
  delivers : p.closed = false → p.Delivers id now q
  errors : q.counters.connectionsErrors = p.counters.connectionsErrors

theorem delivers (hc : p.closed = false) (hs : 0 < p.size) (m : Member) (now : Instant) :
    p.Delivers m.id now (p.deliver m now) := by
  cases hn : p.isNull with
  | false => exact .kept (keeps_deliver hc hn m now)
  | true =>
    unfold deliver
    by_cases he : p.waiting.isEmpty = true
    · rw [if_pos (by simp [hn, he])]
      have none : p.waiting.requests = [] := List.isEmpty_iff.1 he
      obtain ⟨size, -, goers, idle, -⟩ := drops_discard hs m
      exact .closed hn (by simp [none]) size idle ⟨m, rfl, goers⟩
    · rw [if_neg (by simp [hc, he])]
      dsimp only
      rcases p.waiting.fulfill_cases (m.inStage .idle) now with
        ⟨before, r, after, line, stale, live, h⟩ | ⟨stale, h⟩ <;> rw [h]
      · exact .kept ⟨rfl, rfl, m.inStage .idle, rfl, .handed line stale live rfl rfl⟩
      · dsimp only
        generalize hw : { p.waiting with
          requests := []
          replies := p.waiting.replies ++ p.waiting.lateReplies now p.waiting.requests } = w
        have hq : Pool.isNull { p with waiting := w } = true := hn
        rw [if_pos hq]
        obtain ⟨size, -, goers, idle, -⟩ :=
          drops_discard (p := { p with waiting := w }) hs (m.inStage .idle)
        exact .closed hn stale size idle ⟨m.inStage .idle, rfl, goers⟩

theorem opening_deliver (p : Pool) (m : Member) (now : Instant) :
    (p.deliver m now).opening = p.opening := by
  have discarded (q : Pool) (m : Member) : (q.discard m).opening = q.opening := by
    unfold discard dispatchClose
    split <;> rfl
  unfold deliver
  split
  · exact discarded p m
  · dsimp only
    split
    · rfl
    · split
      · exact discarded _ _
      · rfl
    · rfl

theorem joins (ho : 0 < p.opening) (hs : p.opening ≤ p.size) (m : Member) (elapsed : Duration)
    (now : Instant) : p.Joins m.id now (p.join m elapsed now) := by
  obtain ⟨⟨n, counted⟩, -⟩ := (p.countOpened elapsed).deliver_counts m now
  have view := p.view_countOpened elapsed
  have goers : (p.countOpened elapsed).goers = p.goers :=
    congrArg (fun v : View => v.tasks.filterMap Task.closed? ++ v.leaving) view
  have idle : (p.countOpened elapsed).idle = p.idle := congrArg View.idle view
  refine ⟨?_, fun hc => ?_, ?_⟩
  · have opening : (p.countOpened elapsed).opening = p.opening - 1 := congrArg View.opening view
    rw [join, opening_deliver, opening]
    omega
  · have open' : (p.countOpened elapsed).closed = false := by simpa using hc
    have some' : 0 < (p.countOpened elapsed).size := by
      rw [size_countOpened]
      omega
    cases delivers open' some' m now with
    | kept keeps => exact .kept (keeps.congr (by simp) goers (by simp) idle)
    | closed null nobody size hi goes =>
      rw [waiting_countOpened] at nobody
      rw [size_countOpened] at size
      rw [goers] at goes
      exact .closed (by simpa using null) nobody size (hi.trans idle) goes
  · rw [join, counted]
    have same : (p.countOpened elapsed).counters = p.counters.countOpened elapsed := by
      unfold countOpened noteFilled
      split
      · rfl
      · dsimp only
        split <;> rfl
    show ((p.countOpened elapsed).counters).connectionsErrors = _
    rw [same]
    rfl

end Pool

end SessionPool
