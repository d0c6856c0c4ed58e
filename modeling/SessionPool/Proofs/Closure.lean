import SessionPool.Proofs.Roll

/-!
# Pools that were closed to the end

When the closing of a pool has come to its end, nobody works for it any more, and its books are
about what others still have of it (`Site.ClosedDown`). Once all of that has come back, the session
of every member that there ever was has been closed, once, but for those that were taken out or left
behind (`Site.Tenure.closed_down`).

A task that was sent late is the exception: there is nobody who would do it. A member that came back
in that way is still counted, and its session stays open (`Site.Tenure.left_open`).
-/

set_option autoImplicit false

namespace SessionPool.Site

variable {env env' : Env} {s s' : Site} {r : Roll}

/-- Nobody has anything of the pool: all that was handed out has come back, and what was being
closed has been closed. -/
structure AtRest (s : Site) : Prop where
  held : s.held = []
  delivered : s.pool.waiting.delivered = []
  leaving : s.pool.leaving = []
  operations : ∀ x ∈ s.operations,
    x.2.isDialing = false ∧ x.2.counted = [] ∧ x.2.spare = []

instance (s : Site) : Decidable s.AtRest :=
  decidable_of_iff (s.held = [] ∧ s.pool.waiting.delivered = [] ∧ s.pool.leaving = [] ∧
    ∀ x ∈ s.operations, x.2.isDialing = false ∧ x.2.counted = [] ∧ x.2.spare = [])
    ⟨fun ⟨h, d, l, o⟩ => ⟨h, d, l, o⟩, fun ⟨h, d, l, o⟩ => ⟨h, d, l, o⟩⟩

/-- The sessions of the members that the queue of the crew is about. -/
def queued (s : Site) : Multiset Session := sessionsOf (s.pool.crew.tasks.filterMap Task.item?)

theorem configuring_of_isDialing {o : Operation} (h : o.isDialing = false) : o.configuring = 0 := by
  cases o with
  | acquire a =>
    cases a with
    | dialing => cases h
    | arriving | queued | givingUp | calling | takingOver | countingFailure | vacating | failing =>
      rfl
  | release _ | misplace _ | wait _ | check _ | close _ => rfl

theorem AtRest.counted_eq_nil (ha : s.AtRest) :
    s.operations.flatMap (fun o => o.2.counted) = [] :=
  List.flatMap_eq_nil_iff.2 fun x hx => (ha.operations x hx).2.1

theorem AtRest.dialing_eq_zero (ha : s.AtRest) :
    s.operations.countP (fun o => o.2.isDialing) = 0 :=
  List.countP_eq_zero.2 fun x hx => by simp [(ha.operations x hx).1]

/-- The sessions that are left of a pool that nobody works for once everything has come back. -/
theorem AtRest.sessions_eq_queued (ha : s.AtRest) (hd : s.Deserted) (h : s.Lawful) :
    s.sessions = s.queued := by
  have spare : s.operations.flatMap (fun o => o.2.spare) = [] :=
    List.flatMap_eq_nil_iff.2 fun x hx => (ha.operations x hx).2.2
  have none : Table.total Operation.configuring s.operations = 0 :=
    List.sum_eq_zero fun x hx => by
      obtain ⟨o, ho, rfl⟩ := List.mem_map.1 hx
      exact configuring_of_isDialing (ha.operations o ho).1
  rw [sessions_eq, members, Pool.members, inHand, configuring, none, ha.counted_eq_nil, spare,
    hd.jobs, ha.held, ha.delivered, ha.leaving, (h.vacated hd.closed).1]
  simp [queued, Table.total]

/-- What becomes of a pool whose closing has come to its end. -/
structure ClosedDown (env : Env) (s : Site) (r : Roll) : Prop where
  /-- Nobody works for the pool any more. -/
  deserted : s.Deserted
  /-- No task is left but such as were sent late. -/
  tasks : ∀ t ∈ s.pool.crew.tasks, t ∈ r.late
  opening : s.pool.opening = s.operations.countP fun o => o.2.isDialing
  size : s.pool.size = s.operations.countP (fun o => o.2.isDialing) +
    s.pool.waiting.delivered.length + s.held.length +
      (s.operations.flatMap fun o => o.2.counted).length + s.pool.returns.length
  /-- In the end only what came back late is in the books. -/
  rest : s.AtRest → s.pool.opening = 0 ∧ s.pool.size = s.pool.returns.length
  empty : s.AtRest → r.late = [] →
    s.pool.crew.tasks = [] ∧ s.pool.size = 0 ∧ s.pool.opening = 0
  /-- The sessions of all members that there ever were have been closed, each of them once. -/
  closed : s.AtRest → ∀ i ∈ r.records, i ∉ r.detached → i ∉ r.leftBehind → i ∉ pidsOf s.queued →
    env.server.closings.count i = 1

/-! ## Runs that close a pool -/

/-- What happens to a pool by a move, and how the move is made. -/
inductive Act where
  | move (mv : Move)
  | outside (mv : Move)
  | look
  | late (mv : Move)

def Act.perform (env : Env) (s : Site) (r : Roll) : Act → Option (Env × Site × Roll)
  | .move mv =>
    if mv.isPlain then
      (s.move? env mv).map fun x => (x.1, x.2, r.enter env s mv x.1 x.2)
    else none
  | .outside mv =>
    if mv.isPlain ∧ mv.isUsers then
      (s.move? env mv).map fun x =>
        (x.1, s.outside x.2, (r.enter env s mv x.1 x.2).strand (s.stranded x.2))
    else none
  | .look =>
    if s.pool.crew.stopped then none else some (env, s, { r with entrants := r.entrants + 1 })
  | .late mv =>
    if 0 < r.entrants ∧ s.pool.crew.stopped ∧ s.isClosing mv = false ∧ mv.isPlain then
      (s.unstopped.move? env mv).map fun x => (x.1, x.2.stopped, r.enterLate env s mv x.1 x.2)
    else none

def enrollAll (env : Env) (s : Site) (r : Roll) : List Act → Option (Env × Site × Roll)
  | [] => some (env, s, r)
  | a :: rest => (a.perform env s r).bind fun x => enrollAll x.1 x.2.1 x.2.2 rest

def enroll (hooks : Hooks) (acts : List Act) : Option (Env × Site × Roll) :=
  match create {} smallPool {} hooks with
  | (env, .ok s) => enrollAll env s {} acts
  | (_, .error _) => none

theorem Tenure.act {a : Act} {r' : Roll} (h : Tenure env s r)
    (ha : a.perform env s r = some (env', s', r')) : Tenure env' s' r' := by
  cases a with
  | move mv =>
    obtain ⟨hp, ha⟩ := Option.ite_none_right_eq_some.1 ha
    obtain ⟨x, hm, he⟩ := Option.map_eq_some_iff.1 ha
    cases he
    exact h.moved hm hp
  | outside mv =>
    obtain ⟨⟨hp, hu⟩, ha⟩ := Option.ite_none_right_eq_some.1 ha
    obtain ⟨x, hm, he⟩ := Option.map_eq_some_iff.1 ha
    cases he
    exact h.outside hm hp hu
  | look =>
    obtain ⟨hs, he⟩ := Option.ite_none_left_eq_some.1 ha
    cases he
    exact h.looked (Bool.eq_false_iff.2 hs)
  | late mv =>
    obtain ⟨⟨hn, hs, hc, hp⟩, ha⟩ := Option.ite_none_right_eq_some.1 ha
    obtain ⟨x, hm, he⟩ := Option.map_eq_some_iff.1 ha
    cases he
    exact h.late hn hs hc hm hp

theorem Tenure.enrollAll {acts : List Act} {r' : Roll} (h : Tenure env s r)
    (ha : Site.enrollAll env s r acts = some (env', s', r')) : Tenure env' s' r' := by
  induction acts generalizing env s r with
  | nil =>
    cases ha
    exact h
  | cons a rest ih =>
    obtain ⟨x, hx, ha⟩ := Option.bind_eq_some_iff.1 ha
    exact ih (h.act hx) ha

theorem Tenure.of_enroll (hooks : Hooks) (acts : List Act) (P : Env × Site × Roll → Bool)
    (h : (enroll hooks acts).any P = true) :
    ∃ env s r, enroll hooks acts = some (env, s, r) ∧ P (env, s, r) = true ∧ Tenure env s r := by
  obtain ⟨⟨env, s, r⟩, hx, hP⟩ := (Option.any_eq_true _ _).1 h
  refine ⟨env, s, r, hx, hP, ?_⟩
  unfold enroll at hx
  split at hx
  · rename_i hc
    exact (created hc fun i hi => by cases hi).enrollAll hx
  · cases hx

/-- A user takes the only session of a small pool, and somebody looks whether the crew is at
work. -/
def inUse : List Act :=
  [.move (.step (.worker 0)), .move (.step (.worker 0)), .move (.step (.worker 0)),
    .move .tryAcquire, .look]

/-- The pool is closed to the end by the user `n`. -/
def closing (n : Nat) : List Act :=
  [.move (.close n), .move (.step (.user n)), .move (.step (.user n)), .move (.step (.worker 0)),
    .move (.step (.user n)), .move (.step (.ticker 0)), .move (.step (.user n)),
    .move (.step (.user n)), .move (.step (.user n)), .move (.step (.user n))]

/-! ## The end of a closing -/

/-- **A pool whose closing has come to its end has been drained**, and all its sessions are closed
in the end. -/
theorem Tenure.closed_down (h : Tenure env s r) (he : r.ended = true) : s.ClosedDown env r := by
  have hr := h.sound
  obtain ⟨hd, -⟩ := hr.ended he
  obtain ⟨adds, tasks⟩ := hr.drained (.inr he)
  have opening := hd.opening_eq h.lawful adds
  have size := hd.size_eq h.lawful adds
  have rest (ha : s.AtRest) : s.pool.opening = 0 ∧ s.pool.size = s.pool.returns.length := by
    rw [size, opening, ha.dialing_eq_zero, ha.counted_eq_nil, ha.held, ha.delivered]
    simp
  refine ⟨hd, tasks, opening, size, rest, fun ha hl => ?_, fun ha i hi hdet hleft hq => ?_⟩
  · have none : s.pool.crew.tasks = [] :=
      List.eq_nil_iff_forall_not_mem.2 fun t ht => by simpa [hl] using tasks t ht
    have back : s.pool.returns = [] := by rw [Pool.returns, none, List.filterMap_nil]
    obtain ⟨ho, hs⟩ := rest ha
    exact ⟨none, hs.trans (by rw [back, List.length_nil]), ho⟩
  · have kept : i ∉ r.abandoned := by
      rcases hr.careful with hg | hc
      · cases he.symm.trans hg.unended
      · exact fun hn => (hc i hn).elim hleft fun hn => hn hi
    have once := hr.once i (hr.records i hi).1 hdet kept
    rwa [ha.sessions_eq_queued hd h.lawful, due_count_eq_zero hq] at once

/-- The session that comes back after the pool was closed is closed. -/
theorem Tenure.closed_down_returned :
    ∃ env s r, enroll {} (inUse ++ closing 0 ++ [.move (.giveBack 1), .move (.step (.closer 1))]) =
        some (env, s, r) ∧
      r.ended = true ∧ s.AtRest ∧ r.late = [] ∧ r.records.contains firstPid = true ∧
      env.server.closings = [firstPid] ∧ s.ClosedDown env r := by
  obtain ⟨env, s, r, hx, hp, ht⟩ := of_enroll {}
    (inUse ++ closing 0 ++ [.move (.giveBack 1), .move (.step (.closer 1))])
    (fun x => x.2.2.ended = true ∧ x.2.1.AtRest ∧ x.2.2.late = [] ∧
      x.2.2.records.contains firstPid = true ∧ x.1.server.closings = [firstPid])
    (by decide +kernel)
  obtain ⟨he, ha, hl, hr, hc⟩ := of_decide_eq_true hp
  exact ⟨env, s, r, hx, he, ha, hl, hr, hc, closed_down ht he⟩

/-- **Not every session is closed with its pool.** One is left as it is that is given back outside
when the pool was closed, or whose release is given up outside; and one stays in the queue, and in
the books, that is given back by somebody who has found the crew at work. **And not every closing
waits for the crew:** one that finds the pool closed is over at once, while a worker is still
busy. -/
theorem Tenure.left_open :
    (∃ env s r, Tenure env s r ∧ r.ended = true ∧ s.AtRest ∧ firstPid ∈ r.records ∧
      firstPid ∉ r.detached ∧ firstPid ∈ r.leftBehind ∧ env.server.closings = []) ∧
    (∃ env s r, Tenure env s r ∧ r.ended = true ∧ s.AtRest ∧ firstPid ∈ r.records ∧
      firstPid ∉ r.detached ∧ firstPid ∈ r.leftBehind ∧ env.server.closings = []) ∧
    (∃ env s r, Tenure env s r ∧ r.ended = true ∧ s.AtRest ∧ firstPid ∈ r.records ∧
      firstPid ∉ r.detached ∧ r.leftBehind = 0 ∧ s.pool.crew.tasks.length = 1 ∧
      s.pool.size = 1 ∧ env.server.closings = []) ∧
    (∃ env s r, Tenure env s r ∧ (1, Outcome.done) ∈ s.outcomes ∧
      s.pool.crew.workers = [Duty.busy]) := by
  refine ⟨?_, ?_, ?_, ?_⟩
  · obtain ⟨env, s, r, -, hp, ht⟩ := of_enroll {} (inUse ++ closing 0 ++ [.move (.leaveBehind 1)])
      (fun x => x.2.2.ended = true ∧ x.2.1.AtRest ∧ firstPid ∈ x.2.2.records ∧
        firstPid ∉ x.2.2.detached ∧ firstPid ∈ x.2.2.leftBehind ∧ x.1.server.closings = [])
      (by decide +kernel)
    exact ⟨env, s, r, ht, of_decide_eq_true hp⟩
  · obtain ⟨env, s, r, -, hp, ht⟩ := of_enroll slowReset
      (inUse ++ [.move (.release 0 1), .move (.step (.user 0)), .move (.step (.user 0))] ++
        closing 1 ++ [.outside (.cancel 0)])
      (fun x => x.2.2.ended = true ∧ x.2.1.AtRest ∧ firstPid ∈ x.2.2.records ∧
        firstPid ∉ x.2.2.detached ∧ firstPid ∈ x.2.2.leftBehind ∧ x.1.server.closings = [])
      (by decide +kernel)
    exact ⟨env, s, r, ht, of_decide_eq_true hp⟩
  · obtain ⟨env, s, r, -, hp, ht⟩ := of_enroll {} (inUse ++ closing 0 ++ [.late (.giveBack 1)])
      (fun x => x.2.2.ended = true ∧ x.2.1.AtRest ∧ firstPid ∈ x.2.2.records ∧
        firstPid ∉ x.2.2.detached ∧ x.2.2.leftBehind = 0 ∧ x.2.1.pool.crew.tasks.length = 1 ∧
        x.2.1.pool.size = 1 ∧ x.1.server.closings = [])
      (by decide +kernel)
    exact ⟨env, s, r, ht, of_decide_eq_true hp⟩
  · obtain ⟨env, s, r, -, hp, ht⟩ := of_enroll {}
      [.move (.step (.worker 0)), .move (.close 0), .move (.close 1), .move (.step (.user 0)),
        .move (.step (.user 1))]
      (fun x => (1, Outcome.done) ∈ x.2.1.outcomes ∧ x.2.1.pool.crew.workers = [Duty.busy])
      (by decide +kernel)
    exact ⟨env, s, r, ht, of_decide_eq_true hp⟩

end SessionPool.Site
