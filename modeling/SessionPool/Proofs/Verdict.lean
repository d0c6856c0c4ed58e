import SessionPool.Proofs.Inspection
import SessionPool.Proofs.OpenSessions
import SessionPool.Proofs.WaitQueue

/-!
# What becomes of a member that comes back

A member that was found fit is in service again unless its lifetime is over or the pool has too
many: the oldest request whose caller still waits is answered with it, or else it is the last of the
unused ones (`Pool.Keeps`). Any other member is on its way to be closed, and the pool is responsible
for one session less before it has others opened (`Pool.Dismisses`).
-/

set_option autoImplicit false

namespace SessionPool

namespace Pool

variable {p q : Pool} {m : Member} {id : Nat} {now : Instant}

/-! ## Staying and going -/

/-- The members that are on their way to be closed. -/
def goers (p : Pool) : List Member := p.closes ++ p.leaving

/-- Where a member is that is in service again. -/
inductive Places (p : Pool) (m : Member) (now : Instant) (q : Pool) : Prop
  /-- The oldest request that is neither late nor without a caller is answered with it. -/
  | handed {before after : List Request} {r : Request}
      (line : p.waiting.requests = before ++ r :: after)
      (stale : ∀ x ∈ before, p.waiting.isStale now x = true)
      (live : p.waiting.isStale now r = false)
      (waiting : q.waiting = { p.waiting with
        requests := after
        replies := p.waiting.replies ++ (p.waiting.lateReplies now before ++ [(r.ticket, .ok m)]) })
      (idle : q.idle = p.idle)
  /-- There is no such request, and it is the last of the unused ones. -/
  | parked (stale : ∀ x ∈ p.waiting.requests, p.waiting.isStale now x = true)
      (waiting : q.waiting = { p.waiting with
        requests := []
        replies := p.waiting.replies ++ p.waiting.lateReplies now p.waiting.requests })
      (idle : q.idle = p.idle ++ [m])

/-- The member with a number is in service again. -/
structure Keeps (p : Pool) (id : Nat) (now : Instant) (q : Pool) : Prop where
  size : q.size = p.size
  goers : q.goers = p.goers
  places : ∃ m, m.id = id ∧ p.Places m now q

/-- A member is on its way to be closed, and the pool is responsible for one session less. -/
structure Drops (p : Pool) (m : Member) (q : Pool) : Prop where
  size : q.size + 1 = p.size
  opening : q.opening = p.opening
  goers : q.goers.Perm (m :: p.goers)
  idle : q.idle = p.idle
  waiting : q.waiting = p.waiting

/-- The member with a number is dropped, before the pool has others opened if it does. -/
structure Dismisses (p : Pool) (id : Nat) (q : Pool) : Prop where
  drops : ∃ m q₀, m.id = id ∧ p.Drops m q₀ ∧ (q = q₀ ∨ q = q₀.topUp)
  /-- Nothing else is to be closed. -/
  once : q.goers.length = p.goers.length + 1

theorem Keeps.not_dismisses (h : p.Keeps id now q) : ¬ p.Dismisses id q := by
  intro hd
  have := hd.once
  rw [h.goers] at this
  omega

/-- Where a member is placed depends on the unused ones and on the queue. -/
theorem Places.congr {p' : Pool} (h : p'.Places m now q) (waiting : p'.waiting = p.waiting)
    (idle : p'.idle = p.idle) : p.Places m now q := by
  cases h with
  | handed line stale live told same =>
    rw [waiting] at line stale live told
    exact .handed line stale live told (same.trans idle)
  | parked stale told last =>
    rw [waiting] at stale told
    rw [idle] at last
    exact .parked stale told last

theorem Keeps.congr {p' : Pool} (h : p'.Keeps id now q) (size : p'.size = p.size)
    (goers : p'.goers = p.goers) (waiting : p'.waiting = p.waiting) (idle : p'.idle = p.idle) :
    p.Keeps id now q := by
  obtain ⟨m, hm, places⟩ := h.places
  exact ⟨h.size.trans size, h.goers.trans goers, m, hm, places.congr waiting idle⟩

section
variable {c : Counters} {h : HookCalls}

theorem Drops.of_recount (hd : (p.recount c h).Drops m q) : p.Drops m q :=
  ⟨hd.size, hd.opening, hd.goers, hd.idle, hd.waiting⟩

theorem Dismisses.of_recount (hd : (p.recount c h).Dismisses id q) : p.Dismisses id q := by
  obtain ⟨m, q₀, hm, hq, ht⟩ := hd.drops
  exact ⟨⟨m, q₀, hm, hq.of_recount, ht⟩, hd.once⟩

end

/-! ## Topping up -/

theorem goers_topUp (p : Pool) : p.topUp.goers = p.goers := by
  rw [topUp_eq]
  simp [goers, closes, order, List.filterMap_append, List.filterMap_replicate, Task.closed?]

/-! ## What is entered -/

theorem drops_discard (h : 0 < p.size) (m : Member) : p.Drops m (p.discard m) := by
  unfold discard dispatchClose
  rcases (p.drop 1).crew.dispatch_cases (.close m) with ⟨-, hd⟩ | ⟨-, hd⟩ <;> rw [hd]
  · refine ⟨Nat.sub_add_cancel h, rfl, ?_, rfl, rfl⟩
    show (p.closes ++ (p.leaving ++ [m])).Perm (m :: (p.closes ++ p.leaving))
    rw [← List.append_assoc]
    exact List.perm_append_singleton m _
  · refine ⟨Nat.sub_add_cancel h, rfl, ?_, rfl, rfl⟩
    have added : (p.crew.tasks ++ [Task.close m]).filterMap Task.closed? = p.closes ++ [m] := by
      simp [closes, Task.closed?]
    show ((p.crew.tasks ++ [Task.close m]).filterMap Task.closed? ++ p.leaving).Perm
      (m :: (p.closes ++ p.leaving))
    rw [added, List.append_assoc]
    exact List.perm_middle

theorem Drops.dismisses (h : p.Drops m q) : p.Dismisses m.id q :=
  ⟨⟨m, q, rfl, h, .inl rfl⟩, h.goers.length_eq⟩

theorem Drops.dismisses_topUp (h : p.Drops m q) : p.Dismisses m.id q.topUp :=
  ⟨⟨m, q, rfl, h, .inr rfl⟩, by rw [goers_topUp, h.goers.length_eq, List.length_cons]⟩

theorem keeps_deliver (hc : p.closed = false) (hn : p.isNull = false) (m : Member) (now : Instant) :
    p.Keeps m.id now (p.deliver m now) := by
  unfold deliver
  rw [if_neg (by simp [hc, hn])]
  dsimp only
  rcases p.waiting.fulfill_cases (m.inStage .idle) now with
    ⟨before, r, after, line, stale, live, h⟩ | ⟨stale, h⟩ <;> rw [h]
  · exact ⟨rfl, rfl, m.inStage .idle, rfl, .handed line stale live rfl rfl⟩
  · have hn : Pool.isNull { p with waiting := { p.waiting with
      requests := []
      replies := p.waiting.replies ++ p.waiting.lateReplies now p.waiting.requests } } = false := hn
    dsimp only
    rw [hn]
    exact ⟨rfl, rfl, m.inStage .idle, rfl, .parked stale rfl rfl⟩

/-- What a pool has counted of the returns that went wrong, and of the runs of its hooks. -/
def marks (p : Pool) : Nat × HookCalls := (p.counters.returnsBad, p.hookCalls)

theorem marks_topUp (p : Pool) : p.topUp.marks = p.marks := by
  rw [topUp_eq]
  rfl

theorem counters_discard (p : Pool) (m : Member) : (p.discard m).counters = p.counters := by
  unfold discard dispatchClose
  split <;> rfl

theorem hookCalls_discard (p : Pool) (m : Member) : (p.discard m).hookCalls = p.hookCalls := by
  unfold discard dispatchClose
  split <;> rfl

theorem marks_discard (p : Pool) (m : Member) : (p.discard m).marks = p.marks :=
  Prod.ext (congrArg Counters.returnsBad (counters_discard p m)) (hookCalls_discard p m)

/-- Of what is counted, only the time for which requests waited changes when a member is free. -/
theorem deliver_counts (p : Pool) (m : Member) (now : Instant) :
    (∃ n, (p.deliver m now).counters = { p.counters with requestsWaitMs := n }) ∧
      (p.deliver m now).hookCalls = p.hookCalls := by
  have discarded (q : Pool) (hc : q.counters = p.counters) (hh : q.hookCalls = p.hookCalls)
      (m' : Member) : (∃ n, (q.discard m').counters = { p.counters with requestsWaitMs := n }) ∧
      (q.discard m').hookCalls = p.hookCalls :=
    ⟨⟨_, (counters_discard q m').trans hc⟩, (hookCalls_discard q m').trans hh⟩
  unfold deliver
  split
  · exact discarded p rfl rfl m
  · dsimp only
    split
    · exact ⟨⟨_, rfl⟩, rfl⟩
    · split
      · exact discarded _ (by rfl) (by rfl) _
      · exact ⟨⟨_, rfl⟩, rfl⟩
    · exact ⟨⟨_, rfl⟩, rfl⟩

theorem marks_deliver (p : Pool) (m : Member) (now : Instant) :
    (p.deliver m now).marks = p.marks := by
  obtain ⟨⟨n, hc⟩, hh⟩ := p.deliver_counts m now
  rw [marks, hc, hh]
  rfl

/-! ## Settling -/

theorem keeps_settle (hc : p.closed = false) (hn : p.isNull = false)
    (hx : m.isExpired now = false) (ho : p.isOverfull = false) :
    p.Keeps m.id now (p.settle m now .fit) := by
  have hx : (touch m now).isExpired now = false := hx
  unfold settle
  dsimp only
  rw [if_neg (by simp [hx]), if_neg (by simp [ho])]
  exact keeps_deliver hc hn (touch m now) now

theorem dismisses_settle (h : 0 < p.size) {f : Fitness}
    (hf : f = .fit → m.isExpired now = true ∨ p.isOverfull = true) :
    p.Dismisses m.id (p.settle m now f) := by
  have dropped (c : Counters) : p.Drops (m.inStage .broken)
      ((p.recount c p.hookCalls).discard (m.inStage .broken)) :=
    Drops.of_recount (drops_discard (p := p.recount c p.hookCalls) h _)
  cases f with
  | fit =>
    unfold settle
    dsimp only
    -- one that expired is replaced, one too many is not
    split
    · exact (drops_discard h (touch m now)).dismisses_topUp
    · rename_i hx
      rw [if_pos ((hf rfl).resolve_left hx)]
      exact (drops_discard h (touch m now)).dismisses
  | unfit | lost => exact (dropped _).dismisses_topUp

theorem marks_settle (p : Pool) (m : Member) (now : Instant) (f : Fitness) :
    (p.settle m now f).marks =
      (p.counters.returnsBad + if f = .fit then 0 else 1, p.hookCalls) := by
  cases f with
  | fit =>
    unfold settle
    dsimp only
    split
    · rw [marks_topUp, marks_discard]
      rfl
    · split
      · exact marks_discard _ _
      · exact marks_deliver _ _ _
  | unfit | lost =>
    unfold settle
    rw [marks_topUp, marks_discard]
    rfl

theorem isSome_rejects : (p.rejects? m now).isSome = true ↔
    m.isExpired now = true ∨ p.isOverfull = true := by
  unfold rejects?
  split
  · simp_all
  · split <;> simp_all

end Pool

/-! ## Returns -/

namespace Returning

variable {rollback : Rollback} {env env' settled : Env} {p q : Pool} {m : Member} {f : Findings}

/-- What the return of a member comes to, by what was found out and by what the pool is like when
that is entered. -/
structure Returned (env : Env) (p : Pool) (m : Member) (f : Findings) (settled env' : Env)
    (q : Pool) : Prop where
  keeps : p.Keeps m.id settled.now q ↔
    f.Passed ∧ m.isExpired settled.now = false ∧ p.isOverfull = false
  dismisses : p.Dismisses m.id q ↔
    ¬ (f.Passed ∧ m.isExpired settled.now = false ∧ p.isOverfull = false)
  good : f.Passed → q.counters.returnsBad = p.counters.returnsBad
  bad : ¬ f.Passed → q.counters.returnsBad = p.counters.returnsBad + 1
  /-- The hook is run once, and only on a session that is ready for it. -/
  hooked : f.hook.isSome = true ↔ f.IsReady
  calls : q.hookCalls.reset = p.hookCalls.reset + if f.hook.isSome then 1 else 0
  warned : ∃ records, env'.log = env.log ++ records ∧
    ((∃ r ∈ records, r.level = .warn) ↔ ¬ f.IsClean) ∧
    ((∃ r ∈ records, r.level = .debug) ↔
      f.Passed ∧ (m.isExpired settled.now = true ∨ p.isOverfull = true))

theorem hooked_eq (p : Pool) (f : Findings) : hooked p f = p.recount p.counters
    { p.hookCalls with reset := p.hookCalls.reset + if f.hook.isSome then 1 else 0 } := by
  unfold hooked
  split <;> rfl

/-- A member is settled by what was found out, in a pool that has only counted since. -/
theorem Settles.returned {c : Counters} {calls : HookCalls} {m' : Member}
    (hc : p.closed = false) (hn : p.isNull = false) (hs : 0 < p.size)
    (hb : c.returnsBad = p.counters.returnsBad)
    (hr : calls.reset = p.hookCalls.reset + if f.hook.isSome then 1 else 0)
    (hi : m'.id = m.id) (hx : ∀ now, m'.isExpired now = m.isExpired now)
    (ready : f.hook.isSome = true ↔ f.IsReady)
    (h : Settles f.Passed (¬ f.IsClean) env.log (p.recount c calls) m' settled env' q) :
    Returned env p m f settled env' q := by
  obtain ⟨m'', fitness, records, notes, hf, hq, hl, hw, hd⟩ := h
  have hi : m''.id = m.id := (congrArg Notes.id notes).trans hi
  have hx : m''.isExpired settled.now = m.isExpired settled.now := by
    rw [← hx, Member.isExpired, Member.isExpired, notes]
  have marks : q.marks = (c.returnsBad + if fitness = .fit then 0 else 1, calls) := by
    rw [hq]
    exact Pool.marks_settle _ _ _ _
  have keeps : f.Passed ∧ m.isExpired settled.now = false ∧ p.isOverfull = false →
      p.Keeps m.id settled.now q := by
    rintro ⟨hp, hx', ho⟩
    rw [hq, hf.2 hp, ← hi]
    have kept : (p.recount c calls).Keeps m''.id settled.now _ :=
      Pool.keeps_settle hc hn (hx.trans hx') ho
    exact kept.congr rfl rfl rfl rfl
  have dismisses : ¬ (f.Passed ∧ m.isExpired settled.now = false ∧ p.isOverfull = false) →
      p.Dismisses m.id q := by
    intro hno
    rw [hq, ← hi]
    have hs : 0 < (p.recount c calls).size := hs
    refine Pool.Dismisses.of_recount (Pool.dismisses_settle hs fun hfit => ?_)
    by_contra hkeep
    rw [not_or, Bool.not_eq_true, Bool.not_eq_true] at hkeep
    exact hno ⟨hf.1 hfit, hx.symm.trans hkeep.1, hkeep.2⟩
  refine ⟨⟨fun hk => ?_, keeps⟩, ⟨fun hd hkeep => (keeps hkeep).not_dismisses hd, dismisses⟩,
    fun hp => ?_, fun hp => ?_, ready, ?_, records, hl, hw, ?_⟩
  · by_contra hno
    exact hk.not_dismisses (dismisses hno)
  · have := congrArg Prod.fst marks
    rwa [if_pos (hf.2 hp), hb] at this
  · have := congrArg Prod.fst marks
    rwa [if_neg (mt hf.1 hp), hb] at this
  · rw [← hr]
    exact congrArg (fun x : Nat × HookCalls => x.2.reset) marks
  · rw [hd, Pool.isSome_rejects, hx]
    rfl

/-- A return that has its pool to itself is settled by what it finds out. -/
theorem returned_of_alone {moments : List Env} (hc : p.closed = false) (hn : p.isNull = false)
    (hs : 0 < p.size)
    (h : Alone (stepWith rollback) moments env p (.more (.arriving m)) env' q (.done ())) :
    ∃ f arrived look pauses settled, moments = arrived :: look :: (pauses ++ [settled]) ∧
      f.Of rollback (p.hooks.reset p.hookCalls.reset) pauses look m.session ∧
      Returned env p m f settled env' q := by
  obtain ⟨arrived, rest, x, rfl, later, h, run⟩ := h.first
  simp only [stepWith, step] at h
  split at h <;> cases h
  · rename_i p₁ m₁ hr
    -- the session that is looked at is the one that came back: the pool has only counted it
    obtain ⟨c, hb, rfl, rfl⟩ := Pool.receive_true hr
    obtain ⟨look, rest, x, rfl, later', h, run⟩ := run.first
    obtain rfl := Option.some.inj h
    obtain ⟨f, pauses, settled, rfl, found⟩ := finds run
    have log : look.log = env.log := later'.log.trans later.log
    have settles := found.settles
    rw [hooked_eq, Pool.recount_recount, log] at settles
    refine ⟨f, arrived, look, pauses, settled, rfl, found.findings, ?_⟩
    refine Settles.returned hc hn hs hb ?_ ?_ (fun _ => ?_) found.ready settles <;> rfl
  · rename_i hr
    have := p.receive_of_open hc hn arrived.server m arrived.now
    rw [hr] at this
    cases this

end Returning

namespace Operation

/-- What becomes of the return of a member in surroundings `env` while nobody else makes a step. -/
structure Returns (rollback : Rollback) (env : Env) (p : Pool) (m : Member) : Prop where
  short : ∀ moments env' q next,
    Alone (stepWith rollback) moments env p (.more (.release (.arriving m))) env' q next →
    moments.length ≤ (p.hooks.reset p.hookCalls.reset).length + 3
  ends : ∀ moments env' q next,
    Alone (stepWith rollback) moments env p (.more (.release (.arriving m))) env' q next →
    ∃ moments' env'' q', Alone (stepWith rollback) moments' env' q next env'' q' (.done .done)
  /-- Whoever gave the member back is told that this is done, whatever is found out. -/
  comes : ∀ moments env' q outcome,
    Alone (stepWith rollback) moments env p (.more (.release (.arriving m))) env' q
      (.done outcome) →
    outcome = .done ∧ ∃ f arrived look pauses settled,
      moments = arrived :: look :: (pauses ++ [settled]) ∧
      f.Of rollback (p.hooks.reset p.hookCalls.reset) pauses look m.session ∧
      Returning.Returned env p m f settled env' q

theorem stepWith_release (rollback : Rollback) (env : Env) (p : Pool) (r : Returning) :
    stepWith rollback env p (.release r) = (r.stepWith rollback env p).map fun x =>
      (x.1, x.2.1, x.2.2.map release fun _ => .done) := rfl

/-- What a release does is what the return of its member does. -/
theorem alone_of_release {rollback : Rollback} {env env' : Env} {p q : Pool} {m : Member}
    {moments : List Env} {next : Next Operation Outcome}
    (h : Alone (stepWith rollback) moments env p (.more (.release (.arriving m))) env' q next) :
    ∃ next', next = next'.map release (fun _ => .done) ∧
      Alone (Returning.stepWith rollback) moments env p (.more (.arriving m)) env' q next' := by
  let start : Next Returning Unit := .more (.arriving m)
  have run : Alone (stepWith rollback) moments env p (start.map release fun _ => .done) env' q
    next := h
  exact Alone.of_map (stepWith_release rollback) run

/-- **The return of a member** that has the pool to itself. -/
theorem returns_alone (rollback : Rollback) {p : Pool} (hc : p.closed = false)
    (hn : p.isNull = false) (hs : 0 < p.size) (m : Member) (env : Env) :
    stepWith Session.rollback = step ∧ Returns rollback env p m := by
  have lift := stepWith_release rollback
  refine ⟨stepWith_rollback, ⟨?_, ?_, ?_⟩⟩
  · intro moments env' q next h
    obtain ⟨next, rfl, run⟩ := alone_of_release h
    have := Alone.length_le (Returning.shrinks rollback) run
    exact (Nat.le_add_right _ _).trans this
  · intro moments env' q next h
    obtain ⟨next, rfl, run⟩ := alone_of_release h
    obtain ⟨moments', env'', q', ⟨⟩, rest⟩ := Alone.completes (Returning.shrinks rollback)
      (Returning.goesOn rollback) env' q next
    exact ⟨moments', env'', q', rest.map lift⟩
  · intro moments env' q outcome h
    obtain ⟨next, he, run⟩ := alone_of_release h
    cases next with
    | more r => cases he
    | done =>
      cases he
      exact ⟨rfl, Returning.returned_of_alone hc hn hs run⟩

/-- A pool whose only session is in somebody's hands. -/
def lentOut : Pool := { name := "lent-out", minSize := 1, maxSize := some 1, size := 1 }

/-- A session that was left in a transaction. -/
def leftOpen : Member :=
  { session := { pid := firstPid, status := .inTransaction }
    notes := .start 1 firstPid .origin none }

/-- A way to roll back that the server refuses, so that the session is not lost with it. -/
def refused : Rollback := fun s server => (s, server, .error (.refused "not now"))

/-- The session is given up, and the hook is not run on it. -/
theorem returns_alone_refused :
    lentOut.closed = false ∧ lentOut.isNull = false ∧ 0 < lentOut.size ∧
    ∃ moments env' q, Alone (stepWith refused) moments {} lentOut
        (.more (.release (.arriving leftOpen))) env' q (.done .done) ∧
      lentOut.Dismisses leftOpen.id q ∧ q.counters.returnsBad = 1 ∧ q.hookCalls.reset = 0 := by
  refine ⟨rfl, rfl, by decide, ?_⟩
  obtain ⟨-, h⟩ := returns_alone refused (p := lentOut) rfl rfl (by decide) leftOpen {}
  obtain ⟨moments, env', q, run⟩ := h.ends [] {} lentOut _ .here
  obtain ⟨-, f, arrived, look, pauses, settled, -, of, returned⟩ := h.comes _ _ _ _ run
  have unready : ¬ f.IsReady := by
    rintro ⟨-, -, idle | ⟨-, rolled⟩⟩
    · rw [of.status, Session.reported] at idle
      split at idle <;> cases idle
    · have := ((of.rolledBack _).1 rolled).2
      cases this
  have unhooked : f.hook.isSome = false := by
    simpa using mt returned.hooked.1 unready
  have failed : ¬ f.Passed := fun h => unready h.1
  refine ⟨moments, env', q, run, returned.dismisses.2 fun h => failed h.1, returned.bad failed, ?_⟩
  rw [returned.calls, unhooked]
  rfl

end Operation

end SessionPool
