import SessionPool.Proofs.Expiry
import SessionPool.Proofs.Restaff

/-!
# Two ways to give a member back

A user gives a member back by releasing it, and waits until it was reset, or lets go of it, and a
worker resets it. While the crew is at work both come to the same, step by step
(`Site.Alike`, `Site.alike_moves`), and a session that is to be closed in the end is closed in
either case (`Site.Alike.closes`). Once the crew was stopped nobody takes back a member that was let
go of: it is closed, and the time for which its user had it is not counted
(`Site.letGo_of_stopped`).
-/

set_option autoImplicit false

namespace SessionPool.Site

variable {env env' : Env} {s s' b : Site} {m : Member} {n k id : Nat}

/-! ## The two ways -/

/-- The party makes its next step, or time passes and the surroundings change. -/
def stride (party : Party) : Option Env → Move
  | none => .step party
  | some env => .pass env

def releasing (b : Site) (n : Nat) (p : Pool) : Next Returning Unit → Site
  | .more r => { b with pool := p, operations := b.operations ++ [(n, .release r)] }
  | .done () => { b with pool := p, outcomes := b.outcomes ++ [(n, .done)] }

def restoring (b : Site) (k : Nat) (p : Pool) : Next Returning Unit → Site
  | .more r => { b with pool := p, jobs := (k, .returning r) :: b.jobs }
  | .done () => { b with pool := p }

/-- Two returns of the same member have come equally far, and their pools are the same but for which
worker is where. -/
def Alike (b : Site) (n k : Nat) (next : Next Returning Unit) (s₁ s₂ : Site) : Prop :=
  ∃ p d, s₁ = b.releasing n p next ∧ s₂ = b.restoring k (p.restaff d) next

def placesAfter (d : Crew (Task Member)) (k : Nat) : Next Returning Unit → Crew (Task Member)
  | .more _ => d
  | .done () => d.finish k

theorem step_releasing (hn : Table.get? b.operations n = none) (env : Env) (p : Pool)
    (r : Returning) :
    (b.releasing n p (.more r)).step env (.user n) =
      (r.step env p).map fun x => (x.1, b.releasing n x.2.1 x.2.2) := by
  have hg : Table.get? (b.releasing n p (.more r)).operations n = some (.release r) :=
    Table.get?_append_self hn _
  rw [step, stepUser, hg, Option.bind_some]
  cases hs : r.step env p with
  | none => simp [Operation.step, releasing, hs]
  | some x =>
    obtain ⟨env', q, r' | ⟨⟨⟩⟩⟩ := x
    · simp [Operation.step, releasing, hs, Next.map, Table.update_append_self hn]
    · simp [Operation.step, releasing, hs, Next.map, conclude, Table.remove_append_self hn]

theorem step_restoring (hk : Table.get? b.jobs k = none) (env : Env) (p : Pool)
    (d : Crew (Task Member)) (r : Returning) :
    (b.restoring k (p.restaff d) (.more r)).step env (.worker k) =
      (r.step env p).map fun x =>
        (x.1, b.restoring k (x.2.1.restaff (placesAfter d k x.2.2)) x.2.2) := by
  have hg : Table.get? (b.restoring k (p.restaff d) (.more r)).jobs k = some (.returning r) := by
    simp [restoring, Table.get?]
  rw [step, stepWorker, hg]
  have hs := Returning.step_restaff d env p r
  cases hr : r.step env p with
  | none => simp [Job.step, restoring, hs, hr]
  | some x =>
    obtain ⟨env', q, r' | ⟨⟨⟩⟩⟩ := x
    · simp [Job.step, restoring, hs, hr, Returning.restaffed, Next.map, placesAfter,
        Table.put_cons_self hk]
    · simp [Job.step, restoring, hs, hr, Returning.restaffed, Next.map, placesAfter,
        Table.remove_cons_self hk]
      rfl

theorem crew_step {r : Returning} {p : Pool} {x : Stepped Returning Unit}
    (h : r.step env p = some x) : x.2.1.crew.turn = p.crew.turn ∧
      x.2.1.crew.stopped = p.crew.stopped := by
  have deed : p.Deed env.now (some (.reset, r.member)) x.2.1 :=
    Returning.deed h fun m hr => hr ▸ rfl
  have staffing := (Returning.changes h).staffing id
  exact ⟨staffing.2.1, deed.crew.stopped⟩

/-- **Both ways come to the same**, step by step. -/
theorem alike_moves (hn : Table.get? b.operations n = none) (hk : Table.get? b.jobs k = none)
    {strides : List (Option Env)} {p : Pool} {d : Crew (Task Member)} {next : Next Returning Unit}
    (h : moves? env (b.releasing n p next) (strides.map (stride (.user n))) = some (env', s')) :
    ∃ q next', s' = b.releasing n q next' ∧
      moves? env (b.restoring k (p.restaff (placesAfter d k next)) next)
        (strides.map (stride (.worker k))) =
        some (env', b.restoring k (q.restaff (placesAfter d k next')) next') ∧
      q.crew.turn = p.crew.turn ∧ q.crew.stopped = p.crew.stopped := by
  induction strides generalizing env p next with
  | nil =>
    cases h
    exact ⟨p, next, rfl, rfl, rfl, rfl⟩
  | cons x strides ih =>
    obtain ⟨⟨env₁, s₁⟩, hx, h⟩ := Option.bind_eq_some_iff.1 h
    cases x with
    | some e =>
      simp only [stride, move?, Option.ite_none_right_eq_some] at hx
      obtain ⟨ht, he⟩ := hx
      cases he
      obtain ⟨q, next', hs, hm, hc⟩ := ih h
      exact ⟨q, next', hs, Option.bind_eq_some_iff.2 ⟨_, if_pos ht, hm⟩, hc⟩
    | none =>
      cases next with
      | more r =>
        have hx : (b.releasing n p (.more r)).step env (.user n) = some (env₁, s₁) := hx
        rw [step_releasing hn] at hx
        obtain ⟨⟨env₂, q, next⟩, hr, he⟩ := Option.map_eq_some_iff.1 hx
        cases he
        obtain ⟨q', next', hs, hm, ht, hc⟩ := ih h
        have crew := crew_step hr
        refine ⟨q', next', hs, Option.bind_eq_some_iff.2
          ⟨(env₂, b.restoring k (q.restaff (placesAfter d k next)) next), ?_, hm⟩,
          ht.trans crew.1, hc.trans crew.2⟩
        show step env (b.restoring k (p.restaff d) (.more r)) (.worker k) = _
        rw [step_restoring hk, hr]
        rfl
      | done =>
        -- the operation has ended, and its user makes no further step
        have hx : stepUser env (b.releasing n p (.done ())) n = some (env₁, s₁) := hx
        rw [stepUser, show (b.releasing n p (.done ())).operations = b.operations from rfl,
          hn] at hx
        cases hx

theorem Alike.waits (hn : Table.get? b.operations n = none) (hk : Table.get? b.jobs k = none)
    {r : Returning} {s₁ s₂ : Site} (h : b.Alike n k (.more r) s₁ s₂) (env : Env) :
    s₁.step env (.user n) = none ↔ s₂.step env (.worker k) = none := by
  obtain ⟨p, d, rfl, rfl⟩ := h
  rw [step_releasing hn, step_restoring hk, Option.map_eq_none_iff, Option.map_eq_none_iff]

/-! ## How they begin and end -/

theorem release_begins (hm : s.heldMember? id = some m) (hn : Table.get? s.operations n = none) :
    s.move? env (.release n id) =
      some (env, (s.letGo id).releasing n s.pool (.more (.arriving m))) := by
  have hn : Table.get? (s.letGo id).operations n = none := hn
  simp only [move?, beginWith?, hm, begin?, hn]
  rfl

theorem step_takes {c : Crew (Task Member)} {t : Task Member} (hj : Table.get? s.jobs k = none)
    (hc : s.pool.crew.seek k true = some (c, some t)) (env : Env) :
    s.step env (.worker k) = some (env, { s with
      pool := { s.pool with crew := c }, jobs := (k, .start s.pool t) :: s.jobs }) := by
  rw [step, stepWorker, hj]
  dsimp only
  rw [hc, Option.map_some]
  dsimp only
  rw [Table.put_of_none hj]

theorem letGo_begins (hm : s.heldMember? id = some m) (hj : Table.get? s.jobs k = none)
    (hs : s.pool.crew.stopped = false) (ht : s.pool.crew.tasks = [])
    (hw : s.pool.crew.workers[k]? = some .taking) :
    moves? env s [.giveBack id, .step (.worker k)] =
      some (env, (s.letGo id).restoring k
        (s.pool.restaff (s.pool.crew.passTurn.assign k .busy)) (.more (.arriving m))) := by
  have begun : s.giveBack id = { s.letGo id with pool := { s.pool with
      crew := { s.pool.crew with tasks := [.restore m] } } } := by
    simp [giveBack, hm, Pool.returnLater, Crew.dispatch, Crew.send, hs, ht]
  have sought : (s.giveBack id).pool.crew.seek k true =
      some ({ s.pool.crew with tasks := [] }.passTurn.assign k .busy, some (.restore m)) := by
    rw [begun]
    exact Crew.seek_taking (c := { s.pool.crew with tasks := [Task.restore m] }) hs rfl hw
  have hj : Table.get? (s.giveBack id).jobs k = none := by
    rw [begun]
    exact hj
  refine Option.bind_eq_some_iff.2 ⟨_, rfl, ?_⟩
  refine Option.bind_eq_some_iff.2 ⟨_, step_takes hj sought env, ?_⟩
  rw [begun]
  simp [moves?, restoring, Pool.restaff, Crew.restaff, Crew.assign, Crew.passTurn, ht]
  rfl

theorem closes_next (h : Reachable env s) (hs : s.pool.crew.stopped = false)
    {rest : List (Task Member)} (ht : s.pool.crew.tasks = .close m :: rest)
    (hk : s.pool.crew.turn ≠ none ∨ s.pool.crew.workers[k]? = some .looking) :
    ∃ i d, moves? env s [.step (.worker i), .step (.worker i)] = some (m.close env, { s with
      pool := { s.pool with crew := { s.pool.crew with tasks := rest } }.restaff d }) := by
  obtain ⟨i, duty, hi, hb, sought⟩ := h.inOrder.taker hs ht hk
  have hj : Table.get? s.jobs i = none := h.staffed.idle (by simpa [hi] using hb)
  refine ⟨i, ({ s.pool.crew with tasks := rest }.passTurn.assign i .busy).finish i, ?_⟩
  refine Option.bind_eq_some_iff.2 ⟨_, step_takes hj sought env, ?_⟩
  refine Option.bind_eq_some_iff.2 ⟨(m.close env, { s with pool := _ }), ?_, rfl⟩
  simp only [move?, step, stepWorker, Table.get?, if_pos, Job.start, Job.step, Option.map_some,
    Table.remove_cons_self hj]
  rfl

/-! ## After the crew was stopped -/

theorem release_of_stopped (h : Reachable env s) (hs : s.pool.crew.stopped = true)
    (hm : s.heldMember? id = some m) (hn : Table.get? s.operations n = none) :
    moves? env s [.release n id, .step (.user n), .step (.user n)] = some (m.close env,
      { s.letGo id with
        pool := (s.pool.countUse m env.now).drop 1, outcomes := s.outcomes ++ [(n, .done)] }) := by
  have hc : (s.pool.countUse m env.now).closed = true := by
    have hc := h.orderlyShut.stopped hs
    unfold Pool.countUse
    split <;> exact hc
  have goesOn {env : Env} {p : Pool} {r : Returning} {x : Stepped Returning Unit}
      (hr : r.step env p = some x) :
      ((s.letGo id).releasing n p (.more r)).move? env (.step (.user n)) =
        some (x.1, (s.letGo id).releasing n x.2.1 x.2.2) := by
    have hn : Table.get? (s.letGo id).operations n = none := hn
    rw [move?, step_releasing hn, hr]
    rfl
  have received : (Returning.arriving m).step env s.pool =
      some (env, (s.pool.countUse m env.now).drop 1,
        .more (.closing { m with notes := { m.notes with takenAt := none } })) := by
    simp [Returning.step, Pool.receive, hc]
  refine Option.bind_eq_some_iff.2 ⟨_, release_begins hm hn, ?_⟩
  refine Option.bind_eq_some_iff.2 ⟨_, goesOn received, ?_⟩
  exact Option.bind_eq_some_iff.2 ⟨_, goesOn rfl, rfl⟩

/-- Nobody takes back the member that is let go of: it is closed. -/
theorem letGo_of_stopped (h : Reachable env s) (hs : s.pool.crew.stopped = true)
    (hm : s.heldMember? id = some m) :
    moves? env s [.giveBack id, .step (.closer m.id)] =
      some (m.close env, { s.letGo id with pool := s.pool.drop 1 }) := by
  have begun : s.giveBack id = { s.letGo id with
      pool := { s.pool.drop 1 with leaving := s.pool.leaving ++ [m] } } := by
    simp [giveBack, hm, Pool.returnLater, Crew.dispatch, hs]
  have gaveBack : s.move? env (.giveBack id) = some (env, s.giveBack id) := rfl
  have leaving : (s.giveBack id).pool.leaving = s.pool.leaving ++ [m] := by rw [begun]
  have closed := step_closer_last env leaving (leavingApart (h.moved gaveBack).balanced)
  refine Option.bind_eq_some_iff.2 ⟨_, gaveBack, Option.bind_eq_some_iff.2 ⟨_, closed, ?_⟩⟩
  rw [begun]
  rfl

/-! ## All of it -/

theorem moves?_append (env : Env) (s : Site) (mvs mvs' : List Move) :
    moves? env s (mvs ++ mvs') = (moves? env s mvs).bind fun x => moves? x.1 x.2 mvs' := by
  induction mvs generalizing env s with
  | nil => rfl
  | cons mv rest ih =>
    simp only [List.cons_append, moves?, Option.bind_assoc]
    exact congrArg _ (funext fun x => ih x.1 x.2)

/-- A user gives back the member, by an operation or by letting go of it, and it comes to the
same but for the time that is counted once the crew was stopped. -/
structure Agrees (env : Env) (s : Site) (n id : Nat) (m : Member) : Prop where
  /-- A worker that is there and has nothing to do waits for a task, if no other worker has. -/
  idle : s.pool.crew.stopped = false → (∀ k, s.step env (.worker k) = none) →
    ∀ (k : Nat) (d : Duty), s.pool.crew.workers[k]? = some d → d ≠ .busy → d ≠ .gone →
      ∃ i : Nat, s.pool.crew.workers[i]? = some .taking ∧ s.pool.crew.tasks = []
  /-- The worker does with the member what the operation does with it. Both wait for the same, and
  what is to be closed then is closed. -/
  working : s.pool.crew.stopped = false → s.pool.crew.tasks = [] →
    ∀ k : Nat, s.pool.crew.workers[k]? = some .taking →
    ∀ (strides : List (Option Env)) env' s₁,
      moves? env s (.release n id :: strides.map (stride (.user n))) = some (env', s₁) →
      ∃ next s₂, moves? env s
          (.giveBack id :: .step (.worker k) :: strides.map (stride (.worker k))) =
          some (env', s₂) ∧
        (s.letGo id).Alike n k next s₁ s₂ ∧
        (next ≠ .done () → (s₁.step env' (.user n) = none ↔ s₂.step env' (.worker k) = none)) ∧
        ∀ m' rest, next = .done () → s₁.pool.crew.tasks = .close m' :: rest → ∃ i j t₁ t₂,
          moves? env' s₁ [.step (.worker i), .step (.worker i)] = some (m'.close env', t₁) ∧
          moves? env' s₂ [.step (.worker j), .step (.worker j)] = some (m'.close env', t₂) ∧
          (s.letGo id).Alike n k (.done ()) t₁ t₂
  /-- The member is closed, and only the operation counts the time for which it was in use. -/
  stopped : s.pool.crew.stopped = true →
    moves? env s [.release n id, .step (.user n), .step (.user n)] = some (m.close env,
      { s.letGo id with
        pool := (s.pool.countUse m env.now).drop 1, outcomes := s.outcomes ++ [(n, .done)] }) ∧
    moves? env s [.giveBack id, .step (.closer m.id)] =
      some (m.close env, { s.letGo id with pool := s.pool.drop 1 })

/-- Both ways the member that is to be closed next is closed. -/
theorem Alike.closes {s₁ s₂ : Site} (h : b.Alike n k (.done ()) s₁ s₂) (hr₁ : Reachable env s₁)
    (hr₂ : Reachable env s₂) (hs : s₁.pool.crew.stopped = false)
    {rest : List (Task Member)} (ht : s₁.pool.crew.tasks = .close m :: rest)
    (hk₁ : s₁.pool.crew.turn ≠ none) (hk₂ : s₂.pool.crew.workers[k]? = some .looking) :
    ∃ i j t₁ t₂, moves? env s₁ [.step (.worker i), .step (.worker i)] = some (m.close env, t₁) ∧
      moves? env s₂ [.step (.worker j), .step (.worker j)] = some (m.close env, t₂) ∧
      b.Alike n k (.done ()) t₁ t₂ := by
  obtain ⟨p, d, rfl, rfl⟩ := h
  obtain ⟨i, d₁, h₁⟩ := closes_next (k := k) hr₁ hs ht (.inl hk₁)
  obtain ⟨j, d₂, h₂⟩ := closes_next hr₂ hs ht (.inr hk₂)
  exact ⟨i, j, _, _, h₁, h₂, _, _, rfl, rfl⟩

/-- **Releasing a member and letting go of it come to the same** while the crew is at work. -/
theorem release_agrees (h : Reachable env s) (hm : s.heldMember? id = some m)
    (hn : Table.get? s.operations n = none) : s.Agrees env n id m where
  idle hs hq k d hk hb hg := waiting_worker h hs hq hk hb hg
  working hs ht k hw strides env' s₁ h₁ := by
    have hj : Table.get? s.jobs k = none := h.staffed.idle (by simp [hw])
    have hn' : Table.get? (s.letGo id).operations n = none := hn
    have hj' : Table.get? (s.letGo id).jobs k = none := hj
    have goesOn (mvs : List Move) : moves? env s ([.giveBack id, .step (.worker k)] ++ mvs) =
        moves? env ((s.letGo id).restoring k
          (s.pool.restaff (s.pool.crew.passTurn.assign k .busy)) (.more (.arriving m))) mvs := by
      rw [moves?_append, letGo_begins hm hj hs ht hw]
      rfl
    have hr₁ := h.moves h₁
    -- both have begun, and go on alike from there
    obtain ⟨x, hx, h₁⟩ := Option.bind_eq_some_iff.1 h₁
    rw [release_begins hm hn] at hx
    cases hx
    dsimp only at h₁
    obtain ⟨q, next, rfl, h₂, turn, stopped⟩ :=
      alike_moves (d := s.pool.crew.passTurn.assign k .busy) hn' hj' h₁
    have h₂ := (goesOn _).trans h₂
    have alike : (s.letGo id).Alike n k next ((s.letGo id).releasing n q next) _ :=
      ⟨q, placesAfter (s.pool.crew.passTurn.assign k .busy) k next, rfl, rfl⟩
    refine ⟨next, _, h₂, alike, fun hd => ?_, ?_⟩
    · cases next with
      | more r => exact alike.waits hn' hj' env'
      | done => exact absurd rfl hd
    · rintro m' rest rfl ht'
      refine alike.closes hr₁ (h.moves h₂) (stopped.trans hs) ht' ?_ ?_
      · rw [show ((s.letGo id).releasing n q (.done ())).pool.crew.turn = _ from turn,
          h.inOrder.taking k hw]
        simp
      · have hk := (List.getElem?_eq_some_iff.1 hw).1
        exact Crew.duty_set_self (by simpa [Crew.passTurn, Crew.assign] using hk)
  stopped hs := ⟨release_of_stopped h hs hm hn, letGo_of_stopped h hs hm⟩

/-- The worker opens the session of a small pool, waits for a task, and a user takes the session. -/
def takenAway : List Move :=
  [.step (.worker 0), .step (.worker 0), .step (.worker 0), .step (.worker 0), .tryAcquire]

/-- A user gives back the only session while the worker waits for a task. -/
theorem release_agrees_waiting : ∃ x m, replay smallPool takenAway = some x ∧
    x.2.heldMember? 1 = some m ∧ x.2.pool.crew.stopped = false ∧ x.2.pool.crew.tasks = [] ∧
    x.2.pool.crew.workers[0]? = some .taking ∧ x.2.Agrees x.1 0 1 m := by
  obtain ⟨x, hx, hp, hr⟩ := Reachable.of_replay smallPool takenAway
    (fun x => (x.2.heldMember? 1).isSome ∧ Table.get? x.2.operations 0 = none ∧
      x.2.pool.crew.stopped = false ∧ x.2.pool.crew.tasks = [] ∧
      x.2.pool.crew.workers[0]? = some .taking) (by decide +kernel)
  obtain ⟨hm, hn, hs, ht, hw⟩ := of_decide_eq_true hp
  obtain ⟨m, hm⟩ := Option.isSome_iff_exists.1 hm
  exact ⟨x, m, hx, hm, hs, ht, hw, release_agrees hr hm hn⟩

def takenAndClosed : List (Instant × List Move) :=
  [(.ofTick 0, takenAway),
    (.ofTick 50, .close 0 :: [.user 0, .user 0, .worker 0, .ticker 0, .user 0, .user 0, .user 0,
      .user 0, .user 0].map .step)]

/-- **The time of a member is not counted** if its user lets go of it after the pool was closed. -/
theorem usage_missed : ∃ env s y z, Reachable env s ∧ s.pool.closed = true ∧
    (∀ party ∈ s.parties, (s.step env party).isNone) ∧
    moves? env s [.release 1 1, .step (.user 1), .step (.user 1)] = some y ∧
    moves? env s [.giveBack 1, .step (.closer 1)] = some z ∧
    y.2.pool.counters.usageMs = 50 ∧ z.2.pool.counters.usageMs = 0 := by
  obtain ⟨x, hp, hr⟩ := Reachable.of_timeline smallPool {} takenAndClosed
    (fun x => x.2.pool.closed ∧ (∀ party ∈ x.2.parties, (x.2.step x.1 party).isNone) ∧
      (moves? x.1 x.2 [.release 1 1, .step (.user 1), .step (.user 1)]).any
        (fun y => y.2.pool.counters.usageMs = 50) ∧
      (moves? x.1 x.2 [.giveBack 1, .step (.closer 1)]).any
        fun z => z.2.pool.counters.usageMs = 0) (by decide +kernel)
  obtain ⟨hc, hq, hy, hz⟩ := of_decide_eq_true hp
  obtain ⟨y, hy, uy⟩ := (Option.any_eq_true _ _).1 hy
  obtain ⟨z, hz, uz⟩ := (Option.any_eq_true _ _).1 hz
  exact ⟨x.1, x.2, y, z, hr, hc, hq, hy, hz, of_decide_eq_true uy, of_decide_eq_true uz⟩

end SessionPool.Site
