import Mathlib.Data.List.Nodup
import SessionPool.Pool.Site
import SessionPool.Proofs.Clock
import SessionPool.Proofs.Table

/-!
# Moves

A move (`Site.Move`) is what may happen to a pool next: a party makes its next step, a user starts
an operation or gives a suspended one up, a user does what takes one step only, or time passes.
`Site.moved` says once what each of them does, so that what a move keeps is proved by cases on
`Site.Moved`; `Operation.goesOn` and `Job.goesOn` say what a step that is not the last leads to.
-/

set_option autoImplicit false

namespace SessionPool

/-! ## Steps that are not the last -/

section

variable {env env' : Env} {p q : Pool}

/-- A job goes on as one of the same kind. -/
inductive Job.GoesOn (env : Env) (p : Pool) (env' : Env) (q : Pool) : Job → Job → Prop
  | adding {a a' : Adding} (h : a.step env p = some (env', q, .more a')) :
      GoesOn env p env' q (.adding a) (.adding a')
  | returning {r r' : Returning} (h : r.step env p = some (env', q, .more r')) :
      GoesOn env p env' q (.returning r) (.returning r')

theorem Job.goesOn {j j' : Job} (h : j.step env p = some (env', q, .more j')) :
    GoesOn env p env' q j j' := by
  cases j with
  | adding a =>
    obtain ⟨⟨env₁, p₁, next⟩, hs, he⟩ := Option.map_eq_some_iff.1 h
    cases next <;> cases he
    exact .adding hs
  | returning r =>
    obtain ⟨⟨env₁, p₁, next⟩, hs, he⟩ := Option.map_eq_some_iff.1 h
    cases next <;> cases he
    exact .returning hs
  | closing | maintaining => cases h

inductive Operation.GoesOn (env : Env) (p : Pool) (env' : Env) (q : Pool) :
    Operation → Operation → Prop
  | acquire {a a' : Acquiring} (h : a.step env p = some (env', q, .more a')) :
      GoesOn env p env' q (.acquire a) (.acquire a')
  | release {r r' : Returning} (h : r.step env p = some (env', q, .more r')) :
      GoesOn env p env' q (.release r) (.release r')
  | wait {w w' : Waiting} (h : w.step env p = some (env', q, .more w')) :
      GoesOn env p env' q (.wait w) (.wait w')
  | check {c c' : Checking} (h : c.step env p = some (env', q, .more c')) :
      GoesOn env p env' q (.check c) (.check c')
  | close {c c' : Closing} (h : c.step env p = some (env', q, .more c')) :
      GoesOn env p env' q (.close c) (.close c')

theorem Operation.goesOn {o o' : Operation} (h : o.step env p = some (env', q, .more o')) :
    GoesOn env p env' q o o' := by
  cases o with
  | misplace m => cases h
  | acquire | release | wait | check | close =>
    obtain ⟨⟨env₁, p₁, next⟩, hs, he⟩ := Option.map_eq_some_iff.1 h
    cases next <;> cases he
    constructor
    exact hs

end

namespace Site

/-! ## Moves -/

/-- What may happen to a pool next. Operations have numbers, members that users hold have theirs. -/
inductive Move
  | step (party : Party)
  | acquire (number : Nat) (timeout : Duration)
  | wait (number : Nat) (timeout : Duration)
  | check (number : Nat)
  | close (number : Nat)
  | release (number id : Nat)
  /-- A member is given back to a pool that it does not belong to. -/
  | misplace (number id : Nat)
  /-- A suspended operation is given up. -/
  | cancel (number : Nat)
  | tryAcquire
  | giveBack (id : Nat)
  | leaveBehind (id : Nat)
  | detach (id : Nat)
  /-- The user of a member does something to its session. -/
  | use (id : Nat) (session : Session)
  | resize (minSize : Nat) (maxSize : Option Nat)
  | resetCounters
  | readOutcome (number : Nat)
  /-- Time passes, and the surroundings change. -/
  | pass (env : Env)

def begin? (s : Site) (number : Nat) (o : Operation) : Option Site :=
  if (Table.get? s.operations number).isSome then none else some (s.start number o)

def beginWith? (s : Site) (number id : Nat) (o : Member → Operation) : Option Site :=
  (s.heldMember? id).bind fun m => (s.letGo id).begin? number (o m)

def cancel? (env : Env) (s : Site) (number : Nat) : Option (Env × Site) :=
  if (Table.get? s.operations number).any Operation.isSuspended then some (s.cancel env number)
  else none

/-- What a move leads to; there is nothing if it cannot be made. -/
def move? (env : Env) (s : Site) : Move → Option (Env × Site)
  | .step party => s.step env party
  | .acquire number timeout =>
    (s.begin? number (.acquire (.arriving timeout))).map fun s => (env, s)
  | .wait number timeout => (s.begin? number (.wait (.starting timeout))).map fun s => (env, s)
  | .check number => (s.begin? number (.check .starting)).map fun s => (env, s)
  | .close number => (s.begin? number (.close .starting)).map fun s => (env, s)
  | .release number id =>
    (s.beginWith? number id fun m => .release (.arriving m)).map fun s => (env, s)
  | .misplace number id => (s.beginWith? number id .misplace).map fun s => (env, s)
  | .cancel number => s.cancel? env number
  | .tryAcquire => some ((s.tryAcquire env).1, (s.tryAcquire env).2.1)
  | .giveBack id => some (env, s.giveBack id)
  | .leaveBehind id => some (env, s.leaveBehind id)
  | .detach id => some ((s.detach env id).1, (s.detach env id).2.1)
  | .use id session => some (env, s.setSession id session)
  | .resize minSize maxSize =>
    some ((s.resize env minSize maxSize).1, (s.resize env minSize maxSize).2.1)
  | .resetCounters => some (env, { s with pool := s.pool.resetCounters })
  | .readOutcome number => some (env, { s with outcomes := Table.remove s.outcomes number })
  | .pass env' => if env.now ≤ env'.now then some (env', s) else none

/-- What a move does: who acts, what is done to the pool, and what becomes of the party. -/
inductive Moved (env : Env) (s : Site) : Move → Env → Site → Prop
  /-- A worker goes on with its job. -/
  | worked {k : Nat} {j j' : Job} {env' : Env} {q : Pool} (hg : Table.get? s.jobs k = some j)
      (hs : j.step env s.pool = some (env', q, .more j')) :
      Moved env s (.step (.worker k)) env' { s with pool := q, jobs := Table.put s.jobs k j' }
  | finished {k : Nat} {j : Job} {env' : Env} {q : Pool} (hg : Table.get? s.jobs k = some j)
      (hs : j.step env s.pool = some (env', q, .done ())) :
      Moved env s (.step (.worker k)) env'
        { s with pool := { q with crew := q.crew.finish k }, jobs := Table.remove s.jobs k }
  /-- A worker looks for a task in vain. -/
  | sought {k : Nat} {c : Crew (Task Member)} (hg : Table.get? s.jobs k = none)
      (hs : s.pool.crew.seek k true = some (c, none)) :
      Moved env s (.step (.worker k)) env { s with pool := { s.pool with crew := c } }
  /-- A worker takes a task. -/
  | took {k : Nat} {c : Crew (Task Member)} {t : Task Member} (hg : Table.get? s.jobs k = none)
      (hs : s.pool.crew.seek k true = some (c, some t)) :
      Moved env s (.step (.worker k)) env
        { s with pool := { s.pool with crew := c }, jobs := Table.put s.jobs k (.start s.pool t) }
  | ticked {j : Nat} {env' : Env} {c : Crew (Task Member)}
      (h : s.pool.crew.tick env j .maintain = some (env', c)) :
      Moved env s (.step (.ticker j)) env' { s with pool := { s.pool with crew := c } }
  /-- A member that the pool has given up is closed. -/
  | closed {id : Nat} {m : Member} (h : s.pool.leaving.find? (fun m => m.id = id) = some m) :
      Moved env s (.step (.closer id)) (m.close env) { s with pool := { s.pool with
        leaving := s.pool.leaving.filter fun m => !decide (m.id = id) } }
  | wentOn {n : Nat} {o o' : Operation} {env' : Env} {q : Pool}
      (hg : Table.get? s.operations n = some o)
      (hs : o.step env s.pool = some (env', q, .more o')) :
      Moved env s (.step (.user n)) env'
        { s with pool := q, operations := Table.update s.operations n o' }
  /-- An operation comes to its end. -/
  | ended {n : Nat} {o : Operation} {env' : Env} {q : Pool} {outcome : Outcome}
      (hg : Table.get? s.operations n = some o)
      (hs : o.step env s.pool = some (env', q, .done outcome)) :
      Moved env s (.step (.user n)) env' ({ s with pool := q }.conclude n outcome)
  | acquire {n : Nat} {timeout : Duration} (hn : Table.get? s.operations n = none) :
      Moved env s (.acquire n timeout) env (s.start n (.acquire (.arriving timeout)))
  | wait {n : Nat} {timeout : Duration} (hn : Table.get? s.operations n = none) :
      Moved env s (.wait n timeout) env (s.start n (.wait (.starting timeout)))
  | check {n : Nat} (hn : Table.get? s.operations n = none) :
      Moved env s (.check n) env (s.start n (.check .starting))
  | close {n : Nat} (hn : Table.get? s.operations n = none) :
      Moved env s (.close n) env (s.start n (.close .starting))
  | release {n id : Nat} {m : Member} (hm : s.heldMember? id = some m)
      (hn : Table.get? s.operations n = none) :
      Moved env s (.release n id) env ((s.letGo id).start n (.release (.arriving m)))
  | misplace {n id : Nat} {m : Member} (hm : s.heldMember? id = some m)
      (hn : Table.get? s.operations n = none) :
      Moved env s (.misplace n id) env ((s.letGo id).start n (.misplace m))
  | cancelled {n : Nat} {o : Operation} (hg : Table.get? s.operations n = some o)
      (hs : o.isSuspended = true) :
      Moved env s (.cancel n) (o.cancel env s.pool).1
        { s with pool := (o.cancel env s.pool).2, operations := Table.remove s.operations n }
  /-- A request that does not wait is served. -/
  | taken {q : Pool} {m : Member} (h : s.pool.tryTake env.now = (q, .ok (some m))) :
      Moved env s .tryAcquire (s.pool.noteExpired env (s.pool.spoiledByTry env.now))
        { s with pool := q, held := s.held ++ [m.handOut env.now] }
  /-- A request that does not wait gets nothing. -/
  | untaken {q : Pool} {r : Except PoolError (Option Member)}
      (h : s.pool.tryTake env.now = (q, r)) (hr : ∀ m, r ≠ .ok (some m)) :
      Moved env s .tryAcquire (s.pool.noteExpired env (s.pool.spoiledByTry env.now))
        { s with pool := q }
  | giveBack {id : Nat} {m : Member} (hm : s.heldMember? id = some m) :
      Moved env s (.giveBack id) env { s.letGo id with pool := s.pool.returnLater m }
  | leaveBehind {id : Nat} {m : Member} {c : Crew (Task Member)}
      (hm : s.heldMember? id = some m) (hd : s.pool.crew.dispatch (.restore m) = (c, none)) :
      Moved env s (.leaveBehind id) env { s.letGo id with pool := { s.pool with crew := c } }
  /-- There is no crew any more that could take the member back. -/
  | abandoned {id : Nat} {m : Member} {c : Crew (Task Member)} {t : Task Member}
      (hm : s.heldMember? id = some m) (hd : s.pool.crew.dispatch (.restore m) = (c, some t)) :
      Moved env s (.leaveBehind id) env { s.letGo id with pool := s.pool.drop 1 }
  | detach {id : Nat} {m : Member} (hm : s.heldMember? id = some m) :
      Moved env s (.detach id) (s.pool.noteOn env m .debug "connection detached from pool" [])
        { s.letGo id with pool := s.pool.forget }
  /-- Nobody holds the member that is to be given away. -/
  | unheld {mv : Move} {id : Nat} (hv : mv = .giveBack id ∨ mv = .leaveBehind id ∨ mv = .detach id)
      (hm : s.heldMember? id = none) : Moved env s mv env s
  | use {id : Nat} {session : Session} : Moved env s (.use id session) env (s.setSession id session)
  | resized {lo : Nat} {hi : Option Nat} {q : Pool} (h : s.pool.resize lo hi = .ok q) :
      Moved env s (.resize lo hi)
        (q.note env .info "pool resized"
          [("max", Text.shownOption (q.maxSize.map toString)), ("min", toString q.minSize)])
        { s with pool := q }
  | unsized {lo : Nat} {hi : Option Nat} {e : PoolError} (h : s.pool.resize lo hi = .error e) :
      Moved env s (.resize lo hi) env s
  | resetCounters : Moved env s .resetCounters env { s with pool := s.pool.resetCounters }
  | readOutcome {n : Nat} :
      Moved env s (.readOutcome n) env { s with outcomes := Table.remove s.outcomes n }
  | passed {env' : Env} (h : env.now ≤ env'.now) : Moved env s (.pass env') env' s

variable {env env' : Env} {s s' : Site}

theorem begin?_some {n : Nat} {o : Operation} (h : s.begin? n o = some s') :
    Table.get? s.operations n = none ∧ s' = s.start n o := by
  unfold begin? at h
  split at h
  · cases h
  · rename_i hn
    exact ⟨by simpa using hn, (Option.some.inj h).symm⟩

theorem begin?_map {n : Nat} {o : Operation}
    (h : (s.begin? n o).map (fun s => (env, s)) = some (env', s')) :
    env' = env ∧ Table.get? s.operations n = none ∧ s' = s.start n o := by
  obtain ⟨t, hb, he⟩ := Option.map_eq_some_iff.1 h
  cases he
  exact ⟨rfl, begin?_some hb⟩

theorem beginWith?_map {n id : Nat} {o : Member → Operation}
    (h : (s.beginWith? n id o).map (fun s => (env, s)) = some (env', s')) :
    env' = env ∧ ∃ m, s.heldMember? id = some m ∧ Table.get? s.operations n = none ∧
      s' = (s.letGo id).start n (o m) := by
  obtain ⟨t, hb, he⟩ := Option.map_eq_some_iff.1 h
  cases he
  obtain ⟨m, hm, hb⟩ := Option.bind_eq_some_iff.1 hb
  obtain ⟨hn, ht⟩ := begin?_some hb
  exact ⟨rfl, m, hm, hn, ht⟩

theorem moved_stepWorker {k : Nat} (h : s.stepWorker env k = some (env', s')) :
    Moved env s (.step (.worker k)) env' s' := by
  unfold stepWorker at h
  split at h
  · rename_i j hg
    obtain ⟨⟨env₁, q, next⟩, hs, he⟩ := Option.map_eq_some_iff.1 h
    cases next <;> cases he
    · exact .worked hg hs
    · exact .finished hg hs
  · rename_i hg
    obtain ⟨⟨c, t⟩, hs, he⟩ := Option.map_eq_some_iff.1 h
    cases t <;> cases he
    · exact .sought hg hs
    · exact .took hg hs

theorem moved_stepUser {n : Nat} (h : s.stepUser env n = some (env', s')) :
    Moved env s (.step (.user n)) env' s' := by
  obtain ⟨o, hg, h⟩ := Option.bind_eq_some_iff.1 h
  obtain ⟨⟨env₁, q, next⟩, hs, he⟩ := Option.map_eq_some_iff.1 h
  cases next <;> cases he
  · exact .wentOn hg hs
  · exact .ended hg hs

theorem moved_cancel {n : Nat} (h : s.cancel? env n = some (env', s')) :
    Moved env s (.cancel n) env' s' := by
  simp only [cancel?, Option.ite_none_right_eq_some, Option.some.injEq] at h
  obtain ⟨hs, h⟩ := h
  obtain ⟨o, hg, hs⟩ := (Option.any_eq_true _ _).1 hs
  unfold cancel at h
  rw [hg] at h
  cases h
  exact .cancelled hg hs

theorem moved_tryAcquire : Moved env s .tryAcquire (s.tryAcquire env).1 (s.tryAcquire env).2.1 := by
  have hn : (s.pool.noteExpired env (s.pool.spoiledByTry env.now)).now = env.now := by simp
  unfold tryAcquire
  dsimp only
  split <;> rename_i ht <;> rw [hn] at ht
  · exact .untaken ht (by simp)
  · exact .untaken ht (by simp)
  · rw [hn]
    exact .taken ht

theorem moved_leaveBehind (id : Nat) : Moved env s (.leaveBehind id) env (s.leaveBehind id) := by
  unfold leaveBehind
  split
  · rename_i m hm
    split
    · rename_i hd
      exact .leaveBehind hm hd
    · rename_i hd
      exact .abandoned hm hd
  · rename_i hm
    exact .unheld (.inr (.inl rfl)) hm

/-- **What a move does.** -/
theorem moved {mv : Move} (h : s.move? env mv = some (env', s')) : Moved env s mv env' s' := by
  cases mv with
  | step party =>
    cases party with
    | worker k => exact moved_stepWorker h
    | ticker j =>
      obtain ⟨⟨env₁, c⟩, ht, he⟩ := Option.map_eq_some_iff.1 h
      cases he
      exact .ticked ht
    | closer id =>
      obtain ⟨m, hm, he⟩ := Option.map_eq_some_iff.1 h
      cases he
      exact .closed hm
    | user n => exact moved_stepUser h
  | acquire n timeout =>
    obtain ⟨rfl, hn, rfl⟩ := begin?_map h
    exact .acquire hn
  | wait n timeout =>
    obtain ⟨rfl, hn, rfl⟩ := begin?_map h
    exact .wait hn
  | check n =>
    obtain ⟨rfl, hn, rfl⟩ := begin?_map h
    exact .check hn
  | close n =>
    obtain ⟨rfl, hn, rfl⟩ := begin?_map h
    exact .close hn
  | release n id =>
    obtain ⟨rfl, m, hm, hn, rfl⟩ := beginWith?_map h
    exact .release hm hn
  | misplace n id =>
    obtain ⟨rfl, m, hm, hn, rfl⟩ := beginWith?_map h
    exact .misplace hm hn
  | cancel n => exact moved_cancel h
  | tryAcquire =>
    cases h
    exact moved_tryAcquire
  | giveBack id =>
    cases h
    unfold giveBack
    split
    · rename_i m hm
      exact .giveBack hm
    · rename_i hm
      exact .unheld (.inl rfl) hm
  | leaveBehind id =>
    cases h
    exact moved_leaveBehind id
  | detach id =>
    cases h
    unfold detach
    split
    · rename_i m hm
      exact .detach hm
    · rename_i hm
      exact .unheld (.inr (.inr rfl)) hm
  | use id session =>
    cases h
    exact .use
  | resize lo hi =>
    cases h
    unfold resize
    split
    · rename_i hq
      exact .unsized hq
    · rename_i hq
      exact .resized hq
  | resetCounters =>
    cases h
    exact .resetCounters
  | readOutcome n =>
    cases h
    exact .readOutcome
  | pass e =>
    simp only [move?, Option.ite_none_right_eq_some, Option.some.injEq] at h
    obtain ⟨ht, he⟩ := h
    cases he
    exact .passed ht

/-! ## Numbers of jobs and operations -/

/-- Jobs and operations have different numbers. -/
structure Keyed (s : Site) : Prop where
  jobs : (Table.keys s.jobs).Nodup
  operations : (Table.keys s.operations).Nodup

namespace Keyed

theorem start (hk : s.Keyed) {n : Nat} (hn : Table.get? s.operations n = none) (o : Operation) :
    (s.start n o).Keyed where
  jobs := hk.jobs
  operations := by
    have ho : Table.keys (s.start n o).operations = Table.keys s.operations ++ [n] := by
      simp [Site.start, Table.keys]
    rw [ho]
    refine List.nodup_append.2 ⟨hk.operations, List.nodup_singleton n, ?_⟩
    rintro k hk' _ hn' rfl
    exact Table.get?_eq_none_iff.1 hn (List.mem_singleton.1 hn' ▸ hk')

theorem letGo (hk : s.Keyed) (id : Nat) : (s.letGo id).Keyed := ⟨hk.jobs, hk.operations⟩

theorem move (hk : s.Keyed) {mv : Move} (h : s.move? env mv = some (env', s')) : s'.Keyed := by
  cases moved h with
  | worked | took => exact ⟨Table.keys_put_nodup hk.jobs _ _, hk.operations⟩
  | finished => exact ⟨Table.keys_remove_nodup hk.jobs _, hk.operations⟩
  | wentOn =>
    refine ⟨hk.jobs, ?_⟩
    rw [Table.keys_update]
    exact hk.operations
  | ended | cancelled => exact ⟨hk.jobs, Table.keys_remove_nodup hk.operations _⟩
  | acquire hn | wait hn | check hn | close hn => exact hk.start hn _
  | release _ hn | misplace _ hn => exact (hk.letGo _).start hn _
  | sought | ticked | closed | taken | untaken | giveBack | leaveBehind | abandoned | detach
  | unheld | use | resized | unsized | resetCounters | readOutcome | passed =>
    exact ⟨hk.jobs, hk.operations⟩

end Keyed

/-! ## Operations -/

def isNew : Operation → Bool
  | .acquire (.arriving _) | .release (.arriving _) | .misplace _ | .wait (.starting _)
  | .check .starting | .close .starting => true
  | .acquire _ | .release _ | .wait _ | .check _ | .close _ => false

/-- An operation was there before a move, or it has made a step with the move, or it is new. -/
theorem operation_origin (hk : s.Keyed) {mv : Move} (h : s.move? env mv = some (env', s')) {n : Nat}
    {o : Operation} (ho : Table.get? s'.operations n = some o) :
    Table.get? s.operations n = some o ∨
    (∃ o₀, mv = .step (.user n) ∧ Table.get? s.operations n = some o₀ ∧
      o₀.step env s.pool = some (env', s'.pool, .more o)) ∨
    isNew o = true := by
  have begun {k : Nat} {new : Operation} (hn : isNew new = true)
      (ho : Table.get? (s.operations ++ [(k, new)]) n = some o) :
      Table.get? s.operations n = some o ∨
      (∃ o₀, mv = .step (.user n) ∧ Table.get? s.operations n = some o₀ ∧
        o₀.step env s.pool = some (env', s'.pool, .more o)) ∨ isNew o = true := by
    rcases Table.get?_append_cases hk.operations ho with ho | rfl
    · exact .inl ho
    · exact .inr (.inr hn)
  cases moved h with
  | wentOn hg hs =>
    rcases Table.get?_update_cases hk.operations ho with ho | ⟨rfl, rfl⟩
    · exact .inl ho
    · exact .inr (.inl ⟨_, rfl, hg, hs⟩)
  | ended | cancelled => exact .inl (Table.get?_of_get?_remove hk.operations ho)
  | acquire | wait | check | close | release | misplace => exact begun rfl ho
  | worked | finished | sought | took | ticked | closed | taken | untaken | giveBack | leaveBehind
  | abandoned | detach | unheld | use | resized | unsized | resetCounters | readOutcome | passed =>
    exact .inl ho

theorem operation_cases (hk : s.Keyed) {mv : Move} (h : s.move? env mv = some (env', s')) {n : Nat}
    {o : Operation} (ho : Table.get? s'.operations n = some o) :
    Table.get? s.operations n = some o ∨
    (∃ o₀, Table.get? s.operations n = some o₀ ∧
      o₀.step env s.pool = some (env', s'.pool, .more o)) ∨
    isNew o = true := by
  rcases operation_origin hk h ho with hg | ⟨o₀, -, hg, hs⟩ | hn
  · exact .inl hg
  · exact .inr (.inl ⟨o₀, hg, hs⟩)
  · exact .inr (.inr hn)

/-- Nobody but its user has anything to do with an operation. -/
theorem operation_move {mv : Move} (h : s.move? env mv = some (env', s')) {n : Nat} {o : Operation}
    (ho : Table.get? s.operations n = some o) (hs : mv ≠ .step (.user n)) (hc : mv ≠ .cancel n) :
    Table.get? s'.operations n = some o := by
  cases moved h with
  | @wentOn k _ _ _ _ _ _ =>
    have hne : n ≠ k := fun e => hs (e ▸ rfl)
    exact (Table.get?_update_of_ne hne _).trans ho
  | @ended k _ _ _ _ _ _ =>
    have hne : n ≠ k := fun e => hs (e ▸ rfl)
    exact (Table.get?_filter_ne _ k n hne).trans ho
  | @cancelled k _ _ _ =>
    have hne : n ≠ k := fun e => hc (e ▸ rfl)
    exact (Table.get?_filter_ne _ k n hne).trans ho
  | acquire | wait | check | close | release | misplace => exact Table.get?_append_of_some ho
  | worked | finished | sought | took | ticked | closed | taken | untaken | giveBack | leaveBehind
  | abandoned | detach | unheld | use | resized | unsized | resetCounters | readOutcome | passed =>
    exact ho

/-! ## Jobs -/

/-- A job was there before a move, or it has made a step with the move, or its worker has just taken
the task. -/
theorem job_origin (hk : s.Keyed) {mv : Move} (h : s.move? env mv = some (env', s')) {k : Nat}
    {j : Job} (hj : Table.get? s'.jobs k = some j) :
    Table.get? s.jobs k = some j ∨
    (∃ j₀, mv = .step (.worker k) ∧ Table.get? s.jobs k = some j₀ ∧
      j₀.step env s.pool = some (env', s'.pool, .more j)) ∨
    ∃ c t, mv = .step (.worker k) ∧ s.pool.crew.seek k true = some (c, some t) ∧
      j = .start s.pool t := by
  cases moved h with
  | worked hg hs =>
    rw [Table.get?_put] at hj
    split at hj
    · rename_i hk'
      subst hk'
      cases hj
      exact .inr (.inl ⟨_, rfl, hg, hs⟩)
    · exact .inl hj
  | finished => exact .inl (Table.get?_of_get?_remove hk.jobs hj)
  | took _ hs =>
    rw [Table.get?_put] at hj
    split at hj
    · rename_i hk'
      subst hk'
      cases hj
      exact .inr (.inr ⟨_, _, rfl, hs, rfl⟩)
    · exact .inl hj
  | sought | ticked | closed | wentOn | ended | acquire | wait | check | close | release | misplace
  | cancelled | taken | untaken | giveBack | leaveBehind | abandoned | detach | unheld | use
  | resized | unsized | resetCounters | readOutcome | passed => exact .inl hj

theorem job_move {mv : Move} (h : s.move? env mv = some (env', s')) {k : Nat} {j : Job}
    (hj : Table.get? s.jobs k = some j) (hs : mv ≠ .step (.worker k)) :
    Table.get? s'.jobs k = some j := by
  cases moved h with
  | @worked k' _ _ _ _ _ _ | @took k' _ _ _ _ =>
    have hne : k' ≠ k := fun e => hs (e ▸ rfl)
    rwa [Table.get?_put, if_neg hne]
  | @finished k' _ _ _ _ _ =>
    have hne : k ≠ k' := fun e => hs (e ▸ rfl)
    exact (Table.get?_filter_ne _ k' k hne).trans hj
  | sought | ticked | closed | wentOn | ended | acquire | wait | check | close | release | misplace
  | cancelled | taken | untaken | giveBack | leaveBehind | abandoned | detach | unheld | use
  | resized | unsized | resetCounters | readOutcome | passed => exact hj

end Site

end SessionPool
