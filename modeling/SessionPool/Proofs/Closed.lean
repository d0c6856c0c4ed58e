import SessionPool.Proofs.Answer
import SessionPool.Proofs.Freeing

/-!
# Pools that were closed

A pool that was closed is empty, and nobody waits (`Site.Reachable.vacant`). It stays closed with
every move and never grows again (`Site.wanes_move`); whoever asks for something is told at once
that it is closed, and nothing else changes (`Operation.verdict?`). The requests that waited when it
was closed were answered that it is, and return that answer (`Site.TurnedAway`). All of it together
is `Site.closed_for_good`.
-/

set_option autoImplicit false

namespace SessionPool

theorem WaitQueue.reply?_failAll {α : Type} {q : WaitQueue α} (hs : q.Sound) {ticket : Nat}
    (hw : q.isWaiting ticket = true) (e : PoolError) :
    (q.failAll e).1.reply? ticket = some (.error e) := by
  obtain ⟨r, hr, rfl⟩ := List.mem_map.1 (isWaiting_iff.1 hw)
  refine Table.get?_of_mem (hs.failAll e).replies_nodup ?_
  rw [failAll_eq]
  refine List.mem_append_right _ (List.mem_map.2 ⟨r, ?_, rfl⟩)
  exact List.mem_filter.2 ⟨hr, hs.hears hr⟩

namespace Operation

/-- What an operation comes to with its first step if the pool is closed by then. -/
def verdict? : Operation → Option Outcome
  | acquire (.arriving _) | wait (.starting _) | check .starting => some (.failed .closed)
  | close .starting => some .done
  | acquire _ | release _ | misplace _ | wait _ | check _ | close _ => none

theorem step_of_closed {o : Operation} {outcome : Outcome} (hv : o.verdict? = some outcome)
    {p : Pool} (hc : p.closed = true) (env : Env) :
    o.step env p = some (env, p, .done outcome) := by
  cases o with
  | acquire a =>
    cases a with
    | arriving timeout =>
      cases hv
      have hs : p.spoiledByCheckout env.now = [] := by simp [Pool.spoiledByCheckout, hc]
      have hn : p.checkout env.now timeout = (p, .refused .closed) := by simp [Pool.checkout, hc]
      simp only [step, Acquiring.step, Acquiring.arrive, hs, Pool.noteExpired, List.foldl_nil, hn]
      rfl
    | queued | givingUp | calling | dialing | takingOver | countingFailure | vacating | failing =>
      cases hv
  | wait w =>
    cases w with
    | starting timeout =>
      cases hv
      simp only [step, Waiting.step, if_pos hc]
      rfl
    | waiting cutoff timeout => cases hv
  | check c =>
    cases c with
    | starting =>
      cases hv
      simp only [step, Checking.step, if_pos hc]
      rfl
    | counting | picking | probing | paused | judging => cases hv
  | close c =>
    cases c with
    | starting =>
      cases hv
      simp only [step, Closing.step, Closing.start, if_pos hc]
      rfl
    | stopping | joining | draining | emptying => cases hv
  | release _ | misplace _ => cases hv

end Operation

namespace Site

variable {env env' : Env} {s s' : Site} {mv : Move} {n : Nat}

/-! ## The closing -/

theorem pool_of_closing (hg : Table.get? s.operations n = some (.close .starting))
    (hc : s.pool.closed = false) (h : s.step env (.user n) = some (env', s')) :
    s'.pool = s.pool.shut.1 := by
  have hs : (Operation.close .starting).step env s.pool =
      some ((Closing.start env s.pool).1, s.pool.shut.1,
        .more (.close (.stopping s.pool.idle))) := by
    simp only [Operation.step, Closing.step, Closing.start, hc]
    rfl
  rw [stepUser_more hg hs] at h
  cases h
  rfl

theorem closing_cases (h : s.move? env mv = some (env', s')) (ho : s.pool.closed = false)
    (hc : s'.pool.closed = true) :
    s'.pool = s.pool.shut.1 ∧
      ∃ n, mv = .step (.user n) ∧ Table.get? s.operations n = some (.close .starting) := by
  rcases closed_move h with he | ⟨n, rfl, hg⟩
  · rw [he, ho] at hc
    cases hc
  · exact ⟨pool_of_closing hg ho h, n, rfl, hg⟩

/-- A pool that is closed has no unused members, and nobody waits. -/
def Vacated (s : Site) : Prop :=
  s.pool.closed = true → s.pool.idle = [] ∧ s.pool.waiting.requests = []

theorem Vacated.move (h : s.Vacated) (hm : s.move? env mv = some (env', s')) : s'.Vacated := by
  intro hc
  cases ho : s.pool.closed with
  | true =>
    obtain ⟨hi, hw⟩ := h ho
    have wanes := wanes_move hm ho
    exact ⟨wanes.idle hi, wanes.requests hw⟩
  | false =>
    rw [(closing_cases hm ho hc).1]
    exact ⟨rfl, s.pool.waiting.requests_failAll .closed⟩

/-- **A pool that was closed is empty**, and nobody waits. -/
theorem Reachable.vacant (h : Reachable env s) : s.Vacated := by
  induction h with
  | created h =>
    intro hc
    obtain ⟨p, -, -, -, -, ho, -, rfl⟩ := create_ok h
    rw [show (fill p).closed = p.closed from congrArg Pool.Terms.closed (handled_fill p).terms,
      ho] at hc
    cases hc
  | moved _ hm ih => exact ih.move hm

/-! ## Operations that find the pool closed -/

/-- What is said of an operation and is kept by all moves but its own steps can be said of it until
it makes one, if it is not given up. -/
theorem kept_until_step {P : Site → Prop}
    (hP : ∀ {env env' s s' mv}, Reachable env s → P s → s.move? env mv = some (env', s') →
      mv ≠ .step (.user n) → mv ≠ .cancel n → P s')
    (h : Reachable env s) (hp : P s) {mvs : List Move} (hm : moves? env s mvs = some (env', s'))
    (hc : .cancel n ∉ mvs) :
    P s' ∨ ∃ before after env₁ s₁, mvs = before ++ .step (.user n) :: after ∧
      moves? env s before = some (env₁, s₁) ∧ Reachable env₁ s₁ ∧ P s₁ := by
  induction mvs generalizing env s with
  | nil =>
    cases hm
    exact .inl hp
  | cons mv rest ih =>
    obtain ⟨⟨env₁, s₁⟩, hx, hm⟩ := Option.bind_eq_some_iff.1 hm
    obtain ⟨hne, hc⟩ := not_or.1 (mt List.mem_cons.2 hc)
    by_cases hu : mv = .step (.user n)
    · subst hu
      exact .inr ⟨[], rest, env, s, rfl, rfl, h, hp⟩
    · refine (ih (h.moved hx) (hP h hp hx hu fun e => hne e.symm) hm hc).imp_right ?_
      rintro ⟨before, after, env₂, s₂, rfl, hb, hr, hp⟩
      exact ⟨mv :: before, after, env₂, s₂, rfl, Option.bind_eq_some_iff.2 ⟨_, hx, hb⟩, hr, hp⟩

theorem step_of_verdict (env : Env) {o : Operation} {outcome : Outcome}
    (hg : Table.get? s.operations n = some o) (hv : o.verdict? = some outcome)
    (hc : s.pool.closed = true) :
    s.step env (.user n) = some (env, s.conclude n outcome) :=
  stepUser_done hg (Operation.step_of_closed hv hc env)

theorem verdict_moves (h : Reachable env s) {o : Operation} {outcome : Outcome}
    (hg : Table.get? s.operations n = some o) (hv : o.verdict? = some outcome)
    (hc : s.pool.closed = true) {mvs : List Move} (hm : moves? env s mvs = some (env', s'))
    (hn : .cancel n ∉ mvs) :
    Table.get? s'.operations n = some o ∨
    ∃ before after env₁ s₁, mvs = before ++ .step (.user n) :: after ∧
      moves? env s before = some (env₁, s₁) ∧
      s₁.step env₁ (.user n) = some (env₁, s₁.conclude n outcome) := by
  have kept : ∀ {env env' s s' mv}, Reachable env s →
      s.pool.closed = true ∧ Table.get? s.operations n = some o →
      s.move? env mv = some (env', s') → mv ≠ .step (.user n) → mv ≠ .cancel n →
      s'.pool.closed = true ∧ Table.get? s'.operations n = some o :=
    fun _ hp hm hs hc => ⟨(wanes_move hm hp.1).closed, operation_move hm hp.2 hs hc⟩
  rcases kept_until_step kept h ⟨hc, hg⟩ hm hn with
    ⟨-, hg⟩ | ⟨before, after, env₁, s₁, he, hb, -, hc, hg⟩
  · exact .inl hg
  · exact .inr ⟨before, after, env₁, s₁, he, hb, step_of_verdict env₁ hg hv hc⟩

/-! ## Requests that waited -/

theorem Resolved.returns_closed (env : Env) (hr : s.Resolved n (.error .closed))
    (hs : s.pool.waiting.Sound) :
    ∃ env' s', s.Returns env n (.error .closed) env' s' := by
  obtain ⟨a, t, hg, ht, hr⟩ := hr
  have ha := step_of_reply env hs ht hr
  have ho : (Operation.acquire a).step env s.pool =
      some (env, s.pool.collectReply t, .done (.failed .closed)) := congrArg (Option.map _) ha
  exact ⟨_, _, stepUser_done hg ho, rfl⟩

/-- The requests that wait in `s` have been told in `s'` that the pool was closed, and return that
whatever happens meanwhile, unless they are given up. -/
def TurnedAway (s : Site) (env' : Env) (s' : Site) : Prop :=
  ∀ n a t, Table.get? s.operations n = some (.acquire a) → a.ticket? = some t →
    s.pool.waiting.isWaiting t = true →
    s'.Resolved n (.error .closed) ∧
    ∀ mvs env'' s'', moves? env' s' mvs = some (env'', s'') → .cancel n ∉ mvs →
      s''.Resolved n (.error .closed) ∨
      ∃ before after env₁ s₁ env₂ s₂, mvs = before ++ .step (.user n) :: after ∧
        moves? env' s' before = some (env₁, s₁) ∧
        s₁.Returns env₁ n (.error .closed) env₂ s₂

theorem turnedAway_of_closing (h : Reachable env s) (hm : s.move? env mv = some (env', s'))
    (ho : s.pool.closed = false) (hc : s'.pool.closed = true) : s.TurnedAway env' s' := by
  intro n a t hg ht hw
  obtain ⟨hp, k, rfl, hk⟩ := closing_cases hm ho hc
  have hne : n ≠ k := fun e => by
    rw [e, hk] at hg
    cases hg
  have hg' := operation_move hm hg (fun e => hne (by cases e; rfl)) (fun e => by cases e)
  have hr : s'.Resolved n (.error .closed) := by
    refine ⟨a, t, hg', ht, ?_⟩
    rw [hp]
    exact WaitQueue.reply?_failAll h.balanced.sound hw .closed
  refine ⟨hr, fun mvs env'' s'' hms hn => ?_⟩
  have kept : ∀ {env env' s s' mv}, Reachable env s → s.Resolved n (.error .closed) →
      s.move? env mv = some (env', s') → mv ≠ .step (.user n) → mv ≠ .cancel n →
      s'.Resolved n (.error .closed) := fun h hr hm hs hc => hr.move h hm hs hc
  rcases kept_until_step kept (h.moved hm) hr hms hn with
    hr | ⟨before, after, env₁, s₁, he, hb, h₁, hr⟩
  · exact .inl hr
  · obtain ⟨env₂, s₂, hr⟩ := hr.returns_closed env₁ h₁.balanced.sound
    exact .inr ⟨before, after, env₁, s₁, env₂, s₂, he, hb, hr⟩

/-! ## The whole -/

/-- A pool that was closed stays closed and empty, and turns everybody away. -/
structure ClosedForGood (env : Env) (s : Site) : Prop where
  idle : s.pool.idle = []
  requests : s.pool.waiting.requests = []
  /-- It stays closed with every move, and neither grows nor has a session opened. -/
  wanes : ∀ mv env' s', s.move? env mv = some (env', s') → s.pool.Wanes s'.pool
  /-- Whoever asks for something is told with the next step that the pool is closed, and closing it
  once more is done with the next step; nothing else changes with that. -/
  verdict : ∀ n o outcome, Table.get? s.operations n = some o → o.verdict? = some outcome →
    s.step env (.user n) = some (env, s.conclude n outcome)
  /-- That holds whatever is done before that step. -/
  faithful : ∀ n o outcome mvs env' s', Table.get? s.operations n = some o →
    o.verdict? = some outcome → moves? env s mvs = some (env', s') → .cancel n ∉ mvs →
    Table.get? s'.operations n = some o ∨
    ∃ before after env₁ s₁, mvs = before ++ .step (.user n) :: after ∧
      moves? env s before = some (env₁, s₁) ∧
      s₁.step env₁ (.user n) = some (env₁, s₁.conclude n outcome)
  tryAcquire : s.tryAcquire env = (env, s, .error .closed)
  resize : ∀ lo hi sizes, PoolSettings.checkSize s.pool.settings.kind lo hi = .ok sizes →
    s.resize env lo hi = (env, s, .error .closed)

theorem tryAcquire_of_closed (env : Env) (hc : s.pool.closed = true) :
    s.tryAcquire env = (env, s, .error .closed) := by
  have hs : s.pool.spoiledByTry env.now = [] := by simp [Pool.spoiledByTry, hc]
  have ht : s.pool.tryTake env.now = (s.pool, .error .closed) := by simp [Pool.tryTake, hc]
  simp only [Site.tryAcquire, hs, Pool.noteExpired, List.foldl_nil, ht]

theorem resize_of_closed (env : Env) (hc : s.pool.closed = true) {lo : Nat} {hi : Option Nat}
    {sizes : Nat × Option Nat}
    (hs : PoolSettings.checkSize s.pool.settings.kind lo hi = .ok sizes) :
    s.resize env lo hi = (env, s, .error .closed) := by
  have hr : s.pool.resize lo hi = .error .closed := by simp [Pool.resize, hs, hc]
  rw [Site.resize, hr]

/-- **A pool is closed for good**, and the requests that waited when it was closed are turned
away. -/
theorem closed_for_good :
    (∀ {env s}, Reachable env s → s.pool.closed = true → s.ClosedForGood env) ∧
    ∀ {env env' s s' mv}, Reachable env s → s.pool.closed = false →
      s.move? env mv = some (env', s') → s'.pool.closed = true → s.TurnedAway env' s' := by
  refine ⟨fun {env s} h hc => ?_, fun h ho hm hc => turnedAway_of_closing h hm ho hc⟩
  obtain ⟨idle, requests⟩ := h.vacant hc
  exact {
    idle
    requests
    wanes := fun mv env' s' hm => wanes_move hm hc
    verdict := fun n o outcome hg hv => step_of_verdict env hg hv hc
    faithful := fun n o outcome mvs env' s' hg hv hm hn => verdict_moves h hg hv hc hm hn
    tryAcquire := tryAcquire_of_closed env hc
    resize := fun lo hi sizes hs => resize_of_closed env hc hs }

theorem closed_for_good_waiting :
    ∃ x env s, replay smallPool (twoRequests ++ [.close 2]) = some x ∧
      x.2.pool.waiting.length = 2 ∧ x.2.pool.closed = false ∧
      x.2.move? x.1 (.step (.user 2)) = some (env, s) ∧ s.pool.closed = true ∧
      s.ClosedForGood env ∧ x.2.TurnedAway env s := by
  obtain ⟨x, hx, hp, hr⟩ := Reachable.of_replay smallPool (twoRequests ++ [.close 2])
    (fun x => x.2.pool.waiting.length = 2 ∧ x.2.pool.closed = false ∧
      (x.2.move? x.1 (.step (.user 2))).any fun y => y.2.pool.closed) (by decide +kernel)
  obtain ⟨hw, ho, hp⟩ := of_decide_eq_true hp
  obtain ⟨⟨env, s⟩, hm, hc⟩ := (Option.any_eq_true _ _).1 hp
  exact ⟨x, env, s, hx, hw, ho, hm, hc, closed_for_good.1 (hr.moved hm) hc,
    closed_for_good.2 hr ho hm hc⟩

end Site

end SessionPool
