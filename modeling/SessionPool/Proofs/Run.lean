import SessionPool.Proofs.Act

/-!
# Runs

A run (`Site.Run`) starts with the opening of a pool and goes on with any moves in any order. In
every state that a run comes to, the books of the pool balance with what the parties have in hand
(`Site.Reachable.balanced`).
-/

set_option autoImplicit false

namespace SessionPool

namespace Pool

/-- Nothing has been entered in the books yet. -/
structure Blank (p : Pool) : Prop where
  size : p.size = 0
  opening : p.opening = 0
  idle : p.idle = []
  waiting : p.waiting = {}
  tasks : p.crew.tasks = []
  leaving : p.leaving = []
  overdrawn : p.overdrawn = false

theorem Blank.stake {p : Pool} (h : p.Blank) : p.stake = 0 := by
  rw [Pool.stake, h.idle, h.waiting, h.tasks, h.leaving]
  rfl

theorem Blank.balanced {p : Pool} (h : p.Blank) : p.Balanced 0 := by
  rw [Balanced, h.stake]
  exact {
    size := by simp [h.size, h.opening]
    opening := by simp [h.opening]
    numbered := by simp [Numbered]
    tickets := by simp [h.waiting]
    sound := h.waiting ▸ WaitQueue.Sound.empty
    solvent := h.overdrawn }

theorem Blank.isFull {p : Pool} (h : p.Blank) (hm : ∀ limit ∈ p.maxSize, 0 < limit) :
    p.isFull = false := by
  unfold Pool.isFull
  cases hs : p.maxSize with
  | none => rfl
  | some limit =>
    have := hm limit hs
    simp [h.size]
    omega

end Pool

namespace Site

variable {env env' : Env} {s s' : Site}

/-! ## Opening a pool -/

/-- The sizes that hold for a pool leave room for a session. -/
theorem checkSize_pos {kind : PoolKind} {minSize lo : Nat} {maxSize hi : Option Nat}
    (h : PoolSettings.checkSize kind minSize maxSize = .ok (lo, hi)) :
    ∀ limit ∈ hi, 0 < limit := by
  unfold PoolSettings.checkSize at h
  intro limit hl
  cases kind with
  | standard =>
    dsimp only at h
    split at h
    · cases h
    · split at h
      · cases h
      · cases h
        obtain rfl := Option.some.inj hl
        omega
  | null =>
    dsimp only at h
    split at h
    · cases h
    · cases h
      simpa using (Option.mem_filter_iff.1 hl).2

/-- The first sessions of a new pool are those that there is room for. -/
theorem entries_fill {now : Instant} {l : Pool.Line} {p : Pool} (h : p.isFull = false) :
    Pool.Entries now l p 0 (fill p) 0 := by
  unfold fill
  split
  · refine Pool.Entries.trans ?_ .topUp
    split
    · exact .aside rfl rfl
    · exact .refl
  · exact .dispatchAdd_none h

/-- A new pool is open and goes by what it was given, and nothing has been entered in its books
before its first sessions. -/
theorem create_ok {settings : PoolSettings} {options : ConnectOptions} {hooks : Hooks}
    (h : create env settings options hooks = (env', .ok s)) :
    ∃ p : Pool, p.Blank ∧ (∀ limit ∈ p.maxSize, 0 < limit) ∧ p.settings = settings ∧
      p.hooks = hooks ∧ p.closed = false ∧ p.crew.stopped = false ∧ s = { pool := fill p } := by
  unfold create at h
  split at h
  · cases h
  · cases h
  · rename_i lo hi _ hc
    dsimp only at h
    obtain ⟨-, hs, ht⟩ := Crew.hire_cases env ({} : Crew (Task Member)) settings.workers
      settings.maintenance
    cases h
    exact ⟨{ fresh env settings options hooks lo hi with
        crew := (Crew.hire env {} settings.workers settings.maintenance).2 },
      ⟨rfl, rfl, rfl, rfl, ht, rfl, rfl⟩, checkSize_pos hc, rfl, rfl, rfl, hs, rfl⟩

/-- A new pool is one in whose books nothing was entered but its first sessions. -/
theorem create_cases {settings : PoolSettings} {options : ConnectOptions} {hooks : Hooks}
    (h : create env settings options hooks = (env', .ok s)) :
    ∃ p q : Pool, p.Blank ∧ Pool.Entries env'.now .changing p 0 q 0 ∧ s = { pool := q } := by
  obtain ⟨p, hb, hm, -, -, -, -, rfl⟩ := create_ok h
  exact ⟨p, _, hb, entries_fill (hb.isFull hm), rfl⟩

/-! ## Runs -/

/-- The states that a pool and its surroundings may come to. -/
inductive Reachable : Env → Site → Prop
  | created {env env' : Env} {settings : PoolSettings} {options : ConnectOptions} {hooks : Hooks}
      {s : Site} (h : create env settings options hooks = (env', .ok s)) : Reachable env' s
  | moved {env env' : Env} {s s' : Site} {mv : Move} (h : Reachable env s)
      (hm : s.move? env mv = some (env', s')) : Reachable env' s'

/-- What a pool and its surroundings may go through, the latest first. -/
inductive Run : List (Env × Site) → Prop
  | created {env env' : Env} {settings : PoolSettings} {options : ConnectOptions} {hooks : Hooks}
      {s : Site} (h : create env settings options hooks = (env', .ok s)) : Run [(env', s)]
  | moved {env env' : Env} {s s' : Site} {past : List (Env × Site)} {mv : Move}
      (h : Run ((env, s) :: past)) (hm : s.move? env mv = some (env', s')) :
      Run ((env', s') :: (env, s) :: past)

theorem Run.reachable {env : Env} {s : Site} {past : List (Env × Site)}
    (h : Run ((env, s) :: past)) : Reachable env s := by
  generalize hx : (env, s) :: past = run at h
  induction h generalizing env s past with
  | created h =>
    cases hx
    exact .created h
  | moved h hm ih =>
    cases hx
    exact .moved (ih (Eq.refl _)) hm

namespace Reachable

theorem keyed (h : Reachable env s) : s.Keyed := by
  induction h with
  | created h =>
    obtain ⟨p, q, -, -, rfl⟩ := create_cases h
    exact ⟨.nil, .nil⟩
  | moved _ hm ih => exact ih.move hm

/-- **The books balance** with what the parties have in hand. -/
theorem balanced (h : Reachable env s) : s.pool.Balanced s.stake := by
  induction h with
  | created h =>
    obtain ⟨p, q, hp, hq, rfl⟩ := create_cases h
    exact hq.balanced hp.balanced
  | moved hr hm ih => exact balanced_move hr.keyed ih hm

end Reachable

/-! ## Replays -/

def moves? (env : Env) (s : Site) : List Move → Option (Env × Site)
  | [] => some (env, s)
  | mv :: rest => (s.move? env mv).bind fun x => moves? x.1 x.2 rest

/-- What a new pool comes to by moves in a row. -/
def replay (settings : PoolSettings) (mvs : List Move) : Option (Env × Site) :=
  match create {} settings {} {} with
  | (env, .ok s) => moves? env s mvs
  | (_, .error _) => none

def smallPool : PoolSettings := { minSize := 1, maxSize := some 1, workers := 1 }

/-- Two requests arrive while a worker opens the session of a small pool. -/
def twoRequests : List Move :=
  [.step (.worker 0), .acquire 0 (.ofSecs 30), .acquire 1 (.ofSecs 30), .step (.user 0),
    .step (.user 1), .step (.worker 0)]

theorem Reachable.moves {mvs : List Move} (h : Reachable env s)
    (hm : moves? env s mvs = some (env', s')) : Reachable env' s' := by
  induction mvs generalizing env s with
  | nil =>
    cases hm
    exact h
  | cons mv rest ih =>
    obtain ⟨x, hx, hm⟩ := Option.bind_eq_some_iff.1 hm
    exact ih (h.moved hx) hm

/-- What a replay comes to can be reached. -/
theorem Reachable.of_replay (settings : PoolSettings) (mvs : List Move) (P : Env × Site → Bool)
    (h : (replay settings mvs).any P = true) :
    ∃ x, replay settings mvs = some x ∧ P x = true ∧ Reachable x.1 x.2 := by
  obtain ⟨x, hx, hP⟩ := (Option.any_eq_true _ _).1 h
  refine ⟨x, hx, hP, ?_⟩
  unfold replay at hx
  split at hx
  · rename_i hc
    exact (Reachable.created hc).moves hx
  · cases hx

end Site

end SessionPool
