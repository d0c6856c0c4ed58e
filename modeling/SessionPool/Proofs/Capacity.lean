import SessionPool.Proofs.Run

/-!
# Capacity

Room for a session is kept only as long as there is any, in the one entry that makes a pool grow
(`Pool.Entry.keepsLimit`). A pool therefore never grows beyond its limit, and a limit that is set
all the time and never lowered is kept throughout (`Site.capacity`).
-/

set_option autoImplicit false

namespace SessionPool

namespace Pool

/-- The limit is the same, and the pool has not grown beyond it. -/
structure KeepsLimit (p q : Pool) : Prop where
  maxSize : q.maxSize = p.maxSize
  size : ∀ limit ∈ q.maxSize, q.size ≤ max p.size limit

variable {now : Instant} {l : Line} {p q r : Pool} {a b : Stake}

theorem KeepsLimit.refl (p : Pool) : p.KeepsLimit p := ⟨rfl, fun _ _ => le_max_left _ _⟩

theorem KeepsLimit.trans (h : p.KeepsLimit q) (h' : q.KeepsLimit r) : p.KeepsLimit r where
  maxSize := h'.maxSize.trans h.maxSize
  size := fun limit hl => by
    have hq := h.size limit (h'.maxSize ▸ hl)
    have hr := h'.size limit hl
    omega

theorem KeepsLimit.of_le (hm : q.maxSize = p.maxSize) (h : q.size ≤ p.size) : p.KeepsLimit q :=
  ⟨hm, fun _ _ => h.trans (le_max_left _ _)⟩

/-- Only an entry that keeps room makes a pool grow, and there must be room. -/
theorem Entry.keepsLimit (h : Entry now l p a q b) : p.KeepsLimit q := by
  cases h with
  | aside h hm =>
    have hs : q.size = p.size := congrArg (fun b : Books => b.size) h
    exact .of_le hm hs.le
  | reserve h =>
    refine ⟨rfl, fun limit hl => ?_⟩
    have hp : p.maxSize = some limit := hl
    have : ¬ limit ≤ p.size := by simpa [Pool.isFull, hp] using h
    show p.size + 1 ≤ max p.size limit
    omega
  | unreserve => exact .of_le rfl (Nat.sub_le _ _)
  | drop ms => exact .of_le rfl (Nat.sub_le _ _)
  | furnish | countLive | number | lose | leave | depart | queueTask | takeTask | unpark | park
  | expire | sweep | hand | collect | withdraw | fail | failAll | enroll =>
    exact .of_le rfl le_rfl

theorem Entries.keepsLimit (h : Entries now l p a q b) : p.KeepsLimit q := by
  induction h with
  | refl => exact .refl p
  | step _ e ih => exact ih.trans e.keepsLimit

theorem Row.keepsLimit (h : Row now p a q b) : p.KeepsLimit q := by
  cases h with
  | changing h => exact h.keepsLimit
  | serving before e after => exact (before.keepsLimit.trans e.keepsLimit).trans after.keepsLimit

/-- The new limit holds for what is opened when the size is changed. -/
theorem size_resize {lo : Nat} {hi : Option Nat} (h : p.resize lo hi = .ok q) :
    ∀ limit ∈ q.maxSize, q.size ≤ max p.size limit := by
  obtain ⟨lo, hi, he⟩ : ∃ lo hi, Entries .origin .still _ 0 q 0 := resize_entries h
  exact he.keepsLimit.size

end Pool

namespace Site

variable {env env' : Env} {s s' : Site}

theorem size_move (h : Reachable env s) {mv : Move} (hm : s.move? env mv = some (env', s')) :
    ∀ limit ∈ s'.pool.maxSize, s'.pool.size ≤ max s.pool.size limit := by
  rcases move_cases h.keyed h.balanced hm with
    ⟨lo, hi, -, -, rfl | ⟨q, hq, rfl⟩⟩ | ⟨-, -, rfl⟩ | ⟨a, b, k, -, -, hl⟩
  · exact (Pool.KeepsLimit.refl _).size
  · exact Pool.size_resize hq
  · exact (Pool.KeepsLimit.refl _).size
  · exact hl.row.keepsLimit.size

/-- Only a change of the size changes the limit. -/
theorem maxSize_move (h : Reachable env s) {mv : Move}
    (hm : s.move? env mv = some (env', s')) (hr : ∀ lo hi, mv ≠ .resize lo hi) :
    s'.pool.maxSize = s.pool.maxSize := by
  rcases move_cases h.keyed h.balanced hm with
    ⟨lo, hi, e, -⟩ | ⟨-, -, rfl⟩ | ⟨a, b, k, -, -, hl⟩
  · exact absurd e (hr lo hi)
  · rfl
  · exact hl.row.keepsLimit.maxSize

/-- The first sessions of a pool are not more than its limit allows. -/
theorem size_create {settings : PoolSettings} {options : ConnectOptions} {hooks : Hooks}
    (h : create env settings options hooks = (env', .ok s)) :
    ∀ limit ∈ s.pool.maxSize, s.pool.size ≤ limit := by
  obtain ⟨p, q, hp, hq, rfl⟩ := create_cases h
  intro limit hl
  have := hq.keepsLimit.size limit hl
  rw [hp.size] at this
  simpa using this

/-- In every state of a run the limit is set, and it is never lowered. -/
structure Limited (run : List (Env × Site)) : Prop where
  set : ∀ x ∈ run, x.2.pool.maxSize ≠ none
  kept : run.IsChain fun later earlier =>
    ∀ limit ∈ later.2.pool.maxSize, ∀ before ∈ earlier.2.pool.maxSize, before ≤ limit

theorem size_run {run : List (Env × Site)} (h : Run run) (hl : Limited run) :
    ∀ x ∈ run, ∀ limit ∈ x.2.pool.maxSize, x.2.pool.size ≤ limit := by
  induction h with
  | created h =>
    intro x hx
    obtain rfl := List.mem_singleton.1 hx
    exact size_create h
  | @moved env env' s s' past mv h hm ih =>
    have hpast : Limited ((env, s) :: past) :=
      ⟨fun x hx => hl.set x (List.mem_cons_of_mem _ hx), (List.isChain_cons_cons.1 hl.kept).2⟩
    intro x hx
    rcases List.mem_cons.1 hx with rfl | hx
    · intro limit hlimit
      -- the limit before the move was not higher, and it was kept
      obtain ⟨before, hb⟩ := Option.ne_none_iff_exists'.1 (hpast.set (env, s) List.mem_cons_self)
      have hkept := (List.isChain_cons_cons.1 hl.kept).1 limit hlimit before hb
      have hsize := ih hpast (env, s) List.mem_cons_self before hb
      have := size_move h.reachable hm limit hlimit
      dsimp only at hsize this ⊢
      omega
    · exact ih hpast x hx

/-- **Capacity.** A new pool keeps to its limit; no move but a change of the size changes the limit
or makes the pool grow beyond it; and in a run in which the limit is set all the time and never
lowered the pool keeps to it throughout. -/
theorem capacity :
    (∀ {env env' settings options hooks s},
      create env settings options hooks = (env', .ok s) →
        ∀ limit ∈ s.pool.maxSize, s.pool.size ≤ limit) ∧
    (∀ {env env' s s' mv}, Reachable env s → (∀ lo hi, mv ≠ .resize lo hi) →
      s.move? env mv = some (env', s') →
        s'.pool.maxSize = s.pool.maxSize ∧
        ∀ limit ∈ s'.pool.maxSize, s'.pool.size ≤ max s.pool.size limit) ∧
    ∀ {run}, Run run → Limited run →
      ∀ x ∈ run, ∀ limit ∈ x.2.pool.maxSize, x.2.pool.size ≤ limit :=
  ⟨size_create, fun h hr hm => ⟨maxSize_move h hm hr, size_move h hm⟩, size_run⟩

/-- A pool without unused members and with room for two sessions opens one to start with and one
for a request, and is full. -/
theorem capacity_two :
    ∃ e₀ s₀ e₁ s₁ e₂ s₂,
      create {} { kind := .null, minSize := 0, maxSize := some 2 } {} {} = (e₀, .ok s₀) ∧
      s₀.move? e₀ (.acquire 0 (.ofSecs 30)) = some (e₁, s₁) ∧
      s₁.move? e₁ (.step (.user 0)) = some (e₂, s₂) ∧ s₂.pool.size = 2 ∧
      (∀ limit ∈ s₀.pool.maxSize, s₀.pool.size ≤ limit) ∧
      s₂.pool.maxSize = s₁.pool.maxSize ∧
      (∀ limit ∈ s₂.pool.maxSize, s₂.pool.size ≤ max s₁.pool.size limit) ∧
      ∀ x ∈ [(e₂, s₂), (e₁, s₁), (e₀, s₀)],
        ∀ limit ∈ x.2.pool.maxSize, x.2.pool.size ≤ limit := by
  obtain ⟨e₀, s₀, e₁, s₁, e₂, s₂, h₀, h₁, h₂, hs, hm₀, hm₁, hm₂⟩ : ∃ e₀ s₀ e₁ s₁ e₂ s₂,
      create {} { kind := .null, minSize := 0, maxSize := some 2 } {} {} = (e₀, .ok s₀) ∧
      s₀.move? e₀ (.acquire 0 (.ofSecs 30)) = some (e₁, s₁) ∧
      s₁.move? e₁ (.step (.user 0)) = some (e₂, s₂) ∧ s₂.pool.size = 2 ∧
      s₀.pool.maxSize = some 2 ∧ s₁.pool.maxSize = some 2 ∧ s₂.pool.maxSize = some 2 :=
    ⟨_, _, _, _, _, _, rfl, rfl, rfl, rfl, rfl, rfl, rfl⟩
  have hl : Limited [(e₂, s₂), (e₁, s₁), (e₀, s₀)] :=
    ⟨by simp [hm₀, hm₁, hm₂], by simp [hm₀, hm₁, hm₂]⟩
  obtain ⟨created, moved, run⟩ := capacity
  have hr₁ : Reachable e₁ s₁ := (Reachable.created h₀).moved h₁
  obtain ⟨hm, hsize⟩ := moved hr₁ (by simp) h₂
  exact ⟨e₀, s₀, e₁, s₁, e₂, s₂, h₀, h₁, h₂, hs, created h₀, hm, hsize,
    run (((Run.created h₀).moved h₁).moved h₂) hl⟩

end Site

end SessionPool
