import SessionPool.Proofs.Excess
import SessionPool.Proofs.Readiness
import SessionPool.Proofs.Weeding

/-!
# Changes of the sizes

Which sizes a pool may have depends on its kind (`PoolKind.Allows`), and no pool ever has others
(`Site.Reachable.fits`): the sizes are checked when the pool is made and whenever they are changed,
and nothing else touches them. Sizes that are refused, and those of a pool that is closed, leave
everything as it is. Sizes that are accepted cost the pool as many of its unused members as there
are sessions above the new limit, the last ones first, and none of the others (`Pool.Trims`). After
that sessions are opened where they are wanted (`Site.resize_exact`).
-/

set_option autoImplicit false

namespace SessionPool

/-! ## Sizes -/

/-- The limit of a pool that is wished for with these sizes. -/
def PoolKind.limit : PoolKind → Nat → Option Nat → Option Nat
  | .standard, minSize, maxSize => some (maxSize.getD minSize)
  | .null, _, maxSize => maxSize.filter fun limit => decide (0 < limit)

/-- The sizes that a pool of this kind may have. -/
def PoolKind.Allows : PoolKind → Nat → Option Nat → Prop
  | .standard, minSize, maxSize => ∃ limit, maxSize = some limit ∧ 1 ≤ limit ∧ minSize ≤ limit
  | .null, minSize, maxSize => minSize = 0 ∧ ∀ limit ∈ maxSize, 1 ≤ limit

theorem PoolSettings.checkSize_of_allows {kind : PoolKind} {minSize : Nat} {maxSize : Option Nat}
    (h : kind.Allows minSize (kind.limit minSize maxSize)) :
    checkSize kind minSize maxSize = .ok (minSize, kind.limit minSize maxSize) := by
  cases kind with
  | standard =>
    obtain ⟨_, ⟨⟩, hpos, hmin⟩ := h
    unfold checkSize
    dsimp only
    rw [if_neg (by omega), if_neg (by omega)]
    rfl
  | null =>
    obtain ⟨rfl, -⟩ := h
    rfl

theorem PoolSettings.checkSize_of_not_allows {kind : PoolKind} {minSize : Nat}
    {maxSize : Option Nat} (h : ¬ kind.Allows minSize (kind.limit minSize maxSize)) :
    ∃ fault, checkSize kind minSize maxSize = .error (.config fault) := by
  cases kind with
  | standard =>
    unfold checkSize
    dsimp only
    split
    · exact ⟨_, rfl⟩
    · split
      · exact ⟨_, rfl⟩
      · exact absurd ⟨_, rfl, by omega, by omega⟩ h
  | null =>
    unfold checkSize
    dsimp only
    split
    · exact ⟨_, rfl⟩
    · rename_i hz
      exact absurd ⟨by omega, fun limit hm =>
        of_decide_eq_true (Option.mem_filter_iff.1 hm).2⟩ h

theorem PoolSettings.allows_of_checkSize {kind : PoolKind} {minSize lo : Nat}
    {maxSize hi : Option Nat} (h : checkSize kind minSize maxSize = .ok (lo, hi)) :
    kind.Allows lo hi := by
  by_cases ha : kind.Allows minSize (kind.limit minSize maxSize)
  · rw [checkSize_of_allows ha] at h
    cases h
    exact ha
  · obtain ⟨fault, hf⟩ := checkSize_of_not_allows ha
    rw [hf] at h
    cases h

namespace Pool

variable {now : Instant} {G : Power → Prop} {p q : Pool}

/-- The sizes of a pool, and the kind that they have to fit. -/
def sizes (p : Pool) : PoolKind × Nat × Option Nat := (p.settings.kind, p.minSize, p.maxSize)

theorem Change.sizes (h : Change now G p q) (hR : ¬ G .resize) : q.sizes = p.sizes := by
  cases h with
  | aside h => exact congrArg (fun v : View => (v.settings.kind, v.minSize, v.maxSize)) h
  | size h | fill h => exact absurd h hR
  | enter _ elapsed =>
    exact congrArg (fun v : View => (v.settings.kind, v.minSize, v.maxSize))
      (p.view_countOpened elapsed)
  | reserve | unreserve | drop | queue | leave | unpark | park | expire | offer | fail | hangUp
  | withdraw | enroll | reset | shut | stop | take | depart | staff => rfl

theorem Changes.sizes (h : Changes now G p q) (hR : ¬ G .resize) : q.sizes = p.sizes := by
  induction h with
  | refl => rfl
  | step _ c ih => exact (c.sizes hR).trans ih

theorem sizes_topUp (p : Pool) : p.topUp.sizes = p.sizes :=
  congrArg (fun f : Front => (f.settings.kind, f.minSize, f.maxSize)) (front_topUp p)

/-! ## Trimming -/

/-- A pool with new sizes, once the members were sent away that are too many. -/
def trimmed (p : Pool) (lo : Nat) (hi : Option Nat) (kept many : List Member) : Pool :=
  { p with
    minSize := lo
    maxSize := hi
    idle := kept
    size := p.size - many.length
    filled := if p.isNull then p.filled else decide (lo ≤ p.size - many.length - p.opening)
    }.seeOff many.reverse

/-- A pool is given new sizes, and the last of its unused members are sent away, as many as there
are sessions above the limit. -/
structure Trims (p : Pool) (lo : Nat) (hi : Option Nat) (q : Pool) : Prop where
  trimmed : ∃ kept many, p.idle = kept ++ many ∧
    many.length = min p.idle.length (hi.elim 0 fun limit => p.size - limit) ∧
    q = p.trimmed lo hi kept many
  /-- Each of them was one of the sessions that the pool is responsible for. -/
  size : q.size + p.idle.length = p.size + q.idle.length
  opening : q.opening = p.opening
  inUse : q.inUse = p.inUse
  /-- The pool is above its new limit only if no unused members are left. -/
  shed : q.Shed

/-- Whether a pool is filled is looked up after its members were sent away. -/
theorem refill_seeOff (p : Pool) (ms : List Member) (h : p.opening ≤ p.size) :
    (if (p.seeOff ms).isNull then p.seeOff ms
      else { (p.seeOff ms).countLive.1 with
        filled := decide (p.minSize ≤ (p.seeOff ms).countLive.2) }) =
    { p with filled := if p.isNull then p.filled else decide (p.minSize ≤ p.size - p.opening)
      }.seeOff ms := by
  have hn : (p.seeOff ms).isNull = p.isNull := by simp [isNull]
  rw [hn]
  by_cases hp : p.isNull = true
  · rw [if_pos hp, if_pos hp]
  · rw [if_neg hp, if_neg hp]
    unfold seeOff
    dsimp only
    split <;> simp only [countLive, live, Nat.not_lt.2 h, decide_false, Bool.or_false]

/-- Sizes that a pool may have are taken over if it is open. -/
theorem resize_eq {lo : Nat} {hi : Option Nat} (hc : p.closed = false)
    (ha : p.settings.kind.Allows lo (p.settings.kind.limit lo hi))
    (hs : p.opening + p.idle.length ≤ p.size) :
    ∃ q, p.Trims lo (p.settings.kind.limit lo hi) q ∧ p.resize lo hi = .ok q.topUp := by
  generalize hmax : p.settings.kind.limit lo hi = max
  obtain ⟨kept, many, parted, count, weeded⟩ := weedExcess_eq
    { p with minSize := lo, maxSize := max } (show p.idle.length ≤ p.size by omega)
  have hl := congrArg List.length parted
  rw [List.length_append] at hl
  have count : many.length = min p.idle.length (max.elim 0 fun limit => p.size - limit) := by
    rw [count, Nat.min_comm]
    cases max <;> rfl
  have hq : p.resize lo hi = .ok (p.trimmed lo max kept many).topUp := by
    have filled := refill_seeOff { p with
      minSize := lo, maxSize := max, idle := kept, size := p.size - many.length } many.reverse
      (show p.opening ≤ p.size - many.length by omega)
    unfold resize
    rw [PoolSettings.checkSize_of_allows (hmax ▸ ha), hmax]
    dsimp only
    rw [if_neg (by simp [hc]), weeded]
    dsimp only
    rw [closeAll_eq, filled]
    rfl
  have size : (p.trimmed lo max kept many).size = p.size - many.length := by simp [trimmed]
  have idle : (p.trimmed lo max kept many).idle = kept := by simp [trimmed]
  have opening : (p.trimmed lo max kept many).opening = p.opening := by simp [trimmed]
  refine ⟨_, ⟨⟨kept, many, parted, count, rfl⟩, ?_, opening, ?_, fun hover => ?_⟩, hq⟩
  · rw [size, idle]
    omega
  · rw [inUse, inUse, size, idle, opening]
    omega
  · obtain ⟨limit, hm, hlt⟩ := isOverfull_iff.1 hover
    have hm : max = some limit := by simpa [trimmed] using hm
    rw [hm] at count
    rw [size] at hlt
    rw [idle, ← List.length_eq_zero_iff]
    simp only [Option.elim_some] at count
    omega

/-- Sizes that a pool may not have are refused. -/
theorem resize_of_not_allows {lo : Nat} {hi : Option Nat}
    (ha : ¬ p.settings.kind.Allows lo (p.settings.kind.limit lo hi)) :
    ∃ fault, p.resize lo hi = .error (.config fault) := by
  obtain ⟨fault, hf⟩ := PoolSettings.checkSize_of_not_allows ha
  exact ⟨fault, by rw [resize, hf]⟩

theorem resize_of_closed (lo : Nat) (hi : Option Nat) (hc : p.closed = true) :
    (p.resize lo hi).isOk = false := by
  unfold resize
  split
  · rfl
  · rw [if_pos hc]
    rfl

/-- A pool has sizes that it may have. -/
def Fits (p : Pool) : Prop := p.settings.kind.Allows p.minSize p.maxSize

theorem Fits.of_sizes (h : p.Fits) (hq : q.sizes = p.sizes) : q.Fits := by
  simp only [Pool.sizes, Prod.mk.injEq] at hq
  obtain ⟨hk, hlo, hhi⟩ := hq
  rw [Fits, hk, hlo, hhi]
  exact h

theorem fits_resize {lo : Nat} {hi : Option Nat} (hs : p.opening + p.idle.length ≤ p.size)
    (h : p.resize lo hi = .ok q) : q.Fits := by
  by_cases ha : p.settings.kind.Allows lo (p.settings.kind.limit lo hi)
  · cases hc : p.closed with
    | true =>
      have := resize_of_closed lo hi hc
      rw [h] at this
      cases this
    | false =>
      obtain ⟨r, trims, hr⟩ := resize_eq hc ha hs
      cases h.symm.trans hr
      obtain ⟨kept, many, -, -, rfl⟩ := trims.trimmed
      refine Fits.of_sizes ?_ (sizes_topUp _)
      simpa [Fits, trimmed] using ha
  · obtain ⟨fault, hf⟩ := resize_of_not_allows ha
    rw [hf] at h
    cases h

end Pool

namespace Site

variable {env env' : Env} {s s' : Site}

/-! ## The sizes of a pool -/

theorem sizes_move (h : Reachable env s) {mv : Move} (hm : s.move? env mv = some (env', s'))
    (hr : ∀ lo hi, mv ≠ .resize lo hi) : s'.pool.sizes = s.pool.sizes := by
  refine (changes_move h.orderlyShut hm).sizes fun hR => ?_
  obtain ⟨lo, hi, rfl⟩ := powers_resize hR
  exact hr lo hi rfl

theorem sizes_fill (p : Pool) : (fill p).sizes = p.sizes := by
  unfold fill
  split
  · rw [Pool.sizes_topUp]
    split <;> rfl
  · exact congrArg (fun f : Pool.Front => (f.settings.kind, f.minSize, f.maxSize))
      (Pool.front_dispatchAdd_none p)

theorem fits_create {settings : PoolSettings} {options : ConnectOptions} {hooks : Hooks}
    (h : create env settings options hooks = (env', .ok s)) : s.pool.Fits := by
  unfold create at h
  split at h
  · cases h
  · cases h
  · rename_i lo hi _ hc
    cases h
    have allowed : Pool.Fits { fresh env settings options hooks lo hi with
        crew := (Crew.hire env {} settings.workers settings.maintenance).2 } :=
      PoolSettings.allows_of_checkSize hc
    exact allowed.of_sizes (sizes_fill _)

/-- **A pool never has sizes that it may not have.** -/
theorem Reachable.fits (h : Reachable env s) : s.pool.Fits := by
  induction h with
  | created h => exact fits_create h
  | @moved env env' s s' mv h hm ih =>
    by_cases hr : ∃ lo hi, mv = .resize lo hi
    · obtain ⟨lo, hi, rfl⟩ := hr
      cases Site.moved hm with
      | unheld hv => rcases hv with hv | hv | hv <;> cases hv
      | unsized _ => exact ih
      | resized hq => exact Pool.fits_resize h.balanced.room hq
    · exact ih.of_sizes (sizes_move h hm fun lo hi e => hr ⟨lo, hi, e⟩)

/-- What becomes of a pool that is to have other sizes. -/
structure Resizes (env : Env) (s : Site) (lo : Nat) (hi : Option Nat) : Prop where
  refused : ¬ s.pool.settings.kind.Allows lo (s.pool.settings.kind.limit lo hi) →
    ∃ fault, s.resize env lo hi = (env, s, .error (.config fault))
  closed : s.pool.settings.kind.Allows lo (s.pool.settings.kind.limit lo hi) →
    s.pool.closed = true → s.resize env lo hi = (env, s, .error .closed)
  resized : s.pool.settings.kind.Allows lo (s.pool.settings.kind.limit lo hi) →
    s.pool.closed = false → ∃ records q, s.pool.Trims lo (s.pool.settings.kind.limit lo hi) q ∧
      s.resize env lo hi =
        ({ env with log := env.log ++ records }, { s with pool := q.topUp }, .ok ())

/-- **Sizes are changed completely or not at all.** A pool has sizes that it may have. Other sizes
that it must not have, and any that it is given once it is closed, leave everything as it is; those
that it may have cost it the unused members that are too many, and nothing else. -/
theorem resize_exact (h : Reachable env s) : s.pool.Fits ∧ ∀ lo hi, s.Resizes env lo hi := by
  refine ⟨h.fits, fun lo hi => ⟨fun ha => ?_, fun ha hc => ?_, fun ha hc => ?_⟩⟩
  · obtain ⟨fault, hf⟩ := Pool.resize_of_not_allows ha
    exact ⟨fault, by rw [resize, hf]⟩
  · exact resize_of_closed env hc (PoolSettings.checkSize_of_allows ha)
  · obtain ⟨q, trims, hq⟩ := Pool.resize_eq hc ha h.balanced.room
    exact ⟨_, q, trims, by rw [resize, hq]; rfl⟩

/-- The limit of a pool with two unused members is lowered to one, or below the minimum. -/
theorem resize_exact_pair :
    ∃ (env : Env) (s : Site) (records : Log) (q : Pool),
      Reachable env s ∧ s.pool.Fits ∧ s.pool.idle.length = 2 ∧
      s.resize env 1 (some 1) =
        ({ env with log := env.log ++ records }, { s with pool := q.topUp }, .ok ()) ∧
      q.idle.length = 1 ∧ q.size = 1 ∧
      ∃ fault, s.resize env 2 (some 1) = (env, s, .error (.config fault)) := by
  obtain ⟨⟨env, s⟩, -, hp, hr⟩ := Reachable.of_replay pairPool bothOpened
    (fun x => x.2.pool.settings.kind = .standard ∧ x.2.pool.closed = false ∧
      x.2.pool.idle.length = 2 ∧ x.2.pool.size = 2) (by decide +kernel)
  obtain ⟨hk, hc, hi, hs⟩ := of_decide_eq_true hp
  dsimp only at hk hc hi hs hr
  obtain ⟨fits, resizes⟩ := resize_exact hr
  have allowed : s.pool.settings.kind.Allows 1 (s.pool.settings.kind.limit 1 (some 1)) := by
    rw [hk]
    exact ⟨1, rfl, le_rfl, le_rfl⟩
  obtain ⟨records, q, trims, hq⟩ := (resizes 1 (some 1)).resized allowed hc
  obtain ⟨kept, many, parted, count, rfl⟩ := trims.trimmed
  have gone : many.length = 1 := by
    rw [count, hk, hi]
    simp [PoolKind.limit, hs]
  have left : (s.pool.trimmed 1 (s.pool.settings.kind.limit 1 (some 1)) kept many).size = 1 := by
    simp [Pool.trimmed, hs, gone]
  have := trims.size
  refine ⟨env, s, records, _, hr, fits, hi, hq, by omega, left, ?_⟩
  refine (resizes 2 (some 1)).refused ?_
  rw [hk]
  rintro ⟨_, ⟨⟩, -, hle⟩
  exact absurd hle (by decide)

end Site

end SessionPool
