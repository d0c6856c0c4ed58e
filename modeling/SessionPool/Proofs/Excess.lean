import SessionPool.Proofs.Capacity
import SessionPool.Proofs.Closed

/-!
# Sessions above the limit

A pool may be above its limit after the limit was lowered. It has then no unused members
(`Pool.Shed`): they are weeded out with the change of the size and with every round of maintenance
(`Site.shed_of_weeds`), and a member that comes back is looked at before it is put aside. A session
that was opened meanwhile, one that answered a probe and one that is passed on are put aside without
a look at the limit (`Site.Overlooks`). As long as that does not happen to a pool that is above its
limit (`Site.Attended`) it has shed its excess (`Site.sheds_excess`); `Site.kept_in_excess` has all
three ways in which it happens.
-/

set_option autoImplicit false

namespace SessionPool

namespace Pool

variable {p q : Pool}

def Shed (p : Pool) : Prop := p.isOverfull = true → p.idle = []

instance (p : Pool) : Decidable p.Shed := inferInstanceAs (Decidable (_ → _))

theorem isOverfull_iff : p.isOverfull = true ↔ ∃ limit ∈ p.maxSize, limit < p.size := by
  simp [isOverfull, Option.any_eq_true]

theorem KeepsLimit.isOverfull (h : p.KeepsLimit q) (hq : q.isOverfull = true) :
    p.isOverfull = true := by
  obtain ⟨limit, hl, hlt⟩ := isOverfull_iff.1 hq
  have hsize := h.size limit hl
  exact isOverfull_iff.2 ⟨limit, h.maxSize ▸ hl, by omega⟩

theorem Shed.of_calm (hp : p.Shed) (hc : p.Calm q) (hk : p.KeepsLimit q) : q.Shed :=
  fun hq => hc.idle_eq_nil (hp (hk.isOverfull hq))

theorem shed_weedExcess (p : Pool) : p.weedExcess.1.Shed := by
  intro h
  obtain ⟨limit, hl, hlt⟩ := isOverfull_iff.1 h
  have hmax : p.maxSize = some limit := hl
  have hsize : p.weedExcess.1.size = p.size - min p.excess p.idle.length := rfl
  have hexcess : p.excess = p.size - limit := by simp [excess, hmax]
  have hidle : p.weedExcess.1.idle.length = p.idle.length - min p.excess p.idle.length := by
    simp [weedExcess]
  exact List.length_eq_zero_iff.1 (by omega)

theorem Shed.closeAll (hp : p.Shed) (ms : List Member) : (ms.foldl dispatchClose p).Shed := by
  have closed : Entries .origin .still p (.ofSpare ms) (ms.foldl dispatchClose p) 0 :=
    .closeAll ms p
  exact hp.of_calm (Quiet.closeAll ms p).toCalm closed.keepsLimit

theorem Shed.topUp (hp : p.Shed) : p.topUp.Shed := by
  have opened : Entries .origin .still p 0 p.topUp 0 := .topUp
  exact hp.of_calm Quiet.topUp.toCalm opened.keepsLimit

theorem shed_maintain (hc : p.closed = false) (now : Instant) : (p.maintain now).Shed := by
  unfold maintain
  rw [if_neg (by simp [hc])]
  exact ((shed_weedExcess _).closeAll _).topUp

theorem shed_resize {lo : Nat} {hi : Option Nat} (h : p.resize lo hi = .ok q) : q.Shed := by
  unfold resize at h
  split at h
  · cases h
  · rename_i lo hi _
    split at h
    · cases h
    · have shed := (shed_weedExcess { p with minSize := lo, maxSize := hi }).closeAll
        (weedExcess { p with minSize := lo, maxSize := hi }).2
      dsimp only at h
      split at h <;> cases h
      · exact shed.topUp
      · -- whether the pool is filled has nothing to do with it
        exact Shed.topUp
          (p := { List.foldl dispatchClose _ _ with overdrawn := _, filled := _ }) shed

end Pool

namespace Site

variable {env env' : Env} {s s' : Site} {mv : Move}

/-- The move weeds out what is above the limit: the size is changed, or maintenance is done. -/
def Weeds (s : Site) (mv : Move) : Prop :=
  (∃ lo hi q, mv = .resize lo hi ∧ s.pool.resize lo hi = .ok q) ∨
    ∃ k, mv = .step (.worker k) ∧ Table.get? s.jobs k = some .maintaining

/-- With the move a member is put aside that is not looked at, while the pool is above its limit. -/
def Overlooks (env : Env) (s : Site) (mv : Move) : Prop :=
  s.pool.isOverfull = true ∧ (∃ source m, s.frees? mv = some (source, m) ∧ source ≠ .reset) ∧
    ∃ x ∈ s.move? env mv, s.pool.idle.length < x.2.pool.idle.length

instance (env : Env) (s : Site) (mv : Move) : Decidable (s.Overlooks env mv) :=
  decidable_of_iff (s.pool.isOverfull = true ∧ ((s.frees? mv).any fun x => x.1 ≠ .reset) ∧
      (s.move? env mv).any fun x => s.pool.idle.length < x.2.pool.idle.length)
    (and_congr_right' (and_congr (by simp [Option.any_eq_true]) (by simp [Option.any_eq_true])))

theorem not_resize_of_frees? {x : Source × Member} (h : s.frees? mv = some x) (lo : Nat)
    (hi : Option Nat) : mv ≠ .resize lo hi := by
  rintro rfl
  cases h

/-- A pool is above its limit after a move only if it was so before, unless its size is changed. -/
theorem isOverfull_move (h : Reachable env s) (hm : s.move? env mv = some (env', s'))
    (hr : ∀ lo hi, mv ≠ .resize lo hi) (ho : s'.pool.isOverfull = true) :
    s.pool.isOverfull = true :=
  Pool.KeepsLimit.isOverfull ⟨maxSize_move h hm hr, size_move h hm⟩ ho

/-- **A pool sheds its excess** when its size is changed and when maintenance is done. -/
theorem shed_of_weeds (h : Reachable env s) (hw : s.Weeds mv)
    (hm : s.move? env mv = some (env', s')) : s'.pool.Shed := by
  rcases hw with ⟨lo, hi, q, rfl, hq⟩ | ⟨k, rfl, hg⟩
  · cases moved hm with
    | unheld hv => rcases hv with hv | hv | hv <;> cases hv
    | resized hq => exact Pool.shed_resize hq
    | unsized hn =>
      rw [hq] at hn
      cases hn
  · cases moved hm with
    | unheld hv => rcases hv with hv | hv | hv <;> cases hv
    | worked hg' hs =>
      cases hg.symm.trans hg'
      cases hs
    | finished hg' hs =>
      cases hg.symm.trans hg'
      cases hs
      cases hc : s.pool.closed with
      | false => exact Pool.shed_maintain hc env.now
      | true =>
        -- nothing is done to a pool that is closed, but that has no unused members anyway
        have hn : s.pool.maintain env.now = s.pool := if_pos hc
        exact fun _ => (congrArg Pool.idle hn).trans (h.vacant hc).1
    | sought hg' _ | took hg' _ =>
      rw [hg] at hg'
      cases hg'

/-- **No move leaves an unused member above the limit** that overlooks none. -/
theorem shed_move (h : Reachable env s) (hs : s.pool.Shed) (hm : s.move? env mv = some (env', s'))
    (ho : ¬s.Overlooks env mv) : s'.pool.Shed := by
  rcases calm_or_frees hm with calm | ⟨source, m, hf, frees⟩
  · by_cases hr : ∃ lo hi, mv = .resize lo hi
    · obtain ⟨lo, hi, rfl⟩ := hr
      cases moved hm with
      | unheld hv => rcases hv with hv | hv | hv <;> cases hv
      | resized hq => exact Pool.shed_resize hq
      | unsized _ => exact hs
    · have hr : ∀ lo hi, mv ≠ .resize lo hi := fun lo hi e => hr ⟨lo, hi, e⟩
      exact fun hover => calm.idle_eq_nil (hs (isOverfull_move h hm hr hover))
  · intro hover
    have hp := isOverfull_move h hm (not_resize_of_frees? hf) hover
    by_cases hreset : source = .reset
    · rw [(frees.fit hreset).2] at hp
      cases hp
    · by_contra hn
      have grows : s.pool.idle.length < s'.pool.idle.length := by
        rw [hs hp]
        exact List.length_pos_iff.2 hn
      exact ho ⟨hp, ⟨source, m, hf, hreset⟩, (env', s'), hm, grows⟩

theorem shed_create {settings : PoolSettings} {options : ConnectOptions} {hooks : Hooks}
    (h : create env settings options hooks = (env', .ok s)) : s.pool.Shed := by
  intro hover
  obtain ⟨limit, hl, hlt⟩ := Pool.isOverfull_iff.1 hover
  have := size_create h limit hl
  omega

/-- What a pool comes to in which no member was overlooked since it was made, since its size was
changed, or since maintenance was done. -/
inductive Attended : Env → Site → Prop
  | created {env env' : Env} {settings : PoolSettings} {options : ConnectOptions} {hooks : Hooks}
      {s : Site} (h : create env settings options hooks = (env', .ok s)) : Attended env' s
  | weeded {env env' : Env} {s s' : Site} {mv : Move} (h : Reachable env s) (hw : s.Weeds mv)
      (hm : s.move? env mv = some (env', s')) : Attended env' s'
  | moved {env env' : Env} {s s' : Site} {mv : Move} (h : Attended env s)
      (hm : s.move? env mv = some (env', s')) (ho : ¬s.Overlooks env mv) : Attended env' s'

theorem Attended.reachable (h : Attended env s) : Reachable env s := by
  induction h with
  | created h => exact .created h
  | weeded h _ hm => exact h.moved hm
  | moved _ hm _ ih => exact ih.moved hm

/-- None of the moves in a row overlooks a member. -/
def attentive (env : Env) (s : Site) : List Move → Bool
  | [] => true
  | mv :: rest =>
    !decide (s.Overlooks env mv) && (s.move? env mv).all fun x => attentive x.1 x.2 rest

theorem Attended.moves {mvs : List Move} (h : Attended env s) (ha : s.attentive env mvs = true)
    (hm : moves? env s mvs = some (env', s')) : Attended env' s' := by
  induction mvs generalizing env s with
  | nil =>
    cases hm
    exact h
  | cons mv rest ih =>
    obtain ⟨⟨env₁, s₁⟩, hx, hm⟩ := Option.bind_eq_some_iff.1 hm
    obtain ⟨ho, ha⟩ := Bool.and_eq_true_iff.1 ha
    rw [hx] at ha
    exact ih (h.moved hx (by simpa using ho)) ha hm

def pairPool : PoolSettings := { minSize := 2, maxSize := some 2, workers := 1 }

/-- The worker opens the first of the two sessions, and then it opens both. -/
def firstOpened : List Move := List.replicate 2 (.step (.worker 0))

def bothOpened : List Move := List.replicate 6 (.step (.worker 0))

def broughtBack : List Move :=
  [.giveBack 1, .step (.worker 0), .step (.worker 0), .step (.worker 0), .step (.worker 0)]

/-- **Excess is shed**, however the size of a pool was changed, as long as no member is overlooked:
as long as a pool is above its limit, it has no unused members. -/
theorem sheds_excess (h : Attended env s) : s.pool.Shed := by
  induction h with
  | created h => exact shed_create h
  | weeded h hw hm => exact shed_of_weeds h hw hm
  | moved h hm ho ih => exact shed_move h.reachable ih hm ho

/-- The limit is lowered while both sessions are out, and the one that comes back is closed. -/
theorem sheds_excess_returned :
    ∃ env s env' s', Attended env s ∧ moves? env s broughtBack = some (env', s') ∧
      s.pool.isOverfull = true ∧ s'.pool.isOverfull = false ∧ s'.pool.idle.length = 0 ∧
      s.pool.Shed ∧ s'.pool.Shed := by
  obtain ⟨x, -, hp, hr⟩ := Reachable.of_replay pairPool (bothOpened ++ [.tryAcquire, .tryAcquire])
    (fun x => (x.2.pool.resize 1 (some 1)).toOption.isSome ∧
      (x.2.move? x.1 (.resize 1 (some 1))).any fun y =>
        y.2.pool.isOverfull ∧ y.2.attentive y.1 broughtBack ∧
          (moves? y.1 y.2 broughtBack).any fun z =>
            z.2.pool.isOverfull = false ∧ z.2.pool.idle.length = 0)
    (by decide +kernel)
  obtain ⟨hs, hp⟩ := of_decide_eq_true hp
  obtain ⟨⟨env, s⟩, hm, hp⟩ := (Option.any_eq_true _ _).1 hp
  obtain ⟨ho, ha, hp⟩ := of_decide_eq_true hp
  obtain ⟨⟨env', s'⟩, hm', hp⟩ := (Option.any_eq_true _ _).1 hp
  obtain ⟨ho', hi⟩ := of_decide_eq_true hp
  have hw : x.2.Weeds (.resize 1 (some 1)) := by
    cases hq : x.2.pool.resize 1 (some 1) with
    | error e =>
      rw [hq] at hs
      cases hs
    | ok q => exact .inl ⟨1, some 1, q, rfl, hq⟩
  have attended := Attended.weeded hr hw hm
  exact ⟨env, s, env', s', attended, hm', ho, ho', hi, sheds_excess attended,
    sheds_excess (attended.moves ha hm')⟩

/-- The limit is lowered while the worker opens a session. -/
def openedInExcess : List Move := firstOpened ++ [.resize 1 (some 1), .step (.worker 0)]

/-- The limit is lowered while one session is out and the other is being probed. -/
def probedInExcess : List Move :=
  bothOpened ++ [.tryAcquire, .check 0, .step (.user 0), .step (.user 0), .step (.user 0),
    .step (.user 0), .resize 1 (some 1), .step (.user 0)]

/-- The limit is lowered while one session is out and the other lies ready for a request, whose
caller goes away. -/
def passedOnInExcess : List Move :=
  bothOpened ++ [.tryAcquire, .tryAcquire, .acquire 0 (.ofSecs 30), .step (.user 0)] ++
    broughtBack ++ [.resize 1 (some 1), .cancel 0]

def KeepsExcess (mvs : List Move) : Prop :=
  ∃ x, replay pairPool mvs = some x ∧ Reachable x.1 x.2 ∧ x.2.pool.closed = false ∧ ¬x.2.pool.Shed

theorem KeepsExcess.of_replay {mvs : List Move}
    (h : (replay pairPool mvs).any (fun x => x.2.pool.closed = false ∧ ¬x.2.pool.Shed) = true) :
    KeepsExcess mvs := by
  obtain ⟨x, hx, hp, hr⟩ := Reachable.of_replay pairPool mvs _ h
  obtain ⟨hc, hs⟩ := of_decide_eq_true hp
  exact ⟨x, hx, hr, hc, hs⟩

/-- **Members are put aside above the limit**: one that was opened meanwhile, one that has answered
its probe, and one that is passed on. -/
theorem kept_in_excess :
    KeepsExcess openedInExcess ∧ KeepsExcess probedInExcess ∧ KeepsExcess passedOnInExcess :=
  ⟨.of_replay (by decide +kernel), .of_replay (by decide +kernel), .of_replay (by decide +kernel)⟩

end Site

end SessionPool
