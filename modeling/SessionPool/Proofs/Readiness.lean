import SessionPool.Proofs.Course
import SessionPool.Proofs.Expiry
import SessionPool.Proofs.Powers

/-!
# Whether a pool was filled

A pool notes that it is filled when a session is entered that was opened, and looks once more when
its sizes are changed. Nothing else touches the note or gives the pool a further open session
(`Pool.KeepsFlag`, `Site.flag_move`). A standard pool that has as many sessions as it is to have at
least is therefore noted as filled, and one that is noted as filled has had that many at some moment
since its sizes were last set (`Site.HasReached`); a null pool is noted as filled if and only if a
session was opened (`Site.Course.filled_exact`). Whoever waits for a pool goes by that note.
-/

set_option autoImplicit false

namespace SessionPool

namespace Pool

variable {now : Instant} {G : Power → Prop} {p q r : Pool} {m : Member}

/-! ## The note -/

/-- Nothing happens that has to do with whether the pool is filled: no session is entered, and no
size is changed. -/
structure KeepsFlag (p q : Pool) : Prop where
  settings : q.settings = p.settings
  minSize : q.minSize = p.minSize
  filled : q.filled = p.filled
  live : q.live ≤ p.live

theorem KeepsFlag.refl (p : Pool) : p.KeepsFlag p := ⟨rfl, rfl, rfl, le_rfl⟩

theorem KeepsFlag.trans (h : p.KeepsFlag q) (h' : q.KeepsFlag r) : p.KeepsFlag r where
  settings := h'.settings.trans h.settings
  minSize := h'.minSize.trans h.minSize
  filled := h'.filled.trans h.filled
  live := h'.live.trans h.live

theorem KeepsFlag.isNull (h : p.KeepsFlag q) : q.isNull = p.isNull := by
  rw [Pool.isNull, Pool.isNull, h.settings]

theorem KeepsFlag.of_le (hs : q.settings = p.settings) (hm : q.minSize = p.minSize)
    (hf : q.filled = p.filled) (hz : q.size ≤ p.size) (ho : p.opening ≤ q.opening) :
    p.KeepsFlag q where
  settings := hs
  minSize := hm
  filled := hf
  live := by
    simp only [Pool.live]
    omega

theorem Change.keepsFlag (h : Change now G p q) (hE : ¬ G .enter) (hR : ¬ G .resize) :
    p.KeepsFlag q := by
  cases h with
  | aside h =>
    exact .of_le (congrArg View.settings h) (congrArg View.minSize h) (congrArg View.filled h)
      (congrArg View.size h).le (congrArg View.opening h).ge
  | reserve => exact ⟨rfl, rfl, rfl, (live_reserve p).le⟩
  | unreserve =>
    refine ⟨rfl, rfl, rfl, ?_⟩
    simp only [Pool.live, Pool.unreserve]
    omega
  | drop n => exact .of_le rfl rfl rfl (Nat.sub_le _ _) le_rfl
  | shut _ => exact .of_le rfl rfl rfl (Nat.sub_le _ _) le_rfl
  | enter h _ => exact absurd h hE
  | size h | fill h => exact absurd h hR
  | queue | leave | unpark | park | expire | offer | fail | hangUp | withdraw | enroll | reset
  | stop | take | depart | staff => exact .of_le rfl rfl rfl le_rfl le_rfl

theorem Changes.keepsFlag (h : Changes now G p q) (hE : ¬ G .enter) (hR : ¬ G .resize) :
    p.KeepsFlag q := by
  induction h with
  | refl => exact .refl p
  | step _ c ih => exact ih.trans (c.keepsFlag hE hR)

/-- What anybody may do has nothing to do with whether the pool is filled. -/
theorem Changes.keepsFlag_of_none (h : Changes now (fun _ => False) p q) : p.KeepsFlag q :=
  h.keepsFlag id id

theorem keepsFlag_topUp : p.KeepsFlag p.topUp := by
  have h : Changes .origin (fun _ => False) p p.topUp := .topUp
  exact h.keepsFlag_of_none

/-- A standard pool that has as many sessions as it is to have is noted as filled. -/
def FlagUp (p : Pool) : Prop := p.isNull = false → p.minSize ≤ p.live → p.filled = true

theorem FlagUp.keep (hp : p.FlagUp) (h : p.KeepsFlag q) : q.FlagUp := by
  intro hn hm
  rw [h.isNull] at hn
  rw [h.minSize] at hm
  exact h.filled.trans (hp hn (hm.trans h.live))

/-! ## Sessions that are entered -/

section Enter

variable {elapsed : Duration}

theorem live_countOpened : (p.countOpened elapsed).live = p.size - (p.opening - 1) := by
  have ho : (p.countOpened elapsed).opening = p.opening - 1 :=
    congrArg View.opening (p.view_countOpened elapsed)
  rw [live, size_countOpened, ho]

theorem filled_countOpened : (p.countOpened elapsed).filled = true ↔
    p.filled = true ∨ p.isNull = true ∨ p.minSize ≤ (p.countOpened elapsed).live := by
  have h : (p.countOpened elapsed).filled = _ := congrArg View.filled (p.view_countOpened elapsed)
  rw [h, live_countOpened]
  simp [or_assoc]

theorem flagUp_countOpened : (p.countOpened elapsed).FlagUp := by
  intro _ hm
  rw [minSize_countOpened] at hm
  exact filled_countOpened.2 (.inr (.inr hm))

/-- An open pool that keeps its sessions keeps the one that it is given. -/
theorem live_deliver (hc : p.closed = false) (hn : p.isNull = false) :
    (p.deliver m now).live = p.live := by
  unfold deliver
  rw [if_neg (by simp [hc, hn])]
  dsimp only
  rcases p.waiting.fulfill_cases (m.inStage .idle) now with
    ⟨before, r, after, -, -, -, hf⟩ | ⟨-, hf⟩ <;> rw [hf]
  · rfl
  · dsimp only
    rw [if_neg]
    · rfl
    · simpa [isNull] using hn

end Enter

/-! ## Sizes that are changed -/

/-- When its sizes are changed, a standard pool looks anew whether it is filled. -/
theorem filled_resize {lo : Nat} {hi : Option Nat} (h : p.resize lo hi = .ok q) :
    q.isNull = p.isNull ∧ (q.isNull = true → q.filled = p.filled) ∧
      (q.isNull = false → (q.filled = true ↔ q.minSize ≤ q.live)) := by
  unfold resize at h
  split at h
  · cases h
  · rename_i lo hi _
    split at h
    · cases h
    · -- what is closed is not open any more, and the sizes are the new ones from now on
      have closed : Changes .origin (fun _ => False) { p with minSize := lo, maxSize := hi } _ :=
        Changes.weedExcess.trans (Changes.closeAll
          (Pool.weedExcess { p with minSize := lo, maxSize := hi }).2 _)
      have shed := closed.keepsFlag_of_none
      dsimp only at h
      split at h
      · rename_i hn
        cases h
        have h := shed.trans keepsFlag_topUp
        refine ⟨h.isNull, fun _ => h.filled, fun hf => ?_⟩
        rw [keepsFlag_topUp.isNull, hn] at hf
        cases hf
      · rename_i hn
        cases h
        refine ⟨?_, fun ht => ?_, fun _ => ?_⟩
        · exact keepsFlag_topUp.isNull.trans shed.isNull
        · rw [keepsFlag_topUp.isNull] at ht
          exact absurd ht hn
        · rw [keepsFlag_topUp.filled, keepsFlag_topUp.minSize, live_topUp]
          simp only [decide_eq_true_eq]
          have hm := shed.minSize
          exact hm ▸ Iff.rfl

/-- What becomes of a pool with a session that is entered. -/
structure Enters (elapsed : Duration) (p q : Pool) : Prop where
  keeps : (p.countOpened elapsed).KeepsFlag q
  live : p.closed = false → p.isNull = false → q.live = (p.countOpened elapsed).live

theorem enters_join (m : Member) (elapsed : Duration) (now : Instant) :
    p.Enters elapsed (p.join m elapsed now) where
  keeps := by
    have h : Changes now (fun _ => False) (p.countOpened elapsed) (p.join m elapsed now) := .deliver
    exact h.keepsFlag_of_none
  live := fun hc hn => by
    exact live_deliver (closed_countOpened.trans hc) (isNull_countOpened.trans hn)

theorem enters_takeOver (m : Member) (elapsed : Duration) :
    p.Enters elapsed (p.takeOver m elapsed).1 := by
  have discarded : Changes .origin (fun _ => False) (p.countOpened elapsed)
      ((p.countOpened elapsed).discard m) := .discard
  unfold takeOver
  dsimp only
  split
  · rename_i hc
    refine ⟨discarded.keepsFlag_of_none, fun hn => ?_⟩
    rw [closed_countOpened, hn] at hc
    cases hc
  · exact ⟨.refl _, fun _ _ => rfl⟩

end Pool

variable {env env' : Env} {p q : Pool} {m : Member}

namespace Job

theorem powers_enter (j : Job) : j.powers .enter ↔ j.opened?.isSome := by
  cases j with
  | adding a =>
    obtain ⟨waiter, attempt, delay, phase⟩ := a
    cases phase <;> simp [powers, Adding.powers, opened?]
  | returning _ | closing _ | maintaining => simp [powers, Returning.powers, opened?]

theorem enters {j : Job} (hj : j.opened? = some m) {s : Stepped Job Unit}
    (h : j.step env p = some s) : ∃ elapsed, p.Enters elapsed s.2.1 := by
  cases j with
  | adding a =>
    obtain ⟨waiter, attempt, delay, phase⟩ := a
    cases phase with
    | joining m elapsed =>
      cases h
      exact ⟨elapsed, Pool.enters_join m elapsed env.now⟩
    | opening | failing | resting | releasing => cases hj
  | returning | closing | maintaining => cases hj

end Job

namespace Operation

theorem powers_enter (o : Operation) : o.powers .enter ↔ o.opened?.isSome := by
  cases o with
  | acquire a => cases a <;> simp [powers, Acquiring.powers, opened?]
  | release _ | misplace _ | wait _ | check _ | close _ =>
    simp [powers, Returning.powers, Closing.powers, opened?]

theorem enters {o : Operation} (ho : o.opened? = some m) {s : Stepped Operation Outcome}
    (h : o.step env p = some s) : ∃ elapsed, p.Enters elapsed s.2.1 := by
  cases o with
  | acquire a =>
    cases a with
    | takingOver m elapsed =>
      cases h
      refine ⟨elapsed, ?_⟩
      show p.Enters elapsed (Acquiring.conclude env (p.takeOver m elapsed)).2.1
      rw [Acquiring.pool_conclude]
      exact Pool.enters_takeOver m elapsed
    | arriving | queued | givingUp | calling | dialing | countingFailure | vacating | failing =>
      cases ho
  | release | misplace | wait | check | close => cases ho

end Operation

namespace Site

variable {s s' : Site} {past : List Moment} {mv : Move}

/-! ## Moves -/

/-- Whether the sizes of the pool are changed with the move. -/
def resizes (s : Site) : Move → Bool
  | .resize lo hi => (s.pool.resize lo hi).isOk
  | _ => false

theorem resizes_eq_false (h : ∀ lo hi, mv ≠ .resize lo hi) : s.resizes mv = false := by
  unfold resizes
  split
  · exact absurd rfl (h _ _)
  · rfl

theorem powers_enter (h : s.powers mv .enter) : (s.opened? mv).isSome := by
  cases wields h with
  | @job k j _ hg h =>
    rw [opened?, hg]
    exact j.powers_enter.1 h
  | @operation n o _ hg h =>
    rw [opened?, hg]
    exact o.powers_enter.1 h

theorem powers_resize (h : s.powers mv .resize) : ∃ lo hi, mv = .resize lo hi := by
  cases wields h with
  | @job _ j _ _ h => cases j <;> exact h.elim
  | @operation _ o _ _ h => cases o <;> exact h.elim
  | @resize lo hi => exact ⟨lo, hi, rfl⟩

theorem enters_move (h : s.move? env mv = some (env', s')) (hm : s.opened? mv = some m) :
    ∃ elapsed, s.pool.Enters elapsed s'.pool := by
  cases moved h with
  | worked hg hs =>
    rw [opened?, hg] at hm
    exact Job.enters hm hs
  | finished hg hs =>
    rw [opened?, hg] at hm
    obtain ⟨elapsed, he⟩ := Job.enters hm hs
    exact ⟨elapsed, he.keeps.trans ⟨rfl, rfl, rfl, le_rfl⟩, he.live⟩
  | wentOn hg hs | ended hg hs =>
    rw [opened?, hg] at hm
    exact Operation.enters hm hs
  | sought hg _ | took hg _ =>
    rw [opened?, hg] at hm
    cases hm
  | unheld hv _ => rcases hv with rfl | rfl | rfl <;> cases hm
  | ticked | closed | acquire | wait | check | close | release | misplace | cancelled | taken
  | untaken | giveBack | leaveBehind | abandoned | detach | use | resized | unsized | resetCounters
  | readOutcome | passed => cases hm

/-- **What a move has to do with whether the pool is filled:** nothing, unless a session is entered
or the sizes are changed with it. -/
theorem flag_move (ho : s.OrderlyShut) (h : s.move? env mv = some (env', s')) :
    s.opened? mv = none ∧ s.resizes mv = false ∧ s.pool.KeepsFlag s'.pool ∨
    (∃ m elapsed, s.opened? mv = some m ∧ s.resizes mv = false ∧
      s.pool.Enters elapsed s'.pool) ∨
    s.opened? mv = none ∧ s.resizes mv = true ∧ ∃ lo hi, s.pool.resize lo hi = .ok s'.pool := by
  cases hm : s.opened? mv with
  | some m =>
    obtain ⟨elapsed, he⟩ := enters_move h hm
    refine .inr (.inl ⟨m, elapsed, rfl, resizes_eq_false ?_, he⟩)
    rintro _ _ rfl
    cases hm
  | none =>
    have hE : ¬ s.powers mv .enter := fun hE => by
      have he := powers_enter hE
      rw [hm] at he
      cases he
    by_cases hR : s.powers mv .resize
    · obtain ⟨lo, hi, rfl⟩ := powers_resize hR
      cases moved h with
      | resized hq =>
        refine .inr (.inr ⟨rfl, ?_, lo, hi, hq⟩)
        rw [resizes, hq]
        rfl
      | unsized hq =>
        refine .inl ⟨rfl, ?_, .refl _⟩
        rw [resizes, hq]
        rfl
      | unheld hv _ => rcases hv with hv | hv | hv <;> cases hv
    · refine .inl ⟨rfl, resizes_eq_false ?_, (changes_move ho h).keepsFlag hE hR⟩
      rintro _ _ rfl
      exact hR rfl

/-! ## Opening a pool -/

/-- A new pool has no open session. It is noted as filled if it is to have none, and if it keeps
sessions at all. -/
theorem flag_create {settings : PoolSettings} {options : ConnectOptions} {hooks : Hooks}
    (h : create env settings options hooks = (env', .ok s)) :
    s.pool.FlagUp ∧
      (s.pool.isNull = false → s.pool.filled = true → s.pool.minSize ≤ s.pool.live) ∧
      (s.pool.isNull = true → s.pool.filled = false) := by
  obtain ⟨p, hf, hl, hs⟩ : ∃ p : Pool, p.filled = false ∧ p.live = 0 ∧ s.pool = fill p := by
    unfold create at h
    split at h
    · cases h
    · cases h
    · cases h
      exact ⟨_, rfl, rfl, rfl⟩
  rw [hs]
  unfold fill
  split
  · rename_i hk
    have hn (x : Pool) (hx : x.settings = p.settings) : x.isNull = false := by
      simp [Pool.isNull, hx, hk]
    by_cases hz : p.minSize = 0
    · rw [if_pos hz]
      have kept : Pool.KeepsFlag { p with filled := true } _ := Pool.keepsFlag_topUp
      refine ⟨fun _ _ => kept.filled, fun _ _ => ?_, fun ht => ?_⟩
      · rw [kept.minSize]
        show p.minSize ≤ _
        omega
      · rw [hn _ kept.settings] at ht
        cases ht
    · rw [if_neg hz]
      have kept : p.KeepsFlag p.topUp := Pool.keepsFlag_topUp
      refine ⟨fun _ hm => ?_, fun _ ht => ?_, fun ht => ?_⟩
      · rw [kept.minSize, Pool.live_topUp, hl] at hm
        omega
      · rw [kept.filled, hf] at ht
        cases ht
      · rw [hn _ kept.settings] at ht
        cases ht
  · rename_i hk
    have called : p.Changes .origin (fun _ => False) (p.dispatchAdd none).1 := .dispatchAdd none
    have kept := called.keepsFlag_of_none
    have hn : (p.dispatchAdd none).1.isNull = true := by
      rw [kept.isNull]
      simp [Pool.isNull, hk]
    refine ⟨fun ht => ?_, fun ht => ?_, fun _ => kept.filled.trans hf⟩
    · rw [hn] at ht
      cases ht
    · rw [hn] at ht
      cases ht

/-! ## Courses -/

/-- The pool has had as many sessions as it is to have at least, now or at some moment since it was
opened or its sizes were last changed. -/
def HasReached (past : List Moment) (s : Site) : Prop :=
  s.pool.minSize ≤ s.pool.live ∨
    ∃ x ∈ past.takeWhile fun x => !x.site.resizes x.move, x.site.pool.minSize ≤ x.site.pool.live

/-- A session was opened and entered since the pool was opened. -/
def HasOpened (past : List Moment) : Prop := ∃ x ∈ past, (x.site.opened? x.move).isSome = true

/-- What was reached before a move that does not change the sizes has been reached after it. -/
theorem HasReached.move (h : HasReached past s) (hr : s.resizes mv = false) :
    HasReached (⟨env, s, mv⟩ :: past) s' := by
  have hw : (⟨env, s, mv⟩ :: past).takeWhile (fun x : Moment => !x.site.resizes x.move) =
      ⟨env, s, mv⟩ :: past.takeWhile fun x => !x.site.resizes x.move := by
    rw [List.takeWhile_cons_of_pos]
    simpa using hr
  refine .inr ?_
  rw [hw]
  rcases h with h | ⟨x, hx, h⟩
  · exact ⟨_, List.mem_cons_self, h⟩
  · exact ⟨x, List.mem_cons_of_mem _ hx, h⟩

theorem hasOpened_cons {x : Moment} :
    HasOpened (x :: past) ↔ (x.site.opened? x.move).isSome = true ∨ HasOpened past := by
  simp [HasOpened]

/-- What the note that the pool is filled is worth, and what whoever waits for it makes of it. -/
structure Ready (past : List Moment) (env : Env) (s : Site) : Prop where
  raised : s.pool.isNull = false → s.pool.minSize ≤ s.pool.live → s.pool.filled = true
  reached : s.pool.isNull = false → s.pool.closed = false → s.pool.filled = true →
    HasReached past s
  opened : s.pool.isNull = true → (s.pool.filled = true ↔ HasOpened past)
  /-- Nobody waits any longer for an open pool that is filled. -/
  prompt : ∀ n cutoff timeout, Table.get? s.operations n = some (.wait (.waiting cutoff timeout)) →
    s.pool.closed = false → (s.pool.isNull = false → s.pool.minSize ≤ s.pool.live) →
    (s.pool.isNull = true → HasOpened past) → s.stepUser env n = some (env, s.conclude n .done)
  /-- Whoever is told that the pool is filled may rely on it. -/
  honest : ∀ n w env' q, Table.get? s.operations n = some (.wait w) →
    w.step env s.pool = some (env', q, .done (.ok ())) →
    (s.pool.isNull = false → s.pool.closed = false → HasReached past s) ∧
      (s.pool.isNull = true → HasOpened past)

/-- The note goes with what the pool has been through. -/
theorem Course.flag (h : Course past env s) :
    s.pool.FlagUp ∧
      (s.pool.isNull = false → s.pool.closed = false → s.pool.filled = true →
        HasReached past s) ∧
      (s.pool.isNull = true → (s.pool.filled = true ↔ HasOpened past)) := by
  induction h with
  | created h =>
    obtain ⟨hu, hr, hn⟩ := flag_create h
    refine ⟨hu, fun hs _ hf => .inl (hr hs hf), fun hs => ?_⟩
    simp [hn hs, HasOpened]
  | @moved past env env' s s' mv hp hm ih =>
    have hr := hp.reachable
    have steady := hr.steady hm
    have hnull := steady.isNull
    obtain ⟨hu, hreached, hopened⟩ := ih
    rw [hnull, hasOpened_cons]
    rcases flag_move hr.orderlyShut hm with
      ⟨hn, hs, kept⟩ | ⟨m, elapsed, ho, hs, entered⟩ | ⟨hn, -, lo, hi, hq⟩
    · refine ⟨hu.keep kept, fun ht hc hf => ?_, fun ht => ?_⟩
      · rw [kept.filled] at hf
        exact (hreached ht (steady.unclosed hc) hf).move hs
      · rw [kept.filled, hopened ht]
        simp [hn]
    · refine ⟨Pool.flagUp_countOpened.keep entered.keeps, fun ht hc hf => ?_, fun ht => ?_⟩
      · rw [entered.keeps.filled, Pool.filled_countOpened] at hf
        rcases hf with hf | hf | hf
        · exact (hreached ht (steady.unclosed hc) hf).move hs
        · rw [ht] at hf
          cases hf
        · refine .inl ?_
          rw [entered.keeps.minSize, Pool.minSize_countOpened, entered.live (steady.unclosed hc) ht]
          exact hf
      · rw [entered.keeps.filled, Pool.filled_countOpened]
        simp [ho, ht]
    · obtain ⟨-, hf, hl⟩ := Pool.filled_resize hq
      rw [hnull] at hf hl
      refine ⟨fun ht hm => ?_, fun ht _ hf => .inl ((hl ht).1 hf), fun ht => ?_⟩
      · rw [hnull] at ht
        exact (hl ht).2 hm
      · rw [hf ht, hopened ht]
        simp [hn]

/-- Only a pool that is noted as filled is reported as such. -/
theorem filled_of_wait {w : Waiting} (h : w.step env s.pool = some (env', q, .done (.ok ()))) :
    s.pool.filled = true := by
  cases w with
  | starting timeout =>
    simp only [Waiting.step] at h
    split at h <;> cases h
  | waiting cutoff timeout =>
    simp only [Waiting.step] at h
    split at h
    · cases h
    · split at h
      · assumption
      · split at h <;> cases h

/-- **The note that a pool is filled is exact**, and so is what those learn who wait for it. -/
theorem Course.filled_exact (h : Course past env s) : Ready past env s := by
  obtain ⟨raised, reached, opened⟩ := h.flag
  refine ⟨raised, reached, opened, fun n cutoff timeout hg hc hm ho => ?_,
    fun n w env' q _ hw => ?_⟩
  · have hf : s.pool.filled = true := by
      cases hn : s.pool.isNull with
      | false => exact raised hn (hm hn)
      | true => exact (opened hn).2 (ho hn)
    have hs : s.pool.crew.stopped = false := by
      by_contra hs
      rw [Bool.not_eq_false] at hs
      rw [h.reachable.orderlyShut.stopped hs] at hc
      cases hc
    simp [stepUser, hg, Operation.step, Waiting.step, hs, hf, Next.map, Outcome.ofResult]
  · have hf := filled_of_wait hw
    exact ⟨fun hn hc => reached hn hc hf, fun hn => (opened hn).1 hf⟩

/-- Somebody waits for a small pool when its session has been opened, and is told so. -/
theorem Course.filled_exact_small :
    ∃ past env s, Course past env s ∧ s.pool.minSize = 1 ∧ s.pool.filled = true ∧
      HasReached past s ∧ s.stepUser env 0 = some (env, s.conclude 0 .done) := by
  obtain ⟨x, -, hp, hr⟩ := Reachable.of_replay smallPool
    [.wait 0 (.ofSecs 30), .step (.user 0), .step (.worker 0), .step (.worker 0), .step (.worker 0)]
    (fun x => x.2.pool.minSize = 1 ∧ x.2.pool.live = 1 ∧ x.2.pool.isNull = false ∧
      x.2.pool.closed = false ∧ (Table.get? x.2.operations 0).any fun o => match o with
        | .wait (.waiting _ _) => true
        | _ => false)
    (by decide +kernel)
  obtain ⟨hm, hl, hn, hc, ho⟩ := of_decide_eq_true hp
  obtain ⟨past, course⟩ := hr.course
  have ready := course.filled_exact
  have hml : x.2.pool.minSize ≤ x.2.pool.live := by omega
  obtain ⟨o, hg, ho⟩ := (Option.any_eq_true _ _).1 ho
  obtain ⟨cutoff, timeout, rfl⟩ : ∃ cutoff timeout, o = .wait (.waiting cutoff timeout) := by
    split at ho
    · exact ⟨_, _, rfl⟩
    · cases ho
  refine ⟨past, x.1, x.2, course, hm, ready.raised hn hml, ?_, ?_⟩
  · exact ready.reached hn hc (ready.raised hn hml)
  · exact ready.prompt 0 cutoff timeout hg hc (fun _ => hml) fun ht => by
      rw [hn] at ht
      cases ht

end Site

end SessionPool
