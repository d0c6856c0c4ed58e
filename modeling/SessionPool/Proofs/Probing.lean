import SessionPool.Proofs.Checking
import SessionPool.Proofs.Excess
import SessionPool.Proofs.Ripeness

/-!
# Probing the unused members

While a check goes on, others take members and put them back (`Site.Checkup`). They put them behind
those that the check still has to come to (`Site.idle_move`), so that it comes to each member that
was unused in the beginning unless somebody else takes it first. `Site.probes_all` is all of it
together: which members are probed, how many, what becomes of them, and that the check comes to its
end.
-/

set_option autoImplicit false

namespace SessionPool

/-! ## Checks among what others do -/

theorem Job.mem_stake_of_frees {j : Job} {source : Source} {m : Member}
    (h : j.frees? = some (source, m)) : m.id ∈ j.stake.counted ∨ m.id ∈ j.stake.spare := by
  unfold Job.frees? at h
  split at h
  · rename_i a
    split at h
    · rename_i hp
      cases h
      exact .inr (by simp [Job.stake, Adding.stake, Adding.joining, hp])
    all_goals cases h
  · cases h
    exact .inl (by simp [Job.stake, Returning.stake, Returning.counted])
  all_goals cases h

theorem Operation.mem_stake_of_frees {o : Operation} {source : Source} {m : Member}
    (h : o.frees? = some (source, m)) : m.id ∈ o.stake.counted := by
  unfold Operation.frees? at h
  split at h
  · cases h
    simp [Operation.stake, Returning.stake, Returning.counted]
  · cases h
    simp [Operation.stake, Checking.stake, Checking.member?]
  all_goals cases h

namespace Site

open Checking

variable {n : Nat} {env env' : Env} {s s' : Site} {past : List Moment} {c : Checking} {mv : Move}
  {next : Next Checking (Except PoolError Unit)}

/-! ### The unused members -/

/-- A member that becomes free is not among the unused ones. -/
theorem not_idle_of_frees (h : Reachable env s) {source : Source} {m : Member}
    (hf : s.frees? mv = some (source, m)) : m.id ∉ s.pool.idle.map Member.id := by
  suffices elsewhere : m.id ∈ idsOf s.pool.waiting.delivered ∨ m.id ∈ s.stake.counted ∨
      m.id ∈ s.stake.spare from fun hi => h.balanced.not_idle elsewhere (Multiset.mem_coe.2 hi)
  unfold frees? at hf
  split at hf
  · obtain ⟨j, hj, hf⟩ := Option.bind_eq_some_iff.1 hf
    rw [stake_job h.keyed hj]
    exact .inr ((Job.mem_stake_of_frees hf).imp (fun hm => Multiset.mem_add.2 (.inl hm))
      fun hm => Multiset.mem_add.2 (.inl hm))
  · obtain ⟨o, ho, hf⟩ := Option.bind_eq_some_iff.1 hf
    rw [stake_operation h.keyed ho]
    exact .inr (.inl (Multiset.mem_add.2 (.inl (Operation.mem_stake_of_frees hf))))
  · obtain ⟨o, ho, hf⟩ := Option.bind_eq_some_iff.1 hf
    unfold Operation.passesOn? at hf
    split at hf
    · obtain ⟨m', hu, hx⟩ := Option.map_eq_some_iff.1 hf
      cases hx
      exact .inl (Multiset.mem_coe.2 (List.mem_map_of_mem
        (List.mem_filterMap.2 ⟨_, Pool.mem_of_undelivered hu, rfl⟩)))
    all_goals cases hf
  · cases hf

theorem Reachable.idle_nodup (h : Reachable env s) : (s.pool.idle.map Member.id).Nodup := by
  have distinct := h.balanced.numbered_members.1
  have : idsOf s.pool.idle ≤ idsOf s.pool.members + s.stake.counted + s.stake.spare := by
    simp only [Pool.members, idsOf_append, add_assoc]
    exact Multiset.le_add_right _ _
  exact Multiset.coe_nodup.1 (Multiset.nodup_of_le this distinct)

/-- With a move members are taken from anywhere, and at most one is put behind the others. -/
theorem idle_move (h : Reachable env s) (hm : s.move? env mv = some (env', s')) :
    ∃ more, s'.pool.idle.Sublist (s.pool.idle ++ more) ∧
      ((s.pool.idle ++ more).map Member.id).Nodup := by
  rcases calm_or_frees hm with calm | ⟨source, m, hf, frees⟩
  · refine ⟨[], ?_, ?_⟩ <;> rw [List.append_nil]
    · exact calm.idle
    · exact h.idle_nodup
  · obtain ⟨m', hi, -, admits⟩ := frees.admits
    refine ⟨[m'], admits.idle, ?_⟩
    rw [List.map_append]
    refine List.nodup_append.2 ⟨h.idle_nodup, List.nodup_singleton _, ?_⟩
    rintro id hid _ hm' rfl
    rw [List.mem_singleton.1 hm', hi] at hid
    exact not_idle_of_frees h hf hid

/-! ### The course of a check -/

def Moment.turn? (n : Nat) (x : Moment) : Option Turn :=
  match x.move, Table.get? x.site.operations n with
  | .step (.user k), some (.check c) => if k = n then
      (c.step x.env x.site.pool).map fun y => ⟨⟨x.env, x.site.pool, y.1, y.2.1⟩, c⟩ else none
  | _, _ => none

/-- The steps that a check has made, the latest first. -/
def turns (n : Nat) (past : List Moment) : List Turn := past.filterMap (Moment.turn? n)

/-- What happens during a check, the latest first. It begins when a user calls for it, and from then
on anything may happen, in any order, as long as the check goes on; but nobody gives it up, and the
pool stays open. -/
inductive Checkup (n : Nat) : List Moment → Env → Site → Prop
  | begins {env env' : Env} {s s' : Site} (h : Reachable env s)
      (hm : s.move? env (.check n) = some (env', s')) : Checkup n [] env' s'
  | goesOn {past : List Moment} {env env' : Env} {s s' : Site} {mv : Move}
      (h : Checkup n past env s) (going : ∃ c, Table.get? s.operations n = some (.check c))
      (opens : s.pool.closed = false) (kept : mv ≠ .cancel n)
      (hm : s.move? env mv = some (env', s')) : Checkup n (⟨env, s, mv⟩ :: past) env' s'

theorem Checkup.reachable (h : Checkup n past env s) : Reachable env s := by
  induction h with
  | begins h hm | goesOn _ _ _ _ hm h => exact h.moved hm

def IsAt (n : Nat) (s : Site) : Next Checking (Except PoolError Unit) → Prop
  | .more c => Table.get? s.operations n = some (.check c)
  | .done _ => Table.get? s.operations n = none

/-- What the user of a check does with a step is the next step of the check. -/
theorem turn_of_step (hg : Table.get? s.operations n = some (.check c))
    (hm : s.move? env (.step (.user n)) = some (env', s')) :
    ∃ next, c.step env s.pool = some (env', s'.pool, next) ∧ s'.IsAt n next := by
  cases moved hm with
  | wentOn hg' hs =>
    obtain rfl := Option.some.inj (hg.symm.trans hg')
    cases Operation.goesOn hs with
    | check hc => exact ⟨_, hc, Table.get?_update_self hg _⟩
  | ended hg' hs =>
    obtain rfl := Option.some.inj (hg.symm.trans hg')
    obtain ⟨⟨e, q, next⟩, hc, he⟩ := Option.map_eq_some_iff.1 hs
    cases next with
    | more c' => cases he
    | done result =>
      cases he
      exact ⟨_, hc, Table.get?_remove_self _ _⟩
  | unheld hv => rcases hv with hv | hv | hv <;> cases hv

/-- The same, by how far the check has come. -/
inductive Went (n : Nat) : List Moment → Env → Site → Next Checking (Except PoolError Unit) → Prop
  | begins {env : Env} {s : Site} (reached : Reachable env s) : Went n [] env s (.more .starting)
  | turned {past : List Moment} {env env' : Env} {s s' : Site} {c : Checking}
      {next : Next Checking (Except PoolError Unit)} (h : Went n past env s (.more c))
      (reached : Reachable env s) (opens : s.pool.closed = false)
      (going : Table.get? s.operations n = some (.check c))
      (hm : s.move? env (.step (.user n)) = some (env', s'))
      (step : c.step env s.pool = some (env', s'.pool, next)) :
      Went n (⟨env, s, .step (.user n)⟩ :: past) env' s' next
  | waited {past : List Moment} {env env' : Env} {s s' : Site} {c : Checking} {mv : Move}
      (h : Went n past env s (.more c)) (reached : Reachable env s)
      (going : Table.get? s.operations n = some (.check c)) (other : mv ≠ .step (.user n))
      (hm : s.move? env mv = some (env', s')) : Went n (⟨env, s, mv⟩ :: past) env' s' (.more c)

theorem Checkup.went (h : Checkup n past env s) :
    ∃ next, s.IsAt n next ∧ Went n past env s next := by
  induction h with
  | begins h hm =>
    have reached := h.moved hm
    obtain ⟨rfl, hn, rfl⟩ := begin?_map hm
    exact ⟨.more .starting, Table.get?_append_self hn _, .begins reached⟩
  | @goesOn past env env' s s' mv h going opens kept hm ih =>
    obtain ⟨c, hg⟩ := going
    obtain ⟨next, here, went⟩ := ih
    cases next with
    | done result => cases here.symm.trans hg
    | more c' =>
      obtain rfl : c' = c := by cases here.symm.trans hg; rfl
      by_cases hv : mv = .step (.user n)
      · subst hv
        obtain ⟨next, step, here⟩ := turn_of_step hg hm
        exact ⟨next, here, went.turned h.reachable opens hg hm step⟩
      · exact ⟨.more c', operation_move hm hg hv kept, went.waited h.reachable hg hv hm⟩

theorem turns_turned (hg : Table.get? s.operations n = some (.check c))
    (step : c.step env s.pool = some (env', s'.pool, next)) :
    turns n (⟨env, s, .step (.user n)⟩ :: past) =
      ⟨⟨env, s.pool, env', s'.pool⟩, c⟩ :: turns n past := by
  refine List.filterMap_cons_some ?_
  simp [Moment.turn?, hg, step]

theorem turns_waited (hv : mv ≠ .step (.user n)) :
    turns n (⟨env, s, mv⟩ :: past) = turns n past := by
  refine List.filterMap_cons_none ?_
  unfold Moment.turn?
  dsimp only
  split
  · rw [if_neg]
    rintro rfl
    exact hv rfl
  · rfl

/-- The pool is responsible for a member that is being probed. -/
theorem size_pos_of_check (h : Reachable env s) (hg : Table.get? s.operations n = some (.check c))
    {m : Member} (hm : c.member? = some m) : 0 < s.pool.size := by
  have size := h.balanced.size
  rw [stake_operation h.keyed hg, Operation.stake, Checking.stake, hm] at size
  simp only [Stake.counted_add, Multiset.card_add, Stake.ofCounted_counted, card_idsOf,
    Option.toList, List.length_singleton] at size
  omega

/-! ### Which members are probed -/

def Moment.IsUncounted (n : Nat) (x : Moment) : Prop :=
  ∃ c, Table.get? x.site.operations n = some (.check c) ∧ c.left? = none

/-- Somebody else takes the member with a number from the unused ones. -/
def Moment.Takes (n id : Nat) (x : Moment) : Prop :=
  x.move ≠ .step (.user n) ∧ id ∈ x.site.pool.idle.map Member.id ∧
    ∃ env' s', x.site.move? x.env x.move = some (env', s') ∧ id ∉ s'.pool.idle.map Member.id

/-- The member with a number was unused before the check counted. -/
def Wanted (n : Nat) (past : List Moment) (id : Nat) : Prop :=
  ∃ x ∈ past, x.IsUncounted n ∧ id ∈ x.site.pool.idle.map Member.id

/-- It was probed or is to be probed next, or somebody else has taken it. -/
def Gone (n : Nat) (past : List Moment) (c : Checking) (id : Nat) : Prop :=
  id ∈ c.picked ∨ id ∈ probed (turns n past) ∨ ∃ x ∈ past, x.Takes n id

/-- How a check stands that has come to a stage. -/
structure Stands (n : Nat) (past : List Moment) (s : Site) (c : Checking) : Prop where
  agree : Agree (turns n past) c
  sparing : Sparing (turns n past) c
  ahead : Checking.Ahead (Wanted n past) (Gone n past c) c.left? s.pool.idle

/-- The check comes to all unused members if there are probes for them. -/
theorem Stands.ahead_all (h : Stands n past s c) {left : Option Nat}
    (hl : ∀ n ∈ left, s.pool.idle.length ≤ n) :
    Checking.Ahead (Wanted n (⟨env, s, mv⟩ :: past)) (Gone n past c) left s.pool.idle := by
  refine h.ahead.all hl fun id hid => ?_
  obtain ⟨x, hx, hu, hid⟩ := hid
  rcases List.mem_cons.1 hx with rfl | hx
  · exact .inl hid
  · exact .inr ⟨x, hx, hu, hid⟩

theorem Stands.ahead_now (h : Stands n past s c)
    (hg : Table.get? s.operations n = some (.check c)) :
    Checking.Ahead (Wanted n (⟨env, s, mv⟩ :: past)) (Gone n past c) c.left? s.pool.idle := by
  by_cases hc : c.left? = none
  · exact h.ahead_all (by simp [hc])
  · refine h.ahead.imp (fun id hid => ?_) fun _ => id
    obtain ⟨x, hx, hu, hid⟩ := hid
    rcases List.mem_cons.1 hx with rfl | hx
    · obtain ⟨c', hc', hl'⟩ := hu
      cases hg.symm.trans hc'
      exact absurd hl' hc
    · exact ⟨x, hx, hu, hid⟩

/-- What was gone stays gone: a member that was picked is probed. -/
theorem gone_turned {c' : Checking} {id : Nat} {x : Moment} {t : Turn}
    (hx : turns n (x :: past) = t :: turns n past) (ht : t.stage = c) (h : Gone n past c id) :
    Gone n (x :: past) c' id := by
  have rows : probed (turns n (x :: past)) = c.picked ++ probed (turns n past) := by
    rw [hx, ← ht]
    rfl
  rcases h with h | h | ⟨y, hy, h⟩
  · exact .inr (.inl (rows ▸ List.mem_append_left _ h))
  · exact .inr (.inl (rows ▸ List.mem_append_right _ h))
  · exact .inr (.inr ⟨y, .tail _ hy, h⟩)

theorem Stands.turned (h : Stands n past s c) (reached : Reachable env s)
    (hg : Table.get? s.operations n = some (.check c)) (opens : s.pool.closed = false)
    (hn : s.pool.isNull = false) (step : c.step env s.pool = some (env', s'.pool, next)) :
    Stands n (⟨env, s, .step (.user n)⟩ :: past) s' (after next) := by
  have goes := goes_of_step step
  have row : turns n (⟨env, s, .step (.user n)⟩ :: past) =
      ⟨⟨env, s.pool, env', s'.pool⟩, c⟩ :: turns n past := turns_turned hg step
  refine ⟨?_, ?_, ?_⟩
  · rw [row]
    exact agree_turn h.agree goes
  · rw [row]
    exact sparing_turn h.sparing opens hn goes
  · have gone {c' : Checking} (id : Nat) (h : Gone n past c id) :
        Gone n (⟨env, s, .step (.user n)⟩ :: past) c' id := gone_turned row rfl h
    have now : Checking.Ahead (Wanted n (⟨env, s, .step (.user n)⟩ :: past)) (Gone n past c) c.left?
        s.pool.idle := h.ahead_now hg
    clear step
    generalize s'.pool = q at goes ⊢
    cases goes with
    | turnedAway away => simp [opens, hn] at away
    | breaksOff away => simp [opens] at away
    | starts | ends => exact now.imp (fun _ => id) gone
    | counts =>
      refine (h.ahead_all fun n hn => ?_).imp (fun _ => id) gone
      cases hn
      exact le_rfl
    | picks hi =>
      rw [hi] at now
      exact now.take.imp (fun _ => id) fun id hid => hid.elim .inl (gone id)
    | runsOut hi =>
      rw [hi] at now ⊢
      exact now.runOut.imp (fun _ => id) gone
    | asks answers | resumes answers =>
      obtain ⟨hl, -⟩ := answers.inHand
      rw [after_more, hl]
      exact now.imp (fun _ => id) gone
    | @judges left m health =>
      have size := size_pos_of_check reached hg rfl
      obtain ⟨more, hi⟩ := (Pool.judged_judge opens hn size m health env.now).idle
      rw [hi]
      exact (now.push more).imp (fun _ => id) gone

theorem Stands.waited (h : Stands n past s c) (reached : Reachable env s)
    (hg : Table.get? s.operations n = some (.check c)) (hv : mv ≠ .step (.user n))
    (hm : s.move? env mv = some (env', s')) : Stands n (⟨env, s, mv⟩ :: past) s' c := by
  have row : turns n (⟨env, s, mv⟩ :: past) = turns n past := turns_waited hv
  obtain ⟨more, idle, distinct⟩ := idle_move reached hm
  refine ⟨row ▸ h.agree, row ▸ h.sparing, ?_⟩
  refine ((h.ahead_now hg).thin idle distinct).imp (fun _ => id) fun id hid => ?_
  rcases hid with ⟨before, later⟩ | hp | hp | ⟨x, hx, ht⟩
  · exact .inr (.inr ⟨_, .head _, hv, before, env', s', hm, later⟩)
  · exact .inl hp
  · exact .inr (.inl (row ▸ hp))
  · exact .inr (.inr ⟨x, .tail _ hx, ht⟩)

theorem Went.stands (h : Went n past env s next) (hn : s.pool.isNull = false) :
    Stands n past s (after next) := by
  induction h with
  | begins =>
    exact ⟨⟨rfl, rfl⟩, ⟨fun _ => rfl, nofun⟩, _, [], (List.append_nil _).symm, nofun,
      fun id ⟨x, hx, _⟩ => absurd hx List.not_mem_nil⟩
  | turned h reached opens going hm step ih =>
    have hn := (reached.steady hm).isNull.symm.trans hn
    exact (ih hn).turned reached going opens hn step
  | waited h reached going other hm ih =>
    have hn := (reached.steady hm).isNull.symm.trans hn
    exact (ih hn).waited reached going other hm

theorem Went.judged (h : Went n past env s next) (hn : s.pool.isNull = false) :
    ∀ t ∈ turns n past, ∀ left m health, t.stage = .judging left m health →
      t.pool.Judged m health t.env.now t.pool' := by
  induction h with
  | begins => exact fun t ht => absurd ht List.not_mem_nil
  | @turned past env env' s s' c next h reached opens going hm step ih =>
    have hn := (reached.steady hm).isNull.symm.trans hn
    rw [turns_turned going step]
    intro t ht left m health hs
    rcases List.mem_cons.1 ht with rfl | ht
    · obtain rfl : c = .judging left m health := hs
      have size := size_pos_of_check reached going rfl
      have goes := goes_of_step step
      generalize hq : s'.pool = q at goes
      cases goes with
      | judges => exact hq ▸ Pool.judged_judge opens hn size m health env.now
    · exact ih hn t ht left m health hs
  | waited h reached going other hm ih =>
    rw [turns_waited other]
    exact ih ((reached.steady hm).isNull.symm.trans hn)

theorem Went.chain (h : Went n past env s next) :
    ((turns n past).map Turn.stage).IsChain Follows ∧
      ∀ c, next = .more c → (c :: (turns n past).map Turn.stage).IsChain Follows := by
  induction h with
  | begins => exact ⟨.nil, fun c _ => .singleton c⟩
  | turned h reached opens going hm step ih =>
    rw [turns_turned going step]
    refine ⟨ih.2 _ rfl, ?_⟩
    rintro c' rfl
    exact .cons_cons ⟨_, _, _, _, step⟩ (ih.2 _ rfl)
  | waited h reached going other hm ih =>
    rw [turns_waited other]
    exact ih

/-! ### Checks that are not disturbed -/

/-- Nobody else does anything; time may pass. -/
def Undisturbed (n : Nat) (past : List Moment) : Prop :=
  ∀ x ∈ past, x.move = .step (.user n) ∨ ∃ later, x.move = .pass later

theorem Stands.judged_eq_nil (h : Stands n past s c) (hl : c.left? = none) :
    judged (turns n past) = [] := h.agree.judged_eq_nil (h.sparing.uncounted hl)

/-- The unused members are the same until they are counted. -/
theorem Stands.before (h : Stands n past s c) (hg : Table.get? s.operations n = some (.check c))
    {all rest : List Nat} (inTurn : InTurn all rest (judged (turns n past)) s.pool c)
    (before : ∀ x ∈ past, x.IsUncounted n → x.site.pool.idle.map Member.id = all) :
    ∀ x ∈ (⟨env, s, mv⟩ : Moment) :: past, x.IsUncounted n →
      x.site.pool.idle.map Member.id = all := by
  intro x hx hu
  rcases List.mem_cons.1 hx with rfl | hx
  · obtain ⟨c', hc', hl⟩ := hu
    cases hg.symm.trans hc'
    exact inTurn.all_eq (h.judged_eq_nil hl) hl
  · exact before x hx hu

theorem Went.inTurn (h : Went n past env s next) (hn : s.pool.isNull = false)
    (alone : Undisturbed n past) : ∃ all rest,
      (∀ x ∈ past, x.IsUncounted n → x.site.pool.idle.map Member.id = all) ∧
        InTurn all rest (Checking.judged (turns n past)) s.pool (after next) := by
  induction h with
  | @begins env s reached =>
    refine ⟨s.pool.idle.map Member.id, s.pool.idle.map Member.id,
      fun x hx => absurd hx List.not_mem_nil, ?_, rfl, (List.append_nil _).symm, nofun⟩
    exact reached.orderly.apart.symm.imp_right fun hi => by rw [hi]; rfl
  | turned h reached opens going hm step ih =>
    have hn := (reached.steady hm).isNull.symm.trans hn
    have stands := h.stands hn
    obtain ⟨all, rest, before, inTurn⟩ := ih hn fun x hx => alone x (.tail _ hx)
    obtain ⟨rest', inTurn'⟩ := inTurn.turn opens hn (fun m hm => size_pos_of_check reached going hm)
      stands.judged_eq_nil (goes_of_step step)
    refine ⟨all, rest', stands.before going inTurn before, ?_⟩
    rw [turns_turned going step]
    exact inTurn'
  | waited h reached going other hm ih =>
    have hn := (reached.steady hm).isNull.symm.trans hn
    obtain ⟨all, rest, before, inTurn⟩ := ih hn fun x hx => alone x (.tail _ hx)
    obtain ⟨later, rfl⟩ := (alone _ (.head _)).resolve_left other
    refine ⟨all, rest, (h.stands hn).before going inTurn before, ?_⟩
    rw [turns_waited other]
    cases moved hm with
    | passed => exact inTurn
    | unheld hv => rcases hv with hv | hv | hv <;> cases hv

/-! ### Checks as a whole -/

/-- What a check has done so far. -/
structure Checked (n : Nat) (past : List Moment) : Prop where
  /-- At most as many members were probed as were unused when they were counted. -/
  few : probed (turns n past) = [] ∨ ∃ t ∈ turns n past, t.stage = .counting ∧
    (probed (turns n past)).length ≤ t.pool.idle.length
  /-- What a probe has found is entered: the member is in service again, or it is on its way to be
  closed. -/
  entered : ∀ t ∈ turns n past, ∀ left m health, t.stage = .judging left m health →
    t.pool.Judged m health t.env.now t.pool'
  follows : ((turns n past).map Turn.stage).IsChain Follows

/-- What a check has done when it is over. -/
structure Completed (n : Nat) (past : List Moment) (s : Site) : Prop where
  /-- Each member that was unused before the check counted was probed, unless somebody else took
  it. -/
  covered : ∀ x ∈ past, x.IsUncounted n → ∀ m ∈ x.site.pool.idle,
    m.id ∈ probed (turns n past) ∨ ∃ y ∈ past, y.Takes n m.id
  /-- Each probe has come to its end, and what it has found was entered. -/
  ended : (heard (turns n past)).map Prod.fst = probed (turns n past)
  entered : judged (turns n past) = heard (turns n past)
  /-- If nobody else did anything, the members were probed in their order, and those that are
  healthy have kept it. -/
  inOrder : Undisturbed n past →
    (∀ x ∈ past, x.IsUncounted n →
      x.site.pool.idle.map Member.id = (judged (turns n past)).reverse.map Prod.fst) ∧
    s.pool.idle.map Member.id =
      ((judged (turns n past)).reverse.filter Prod.snd).map Prod.fst

/-- **A check probes all unused members** of an open pool that keeps its sessions, whatever others
do meanwhile. It comes to its end, whatever the pool is like between its steps, and waits for
nothing but the pauses of its probes. -/
theorem probes_all (h : Checkup n past env s) (hn : s.pool.isNull = false) :
    Checked n past ∧ (Table.get? s.operations n = none → Completed n past s) ∧
      WellFounded Follows ∧ ∀ (c : Checking) env p, c.step env p = none →
        ∃ left m pause, c = .paused left m pause ∧ pause.timer.isDue env.now = false := by
  obtain ⟨next, here, went⟩ := h.went
  have stands := went.stands hn
  refine ⟨⟨?_, went.judged hn, went.chain.1⟩, fun ended => ?_, wellFounded_follows,
    fun c env p => waits⟩
  · cases hl : (after next).left? with
    | none => exact .inl (stands.sparing.uncounted hl)
    | some left =>
      obtain ⟨t, ht, hs, bound⟩ := stands.sparing.counted left hl
      exact .inr ⟨t, ht, hs, by omega⟩
  · cases next with
    | more c => cases here.symm.trans ended
    | done result =>
      refine ⟨fun x hx hu m hm => ?_, stands.agree.probed.symm, stands.agree.heard.symm,
        fun alone => ?_⟩
      · have gone := stands.ahead.all_gone ⟨x, hx, hu, List.mem_map_of_mem hm⟩
        exact gone.resolve_left List.not_mem_nil
      · obtain ⟨all, rest, before, inTurn⟩ := went.inTurn hn alone
        obtain rfl := List.length_eq_zero_iff.1 (inTurn.left 0 rfl)
        have parted : all = (judged (turns n past)).reverse.map Prod.fst :=
          inTurn.parted.trans (List.append_nil _)
        exact ⟨fun x hx hu => (before x hx hu).trans parted, inTurn.idle⟩

/-- The check makes so many steps while nobody else does anything. -/
def checkAlone (n : Nat) : Nat → List Moment × Env × Site → Option (List Moment × Env × Site)
  | 0, x => some x
  | k + 1, (past, env, s) =>
    match Table.get? s.operations n with
    | some (.check _) =>
      if s.pool.closed then none
      else (s.move? env (.step (.user n))).bind fun y =>
        checkAlone n k (⟨env, s, .step (.user n)⟩ :: past, y)
    | _ => none

theorem Checkup.alone {past' : List Moment} {k : Nat} (h : Checkup n past env s)
    (hp : Undisturbed n past) (hk : checkAlone n k (past, env, s) = some (past', env', s')) :
    Checkup n past' env' s' ∧ Undisturbed n past' := by
  induction k generalizing past env s with
  | zero =>
    cases hk
    exact ⟨h, hp⟩
  | succ k ih =>
    unfold checkAlone at hk
    split at hk
    · rename_i c hg
      split at hk
      · cases hk
      · rename_i hc
        obtain ⟨y, hm, hk⟩ := Option.bind_eq_some_iff.1 hk
        refine ih (h.goesOn ⟨c, hg⟩ (by simpa using hc)
          (show Move.step (.user n) ≠ .cancel n from nofun) hm) (fun x hx => ?_) hk
        rcases List.mem_cons.1 hx with rfl | hx
        · exact .inl rfl
        · exact hp x hx
    · cases hk

def firstIsMute : Hooks := { probe := fun call => if call = 0 then [.fail .lost] else [] }

/-- The check is over, the first of two members was replaced, and nobody has seen another loss. -/
def ReplacedFirst (x : List Moment × Env × Site) : Prop :=
  x.2.2.pool.isNull = false ∧ x.2.2.operations = [] ∧
    judged (turns 0 x.1) = [(2, true), (1, false)] ∧ x.2.2.pool.lost = 1

instance (x : List Moment × Env × Site) : Decidable (ReplacedFirst x) :=
  inferInstanceAs (Decidable (_ ∧ _ ∧ _ ∧ _))

theorem probes_all_firstIsMute : ∃ past env s, Checkup 0 past env s ∧ s.pool.isNull = false ∧
    Table.get? s.operations 0 = none ∧ Completed 0 past s ∧
    judged (turns 0 past) = [(2, true), (1, false)] ∧ s.pool.idle.map Member.id = [2] ∧
    s.pool.lost = 1 := by
  obtain ⟨⟨env, s⟩, hp, hr⟩ := Reachable.of_timeline pairPool firstIsMute
    [(.ofTick 0, bothOpened)] (fun x => (x.2.move? x.1 (.check 0)).any fun y =>
      (checkAlone 0 9 ([], y)).any fun z => decide (ReplacedFirst z)) (by decide +kernel)
  obtain ⟨⟨env', s'⟩, hm, hp⟩ := (Option.any_eq_true _ _).1 hp
  obtain ⟨⟨past, env'', s''⟩, hk, hp⟩ := (Option.any_eq_true _ _).1 hp
  obtain ⟨hn, ended, judged, lost⟩ := of_decide_eq_true hp
  have ended : Table.get? s''.operations 0 = none := by
    rw [show s''.operations = [] from ended]
    rfl
  obtain ⟨h, alone⟩ := (Checkup.begins hr hm).alone (fun x hx => absurd hx List.not_mem_nil) hk
  obtain ⟨-, completed, -⟩ := probes_all h hn
  refine ⟨past, env'', s'', h, hn, ended, completed ended, judged, ?_, lost⟩
  rw [((completed ended).inOrder alone).2, judged]
  rfl

end Site

end SessionPool
