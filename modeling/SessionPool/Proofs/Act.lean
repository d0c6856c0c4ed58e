import SessionPool.Proofs.Move
import SessionPool.Proofs.Process
import SessionPool.Proofs.Share

/-!
# Moves as steps of parties

Except for changes of the size and lapses of time, every move is a lawful step of one party, and
the others keep what they have in hand (`Site.move_cases`). A move therefore keeps the books of the
pool balanced with the stake of the site (`Site.balanced_move`).
-/

set_option autoImplicit false

namespace SessionPool.Site

variable {env env' : Env} {s s' : Site}

/-! ## Shares in the stake of a site -/

theorem ofCounted_eq_sum (ms : List Member) :
    Stake.ofCounted ms = (ms.map fun m => Stake.ofCounted [m]).sum := by
  induction ms with
  | nil => rfl
  | cons m ms ih => rw [Stake.ofCounted_cons, ih, List.map_cons, List.sum_cons]

/-- The stakes of all parties add up. -/
theorem stake_eq_sum (s : Site) :
    s.stake = s.sum (fun m => Stake.ofCounted [m]) Job.stake Operation.stake := by
  rw [stake, sum, ofCounted_eq_sum]

theorem stake_job (hk : s.Keyed) {k : Nat} {j : Job} (hg : Table.get? s.jobs k = some j) :
    s.stake = j.stake + { s with jobs := Table.remove s.jobs k }.stake := by
  rw [stake_eq_sum, stake_eq_sum]
  exact sum_job _ _ _ hk.jobs hg

theorem stake_putJob (k : Nat) (j : Job) :
    { s with jobs := Table.put s.jobs k j }.stake =
      j.stake + { s with jobs := Table.remove s.jobs k }.stake := by
  rw [stake_eq_sum, stake_eq_sum]
  exact sum_putJob _ _ _ k j

theorem stake_operation (hk : s.Keyed) {n : Nat} {o : Operation}
    (hg : Table.get? s.operations n = some o) :
    s.stake = o.stake + { s with operations := Table.remove s.operations n }.stake := by
  rw [stake_eq_sum, stake_eq_sum]
  exact sum_operation _ _ _ hk.operations hg

theorem stake_updateOperation (hk : s.Keyed) {n : Nat} {o : Operation}
    (hg : Table.get? s.operations n = some o) (o' : Operation) :
    { s with operations := Table.update s.operations n o' }.stake =
      o'.stake + { s with operations := Table.remove s.operations n }.stake := by
  rw [stake_eq_sum, stake_eq_sum]
  exact sum_updateOperation _ _ _ hk.operations hg o'

theorem stake_start (n : Nat) (o : Operation) : (s.start n o).stake = s.stake + o.stake := by
  rw [stake_eq_sum, stake_eq_sum]
  exact sum_start _ _ _ n o

theorem stake_conclude (n : Nat) (outcome : Outcome) :
    (s.conclude n outcome).stake =
      outcome.stake + { s with operations := Table.remove s.operations n }.stake := by
  have ho : handed (fun m => Stake.ofCounted [m]) outcome = outcome.stake := by
    cases outcome <;> rfl
  rw [stake_eq_sum, stake_eq_sum, ← ho]
  exact sum_conclude _ _ _ n outcome

theorem stake_hold (m : Member) :
    { s with held := s.held ++ [m] }.stake = .ofCounted [m] + s.stake := by
  rw [stake_eq_sum, stake_eq_sum]
  exact sum_hold _ _ _ m

theorem stake_setSession (id : Nat) (session : Session) :
    (s.setSession id session).stake = s.stake := by
  have : idsOf (s.setSession id session).held = idsOf s.held := by
    simp only [idsOf, setSession, List.map_map]
    congr 1
    refine List.map_congr_left fun m _ => ?_
    simp only [Function.comp]
    split <;> rfl
  simp only [stake, Stake.ofCounted, this]
  rfl

def HeldApart (s : Site) : Prop := (s.held.map Member.id).Nodup

theorem HeldApart.of_balanced (h : s.pool.Balanced s.stake) : s.HeldApart := by
  have hle : idsOf s.held ≤ idsOf s.pool.members + s.stake.counted + s.stake.spare := by
    have : s.stake.counted = idsOf s.held + (Table.total Job.stake s.jobs).counted +
        (Table.total Operation.stake s.operations).counted := rfl
    rw [this]
    refine le_trans ?_ (Multiset.le_add_right _ _)
    refine le_trans ?_ (Multiset.le_add_left _ _)
    rw [add_assoc]
    exact Multiset.le_add_right _ _
  exact Multiset.coe_nodup.1 (Multiset.nodup_of_le hle h.numbered_members.1)

theorem perm_held (hd : s.HeldApart) {id : Nat} {m : Member} (h : s.heldMember? id = some m) :
    s.held.Perm (m :: (s.letGo id).held) := Member.perm_find hd h

/-- A member that a user lets go is in the hands of whoever takes it. -/
theorem stake_letGo (hd : s.HeldApart) {id : Nat} {m : Member} (h : s.heldMember? id = some m) :
    s.stake = .ofCounted [m] + (s.letGo id).stake := by
  rw [stake_eq_sum, stake_eq_sum]
  exact sum_letGo _ _ _ (perm_held hd h)

/-! ## Who acts -/

/-- One party makes a lawful step, and the others keep what they have in hand. -/
def OneActs (env : Env) (s : Site) (env' : Env) (s' : Site) : Prop :=
  ∃ a b k, s.stake = a + k ∧ s'.stake = b + k ∧ Lawful env s.pool a env' s'.pool b

namespace OneActs

/-- Whoever acts has nothing in hand before and after. -/
theorem empty (h : Lawful env s.pool 0 env' s'.pool 0) (hs : s'.stake = s.stake) :
    OneActs env s env' s' := ⟨0, 0, s.stake, (zero_add _).symm, hs.trans (zero_add _).symm, h⟩

/-- The books show nothing, and nobody gains or loses anything. -/
theorem aside (hb : s'.pool.books = s.pool.books) (hm : s'.pool.maxSize = s.pool.maxSize)
    (hs : s'.stake = s.stake) : OneActs env s env s' := .empty (.of (.aside hb hm) rfl) hs

/-- An operation starts that has nothing in hand yet. -/
theorem start (n : Nat) {o : Operation} (ho : o.stake = 0) : OneActs env s env (s.start n o) :=
  .aside rfl rfl (by rw [stake_start, ho, add_zero])

variable {id : Nat} {m : Member}

/-- An operation starts with a member that a user lets go. -/
theorem startWith (hd : s.HeldApart) (h : s.heldMember? id = some m) (n : Nat) {o : Operation}
    (ho : o.stake = .ofCounted [m]) : OneActs env s env ((s.letGo id).start n o) := by
  refine .aside rfl rfl ?_
  rw [stake_start, ho, stake_letGo hd h, add_comm]

theorem letGo (hd : s.HeldApart) (h : s.heldMember? id = some m) {q : Pool}
    (he : Pool.Entries env.now .changing s.pool (.ofCounted [m]) q 0) (hn : env'.now = env.now) :
    OneActs env s env' { s.letGo id with pool := q } :=
  ⟨.ofCounted [m], 0, (s.letGo id).stake, stake_letGo hd h, (zero_add _).symm, .of he hn⟩

theorem took {k : Nat} {c : Crew (Task Member)} {t : Task Member}
    (hg : Table.get? s.jobs k = none) (ht : s.pool.crew.tasks = t :: c.tasks) :
    OneActs env s env { s with
      pool := { s.pool with crew := c }
      jobs := Table.put s.jobs k (.start s.pool t) } := by
  refine ⟨0, .ofTask t, s.stake, (zero_add _).symm, ?_, .of (Pool.Entry.takeTask ht).entries rfl⟩
  rw [stake_eq_sum, stake_eq_sum]
  exact (sum_takeJob _ _ _ hg _).trans (congrArg (· + _) (Job.stake_start t))

theorem departed {ms : List Member} (hs : ms.Sublist s.pool.leaving) (hn : env'.now = env.now) :
    OneActs env s env' { s with pool := { s.pool with leaving := ms } } :=
  .empty (.of (Pool.Entry.depart hs).entries hn) rfl

theorem ticked {c : Crew (Task Member)} (hn : env'.now = env.now)
    (hc : c.tasks = s.pool.crew.tasks ∨ c.tasks = s.pool.crew.tasks ++ [.maintain]) :
    OneActs env s env' { s with pool := { s.pool with crew := c } } := by
  refine .empty ?_ rfl
  rcases hc with hc | hc
  · exact .of (.aside (Pool.books_crew hc) rfl) hn
  · exact .of (Pool.Entry.queueTask (t := .maintain) hc).entries hn

end OneActs

/-! ## Moves -/

/-- **What a move is**: a change of the size of the pool, a lapse of time, or a lawful step of one
party. -/
theorem move_cases (hk : s.Keyed) (hb : s.pool.Balanced s.stake) {mv : Move}
    (h : s.move? env mv = some (env', s')) :
    (∃ lo hi, mv = .resize lo hi ∧ env'.now = env.now ∧
      (s' = s ∨ ∃ q, s.pool.resize lo hi = .ok q ∧ s' = { s with pool := q })) ∨
    (mv = .pass env' ∧ env.now ≤ env'.now ∧ s' = s) ∨ OneActs env s env' s' := by
  have hd := HeldApart.of_balanced hb
  have expired : (s.pool.noteExpired env (s.pool.spoiledByTry env.now)).now = env.now := by simp
  cases moved h with
  | resized hq => exact .inl ⟨_, _, rfl, rfl, .inr ⟨_, hq, rfl⟩⟩
  | unsized _ => exact .inl ⟨_, _, rfl, rfl, .inl rfl⟩
  | passed ht => exact .inr (.inl ⟨rfl, ht, rfl⟩)
  | worked hg hs =>
    exact .inr (.inr ⟨_, _, _, stake_job hk hg, stake_putJob _ _, Job.lawful hs⟩)
  | finished hg hs =>
    refine .inr (.inr ⟨_, 0, _, stake_job hk hg, (zero_add _).symm, ?_⟩)
    exact Lawful.andAside (Job.lawful hs) rfl rfl
  | sought _ hs =>
    obtain ⟨-, ht⟩ := Crew.seek_cases hs
    exact .inr (.inr (.aside (Pool.books_crew ht.symm) rfl rfl))
  | took hg hs => exact .inr (.inr (.took hg (Crew.seek_cases hs).2))
  | ticked ht =>
    obtain ⟨hn, -, -, hc⟩ := Crew.tick_cases ht
    exact .inr (.inr (.ticked hn hc))
  | closed _ => exact .inr (.inr (.departed List.filter_sublist rfl))
  | wentOn hg hs =>
    have hl := Operation.lawful hb.sound hs
    exact .inr (.inr ⟨_, _, _, stake_operation hk hg, stake_updateOperation hk hg _, hl⟩)
  | ended hg hs =>
    have hl := Operation.lawful hb.sound hs
    exact .inr (.inr ⟨_, _, _, stake_operation hk hg, stake_conclude _ _, hl⟩)
  | cancelled hg hs =>
    refine .inr (.inr ⟨_, 0, _, stake_operation hk hg, (zero_add _).symm, ?_⟩)
    exact Operation.lawful_cancel hs
  | acquire _ | wait _ | check _ | close _ => exact .inr (.inr (.start _ rfl))
  | release hm _ => exact .inr (.inr (.startWith hd hm _ (add_zero _)))
  | misplace hm _ => exact .inr (.inr (.startWith hd hm _ rfl))
  | taken ht =>
    have he : Pool.Entries env.now .changing s.pool 0 _ _ := .tryTake
    rw [ht] at he
    exact .inr (.inr ⟨0, _, s.stake, (zero_add _).symm, stake_hold _, .of he expired⟩)
  | @untaken q r ht hr =>
    have he : Pool.Entries env.now .changing s.pool 0 _ _ := .tryTake
    have hs : Stake.tried r = 0 := by
      rcases r with e | (_ | m)
      · rfl
      · rfl
      · exact absurd rfl (hr m)
    rw [ht, hs] at he
    exact .inr (.inr (.empty (.of he expired) rfl))
  | giveBack hm => exact .inr (.inr (.letGo hd hm .returnLater rfl))
  | @leaveBehind id m c hm hc =>
    refine .inr (.inr (.letGo hd hm ?_ rfl))
    rcases s.pool.crew.dispatch_cases (.restore m) with ⟨-, he⟩ | ⟨-, he⟩ <;> rw [he] at hc <;>
      cases hc
    exact (Pool.Entry.queueTask (t := .restore m) rfl).entries
  | @abandoned id m c t hm _ =>
    exact .inr (.inr (.letGo hd hm (Pool.Entries.drop_one.trans (Pool.Entry.lose [m]).entries) rfl))
  | detach hm => exact .inr (.inr (.letGo hd hm .forget rfl))
  | use => exact .inr (.inr (.aside rfl rfl (stake_setSession _ _)))
  | unheld _ _ | resetCounters | readOutcome => exact .inr (.inr (.aside rfl rfl rfl))

theorem balanced_move (hk : s.Keyed) (hb : s.pool.Balanced s.stake) {mv : Move}
    (h : s.move? env mv = some (env', s')) : s'.pool.Balanced s'.stake := by
  rcases move_cases hk hb h with
    ⟨lo, hi, -, -, rfl | ⟨q, hq, rfl⟩⟩ | ⟨-, -, rfl⟩ | ⟨a, b, k, ha, hb', hl⟩
  · exact hb
  · exact hb.resize hq
  · exact hb
  · rw [ha] at hb
    rw [hb']
    exact hl.row.balanced hb

end SessionPool.Site
