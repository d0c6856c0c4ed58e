import SessionPool.Proofs.Calm

/-!
# Members that become free

A member becomes free when it was opened in the background, came back and was found fit, answered a
probe, or was given to a request whose caller goes away (`Source`). It goes to a request that waits
or lies unused from then on. Which member a move makes free can be seen before the move
(`Site.frees?`); all other moves leave the pool calm (`Site.calm_or_frees`). Of the four kinds only
a member that came back is looked at once more when it becomes free (`Pool.Frees.fit`).
-/

set_option autoImplicit false

namespace SessionPool

/-- How a member has become free. -/
inductive Source
  | opened
  | reset
  | probed
  | passedOn
deriving DecidableEq, Repr

namespace Job

/-- The member that the job makes free with its next step. -/
def frees? : Job → Option (Source × Member)
  | adding a =>
    match a.phase with
    | .joining m _ => some (.opened, m)
    | .opening _ | .failing _ | .resting _ | .releasing _ => none
  | returning (.settling m .fit) => some (.reset, m)
  | returning _ | closing _ | maintaining => none

end Job

namespace Operation

/-- The member that the operation makes free with its next step. -/
def frees? : Operation → Option (Source × Member)
  | release (.settling m .fit) => some (.reset, m)
  | check (.judging _ m .healthy) => some (.probed, m)
  | acquire _ | release _ | misplace _ | wait _ | check _ | close _ => none

/-- The member that the operation passes on if it is given up. -/
def passesOn? (p : Pool) : Operation → Option (Source × Member)
  | acquire (.queued ticket _ _) => (p.undelivered? ticket).map fun m => (.passedOn, m)
  | acquire _ | release _ | misplace _ | wait _ | check _ | close _ => none

end Operation

/-- The member that becomes free with a move, and how. -/
def Site.frees? (s : Site) : Site.Move → Option (Source × Member)
  | .step (.worker k) => (Table.get? s.jobs k).bind Job.frees?
  | .step (.user n) => (Table.get? s.operations n).bind Operation.frees?
  | .cancel n => (Table.get? s.operations n).bind (Operation.passesOn? s.pool)
  | _ => none

namespace Pool

variable {p q r : Pool} {m m' : Member} {now : Instant} {source : Source}
  {freed : Option (Source × Member)}

/-- When a member was last used that becomes free: one that came back has been used until now. -/
def lastUse (now : Instant) (m : Member) : Source → Instant
  | .reset => now
  | .opened | .probed | .passedOn => m.notes.lastUsed

/-- A member becomes free in a pool that is open. One that came back has not expired then and is not
one too many. -/
structure Frees (now : Instant) (source : Source) (m : Member) (p q : Pool) : Prop where
  serves : ServesOnly m p q
  admits : ∃ m', m'.id = m.id ∧ m'.notes.lastUsed = lastUse now m source ∧ Admits m' p q
  unclosed : p.closed = false
  fit : source = .reset → m.isExpired now = false ∧ p.isOverfull = false

/-- What a party does to a pool in one step, unless it closes the pool: the pool stays calm, or a
member becomes free. -/
structure Deed (now : Instant) (freed : Option (Source × Member)) (p q : Pool) : Prop where
  closed : q.closed = p.closed
  crew : p.crew.Lasts q.crew
  effect : p.Calm q ∨ ∃ source m, freed = some (source, m) ∧ Frees now source m p q

theorem Quiet.deed (h : p.Quiet q) : p.Deed now freed q := ⟨h.closed, h.crew, .inl h.toCalm⟩

/-- A member becomes free; a pool that is closed closes it instead. -/
theorem Deed.deliver (hq : p.Quiet q) (hs : freed = some (source, m))
    (hf : source = .reset → m.isExpired now = false ∧ p.isOverfull = false) (hi : m'.id = m.id)
    (he : m'.notes.expiresAt = m.notes.expiresAt)
    (hl : m'.notes.lastUsed = lastUse now m source) : p.Deed now freed (q.deliver m' now) := by
  cases ho : p.closed with
  | true => exact (hq.trans (.deliver (hq.closed.trans ho))).deed
  | false =>
    have admits : Admits (m'.inStage .idle) p (q.deliver m' now) :=
      admits_deliver.after hq.toCalm
    have serves : ServesOnly m p (q.deliver m' now) := fun t m₁ ht => by
      rcases admits.served t m₁ ht with ht | rfl
      · exact .inl ht
      · exact .inr ⟨hi, he⟩
    have hc : (q.deliver m' now).closed = q.closed :=
      congrArg Terms.closed (Handled.deliver m' now).terms
    exact ⟨hc.trans hq.closed, hq.crew.trans lasts_deliver,
      .inr ⟨source, m, hs, serves, ⟨m'.inStage .idle, hi, hl, admits⟩, ho, hf⟩⟩

theorem Deed.join (elapsed : Duration) :
    p.Deed now (some (.opened, m)) (p.join m elapsed now) := by
  exact .deliver (.countOpened elapsed) rfl (by simp) rfl rfl rfl

theorem Deed.settle (f : Fitness) (hs : f = .fit → freed = some (.reset, m)) :
    p.Deed now freed (p.settle m now f) := by
  by_cases h : f = .fit → m.isExpired now = true ∨ p.isOverfull = true
  · exact (Quiet.settle h).deed
  · simp only [Classical.not_imp, not_or, Bool.not_eq_true] at h
    obtain ⟨rfl, he, ho⟩ := h
    have hd : p.settle m now .fit = p.deliver (touch m now) now := by
      have he' : (touch m now).isExpired now = false := he
      unfold Pool.settle
      dsimp only
      rw [if_neg (by simp [he']), if_neg (by simp [ho])]
    rw [hd]
    exact .deliver (.refl p) (hs rfl) (fun _ => ⟨he, ho⟩) rfl rfl rfl

theorem Deed.judge (health : Health) (hs : health = .healthy → freed = some (.probed, m)) :
    p.Deed now freed (p.judge m health now) := by
  cases health with
  | healthy => exact .deliver (.refl p) (hs rfl) (by simp) rfl rfl rfl
  | unhealthy reason => exact (Quiet.judge rfl).deed

theorem Deed.abandon (ticket : Nat) :
    p.Deed now ((p.undelivered? ticket).map fun m => (.passedOn, m)) (p.abandon ticket now) := by
  cases hu : p.undelivered? ticket with
  | none => exact (Quiet.abandon hu).deed
  | some m =>
    have ha : p.abandon ticket now = (p.collectReply ticket).deliver m now := by
      unfold Pool.abandon
      rw [hu]
    rw [ha]
    exact .deliver (.collectReply ticket) rfl (by simp) rfl rfl rfl

end Pool

/-! ## Processes -/

variable {env env' : Env} {p q : Pool}

namespace Opening

theorem quiet_afterConfigure (began : Instant) (x : Env × Session × Progress) :
    p.Quiet (afterConfigure p began x).2.1 := by
  obtain ⟨env', s, (e | ⟨⟨⟩⟩) | pause⟩ := x
  · exact .refl p
  · unfold afterConfigure
    dsimp only
    split
    · exact .aside rfl rfl le_rfl le_rfl
    · exact .refl p
  · exact .refl p

theorem quiet_afterDial (began : Instant) (x : Env × Dialed) :
    p.Quiet (afterDial p began x).2.1 := by
  obtain ⟨env', (e | s) | dial⟩ := x
  · exact .refl p
  · have called : p.Quiet p.configureCall.1 := .aside rfl rfl le_rfl le_rfl
    exact called.trans (quiet_afterConfigure began _)
  · exact .refl p

theorem quiet {o : Opening} {s : Stepped Opening Opened} (h : o.step env p = some s) :
    p.Quiet s.2.1 := by
  cases o with
  | fresh =>
    cases h
    exact quiet_afterDial _ _
  | dialing began dial =>
    simp only [step, Option.ite_none_right_eq_some, Option.some.injEq] at h
    obtain ⟨-, rfl⟩ := h
    exact quiet_afterDial _ _
  | configuring began s pause =>
    simp only [step, Option.ite_none_right_eq_some, Option.some.injEq] at h
    obtain ⟨-, rfl⟩ := h
    exact quiet_afterConfigure _ _

end Opening

namespace Adding

theorem quiet_fail (a : Adding) (e : SessionError) : p.Quiet (a.fail env p e).2.1 := by
  have counted : p.Quiet p.countFailedOpening := .count _
  unfold fail
  dsimp only
  split
  · exact counted
  · split <;> exact counted

theorem deed {a : Adding} {s : Stepped Adding Unit} (h : a.step env p = some s) :
    p.Deed env.now (Job.adding a).frees? s.2.1 := by
  obtain ⟨waiter, attempt, delay, phase⟩ := a
  cases phase with
  | opening o =>
    simp only [step] at h
    split at h
    · cases h
      exact (Pool.Quiet.refl p).deed
    · obtain ⟨x, ho, rfl⟩ := Option.map_eq_some_iff.1 h
      exact (Opening.quiet ho).deed
  | joining m elapsed =>
    cases h
    exact .join elapsed
  | failing e =>
    cases h
    exact (quiet_fail _ e).deed
  | resting timer =>
    simp only [step] at h
    split at h
    · cases h
      exact (Pool.Quiet.refl p).deed
    · obtain ⟨-, rfl⟩ := by simpa using h
      exact (Pool.Quiet.refl p).deed
  | releasing e =>
    cases h
    exact (Pool.Quiet.releaseRoom waiter e).deed

end Adding

namespace Returning

theorem pool_afterReset (m : Member) (x : Env × Session × Progress) :
    (afterReset p m x).2.1 = p := by
  obtain ⟨env', s, (e | ⟨⟨⟩⟩) | pause⟩ := x
  · rfl
  · unfold afterReset
    dsimp only
    split <;> rfl
  · rfl

theorem quiet_runReset (m : Member) : p.Quiet (runReset env p m).2.1 := by
  have called : p.Quiet p.resetCall.1 := .aside rfl rfl le_rfl le_rfl
  unfold runReset
  rw [pool_afterReset]
  exact called

theorem quiet_reset (m : Member) : p.Quiet (reset env p m).2.1 := by
  have rolled : p.Quiet (rollBack env p m).2.1 := by
    unfold rollBack
    dsimp only
    split
    · exact quiet_runReset _
    · exact .refl p
  unfold reset
  split
  · exact .refl p
  · split
    · exact .refl p
    · split
      · exact quiet_runReset m
      · exact rolled
      · exact rolled
      · exact .refl p
      · exact .refl p

variable {freed : Option (Source × Member)}

theorem deed {r : Returning} {s : Stepped Returning Unit} (h : r.step env p = some s)
    (hs : ∀ m, r = .settling m .fit → freed = some (.reset, m)) : p.Deed env.now freed s.2.1 := by
  cases r with
  | arriving m =>
    have hr : p.Quiet (p.receive env.server m env.now).1 := .receive env.server
    simp only [step] at h
    split at h <;> rename_i hm <;> cases h <;> rw [hm] at hr <;> exact hr.deed
  | closing m =>
    cases h
    exact (Pool.Quiet.refl p).deed
  | resetting m =>
    cases h
    exact (quiet_reset m).deed
  | paused m pause =>
    simp only [step, Option.ite_none_right_eq_some, Option.some.injEq] at h
    obtain ⟨-, rfl⟩ := h
    rw [pool_afterReset]
    exact (Pool.Quiet.refl p).deed
  | settling m f =>
    cases h
    have hn : (settle env p m f).1.now = env.now := by
      unfold settle
      dsimp only
      split <;> rfl
    have hq : (settle env p m f).2.1 = p.settle m (settle env p m f).1.now f := rfl
    rw [hq, hn]
    exact .settle f fun hf => hs m (hf ▸ rfl)

end Returning

namespace Acquiring

theorem pool_refuse (e : PoolError) : (refuse env p e).2.1 = p := by
  unfold refuse
  split <;> rfl

theorem pool_conclude (x : Pool × Acquired) : (conclude env x).2.1 = x.1 := by
  obtain ⟨p, e | m⟩ := x
  · exact pool_refuse e
  · rfl

theorem quiet_arrive (timeout : Duration) : p.Quiet (arrive env p timeout).2.1 := by
  have hn : (p.noteExpired env (p.spoiledByCheckout env.now)).now = env.now := by simp
  have hc := Pool.Quiet.checkout (p := p) env.now timeout
  unfold arrive
  dsimp only
  split <;> rename_i hm <;> rw [hn] at hm <;> rw [hm] at hc
  · exact hc
  · exact hc
  · exact hc
  · rw [pool_refuse]
    exact hc

theorem pool_afterOpening {resume : Opening → Env → Env × Acquiring} (x : Stepped Opening Opened) :
    (afterOpening resume x).2.1 = x.2.1 := by
  obtain ⟨env', q, o | e | ⟨m, elapsed⟩⟩ := x <;> rfl

/-- A request makes no member free. -/
theorem quiet {a : Acquiring} {s : Stepped Acquiring Acquired} (h : a.step env p = some s) :
    p.Quiet s.2.1 := by
  cases a with
  | arriving timeout =>
    cases h
    exact quiet_arrive timeout
  | queued ticket cutoff timeout =>
    simp only [step] at h
    split at h
    · cases h
      rw [pool_conclude]
      exact .collectReply ticket
    · split at h
      · cases h
        rw [pool_refuse]
        exact .collectReply ticket
      · simp only [Option.ite_none_right_eq_some, Option.some.injEq] at h
        obtain ⟨-, rfl⟩ := h
        exact .refl p
  | givingUp ticket timeout =>
    cases h
    rw [pool_conclude]
    exact .giveUp ticket timeout
  | calling deadline timeout =>
    simp only [step] at h
    obtain ⟨x, ho, rfl⟩ := Option.map_eq_some_iff.1 h
    rw [pool_afterOpening]
    exact Opening.quiet ho
  | dialing o cutoff timeout =>
    simp only [step] at h
    split at h
    · rename_i x ho
      cases h
      rw [pool_afterOpening]
      exact Opening.quiet ho
    · simp only [Option.ite_none_right_eq_some, Option.some.injEq] at h
      obtain ⟨-, rfl⟩ := h
      exact .refl p
  | takingOver m elapsed =>
    cases h
    rw [pool_conclude]
    exact .takeOver elapsed
  | countingFailure e =>
    cases h
    show p.Quiet p.countFailedOpening
    exact .count _
  | vacating e =>
    cases h
    exact .vacateRoom
  | failing e =>
    cases h
    show p.Quiet p.countFailure
    exact .count _

end Acquiring

namespace Checking

theorem pool_afterProbe (left : Nat) (m : Member) (x : Env × Session × Progress) :
    (afterProbe p left m x).2.1 = p := by
  obtain ⟨env', s, (e | ⟨⟨⟩⟩) | pause⟩ := x <;> rfl

theorem deed {c : Checking} {s : Stepped Checking (Except PoolError Unit)}
    (h : c.step env p = some s) : p.Deed env.now (Operation.check c).frees? s.2.1 := by
  cases c with
  | starting =>
    simp only [step] at h
    split at h
    · cases h
      exact (Pool.Quiet.refl p).deed
    · split at h <;> cases h <;> exact (Pool.Quiet.refl p).deed
  | counting =>
    cases h
    exact (Pool.Quiet.refl p).deed
  | picking left =>
    cases left with
    | zero =>
      cases h
      exact (Pool.Quiet.refl p).deed
    | succ left =>
      have hp := Pool.Quiet.pickProbe (p := p)
      simp only [step] at h
      split at h <;> rename_i hm <;> cases h <;> rw [hm] at hp <;> exact hp.deed
  | probing left m =>
    cases h
    rw [pool_afterProbe]
    have called : p.Quiet p.probeCall.1 := .aside rfl rfl le_rfl le_rfl
    exact called.deed
  | paused left m pause =>
    simp only [step, Option.ite_none_right_eq_some, Option.some.injEq] at h
    obtain ⟨-, rfl⟩ := h
    rw [pool_afterProbe]
    exact (Pool.Quiet.refl p).deed
  | judging left m health =>
    cases h
    have hn : (judge env p left m health).1.now = env.now := by
      unfold judge
      dsimp only
      split <;> rfl
    have hs : (judge env p left m health).2.1 =
        p.judge m health (judge env p left m health).1.now := rfl
    rw [hs, hn]
    exact .judge health fun hh => hh ▸ rfl

end Checking

namespace Closing

theorem quiet_drain (disposed : Nat) (idle : List Member) :
    p.Quiet (drain env p disposed idle).2.1 := by
  unfold drain
  split
  · rename_i t crew hc
    obtain ⟨ht, -⟩ := Crew.collect_some hc
    have lasts : p.crew.Lasts crew := by
      unfold Crew.collect at hc
      split at hc
      · cases hc
      · cases hc
        exact ⟨rfl, rfl, rfl, rfl, fun _ => ht ▸ List.sublist_cons_self _ _⟩
    have fewer : (crew.tasks.filter Task.isAdd).Sublist (p.crew.tasks.filter Task.isAdd) := by
      rw [ht]
      exact (List.sublist_cons_self t crew.tasks).filter _
    have collected : p.Quiet { p with crew } := {
      closed := rfl
      crew := lasts
      wanes := fun hcl => ⟨hcl, le_rfl, le_rfl, fewer, id, id⟩
      idle := .refl _
      served := .of_eq rfl }
    exact collected.trans (.dispose t)
  · exact .refl p

/-- Whether the next step closes the pool in the books or stops its crew. -/
def shuts : Closing → Bool
  | starting | stopping _ => true
  | joining _ _ | draining _ _ | emptying _ => false

/-- Nothing more is done to a pool that was closed and whose crew was stopped. -/
theorem quiet {c : Closing} (hc : c.shuts = false) {s : Stepped Closing Unit}
    (h : c.step env p = some s) : p.Quiet s.2.1 := by
  cases c with
  | starting | stopping _ => cases hc
  | joining hands idle =>
    cases hands with
    | nil =>
      cases h
      exact .refl p
    | cons hand hands =>
      simp only [step, Option.ite_none_right_eq_some, Option.some.injEq] at h
      obtain ⟨-, rfl⟩ := h
      exact .refl p
  | draining disposed idle =>
    cases h
    exact quiet_drain disposed idle
  | emptying idle => cases idle <;> cases h <;> exact .refl p

end Closing

theorem Waiting.pool_step {w : Waiting} {s : Stepped Waiting (Except PoolError Unit)}
    (h : w.step env p = some s) : s.2.1 = p := by
  cases w with
  | starting timeout =>
    simp only [step] at h
    split at h <;> cases h <;> rfl
  | waiting cutoff timeout =>
    simp only [step] at h
    split at h
    · cases h
      rfl
    · split at h
      · cases h
        rfl
      · simp only [Option.ite_none_right_eq_some, Option.some.injEq] at h
        obtain ⟨-, rfl⟩ := h
        rfl

theorem Job.deed {j : Job} {s : Stepped Job Unit} (h : j.step env p = some s) :
    p.Deed env.now j.frees? s.2.1 := by
  cases j with
  | adding a =>
    obtain ⟨x, ha, rfl⟩ := Option.map_eq_some_iff.1 h
    exact Adding.deed ha
  | returning r =>
    obtain ⟨x, hr, rfl⟩ := Option.map_eq_some_iff.1 h
    exact Returning.deed hr fun m hm => hm ▸ rfl
  | closing m =>
    cases h
    exact (Pool.Quiet.refl p).deed
  | maintaining =>
    cases h
    exact (Pool.Quiet.maintain env.now).deed

namespace Operation

/-- Whether the next step closes the pool in the books or stops its crew. -/
def shuts : Operation → Bool
  | close c => c.shuts
  | acquire _ | release _ | misplace _ | wait _ | check _ => false

theorem deed {o : Operation} (ho : o.shuts = false) {s : Stepped Operation Outcome}
    (h : o.step env p = some s) : p.Deed env.now o.frees? s.2.1 := by
  cases o with
  | acquire a =>
    obtain ⟨x, ha, rfl⟩ := Option.map_eq_some_iff.1 h
    exact (Acquiring.quiet ha).deed
  | release r =>
    obtain ⟨x, hr, rfl⟩ := Option.map_eq_some_iff.1 h
    exact Returning.deed hr fun m hm => hm ▸ rfl
  | misplace m =>
    cases h
    exact Pool.Quiet.returnLater.deed
  | wait w =>
    obtain ⟨x, hw, rfl⟩ := Option.map_eq_some_iff.1 h
    rw [Waiting.pool_step hw]
    exact (Pool.Quiet.refl p).deed
  | check c =>
    obtain ⟨x, hc, rfl⟩ := Option.map_eq_some_iff.1 h
    exact Checking.deed hc
  | close c =>
    obtain ⟨x, hs, rfl⟩ := Option.map_eq_some_iff.1 h
    exact (Closing.quiet ho hs).deed

/-- A pool is closed in the books, or its crew is stopped. -/
theorem shut_cases {o : Operation} (ho : o.shuts = true) {s : Stepped Operation Outcome}
    (h : o.step env p = some s) :
    o = .close .starting ∧ (s.2.1 = p ∧ p.closed = true ∨ s.2.1 = p.shut.1 ∧ p.closed = false) ∨
    ∃ idle, o = .close (.stopping idle) ∧ s.2.1 = { p with crew := p.crew.stop.releaseHands.1 } ∧
      s.2.2 = .more (.close (.joining p.crew.hands idle)) := by
  cases o with
  | close c =>
    cases c with
    | starting =>
      cases h
      refine .inl ⟨rfl, ?_⟩
      show ((Closing.start env p).2.1 = p ∧ _) ∨ ((Closing.start env p).2.1 = _ ∧ _)
      unfold Closing.start
      split
      · rename_i hc
        exact .inl ⟨rfl, hc⟩
      · rename_i hc
        exact .inr ⟨rfl, by simpa using hc⟩
    | stopping idle =>
      cases h
      exact .inr ⟨idle, rfl, rfl, rfl⟩
    | joining | draining | emptying => cases ho
  | acquire | release | misplace | wait | check => cases ho

/-- What an operation does to a pool, the closing of it included. -/
theorem effect {o : Operation} {s : Stepped Operation Outcome} (h : o.step env p = some s) :
    p.Calm s.2.1 ∨
      ∃ source m, o.frees? = some (source, m) ∧ Pool.Frees env.now source m p s.2.1 := by
  cases ho : o.shuts with
  | false => exact (deed ho h).effect
  | true =>
    refine .inl ?_
    rcases shut_cases ho h with ⟨-, ⟨hs, -⟩ | ⟨hs, -⟩⟩ | ⟨idle, -, hs, -⟩ <;> rw [hs]
    · exact (Pool.Quiet.refl p).toCalm
    · exact .shut
    · exact .crew (.refl _)

/-- An operation that is given up passes on at most what its request was given. -/
theorem deed_cancel (env : Env) (p : Pool) (o : Operation) :
    p.Deed env.now (o.passesOn? p) (o.cancel env p).2 := by
  cases o with
  | acquire a =>
    cases a with
    | queued ticket cutoff timeout =>
      have hn : ((Acquiring.queued ticket cutoff timeout).cancel env p).1.now = env.now := by
        unfold Acquiring.cancel
        dsimp only
        split <;> rfl
      have hs : ((Acquiring.queued ticket cutoff timeout).cancel env p).2 =
          p.abandon ticket ((Acquiring.queued ticket cutoff timeout).cancel env p).1.now := rfl
      rw [cancel, hs, hn]
      exact .abandon ticket
    | dialing o cutoff timeout => exact Pool.Quiet.vacateRoom.deed
    | arriving | givingUp | calling | takingOver | countingFailure | vacating | failing =>
      exact (Pool.Quiet.refl p).deed
  | release r =>
    cases r with
    | arriving m => exact Pool.Quiet.returnLater.deed
    | paused m pause => exact Pool.Quiet.breakOff.deed
    | closing _ | resetting _ | settling _ _ => exact (Pool.Quiet.refl p).deed
  | misplace m => exact Pool.Quiet.returnLater.deed
  | check c =>
    cases c with
    | paused left m pause => exact Pool.Quiet.breakOff.deed
    | starting | counting | picking _ | probing _ _ | judging _ _ _ =>
      exact (Pool.Quiet.refl p).deed
  | wait _ | close _ => exact (Pool.Quiet.refl p).deed

end Operation

/-! ## Moves -/

namespace Site

variable {s s' : Site} {mv : Move}

/-- A worker that has done its job looks for the next one. -/
theorem deed_finish {now : Instant} {freed : Option (Source × Member)} {k : Nat}
    (h : p.Deed now freed q) :
    p.Calm { q with crew := q.crew.finish k } ∨
      ∃ source m, freed = some (source, m) ∧
        Pool.Frees now source m p { q with crew := q.crew.finish k } := by
  rcases h.effect with h | ⟨source, m, hf, h⟩
  · exact .inl (h.trans (Pool.Calm.crew (.refl _)))
  · obtain ⟨m', hi, hl, admits⟩ := h.admits
    exact .inr ⟨source, m, hf, h.serves, ⟨m', hi, hl, admits.idle, admits.served⟩, h.unclosed,
      h.fit⟩

theorem frees?_worker {k : Nat} {j : Job} (h : Table.get? s.jobs k = some j) :
    s.frees? (.step (.worker k)) = j.frees? := by
  rw [frees?, h, Option.bind_some]

theorem frees?_user {n : Nat} {o : Operation} (h : Table.get? s.operations n = some o) :
    s.frees? (.step (.user n)) = o.frees? := by
  rw [frees?, h, Option.bind_some]

theorem frees?_cancel {n : Nat} {o : Operation} (h : Table.get? s.operations n = some o) :
    s.frees? (.cancel n) = o.passesOn? s.pool := by
  rw [frees?, h, Option.bind_some]

/-- **A move makes a member free or leaves the pool calm.** -/
theorem calm_or_frees (h : s.move? env mv = some (env', s')) :
    s.pool.Calm s'.pool ∨
      ∃ source m, s.frees? mv = some (source, m) ∧ Pool.Frees env.now source m s.pool s'.pool := by
  cases moved h with
  | worked hg hs =>
    rw [frees?_worker hg]
    exact (Job.deed hs).effect
  | finished hg hs =>
    rw [frees?_worker hg]
    exact deed_finish (Job.deed hs)
  | sought _ hs | took _ hs =>
    refine .inl (Pool.Calm.crew ?_)
    rw [(Crew.seek_cases hs).2]
    exact (List.sublist_append_right _ _).filter _
  | ticked ht =>
    obtain ⟨-, -, -, hc | hc⟩ := Crew.tick_cases ht
    · exact .inl (Pool.Calm.crew (hc ▸ .refl _))
    · refine .inl (Pool.Calm.crew ?_)
      rw [hc]
      simp [List.filter_append, Task.isAdd]
  | wentOn hg hs | ended hg hs =>
    rw [frees?_user hg]
    exact Operation.effect hs
  | @cancelled _ o hg hs =>
    rw [frees?_cancel hg]
    exact (o.deed_cancel env s.pool).effect
  | taken ht | untaken ht _ =>
    have hq := Pool.Quiet.tryTake (p := s.pool) env.now
    rw [ht] at hq
    exact .inl hq.toCalm
  | giveBack _ => exact .inl Pool.Quiet.returnLater.toCalm
  | @leaveBehind _ m c _ hd =>
    refine .inl (Pool.Calm.crew ?_)
    rcases s.pool.crew.dispatch_cases (.restore m) with ⟨-, he⟩ | ⟨-, he⟩ <;> rw [he] at hd <;>
      cases hd
    simp [List.filter_append, Task.isAdd]
  | abandoned _ _ => exact .inl (Pool.Quiet.drop 1).toCalm
  | detach _ => exact .inl Pool.Quiet.forget.toCalm
  | resized hq => exact .inl (Pool.Quiet.resize hq).toCalm
  | closed _ | resetCounters =>
    exact .inl (Pool.Quiet.toCalm (p := s.pool) (.aside rfl rfl le_rfl le_rfl))
  | acquire _ | wait _ | check _ | close _ | release _ _ | misplace _ _ | unheld _ _ | use
  | unsized _ | readOutcome | passed _ => exact .inl (Pool.Quiet.refl _).toCalm

/-- A pool stays open or closed, unless its closing begins. -/
theorem closed_move (h : s.move? env mv = some (env', s')) :
    s'.pool.closed = s.pool.closed ∨
      ∃ n, mv = .step (.user n) ∧ Table.get? s.operations n = some (.close .starting) := by
  cases moved h with
  | worked hg hs | finished hg hs => exact .inl (Job.deed hs).closed
  | @wentOn n o _ _ q hg hs | @ended n o _ q _ hg hs =>
    cases ho : o.shuts with
    | false => exact .inl (Operation.deed ho hs).closed
    | true =>
      rcases Operation.shut_cases ho hs with ⟨rfl, -⟩ | ⟨idle, -, hp, -⟩
      · exact .inr ⟨n, rfl, hg⟩
      · obtain rfl : q = { s.pool with crew := s.pool.crew.stop.releaseHands.1 } := hp
        exact .inl rfl
  | @cancelled _ o hg hs => exact .inl (o.deed_cancel env s.pool).closed
  | taken ht | untaken ht _ =>
    have hq := Pool.Quiet.tryTake (p := s.pool) env.now
    rw [ht] at hq
    exact .inl hq.closed
  | giveBack _ => exact .inl Pool.Quiet.returnLater.closed
  | detach _ => exact .inl Pool.Quiet.forget.closed
  | resized hq => exact .inl (Pool.Quiet.resize hq).closed
  | sought | took | ticked | closed | leaveBehind | abandoned | resetCounters | acquire | wait
  | check | close | release | misplace | unheld | use | unsized | readOutcome | passed =>
    exact .inl rfl

/-- A pool that is closed shrinks with every move. -/
theorem wanes_move (h : s.move? env mv = some (env', s')) (hc : s.pool.closed = true) :
    s.pool.Wanes s'.pool := by
  rcases calm_or_frees h with hp | ⟨source, m, -, hp⟩
  · exact hp.wanes hc
  · rw [hp.unclosed] at hc
    cases hc

end Site

end SessionPool
