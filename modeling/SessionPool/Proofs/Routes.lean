import SessionPool.Proofs.Comeback
import SessionPool.Proofs.Inspection
import SessionPool.Proofs.Passing
import SessionPool.Proofs.Ripeness
import SessionPool.Proofs.Whereabouts

/-!
# How members get from place to place

A member gets to the place where it is with a move by one of few routes (`Site.Came`), and it is
the route that decides what becomes of its notes: it stays where it was, or is given back, with the
notes that it had; it becomes free; it is picked to be probed; its session was opened just now; it
is handed out (`Site.handed?`); or it is received (`Site.received?`). `Site.came_move` says so of
all members that a pool has not given up.
-/

set_option autoImplicit false

namespace SessionPool

/-! ## Members that become free -/

/-- The notes on a member that has become free. -/
def Notes.freed (n : Notes) (lastUsed : Instant) : Notes := { n with stage := .idle, lastUsed }

/-- Whether members become free from the place. -/
def Place.sets : Place → Bool
  | ready | opened | resetting | probed => true
  | unused | held | returned => false

namespace Pool

variable {p q r : Pool} {m m' : Member} {now : Instant} {w : Whereabouts}

/-- One of the members becomes free. -/
def SetsFree (w : Whereabouts) (p q : Pool) : Prop :=
  ∃ pl m m', (some pl, m) ∈ w ∧ pl.sets = true ∧
    m'.notes = m.notes.freed m'.notes.lastUsed ∧ Admits m' p q

theorem admits_join (elapsed : Duration) : Admits (m.inStage .idle) p (p.join m elapsed now) :=
  admits_deliver.after (Quiet.countOpened elapsed).toCalm

theorem admits_settle (f : Fitness) :
    Admits ((touch m now).inStage .idle) p (p.settle m now f) := by
  cases f with
  | fit =>
    unfold settle
    dsimp only
    split
    · exact .of_calm Quiet.replace.toCalm
    · split
      · exact .of_calm Quiet.discard.toCalm
      · exact admits_deliver
  | unfit => exact .of_calm (Quiet.settle (f := .unfit) nofun).toCalm
  | lost => exact .of_calm (Quiet.settle (f := .lost) nofun).toCalm

theorem admits_judge (health : Health) : Admits (m.inStage .idle) p (p.judge m health now) := by
  cases health with
  | healthy => exact admits_deliver
  | unhealthy reason => exact .of_calm (Quiet.judge rfl).toCalm

theorem admits_abandon {ticket : Nat} (h : p.undelivered? ticket = some m) :
    Admits (m.inStage .idle) p (p.abandon ticket now) := by
  unfold abandon
  rw [h]
  exact admits_deliver.after (Quiet.collectReply ticket).toCalm

/-- What the crew does besides frees nobody. -/
theorem SetsFree.crew {c : Crew (Task Member)} (h : SetsFree w p q) :
    SetsFree w p { q with crew := c } := by
  obtain ⟨pl, m, m', hw, hs, hn, admits⟩ := h
  exact ⟨pl, m, m', hw, hs, hn, admits.idle, admits.served⟩

end Pool

variable {env env' : Env} {p q : Pool} {m : Member} {source : Source}

theorem Job.setsFree {j : Job} (hf : j.frees? = some (source, m)) {x : Stepped Job Unit}
    (h : j.step env p = some x) : Pool.SetsFree j.whereabouts p x.2.1 := by
  cases j with
  | adding a =>
    obtain ⟨waiter, attempt, delay, phase⟩ := a
    cases phase with
    | joining m elapsed =>
      cases h
      exact ⟨.opened, m, _, .head _, rfl, rfl, Pool.admits_join elapsed⟩
    | opening | failing | resting | releasing => cases hf
  | returning r =>
    cases r with
    | settling m f =>
      cases h
      exact ⟨.resetting, m, _, .head _, rfl, rfl, Pool.admits_settle f⟩
    | arriving | closing | resetting | paused => cases hf
  | closing | maintaining => cases hf

theorem Operation.setsFree {o : Operation} (hf : o.frees? = some (source, m))
    {x : Stepped Operation Outcome} (h : o.step env p = some x) :
    Pool.SetsFree o.whereabouts p x.2.1 := by
  cases o with
  | release r =>
    cases r with
    | settling m f =>
      cases h
      exact ⟨.resetting, m, _, .head _, rfl, rfl, Pool.admits_settle f⟩
    | arriving | closing | resetting | paused => cases hf
  | check c =>
    cases c with
    | judging left m health =>
      cases h
      exact ⟨.probed, m, _, .head _, rfl, rfl, Pool.admits_judge health⟩
    | starting | counting | picking | probing | paused => cases hf
  | acquire | misplace | wait | close => cases hf

namespace Site

variable {s s' : Site} {mv : Move}

/-- Who is passed on lay ready for the request that is withdrawn. -/
theorem setsFree_cancel {o : Operation} (hf : o.passesOn? s.pool = some (source, m)) :
    Pool.SetsFree s.whereabouts s.pool (o.cancel env s.pool).2 := by
  cases o with
  | acquire a =>
    cases a with
    | queued ticket cutoff timeout =>
      obtain ⟨m', hu, -⟩ := Option.map_eq_some_iff.1 hf
      have ready : m' ∈ s.pool.waiting.delivered :=
        List.mem_filterMap.2 ⟨_, Pool.mem_of_undelivered hu, rfl⟩
      exact ⟨.ready, m', _, has_ready ready, rfl, rfl, Pool.admits_abandon hu⟩
    | arriving | givingUp | calling | dialing | takingOver | countingFailure | vacating | failing =>
      cases hf
  | release | misplace | wait | check | close => cases hf

/-- With a move nobody becomes free, or one member does. -/
theorem setsFree_move (h : s.move? env mv = some (env', s')) :
    s.pool.Calm s'.pool ∨ Pool.SetsFree s.whereabouts s.pool s'.pool := by
  have among {w : Whereabouts} {q : Pool} (hw : ∀ x ∈ w, x ∈ s.whereabouts)
      (h : Pool.SetsFree w s.pool q) : Pool.SetsFree s.whereabouts s.pool q := by
    obtain ⟨pl, m, m', hm, rest⟩ := h
    exact ⟨pl, m, m', hw _ hm, rest⟩
  rcases calm_or_frees h with calm | ⟨source, m, hf, -⟩
  · exact .inl calm
  · refine .inr ?_
    cases moved h with
    | worked hg hs =>
      rw [frees?_worker hg] at hf
      exact among (fun _ => mem_job_whereabouts (Table.mem_of_get? hg)) (Job.setsFree hf hs)
    | finished hg hs =>
      rw [frees?_worker hg] at hf
      exact (among (fun _ => mem_job_whereabouts (Table.mem_of_get? hg))
        (Job.setsFree hf hs)).crew
    | sought hg _ | took hg _ => simp [frees?, hg] at hf
    | wentOn hg hs | ended hg hs =>
      rw [frees?_user hg] at hf
      exact among (fun _ => mem_operation_whereabouts (Table.mem_of_get? hg))
        (Operation.setsFree hf hs)
    | cancelled hg _ =>
      rw [frees?_cancel hg] at hf
      exact setsFree_cancel hf
    | unheld hv => rcases hv with rfl | rfl | rfl <;> cases hf
    | ticked | closed | acquire | wait | check | close | release | misplace | taken | untaken
    | giveBack | leaveBehind | abandoned | detach | use | resized | unsized | resetCounters
    | readOutcome | passed => cases hf

end Site

/-! ## Members that are received -/

namespace Returning

variable {r r' : Returning}

/-- The notes on a member that has been received. -/
def received (n : Notes) : Notes := { n with takenAt := none, stage := .resetting }

/-- A member that is received is given up or reset next, and nobody has it any more. -/
theorem arriving_next {next : Next Returning Unit}
    (h : (arriving m).step env p = some (env', q, next)) (before : Place) :
    ∃ r', next = .more r' ∧ r'.member.id = m.id ∧
      (r'.place before = none ∨
        r'.place before = some .resetting ∧ r'.member.notes = received m.notes) := by
  simp only [step] at h
  split at h <;> rename_i hr <;> cases h
  · obtain ⟨-, -, -, rfl⟩ := Pool.receive_true hr
    exact ⟨_, rfl, rfl, .inr ⟨rfl, rfl⟩⟩
  · obtain ⟨q', m', hi, -, ⟨he, -⟩ | ⟨he, -⟩⟩ := p.receive_cases env.server m env.now
    · cases he.symm.trans hr
      exact ⟨_, rfl, hi, .inl rfl⟩
    · cases he.symm.trans hr

/-- A return that goes on is at the reset of a member, unless the pool has given it up. -/
theorem place_more {before pl : Place} (h : r.step env p = some (env', q, .more r'))
    (hp : r'.place before = some pl) : pl = .resetting ∧
      ((∃ m, r = .arriving m ∧ m.id = r'.member.id) ∨
        r.place before = some .resetting ∧ r'.member.notes = r.member.notes) := by
  cases r with
  | arriving m =>
    obtain ⟨r', he, hi, gone | ⟨there, -⟩⟩ := arriving_next h before <;> cases he
    · cases gone.symm.trans hp
    · cases there.symm.trans hp
      exact ⟨rfl, .inl ⟨m, rfl, hi.symm⟩⟩
  | closing m => cases h
  | resetting m =>
    obtain ⟨ha, hn⟩ := reset_more (congrArg (fun s => s.2.2) (Option.some.inj h))
    refine ⟨?_, .inr ⟨rfl, hn⟩⟩
    cases r' <;> cases ha <;> cases hp <;> rfl
  | paused m pause =>
    simp only [step, Option.ite_none_right_eq_some, Option.some.injEq] at h
    obtain ⟨ha, hn⟩ := afterReset_more (congrArg (fun s => s.2.2) h.2)
    refine ⟨?_, .inr ⟨rfl, hn⟩⟩
    cases r' <;> cases ha <;> cases hp <;> rfl
  | settling m f => cases h

end Returning

namespace Site

variable {s s' : Site} {mv : Move}

/-- Who is received was with a user or given back, and is reset then, or given up. -/
structure Receives (s s' : Site) (m : Member) : Prop where
  before : s.Has .held m ∨ s.Has .returned m
  after : ∃ pl m', (pl, m') ∈ s'.whereabouts ∧ m'.id = m.id ∧
    (pl = none ∨ pl = some .resetting ∧ m'.notes = Returning.received m.notes)

/-- The first step of a return is not its last. -/
theorem receives_job {k : Nat} {j : Job} (hg : Table.get? s.jobs k = some j)
    (hj : j.returning? = some (.arriving m)) {next : Next Job Unit}
    (h : j.step env s.pool = some (env', q, next)) :
    ∃ j', next = .more j' ∧ ∀ s' : Site, (k, j') ∈ s'.jobs → s.Receives s' m := by
  cases j with
  | returning r =>
    cases hj
    obtain ⟨⟨e, r, next⟩, hs, he⟩ := Option.map_eq_some_iff.1 h
    cases he
    have before := has_of_job hg (.head _)
    obtain ⟨r', rfl, hi, hn⟩ := Returning.arriving_next hs .returned
    refine ⟨_, rfl, fun s' hk => ⟨.inr before, r'.place .returned, r'.member, ?_, hi, hn⟩⟩
    exact mem_job_whereabouts hk (.head _)
  | adding | closing | maintaining => cases hj

theorem receives_operation {n : Nat} {o : Operation} (hg : Table.get? s.operations n = some o)
    (hj : o.returning? = some (.arriving m)) {next : Next Operation Outcome}
    (h : o.step env s.pool = some (env', q, next)) :
    ∃ o', next = .more o' ∧ ∀ s' : Site, (n, o') ∈ s'.operations → s.Receives s' m := by
  obtain rfl := Operation.eq_of_returning hj
  obtain ⟨⟨e, r, next⟩, hs, he⟩ := Option.map_eq_some_iff.1 h
  cases he
  have before := has_of_operation hg (.head _)
  obtain ⟨r', rfl, hi, hn⟩ := Returning.arriving_next hs .held
  refine ⟨_, rfl, fun s' hk => ⟨.inl before, r'.place .held, r'.member, ?_, hi, hn⟩⟩
  exact mem_operation_whereabouts hk (.head _)

theorem receives_move (h : s.move? env mv = some (env', s')) (hr : s.received? mv = some m) :
    s.Receives s' m := by
  have arriving {x : Option Returning} (hx : x.bind Returning.arriving? = some m) :
      x = some (.arriving m) := by
    obtain ⟨r, rfl, hm⟩ := Option.bind_eq_some_iff.1 hx
    cases r <;> cases hm
    rfl
  cases moved h with
  | worked hg hs =>
    simp only [received?, returning?, hg, Option.bind_some] at hr
    obtain ⟨j', he, received⟩ := receives_job hg (arriving hr) hs
    cases he
    exact received _ (.head _)
  | finished hg hs =>
    simp only [received?, returning?, hg, Option.bind_some] at hr
    obtain ⟨j', he, -⟩ := receives_job hg (arriving hr) hs
    cases he
  | wentOn hg hs =>
    simp only [received?, returning?, hg, Option.bind_some] at hr
    obtain ⟨o', he, received⟩ := receives_operation hg (arriving hr) hs
    cases he
    exact received _ (Table.mem_of_get? (Table.get?_update_self hg _))
  | ended hg hs =>
    simp only [received?, returning?, hg, Option.bind_some] at hr
    obtain ⟨o', he, -⟩ := receives_operation hg (arriving hr) hs
    cases he
  | sought hg _ | took hg _ => simp [received?, returning?, hg] at hr
  | unheld hv => rcases hv with rfl | rfl | rfl <;> cases hr
  | ticked | closed | cancelled | acquire | wait | check | close | release | misplace | taken
  | untaken | giveBack | leaveBehind | abandoned | detach | use | resized | unsized
  | resetCounters | readOutcome | passed => cases hr

end Site

/-! ## Members that are handed out -/

/-- The member that the operation is served with in its next step. -/
def Operation.served? (env : Env) (p : Pool) (o : Operation) : Option Member :=
  match o.step env p with
  | some (_, _, .done (.served m)) => some m
  | _ => none

theorem Operation.served?_eq_some {o : Operation} (h : o.served? env p = some m) :
    ∃ env' q, o.step env p = some (env', q, .done (.served m)) := by
  unfold served? at h
  split at h <;> cases h
  exact ⟨_, _, ‹_›⟩

/-- Whether members are handed out from the place. -/
def Place.serves : Place → Bool
  | unused | ready | opened => true
  | held | returned | resetting | probed => false

namespace Site

variable {s s' : Site} {mv : Move}

/-- The member that a caller is handed with a move. -/
def handed? (env : Env) (s : Site) : Move → Option Member
  | .tryAcquire =>
    match (s.tryAcquire env).2.2 with
    | .ok m => m
    | .error _ => none
  | .step (.user n) => (Table.get? s.operations n).bind (Operation.served? env s.pool)
  | _ => none

theorem handed?_tryAcquire :
    s.handed? env .tryAcquire = some m ↔
      ∃ q m₀, s.pool.tryTake env.now = (q, .ok (some m₀)) ∧ m = m₀.handOut env.now := by
  have hn : (s.pool.noteExpired env (s.pool.spoiledByTry env.now)).now = env.now := by simp
  unfold handed? tryAcquire
  dsimp only
  rw [hn]
  constructor
  · intro h
    split at h
    · rename_i he
      split at he <;> cases he <;> cases h
      exact ⟨_, _, ‹_›, rfl⟩
    · cases h
  · rintro ⟨q, m₀, ht, rfl⟩
    rw [ht]

/-- Who is handed out was free or had just been opened, and a user has it then. -/
structure Hands (env : Env) (s s' : Site) (m : Member) : Prop where
  before : ∃ pl m₀, s.Has pl m₀ ∧ pl.serves = true ∧ m = m₀.handOut env.now
  after : s'.Has .held m

theorem hands_move (h : s.move? env mv = some (env', s')) (hh : s.handed? env mv = some m) :
    s.Hands env s' m := by
  cases moved h with
  | taken ht =>
    obtain ⟨q, m₀, ht', rfl⟩ := handed?_tryAcquire.1 hh
    cases ht.symm.trans ht'
    refine ⟨⟨.unused, _, has_unused (Pool.taken_of_tryTake ht).1, rfl, rfl⟩, has_held ?_⟩
    exact List.mem_append_right _ (.head _)
  | untaken ht hr =>
    obtain ⟨q, m₀, ht', -⟩ := handed?_tryAcquire.1 hh
    exact absurd (congrArg Prod.snd (ht.symm.trans ht')) (hr m₀)
  | wentOn hg hs =>
    simp only [handed?, hg, Option.bind_some] at hh
    obtain ⟨e, r, hd⟩ := Operation.served?_eq_some hh
    cases hs.symm.trans hd
  | ended hg hs =>
    simp only [handed?, hg, Option.bind_some] at hh
    obtain ⟨e, r, hd⟩ := Operation.served?_eq_some hh
    cases hs.symm.trans hd
    refine ⟨?_, has_held (List.mem_append_right _ (.head _))⟩
    obtain ⟨a, rfl, ha⟩ := Operation.acquire_of_served hs
    obtain ⟨m₀, rfl, ⟨timeout, r, hc⟩ | hd | ⟨elapsed, rfl⟩⟩ := Acquiring.served_cases ha
    · exact ⟨.unused, m₀, has_unused (Pool.taken_of_checkout hc).1, rfl, rfl⟩
    · exact ⟨.ready, m₀, has_ready hd, rfl, rfl⟩
    · exact ⟨.opened, m₀, has_of_operation hg (.head _), rfl, rfl⟩
  | unheld hv => rcases hv with rfl | rfl | rfl <;> cases hh
  | worked | finished | sought | took | ticked | closed | cancelled | acquire | wait | check
  | close | release | misplace | giveBack | leaveBehind | abandoned | detach | use | resized
  | unsized | resetCounters | readOutcome | passed => cases hh

end Site

/-! ## Routes -/

theorem Acquiring.born {a a' : Acquiring} {elapsed : Duration}
    (h : a.step env p = some (env', q, .more a')) (ha : a' = .takingOver m elapsed) :
    ∃ life, m.notes = .start p.nextId m.session.pid env.now life := by
  subst ha
  have concluded {e : Env} {x : Pool × Acquired}
      (h : conclude e x = (env', q, .more (.takingOver m elapsed))) : False := by
    obtain ⟨p₁, e | m₀⟩ := x
    · simp only [conclude, refuse] at h
      split at h <;> cases h
    · cases h
  have resumed {resume : Opening → Env → Env × Acquiring} {o : Opening} {x : Stepped Opening Opened}
      (hr : ∀ o e, (resume o e).2 ≠ .takingOver m elapsed) (ho : o.step env p = some x)
      (h : afterOpening resume x = (env', q, .more (.takingOver m elapsed))) :
      ∃ life, m.notes = .start p.nextId m.session.pid env.now life := by
    obtain ⟨e, r, o' | error | ⟨m', elapsed'⟩⟩ := x
    · simp only [afterOpening, Prod.mk.injEq, Next.more.injEq] at h
      exact absurd h.2.2 (hr _ _)
    · cases h
    · cases h
      exact Opening.born ho
  cases a with
  | arriving timeout =>
    simp only [step, arrive, Option.some.injEq] at h
    split at h
    · cases h
    · cases h
    · cases h
    · exact (concluded (x := (_, .error _)) h).elim
  | queued ticket cutoff timeout =>
    simp only [step] at h
    split at h
    · exact (concluded (Option.some.inj h)).elim
    · split at h
      · exact (concluded (x := (_, .error _)) (Option.some.inj h)).elim
      · split at h <;> cases h
  | givingUp ticket timeout => exact (concluded (Option.some.inj h)).elim
  | calling deadline timeout =>
    simp only [step] at h
    obtain ⟨x, ho, he⟩ := Option.map_eq_some_iff.1 h
    exact resumed (fun _ _ => Acquiring.noConfusion) ho he
  | dialing o cutoff timeout =>
    simp only [step] at h
    split at h
    · exact resumed (fun _ _ => Acquiring.noConfusion) ‹_› (Option.some.inj h)
    · split at h <;> cases h
  | takingOver m' elapsed' => exact (concluded (Option.some.inj h)).elim
  | countingFailure e => cases h
  | vacating e => cases h
  | failing e => cases h

theorem Job.whereabouts_start (p : Pool) (t : Task Member) :
    (start p t).whereabouts = t.whereabouts := by
  cases t <;> rfl

theorem Operation.held_of_yields {o : Operation} (h : o.yields? = some m) :
    (some .held, m) ∈ o.whereabouts := by
  cases o with
  | release r =>
    cases r <;> cases h
    exact .head _
  | misplace m' =>
    cases h
    exact .head _
  | acquire | wait | check | close => cases h

namespace Site

variable {s s' : Site} {mv : Move} {pl : Place}

theorem has_of_yields (h : s.Yields m) : s.Has .held m := by
  rcases h with h | ⟨n, o, hg, ho⟩
  · exact has_held h
  · exact has_of_operation hg (Operation.held_of_yields ho)

/-- A member that an operation is to give back was with a user. -/
theorem yields_move (hk : s.Keyed) (h : s.move? env mv = some (env', s')) {n : Nat} {o : Operation}
    (ho : Table.get? s'.operations n = some o) (hy : o.yields? = some m) : s.Yields m := by
  have old {n : Nat} (ho : Table.get? s.operations n = some o) : s.Yields m := .inr ⟨n, o, ho, hy⟩
  have begun {k : Nat} {o' : Operation} (ho : Table.get? (s.operations ++ [(k, o')]) n = some o)
      (hb : o' = o → s.Yields m) : s.Yields m := by
    rcases Table.get?_append_cases hk.operations ho with ho | rfl
    · exact old ho
    · exact hb rfl
  cases moved h with
  | wentOn hg hs =>
    rcases Table.get?_update_cases hk.operations ho with ho | ⟨rfl, rfl⟩
    · exact old ho
    · cases Operation.goesOn hs with
      | @release r r' hr =>
        cases r' with
        | arriving m' =>
          have hp : (Returning.arriving m').place .held = some .held := rfl
          cases (Returning.place_more hr hp).1
        | closing | resetting | paused | settling => cases hy
      | acquire | wait | check | close => cases hy
  | ended | cancelled => exact old (Table.get?_of_get?_remove hk.operations ho)
  | acquire | wait | check | close =>
    refine begun ho ?_
    rintro rfl
    cases hy
  | release hm | misplace hm =>
    refine begun ho ?_
    rintro rfl
    cases hy
    exact .inl (List.mem_of_find?_eq_some hm)
  | worked | finished | sought | took | ticked | closed | taken | untaken | giveBack | leaveBehind
  | abandoned | detach | unheld | use | resized | unsized | resetCounters | readOutcome | passed =>
    exact old ho

/-- How a member comes to be where it is with a move. -/
inductive Came (env : Env) (s : Site) (mv : Move) : Place → Member → Prop
  /-- It was there before. -/
  | stayed {pl : Place} {m m₀ : Member} (h : s.Has pl m₀) (hn : m.notes = m₀.notes) :
      Came env s mv pl m
  | returned {m : Member} (h : s.Has .held m) : Came env s mv .returned m
  /-- It has become free. -/
  | freed {pl pl₀ : Place} {m m₀ : Member} (h : s.Has pl₀ m₀) (hs : pl₀.sets = true)
      (hp : pl = .unused ∨ pl = .ready) (hn : m.notes = m₀.notes.freed m.notes.lastUsed) :
      Came env s mv pl m
  | probed {m m₀ : Member} (h : s.Has .unused m₀)
      (hn : m.notes = { m₀.notes with stage := .inUse }) : Came env s mv .probed m
  /-- Its session was opened just now. -/
  | opened {m : Member} {life : Option Duration}
      (hn : m.notes = .start s.pool.nextId m.session.pid env.now life) : Came env s mv .opened m
  | handed {m : Member} (h : s.handed? env mv = some m) : Came env s mv .held m
  | received {m m₀ : Member} (h : s.received? mv = some m₀) (hi : m₀.id = m.id) :
      Came env s mv .resetting m

theorem came_free (h : s.move? env mv = some (env', s')) :
    (∀ m ∈ s'.pool.idle, Came env s mv .unused m) ∧
      ∀ m ∈ s'.pool.waiting.delivered, Came env s mv .ready m := by
  have delivered {p : Pool} {m : Member} (hm : m ∈ p.waiting.delivered) :
      ∃ t, (t, .ok m) ∈ p.waiting.replies := by
    obtain ⟨⟨t, r⟩, ht, hr⟩ := List.mem_filterMap.1 hm
    cases r <;> cases hr
    exact ⟨t, ht⟩
  have ready {t : Nat} {m : Member} (ht : (t, .ok m) ∈ s.pool.waiting.replies) :
      Came env s mv .ready m :=
    .stayed (has_ready (List.mem_filterMap.2 ⟨_, ht, rfl⟩)) rfl
  rcases setsFree_move h with calm | ⟨pl, m₀, m', hw, hs, hn, admits⟩
  · refine ⟨fun m hm => .stayed (has_unused (calm.idle.subset hm)) rfl, fun m hm => ?_⟩
    obtain ⟨t, ht⟩ := delivered hm
    exact ready (calm.served t m ht)
  · refine ⟨fun m hm => ?_, fun m hm => ?_⟩
    · rcases List.mem_append.1 (admits.idle.subset hm) with hm | hm
      · exact .stayed (has_unused hm) rfl
      · obtain rfl := List.mem_singleton.1 hm
        exact .freed hw hs (.inl rfl) hn
    · obtain ⟨t, ht⟩ := delivered hm
      rcases admits.served t m ht with ht | rfl
      · exact ready ht
      · exact .freed hw hs (.inr rfl) hn

theorem came_held (h : s.move? env mv = some (env', s')) (hm : m ∈ s'.held) :
    Came env s mv .held m := by
  rcases held_cases h hm with ⟨m₀, hm₀, hn⟩ | ⟨n, a, q, rfl, hg, ha⟩ | ⟨q, m₀, rfl, ht, rfl⟩
  · exact .stayed (has_held hm₀) hn.symm
  · refine .handed ?_
    simp only [handed?, hg, Option.bind_some, Operation.served?, Operation.step, ha]
    rfl
  · exact .handed (handed?_tryAcquire.2 ⟨q, m₀, ht, rfl⟩)

theorem came_job (hk : s.Keyed) (h : s.move? env mv = some (env', s')) {k : Nat} {j : Job}
    (hj : Table.get? s'.jobs k = some j) (hm : (some pl, m) ∈ j.whereabouts) :
    Came env s mv pl m := by
  rcases job_origin hk h hj with hg | ⟨j₀, rfl, hg, hs⟩ | ⟨c, t, rfl, hs, rfl⟩
  · exact .stayed (has_of_job hg hm) rfl
  · cases Job.goesOn hs with
    | @adding a a' ha =>
      obtain ⟨m', hm', he⟩ := List.mem_map.1 hm
      cases he
      unfold Adding.joining at hm'
      split at hm'
      · rename_i hp
        cases List.mem_singleton.1 hm'
        obtain ⟨life, hn⟩ := Adding.born ha hp
        exact .opened hn
      all_goals cases hm'
    | @returning r r' hr =>
      obtain ⟨hp, rfl⟩ := Prod.mk.inj (List.mem_singleton.1 hm)
      obtain ⟨rfl, ⟨m₀, rfl, hi⟩ | ⟨hp, hn⟩⟩ := Returning.place_more hr hp.symm
      · have received : s.received? (.step (.worker k)) = some m₀ := by
          simp only [received?, returning?, hg, Option.bind_some]
          rfl
        exact .received received hi
      · exact .stayed (has_of_job hg (hp ▸ .head _)) hn
  · obtain ⟨-, ht⟩ := Crew.seek_cases hs
    rw [Job.whereabouts_start] at hm
    have hq : t ∈ s.pool.crew.tasks := ht ▸ .head _
    exact .stayed (mem_tasks_whereabouts hq hm) rfl

theorem came_operation (hk : s.Keyed) (h : s.move? env mv = some (env', s')) {n : Nat}
    {o : Operation} (ho : Table.get? s'.operations n = some o)
    (hm : (some pl, m) ∈ o.whereabouts) : Came env s mv pl m := by
  rcases operation_origin hk h ho with hg | ⟨o₀, rfl, hg, hs⟩ | hn
  · exact .stayed (has_of_operation hg hm) rfl
  · cases Operation.goesOn hs with
    | @acquire a a' ha =>
      obtain ⟨m', hm', he⟩ := List.mem_map.1 hm
      cases he
      cases a' with
      | takingOver m' elapsed =>
        cases List.mem_singleton.1 hm'
        obtain ⟨life, hn⟩ := Acquiring.born ha rfl
        exact .opened hn
      | arriving | queued | givingUp | calling | dialing | countingFailure | vacating | failing =>
        cases hm'
    | @release r r' hr =>
      obtain ⟨hp, rfl⟩ := Prod.mk.inj (List.mem_singleton.1 hm)
      obtain ⟨rfl, ⟨m₀, rfl, hi⟩ | ⟨hp, hn⟩⟩ := Returning.place_more hr hp.symm
      · have received : s.received? (.step (.user n)) = some m₀ := by
          simp only [received?, returning?, hg, Option.bind_some]
          rfl
        exact .received received hi
      · exact .stayed (has_of_operation hg (hp ▸ .head _)) hn
    | @check c c' hc =>
      obtain ⟨m', hm', he⟩ := List.mem_map.1 hm
      cases he
      rcases Checking.member?_origin hc (Option.mem_toList.1 hm') with
        ⟨m₀, hm₀, hn⟩ | ⟨m₀, hm₀, hn⟩
      · refine .stayed (has_of_operation hg ?_) hn
        exact List.mem_map_of_mem (Option.mem_toList.2 hm₀)
      · exact .probed (has_unused hm₀) hn
    | wait => cases hm
    | close =>
      obtain ⟨m', -, he⟩ := List.mem_map.1 hm
      cases he
  · -- a new operation has in hand at most what its user gives back
    have yielded (hp : pl = .held) (hy : o.yields? = some m) : Came env s mv pl m := by
      subst hp
      exact .stayed (has_of_yields (yields_move hk h ho hy)) rfl
    cases o with
    | acquire a =>
      cases a <;> cases hn
      cases hm
    | release r =>
      cases r <;> cases hn
      cases List.mem_singleton.1 hm
      exact yielded rfl rfl
    | misplace m' =>
      cases List.mem_singleton.1 hm
      exact yielded rfl rfl
    | check c =>
      cases c <;> cases hn
      cases hm
    | close c =>
      cases c <;> cases hn
      cases hm
    | wait w => cases hm

/-- **Every member has come by one of the routes** to where it is. -/
theorem came_move (hr : Reachable env s) (h : s.move? env mv = some (env', s'))
    (hm : s'.Has pl m) : Came env s mv pl m := by
  obtain ⟨unused, ready⟩ := came_free h
  rcases has_cases (hr.keyed.move h) hm with ⟨rfl, hi⟩ | ⟨rfl, hd⟩ | ⟨rfl, hb⟩ | ⟨rfl, hu⟩ |
    ⟨k, j, hj, hw⟩ | ⟨n, o, ho, hw⟩
  · exact unused m hi
  · exact ready m hd
  · rcases (takesBack_move h).returns m hb with hb | hy
    · exact .stayed (has_returned hb) rfl
    · exact .returned (has_of_yields hy)
  · exact came_held h hu
  · exact came_job hr.keyed h hj hw
  · exact came_operation hr.keyed h ho hw

end Site

end SessionPool
