import SessionPool.Proofs.Change
import SessionPool.Proofs.Errand
import SessionPool.Proofs.Freeing

/-!
# The powers of the parties

Which powers a party has can be seen from what it is about to do: a job that has opened a session
may enter it, one that gives up the room for a session may fail the request on whose behalf it was
to be opened, a return that is to reset its session may call the hook (`Site.powers`). Whatever a
move does to the pool, it does with these powers only (`Site.changes_move`).
-/

set_option autoImplicit false

namespace SessionPool

variable {env env' : Env} {p q : Pool} {G : Power → Prop}

open Pool.Changes (aside count)

/-! ## Processes -/

namespace Opening

theorem changes_afterConfigure (began : Instant) (x : Env × Session × Progress) :
    p.Changes env.now G (afterConfigure p began x).2.1 := by
  obtain ⟨env', s, (e | ⟨⟨⟩⟩) | pause⟩ := x
  · exact .refl
  · unfold afterConfigure
    dsimp only
    split
    · exact aside rfl
    · exact .refl
  · exact .refl

theorem changes_afterDial (began : Instant) (x : Env × Dialed) :
    p.Changes env.now G (afterDial p began x).2.1 := by
  obtain ⟨env', (e | s) | dial⟩ := x
  · exact .refl
  · have called : p.Changes env.now G p.configureCall.1 := aside rfl
    exact called.trans (changes_afterConfigure began _)
  · exact .refl

theorem changes {o : Opening} {s : Stepped Opening Opened} (h : o.step env p = some s) :
    p.Changes env.now G s.2.1 := by
  cases o with
  | fresh =>
    cases h
    exact changes_afterDial _ _
  | dialing began dial =>
    simp only [step, Option.ite_none_right_eq_some, Option.some.injEq] at h
    obtain ⟨-, rfl⟩ := h
    exact changes_afterDial _ _
  | configuring began s pause =>
    simp only [step, Option.ite_none_right_eq_some, Option.some.injEq] at h
    obtain ⟨-, rfl⟩ := h
    exact changes_afterConfigure _ _

end Opening

namespace Adding

def powers (a : Adding) : Power → Prop
  | .enter => ∃ m elapsed, a.phase = .joining m elapsed
  | .fail ticket e => a.waiter = some ticket ∧ a.phase = .releasing e
  | .reset | .resize | .close | .take | .depart | .staff | .breakOff => False

theorem changes_fail (a : Adding) (e : SessionError) :
    p.Changes env.now G (a.fail env p e).2.1 := by
  have counted : p.Changes env.now G p.countFailedOpening := count _
  unfold fail
  dsimp only
  split
  · exact counted
  · split <;> exact counted

theorem changes {a : Adding} {s : Stepped Adding Unit} (h : a.step env p = some s) :
    p.Changes env.now a.powers s.2.1 := by
  obtain ⟨waiter, attempt, delay, phase⟩ := a
  cases phase with
  | opening o =>
    simp only [step] at h
    split at h
    · cases h
      exact .refl
    · obtain ⟨x, ho, rfl⟩ := Option.map_eq_some_iff.1 h
      exact Opening.changes ho
  | joining m elapsed =>
    cases h
    exact .join ⟨m, elapsed, rfl⟩ elapsed
  | failing e =>
    cases h
    exact changes_fail _ e
  | resting timer =>
    simp only [step] at h
    split at h
    · cases h
      exact .refl
    · obtain ⟨-, rfl⟩ := by simpa using h
      exact .refl
  | releasing e =>
    cases h
    exact .releaseRoom fun ticket ht => .inl ⟨ht, rfl⟩

end Adding

namespace Returning

def powers (r : Returning) : Power → Prop
  | .reset => ∃ m, r = .resetting m
  | .enter | .fail _ _ | .resize | .close | .take | .depart | .staff | .breakOff => False

theorem changes_runReset (h : G .reset) (m : Member) :
    p.Changes env.now G (runReset env' p m).2.1 := by
  unfold runReset
  rw [pool_afterReset]
  exact (Pool.Change.reset h).changes

theorem changes_reset (h : G .reset) (m : Member) : p.Changes env.now G (reset env p m).2.1 := by
  have rolled : p.Changes env.now G (rollBack env p m).2.1 := by
    unfold rollBack
    dsimp only
    split
    · exact changes_runReset h _
    · exact .refl
  unfold reset
  split
  · exact .refl
  · split
    · exact .refl
    · split
      · exact changes_runReset h m
      · exact rolled
      · exact rolled
      · exact .refl
      · exact .refl

theorem now_settle (m : Member) (f : Fitness) : (settle env p m f).1.now = env.now := by
  unfold settle
  dsimp only
  split <;> rfl

theorem changes {r : Returning} {s : Stepped Returning Unit} (h : r.step env p = some s) :
    p.Changes env.now r.powers s.2.1 := by
  cases r with
  | arriving m =>
    have hr : p.Changes env.now (arriving m).powers (p.receive env.server m env.now).1 :=
      .receive env.server
    simp only [step] at h
    split at h <;> rename_i hm <;> cases h <;> rw [hm] at hr <;> exact hr
  | closing m =>
    cases h
    exact .refl
  | resetting m =>
    cases h
    exact changes_reset ⟨m, rfl⟩ m
  | paused m pause =>
    simp only [step, Option.ite_none_right_eq_some, Option.some.injEq] at h
    obtain ⟨-, rfl⟩ := h
    rw [pool_afterReset]
    exact .refl
  | settling m f =>
    cases h
    have hs : (settle env p m f).2.1 = p.settle m (settle env p m f).1.now f := rfl
    rw [hs, now_settle]
    exact .settle f

end Returning

namespace Acquiring

def powers (a : Acquiring) : Power → Prop
  | .enter => ∃ m elapsed, a = .takingOver m elapsed
  | .reset | .fail _ _ | .resize | .close | .take | .depart | .staff | .breakOff => False

theorem changes_arrive (timeout : Duration) :
    p.Changes env.now G (arrive env p timeout).2.1 := by
  have hn : (p.noteExpired env (p.spoiledByCheckout env.now)).now = env.now := by simp
  have hc : p.Changes env.now G (p.checkout env.now timeout).1 := .checkout timeout
  unfold arrive
  dsimp only
  split <;> rename_i hm <;> rw [hn] at hm <;> rw [hm] at hc
  · exact hc
  · exact hc
  · exact hc
  · rw [pool_refuse]
    exact hc

theorem changes {a : Acquiring} {s : Stepped Acquiring Acquired} (h : a.step env p = some s) :
    p.Changes env.now a.powers s.2.1 := by
  cases a with
  | arriving timeout =>
    cases h
    exact changes_arrive timeout
  | queued ticket cutoff timeout =>
    simp only [step] at h
    split at h
    · cases h
      rw [pool_conclude]
      exact .collectReply ticket
    · split at h
      · cases h
        rw [pool_refuse]
        exact .collectReply ticket
      · simp only [Option.ite_none_right_eq_some, Option.some.injEq] at h
        obtain ⟨-, rfl⟩ := h
        exact .refl
  | givingUp ticket timeout =>
    cases h
    rw [pool_conclude]
    exact .giveUp ticket timeout
  | calling deadline timeout =>
    simp only [step] at h
    obtain ⟨x, ho, rfl⟩ := Option.map_eq_some_iff.1 h
    rw [pool_afterOpening]
    exact Opening.changes ho
  | dialing o cutoff timeout =>
    simp only [step] at h
    split at h
    · rename_i x ho
      cases h
      rw [pool_afterOpening]
      exact Opening.changes ho
    · simp only [Option.ite_none_right_eq_some, Option.some.injEq] at h
      obtain ⟨-, rfl⟩ := h
      exact .refl
  | takingOver m elapsed =>
    cases h
    rw [pool_conclude]
    exact .takeOver ⟨m, elapsed, rfl⟩ elapsed
  | countingFailure e =>
    cases h
    show p.Changes env.now _ p.countFailedOpening
    exact count _
  | vacating e =>
    cases h
    exact .vacateRoom
  | failing e =>
    cases h
    show p.Changes env.now _ p.countFailure
    exact count _

end Acquiring

namespace Checking

theorem changes {c : Checking} {s : Stepped Checking (Except PoolError Unit)}
    (h : c.step env p = some s) : p.Changes env.now G s.2.1 := by
  cases c with
  | starting =>
    simp only [step] at h
    split at h
    · cases h
      exact .refl
    · split at h <;> cases h <;> exact .refl
  | counting =>
    cases h
    exact .refl
  | picking left =>
    cases left with
    | zero =>
      cases h
      exact .refl
    | succ left =>
      have hp : p.Changes env.now G p.pickProbe.1 := .pickProbe
      simp only [step] at h
      split at h <;> rename_i hm <;> cases h <;> rw [hm] at hp <;> exact hp
  | probing left m =>
    cases h
    rw [pool_afterProbe]
    exact aside rfl
  | paused left m pause =>
    simp only [step, Option.ite_none_right_eq_some, Option.some.injEq] at h
    obtain ⟨-, rfl⟩ := h
    rw [pool_afterProbe]
    exact .refl
  | judging left m health =>
    cases h
    have hn : (judge env p left m health).1.now = env.now := by
      unfold judge
      dsimp only
      split <;> rfl
    have hs : (judge env p left m health).2.1 =
        p.judge m health (judge env p left m health).1.now := rfl
    rw [hs, hn]
    exact .judge health

end Checking

namespace Closing

def powers (c : Closing) : Power → Prop
  | .close => c.shuts = true
  | .take => ∃ disposed idle, c = .draining disposed idle
  | .enter | .reset | .fail _ _ | .resize | .depart | .staff | .breakOff => False

theorem changes {c : Closing} (hb : (Operation.close c).hasShut = true → p.closed = true)
    {s : Stepped Closing Unit} (h : c.step env p = some s) :
    p.Changes env.now c.powers s.2.1 := by
  cases c with
  | starting =>
    cases h
    have hG : Closing.starting.powers .close := rfl
    unfold start
    split
    · exact .refl
    · exact (Pool.Change.shut hG).changes
  | stopping idle =>
    cases h
    have hG : (Closing.stopping idle).powers .close := rfl
    exact (Pool.Change.stop hG).changes
  | joining hands idle =>
    cases hands with
    | nil =>
      cases h
      exact .refl
    | cons hand hands =>
      simp only [step, Option.ite_none_right_eq_some, Option.some.injEq] at h
      obtain ⟨-, rfl⟩ := h
      exact .refl
  | draining disposed idle =>
    cases h
    unfold drain
    split
    · rename_i t crew hc
      obtain ⟨rest, ht, rfl⟩ := Crew.collect_eq hc
      have taken : p.Changes env.now (Closing.draining disposed idle).powers _ :=
        (Pool.Change.take ⟨disposed, idle, rfl⟩ ht).changes
      exact taken.trans
        (.dispose (p := { p with crew := { p.crew with tasks := rest } }) (hb rfl) t)
    · exact .refl
  | emptying idle => cases idle <;> cases h <;> exact .refl

end Closing

/-! ## Jobs and operations -/

namespace Job

def powers : Job → Power → Prop
  | adding a => a.powers
  | returning r => r.powers
  | closing _ | maintaining => fun _ => False

theorem changes {j : Job} {s : Stepped Job Unit} (h : j.step env p = some s) :
    p.Changes env.now j.powers s.2.1 := by
  cases j with
  | adding a =>
    obtain ⟨x, ha, rfl⟩ := Option.map_eq_some_iff.1 h
    exact Adding.changes ha
  | returning r =>
    obtain ⟨x, hr, rfl⟩ := Option.map_eq_some_iff.1 h
    exact Returning.changes hr
  | closing m =>
    cases h
    exact .refl
  | maintaining =>
    cases h
    exact .maintain

end Job

namespace Operation

def powers : Operation → Power → Prop
  | acquire a => a.powers
  | release r => r.powers
  | close c => c.powers
  | misplace _ | wait _ | check _ => fun _ => False

theorem changes {o : Operation} (hb : o.hasShut = true → p.closed = true)
    {s : Stepped Operation Outcome} (h : o.step env p = some s) :
    p.Changes env.now o.powers s.2.1 := by
  cases o with
  | acquire a =>
    obtain ⟨x, ha, rfl⟩ := Option.map_eq_some_iff.1 h
    exact Acquiring.changes ha
  | release r =>
    obtain ⟨x, hr, rfl⟩ := Option.map_eq_some_iff.1 h
    exact Returning.changes hr
  | misplace m =>
    cases h
    exact .returnLater
  | wait w =>
    obtain ⟨x, hw, rfl⟩ := Option.map_eq_some_iff.1 h
    rw [Waiting.pool_step hw]
    exact .refl
  | check c =>
    obtain ⟨x, hc, rfl⟩ := Option.map_eq_some_iff.1 h
    exact Checking.changes hc
  | close c =>
    obtain ⟨x, hs, rfl⟩ := Option.map_eq_some_iff.1 h
    exact Closing.changes hb hs

/-- The member whose reset or probe is broken off when the operation is given up. -/
def interrupted? : Operation → Option Member
  | release (.paused m _) | check (.paused _ m _) => some m
  | acquire _ | release _ | misplace _ | wait _ | check _ | close _ => none

/-- To give an operation up takes no power unless a reset or a probe is broken off with that. -/
theorem changes_cancel {o : Operation} (hG : ∀ m, o.interrupted? = some m → G .breakOff) :
    p.Changes env.now G (o.cancel env p).2 := by
  cases o with
  | acquire a =>
    cases a with
    | queued ticket cutoff timeout =>
      have hn : ((Acquiring.queued ticket cutoff timeout).cancel env p).1.now = env.now := by
        unfold Acquiring.cancel
        dsimp only
        split <;> rfl
      have hs : ((Acquiring.queued ticket cutoff timeout).cancel env p).2 =
          p.abandon ticket ((Acquiring.queued ticket cutoff timeout).cancel env p).1.now := rfl
      rw [cancel, hs, hn]
      exact .abandon ticket
    | dialing o cutoff timeout => exact .vacateRoom
    | arriving | givingUp | calling | takingOver | countingFailure | vacating | failing =>
      exact .refl
  | release r =>
    cases r with
    | arriving m => exact .returnLater
    | paused m pause => exact .breakOff (hG m rfl)
    | closing _ | resetting _ | settling _ _ => exact .refl
  | misplace m => exact .returnLater
  | check c =>
    cases c with
    | paused left m pause => exact .breakOff (hG m rfl)
    | starting | counting | picking _ | probing _ _ | judging _ _ _ => exact .refl
  | wait _ | close _ => exact .refl

end Operation

/-! ## Moves -/

namespace Site

variable {s s' : Site} {mv : Move}

/-- The powers of whoever makes a move. -/
def powers (s : Site) : Move → Power → Prop
  | .step (.worker k) => fun x =>
    x = .staff ∨ (Table.get? s.jobs k = none ∧ x = .take) ∨
      ∃ j, Table.get? s.jobs k = some j ∧ j.powers x
  | .step (.closer _) => fun x => x = .depart
  | .step (.user n) => fun x => ∃ o, Table.get? s.operations n = some o ∧ o.powers x
  | .resize _ _ => fun x => x = .resize
  | .cancel n => fun x =>
    x = .breakOff ∧ ∃ o m, Table.get? s.operations n = some o ∧ o.interrupted? = some m
  | _ => fun _ => False

/-- Through what somebody who makes a move has a power. -/
inductive Wields (s : Site) : Move → Power → Prop
  | job {k : Nat} {j : Job} {x : Power} (hg : Table.get? s.jobs k = some j) (h : j.powers x) :
      Wields s (.step (.worker k)) x
  | operation {n : Nat} {o : Operation} {x : Power} (hg : Table.get? s.operations n = some o)
      (h : o.powers x) : Wields s (.step (.user n)) x
  | staff {k : Nat} : Wields s (.step (.worker k)) .staff
  | take {k : Nat} (hg : Table.get? s.jobs k = none) : Wields s (.step (.worker k)) .take
  | depart {id : Nat} : Wields s (.step (.closer id)) .depart
  | resize {lo : Nat} {hi : Option Nat} : Wields s (.resize lo hi) .resize
  | breakOff {n : Nat} {o : Operation} {m : Member} (hg : Table.get? s.operations n = some o)
      (h : o.interrupted? = some m) : Wields s (.cancel n) .breakOff

theorem wields {x : Power} (h : s.powers mv x) : s.Wields mv x := by
  cases mv with
  | step party =>
    cases party with
    | worker k =>
      rcases h with rfl | ⟨hg, rfl⟩ | ⟨j, hg, h⟩
      · exact .staff
      · exact .take hg
      · exact .job hg h
    | user n =>
      obtain ⟨o, hg, h⟩ := h
      exact .operation hg h
    | ticker j => exact h.elim
    | closer id =>
      cases h
      exact .depart
  | resize =>
    cases h
    exact .resize
  | cancel n =>
    obtain ⟨rfl, o, m, hg, hi⟩ := h
    exact .breakOff hg hi
  | acquire | wait | check | close | release | misplace | tryAcquire | giveBack | leaveBehind
  | detach | use | resetCounters | readOutcome | pass => exact h.elim

/-- **What a move does to the pool**, it does with the powers of whoever makes it. -/
theorem changes_move (ho : s.OrderlyShut) (h : s.move? env mv = some (env', s')) :
    s.pool.Changes env.now (s.powers mv) s'.pool := by
  cases moved h with
  | worked hg hs => exact (Job.changes hs).mono fun x hx => .inr (.inr ⟨_, hg, hx⟩)
  | finished hg hs =>
    have done : s.pool.Changes env.now (s.powers (.step (.worker _))) _ :=
      (Job.changes hs).mono fun x hx => .inr (.inr ⟨_, hg, hx⟩)
    exact done.step (.staff (.inl rfl) rfl rfl)
  | @sought k c hg hs =>
    obtain ⟨hst, ht⟩ := Crew.seek_cases hs
    have hG : s.powers (.step (.worker k)) .staff := .inl rfl
    exact (Pool.Change.staff hG ht.symm hst).changes
  | @took k c t hg hs =>
    obtain ⟨hst, ht⟩ := Crew.seek_cases hs
    have hG : s.powers (.step (.worker k)) .take := .inr (.inl ⟨hg, rfl⟩)
    exact (Pool.Change.take hG ht).changes.step (.staff (.inl rfl) rfl hst)
  | ticked ht =>
    obtain ⟨hw, hturn, hline⟩ := Crew.tick_frame ht
    obtain ⟨-, -, hst, hc | hc⟩ := Crew.tick_cases ht
    · refine aside ?_
      simp only [Pool.view, hw, hturn, hline, hst, hc]
    · refine (Pool.Changes.accept .maintain).trans (aside ?_)
      simp only [Pool.view, hw, hturn, hline, hst, hc]
  | @closed id m hm =>
    have hG : s.powers (.step (.closer id)) .depart := rfl
    exact (Pool.Change.depart hG List.filter_sublist).changes
  | wentOn hg hs | ended hg hs =>
    exact (Operation.changes (ho.operations _ _ hg) hs).mono fun x hx => ⟨_, hg, hx⟩
  | @cancelled n o hg hs =>
    exact Operation.changes_cancel fun m hi => ⟨rfl, o, m, hg, hi⟩
  | taken ht | untaken ht _ =>
    have hq : s.pool.Changes env.now (s.powers .tryAcquire) (s.pool.tryTake env.now).1 := .tryTake
    rw [ht] at hq
    exact hq
  | giveBack _ => exact .returnLater
  | @leaveBehind id m c hm hd =>
    rcases s.pool.crew.dispatch_cases (.restore m) with ⟨-, he⟩ | ⟨-, he⟩ <;> rw [he] at hd <;>
      cases hd
    exact .accept (.restore m)
  | abandoned _ _ => exact .drop 1
  | detach _ => exact .forget
  | resized hq => exact .resize rfl hq
  | resetCounters => exact aside rfl
  | acquire _ | wait _ | check _ | close _ | release _ _ | misplace _ _ | unheld _ _ | use
  | unsized _ | readOutcome | passed _ => exact .refl

/-- The first sessions of a pool are sent for. -/
theorem changes_fill (p : Pool) : p.Changes .origin (· = .resize) (fill p) := by
  unfold fill
  split
  · refine Pool.Changes.trans ?_ .topUp
    split
    · exact (Pool.Change.fill (G := (· = .resize)) rfl true).changes
    · exact .refl
  · exact .dispatchAdd none

end Site

end SessionPool
